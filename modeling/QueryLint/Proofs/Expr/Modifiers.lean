import QueryLint.Proofs.Expr.NodeText
import QueryLint.Proofs.Expr.Spacing
import QueryLint.Proofs.Grammar.Builders
import QueryLint.Proofs.Literal.Duration
import QueryLint.Proofs.Token.Enclosed
import QueryLint.Proofs.Token.Literals

/-! Modifiers behind a selector or subquery.

A selector, range or subquery is a primary expression with suffixes, and modifiers are further suffixes. Each
of them fills one of two slots, or is refused when its slot is filled. So behind a text that parses to such a
node, the modifiers are added to those of the node one by one: their order does not matter, and no slot is
filled twice.
-/

set_option autoImplicit false

namespace QueryLint

open Text (Span byteSize)
open ParseError (Cause)

/-! Slots. -/

/-- What one modifier says. -/
inductive Modifier where
  | offset (ms : Int)
  | instant (value : Instant)

/-- Fills the slot of a modifier, unless it is filled. -/
def Modifier.add (modifiers : Modifiers) : Modifier → Except Cause Modifiers
  | .offset ms =>
    if modifiers.offset.isSome then .error .offsetRepeated else .ok { modifiers with offset := some ms }
  | .instant value =>
    if modifiers.instant.isSome then .error .instantRepeated
    else .ok { modifiers with instant := some value }

namespace Expr

/-- A tree whose root has other modifiers. Those of a range are modifiers of its selector. -/
def withModifiers (modifiers : Modifiers) : Expr → Expr
  | .vector selector => .vector { selector with modifiers }
  | .matrix selector window span => .matrix { selector with modifiers } window span
  | .subquery body window step _ span => .subquery body window step modifiers span
  | e => e

theorem withModifiers_eq {e : Expr} {modifiers : Modifiers} (found : e.modifiers? = some modifiers) :
    e.withModifiers modifiers = e := by
  cases e <;> cases found <;> rfl

theorem withModifiers_move (φ : Text.Span.Move) (e : Expr) (modifiers : Modifiers) :
    (e.move φ).withModifiers modifiers = (e.withModifiers modifiers).move φ := by
  cases e with
  | aggregate op param body grouping span => cases param <;> rfl
  | _ => rfl

/-- Only the last modifiers stay. -/
theorem withModifiers_modify (e : Expr) (modifiers final : Modifiers) (last : Span) :
    ((e.modify modifiers last).withModifiers final).move .nowhere =
      (e.withModifiers final).move .nowhere := by
  cases e <;> rfl

end Expr

/-! Reading modifiers. -/

namespace Grammar

open QueryLint.Parser

/-- The tokens of a modifier, the last of which is named. -/
inductive ModifierClause : List Token → Token → Modifier → Prop
  | offset {word length : Token} {sign : List Token} {negative : Bool} {ms : Nat} :
      isWord "offset" word = true → Sign sign negative → IsDuration length ms →
      ModifierClause (word :: (sign ++ [length])) length (.offset (if negative then -(ms : Int) else ms))
  | instant {mark last : Token} {used : List Token} {value : Instant} :
      mark.kind = .at → InstantClause used last value → ModifierClause (mark :: used) last (.instant value)

/-- The tokens of modifiers, one behind the other. -/
inductive ModifierClauses : List Token → List Modifier → Prop
  | nil : ModifierClauses [] []
  | cons {used more : List Token} {last : Token} {modifier : Modifier} {others : List Modifier} :
      ModifierClause used last modifier → ModifierClauses more others →
      ModifierClauses (used ++ more) (modifier :: others)

theorem ModifierClauses.starts {used : List Token} {found : List Modifier}
    (clauses : ModifierClauses used found) : ∀ t ∈ used.head?, startsSuffix t = true := by
  cases clauses with
  | nil => simp
  | cons clause _ =>
    cases clause with
    | offset isOffset _ _ => simp [startsSuffix, isOffset]
    | instant isMark _ => simp [startsSuffix, isMark]

section

variable {e : Expr} {used : List Token} {last : Token} {modifier : Modifier} {modifiers final : Modifiers}

/-- A modifier whose slot is free is one more suffix. -/
theorem ModifierClause.suffix (clause : ModifierClause used last modifier)
    (found : e.modifiers? = some modifiers) (added : modifier.add modifiers = .ok final) :
    Suffix e used (e.modify final last.span) := by
  cases clause with
  | offset isOffset isSign isLength =>
    simp only [Modifier.add] at added
    split at added
    · cases added
    · next free =>
      cases added
      exact .offset isOffset isSign isLength found (by simpa using free)
  | instant isMark isInstant =>
    simp only [Modifier.add] at added
    split at added
    · cases added
    · next free =>
      cases added
      exact .pinned isMark isInstant found (by simpa using free)

/-- A modifier whose slot is filled ends the reading. -/
theorem ModifierClause.refused {cause : Cause} (clause : ModifierClause used last modifier)
    (found : e.modifiers? = some modifiers) (refused : modifier.add modifiers = .error cause) (eof : Token)
    (rest : List Token) : ∃ span, suffixes eof e (used ++ rest) = .error ⟨span, cause⟩ := by
  cases clause with
  | @offset word _ _ _ _ isOffset isSign isLength =>
    simp only [Modifier.add] at refused
    split at refused
    · next filled =>
      cases refused
      have noSign : last.kind ≠ .sub := by simp [isLength.kind]
      obtain ⟨_, taken⟩ := minus_complete isSign rest noSign
      obtain ⟨_, readLength⟩ := duration_complete isLength eof .offset rest
      refine ⟨word.span.cover last.span, ?_⟩
      rw [List.cons_append, List.append_assoc, List.singleton_append, suffixes,
        if_neg (by simp [kind_of_isWord isOffset]), if_pos isOffset, Parser.offset, taken]
      simp [readLength, found, filled, fail, bind, Except.bind]
    · cases refused
  | @instant mark _ _ _ isMark isInstant =>
    simp only [Modifier.add] at refused
    split at refused
    · next filled =>
      cases refused
      obtain ⟨_, readInstant⟩ := instant_complete isInstant eof rest
      refine ⟨mark.span.cover last.span, ?_⟩
      rw [List.cons_append, suffixes, if_neg (by simp [isMark]), if_neg (by simp [isWord, isMark]),
        if_pos isMark, pinned, readInstant]
      simp [found, filled, fail, bind, Except.bind]
    · cases refused

end

/-- Modifiers are added one by one, up to the first that is refused. -/
theorem ModifierClauses.exists_yields {used : List Token} {added : List Modifier}
    (clauses : ModifierClauses used added) {e : Expr} {modifiers : Modifiers}
    (found : e.modifiers? = some modifiers) (eof : Token) :
    ∃ built, Yields (suffixes eof e used) built [] ∧
      moved .nowhere (Expr.move .nowhere) built =
        ((added.foldlM Modifier.add modifiers).map fun final => (e.withModifiers final).move .nowhere).mapError
          fun cause => ⟨⟨0, 0⟩, cause⟩ := by
  induction clauses generalizing e modifiers with
  | nil =>
    refine ⟨.ok e, suffixes_end eof e, ?_⟩
    change Except.ok (e.move .nowhere) = .ok ((e.withModifiers modifiers).move .nowhere)
    rw [e.withModifiers_eq found]
  | @cons used more last modifier others clause _ ih =>
    rw [List.foldlM_cons]
    cases added : modifier.add modifiers with
    | error cause =>
      obtain ⟨span, failed⟩ := clause.refused found added eof more
      exact ⟨.error ⟨span, cause⟩, failed, rfl⟩
    | ok middle =>
      have changed : (e.modify middle last.span).modifiers? = some middle := e.modifiers?_modify found _ _
      obtain ⟨built, yields, result⟩ := ih changed
      refine ⟨built, suffix_complete (clause.suffix found added) eof more _ rfl yields, ?_⟩
      rw [result]
      simp only [e.withModifiers_modify]
      rfl

/-! Suffixes behind a text. -/

/-- Only a primary expression with suffixes has modifiers. -/
theorem Derives.exists_suffixes [Pattern.Engine] {e : Expr} {used : List Token} {modifiers : Modifiers}
    (derived : Derives (.expr 0 e) used none) (found : e.modifiers? = some modifiers) :
    ∃ body front more, used = front ++ more ∧ Derives (.primary body) front (ahead more none) ∧
      Suffixes none body more e := by
  cases derived with
  | expr chain _ =>
    cases chain with
    | operator _ _ _ _ _ _ built =>
      obtain ⟨rfl, -⟩ := buildBinary_ok built
      cases found
    | first operand =>
      cases operand with
      | signed _ _ built =>
        obtain ⟨_, _, _, -, rfl⟩ | ⟨rfl, -⟩ := buildUnary_ok built <;> cases found
      | suffixed primary suffixes => exact ⟨_, _, _, rfl, primary, suffixes⟩

theorem other_of_startsSuffix {t : Token} (starts : startsSuffix t = true) :
    isKind .leftParen t = false ∧ isKind .leftBrace t = false ∧ (groupingWord? t).isSome = false := by
  have isStart : t.kind = .leftBracket ∨ isWord "offset" t = true ∨ t.kind = .at := by
    simpa [startsSuffix, or_assoc] using starts
  rcases isStart with same | isOffset | same
  · simp [isKind, either?, isWord, same]
  · have same : t.kind = .identifier ∧ Text.lower t.text = "offset" := by simpa [isWord] using isOffset
    simp [isKind, either?, isWord, same]
  · simp [isKind, either?, isWord, same]

/-- The start of a suffix ends a primary expression, as the end of the text does. -/
theorem Derives.primary_before [Pattern.Engine] {e : Expr} {used : List Token} {t : Token}
    (derived : Derives (.primary e) used none) (starts : startsSuffix t = true) :
    Derives (.primary e) used (some t) := by
  obtain ⟨noParen, noBrace, noGrouping⟩ := other_of_startsSuffix starts
  cases derived with
  | number isNumber value => exact .number isNumber value
  | numberWord isWord value => exact .numberWord isWord value
  | string isString value => exact .string isString value
  | paren isOpening body isClose => exact .paren isOpening body isClose
  | braces isBraces built => exact .braces isBraces built
  | metric isMetric _ built =>
    have isMetric : IsMetric _ (some t) :=
      { isMetric with
        noCall := NotAhead.some_iff.mpr noParen
        noAggregate := fun _ => NotAhead.some_iff.mpr noGrouping }
    exact .metric isMetric (NotAhead.some_iff.mpr noBrace) built
  | metricBraces isMetric isBraces built => exact .metricBraces isMetric isBraces built
  | call isName noAggregate isOpening isFunction args isClose built =>
    exact .call isName noAggregate isOpening isFunction args isClose built
  | aggregateLeading isName isOperator isClause isOpening args isClose built =>
    exact .aggregateLeading isName isOperator isClause isOpening args isClose built
  | aggregate isName isOperator isOpening args isClose trailing built =>
    refine .aggregate isName isOperator isOpening args isClose ?_ built
    cases trailing with
    | absent _ => exact .absent (NotAhead.some_iff.mpr noGrouping)
    | present clause => exact .present clause

theorem Suffixes.yields {next : Option Token} {body e : Expr} {more rest rest' : List Token}
    {built : Except ParseError Expr} (suffixes : Suffixes next body more e) {eof : Token}
    (others : Yields (Parser.suffixes eof e rest) built rest') :
    Yields (Parser.suffixes eof body (more ++ rest)) built rest' := by
  induction suffixes with
  | nil _ => exact others
  | cons suffix _ ih => exact suffix_complete suffix eof _ _ (List.append_assoc ..) (ih others)

/-- What is read behind a text with modifiers decides about the whole. -/
theorem whole_behind [Pattern.Engine] {e : Expr} {used behind : List Token} {modifiers : Modifiers}
    {built : Except ParseError Expr} (derived : Derives (.expr 0 e) used none)
    (found : e.modifiers? = some modifiers) (starts : ∀ t ∈ behind.head?, startsSuffix t = true)
    {eof : Token} (yields : Yields (suffixes eof e behind) built []) : whole eof (used ++ behind) = built := by
  obtain ⟨body, front, more, rfl, primary, further⟩ := derived.exists_suffixes found
  have primary : Derives (.primary body) front (more ++ behind).head? := by
    cases more with
    | cons t more => exact primary
    | nil =>
      cases behind with
      | nil => exact primary
      | cons t behind => exact primary.primary_before (starts t rfl)
  obtain ⟨t, tail, rfl, -⟩ := primary.begins
  obtain ⟨noSign, readBody⟩ := primary.accepted eof t (more ++ behind) (tail ++ (more ++ behind)) rfl rfl
  rw [List.append_assoc, List.cons_append]
  refine Yields.whole_eq ?_
  have operand : Yields (Parser.operand eof (t :: (tail ++ (more ++ behind)))) built [] := by
    rw [Parser.operand, noSign]
    exact .behind readBody fun _ => (further.yields yields).bind fun _ _ => Gives.pure _
  rw [Parser.expr]
  exact operand.bind fun e left => .bind (chain_stop eof e (by simp)) fun _ => Gives.pure _

end Grammar

/-! Cutting a duration. -/

namespace Literal.Duration

open Token (Breaks Stops countWhile)

theorem unitLength_symbol (unit : TimeUnit) {rest : List Char} (ends : Stops Token.startsIdentifier rest) :
    Token.unitLength (unit.symbol ++ rest) = unit.symbol.length := by
  have before (n : Nat) : Token.unitBefore n rest = n := Token.unitBefore_of_stops ends
  have noPair : rest.head? ≠ some 's' := ends.head?_ne (by decide)
  cases unit <;> simp [TimeUnit.symbol, Token.unitLength_eq, Token.isUnitLetter, before, noPair]

/-- No letter follows a unit directly. -/
theorem stops_write (parts : List Part) {v : List Char} (breaks : Breaks v) :
    Stops Token.startsIdentifier (write parts ++ v) := by
  cases parts with
  | nil => exact breaks.stops Token.visible_startsIdentifier
  | cons part parts =>
    obtain ⟨c, digits, isDigits⟩ := List.exists_cons_of_ne_nil part.some
    have isDigit : c.isDigit = true := part.isDigit c (by simp [isDigits])
    rw [write_cons, Part.text, isDigits]
    intro a first
    cases first
    cases starts : Token.startsIdentifier c with
    | false => rfl
    | true => simp [Token.isDigit_of_starts starts] at isDigit

/-- A duration is as long as its parts, where a gap or the end of the text follows it. -/
theorem durationLength_write (parts : List Part) {v : List Char} (breaks : Breaks v) :
    Token.durationLength (write parts ++ v) = (write parts).length := by
  induction parts with
  | nil => exact Token.durationLength_eq_zero (breaks.stops Token.visible_digit)
  | cons part parts ih =>
    have digits : countWhile Char.isDigit (part.text ++ (write parts ++ v)) = part.digits.length := by
      rw [countWhile, part.takeWhile_text]
    have isText : part.text ++ (write parts ++ v) =
        part.digits ++ (part.unit.symbol ++ (write parts ++ v)) := by
      rw [Part.text, List.append_assoc]
    have ends : Stops Token.startsIdentifier (write parts ++ v) := stops_write parts breaks
    have unit : Token.unitLength ((part.text ++ (write parts ++ v)).drop part.digits.length) =
        part.unit.symbol.length := by
      rw [isText, List.drop_left, unitLength_symbol _ ends]
    rw [write_cons, List.append_assoc, Token.durationLength_eq, digits, unit, ← List.drop_drop, isText,
      List.drop_left, List.drop_left, ih]
    · simp [Part.text, Nat.add_assoc]
    · rw [digits]
      exact List.length_pos_iff.mpr part.some
    · rw [digits, unit]
      cases part.unit <;> decide

/-- What is read as a duration is cut as one. -/
theorem stands_of_read {text : String} {ms : Nat} (found : read text = .ok ms) (depth : Nat) (span : Span) :
    Token.Stands depth ⟨.duration, text, span⟩ := by
  obtain ⟨parts, some, isText, -, -⟩ := read_eq_ok_iff.mp found
  obtain ⟨part, parts, rfl⟩ := List.exists_cons_of_ne_nil some
  obtain ⟨c, digits, isDigits⟩ := List.exists_cons_of_ne_nil part.some
  have isDigit : c.isDigit = true := part.isDigit c (by simp [isDigits])
  obtain ⟨cs, isWrite⟩ : ∃ cs, write (part :: parts) = c :: cs := by
    rw [write_cons, Part.text, isDigits]
    exact ⟨_, rfl⟩
  refine ⟨c, cs, isText.trans isWrite, ?_, Token.ne_of_test isDigit rfl, fun v breaks => ?_⟩
  · exact Bool.eq_false_iff.mpr fun blank => by simp [Token.visible_digit c (.inl blank)] at isDigit
  · have size : Token.durationLength (c :: (cs ++ v)) = cs.length + 1 := by
      have whole := durationLength_write (part :: parts) breaks
      rwa [isWrite] at whole
    have kind : (Token.numeral (c :: (cs ++ v))).1 = .duration :=
      Token.numeral_duration_iff.mpr (by omega)
    have length : Token.durationLength (c :: (cs ++ v)) = (Token.numeral (c :: (cs ++ v))).2 :=
      Token.durationLength_of_numeral (Prod.ext kind rfl)
    rw [Token.shape_of_digit isDigit, kind, ← length, size, Nat.add_sub_cancel]

end Literal.Duration

/-! Texts of modifiers. -/

/-- A minus sign if there is one. -/
def signText (negative : Bool) : String :=
  if negative then "-" else ""

theorem exists_signText (negative : Bool) (offset : Nat) :
    ∃ sign, (∀ u, Token.Cuts u 0 0 offset (signText negative).toList sign) ∧ Grammar.Sign sign negative := by
  cases negative with
  | false => exact ⟨[], fun u => .done, .absent⟩
  | true =>
    have cut (u : List Char) : Token.Cuts u 0 0 offset ['-'] [Token.put .sub "-" offset] :=
      .mark (by simp) u 0 _
    exact ⟨_, cut, .minus rfl⟩

/-- A duration that can be read, with or without a sign. -/
structure SignedDuration where
  negative : Bool
  length : String
  ms : Nat
  isRead : Literal.Duration.read length = .ok ms

def SignedDuration.value (duration : SignedDuration) : Int :=
  if duration.negative then -(duration.ms : Int) else duration.ms

/-- What can stand behind `@`: one of two words, or a finite number with or without a sign. -/
inductive InstantText where
  | start
  | stop
  | number (negative : Bool) (digits : String) (value : Number.Double)
      (cut : Token.tokenize digits =
        .ok [⟨.number, digits, ⟨0, byteSize digits.toList⟩⟩, Token.eof digits])
      (isRead : Parser.numberValue? digits = some value) (finite : value.isFinite = true)

namespace InstantText

def text : InstantText → String
  | .start => "start()"
  | .stop => "end()"
  | .number negative digits _ _ _ _ => signText negative ++ digits

def value : InstantText → Instant
  | .start => .start
  | .stop => .stop
  | .number negative _ value _ _ _ => .timestamp (if negative then value.neg else value)

end InstantText

/-- A modifier as it is written. -/
inductive ModifierText where
  | offset (duration : SignedDuration)
  | instant (moment : InstantText)

namespace ModifierText

def text : ModifierText → String
  | .offset duration => "offset " ++ signText duration.negative ++ duration.length
  | .instant moment => "@ " ++ moment.text

def modifier : ModifierText → Modifier
  | .offset duration => .offset duration.value
  | .instant moment => .instant moment.value

end ModifierText

/-- A text and modifiers behind it, on a line of their own with single blanks between them. -/
def modifiedText (source : String) (written : List ModifierText) : String :=
  source ++ "\n" ++ " ".intercalate (written.map ModifierText.text)

/-- The sign does not matter for being finite. -/
theorem Number.Double.isFinite_neg (d : Number.Double) : d.neg.isFinite = d.isFinite := by
  have magnitude : d.neg.magnitude = d.magnitude := by
    have modulus : (0x8000000000000000 : Nat) = 2 ^ 63 := rfl
    rw [magnitude, magnitude, neg, UInt64.toNat_xor, modulus, Nat.xor_mod_two_pow]
    simp
  rw [isFinite, isFinite, magnitude]

/-- A name with empty parentheses behind it. -/
theorem exists_emptyCall (name : String) (starts : name.toList.head?.any Token.startsIdentifier = true)
    (continues : name.toList.all Token.continuesIdentifier = true) (offset : Nat) :
    ∃ opening close, opening.kind = .leftParen ∧ close.kind = .rightParen ∧
      ∀ u, Token.Cuts u 0 0 offset (name ++ "()").toList
        [Token.put .identifier name offset, opening, close] := by
  let start := offset + byteSize name.toList
  let opening := Token.put .leftParen "(" start
  let close := Token.put .rightParen ")" (start + byteSize ['('])
  refine ⟨opening, close, rfl, rfl, fun u => ?_⟩
  have cutName : Token.Cuts ("()".toList ++ u) 0 0 offset name.toList [Token.put .identifier name offset] :=
    .identifier starts continues (Token.stops_cons rfl _) 0 offset
  have cutOpening : Token.Cuts (')' :: u) 0 0 start ['('] [opening] := .mark (by simp) _ 0 _
  have cutClose : Token.Cuts u 0 0 _ [')'] [close] := .mark (by simp) u 0 _
  have cutParens : Token.Cuts u 0 0 start "()".toList [opening, close] := cutOpening.append cutClose
  rw [String.toList_append]
  exact cutName.append cutParens

theorem InstantText.exists_text (moment : InstantText) (offset : Nat) :
    ∃ used last, (∀ u, Token.Breaks u → Token.Cuts u 0 0 offset moment.text.toList used) ∧
      Grammar.InstantClause used last moment.value := by
  cases moment with
  | start =>
    obtain ⟨opening, close, isOpening, isClose, cut⟩ :=
      exists_emptyCall "start" (by decide) (by decide) offset
    exact ⟨_, close, fun u _ => cut u, .word (by cbv) isOpening isClose⟩
  | stop =>
    obtain ⟨opening, close, isOpening, isClose, cut⟩ :=
      exists_emptyCall "end" (by decide) (by decide) offset
    exact ⟨_, close, fun u _ => cut u, .word (by cbv) isOpening isClose⟩
  | number negative digits value cut isRead finite =>
    obtain ⟨sign, cutSign, isSign⟩ := exists_signText negative offset
    have stands : Token.Stands 0 ⟨.number, digits, ⟨0, byteSize digits.toList⟩⟩ :=
      (Token.allStand_of_scan (Token.items_of_tokenize cut : Token.items digits = [_].map .token)).1
    let t := Token.put .number digits (offset + byteSize (signText negative).toList)
    have isNumber : Parser.number t = .ok value := by simp [Parser.number, t, Token.put, isRead]
    refine ⟨sign ++ [t], t, fun u breaks => ?_, .timestamp isSign rfl isNumber ?_⟩
    · have cutDigits : Token.Cuts u 0 0 _ digits.toList [t] := Token.Cuts.of_stands stands breaks _
      rw [text, String.toList_append]
      exact (cutSign _).append cutDigits
    · cases negative with
      | false => exact finite
      | true => exact (value.isFinite_neg).trans finite

theorem ModifierText.exists_text (written : ModifierText) (offset : Nat) :
    ∃ used last, (∀ u, Token.Breaks u → Token.Cuts u 0 0 offset written.text.toList used) ∧
      Grammar.ModifierClause used last written.modifier := by
  cases written with
  | offset duration =>
    let word := Token.put .identifier "offset" offset
    let start := offset + byteSize ("offset".toList ++ [' '])
    obtain ⟨sign, cutSign, isSign⟩ := exists_signText duration.negative start
    let last := Token.put .duration duration.length (start + byteSize (signText duration.negative).toList)
    have isOffset : Parser.isWord "offset" word = true := by cbv
    have isLength : Grammar.IsDuration last duration.ms := ⟨rfl, duration.isRead⟩
    refine ⟨word :: (sign ++ [last]), last, fun u breaks => ?_, .offset isOffset isSign isLength⟩
    have cutWord (v : List Char) : Token.Cuts v 0 0 offset ("offset".toList ++ [' ']) [word] := by
      have cutName : Token.Cuts ([' '] ++ v) 0 0 offset "offset".toList [word] :=
        .identifier (by decide) (by decide) (Token.stops_cons rfl v) 0 offset
      exact cutName.append (Token.cuts_space v 0 _)
    -- A length has no sign of its own; it is cut apart from the one in front.
    have cutLength : Token.Cuts u 0 0 _ duration.length.toList [last] :=
      Token.Cuts.of_stands (Literal.Duration.stands_of_read duration.isRead 0 ⟨0, 0⟩) breaks _
    have isText : (text (.offset duration)).toList = ("offset".toList ++ [' ']) ++
        ((signText duration.negative).toList ++ duration.length.toList) := by
      simp [text]
    rw [isText]
    exact (cutWord _).append ((cutSign _).append cutLength)
  | instant moment =>
    let start := offset + byteSize "@ ".toList
    obtain ⟨used, last, cutMoment, isMoment⟩ := moment.exists_text start
    refine ⟨Token.put .at "@" offset :: used, last, fun u breaks => ?_, .instant rfl isMoment⟩
    have cutMark (v : List Char) : Token.Cuts v 0 0 offset ['@'] [Token.put .at "@" offset] :=
      .mark (by simp) v 0 _
    have cut := (cutMark _).append ((Token.cuts_space _ _ _).append (cutMoment u breaks))
    simpa [text] using cut

theorem ModifierText.exists_texts (written : List ModifierText) (offset : Nat) :
    ∃ used, Token.Cuts [] 0 0 offset (" ".intercalate (written.map ModifierText.text)).toList used ∧
      Grammar.ModifierClauses used (written.map ModifierText.modifier) := by
  induction written generalizing offset with
  | nil => exact ⟨[], .done, .nil⟩
  | cons first rest ih =>
    obtain ⟨used, last, cutFirst, isFirst⟩ := first.exists_text offset
    cases rest with
    | nil =>
      refine ⟨used, ?_, ?_⟩
      · simpa using cutFirst [] (by simp [Token.Breaks])
      · have clauses : Grammar.ModifierClauses (used ++ []) [first.modifier] := .cons isFirst .nil
        rwa [List.append_nil] at clauses
    | cons second rest =>
      obtain ⟨more, cutMore, isMore⟩ := ih (offset + byteSize first.text.toList + byteSize [' '])
      refine ⟨used ++ more, ?_, .cons isFirst isMore⟩
      -- The blank between two modifiers ends a length or a number.
      have breaks (v : List Char) : Token.Breaks (' ' :: v) := by simp [Token.Breaks, Token.isSpace]
      have cut := (cutFirst _ (breaks _)).append ((Token.cuts_space _ _ _).append cutMore)
      simpa [String.toList_intercalate] using cut

section

variable [Pattern.Engine]

/-- The modifiers behind a text are added to those of its root, or the first whose slot is filled is the
error. -/
theorem Expr.withoutPlaces_modifiedText {source : String} {e : Expr} {modifiers : Modifiers}
    (parsed : Expr.parse source = .ok e) (found : e.modifiers? = some modifiers)
    (written : List ModifierText) :
    withoutPlaces (Expr.parse (modifiedText source written)) =
      (((written.map ModifierText.modifier).foldlM Modifier.add modifiers).map
        fun final => (e.withModifiers final).move .nowhere).mapError fun cause => [cause.message] := by
  obtain ⟨tokens, clean, derived⟩ := Grammar.parse_sound parsed
  obtain ⟨used, cutUsed, clauses⟩ :=
    ModifierText.exists_texts written (0 + byteSize (source.toList ++ ['\n']))
  have cutLine := Token.cuts_line clean ((" ".intercalate (written.map ModifierText.text)).toList ++ []) 0
  rw [derived.balanced 0] at cutLine
  have items : Token.items (modifiedText source written) =
      (tokens.map (Token.move (.right 0)) ++ used).map .token := by
    have cut := cutLine.append cutUsed
    exact Token.Cuts.items_eq (by simpa [modifiedText] using cut)
  have found : (e.move (.right 0)).modifiers? = some modifiers := by rw [move_modifiers?, found]
  obtain ⟨built, yields, result⟩ := clauses.exists_yields found (Token.eof (modifiedText source written))
  have read := Grammar.whole_behind (derived.move (.right 0)) found clauses.starts yields
  rw [Grammar.parse_of_whole items read, withoutPlaces_mapError, result]
  simp only [withModifiers_move, move_nowhere]
  cases (written.map ModifierText.modifier).foldlM Modifier.add modifiers <;> rfl

/-- A text whose root has neither modifier takes an offset and an instant in any order. They fill its two
slots, and then no further modifier is taken. -/
theorem Expr.parse_modifiedText {source : String} {e : Expr} (parsed : Expr.parse source = .ok e)
    (unset : e.modifiers? = some {}) (duration : SignedDuration) (moment : InstantText) :
    ∀ written ∈ [[ModifierText.offset duration, .instant moment], [.instant moment, .offset duration]],
      (∃ e', Expr.parse (modifiedText source written) = .ok e' ∧
        e'.move .nowhere =
          (e.withModifiers ⟨some duration.value, some moment.value⟩).move .nowhere) ∧
      ∀ further, ∃ errors, Expr.parse (modifiedText source (written ++ [further])) = .error errors := by
  intro written member
  have filled : (written.map ModifierText.modifier).foldlM Modifier.add {} =
      .ok ⟨some duration.value, some moment.value⟩ := by
    simp only [List.mem_cons, List.not_mem_nil, or_false] at member
    rcases member with rfl | rfl <;> rfl
  constructor
  · have answer := withoutPlaces_modifiedText parsed unset written
    -- In either order both slots are filled in the end.
    rw [filled] at answer
    cases reads : Expr.parse (modifiedText source written) with
    | error errors =>
      rw [reads] at answer
      cases answer
    | ok e' =>
      rw [reads] at answer
      exact ⟨e', rfl, Except.ok.inj answer⟩
  · intro further
    have answer := withoutPlaces_modifiedText parsed unset (written ++ [further])
    rw [List.map_append, List.foldlM_append, filled] at answer
    -- Whatever comes third finds its slot filled.
    cases reads : Expr.parse (modifiedText source (written ++ [further])) with
    | error errors => exact ⟨errors, rfl⟩
    | ok e' =>
      rw [reads] at answer
      cases further <;> cases answer

end

theorem Expr.parse_modifiedText_range :
    let _ := Pattern.Engine.ofAnswers []
    ∃ e duration moment, Expr.parse "up[5m] # five" = .ok e ∧ e.modifiers? = some {} ∧
      modifiedText "up[5m] # five" [.offset duration, .instant moment] =
        "up[5m] # five\noffset -1h30m @ -2.5" ∧
      ∀ written ∈ [[ModifierText.offset duration, .instant moment], [.instant moment, .offset duration]],
        (∃ e', Expr.parse (modifiedText "up[5m] # five" written) = .ok e' ∧
          e'.move .nowhere =
            (e.withModifiers ⟨some duration.value, some moment.value⟩).move .nowhere) ∧
        ∀ further, ∃ errors,
          Expr.parse (modifiedText "up[5m] # five" (written ++ [further])) = .error errors := by
  intro _
  have answer : (Expr.parse "up[5m] # five").toOption.bind modifiers? = some {} := by cbv
  obtain ⟨e, read, unset⟩ := Option.bind_eq_some_iff.mp answer
  have parsed := Grammar.toOption_eq_some.mp read
  let duration : SignedDuration := ⟨true, "1h30m", 5400000, by cbv⟩
  let moment : InstantText :=
    .number true "2.5" ⟨0x4004000000000000⟩ (by cbv) (by decide +kernel) (by decide +kernel)
  exact ⟨e, duration, moment, parsed, unset, by cbv, parse_modifiedText parsed unset duration moment⟩

end QueryLint

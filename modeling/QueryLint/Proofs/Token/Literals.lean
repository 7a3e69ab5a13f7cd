import Mathlib
import QueryLint.Expr.Parser
import QueryLint.Proofs.Literal.Quoted
import QueryLint.Proofs.Token.Spacing
import QueryLint.Proofs.Token.Tiling

/-! Literals are cut as they are read.

The scanner decides how long a literal is, and a reader of its own gives the value. What the scanner takes
for a duration, a number or a string has the form that its reader expects, so all that a reader can still
refuse is a value that is out of range and an escape that has no meaning.
-/

set_option autoImplicit false

namespace QueryLint.Token

open Literal Number

/-! How the scanner tells names and literals. -/

/-- Names and literals. -/
def Kind.isLong (kind : Kind) : Bool :=
  [.identifier, .number, .duration, .string].contains kind

theorem isLong_symbol {depth n : Nat} {c : Char} {rest : List Char} {kind : Kind}
    (symbol : c ∈ punctuation ++ comparators) (cut : shape depth c rest = (.token kind, n)) :
    kind.isLong = false := by
  simp only [punctuation, comparators, List.cons_append, List.nil_append, List.mem_cons,
    List.not_mem_nil, or_false] at symbol
  rcases symbol with rfl | rfl | rfl | rfl | rfl | rfl | rfl | rfl | rfl | rfl | rfl | rfl | rfl | rfl |
    rfl | rfl | rfl | rfl
  all_goals
    simp only [shape, pair] at cut
    repeat' split at cut
    all_goals cases cut <;> rfl

/-- Whether a name starts with the character: inside brackets a colon never starts one. -/
def StartsName (depth : Nat) (c : Char) (rest : List Char) : Prop :=
  startsIdentifier c = true ∨ c = ':' ∧ depth = 0 ∧ rest.head?.any startsIdentifier = true

def StartsNumeral (c : Char) (rest : List Char) : Prop :=
  c.isDigit = true ∨ c = '.' ∧ rest.head?.any Char.isDigit = true

theorem numeral_kind (cs : List Char) : (numeral cs).1 = .number ∨ (numeral cs).1 = .duration := by
  simp only [numeral]
  split
  · exact .inl rfl
  · split
    · exact .inr rfl
    · exact .inl rfl

/-- A name or literal is a string, a numeral or a name, and which of them its first characters tell. -/
theorem shape_long {depth n : Nat} {c : Char} {rest : List Char} {kind : Kind}
    (long : kind.isLong = true) (cut : shape depth c rest = (.token kind, n)) :
    (kind = .string ∧ Quoted.IsQuote c ∧ stringLength c rest = (true, n)) ∨
      ((kind = .number ∨ kind = .duration) ∧ StartsNumeral c rest ∧ numeral (c :: rest) = (kind, n + 1)) ∨
      (kind = .identifier ∧ StartsName depth c rest ∧ n = countWhile continuesIdentifier rest) := by
  have other : c ∉ punctuation ++ comparators := by
    intro symbol
    rw [isLong_symbol symbol cut] at long
    cases long
  rw [shape_eq_otherShape other, otherShape] at cut
  split at cut
  · cases cut
    cases long
  · next noColon =>
    split at cut
    · next isQuote =>
      obtain ⟨isKind, size⟩ := Prod.mk.inj cut
      split at isKind
      · next closed =>
        cases isKind
        exact .inl ⟨rfl, by simpa [Quoted.IsQuote, or_assoc] using isQuote, Prod.ext closed size⟩
      · cases isKind
    · split at cut
      · next starts =>
        -- A numeral: the first character is counted apart from the others.
        have starts : StartsNumeral c rest := by simpa [StartsNumeral] using starts
        have cut : (Shape.token (numeral (c :: rest)).1, (numeral (c :: rest)).2 - 1) = (.token kind, n) := cut
        have positive : 0 < (numeral (c :: rest)).2 := numeral_pos (starts.imp_right And.left)
        obtain ⟨isKind, size⟩ := Prod.mk.inj cut
        have size : (numeral (c :: rest)).2 = n + 1 := by omega
        have isKind : (numeral (c :: rest)).1 = kind := Shape.token.inj isKind
        exact .inr (.inl ⟨isKind ▸ numeral_kind (c :: rest), starts, Prod.ext isKind size⟩)
      · split at cut
        · next isName =>
          obtain ⟨isKind, size⟩ := Prod.mk.inj cut
          refine .inr (.inr ⟨(Shape.token.inj isKind).symm, ?_, size.symm⟩)
          -- A colon begins a name outside of brackets only.
          by_cases isColon : c = ':'
          · right
            simpa [isColon] using noColon
          · left
            simpa [isColon] using isName
        · cases cut

/-- What starts a name is cut as one, as far as it goes. -/
theorem shape_name {depth : Nat} {c : Char} {rest : List Char} (name : StartsName depth c rest) :
    shape depth c rest = (.token .identifier, countWhile continuesIdentifier rest) := by
  rcases name with starts | ⟨rfl, rfl, starts⟩
  · exact shape_of_starts starts depth rest
  · simp [shape, starts]

/-- A text that is cut as one name is one in front of all that does not continue it. -/
theorem Cuts.name {label : String}
    (isLabel : tokenize label = .ok [⟨.identifier, label, ⟨0, Text.byteSize label.toList⟩⟩, eof label])
    {u x : List Char} {final offset : Nat} {tokens : List Token} (ends : Stops continuesIdentifier (x ++ u))
    (later : Cuts u final 0 (offset + Text.byteSize label.toList) x tokens) :
    Cuts u final 0 offset (label.toList ++ x)
      (⟨.identifier, label, ⟨offset, offset + Text.byteSize label.toList⟩⟩ :: tokens) := by
  have stand : AllStand 0 [⟨.identifier, label, ⟨0, Text.byteSize label.toList⟩⟩] :=
    allStand_of_scan (items_of_tokenize isLabel)
  obtain ⟨c, text, isText, notBlank, notHash, alone⟩ := stand.1
  have alone := alone [] (by simp [Breaks])
  rw [List.append_nil] at alone
  refine .first isText notBlank notHash ?_ later
  rcases shape_long rfl alone with ⟨isString, -⟩ | ⟨isNumeral, -⟩ | ⟨-, name, size⟩
  · cases isString
  · simp at isNumeral
  · have continues := all_of_countWhile size.symm
    -- A colon starts a name only if a letter follows, and that letter is in the text itself.
    have name : StartsName 0 c (text ++ (x ++ u)) := by
      refine name.imp_right (And.imp_right (And.imp_right fun starts => ?_))
      cases text with
      | nil => cases starts
      | cons d text => exact starts
    rw [shape_name name, countWhile_of_stops continues ends]

theorem drop_countWhile (test : Char → Bool) (cs : List Char) :
    cs.drop (countWhile test cs) = cs.dropWhile test := by
  have split := List.takeWhile_append_dropWhile (p := test) (l := cs)
  calc cs.drop (countWhile test cs)
      = (cs.takeWhile test ++ cs.dropWhile test).drop (cs.takeWhile test).length := by
        rw [split]
        rfl
    _ = cs.dropWhile test := List.drop_left

/-! Durations. -/

theorem durationLength_of_numeral {cs : List Char} {n : Nat} (cut : numeral cs = (.duration, n)) :
    durationLength cs = n := by
  simp only [numeral] at cut
  split at cut
  · cases cut
  · split at cut
    · exact (Prod.mk.inj cut).2
    · cases cut

/-- What the scanner takes for a unit is one. -/
theorem unit?_of_unitLength {cs : List Char} (found : 0 < unitLength cs) :
    ∃ factor, Duration.unit? cs = some (factor, cs.drop (unitLength cs)) := by
  have before {n : Nat} {rest : List Char} (found : 0 < unitBefore n rest) : unitBefore n rest = n :=
    (stops_of_unitBefore found).2
  unfold unitLength at found ⊢
  split at found
  case h_3 rest noPair =>
    rw [before found]
    refine ⟨60000, ?_⟩
    simp [Duration.unit?]
  case h_8 => cases found
  all_goals
    rw [before found]
    exact ⟨_, rfl⟩

/-- A text that is cut as a duration to its end starts with digits and a unit, and what follows them is
cut as a duration to its end. -/
theorem duration_part {cs : List Char} (whole : durationLength cs = cs.length) (some : cs ≠ []) :
    cs.takeWhile Char.isDigit ≠ [] ∧ ∃ factor rest,
      Duration.unit? (cs.dropWhile Char.isDigit) = .some (factor, rest) ∧
      durationLength rest = rest.length := by
  obtain ⟨digits, unit⟩ := durationLength_pos_iff.mp (whole ▸ List.length_pos_iff.mpr some)
  obtain ⟨factor, isUnit⟩ := unit?_of_unitLength unit
  rw [durationLength_eq digits unit] at whole
  rw [← drop_countWhile]
  refine ⟨List.length_pos_iff.mp digits, factor, _, isUnit, ?_⟩
  rw [List.drop_drop, List.length_drop]
  omega

/-- A text that is cut as a duration to its end is read, unless it is out of range. -/
theorem sum_error {text : String} {total : Nat} {cs : List Char} {e : Literal.DurationError}
    (whole : durationLength cs = cs.length) (failed : Duration.sum text total cs = .error e) :
    e = .outOfRange text := by
  fun_induction Duration.sum text total cs with
  | case1 => cases failed
  | case2 total cs some digits noDigits =>
    have part := duration_part whole (by simpa using some)
    exact absurd (List.isEmpty_iff.mp noDigits) part.1
  | case3 | case5 =>
    cases failed
    rfl
  | case4 total cs some digits _ value _ noUnit =>
    obtain ⟨-, factor, rest, isUnit, -⟩ := duration_part whole (by simpa using some)
    rw [noUnit] at isUnit
    cases isUnit
  | case6 total cs some digits _ value _ factor rest isUnit _ ih =>
    obtain ⟨-, _, _, isUnit', whole⟩ := duration_part whole (by simpa using some)
    cases isUnit.symm.trans isUnit'
    exact ih whole failed

/-! Numbers. -/

/-- An exponent is read from the digits behind its sign. -/
theorem exponent?_eq {c : Char} (mark : c = 'e' ∨ c = 'E') (rest : List Char) :
    ∃ value : Int, Decimal.exponent? (c :: rest) =
      if (rest.drop (signLength rest)).isEmpty || !(rest.drop (signLength rest)).all Char.isDigit then none
      else some value := by
  have marked : (c = 'e' || c = 'E') = true := by simpa using mark
  unfold Decimal.exponent?
  dsimp only
  rw [if_pos marked]
  split
  · exact ⟨_, rfl⟩
  · exact ⟨_, rfl⟩
  · next noMinus noPlus =>
    have noSign : signLength rest = 0 := by
      unfold signLength
      split
      · exact (noPlus _ rfl).elim
      · exact (noMinus _ rfl).elim
      · rfl
    rw [noSign, List.drop_zero]
    exact ⟨_, rfl⟩

/-- What the scanner takes for an exponent is one. -/
theorem exponent?_isSome {cs : List Char} (whole : exponentLength cs = cs.length) :
    (Decimal.exponent? cs).isSome = true := by
  cases cs with
  | nil => rfl
  | cons c rest =>
    have found : 0 < exponentLength (c :: rest) := by
      rw [whole]
      exact Nat.succ_pos _
    obtain ⟨size, mark, digits⟩ := exponentLength_eq_of_pos found
    rw [whole, List.length_cons] at size
    obtain ⟨value, isRead⟩ := exponent?_eq mark rest
    generalize split : rest.drop (signLength rest) = ds at *
    have all : ∀ d ∈ ds, d.isDigit = true := by
      apply all_of_countWhile
      rw [← split, List.length_drop, split]
      omega
    have noFault : (ds.isEmpty || !ds.all Char.isDigit) = false := by
      cases ds with
      | nil => cases digits
      | cons d ds => simpa using all
    rw [isRead, noFault]
    rfl

/-- The digits behind a point in front, and what follows them. -/
def fractionParts : List Char → List Char × List Char
  | '.' :: more => (more.takeWhile Char.isDigit, more.dropWhile Char.isDigit)
  | more => ([], more)

theorem drop_fractionLength (cs : List Char) : cs.drop (fractionLength cs) = (fractionParts cs).2 := by
  unfold fractionParts
  split
  · next more => rw [fractionLength, Nat.add_comm, List.drop_succ_cons, drop_countWhile]
  · next noPoint =>
    cases cs with
    | nil => rfl
    | cons c rest =>
      have other : c ≠ '.' := by
        rintro rfl
        exact noPoint rest rfl
      rw [fractionLength_eq, if_neg other, List.drop_zero]

/-- A text that is cut as a decimal number to its end is read. -/
theorem decimal_isSome {c : Char} {text : List Char} (starts : StartsNumeral c text)
    (whole : decimalLength (c :: text) = (c :: text).length) :
    (Decimal.read? (c :: text)).isSome = true := by
  have isExponent : (Decimal.exponent? (fractionParts ((c :: text).dropWhile Char.isDigit)).2).isSome = true := by
    apply exponent?_isSome
    rw [← drop_fractionLength, ← drop_countWhile, List.drop_drop, List.length_drop]
    simp only [decimalLength] at whole
    omega
  have digits : (((c :: text).takeWhile Char.isDigit).isEmpty &&
      (fractionParts ((c :: text).dropWhile Char.isDigit)).1.isEmpty) = false := by
    rcases starts with digit | ⟨rfl, digit⟩
    · simp [digit]
    · cases text with
      | nil => cases digit
      | cons d text =>
        have digit : d.isDigit = true := digit
        simp [fractionParts, digit]
  have isRead : Decimal.read? (c :: text) = if (((c :: text).takeWhile Char.isDigit).isEmpty &&
      (fractionParts ((c :: text).dropWhile Char.isDigit)).1.isEmpty) = true then none else _ := rfl
  rw [isRead, digits, if_neg Bool.false_ne_true, Option.isSome_map]
  exact isExponent

theorem hexDigit?_isSome {c : Char} (digit : isHexDigit c = true) : (Quoted.hexDigit? c).isSome = true := by
  have cases : ('0' ≤ c ∧ c ≤ '9') ∨ ('a' ≤ c ∧ c ≤ 'f') ∨ ('A' ≤ c ∧ c ≤ 'F') := by
    simpa [isHexDigit, Char.isDigit, Char.le_def, or_assoc] using digit
  unfold Quoted.hexDigit?
  rcases cases with digit | lower | upper
  · simp [digit]
  · by_cases digit : '0' ≤ c ∧ c ≤ '9' <;> simp [digit, lower]
  · by_cases digit : '0' ≤ c ∧ c ≤ '9' <;> by_cases lower : 'a' ≤ c ∧ c ≤ 'f' <;> simp [digit, lower, upper]

/-- A hexadecimal number that is not below two to the power 63. -/
def TooLarge (cs : List Char) : Prop :=
  ∃ mark digits n, (mark = 'x' ∨ mark = 'X') ∧ cs = '0' :: mark :: digits ∧
    Quoted.hexValue? digits = some n ∧ 0x8000000000000000 ≤ n

theorem hexDigits?_eq {mark : Char} (isMark : mark = 'x' ∨ mark = 'X') (digits : List Char) :
    Parser.hexDigits? ('0' :: mark :: digits) = some digits := by
  rcases isMark with rfl | rfl <;> rfl

/-- A text that is cut as a hexadecimal number to its end is read, unless it is too large. -/
theorem hex_isSome_iff {text : String} (found : 0 < hexLength text.toList)
    (whole : hexLength text.toList = text.toList.length) :
    (Parser.numberValue? text).isSome = true ↔ ¬TooLarge text.toList := by
  unfold Parser.numberValue?
  generalize text.toList = cs at *
  match cs with
  | [] => cases found
  | [_] => simp [hexLength] at found
  | c :: x :: digits =>
    rw [hexLength_eq] at found whole
    split at found
    · next isHex =>
      obtain ⟨rfl, mark, some⟩ := isHex
      rw [if_pos ⟨rfl, mark, some⟩, List.length_cons, List.length_cons] at whole
      have all : ∀ d ∈ digits, isHexDigit d = true := all_of_countWhile (by omega)
      obtain ⟨n, isValue⟩ := Option.isSome_iff_exists.mp
        (Quoted.hexValue?_isSome_iff.mpr fun d member => hexDigit?_isSome (all d member))
      have tooLarge : TooLarge ('0' :: x :: digits) ↔ 0x8000000000000000 ≤ n := by
        constructor
        · rintro ⟨_, _, m, -, same, isValue', large⟩
          cases same
          cases isValue.symm.trans isValue'
          exact large
        · exact fun large => ⟨x, digits, n, mark, rfl, isValue, large⟩
      rw [hexDigits?_eq mark, tooLarge]
      cases digits with
      | nil => exact absurd some (by decide)
      | cons d digits => simp [isValue]
    · cases found

/-- What is cut as a decimal number is not hexadecimal. -/
theorem hexDigits?_decimal {cs : List Char} (whole : decimalLength cs = cs.length) :
    Parser.hexDigits? cs = none := by
  have noMark {mark : Char} {digits : List Char} (isMark : mark = 'x' ∨ mark = 'X')
      (whole : decimalLength ('0' :: mark :: digits) = ('0' :: mark :: digits).length) : False := by
    have one : countWhile Char.isDigit ('0' :: mark :: digits) = 1 := by
      rcases isMark with rfl | rfl <;> rfl
    have noPoint : fractionLength (mark :: digits) = 0 := by rcases isMark with rfl | rfl <;> rfl
    have noExponent : exponentLength (mark :: digits) = 0 := by rcases isMark with rfl | rfl <;> rfl
    simp [decimalLength, one, noPoint, noExponent] at whole
  unfold Parser.hexDigits?
  split
  · exact (noMark (.inl rfl) whole).elim
  · exact (noMark (.inr rfl) whole).elim
  · rfl

/-- A text that is cut as a number to its end is read, unless it is hexadecimal and too large. -/
theorem number_isSome_iff {text : String} {c : Char} {rest : List Char} (split : text.toList = c :: rest)
    (starts : StartsNumeral c rest) (whole : numeral text.toList = (.number, text.toList.length)) :
    (Parser.numberValue? text).isSome = true ↔ ¬TooLarge text.toList := by
  simp only [numeral] at whole
  split at whole
  · next isHex => exact hex_isSome_iff isHex (Prod.mk.inj whole).2
  · split at whole
    · cases whole
    · have whole := (Prod.mk.inj whole).2
      have noHex := hexDigits?_decimal whole
      have notLarge : ¬TooLarge text.toList := by
        rintro ⟨mark, digits, n, isMark, same, -⟩
        rw [same, hexDigits?_eq isMark] at noHex
        cases noHex
      unfold Parser.numberValue?
      rw [noHex, iff_true_right notLarge]
      rw [split] at whole ⊢
      exact decimal_isSome starts whole

/-! Strings. -/

/-- What the scanner takes for a string is a body and the quote. -/
theorem body_of_closed {quote : Char} {t : List Char} (w : List Char)
    (closed : stringLength quote (w ++ t) = (true, w.length)) :
    ∃ body, Quoted.Body quote body ∧ w = body ++ [quote] := by
  -- A guarded pair takes two characters at once, so the recursion is on the length.
  match w with
  | [] => exact absurd (stringLength_pos closed) (Nat.lt_irrefl 0)
  | c :: w =>
    rw [List.cons_append, stringLength_eq_true] at closed
    split at closed
    · next guarded =>
      obtain ⟨rfl, escapes⟩ : c = '\\' ∧ quote ≠ '\x60' := by simpa using guarded
      obtain ⟨d, more, k, split, inner, size⟩ := closed
      cases w with
      | nil =>
        rw [List.length_singleton] at size
        omega
      | cons d' w =>
        obtain ⟨rfl, rfl⟩ := List.cons.inj split
        simp only [List.length_cons, Nat.add_right_cancel_iff] at size
        obtain ⟨body, isBody, rfl⟩ := body_of_closed w (size ▸ inner)
        exact ⟨'\\' :: d' :: body, .guarded escapes isBody, rfl⟩
    · next plain =>
      obtain ⟨sameLine, closed⟩ := closed
      split at closed
      · next isQuote =>
        obtain rfl : w = [] := by simpa using closed
        exact ⟨[], .nil, by rw [isQuote]; rfl⟩
      · next notQuote =>
        obtain ⟨k, inner, size⟩ := closed
        rw [List.length_cons, Nat.add_right_cancel_iff] at size
        obtain ⟨body, isBody, rfl⟩ := body_of_closed w (size ▸ inner)
        refine ⟨c :: body, .plain notQuote (fun escapes => ⟨?_, ?_⟩) isBody, rfl⟩
        · simpa [escapes] using plain
        · simpa [escapes] using sameLine
  termination_by w.length

/-- A body with a quote behind it is taken for a string. -/
theorem closed_of_body {quote : Char} {body : List Char} (isQuote : Quoted.IsQuote quote)
    (isBody : Quoted.Body quote body) (t : List Char) :
    stringLength quote (body ++ quote :: t) = (true, body.length + 1) := by
  induction isBody with
  | nil =>
    have noBackslash : quote ≠ '\\' := isQuote.ne (by decide)
    have noNewline : quote ≠ '\n' := isQuote.ne (by decide)
    rw [List.nil_append, stringLength_eq_true]
    simp [noBackslash, noNewline]
  | @plain c rest notQuote allowed _ ih =>
    have plain : ¬(c = '\\' && quote != '\x60') = true := by
      simpa using fun same escapes => (allowed escapes).1 same
    have sameLine : ¬(c = '\n' && quote != '\x60') = true := by
      simpa using fun same escapes => (allowed escapes).2 same
    rw [List.cons_append, stringLength_eq_true, if_neg plain, if_neg notQuote]
    exact ⟨sameLine, _, ih, rfl⟩
  | @guarded c rest escapes _ ih =>
    rw [List.cons_append, List.cons_append, stringLength_eq_true, if_pos (by simpa using escapes)]
    exact ⟨c, _, _, rfl, ih, rfl⟩

/-! Tokens. -/

/-- A number or duration of a text is cut as one when it stands alone. -/
theorem numeral_of_mem {source : String} {t : Token} (member : .token t ∈ items source)
    (isNumeral : t.kind = .number ∨ t.kind = .duration) :
    ∃ c text, t.text.toList = c :: text ∧ StartsNumeral c text ∧
      numeral (c :: text) = (t.kind, (c :: text).length) := by
  obtain ⟨depth, c, text, rest, isText, cut⟩ := exists_shape member
  have long : t.kind.isLong = true := by rcases isNumeral with isKind | isKind <;> rw [isKind] <;> rfl
  refine ⟨c, text, isText, ?_⟩
  rcases shape_long long cut with ⟨isString, -⟩ | ⟨-, starts, whole⟩ | ⟨isName, -⟩
  · rw [isString] at isNumeral
    simp at isNumeral
  · have alike : Alike rest [] := Breaks.alike (by simp [Breaks]) rest
    have alone := alike.numeral_eq (w := c :: text) whole (List.cons_ne_nil c text)
    rw [List.append_nil] at alone
    refine ⟨starts.imp_right ?_, alone⟩
    -- The digit behind a point belongs to the token.
    rintro ⟨rfl, digit⟩
    cases text with
    | nil =>
      have longer := one_lt_numeral_point digit
      rw [whole] at longer
      exact absurd longer (Nat.lt_irrefl 1)
    | cons d text => exact ⟨rfl, digit⟩
  · rw [isName] at isNumeral
    simp at isNumeral

/-- A string of a text is a body between two quotes. -/
theorem string_of_mem {source : String} {t : Token} (member : .token t ∈ items source)
    (isString : t.kind = .string) :
    ∃ quote body, Quoted.IsQuote quote ∧ Quoted.Body quote body ∧
      t.text = String.ofList (quote :: (body ++ [quote])) := by
  obtain ⟨depth, c, text, rest, isText, cut⟩ := exists_shape member
  have long : t.kind.isLong = true := by rw [isString]; rfl
  rw [isString] at cut long
  rcases shape_long long cut with ⟨-, isQuote, closed⟩ | ⟨isNumeral, -⟩ | ⟨isName, -⟩
  · obtain ⟨body, isBody, rfl⟩ := body_of_closed text closed
    exact ⟨c, body, isQuote, isBody, by rw [← isText, String.ofList_toList]⟩
  · simp at isNumeral
  · cases isName

/-- The readers of literals agree with the scanner. A duration that it cuts out is read, or is out of range;
a number is read, unless it is hexadecimal and not below two to the power 63; and a string is read, unless
an escape in it has no meaning. -/
theorem literals_read {source : String} {t : Token} (member : .token t ∈ items source) :
    (t.kind = .duration → ∀ e, Duration.read t.text = .error e → e = .outOfRange t.text) ∧
      (t.kind = .number → ((∃ value, Parser.number t = .ok value) ↔ ¬TooLarge t.text.toList)) ∧
      (t.kind = .string → ∀ e, Quoted.read t.text = .error e →
        (∃ c, e = .unknownEscape c) ∨ ∃ digits, e = .badCode digits) := by
  refine ⟨fun isDuration e failed => ?_, fun isNumber => ?_, fun isString e failed => ?_⟩
  · obtain ⟨c, text, isText, -, whole⟩ := numeral_of_mem member (.inr isDuration)
    rw [isDuration] at whole
    unfold Duration.read at failed
    rw [isText, if_neg (by simp)] at failed
    exact sum_error (durationLength_of_numeral whole) failed
  · obtain ⟨c, text, isText, starts, whole⟩ := numeral_of_mem member (.inl isNumber)
    rw [isNumber, ← isText] at whole
    rw [← number_isSome_iff isText starts whole]
    unfold Parser.number
    cases Parser.numberValue? t.text <;> simp [Parser.fail]
  · obtain ⟨quote, body, isQuote, isBody, isText⟩ := string_of_mem member isString
    rw [isText] at failed
    exact isBody.read_error isQuote failed

/-- One literal of each kind, none of which is read. -/
theorem literals_read_refused :
    let source := "9999999999y 0x8000000000000000 '\\xé'"
    let duration : Token := ⟨.duration, "9999999999y", ⟨0, 11⟩⟩
    let number : Token := ⟨.number, "0x8000000000000000", ⟨12, 30⟩⟩
    let string : Token := ⟨.string, "'\\xé'", ⟨31, 37⟩⟩
    items source = [.token duration, .token number, .token string] ∧
      (∀ e, Duration.read duration.text = .error e → e = .outOfRange duration.text) ∧
      ((∃ value, Parser.number number = .ok value) ↔ ¬TooLarge number.text.toList) ∧
      (∀ e, Quoted.read string.text = .error e → (∃ c, e = .unknownEscape c) ∨ ∃ digits, e = .badCode digits) := by
  intro source duration number string
  have cut : items source = [.token duration, .token number, .token string] := by cbv
  have first : .token duration ∈ items source := by simp [cut]
  have second : .token number ∈ items source := by simp [cut]
  have third : .token string ∈ items source := by simp [cut]
  exact ⟨cut, (literals_read first).1 rfl, (literals_read second).2.1 rfl, (literals_read third).2.2 rfl⟩

end QueryLint.Token

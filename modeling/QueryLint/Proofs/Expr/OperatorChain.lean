import Mathlib.Data.List.Forall2
import QueryLint.Proofs.Expr.OperatorTree
import QueryLint.Proofs.Token.Spacing

/-! Chains of metric names and operators.

Words with blanks between them are cut one by one. From the tokens, the tree that groups the chain by the
levels of its operators can be derived: the right side of an operator was read at the level of that side,
and the left side was closed by the operator itself. So every chain is read, whatever its operators are.
-/

set_option autoImplicit false

namespace QueryLint

open Text (byteSize lower lowerChar)

/-! Words in any case. -/

theorem Text.eq_of_lowerChar {c a : Char} (same : lowerChar c = a) (noLetter : a.isLower = false) :
    c = a := by
  unfold lowerChar at same
  split at same
  · subst same
    cases noLetter
  · have letter : c.isAlpha = false := by
      rw [← Char.isLower_toLower_eq_isAlpha, same, noLetter]
    have notUpper : ¬c.isUpper = true := by
      intro upper
      rw [Char.isAlpha, upper] at letter
      cases letter
    rw [← same, Char.toLower_eq_of_not_isUpper notUpper]

-- The letter `k` is left out: it is also the lower case of a sign that is in no name.
theorem Text.isAlpha_of_lowerChar {c : Char} (letter : (lowerChar c).isLower = true)
    (other : lowerChar c ≠ 'k') : c.isAlpha = true := by
  unfold lowerChar at letter other
  split at letter
  · next isSign => exact absurd (if_pos isSign) other
  · rw [← Char.isLower_toLower_eq_isAlpha, letter]

/-- Without letters, case makes no difference. -/
theorem Text.eq_of_lower {text word : String} (same : lower text = word)
    (noLetter : word.toList.all (!·.isLower) = true) : text = word := by
  subst same
  have unchanged : ∀ c ∈ text.toList, lowerChar c = c := by
    intro c member
    have isPart : lowerChar c ∈ (lower text).toList := by
      rw [lower, String.toList_ofList]
      exact List.mem_map_of_mem member
    exact (eq_of_lowerChar rfl (by simpa using List.all_eq_true.mp noLetter _ isPart)).symm
  rw [lower, List.map_congr_left unchanged, List.map_id', String.ofList_toList]

namespace Token

/-- What operators that are words consist of. -/
def isWordChar (a : Char) : Bool :=
  (a.isLower || a.isDigit) && a != 'k'

theorem starts_of_lowerChar {c : Char} (isPart : isWordChar (lowerChar c) = true)
    (letter : (lowerChar c).isLower = true) : startsIdentifier c = true := by
  have other : lowerChar c ≠ 'k' := by simpa using ((Bool.and_eq_true _ _).mp isPart).2
  rw [startsIdentifier, Text.isAlpha_of_lowerChar letter other, Bool.true_or]

theorem continues_of_lowerChar {c : Char} (isPart : isWordChar (lowerChar c) = true) :
    continuesIdentifier c = true := by
  by_cases isLetter : (lowerChar c).isLower = true
  · rw [continuesIdentifier, starts_of_lowerChar isPart isLetter, Bool.true_or, Bool.true_or]
  · have noLetter : (lowerChar c).isLower = false := by simpa using isLetter
    have digit : c.isDigit = true := by
      rw [← Text.eq_of_lowerChar rfl noLetter] at isPart noLetter
      rw [isWordChar, noLetter, Bool.false_or, Bool.and_eq_true] at isPart
      exact isPart.1
    simp [continuesIdentifier, digit]

/-- A name is cut out wherever a gap or the end of the text follows it. -/
theorem stands_identifier {t : Token} {c : Char} {text : List Char} (isName : t.kind = .identifier)
    (isText : t.text.toList = c :: text) (starts : startsIdentifier c = true)
    (continues : ∀ a ∈ text, continuesIdentifier a = true) (depth : Nat) : Stands depth t := by
  refine ⟨c, text, isText, isSpace_of_starts starts, ne_of_test starts rfl, fun v breaks => ?_⟩
  have stops : Stops continuesIdentifier v := breaks.stops visible_continuesIdentifier
  rw [shape_of_starts starts, isName, countWhile_of_stops continues stops]

/-- So is a word in any case. -/
theorem stands_word {t : Token} (isName : t.kind = .identifier)
    (starts : (lower t.text).toList.head?.any Char.isLower = true)
    (isWord : (lower t.text).toList.all isWordChar = true) (depth : Nat) : Stands depth t := by
  rw [lower, String.toList_ofList] at starts isWord
  cases isText : t.text.toList with
  | nil =>
    rw [isText] at starts
    cases starts
  | cons c text =>
    rw [isText, List.map_cons, List.all_cons, Bool.and_eq_true] at isWord
    rw [isText] at starts
    refine stands_identifier isName isText (starts_of_lowerChar isWord.1 starts) (fun a member => ?_) depth
    exact continues_of_lowerChar (List.all_eq_true.mp isWord.2 _ (List.mem_map_of_mem member))

end Token

/-! Operators. -/

namespace BinaryOp

/-- The kind of token that an operator is written as. -/
def kind : BinaryOp → Token.Kind
  | .add => .add
  | .sub => .sub
  | .mul => .mul
  | .div => .div
  | .mod => .mod
  | .pow => .pow
  | .equal => .equal
  | .notEqual => .notEqual
  | .greater => .greater
  | .less => .less
  | .greaterEqual => .greaterEqual
  | .lessEqual => .lessEqual
  | .atan2 | .and | .or | .unless => .identifier

/-- An operator is no bracket. -/
theorem depthAfter_kind (op : BinaryOp) : Token.depthAfter 0 (.token op.kind) = 0 := by
  cases op <;> rfl

theorem ofToken?_of_lower {t : Token} {op : BinaryOp} (isKind : t.kind = op.kind)
    (spells : lower t.text = op.symbol) : ofToken? t = some op := by
  cases op <;> simp [ofToken?, ofWord?, isKind, kind, spells, symbol]

theorem symbol_of_ofWord? {word : String} {op : BinaryOp} (isWord : ofWord? word = some op) :
    op.kind = .identifier ∧ lower word = op.symbol := by
  unfold ofWord? at isWord
  split at isWord
  case h_5 => cases isWord
  all_goals
    next spelled =>
      cases isWord
      exact ⟨rfl, spelled⟩

/-- A token of an operator is one of its kind, and if that is a word, it is the operator's. -/
theorem kind_of_ofToken? {t : Token} {op : BinaryOp} (isOperator : ofToken? t = some op) :
    t.kind = op.kind ∧ (t.kind = .identifier → lower t.text = op.symbol) := by
  by_cases isName : t.kind = .identifier
  · have isWord : ofWord? t.text = some op := by simpa [ofToken?, isName] using isOperator
    obtain ⟨kind, spelled⟩ := symbol_of_ofWord? isWord
    exact ⟨isName.trans kind.symm, fun _ => spelled⟩
  · refine ⟨?_, fun isWord => absurd isWord isName⟩
    cases isKind : t.kind <;> simp [ofToken?, isKind] at isOperator isName <;> rw [← isOperator] <;> rfl

/-- An operator that is no word is cut out of its symbol. -/
theorem items_symbol {op : BinaryOp} (noWord : op.kind ≠ .identifier) :
    Token.items op.symbol = [.token ⟨op.kind, op.symbol, ⟨0, byteSize op.symbol.toList⟩⟩] := by
  cases op <;> first | exact absurd rfl noWord | cbv

theorem noLetter_symbol {op : BinaryOp} (noWord : op.kind ≠ .identifier) :
    op.symbol.toList.all (!·.isLower) = true := by
  cases op <;> first | exact absurd rfl noWord | cbv

theorem isWord_symbol {op : BinaryOp} (isWord : op.kind = .identifier) :
    op.symbol.toList.head?.any Char.isLower = true ∧ op.symbol.toList.all Token.isWordChar = true := by
  cases op <;> cases isWord <;> exact ⟨by cbv, by cbv⟩

/-- An operator in any case is cut out wherever a gap or the end of the text follows it. -/
theorem stands {t : Token} {op : BinaryOp} (isKind : t.kind = op.kind) (spells : lower t.text = op.symbol) :
    Token.Stands 0 t := by
  by_cases isWord : op.kind = .identifier
  · have isName : t.kind = .identifier := isKind.trans isWord
    obtain ⟨starts, isPart⟩ := isWord_symbol isWord
    exact Token.stands_word isName (spells ▸ starts) (spells ▸ isPart) 0
  · have stand : Token.AllStand 0 [⟨op.kind, op.symbol, _⟩] := Token.allStand_of_scan (items_symbol isWord)
    rw [Token.Stands, isKind, Text.eq_of_lower spells (noLetter_symbol isWord)]
    exact stand.1

/-- What stands behind a name in a chain neither calls it nor adds to it. -/
theorem follows {t : Token} {op : BinaryOp} (isOperator : ofToken? t = some op) :
    Grammar.isKind .leftParen t = false ∧ Grammar.isKind .leftBrace t = false ∧
      Grammar.startsSuffix t = false ∧ (Grammar.groupingWord? t).isSome = false := by
  obtain ⟨isKind, isWord⟩ := kind_of_ofToken? isOperator
  cases op <;>
    simp_all [kind, symbol, Grammar.isKind, Grammar.startsSuffix, Grammar.either?, Parser.isWord]

end BinaryOp

/-! Names and chains. -/

/-- A word that is cut as one name and is neither reserved nor a number, in any case. -/
structure MetricName where
  text : String
  cut : Token.tokenize text =
    .ok [⟨.identifier, text, ⟨0, byteSize text.toList⟩⟩, Token.eof text]
  notReserved : Parser.isReserved (lower text) = false
  notNumber : lower text ≠ "inf" ∧ lower text ≠ "nan"

/-- An operator as it is written; if it is a word, it may be in any case. -/
structure OperatorWord where
  op : BinaryOp
  text : String
  spells : lower text = op.symbol

def MetricName.token (name : MetricName) : Token :=
  ⟨.identifier, name.text, ⟨0, byteSize name.text.toList⟩⟩

def OperatorWord.token (word : OperatorWord) : Token :=
  ⟨word.op.kind, word.text, ⟨0, byteSize word.text.toList⟩⟩

/-- A first name and further ones, each behind an operator, with single blanks between all of them. -/
def chainText (first : MetricName) (rest : List (OperatorWord × MetricName)) : String :=
  " ".intercalate (first.text :: rest.flatMap fun (word, name) => [word.text, name.text])

theorem MetricName.items_text (name : MetricName) : Token.items name.text = [.token name.token] := by
  have clean : Token.items name.text = [name.token].map .token := Token.items_of_tokenize name.cut
  exact clean

theorem MetricName.stands (name : MetricName) : Token.Stands 0 name.token := by
  have stand : Token.AllStand 0 [name.token] := Token.allStand_of_scan name.items_text
  exact stand.1

theorem MetricName.ne_empty (name : MetricName) : name.text ≠ "" := by
  obtain ⟨c, text, isText, -⟩ := name.stands
  rintro same
  rw [MetricName.token, same] at isText
  cases isText

/-! Cutting a chain. -/

namespace Token

/-- Tokens with a blank behind each but the last. -/
def apart (t : Token) : List Token → List (Token × List Char)
  | [] => [(t, [])]
  | next :: ts => (t, [' ']) :: apart next ts

theorem map_fst_apart (t : Token) (ts : List Token) : (apart t ts).map Prod.fst = t :: ts := by
  induction ts generalizing t with
  | nil => rfl
  | cons next ts ih => rw [apart, List.map_cons, ih]

theorem separate_apart {gap : List Char} (isGap : Gap false gap) (t : Token) (ts : List Token) :
    Separate gap (apart t ts) := by
  induction ts generalizing t gap with
  | nil => exact ⟨isGap, by simp, .nil⟩
  | cons next ts ih => exact ⟨isGap, by simp, ih (.blank rfl .nil) next⟩

theorem spaced_apart (gap : List Char) (t : Token) (ts : List Token) :
    spaced gap (apart t ts) = gap ++ [' '].intercalate ((t :: ts).map (·.text.toList)) := by
  induction ts generalizing t gap with
  | nil => simp [apart, spaced]
  | cons next ts ih =>
    simp only [apart, spaced, ih, List.map_cons, List.intercalate_cons_cons, List.append_assoc]

end Token

/-- The tokens of a chain, each at the start of a text of its own. -/
def chainTokens (first : MetricName) (rest : List (OperatorWord × MetricName)) : List Token :=
  first.token :: rest.flatMap fun (word, name) => [word.token, name.token]

theorem allStand_chainTokens (first : MetricName) (rest : List (OperatorWord × MetricName)) :
    Token.AllStand 0 (chainTokens first rest) := by
  induction rest generalizing first with
  | nil => exact ⟨first.stands, trivial⟩
  | cons link rest ih =>
    obtain ⟨word, name⟩ := link
    have outside : Token.depthAfter 0 (.token word.token.kind) = 0 := word.op.depthAfter_kind
    refine ⟨first.stands, BinaryOp.stands rfl word.spells, ?_⟩
    rw [show Token.depthAfter 0 (.token first.token.kind) = 0 from rfl, outside]
    exact ih name

/-- A chain is cut into its words. -/
theorem items_chainText (first : MetricName) (rest : List (OperatorWord × MetricName)) :
    ∃ tokens : List Token, Token.items (chainText first rest) = tokens.map .token ∧
      tokens.map Token.face = (chainTokens first rest).map Token.face := by
  let others : List Token := rest.flatMap fun (word, name) => [word.token, name.token]
  have stand : Token.AllStand 0 ((Token.apart first.token others).map Prod.fst) := by
    rw [Token.map_fst_apart]
    exact allStand_chainTokens first rest
  have isText : (chainText first rest).toList = Token.spaced [] (Token.apart first.token others) := by
    rw [Token.spaced_apart, chainText, String.toList_intercalate]
    simp [others, List.map_flatMap, MetricName.token, OperatorWord.token]
  obtain ⟨tokens, scanned, same⟩ := stand.scan_spaced (Token.separate_apart .nil first.token others) 0
  refine ⟨tokens, ?_, ?_⟩
  · rw [Token.items, isText, scanned]
  · rw [same, Token.map_fst_apart]
    rfl

/-! Reading a chain. -/

/-- The token is the name. -/
def Token.Names (t : Token) (name : MetricName) : Prop :=
  t.face = name.token.face

/-- The tokens are the operator and the name behind it. -/
def Links (pair : Token × Token) (link : BinaryOp × MetricName) : Prop :=
  BinaryOp.ofToken? pair.1 = some link.1 ∧ pair.2.Names link.2

/-- Pairs of tokens, one behind the other. -/
def inRow (pairs : List (Token × Token)) : List Token :=
  pairs.flatMap fun (operator, name) => [operator, name]

theorem exists_links {rest : List (OperatorWord × MetricName)} {tokens : List Token}
    (same : tokens.map Token.face =
      (rest.flatMap fun (word, name) => [word.token, name.token]).map Token.face) :
    ∃ pairs, tokens = inRow pairs ∧
      List.Forall₂ Links pairs (rest.map fun (word, name) => (word.op, name)) := by
  induction rest generalizing tokens with
  | nil =>
    obtain rfl : tokens = [] := by simpa using same
    exact ⟨[], rfl, .nil⟩
  | cons link rest ih =>
    obtain ⟨word, name⟩ := link
    simp only [List.flatMap_cons, List.cons_append, List.nil_append, List.map_cons] at same
    obtain ⟨operator, tokens, rfl, isOperator, same⟩ := List.map_eq_cons_iff.mp same
    obtain ⟨t, tokens, rfl, isName, same⟩ := List.map_eq_cons_iff.mp same
    obtain ⟨pairs, rfl, links⟩ := ih same
    refine ⟨(operator, t) :: pairs, rfl, .cons ⟨?_, isName⟩ links⟩
    obtain ⟨isKind, isText⟩ := Prod.mk.inj isOperator
    exact BinaryOp.ofToken?_of_lower isKind (isText ▸ word.spells)

/-- The tree has operators without clauses over selectors by name alone. -/
inductive Expr.Shows : Expr → OperatorTree MetricName → Prop
  | name {name : MetricName} {span : Text.Span} :
      Shows (.vector ⟨some name.text, [⟨metricNameLabel, .equal, name.text, span⟩], {}, span⟩) (.leaf name)
  | operator {op : BinaryOp} {lhs rhs : Expr} {left right : OperatorTree MetricName} {span : Text.Span} :
      Shows lhs left → Shows rhs right →
      Shows (.binary op lhs rhs false none span) (.node op left right)

theorem Expr.Shows.valueType {e : Expr} {tree : OperatorTree MetricName} (shown : e.Shows tree) :
    e.valueType = .vector := by
  induction shown with
  | name => rfl
  | operator _ _ ihLeft => simp [Expr.valueType, ihLeft]

namespace Token.Names

open QueryLint.Parser

variable {t : Token} {name : MetricName}

theorem kind (isName : t.Names name) : t.kind = .identifier :=
  congrArg Prod.fst isName

theorem text (isName : t.Names name) : t.text = name.text :=
  congrArg Prod.snd isName

theorem isName (isName : t.Names name) : Grammar.IsName t where
  kind := isName.kind
  noNumber := by
    rw [isName.text, numberWord?, if_neg name.notNumber.1, if_neg name.notNumber.2]

/-- A name is none of the words that may follow an operator. -/
theorem isWord_eq_false (isName : t.Names name) {word : String} (reserved : isReserved word = true) :
    isWord word t = false := by
  have notReserved := name.notReserved
  rw [← isName.text] at notReserved
  have other : lower t.text ≠ word := by
    rintro rfl
    rw [reserved] at notReserved
    cases notReserved
  simp [isWord, other]

theorem finishSelector_eq [Pattern.Engine] (isName : t.Names name) :
    finishSelector (some t.text) [nameMatcher t] t.span =
      .ok (.vector ⟨some t.text, [nameMatcher t], {}, t.span⟩) := by
  have rejects : acceptsEmpty (nameMatcher t) = .ok false := by
    simp [acceptsEmpty, nameMatcher, isName.text, name.ne_empty]
  exact finishSelector_single rejects (some t.text) t.span

end Token.Names

namespace Grammar

open QueryLint.Parser

/-- Nothing but an operator comes next. -/
def OperatorAhead (next : Option Token) : Prop :=
  ∀ t ∈ next, ∃ op, BinaryOp.ofToken? t = some op

theorem OperatorAhead.notAhead {test : Token → Bool} {next : Option Token} (operator : OperatorAhead next)
    (fails : ∀ t op, BinaryOp.ofToken? t = some op → test t = false) : NotAhead test next := by
  intro t isNext
  obtain ⟨op, isOperator⟩ := operator t isNext
  exact fails t op isOperator

theorem NotAhead.raise {low high : Nat} {next : Option Token} (ends : NotAhead (continuesChain low) next)
    (level : low ≤ high) : NotAhead (continuesChain high) next := by
  intro t isNext
  have low := ends t isNext
  unfold continuesChain at *
  cases found : BinaryOp.ofToken? t with
  | none => rfl
  | some op =>
    rw [found] at low
    simp only [Option.any_some, decide_eq_false_iff_not] at low ⊢
    omega

/-- In front of an operator, a name is read as a selector. -/
theorem Derives.ofName [Pattern.Engine] {t : Token} {name : MetricName} (isName : t.Names name)
    {next : Option Token} (operator : OperatorAhead next) :
    Derives (.operand (.vector ⟨some t.text, [nameMatcher t], {}, t.span⟩)) [t] next := by
  have isMetric : IsMetric t next :=
    { toIsName := isName.isName
      notReserved := by rw [isName.text, name.notReserved]
      noCall := operator.notAhead fun _ op isOperator => (op.follows isOperator).1
      noAggregate := fun _ => operator.notAhead fun _ op isOperator => (op.follows isOperator).2.2.2 }
  have noBrace : NotAhead (isKind .leftBrace) next :=
    operator.notAhead fun _ op isOperator => (op.follows isOperator).2.1
  have noSuffix : NotAhead startsSuffix next :=
    operator.notAhead fun _ op isOperator => (op.follows isOperator).2.2.1
  have primary : Derives (.primary (.vector ⟨some t.text, [nameMatcher t], {}, t.span⟩)) [t] (ahead [] next) :=
    .metric isMetric noBrace isName.finishSelector_eq
  exact .suffixed primary (.nil noSuffix)

/-- Operators without clauses join what a chain shows. -/
theorem Derives.join [Pattern.Engine] {least : Nat} {op : BinaryOp} {operator first : Token}
    {name : MetricName} {lhs rhs : Expr}
    {left right : OperatorTree MetricName} {used others : List Token} {next : Option Token}
    (showsLeft : lhs.Shows left) (showsRight : rhs.Shows right)
    (derivedLeft : Derives (.chain least lhs) used (some operator))
    (isOperator : BinaryOp.ofToken? operator = some op) (level : least ≤ op.precedence)
    (isName : first.Names name) (derivedRight : Derives (.expr op.rightLevel rhs) (first :: others) next) :
    ∃ e, e.Shows (.node op left right) ∧ Derives (.chain least e) (used ++ operator :: first :: others) next := by
  have built : buildBinary op operator.span lhs rhs false none =
      .ok (.binary op lhs rhs false none (lhs.span.cover rhs.span)) := by
    simp [buildBinary, showsLeft.valueType, showsRight.valueType, ValueType.isNumeric]
  have noFlag : BoolFlag op (ahead [] (ahead (first :: others) next)) [] false :=
    .absent fun _ => NotAhead.some_iff.mpr (isName.isWord_eq_false (by decide))
  have noClause : MatchingClause op (ahead (first :: others) next) [] none := by
    refine .absent (NotAhead.some_iff.mpr ?_)
    simp [either?, isName.isWord_eq_false (show isReserved "on" = true by decide),
      isName.isWord_eq_false (show isReserved "ignoring" = true by decide)]
  exact ⟨_, .operator showsLeft showsRight,
    .operator derivedLeft isOperator level noFlag noClause derivedRight built⟩

theorem forall₂_append_cons {α β : Type} {R : α → β → Prop} {as : List α} {b : β} {front back : List β}
    (related : List.Forall₂ R as (front ++ b :: back)) :
    ∃ front' a back', as = front' ++ a :: back' ∧ List.Forall₂ R front' front ∧ R a b ∧
      List.Forall₂ R back' back := by
  have first := List.forall₂_take_append _ _ _ related
  have second := List.forall₂_drop_append _ _ _ related
  obtain ⟨a, back', isRelated, others, split⟩ := List.forall₂_cons_right_iff.mp second
  exact ⟨_, a, back', by rw [← split, List.take_append_drop], first, isRelated, others⟩

/-- The tree that groups a chain is derived from its tokens. -/
theorem Derives.ofGrouped [Pattern.Engine] {tree : OperatorTree MetricName} (grouped : tree.Grouped)
    {least : Nat} {first : Token} {pairs : List (Token × Token)} {next : Option Token}
    (isFirst : first.Names tree.inorder.1) (links : List.Forall₂ Links pairs tree.inorder.2)
    (level : ∀ o ∈ tree.operators, least ≤ o.precedence) (operator : OperatorAhead next)
    (ends : ∀ o ∈ tree.operators, NotAhead (continuesChain o.rightLevel) next) :
    ∃ e, e.Shows tree ∧ Derives (.chain least e) (first :: inRow pairs) next := by
  -- The induction is on the tree. An operator closes what it takes on its left, for no operator there
  -- takes it on its right; on its right it keeps out what it does not take itself.
  induction grouped generalizing least first pairs next with
  | @leaf name =>
    cases links
    refine ⟨_, ?_, .first (.ofName isFirst operator)⟩
    rw [nameMatcher, isFirst.text]
    exact .name
  | @node op left right _ _ onLeft onRight ihLeft ihRight =>
    obtain ⟨leftPairs, ⟨t, second⟩, rightPairs, rfl, leftLinks, ⟨isOperator, isSecond⟩, rightLinks⟩ :=
      forall₂_append_cons links
    have opLevel : least ≤ op.precedence := level op (by simp)
    have opEnds : NotAhead (continuesChain op.rightLevel) next := ends op (by simp)
    have closed : ∀ o ∈ left.operators, NotAhead (continuesChain o.rightLevel) (some t) := by
      intro o member
      have looser := BinaryOp.takesLeft_iff.mp (onLeft o member)
      simpa [continuesChain, isOperator] using looser
    have kept : ∀ o ∈ right.operators, NotAhead (continuesChain o.rightLevel) next := by
      intro o member
      have tight := BinaryOp.takesRight_iff.mp (onRight o member)
      exact opEnds.raise (Nat.le_trans tight o.precedence_le_rightLevel)
    obtain ⟨lhs, showsLeft, derivedLeft⟩ := ihLeft isFirst leftLinks
      (fun o member => level o (by simp [member])) (by simp [OperatorAhead, isOperator]) closed
    obtain ⟨rhs, showsRight, derivedRight⟩ := ihRight isSecond rightLinks
      (fun o member => BinaryOp.takesRight_iff.mp (onRight o member)) operator kept
    obtain ⟨e, shown, derived⟩ := Derives.join showsLeft showsRight derivedLeft isOperator opLevel isSecond
      (.expr derivedRight opEnds)
    refine ⟨e, shown, ?_⟩
    simpa [inRow] using derived

end Grammar

/-- A chain of metric names and operators is always read: as operators over the names, in the order of the
text, grouped in the one way in which every operator has below it only what it takes. -/
theorem Expr.parse_chainText [Pattern.Engine] (first : MetricName) (rest : List (OperatorWord × MetricName)) :
    ∃ root tree, Expr.parse (chainText first rest) = .ok root ∧ root.Shows tree ∧
      tree.inorder = (first, rest.map fun (word, name) => (word.op, name)) ∧ tree.Grouped ∧
      ∀ other : OperatorTree MetricName, other.inorder = tree.inorder → other.Grouped → other = tree := by
  obtain ⟨tokens, clean, same⟩ := items_chainText first rest
  obtain ⟨t, others, rfl, isFirst, same⟩ := List.map_eq_cons_iff.mp same
  obtain ⟨pairs, rfl, links⟩ := exists_links same
  let tree : OperatorTree MetricName := .ofChain first (rest.map fun (word, name) => (word.op, name))
  have inorder : tree.inorder = (first, rest.map fun (word, name) => (word.op, name)) :=
    OperatorTree.inorder_ofChain _ _
  have grouped : tree.Grouped := OperatorTree.grouped_ofChain _ _
  have readable : ∃ e, e.Shows tree ∧ Grammar.Derives (.chain 0 e) (t :: inRow pairs) none :=
    Grammar.Derives.ofGrouped grouped (by rw [inorder]; exact isFirst) (by rw [inorder]; exact links) (by simp)
      (by simp [Grammar.OperatorAhead]) (by simp)
  obtain ⟨root, shown, derived⟩ := readable
  refine ⟨root, tree, Grammar.parse_complete clean (.expr derived (by simp)), shown, inorder, grouped, ?_⟩
  intro other sameChain otherGrouped
  rw [otherGrouped.eq_ofChain, sameChain, ← grouped.eq_ofChain]

/-- Names of aggregations may stand in a chain, and operators in capitals. -/
theorem Expr.parse_chainText_words :
    let _ := Pattern.Engine.ofAnswers []
    ∃ (first : MetricName) (rest : List (OperatorWord × MetricName)),
      chainText first rest = "sum UNLESS b ^ :c" ∧
      ∃ root tree, Expr.parse (chainText first rest) = .ok root ∧ root.Shows tree ∧
        tree.inorder = (first, rest.map fun (word, name) => (word.op, name)) ∧ tree.Grouped ∧
        ∀ other : OperatorTree MetricName, other.inorder = tree.inorder → other.Grouped → other = tree := by
  intro _
  let first : MetricName := ⟨"sum", by cbv, by cbv, by decide⟩
  let rest : List (OperatorWord × MetricName) :=
    [(⟨.unless, "UNLESS", by cbv⟩, ⟨"b", by cbv, by cbv, by decide⟩),
      (⟨.pow, "^", by cbv⟩, ⟨":c", by cbv, by cbv, by decide⟩)]
  exact ⟨first, rest, by decide, parse_chainText first rest⟩

end QueryLint

import QueryLint.Proofs.Grammar
import QueryLint.Proofs.Token.Cut

/-! Where brackets and braces stand.

Square brackets only stand around ranges and braces only around conditions, so a phrase closes every
bracket that it opens, and clauses and operators have none of either.
-/

set_option autoImplicit false

namespace QueryLint.Grammar

open QueryLint.Parser

/-- A token that is neither a square bracket nor a brace. -/
def isPlain (t : Token) : Bool :=
  !([.leftBracket, .rightBracket, .leftBrace, .rightBrace].contains t.kind)

theorem isPlain_of_kind {kind : Token.Kind} {t : Token} (same : t.kind = kind)
    (other : kind ∉ [Token.Kind.leftBracket, .rightBracket, .leftBrace, .rightBrace]) :
    isPlain t = true := by
  simpa [isPlain, same] using other

theorem isPlain_of_either? {α : Type} {first second : String × α} {t : Token} {a : α}
    (found : either? first second t = some a) : isPlain t = true :=
  isPlain_of_kind (kind_of_either? found) (by decide)

/-- Only plain tokens. -/
def AllPlain (ts : List Token) : Prop :=
  ∀ t ∈ ts, isPlain t = true

@[simp] theorem AllPlain.nil : AllPlain [] := by
  simp [AllPlain]

@[simp] theorem AllPlain.cons_iff {t : Token} {ts : List Token} :
    AllPlain (t :: ts) ↔ isPlain t = true ∧ AllPlain ts := by
  simp [AllPlain]

@[simp] theorem AllPlain.append_iff {front back : List Token} :
    AllPlain (front ++ back) ↔ AllPlain front ∧ AllPlain back := by
  simp only [AllPlain, List.mem_append, or_imp, forall_and]

theorem Listed.allPlain {α : Type} {Item : List Token → α → Prop}
    (item : ∀ used a, Item used a → AllPlain used) {used : List Token} {as : List α}
    (listed : Listed Item used as) : AllPlain used := by
  induction listed with
  | nil => exact .nil
  | last isItem => exact item _ _ isItem
  | more isItem isComma _ ih => simp [item _ _ isItem, isPlain_of_kind isComma (by decide), ih]

theorem LabelList.allPlain {used : List Token} {close : Token} {found : List String}
    (list : LabelList used close found) : AllPlain used := by
  cases list with
  | parens isOpening listed isClose =>
    have inner : AllPlain _ := listed.allPlain fun _ _ label => by
      cases label with
      | name isName => simp [isPlain_of_kind isName (by decide)]
    simp [isPlain_of_kind isOpening (by decide), inner, isPlain_of_kind isClose (by decide)]

theorem BoolFlag.allPlain {op : BinaryOp} {next : Option Token} {flag : List Token}
    {returnsBool : Bool} (clause : BoolFlag op next flag returnsBool) : AllPlain flag := by
  cases clause with
  | absent => exact .nil
  | present _ isBool => simp [isPlain_of_kind (kind_of_isWord isBool) (by decide)]

theorem Included.allPlain {next : Option Token} {used : List Token} {found : List String}
    (clause : Included next used found) : AllPlain used := by
  cases clause with
  | absent => exact .nil
  | listed list => exact list.allPlain

theorem MatchingClause.allPlain {op : BinaryOp} {next : Option Token} {used : List Token}
    {matching : Option Matching} (clause : MatchingClause op next used matching) : AllPlain used := by
  cases clause with
  | absent => exact .nil
  | plain isMatching list => simp [isPlain_of_either? isMatching, list.allPlain]
  | grouped isMatching list isSide _ others =>
    simp [isPlain_of_either? isMatching, list.allPlain, isPlain_of_either? isSide, others.allPlain]

theorem GroupingClause.allPlain {used : List Token} {last : Token} {grouping : Grouping}
    (clause : GroupingClause used last grouping) : AllPlain used := by
  cases clause with
  | labels isGrouping list => simp [isPlain_of_either? isGrouping, list.allPlain]

theorem Trailing.allPlain {close last : Token} {next : Option Token} {used : List Token}
    {grouping : Grouping} (clause : Trailing close next used last grouping) : AllPlain used := by
  cases clause with
  | absent => exact .nil
  | present clause => exact clause.allPlain

theorem Condition.allPlain {used : List Token} {m : Matcher} (condition : Condition used m) :
    AllPlain used := by
  cases condition with
  | @compare label symbol value op decoded isLabel isMatch isValue =>
    have plain : isPlain symbol = true := by
      cases kind : symbol.kind <;> simp_all [MatchOp.ofKind?, isPlain]
    simp [isPlain_of_kind isLabel (by decide), plain, isPlain_of_kind isValue (by decide)]

theorem Sign.allPlain {used : List Token} {negative : Bool} (sign : Sign used negative) :
    AllPlain used := by
  cases sign with
  | absent => exact .nil
  | minus isMinus => simp [isPlain_of_kind isMinus (by decide)]

theorem IsDuration.isPlain {t : Token} {ms : Nat} (duration : IsDuration t ms) :
    Grammar.isPlain t = true :=
  isPlain_of_kind duration.kind (by decide)

theorem Step.allPlain {used : List Token} {step : Option Nat} (isStep : Step used step) :
    AllPlain used := by
  cases isStep with
  | absent => exact .nil
  | given isDuration => simp [isDuration.isPlain]

theorem InstantClause.allPlain {used : List Token} {last : Token} {value : Instant}
    (clause : InstantClause used last value) : AllPlain used := by
  cases clause with
  | word isInstant isOpening isClose =>
    simp [isPlain_of_either? isInstant, isPlain_of_kind isOpening (by decide),
      isPlain_of_kind isClose (by decide)]
  | timestamp sign isNumber => simp [sign.allPlain, isPlain_of_kind isNumber (by decide)]

theorem isPlain_of_operator {t : Token} {op : BinaryOp} (isOperator : BinaryOp.ofToken? t = some op) :
    isPlain t = true := by
  cases kind : t.kind <;> simp_all [BinaryOp.ofToken?, isPlain]

theorem isPlain_of_sign {t : Token} {op : UnaryOp} (isSign : UnaryOp.ofKind? t.kind = some op) :
    isPlain t = true := by
  cases kind : t.kind <;> simp_all [UnaryOp.ofKind?, isPlain]

/-! Depth.

Between brackets, a colon is a token and starts no name. A node is therefore cut in the same way
when it stands alone only because no bracket is open in front of it.
-/

/-- Tokens behind which the bracket depth is what it was before. -/
def Balanced (ts : List Token) : Prop :=
  ∀ depth, Token.depthBehind depth ts = depth

theorem Balanced.nil : Balanced [] :=
  fun _ => rfl

theorem Balanced.append {front back : List Token} (balancedFront : Balanced front)
    (balancedBack : Balanced back) : Balanced (front ++ back) := by
  intro depth
  rw [Token.depthBehind_append, balancedFront, balancedBack]

theorem AllPlain.balanced {ts : List Token} (plain : AllPlain ts) : Balanced ts := by
  induction ts with
  | nil => exact .nil
  | cons t ts ih =>
    intro depth
    have step : Token.depthAfter depth (.token t.kind) = depth := by
      have notBracket := (AllPlain.cons_iff.mp plain).1
      cases kind : t.kind <;> simp_all [isPlain, Token.depthAfter]
    rw [Token.depthBehind, step]
    exact ih (AllPlain.cons_iff.mp plain).2 depth

theorem Balanced.single {t : Token} (plain : isPlain t = true) : Balanced [t] :=
  AllPlain.balanced (by simp [plain])

theorem Balanced.cons {t : Token} {ts : List Token} (plain : isPlain t = true)
    (balanced : Balanced ts) : Balanced (t :: ts) :=
  (Balanced.single plain).append balanced

/-- What stands between brackets. -/
theorem Balanced.brackets {opening close : Token} {ts : List Token}
    (isOpening : opening.kind = .leftBracket) (balanced : Balanced ts)
    (isClose : close.kind = .rightBracket) : Balanced (opening :: (ts ++ [close])) := by
  intro depth
  rw [Token.depthBehind, Token.depthBehind_append, balanced, Token.depthBehind, isOpening, isClose]
  rfl

theorem Braces.balanced {used : List Token} {opening close : Token} {found : List Matcher}
    (braces : Braces used opening close found) : Balanced used := by
  cases braces with
  | @listed _ _ inner _ isOpening listed isClose =>
    have plain : AllPlain inner := listed.allPlain fun _ _ condition => condition.allPlain
    intro depth
    rw [Token.depthBehind, Token.depthBehind_append, plain.balanced, isOpening, Token.depthBehind, isClose]
    rfl

theorem Suffix.balanced {e e' : Expr} {used : List Token} (suffix : Suffix e used e') :
    Balanced used := by
  cases suffix with
  | @range opening length close _ _ isOpening isLength isClose =>
    exact .brackets isOpening (.single isLength.isPlain) isClose
  | @subquery opening length colon close step _ _ _ isOpening isLength isColon isStep isClose =>
    have inner : Balanced (length :: colon :: step) := AllPlain.balanced (by
      simp [isLength.isPlain, isPlain_of_kind isColon (by decide), isStep.allPlain])
    exact .brackets isOpening inner isClose
  | offset isOffset isSign isLength =>
    exact AllPlain.balanced (by
      simp [isPlain_of_kind (kind_of_isWord isOffset) (by decide), isSign.allPlain,
        isLength.isPlain])
  | pinned isMark isInstant =>
    exact AllPlain.balanced (by simp [isPlain_of_kind isMark (by decide), isInstant.allPlain])

theorem Suffixes.balanced {next : Option Token} {e e' : Expr} {used : List Token}
    (suffixes : Suffixes next e used e') : Balanced used := by
  induction suffixes with
  | nil => exact .nil
  | cons suffix _ ih => exact suffix.balanced.append ih

/-- A phrase closes the brackets it opens. -/
theorem Derives.balanced [Pattern.Engine] {phrase : Phrase} {used : List Token} {next : Option Token}
    (derived : Derives phrase used next) : Balanced used := by
  induction derived with
  | expr _ _ ih | first _ ih | lastArgument _ ih => exact ih
  | operator _ isOperator _ isFlag isClause _ _ ihLhs ihRhs =>
    have middle := isFlag.allPlain.balanced.append isClause.allPlain.balanced
    exact ihLhs.append (.cons (isPlain_of_operator isOperator) (middle.append ihRhs))
  | signed isSign _ _ ih => exact .cons (isPlain_of_sign isSign) ih
  | suffixed _ suffixes ih => exact ih.append suffixes.balanced
  | number kind | numberWord kind | string kind =>
    exact .single (isPlain_of_kind kind (by decide))
  | paren isOpening _ isClose ih =>
    have close := Balanced.single (isPlain_of_kind isClose (by decide))
    exact .cons (isPlain_of_kind isOpening (by decide)) (ih.append close)
  | braces isBraces => exact isBraces.balanced
  | metric isMetric => exact .single (isPlain_of_kind isMetric.kind (by decide))
  | metricBraces isMetric isBraces =>
    exact .cons (isPlain_of_kind isMetric.kind (by decide)) isBraces.balanced
  | call isName _ isOpening _ _ isClose _ ih =>
    have close := Balanced.single (isPlain_of_kind isClose (by decide))
    exact .cons (isPlain_of_kind isName.kind (by decide))
      (.cons (isPlain_of_kind isOpening (by decide)) (ih.append close))
  | aggregateLeading isName _ isClause isOpening _ isClose _ ih =>
    have close := Balanced.single (isPlain_of_kind isClose (by decide))
    exact .cons (isPlain_of_kind isName.kind (by decide)) (isClause.allPlain.balanced.append
      (.cons (isPlain_of_kind isOpening (by decide)) (ih.append close)))
  | aggregate isName _ isOpening _ isClose trailing _ ih =>
    exact .cons (isPlain_of_kind isName.kind (by decide))
      (.cons (isPlain_of_kind isOpening (by decide)) (ih.append
        (.cons (isPlain_of_kind isClose (by decide)) trailing.allPlain.balanced)))
  | noArguments => exact .nil
  | moreArguments _ isComma _ ihFirst ihMore =>
    exact ihFirst.append (.cons (isPlain_of_kind isComma (by decide)) ihMore)

end QueryLint.Grammar

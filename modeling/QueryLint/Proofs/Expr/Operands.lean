import QueryLint.Proofs.Expr.NodeText
import QueryLint.Proofs.Expr.OperatorChain
import QueryLint.Proofs.Grammar.Builders
import QueryLint.Proofs.Token.Enclosed

/-! Expressions in parentheses as operands.

In parentheses an expression is read as it is on its own, whatever stands around them, and it is an
operand of every operator. So two expressions can be joined by an operator exactly if their types are
ones that the operator takes.
-/

set_option autoImplicit false

namespace QueryLint

open Text (byteSize)

/-! Lines. -/

/-- A text that parses, and a new line behind it, are read in the same way wherever they stand in front
of a comma or a closing parenthesis. -/
theorem Expr.exists_line [Pattern.Engine] {source : String} {e : Expr} (parsed : Expr.parse source = .ok e)
    (offset : Nat) :
    ∃ tokens, (∀ u, Token.Cuts u 0 0 offset (source.toList ++ ['\n']) tokens) ∧
      ∀ close, Grammar.closes close = true →
        Grammar.Derives (.expr 0 (e.move (.right offset))) tokens (some close) := by
  obtain ⟨tokens, clean, derived⟩ := Grammar.parse_sound parsed
  refine ⟨tokens.map (Token.move (.right offset)), fun u => ?_, fun close closed => ?_⟩
  · have cut := Token.cuts_line clean u offset
    rwa [derived.balanced 0] at cut
  · exact (derived.move _).milder (.closing closed none)

theorem byteSize_line (source : String) :
    byteSize (source.toList ++ ['\n']) = byteSize source.toList + 1 := by
  rw [Text.byteSize_append]
  rfl

/-! Parentheses. -/

/-- A text in parentheses; the new line ends a comment at its end. -/
def parenthesized (source : String) : String :=
  "(" ++ source ++ "\n)"

theorem toList_parenthesized (source : String) :
    (parenthesized source).toList = ['('] ++ ((source.toList ++ ['\n']) ++ [')']) := by
  simp [parenthesized]

theorem byteSize_parenthesized (source : String) :
    byteSize (parenthesized source).toList = byteSize source.toList + 3 := by
  have one : byteSize ['('] = 1 ∧ byteSize ['\n'] = 1 ∧ byteSize [')'] = 1 := ⟨rfl, rfl, rfl⟩
  rw [toList_parenthesized, Text.byteSize_append, Text.byteSize_append, Text.byteSize_append]
  omega

/-- The node of an expression whose text is in parentheses at an offset. -/
def Expr.inParens (offset : Nat) (source : String) (e : Expr) : Expr :=
  .paren (e.move (.right (offset + 1))) ⟨offset, offset + byteSize (parenthesized source).toList⟩

theorem Expr.exists_inParens [Pattern.Engine] {source : String} {e : Expr}
    (parsed : Expr.parse source = .ok e) (offset : Nat) :
    ∃ opening tokens, opening.kind = .leftParen ∧
      (∀ u, Token.Cuts u 0 0 offset (parenthesized source).toList (opening :: tokens)) ∧
      ∀ next, Grammar.NotAhead Grammar.startsSuffix next →
        Grammar.Derives (.operand (e.inParens offset source)) (opening :: tokens) next := by
  obtain ⟨inner, cutInner, derived⟩ := exists_line parsed (offset + 1)
  let opening := Token.put .leftParen "(" offset
  let close := Token.put .rightParen ")" (offset + byteSize source.toList + 2)
  refine ⟨opening, inner ++ [close], rfl, fun u => ?_, fun next noSuffix => ?_⟩
  · have behind :
        offset + 1 + byteSize (source.toList ++ ['\n']) = offset + byteSize source.toList + 2 := by
      rw [byteSize_line]
      omega
    have first (v : List Char) : Token.Cuts v 0 0 offset ['('] [opening] := .mark (by simp) v 0 offset
    have last : Token.Cuts u 0 0 _ [')'] [close] := .mark (by simp) u 0 _
    rw [← behind] at last
    rw [toList_parenthesized]
    exact (first _).append ((cutInner _).append last)
  · have isOpening : opening.kind = .leftParen := rfl
    have isClose : close.kind = .rightParen := rfl
    have isParen : Grammar.Derives _ (opening :: (inner ++ [close])) next :=
      .paren isOpening (derived close (Grammar.closes_iff.mpr (.inl isClose))) isClose
    have covered : opening.span.cover close.span =
        ⟨offset, offset + byteSize (parenthesized source).toList⟩ := by
      have one : byteSize "(".toList = 1 ∧ byteSize ")".toList = 1 := ⟨rfl, rfl⟩
      rw [byteSize_parenthesized]
      simp only [opening, close, Token.put, Text.Span.cover, Text.Span.mk.injEq, one]
      omega
    rw [covered] at isParen
    have operand := Grammar.Derives.suffixed isParen (.nil noSuffix)
    rwa [List.append_nil] at operand

/-! Between the parentheses. -/

/-- An operator by its symbol. -/
def BinaryOp.word (op : BinaryOp) : OperatorWord :=
  ⟨op, op.symbol, by cases op <;> cbv⟩

/-- An operator as it stands between operands, perhaps with the word `bool` behind it. -/
def OperatorWord.between (word : OperatorWord) (returnsBool : Bool) : String :=
  " " ++ word.text ++ (if returnsBool then " bool" else "") ++ " "

theorem OperatorWord.exists_between (word : OperatorWord) {returnsBool : Bool}
    (comparison : returnsBool = true → word.op.isComparison = true) (offset : Nat) :
    ∃ t flag, BinaryOp.ofToken? t = some word.op ∧
      (∀ u, Token.Cuts u 0 0 offset (word.between returnsBool).toList (t :: flag)) ∧
      ∀ next, Grammar.NotAhead (Parser.isWord "bool") next →
        Grammar.BoolFlag word.op next flag returnsBool := by
  let operator := Token.put word.op.kind word.text (offset + 1)
  have isOperator : BinaryOp.ofToken? operator = some word.op :=
    BinaryOp.ofToken?_of_lower rfl word.spells
  have cut (u : List Char) :
      Token.Cuts u 0 0 offset ([' '] ++ (word.text.toList ++ [' '])) [operator] := by
    have written := Token.Cuts.word (BinaryOp.stands (t := operator) rfl word.spells) u (offset + 1)
    rw [show operator.kind = word.op.kind from rfl, word.op.depthAfter_kind] at written
    exact .blank rfl written
  cases returnsBool with
  | false =>
    refine ⟨operator, [], isOperator, fun u => ?_, fun next noBool => .absent fun _ => noBool⟩
    simpa [between] using cut u
  | true =>
    let flag := Token.put .identifier "bool" (offset + byteSize ([' '] ++ (word.text.toList ++ [' '])))
    have isFlag : Parser.isWord "bool" flag = true := by cbv
    have stands : Token.Stands 0 flag := Token.stands_word rfl (by cbv) (by cbv) 0
    have cutFlag (u : List Char) : Token.Cuts u 0 0 _ ("bool".toList ++ [' ']) [flag] := .word stands u _
    refine ⟨operator, [flag], isOperator, fun u => ?_, fun next _ => .present (comparison rfl) isFlag⟩
    simpa [between] using (cut _).append (cutFlag u)

/-! Operands and operator. -/

/-- Two texts in parentheses with an operator between them. -/
def operandsText (left : String) (word : OperatorWord) (returnsBool : Bool) (right : String) : String :=
  parenthesized left ++ word.between returnsBool ++ parenthesized right

/-- Where the right operand starts. -/
def rightStart (left : String) (word : OperatorWord) (returnsBool : Bool) : Nat :=
  byteSize (parenthesized left).toList + byteSize (word.between returnsBool).toList

/-- Only the types of the operands are left to judge. -/
theorem Expr.exists_parse_operandsText [Pattern.Engine] {left right : String} {lhs rhs : Expr}
    (parsedLeft : Expr.parse left = .ok lhs) (parsedRight : Expr.parse right = .ok rhs)
    (word : OperatorWord) {returnsBool : Bool}
    (comparison : returnsBool = true → word.op.isComparison = true) :
    ∃ opSpan, Expr.parse (operandsText left word returnsBool right) =
      (Parser.buildBinary word.op opSpan (lhs.inParens 0 left)
        (rhs.inParens (rightStart left word returnsBool) right) returnsBool none).mapError
          fun error => [error] := by
  obtain ⟨openLeft, tokensLeft, -, cutLeft, derivedLeft⟩ := exists_inParens parsedLeft 0
  obtain ⟨t, flag, isOperator, cutOperator, isFlag⟩ :=
    word.exists_between comparison (byteSize (parenthesized left).toList)
  obtain ⟨openRight, tokensRight, isOpening, cutRight, derivedRight⟩ :=
    exists_inParens parsedRight (rightStart left word returnsBool)
  have items : Token.items (operandsText left word returnsBool right) =
      ((openLeft :: tokensLeft) ++ t :: (flag ++ openRight :: tokensRight)).map .token := by
    have back := (cutOperator _).append (cutRight [])
    rw [← Nat.zero_add (byteSize (parenthesized left).toList)] at back
    have cut := (cutLeft _).append back
    rw [← List.append_assoc] at cut
    exact Token.Cuts.items_eq (by simpa [operandsText] using cut)
  -- What a parenthesis begins is no clause, and what an operator begins is no suffix.
  have noWord (word : String) : Parser.isWord word openRight = false := by
    simp [Parser.isWord, isOpening]
  have noClause : (Grammar.matchingWord? openRight).isSome = false := by
    simp [Grammar.either?, noWord]
  have operandLeft := derivedLeft (some t) (Grammar.NotAhead.some_iff.mpr (BinaryOp.follows isOperator).2.2.1)
  have operandRight := derivedRight none (.none _)
  refine ⟨t.span, Grammar.parse_of_whole items ?_⟩
  exact Grammar.whole_binary operandLeft isOperator (isFlag _ (Grammar.NotAhead.some_iff.mpr (noWord _)))
    (Grammar.NotAhead.some_iff.mpr noClause) (.expr (.first operandRight) (.none _)) _

/-- What an operator without a matching clause takes: vectors and scalars, but no scalar if it is a set
operator, and not two scalars if it is a comparison that would have to drop one of them. -/
def BinaryOp.Takes (op : BinaryOp) (returnsBool : Bool) (left right : ValueType) : Prop :=
  (left = .scalar ∨ left = .vector) ∧ (right = .scalar ∨ right = .vector) ∧
    ¬(op.isSetOperator = true ∧ (left = .scalar ∨ right = .scalar)) ∧
    ¬(op.isComparison = true ∧ returnsBool = false ∧ left = .scalar ∧ right = .scalar)

theorem Parser.buildBinary_eq_ok_iff {op : BinaryOp} {returnsBool : Bool}
    (bool_comparison : returnsBool = true → op.isComparison = true) {lhs rhs e : Expr} (opSpan : Text.Span) :
    buildBinary op opSpan lhs rhs returnsBool none = .ok e ↔
      op.Takes returnsBool lhs.valueType rhs.valueType ∧
        e = .binary op lhs rhs returnsBool none (lhs.span.cover rhs.span) := by
  constructor
  · intro built
    obtain ⟨rfl, fits⟩ := buildBinary_ok built
    have left := ValueType.isNumeric_iff.mp fits.left_numeric
    have right := ValueType.isNumeric_iff.mp fits.right_numeric
    refine ⟨⟨left, right, ?_, ?_⟩, rfl⟩
    · rintro ⟨isSet, scalar⟩
      simp [fits.set_vectors isSet] at scalar
    · rintro ⟨isComparison, noBool, isLeft, isRight⟩
      simp [fits.scalars_bool isComparison isLeft isRight] at noBool
  · rintro ⟨⟨left, right, set, comparison⟩, rfl⟩
    rcases left with left | left <;> rcases right with right | right <;> cases returnsBool
    all_goals simp_all [buildBinary, ValueType.isNumeric]

/-- Two expressions in parentheses are the operands of an operator exactly if it takes their types. -/
theorem Expr.parse_operandsText [Pattern.Engine] {left right : String} {lhs rhs : Expr}
    (parsedLeft : Expr.parse left = .ok lhs) (parsedRight : Expr.parse right = .ok rhs)
    (word : OperatorWord) {returnsBool : Bool}
    (comparison : returnsBool = true → word.op.isComparison = true) :
    (Expr.parse (operandsText left word returnsBool right) =
        .ok (.binary word.op (lhs.inParens 0 left) (rhs.inParens (rightStart left word returnsBool) right)
          returnsBool none ⟨0, byteSize (operandsText left word returnsBool right).toList⟩) ↔
      word.op.Takes returnsBool lhs.valueType rhs.valueType) ∧
    (¬word.op.Takes returnsBool lhs.valueType rhs.valueType →
      ∃ error, Expr.parse (operandsText left word returnsBool right) = .error [error]) := by
  obtain ⟨opSpan, parsed⟩ := exists_parse_operandsText parsedLeft parsedRight word comparison
  let parenLhs := lhs.inParens 0 left
  let parenRhs := rhs.inParens (rightStart left word returnsBool) right
  -- The types of the operands are those of what the parentheses hold.
  have sameTypes : word.op.Takes returnsBool lhs.valueType rhs.valueType ↔
      word.op.Takes returnsBool parenLhs.valueType parenRhs.valueType := by
    simp [parenLhs, parenRhs, inParens, valueType]
  have covered : parenLhs.span.cover parenRhs.span =
      ⟨0, byteSize (operandsText left word returnsBool right).toList⟩ := by
    simp only [parenLhs, parenRhs, inParens, span, Text.Span.cover, operandsText, rightStart,
      String.toList_append, Text.byteSize_append, Text.Span.mk.injEq]
    omega
  rw [parsed, sameTypes, ← covered]
  cases built : Parser.buildBinary word.op opSpan parenLhs parenRhs returnsBool none with
  | ok e =>
    obtain ⟨takes, rfl⟩ := (Parser.buildBinary_eq_ok_iff comparison opSpan).mp built
    exact ⟨iff_of_true rfl takes, fun refused => absurd takes refused⟩
  | error error =>
    have refused : ¬word.op.Takes returnsBool parenLhs.valueType parenRhs.valueType := by
      intro takes
      rw [(Parser.buildBinary_eq_ok_iff comparison opSpan).mpr ⟨takes, rfl⟩] at built
      cases built
    exact ⟨iff_of_false (fun accepted => by cases accepted) refused, fun _ => ⟨error, rfl⟩⟩

theorem Expr.parse_operandsText_comparison :
    let _ := Pattern.Engine.ofAnswers []
    ∃ lhs rhs, Expr.parse "a # b" = .ok lhs ∧ Expr.parse "c" = .ok rhs ∧
      (Expr.parse (operandsText "a # b" BinaryOp.less.word true "c") =
          .ok (.binary .less (lhs.inParens 0 "a # b")
            (rhs.inParens (rightStart "a # b" BinaryOp.less.word true) "c") true none
            ⟨0, byteSize (operandsText "a # b" BinaryOp.less.word true "c").toList⟩) ↔
        BinaryOp.less.Takes true lhs.valueType rhs.valueType) ∧
      (¬BinaryOp.less.Takes true lhs.valueType rhs.valueType →
        ∃ error, Expr.parse (operandsText "a # b" BinaryOp.less.word true "c") = .error [error]) := by
  intro _
  have readsLeft : (Expr.parse "a # b").isOk = true := by cbv
  have readsRight : (Expr.parse "c").isOk = true := by cbv
  obtain ⟨lhs, parsedLeft⟩ := Grammar.exists_of_isOk readsLeft
  obtain ⟨rhs, parsedRight⟩ := Grammar.exists_of_isOk readsRight
  exact ⟨lhs, rhs, parsedLeft, parsedRight,
    parse_operandsText parsedLeft parsedRight BinaryOp.less.word fun _ => rfl⟩

end QueryLint

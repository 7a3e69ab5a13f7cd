import QueryLint.Proofs.Expr.Precedence

/-! Trees of operators over a chain of operands.

A chain is a first operand and further ones, each behind an operator. Many trees show the same chain when
they are read from left to right; one of them groups it as the levels of the operators say. It is found by
adding the operators one after the other, each as far down on the right as its level allows, and a tree
that is grouped so is always the one that was found.
-/

set_option autoImplicit false

namespace QueryLint

namespace BinaryOp

/-- What may stand below an operator on its left: tighter operators, and those of its own level unless
they group to the right. -/
def TakesLeft (op o : BinaryOp) : Prop :=
  op.precedence < o.precedence ∨ (o.precedence = op.precedence ∧ op ≠ .pow)

/-- What may stand below an operator on its right: tighter operators, and powers below a power. -/
def TakesRight (op o : BinaryOp) : Prop :=
  op.precedence < o.precedence ∨ (o.precedence = op.precedence ∧ op = .pow)

theorem precedence_le_rightLevel (op : BinaryOp) : op.precedence ≤ op.rightLevel := by
  cases op <;> decide

theorem rightLevel_le_succ (op : BinaryOp) : op.rightLevel ≤ op.precedence + 1 := by
  cases op <;> decide

theorem takesLeft_iff {op o : BinaryOp} : op.TakesLeft o ↔ op.precedence < o.rightLevel := by
  constructor
  · rintro (tighter | ⟨same, noPower⟩)
    · exact Nat.lt_of_lt_of_le tighter o.precedence_le_rightLevel
    · have other : o ≠ .pow := by
        rintro rfl
        exact noPower (eq_pow_of_le (Nat.le_of_eq same))
      rw [rightLevel_eq other, same]
      exact Nat.lt_succ_self _
  · exact left_of_lt_rightLevel

theorem takesRight_iff {op o : BinaryOp} : op.TakesRight o ↔ op.rightLevel ≤ o.precedence := by
  constructor
  · rintro (tighter | ⟨same, rfl⟩)
    · exact Nat.le_trans op.rightLevel_le_succ tighter
    · exact Nat.le_of_eq same.symm
  · exact right_of_rightLevel_le

end BinaryOp

/-- Operands joined by operators. -/
inductive OperatorTree (α : Type) where
  | leaf (operand : α)
  | node (op : BinaryOp) (left right : OperatorTree α)
  deriving DecidableEq

namespace OperatorTree

variable {α : Type}

/-- The chain that a tree shows: its first operand, and the operators with the operand behind each. -/
def inorder : OperatorTree α → α × List (BinaryOp × α)
  | .leaf operand => (operand, [])
  | .node op left right =>
    (left.inorder.1, left.inorder.2 ++ (op, right.inorder.1) :: right.inorder.2)

def operators (t : OperatorTree α) : List BinaryOp :=
  t.inorder.2.map Prod.fst

@[simp] theorem operators_leaf (operand : α) : (leaf operand).operators = [] := rfl

@[simp] theorem operators_node (op : BinaryOp) (left right : OperatorTree α) :
    (node op left right).operators = left.operators ++ op :: right.operators := by
  simp [operators, inorder]

/-- Every operator has below it only what it takes. -/
inductive Grouped : OperatorTree α → Prop
  | leaf {operand : α} : Grouped (.leaf operand)
  | node {op : BinaryOp} {left right : OperatorTree α} :
      Grouped left → Grouped right → (∀ o ∈ left.operators, op.TakesLeft o) →
      (∀ o ∈ right.operators, op.TakesRight o) → Grouped (.node op left right)

/-- Adds an operator and its right operand at the end of the chain. -/
def insert (op : BinaryOp) (operand : α) : OperatorTree α → OperatorTree α
  | .leaf first => .node op (.leaf first) (.leaf operand)
  | .node o left right =>
    if o.rightLevel ≤ op.precedence then .node o left (right.insert op operand)
    else .node op (.node o left right) (.leaf operand)

theorem inorder_insert (op : BinaryOp) (operand : α) (t : OperatorTree α) :
    (t.insert op operand).inorder = (t.inorder.1, t.inorder.2 ++ [(op, operand)]) := by
  induction t with
  | leaf first => rfl
  | node o left right _ ih =>
    rw [insert]
    split
    · simp [inorder, ih]
    · rfl

theorem operators_insert (op : BinaryOp) (operand : α) (t : OperatorTree α) :
    (t.insert op operand).operators = t.operators ++ [op] := by
  simp [operators, inorder_insert]

theorem Grouped.insert {t : OperatorTree α} (grouped : t.Grouped) (op : BinaryOp) (operand : α) :
    (t.insert op operand).Grouped := by
  induction grouped with
  | leaf => exact .node .leaf .leaf (by simp) (by simp)
  | @node o left right groupedLeft groupedRight onLeft onRight _ ih =>
    rw [OperatorTree.insert]
    split
    · next level =>
      refine .node groupedLeft ih onLeft ?_
      intro o' member
      rw [operators_insert, List.mem_append, List.mem_singleton] at member
      rcases member with member | rfl
      · exact onRight o' member
      · exact BinaryOp.takesRight_iff.mpr level
    · next level =>
      -- All that stood below `o` binds at least as tightly as `o`, so it may stand below `op` too.
      refine .node (.node groupedLeft groupedRight onLeft onRight) .leaf ?_ (by simp)
      intro o' member
      have atMost := o.rightLevel_le_succ
      have atLeast := o'.precedence_le_rightLevel
      rw [operators_node, List.mem_append, List.mem_cons] at member
      rw [BinaryOp.takesLeft_iff]
      rcases member with member | rfl | member
      · have := BinaryOp.takesLeft_iff.mp (onLeft o' member)
        omega
      · omega
      · have := BinaryOp.takesRight_iff.mp (onRight o' member)
        omega

/-- Adds operators with their right operands, one after the other. -/
def insertAll (t : OperatorTree α) (rest : List (BinaryOp × α)) : OperatorTree α :=
  rest.foldl (fun t (op, operand) => t.insert op operand) t

theorem insertAll_append (t : OperatorTree α) (front back : List (BinaryOp × α)) :
    t.insertAll (front ++ back) = (t.insertAll front).insertAll back :=
  List.foldl_append

/-- The tree of a chain. -/
def ofChain (first : α) (rest : List (BinaryOp × α)) : OperatorTree α :=
  (leaf first).insertAll rest

theorem inorder_insertAll (rest : List (BinaryOp × α)) (t : OperatorTree α) :
    (t.insertAll rest).inorder = (t.inorder.1, t.inorder.2 ++ rest) := by
  induction rest generalizing t with
  | nil => simp [insertAll]
  | cons link rest ih =>
    change ((t.insert link.1 link.2).insertAll rest).inorder = _
    rw [ih, inorder_insert, List.append_assoc]
    rfl

theorem inorder_ofChain (first : α) (rest : List (BinaryOp × α)) :
    (ofChain first rest).inorder = (first, rest) :=
  inorder_insertAll rest (leaf first)

theorem Grouped.insertAll {t : OperatorTree α} (grouped : t.Grouped) (rest : List (BinaryOp × α)) :
    (t.insertAll rest).Grouped := by
  induction rest generalizing t with
  | nil => exact grouped
  | cons link rest ih => exact ih (grouped.insert link.1 link.2)

theorem grouped_ofChain (first : α) (rest : List (BinaryOp × α)) : (ofChain first rest).Grouped :=
  Grouped.leaf.insertAll rest

/-- An operator that takes all of a tree on its left becomes the root. -/
theorem insert_eq_node {op : BinaryOp} {t : OperatorTree α} (onLeft : ∀ o ∈ t.operators, op.TakesLeft o)
    (operand : α) : t.insert op operand = .node op t (.leaf operand) := by
  cases t with
  | leaf first => rfl
  | node o left right =>
    have looser : op.precedence < o.rightLevel := BinaryOp.takesLeft_iff.mp (onLeft o (by simp))
    rw [insert, if_neg (Nat.not_le.mpr looser)]

/-- Operators that a root takes on its right go there. -/
theorem insertAll_node {op : BinaryOp} (left : OperatorTree α) {rest : List (BinaryOp × α)}
    (onRight : ∀ o ∈ rest.map Prod.fst, op.TakesRight o) (right : OperatorTree α) :
    (node op left right).insertAll rest = .node op left (right.insertAll rest) := by
  induction rest generalizing right with
  | nil => rfl
  | cons link rest ih =>
    have level : op.rightLevel ≤ link.1.precedence := BinaryOp.takesRight_iff.mp (onRight _ (by simp))
    have step : (node op left right).insert link.1 link.2 = .node op left (right.insert link.1 link.2) := by
      rw [insert, if_pos level]
    change ((node op left right).insert link.1 link.2).insertAll rest = _
    rw [step, ih fun o member => onRight o (List.mem_cons_of_mem _ member)]
    rfl

/-- A grouped tree is the tree of the chain that it shows. -/
theorem Grouped.eq_ofChain {t : OperatorTree α} (grouped : t.Grouped) :
    t = ofChain t.inorder.1 t.inorder.2 := by
  induction grouped with
  | leaf => rfl
  | @node op left right _ _ onLeft onRight ihLeft ihRight =>
    have split : ofChain left.inorder.1 (left.inorder.2 ++ (op, right.inorder.1) :: right.inorder.2) =
        ((ofChain left.inorder.1 left.inorder.2).insert op right.inorder.1).insertAll right.inorder.2 :=
      insertAll_append _ _ _
    rw [inorder, split, ← ihLeft, insert_eq_node onLeft, insertAll_node left onRight]
    exact congrArg (OperatorTree.node op left) ihRight

example : ofChain "a" [(.sub, "b"), (.pow, "c"), (.pow, "d"), (.sub, "e")] =
    .node .sub (.node .sub (.leaf "a") (.node .pow (.leaf "b") (.node .pow (.leaf "c") (.leaf "d"))))
      (.leaf "e") := by
  decide

end OperatorTree

end QueryLint

import QueryLint.Expr.Basic

/-! Traversal of expression trees: a node before its children, children in order. -/

set_option autoImplicit false

namespace QueryLint.Expr

/-- Every node below and including `e`, with its ancestors, root first; `path` leads to `e`. -/
def preorder (path : List Expr) (e : Expr) : List (Expr × List Expr) :=
  (e, path) :: e.children.attach.flatMap fun ⟨child, _⟩ => preorder (path ++ [e]) child
  termination_by sizeOf e
  decreasing_by exact sizeOf_lt_of_mem_children ‹_›

/-- Calls `visit` on every node with its ancestors; in a monad with failure the first failing call
ends the walk. The state is the path to the node; while its children are visited it leads to them. -/
def walk {m : Type → Type} [Monad m] (visit : Expr → List Expr → m Unit) (e : Expr) :
    StateT (List Expr) m Unit := do
  visit e (← get)
  modifyThe (List Expr) (· ++ [e])
  e.children.attach.forM fun ⟨child, _⟩ => walk visit child
  modifyThe (List Expr) List.dropLast
  termination_by sizeOf e
  decreasing_by exact sizeOf_lt_of_mem_children ‹_›

/-- The walk from a node that `path` leads to. -/
def inspect {m : Type → Type} [Monad m] (visit : Expr → List Expr → m Unit) (path : List Expr)
    (e : Expr) : m Unit :=
  (walk visit e).run' path

end QueryLint.Expr

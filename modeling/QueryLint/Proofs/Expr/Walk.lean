import Mathlib.Data.List.Forall2
import QueryLint.Expr.Walk

/-! What a walk of a tree does: it calls the visitor on the nodes in preorder, whatever the visitor
does to the state and wherever it fails. Preorder is the order of the addresses of the nodes. -/

set_option autoImplicit false

namespace QueryLint.Expr

theorem preorder_eq (path : List Expr) (e : Expr) :
    preorder path e = (e, path) :: e.children.flatMap (preorder (path ++ [e])) := by
  rw [preorder, List.flatMap_subtype (fun _ _ => rfl), List.unattach_attach]

section

variable {m : Type → Type} [Monad m] [LawfulMonad m] (visit : Expr → List Expr → m Unit)

theorem walk_eq (e : Expr) : walk visit e = (do
    visit e (← get)
    modifyThe (List Expr) (· ++ [e])
    e.children.forM (walk visit)
    modifyThe (List Expr) List.dropLast) := by
  have loop : e.children.attach.forM (fun child => walk visit child.1) = e.children.forM (walk visit) := by
    conv => rhs; rw [← List.attach_map_subtype_val e.children]
    exact List.forM_map.symm
  rw [walk, loop]

/-- A walk is a loop over the nodes in preorder, each with its ancestors, and in the end the path is again what
it was. -/
theorem run_walk (path : List Expr) (e : Expr) :
    (walk visit e).run path =
      (fun _ => ((), path)) <$> (preorder path e).forM fun (n, ancestors) => visit n ancestors := by
  -- The theorem is used for every child, so the list has to be one of children of `e`.
  have below (children : List Expr) (sub : children ⊆ e.children) :
      (children.forM (walk visit)).run (path ++ [e]) = (fun _ => ((), path ++ [e])) <$>
        (children.flatMap (preorder (path ++ [e]))).forM fun (n, ancestors) => visit n ancestors := by
    induction children with
    | nil => simp
    | cons child children ih =>
      have member : child ∈ e.children := sub (by simp)
      have rest := ih fun c inRest => sub (by simp [inRest])
      simp only [List.forM_eq_forM] at rest ⊢
      rw [List.flatMap_cons, List.forM_append, List.forM_cons, StateT.run_bind, run_walk (path ++ [e]) child]
      simp [rest]
  have children := below e.children fun _ member => member
  rw [List.forM_eq_forM] at children
  rw [walk_eq, preorder_eq]
  simp [children]
  termination_by sizeOf e
  decreasing_by exact sizeOf_lt_of_mem_children member

theorem inspect_eq_forM (path : List Expr) (e : Expr) :
    inspect visit path e = (preorder path e).forM fun (n, ancestors) => visit n ancestors := by
  rw [inspect, StateT.run'_eq, run_walk]
  simp

end

/-- The nodes of a tree in preorder. -/
def nodes (e : Expr) : List Expr :=
  (preorder [] e).map Prod.fst

theorem map_fst_preorder (path : List Expr) (e : Expr) :
    (preorder path e).map Prod.fst = e :: e.children.flatMap nodes := by
  rw [preorder_eq, List.map_cons, List.map_flatMap]
  simp only [List.flatMap_def]
  refine congrArg (e :: List.flatten ·) (List.map_congr_left fun child member => ?_)
  rw [map_fst_preorder (path ++ [e]) child, nodes, map_fst_preorder [] child]
  termination_by sizeOf e
  decreasing_by all_goals exact sizeOf_lt_of_mem_children member

theorem nodes_eq (e : Expr) : nodes e = e :: e.children.flatMap nodes :=
  map_fst_preorder [] e

/-! Addresses.

The address of a node gives the number of the child that is taken at each step from the root. Addresses
are compared as words: an ancestor comes first, and of two children the one on the left. -/

/-- The address leads from a root to a node, past the given ancestors of the node, the root first. -/
inductive Leads : Expr → List Nat → List Expr → Expr → Prop
  | here {e : Expr} : Leads e [] [] e
  | down {e child n : Expr} {i : Nat} {address : List Nat} {ancestors : List Expr} :
      e.children[i]? = some child → Leads child address ancestors n →
      Leads e (i :: address) (e :: ancestors) n

/-- The entries are the nodes at the addresses with their ancestors, and the addresses are in order. -/
structure Lists (e : Expr) (addresses : List (List Nat)) (entries : List (Expr × List Expr)) : Prop where
  ordered : addresses.Pairwise (· < ·)
  leads : List.Forall₂ (fun address entry => Leads e address entry.2 entry.1) addresses entries

theorem preorder_path (path : List Expr) (e : Expr) :
    preorder path e = (preorder [] e).map fun entry => (entry.1, path ++ entry.2) := by
  have below : ∀ child ∈ e.children, preorder (path ++ [e]) child =
      (preorder [e] child).map fun entry => (entry.1, path ++ entry.2) := by
    intro child member
    rw [preorder_path (path ++ [e]) child, preorder_path [e] child]
    simp
  rw [preorder_eq, preorder_eq [], List.map_cons, List.map_flatMap, List.nil_append, List.append_nil]
  simp only [List.flatMap_def]
  rw [List.map_congr_left below]
  termination_by sizeOf e
  decreasing_by all_goals exact sizeOf_lt_of_mem_children member

/-- The entries below a child of `e` are those of the child, one step further from the root. -/
theorem Lists.down {e child : Expr} {i : Nat} {addresses : List (List Nat)}
    {entries : List (Expr × List Expr)} (isChild : e.children[i]? = some child)
    (lists : Lists child addresses entries) :
    Lists e (addresses.map (i :: ·)) (entries.map fun entry => (entry.1, e :: entry.2)) where
  ordered := by
    rw [List.pairwise_map]
    exact lists.ordered.imp fun less => List.cons_lt_cons_iff.mpr (.inr ⟨rfl, less⟩)
  leads := by
    rw [List.forall₂_map_left_iff, List.forall₂_map_right_iff]
    exact lists.leads.imp fun _ _ leads => .down isChild leads

theorem Lists.append {e : Expr} {front back : List (List Nat)} {entries more : List (Expr × List Expr)}
    (first : Lists e front entries) (second : Lists e back more)
    (apart : ∀ a ∈ front, ∀ b ∈ back, a < b) : Lists e (front ++ back) (entries ++ more) where
  ordered := List.pairwise_append.mpr ⟨first.ordered, second.ordered, apart⟩
  leads := List.rel_append first.leads second.leads

/-- Every node has its address in the list. -/
def Complete (e : Expr) (addresses : List (List Nat)) : Prop :=
  ∀ address ancestors n, Leads e address ancestors n → address ∈ addresses

/-- The addresses below the children from some number on. -/
theorem exists_below {e : Expr}
    (each : ∀ child ∈ e.children, ∃ addresses,
      Lists child addresses (preorder [] child) ∧ Complete child addresses)
    (front back : List Expr) (split : e.children = front ++ back) :
    ∃ addresses, Lists e addresses (back.flatMap (preorder [e])) ∧
      (∀ address ∈ addresses, ∃ i rest, address = i :: rest ∧ front.length ≤ i) ∧
      ∀ i rest ancestors n, front.length ≤ i → Leads e (i :: rest) ancestors n →
        i :: rest ∈ addresses := by
  induction back generalizing front with
  | nil =>
    refine ⟨[], ⟨.nil, .nil⟩, by simp, ?_⟩
    intro i rest ancestors n beyond leads
    cases leads with
    | down isChild =>
      rw [split, List.append_nil, List.getElem?_eq_none beyond] at isChild
      cases isChild
  | cons child back ih =>
    have isChild : e.children[front.length]? = some child := by simp [split]
    obtain ⟨own, lists, complete⟩ := each child (List.mem_of_getElem? isChild)
    obtain ⟨others, listsOthers, behind, completeOthers⟩ := ih (front ++ [child]) (by simp [split])
    rw [List.length_append, List.length_singleton] at behind completeOthers
    have entries : preorder [e] child = (preorder [] child).map fun entry => (entry.1, e :: entry.2) :=
      preorder_path [e] child
    refine ⟨own.map (front.length :: ·) ++ others, ?_, ?_, ?_⟩
    · -- The addresses of this child begin with its number, those of the others with a greater one.
      rw [List.flatMap_cons, entries]
      refine (lists.down isChild).append listsOthers fun a inOwn b inOthers => ?_
      obtain ⟨a, -, rfl⟩ := List.mem_map.mp inOwn
      obtain ⟨j, rest, rfl, less⟩ := behind b inOthers
      exact List.cons_lt_cons_iff.mpr (.inl less)
    · intro address member
      rcases List.mem_append.mp member with inOwn | inOthers
      · obtain ⟨a, -, rfl⟩ := List.mem_map.mp inOwn
        exact ⟨_, a, rfl, Nat.le_refl _⟩
      · obtain ⟨j, rest, rfl, less⟩ := behind address inOthers
        exact ⟨j, rest, rfl, Nat.le_of_lt less⟩
    · intro i rest ancestors n atLeast leads
      -- An address leads into this child or into one of the others.
      rcases Nat.eq_or_lt_of_le atLeast with rfl | less
      · cases leads with
        | down isChild' leads =>
          cases isChild.symm.trans isChild'
          exact List.mem_append_left _ (List.mem_map_of_mem (complete _ _ _ leads))
      · exact List.mem_append_right _ (completeOthers i rest ancestors n less leads)

/-- The entries of a tree in preorder are its nodes, each once, in the order of their addresses and with
their ancestors. -/
theorem exists_addresses (e : Expr) :
    ∃ addresses, Lists e addresses (preorder [] e) ∧ Complete e addresses := by
  have each : ∀ child ∈ e.children, ∃ addresses,
      Lists child addresses (preorder [] child) ∧ Complete child addresses :=
    fun child member => exists_addresses child
  obtain ⟨below, lists, behind, complete⟩ := exists_below each [] e.children rfl
  refine ⟨[] :: below, ⟨?_, ?_⟩, ?_⟩
  · refine List.pairwise_cons.mpr ⟨fun address member => ?_, lists.ordered⟩
    obtain ⟨i, rest, rfl, -⟩ := behind address member
    exact List.nil_lt_cons i rest
  · rw [preorder_eq]
    exact .cons .here lists.leads
  · intro address ancestors n leads
    cases address with
    | nil => exact List.mem_cons_self
    | cons i rest => exact List.mem_cons_of_mem _ (complete i rest ancestors n (Nat.zero_le i) leads)
  termination_by sizeOf e
  decreasing_by exact sizeOf_lt_of_mem_children member

/-! Calls. -/

section

variable {σ ε : Type} (visit : Expr → List Expr → ExceptT ε (StateM σ) Unit)

/-- The visitor, with a list of the nodes and ancestors that it was called on. -/
def recorded (n : Expr) (ancestors : List Expr) :
    ExceptT ε (StateM (σ × List (Expr × List Expr))) Unit :=
  ExceptT.mk fun (state, calls) =>
    let (answer, state) := (visit n ancestors).run.run state
    (answer, state, calls ++ [(n, ancestors)])

/-- Calls on the entries, one after the other, all succeed and lead from one state to another. -/
inductive Passes : σ → List (Expr × List Expr) → σ → Prop
  | nil {s : σ} : Passes s [] s
  | cons {s s' s'' : σ} {n : Expr} {ancestors : List Expr} {entries : List (Expr × List Expr)} :
      (visit n ancestors).run.run s = (.ok (), s') → Passes s' entries s'' →
      Passes s ((n, ancestors) :: entries) s''

/-- How calls on entries end: all of them succeed, or those before the last one do, which fails. -/
inductive WalkEnds (s : σ) (entries : List (Expr × List Expr)) :
    List (Expr × List Expr) → Except ε Unit → σ → Prop
  | passed {s' : σ} : Passes visit s entries s' → WalkEnds s entries entries (.ok ()) s'
  | stopped {s' s'' : σ} {before after : List (Expr × List Expr)} {n : Expr} {ancestors : List Expr}
      {error : ε} :
      entries = before ++ (n, ancestors) :: after → Passes visit s before s' →
      (visit n ancestors).run.run s' = (.error error, s'') →
      WalkEnds s entries (before ++ [(n, ancestors)]) (.error error) s''

variable {visit}

theorem WalkEnds.cons {s s' s'' : σ} {n : Expr} {ancestors : List Expr}
    {entries calls : List (Expr × List Expr)} {answer : Except ε Unit}
    (called : (visit n ancestors).run.run s = (.ok (), s'))
    (ends : WalkEnds visit s' entries calls answer s'') :
    WalkEnds visit s ((n, ancestors) :: entries) ((n, ancestors) :: calls) answer s'' := by
  cases ends with
  | passed passes => exact .passed (.cons called passes)
  | stopped split passes failed => exact .stopped (by rw [split]; rfl) (.cons called passes) failed

theorem WalkEnds.isPrefix {s s' : σ} {entries calls : List (Expr × List Expr)}
    {answer : Except ε Unit} (ends : WalkEnds visit s entries calls answer s') : calls <+: entries := by
  cases ends with
  | passed => exact List.prefix_rfl
  | @stopped _ _ before after n ancestors _ split => exact ⟨after, by simp [split]⟩

theorem run_recorded {n : Expr} {ancestors : List Expr} {s s' : σ} {answer : Except ε Unit}
    (called : (visit n ancestors).run.run s = (answer, s')) (earlier : List (Expr × List Expr)) :
    (recorded visit n ancestors).run.run (s, earlier) = (answer, s', earlier ++ [(n, ancestors)]) := by
  have logged : (recorded visit n ancestors).run.run (s, earlier) =
      (((visit n ancestors).run.run s).1, ((visit n ancestors).run.run s).2,
        earlier ++ [(n, ancestors)]) := rfl
  rw [logged, called]

variable (visit)

/-- A loop over entries, and what its visitor was called on. -/
theorem forM_walkEnds (entries : List (Expr × List Expr)) (s : σ) (earlier : List (Expr × List Expr)) :
    ∃ calls answer s', WalkEnds visit s entries calls answer s' ∧
      (entries.forM fun (n, ancestors) => visit n ancestors).run.run s = (answer, s') ∧
      (entries.forM fun (n, ancestors) => recorded visit n ancestors).run.run (s, earlier) =
        (answer, s', earlier ++ calls) := by
  induction entries generalizing s earlier with
  | nil => exact ⟨[], .ok (), s, .passed .nil, rfl, by rw [List.append_nil]; rfl⟩
  | cons entry entries ih =>
    obtain ⟨n, ancestors⟩ := entry
    simp only [List.forM_eq_forM, List.forM_cons, ExceptT.run_bind, StateT.run_bind]
    cases called : (visit n ancestors).run.run s with
    | mk answer s' =>
      rw [run_recorded called]
      cases answer with
      | error error =>
        exact ⟨[(n, ancestors)], .error error, s', .stopped (List.nil_append _).symm .nil called, rfl, rfl⟩
      | ok _ =>
        obtain ⟨calls, answer, final, ends, ran, logged⟩ := ih s' (earlier ++ [(n, ancestors)])
        refine ⟨(n, ancestors) :: calls, answer, final, .cons called ends, ran, ?_⟩
        rw [List.append_assoc] at logged
        exact logged

end

end QueryLint.Expr

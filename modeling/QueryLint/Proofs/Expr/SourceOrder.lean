import QueryLint.Proofs.Expr.Conditions
import QueryLint.Proofs.Rule.DeniedLabels

/-! A walk of a parsed tree goes forward in the text.

A node starts before the nodes below it, and it ends before its next sibling starts. So the starts of
the nodes never go back in preorder, and neither do those of the selectors, which have no nodes below
them; the findings at selectors come in the same order.
-/

set_option autoImplicit false

namespace QueryLint

namespace Grammar

/-- The first node starts before the second does, and if it has no parts, it also ends there. -/
def Precedes (a b : Expr) : Prop :=
  a.span.start ≤ b.span.start ∧ (a.children = [] → a.span.Before b.span)

theorem AllPlaced.child {ts : List Token} {e child : Expr} (all : AllPlaced ts e)
    (member : child ∈ e.children) : AllPlaced ts child :=
  fun n reached => all n (Expr.reaches_iff.mpr (.inr ⟨child, member, reached⟩))

/-- Every node of a tree lies inside its root. -/
theorem AllPlaced.inside {ts : List Token} {e n : Expr} (all : AllPlaced ts e) (member : n ∈ e.nodes) :
    n.span.Inside e.span := by
  rw [Expr.nodes_eq, List.mem_cons, List.mem_flatMap] at member
  rcases member with rfl | ⟨child, isChild, member⟩
  · exact ⟨Nat.le_refl _, Nat.le_refl _⟩
  · exact ((all.child isChild).inside member).trans (all.own.children_inside child isChild)
  termination_by sizeOf e
  decreasing_by exact Expr.sizeOf_lt_of_mem_children isChild

/-- What lies in two spans that stand one behind the other. -/
theorem Precedes.of_before {ts : List Token} {a b : Expr} {left right : Text.Span} (placed : a.WellPlaced ts)
    (inLeft : a.span.Inside left) (before : left.Before right) (inRight : b.span.Inside right) :
    Precedes a b := by
  have apart : a.span.Before b.span := Nat.le_trans inLeft.2 (Nat.le_trans before inRight.1)
  exact ⟨Nat.le_trans (Nat.le_of_lt placed.nonempty) apart, fun _ => apart⟩

/-- In preorder, every node precedes the later ones. -/
theorem AllPlaced.nodes_ordered {ts : List Token} {e : Expr} (all : AllPlaced ts e) :
    e.nodes.Pairwise Precedes := by
  rw [Expr.nodes_eq, List.pairwise_cons, List.pairwise_flatMap]
  refine ⟨?_, ?_, ?_⟩
  · intro n below
    obtain ⟨child, isChild, member⟩ := List.mem_flatMap.mp below
    have inside := all.inside (n := n) (by rw [Expr.nodes_eq]; exact List.mem_cons_of_mem _ below)
    refine ⟨inside.1, fun noChildren => ?_⟩
    rw [noChildren] at isChild
    cases isChild
  · intro child isChild
    exact (all.child isChild).nodes_ordered
  · refine all.own.children_apart.imp_of_mem fun {left right} isLeft isRight before a inLeft b inRight => ?_
    have allLeft := all.child isLeft
    exact .of_before (allLeft a (Expr.mem_nodes_iff.mp inLeft)) (allLeft.inside inLeft) before
      ((all.child isRight).inside inRight)
  termination_by sizeOf e
  decreasing_by exact Expr.sizeOf_lt_of_mem_children isChild

/-- The selectors of a tree start one behind the other. -/
theorem AllPlaced.matchers_ordered {ts : List Token} {e : Expr} (all : AllPlaced ts e) :
    e.matchers.Pairwise fun a b => a.1.span.start ≤ b.1.span.start := by
  rw [Expr.matchers, List.pairwise_flatMap]
  have wellPlaced (n : Expr) (member : n ∈ e.nodes) := all n (Expr.mem_nodes_iff.mp member)
  refine ⟨fun n _ => ?_, ?_⟩
  · -- All matchers of one node are in its only selector.
    refine List.pairwise_of_forall_mem_list fun a inA b inB => ?_
    have same : some a.1 = some b.1 :=
      (Expr.selector?_of_mem_ownMatchers inA).symm.trans (Expr.selector?_of_mem_ownMatchers inB)
    exact Nat.le_of_eq (congrArg (·.span.start) (Option.some.inj same))
  · refine all.nodes_ordered.imp_of_mem fun {n later} isNode isLater precedes a inA b inB => ?_
    have isSelector := Expr.selector?_of_mem_ownMatchers inA
    have first := (wellPlaced n isNode).selector a.1 isSelector
    have second := (wellPlaced later isLater).selector b.1 (Expr.selector?_of_mem_ownMatchers inB)
    have leaf : n.children = [] := by cases n <;> first | rfl | cases isSelector
    calc a.1.span.start ≤ a.1.span.stop := Nat.le_of_lt first.nonempty
      _ ≤ n.span.stop := first.inside.2
      _ ≤ later.span.start := precedes.2 leaf
      _ ≤ b.1.span.start := second.inside.1

end Grammar

namespace DeniedLabels

section

variable [Pattern.Engine] {rules : LabelMap} {color : ColorMode}

/-- A matcher has at most one finding, at its selector. -/
theorem finding_sublist {selector : Selector} {m : Matcher} {found : List Diagnostic}
    (checked : finding rules color selector m = .ok found) :
    (found.map (·.span)).Sublist [selector.span] := by
  unfold finding at checked
  split at checked
  · cases checked
    exact List.nil_sublist _
  · split at checked
    · cases checked
      exact List.nil_sublist _
    · split at checked
      · cases checked
      · cases checked
        split
        · exact List.Sublist.refl _
        · exact List.nil_sublist _

/-- Findings lie at the selectors of the matchers, in the same order. -/
theorem findings_sublist {pairs : List (Selector × Matcher)} {found : List Diagnostic}
    (checked : findings rules color pairs = .ok found) :
    (found.map (·.span)).Sublist (pairs.map (·.1.span)) := by
  induction pairs generalizing found with
  | nil =>
    cases checked
    exact List.nil_sublist _
  | cons pair pairs ih =>
    rw [findings, andThen] at checked
    obtain ⟨first, checkedFirst, checked⟩ := Grammar.bind_ok checked
    obtain ⟨more, checkedMore, checked⟩ := Grammar.bind_ok checked
    cases checked
    rw [List.map_append, List.map_cons]
    exact (finding_sublist checkedFirst).append (ih checkedMore)

/-- On a tree whose selectors come in the order of the text, the rule reports in that order. -/
theorem check_ordered {root : Expr}
    (ordered : root.matchers.Pairwise fun a b => a.1.span.start ≤ b.1.span.start) {found : List Diagnostic}
    (checked : check rules color root = .ok found) :
    found.Pairwise fun a b => a.span.start ≤ b.span.start := by
  rw [check_eq] at checked
  have selectors : (root.matchers.map (·.1.span)).Pairwise fun a b => a.start ≤ b.start :=
    List.pairwise_map.mpr ordered
  have spans := selectors.sublist (findings_sublist checked)
  rw [List.pairwise_map] at spans
  exact spans

end

end DeniedLabels

/-- A walk calls the visitor on the nodes in the order of their addresses, each with its ancestors: on all
of them, or up to the first on which the visitor fails, and it returns that failure. In a parsed tree the
nodes come in the order of the text, and so do the findings of the rule on denied labels. -/
theorem Expr.inspect_in_order [Pattern.Engine] (root : Expr) :
    (∃ addresses, root.Lists addresses (preorder [] root) ∧ root.Complete addresses) ∧
    (∀ (σ ε : Type) (visit : Expr → List Expr → ExceptT ε (StateM σ) Unit) (s : σ),
      ∃ calls answer s', WalkEnds visit s (preorder [] root) calls answer s' ∧
        calls <+: preorder [] root ∧
        (inspect visit [] root).run.run s = (answer, s') ∧
        (inspect (recorded visit) [] root).run.run (s, []) = (answer, s', calls)) ∧
    ∀ source, Expr.parse source = .ok root →
      ((preorder [] root).Pairwise fun a b => a.1.span.start ≤ b.1.span.start) ∧
      ∀ engine rules color found, @DeniedLabels.check engine rules color root = .ok found →
        found.Pairwise fun a b => a.span.start ≤ b.span.start := by
  refine ⟨exists_addresses root, ?_, ?_⟩
  · intro σ ε visit s
    obtain ⟨calls, answer, s', ends, ran, logged⟩ := forM_walkEnds visit (preorder [] root) s []
    rw [inspect_eq_forM, inspect_eq_forM]
    exact ⟨calls, answer, s', ends, ends.isPrefix, ran, logged⟩
  · intro source parsed
    obtain ⟨tokens, -, placed⟩ := Grammar.parse_placed parsed
    have nodes : root.nodes.Pairwise fun a b => a.span.start ≤ b.span.start :=
      placed.nodes.nodes_ordered.imp fun precedes => precedes.1
    rw [Expr.nodes, List.pairwise_map] at nodes
    have ordered := placed.nodes.matchers_ordered
    exact ⟨nodes, fun engine rules color found checked => DeniedLabels.check_ordered ordered checked⟩

theorem Expr.inspect_in_order_quotient :
    let _ := Pattern.Engine.ofAnswers []
    ∃ root, Expr.parse "rate(a\x7bj='x'\x7d[5m]) / b\x7bj='x'\x7d" = .ok root ∧
      ((preorder [] root).Pairwise fun a b => a.1.span.start ≤ b.1.span.start) ∧
      ∀ engine rules color found, @DeniedLabels.check engine rules color root = .ok found →
        found.Pairwise fun a b => a.span.start ≤ b.span.start := by
  intro _
  have reads : (Expr.parse "rate(a\x7bj='x'\x7d[5m]) / b\x7bj='x'\x7d").isOk = true := by cbv
  obtain ⟨root, parsed⟩ := Grammar.exists_of_isOk reads
  exact ⟨root, parsed, (inspect_in_order root).2.2 _ parsed⟩

end QueryLint

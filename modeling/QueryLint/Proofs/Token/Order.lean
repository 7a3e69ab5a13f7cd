import QueryLint.Proofs.Text.Offsets
import QueryLint.Token.Lexer

/-! Where the items of a text lie: one behind the other, none of them empty, and all inside the
text. -/

set_option autoImplicit false

namespace QueryLint

namespace Text.Span

/-- Nothing of `b` comes before the end of `a`. -/
def Before (a b : Span) : Prop :=
  a.stop ≤ b.start

/-- All of `a` lies in `b`. -/
def Inside (a b : Span) : Prop :=
  b.start ≤ a.start ∧ a.stop ≤ b.stop

theorem Inside.trans {a b c : Span} (inner : a.Inside b) (outer : b.Inside c) : a.Inside c :=
  ⟨Nat.le_trans outer.1 inner.1, Nat.le_trans inner.2 outer.2⟩

/-- Spans that are not empty and stand one behind the other between two offsets. -/
structure InOrder (low high : Nat) (spans : List Span) : Prop where
  apart : spans.Pairwise Before
  nonempty : ∀ s ∈ spans, s.start < s.stop
  bounded : ∀ s ∈ spans, low ≤ s.start ∧ s.stop ≤ high

theorem InOrder.nil (low high : Nat) : InOrder low high [] :=
  ⟨.nil, by simp, by simp⟩

theorem InOrder.cons {low high : Nat} {s : Span} {spans : List Span} (rest : InOrder s.stop high spans)
    (least : low ≤ s.start) (nonempty : s.start < s.stop) (most : s.stop ≤ high) :
    InOrder low high (s :: spans) := by
  refine ⟨List.pairwise_cons.mpr ⟨fun b member => (rest.bounded b member).1, rest.apart⟩,
    List.forall_mem_cons.mpr ⟨nonempty, rest.nonempty⟩, List.forall_mem_cons.mpr ⟨⟨least, most⟩, ?_⟩⟩
  intro b member
  have := rest.bounded b member
  omega

/-- More room does not matter. -/
theorem InOrder.widen {low high low' high' : Nat} {spans : List Span} (order : InOrder low high spans)
    (least : low' ≤ low) (most : high ≤ high') : InOrder low' high' spans := by
  refine ⟨order.apart, order.nonempty, ?_⟩
  intro s member
  have := order.bounded s member
  omega

theorem InOrder.sublist {low high : Nat} {spans part : List Span} (order : InOrder low high spans)
    (sub : part.Sublist spans) : InOrder low high part :=
  ⟨order.apart.sublist sub, fun s member => order.nonempty s (sub.subset member),
    fun s member => order.bounded s (sub.subset member)⟩

end Text.Span

namespace Token

open Text (Span byteSize)

def Item.span : Item → Span
  | .token t => t.span
  | .fault _ span => span

@[simp] theorem Item.span_ofShape (text : List Char) (span : Span) (shape : Shape) :
    (Item.ofShape text span shape).span = span := by
  cases shape <;> rfl

/-- All items of a text, tokens and faults, stand in order inside it. -/
theorem scan_inOrder (depth offset : Nat) (cs : List Char) :
    Span.InOrder offset (offset + byteSize cs) ((scan depth offset cs).map Item.span) := by
  fun_induction scan depth offset cs with
  | case1 => exact .nil _ _
  | case2 depth offset c rest _ ih =>
    have := c.utf8Size_pos
    exact ih.widen (by omega) (by simp only [byteSize]; omega)
  | case3 depth offset rest _ ih =>
    have comment := congrArg byteSize (List.takeWhile_append_dropWhile (p := (· ≠ '\n')) (l := rest))
    have : '#'.utf8Size = 1 := rfl
    rw [Text.byteSize_append] at comment
    exact ih.widen (by omega) (by simp only [byteSize]; omega)
  | case4 depth offset c rest _ _ kind n _ text stop ih =>
    -- An item holds its first character at least, so it is not empty.
    have := c.utf8Size_pos
    have := Text.byteSize_take_drop n rest
    simp only [List.map_cons, Item.span_ofShape]
    refine .cons (ih.widen (Nat.le_refl _) ?_) (Nat.le_refl _) ?_ ?_ <;>
      simp only [stop, text, byteSize] <;> omega

end Token

end QueryLint

import QueryLint.Token.Lexer

/-! Tokens at other places.

A `Span.Move` changes spans and keeps what two of them cover together; moving a text within a
larger one is such a change, and so is forgetting all places.
-/

set_option autoImplicit false

namespace QueryLint

open Text (Span)

namespace Text.Span

-- The parser makes spans from those of tokens by `cover` alone, so it commutes with such a change.
/-- A change of spans that commutes with `cover`. -/
structure Move where
  map : Span → Span
  map_cover : ∀ a b, map (a.cover b) = (map a).cover (map b)

namespace Move

/-- Puts `n` bytes in front. -/
def right (n : Nat) : Move :=
  ⟨Span.shift n, shift_cover n⟩

/-- The span in a text that has `n` bytes less in front. -/
def unshift (n : Nat) (s : Span) : Span :=
  ⟨s.start - n, s.stop - n⟩

theorem unshift_cover (n : Nat) (a b : Span) :
    unshift n (a.cover b) = (unshift n a).cover (unshift n b) := by
  simp only [unshift, cover, Span.mk.injEq]
  omega

/-- Takes `n` bytes away in front. -/
def left (n : Nat) : Move :=
  ⟨unshift n, unshift_cover n⟩

theorem left_right (n : Nat) (s : Span) : (left n).map ((right n).map s) = s := by
  simp [left, unshift, right, shift]

end Move

end Text.Span

open Text.Span (Move)

def Token.move (φ : Move) (t : Token) : Token :=
  { t with span := φ.map t.span }

@[simp] theorem Token.move_kind (φ : Move) (t : Token) : (t.move φ).kind = t.kind := rfl

@[simp] theorem Token.move_text (φ : Move) (t : Token) : (t.move φ).text = t.text := rfl

@[simp] theorem Token.move_span (φ : Move) (t : Token) : (t.move φ).span = φ.map t.span := rfl

namespace Token

open Text (byteSize)

def Item.move (φ : Move) : Item → Item
  | .token t => .token (t.move φ)
  | .fault cause span => .fault cause (φ.map span)

theorem Item.move_ofShape (φ : Move) (text : List Char) (span : Span) (shape : Shape) :
    (Item.ofShape text span shape).move φ = .ofShape text (φ.map span) shape := by
  cases shape <;> rfl

/-- The scanner counts from the offset it starts at. -/
theorem scan_right (depth offset n : Nat) (cs : List Char) :
    scan depth (offset + n) cs = (scan depth offset cs).map (Item.move (.right n)) := by
  fun_induction scan depth offset cs with
  | case1 => rw [scan, List.map_nil]
  | case2 depth offset c rest isBlank ih => rw [scan, if_pos isBlank, Nat.add_right_comm, ih]
  | case3 depth offset rest noBlank ih =>
    rw [scan, if_neg noBlank, if_pos rfl, Nat.add_right_comm offset n, Nat.add_right_comm, ih]
  | case4 depth offset c rest noBlank noHash kind k isShape text stop ih =>
    rw [scan, if_neg noBlank, if_neg noHash, isShape, List.map_cons, Item.move_ofShape]
    simp only [Nat.add_right_comm offset n]
    rw [ih]
    rfl

end Token

end QueryLint

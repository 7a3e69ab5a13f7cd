/-! Half-open ranges of byte offsets into a text. -/

set_option autoImplicit false

namespace QueryLint.Text

/-- The bytes from `start` up to, and not including, `stop`. -/
structure Span where
  start : Nat
  stop : Nat
  deriving DecidableEq, Repr, Inhabited

namespace Span

/-- The smallest span that holds both. -/
def cover (a b : Span) : Span :=
  ⟨min a.start b.start, max a.stop b.stop⟩

/-- Number of bytes, zero when the ends are out of order. -/
def length (s : Span) : Nat :=
  s.stop - s.start

def isEmpty (s : Span) : Bool :=
  s.length == 0

/-- Whether the ends are in order and inside a text of `size` bytes. -/
def fits (s : Span) (size : Nat) : Bool :=
  s.start ≤ s.stop && s.stop ≤ size

/-- The same span in a text that has `n` more bytes in front. -/
def shift (n : Nat) (s : Span) : Span :=
  ⟨s.start + n, s.stop + n⟩

theorem fits_iff {s : Span} {size : Nat} :
    s.fits size = true ↔ s.start ≤ s.stop ∧ s.stop ≤ size := by
  simp [fits]

theorem cover_self (s : Span) : s.cover s = s := by
  simp [cover]

theorem shift_cover (n : Nat) (a b : Span) :
    (a.cover b).shift n = (a.shift n).cover (b.shift n) := by
  simp only [shift, cover, Span.mk.injEq]
  omega

end Span

end QueryLint.Text

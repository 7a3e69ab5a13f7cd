import Mathlib.Data.Prod.Lex
import Mathlib.Order.Bounds.Defs
import QueryLint.Proofs.Text.Place

/-! Places and offsets.

Every character takes a place further, to the next column or the next line. So between characters, where
all of the text before an offset is passed, places keep the order of offsets and tell them apart; and the
line and column of such an offset lead back to it. Any other offset has the place of the next one between
characters, or of the end.
-/

set_option autoImplicit false

namespace QueryLint.Text

/-- Of two fronts of a text, the one with fewer bytes is a front of the other. -/
theorem exists_eq_append {front back front' back' : List Char} (same : front ++ back = front' ++ back')
    (order : byteSize front ≤ byteSize front') : ∃ more, front' = front ++ more := by
  rcases List.append_eq_append_iff.mp same with ⟨more, longer, -⟩ | ⟨more, longer, -⟩
  · exact ⟨more, longer⟩
  · rw [longer, byteSize_append] at order
    obtain rfl := byteSize_eq_zero (show byteSize more = 0 by omega)
    exact ⟨[], by rw [longer, List.append_nil, List.append_nil]⟩

namespace Place

/-- Places in the order of the text: by line, and on one line by column. -/
def key (p : Place) : ℕ ×ₗ ℕ :=
  toLex (p.line, p.column)

theorem key_lt_next (p : Place) (c : Char) : p.key < (p.next c).key := by
  rw [key, key, Prod.Lex.toLex_lt_toLex, next]
  split
  · exact .inl (Nat.lt_succ_self p.line)
  · exact .inr ⟨rfl, Nat.lt_succ_self p.column⟩

theorem key_lt_foldl_next {cs : List Char} (some : cs ≠ []) (p : Place) : p.key < (cs.foldl next p).key := by
  induction cs generalizing p with
  | nil => exact absurd rfl some
  | cons c cs ih =>
    rw [List.foldl_cons]
    have step := p.key_lt_next c
    by_cases last : cs = []
    · rw [last]
      exact step
    · exact step.trans (ih last (p.next c))

/-! Between characters. -/

theorem passed_append (front back : List Char) : passed (byteSize front) (front ++ back) = front := by
  induction front with
  | nil => rw [byteSize, passed]
  | cons c front ih =>
    have positive := c.utf8Size_pos
    obtain ⟨n, size⟩ := Nat.exists_eq_succ_of_ne_zero (show byteSize (c :: front) ≠ 0 by rw [byteSize]; omega)
    have rest : n + 1 - c.utf8Size = byteSize front := by
      rw [byteSize] at size
      omega
    rw [size, List.cons_append, passed, rest, ih]

/-- Between characters all of the text before the offset is passed. -/
theorem ofOffset_append (front back : List Char) :
    ofOffset (front ++ back) (byteSize front) = front.foldl next ⟨1, 0⟩ := by
  rw [ofOffset, skip_eq, passed_append]

theorem strictMonoOn_key (text : List Char) :
    StrictMonoOn (fun offset => (ofOffset text offset).key) {offset | Boundary text offset} := by
  rintro _ ⟨front, back, rfl, rfl⟩ _ ⟨front', back', same, rfl⟩ less
  obtain ⟨more, rfl⟩ := exists_eq_append same less.le
  have some : more ≠ [] := by
    rintro rfl
    simp at less
  have second : ofOffset (front ++ back) (byteSize (front ++ more)) =
      more.foldl next (front.foldl next ⟨1, 0⟩) := by
    rw [same, ofOffset_append, List.foldl_append]
  change (ofOffset (front ++ back) (byteSize front)).key < (ofOffset (front ++ back) (byteSize (front ++ more))).key
  rw [second, ofOffset_append]
  exact key_lt_foldl_next some _

/-- The place of an offset between characters leads back to it: from the start of the line as many
characters as the column says. -/
theorem slice?_ofOffset {text : List Char} {offset : Nat} (boundary : Boundary text offset) :
    let place := ofOffset text offset
    let line := lineText text place.line
    lineStart place.line text ≤ offset ∧ place.column ≤ line.length ∧
      slice? (lineStart place.line text) offset text = some (line.take place.column) := by
  obtain ⟨front, back, split, size⟩ := boundary
  obtain ⟨n, whole, column, rest, division⟩ := exists_division text offset
  have isFront : front = whole ++ column := by
    rw [← division.passed_eq, split, size, passed_append]
  rw [isFront, byteSize_append] at size
  simp only [division.ofOffset_eq, division.lineStart_eq, division.lineText_eq, List.take_left]
  refine ⟨by omega, by simp, ?_⟩
  rw [size, division.split]
  exact slice?_append whole column rest

/-! Other offsets. -/

/-- The next offset between characters is behind the characters passed. -/
theorem isLeast_passed {text : List Char} {offset : Nat} (within : offset ≤ byteSize text) :
    IsLeast {stop | Boundary text stop ∧ offset ≤ stop} (byteSize (passed offset text)) := by
  obtain ⟨back, split⟩ := passed_isPrefix offset text
  refine ⟨⟨⟨_, back, split.symm, rfl⟩, le_byteSize_passed within⟩, ?_⟩
  rintro _ ⟨⟨front, rest, split', rfl⟩, reach⟩
  by_contra shorter
  obtain ⟨more, longer⟩ := exists_eq_append (split'.symm.trans split.symm) (Nat.le_of_not_le shorter)
  rcases List.eq_nil_or_concat more with rfl | ⟨init, c, rfl⟩
  · rw [longer, List.append_nil] at shorter
    exact shorter le_rfl
  · have last : passed offset text = front ++ init ++ [c] := by
      rw [longer, List.concat_eq_append, List.append_assoc]
    have before := byteSize_lt_of_passed last
    rw [byteSize_append] at before
    omega

theorem ofOffset_passed (text : List Char) (offset : Nat) :
    ofOffset text (byteSize (passed offset text)) = ofOffset text offset := by
  obtain ⟨back, split⟩ := passed_isPrefix offset text
  have whole := ofOffset_append (passed offset text) back
  rw [split] at whole
  rw [whole, ofOffset, skip_eq]

/-- Behind the end everything is passed. -/
theorem passed_eq_self {text : List Char} {offset : Nat} (beyond : byteSize text ≤ offset) :
    passed offset text = text := by
  fun_induction passed offset text with
  | case1 cs => exact (byteSize_eq_zero (Nat.le_zero.mp beyond)).symm
  | case2 => rfl
  | case3 n c cs ih =>
    rw [byteSize] at beyond
    rw [ih (by omega)]

/-- Lines and columns can be turned back into offsets. For an offset between two characters, the text from
the start of its line up to it is the first characters of that line, as many as the column says. So such
offsets have different places, in their order. An offset inside a character has the place of the next one
between characters, and an offset behind the text has the place of its end. -/
theorem ofOffset_invertible (text : List Char) :
    (∀ offset, Boundary text offset →
      let place := ofOffset text offset
      let line := lineText text place.line
      lineStart place.line text ≤ offset ∧ place.column ≤ line.length ∧
        slice? (lineStart place.line text) offset text = some (line.take place.column)) ∧
    Set.InjOn (ofOffset text) {offset | Boundary text offset} ∧
    StrictMonoOn (fun offset => (ofOffset text offset).key) {offset | Boundary text offset} ∧
    (∀ offset ≤ byteSize text, ∃ next, IsLeast {stop | Boundary text stop ∧ offset ≤ stop} next ∧
      ofOffset text offset = ofOffset text next) ∧
    ∀ offset, byteSize text ≤ offset → ofOffset text offset = ofOffset text (byteSize text) := by
  refine ⟨fun offset => slice?_ofOffset, ?_, strictMonoOn_key text, fun offset within => ?_,
    fun offset beyond => ?_⟩
  · intro first isFirst second isSecond same
    exact (strictMonoOn_key text).injOn isFirst isSecond (congrArg key same)
  · exact ⟨_, isLeast_passed within, (ofOffset_passed text offset).symm⟩
  · rw [← ofOffset_passed, passed_eq_self beyond]

/-- The second character of a second line, behind a character of two bytes. -/
theorem ofOffset_invertible_second_line :
    let text := ['é', '\n', 'a', 'b']
    Boundary text 4 ∧ ofOffset text 4 = ⟨2, 1⟩ ∧ lineStart 2 text = 3 ∧ lineText text 2 = ['a', 'b'] ∧
      slice? 3 4 text = some ['a'] ∧
      ∃ next, IsLeast {stop | Boundary text stop ∧ 1 ≤ stop} next ∧ ofOffset text 1 = ofOffset text next := by
  intro text
  have boundary : Boundary text 4 := ⟨['é', '\n', 'a'], ['b'], rfl, rfl⟩
  obtain ⟨between, -, -, inside, -⟩ := ofOffset_invertible text
  obtain ⟨-, -, cut⟩ := between 4 boundary
  exact ⟨boundary, rfl, rfl, rfl, cut, inside 1 (by decide)⟩

end Place

end QueryLint.Text

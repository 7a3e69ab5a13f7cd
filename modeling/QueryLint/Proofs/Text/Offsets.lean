import QueryLint.Text.Utf8

/-! Byte offsets between the characters of a text. -/

set_option autoImplicit false

namespace QueryLint.Text

theorem byteSize_take_drop (n : Nat) (cs : List Char) :
    byteSize (cs.take n) + byteSize (cs.drop n) = byteSize cs := by
  rw [← byteSize_append, List.take_append_drop]

theorem cutAt?_append (front back : List Char) :
    cutAt? (byteSize front) (front ++ back) = some (front, back) := by
  induction front with
  | nil => rw [byteSize, List.nil_append, cutAt?]
  | cons c front ih =>
    have positive := c.utf8Size_pos
    obtain ⟨n, size⟩ : ∃ n, byteSize (c :: front) = n + 1 :=
      ⟨byteSize (c :: front) - 1, by simp only [byteSize]; omega⟩
    rw [byteSize] at size
    have rest : n + 1 - c.utf8Size = byteSize front := by omega
    rw [byteSize, size, List.cons_append, cutAt?, if_pos (by omega), rest, ih]
    rfl

/-- The offset lies between two characters of the text or at one of its ends. -/
def Boundary (cs : List Char) (n : Nat) : Prop :=
  ∃ front back, cs = front ++ back ∧ n = byteSize front

theorem byteSize_eq_zero {cs : List Char} (none : byteSize cs = 0) : cs = [] := by
  cases cs with
  | nil => rfl
  | cons c cs =>
    have positive := c.utf8Size_pos
    rw [byteSize] at none
    omega

theorem cutAt?_eq_some_iff {n : Nat} {cs front back : List Char} :
    cutAt? n cs = some (front, back) ↔ cs = front ++ back ∧ n = byteSize front := by
  constructor
  · intro cut
    fun_induction cutAt? n cs generalizing front back with
    | case1 =>
      cases cut
      exact ⟨rfl, rfl⟩
    | case2 => cases cut
    | case3 n c cs whole ih =>
      obtain ⟨⟨front, back⟩, cut, same⟩ := Option.map_eq_some_iff.mp cut
      cases same
      obtain ⟨rfl, size⟩ := ih cut
      exact ⟨rfl, by rw [byteSize]; omega⟩
    | case4 => cases cut
  · rintro ⟨rfl, rfl⟩
    exact cutAt?_append front back

/-- A text in front moves the boundaries. -/
theorem boundary_append_left (front cs : List Char) (n : Nat) :
    Boundary (front ++ cs) (byteSize front + n) ↔ Boundary cs n := by
  constructor
  · rintro ⟨f, b, split, size⟩
    rcases List.append_eq_append_iff.mp split with ⟨more, rfl, rfl⟩ | ⟨more, rfl, rfl⟩
    · rw [byteSize_append] at size
      exact ⟨more, b, rfl, by omega⟩
    · rw [byteSize_append] at size
      exact ⟨[], cs, rfl, by rw [byteSize]; omega⟩
  · rintro ⟨f, b, rfl, rfl⟩
    exact ⟨front ++ f, b, (List.append_assoc ..).symm, (byteSize_append ..).symm⟩

/-- A text behind adds boundaries beyond the end only. -/
theorem boundary_append_right {cs : List Char} {n : Nat} (within : n ≤ byteSize cs) (back : List Char) :
    Boundary (cs ++ back) n ↔ Boundary cs n := by
  constructor
  · rintro ⟨f, b, split, rfl⟩
    rcases List.append_eq_append_iff.mp split with ⟨more, rfl, rfl⟩ | ⟨more, rfl, rfl⟩
    · rw [byteSize_append] at within
      obtain rfl := byteSize_eq_zero (show byteSize more = 0 by omega)
      exact ⟨cs, [], by simp, by simp⟩
    · exact ⟨f, more, rfl, rfl⟩
  · rintro ⟨f, b, rfl, rfl⟩
    exact ⟨f, b ++ back, List.append_assoc .., rfl⟩

/-- Both offsets are boundaries, and something stands between them. -/
def Encloses (cs : List Char) (start stop : Nat) : Prop :=
  start < stop ∧ Boundary cs start ∧ Boundary cs stop

theorem Encloses.split {cs : List Char} {start stop : Nat} (encloses : Encloses cs start stop) :
    ∃ before inside after, cs = before ++ (inside ++ after) ∧ start = byteSize before ∧
      stop = byteSize before + byteSize inside ∧ inside ≠ [] := by
  obtain ⟨order, ⟨before, rest, rfl, rfl⟩, second⟩ := encloses
  obtain ⟨n, rfl⟩ := Nat.exists_eq_add_of_lt order
  rw [Nat.add_assoc, boundary_append_left] at second
  obtain ⟨inside, after, rfl, size⟩ := second
  refine ⟨before, inside, after, rfl, rfl, by omega, ?_⟩
  rintro rfl
  cases size

/-- What offsets enclose in a part of a text, they enclose in the text. -/
theorem encloses_part {cs : List Char} {start stop : Nat} (starts : start ≤ byteSize cs)
    (stops : stop ≤ byteSize cs) (front back : List Char) :
    Encloses (front ++ (cs ++ back)) (byteSize front + start) (byteSize front + stop) ↔
      Encloses cs start stop := by
  rw [Encloses, Encloses, Nat.add_lt_add_iff_left, boundary_append_left, boundary_append_left,
    boundary_append_right starts, boundary_append_right stops]

/-- The offsets of a part of a text cut that part out of it. -/
theorem slice?_append (before inside after : List Char) :
    slice? (byteSize before) (byteSize before + byteSize inside) (before ++ (inside ++ after)) =
      some inside := by
  have noSwap : ¬byteSize before + byteSize inside < byteSize before := by omega
  have length : byteSize before + byteSize inside - byteSize before = byteSize inside := by omega
  rw [slice?, if_neg noSwap, cutAt?_append, length]
  simp [cutAt?_append]

/-- What offsets cut out of a text stands between them. -/
theorem slice?_eq_some {start stop : Nat} {cs inside : List Char} (cut : slice? start stop cs = some inside) :
    ∃ before after, cs = before ++ (inside ++ after) ∧ start = byteSize before ∧
      stop = start + byteSize inside := by
  unfold slice? at cut
  split at cut
  · cases cut
  · next order =>
    obtain ⟨⟨before, rest⟩, first, cut⟩ := Option.bind_eq_some_iff.mp cut
    obtain ⟨⟨inside, after⟩, second, cut⟩ := Option.bind_eq_some_iff.mp cut
    cases cut
    obtain ⟨rfl, startSize⟩ := cutAt?_eq_some_iff.mp first
    obtain ⟨rfl, size⟩ := cutAt?_eq_some_iff.mp second
    exact ⟨before, after, rfl, startSize, by omega⟩

/-- ASCII characters have one byte each. -/
theorem byteSize_of_ascii {cs : List Char} (ascii : ∀ c ∈ cs, c.toNat < 128) : byteSize cs = cs.length := by
  induction cs with
  | nil => rfl
  | cons c cs ih =>
    rw [List.forall_mem_cons] at ascii
    have below : c.val ≤ 127 := UInt32.le_iff_toNat_le.mpr (Nat.le_of_lt_succ ascii.1)
    rw [byteSize, Char.utf8Size_eq_one_iff.mpr below, ih ascii.2, List.length_cons, Nat.add_comm]

end QueryLint.Text

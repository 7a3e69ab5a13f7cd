import QueryLint.Proofs.Token.Order

/-! How far the scanner looks ahead.

Behind a digit it looks for a unit or an exponent, behind a word for more of the word, behind some
symbols for a second one. `Alike` says of two texts that they answer all these questions in the same
way, or the second one with no where the first one could have been read on; a token in front of the
first is then also a token in front of the second.
-/

set_option autoImplicit false

namespace QueryLint.Token

open Text (Span byteSize)

/-- No character that passes the test comes first. -/
def Stops (test : Char → Bool) (cs : List Char) : Prop :=
  ∀ c ∈ cs.head?, test c = false

/-- A blank, a comment or the end comes first. -/
def Breaks (cs : List Char) : Prop :=
  ∀ c ∈ cs.head?, isSpace c = true ∨ c = '#'

/-- A test that neither blanks nor the start of a comment pass. -/
def Visible (test : Char → Bool) : Prop :=
  ∀ c, isSpace c = true ∨ c = '#' → test c = false

theorem isSpace_iff {c : Char} :
    isSpace c = true ↔ c = ' ' ∨ c = '\t' ∨ c = '\n' ∨ c = '\x0c' ∨ c = '\r' := by
  simp [isSpace, or_assoc]

/-- Tests of literal characters can be checked on the blanks one by one. -/
theorem visible_iff {test : Char → Bool} :
    Visible test ↔ test ' ' = false ∧ test '\t' = false ∧ test '\n' = false ∧
      test '\x0c' = false ∧ test '\r' = false ∧ test '#' = false := by
  simp only [Visible, isSpace_iff, or_assoc]
  constructor
  · intro all
    exact ⟨all _ (by simp), all _ (by simp), all _ (by simp), all _ (by simp), all _ (by simp),
      all _ (by simp)⟩
  · rintro ⟨space, tab, newline, feed, carriage, hash⟩ c (rfl | rfl | rfl | rfl | rfl | rfl) <;>
      assumption

theorem Breaks.stops {test : Char → Bool} {cs : List Char} (breaks : Breaks cs)
    (visible : Visible test) : Stops test cs :=
  fun c first => visible c (breaks c first)

theorem Stops.append_congr {test : Char → Bool} {t t' : List Char} (w : List Char)
    (stops : Stops test (w ++ t)) (congr : Stops test t → Stops test t') : Stops test (w ++ t') := by
  cases w with
  | nil => exact congr stops
  | cons c w => exact stops

theorem Stops.head?_ne {test : Char → Bool} {cs : List Char} (stops : Stops test cs) {c : Char}
    (passes : test c = true) : cs.head? ≠ some c := by
  intro first
  rw [stops c first] at passes
  cases passes

/-- The blanks and the start of a comment, one by one. -/
theorem Breaks.cases {cs : List Char} (breaks : Breaks cs) :
    cs = [] ∨ ∃ rest, cs = ' ' :: rest ∨ cs = '\t' :: rest ∨ cs = '\n' :: rest ∨
      cs = '\x0c' :: rest ∨ cs = '\r' :: rest ∨ cs = '#' :: rest := by
  cases cs with
  | nil => exact .inl rfl
  | cons c rest =>
    have first := breaks c rfl
    simp only [isSpace_iff, or_assoc] at first
    exact .inr ⟨rest, by simpa using first⟩

theorem visible_digit : Visible Char.isDigit := visible_iff.mpr (by decide)

theorem visible_hexDigit : Visible isHexDigit := visible_iff.mpr (by decide)

theorem visible_startsIdentifier : Visible startsIdentifier := visible_iff.mpr (by decide)

theorem visible_continuesIdentifier : Visible continuesIdentifier := visible_iff.mpr (by decide)

theorem visible_literal {a : Char} (notBlank : isSpace a = false) (notHash : a ≠ '#') :
    Visible (· = a) := by
  rintro c (blank | rfl)
  · simp only [decide_eq_false_iff_not]
    rintro rfl
    rw [blank] at notBlank
    cases notBlank
  · simpa using notHash.symm

/-! Counting. -/

theorem countWhile_eq_zero_iff {test : Char → Bool} {cs : List Char} :
    countWhile test cs = 0 ↔ Stops test cs := by
  cases cs with
  | nil => simp [countWhile, Stops]
  | cons c rest => cases passes : test c <;> simp [countWhile, Stops, passes]

/-- What a count over the front of a text depends on, if it does not reach the end of the front. -/
theorem countWhile_append_eq {test : Char → Bool} {w t t' : List Char}
    (short : countWhile test (w ++ t) ≤ w.length) (stops : Stops test t → Stops test t') :
    countWhile test (w ++ t') = countWhile test (w ++ t) := by
  induction w with
  | nil =>
    have none : countWhile test t = 0 := Nat.le_zero.mp short
    rw [List.nil_append, List.nil_append, none]
    exact countWhile_eq_zero_iff.mpr (stops (countWhile_eq_zero_iff.mp none))
  | cons c w ih =>
    cases passes : test c with
    | false => simp [countWhile, passes]
    | true =>
      have step : ∀ s, countWhile test (c :: w ++ s) = countWhile test (w ++ s) + 1 := by
        simp [countWhile, passes]
      rw [step, List.length_cons] at short
      rw [step, step, ih (Nat.le_of_succ_le_succ short)]

/-- A run of characters that pass ends where the test stops. -/
theorem countWhile_of_stops {test : Char → Bool} {w t : List Char} (all : ∀ c ∈ w, test c = true)
    (stops : Stops test t) : countWhile test (w ++ t) = w.length := by
  have nothing : (t.takeWhile test).length = 0 := countWhile_eq_zero_iff.mpr stops
  rw [countWhile, List.takeWhile_append_of_pos all, List.length_append, nothing, Nat.add_zero]

/-- A count that ends exactly with the front. -/
theorem stops_of_countWhile {test : Char → Bool} {w t : List Char}
    (exact : countWhile test (w ++ t) = w.length) : (∀ c ∈ w, test c = true) ∧ Stops test t := by
  induction w with
  | nil => exact ⟨by simp, countWhile_eq_zero_iff.mp exact⟩
  | cons c w ih =>
    cases passes : test c with
    | false => simp [countWhile, passes] at exact
    | true =>
      have step : countWhile test (c :: w ++ t) = countWhile test (w ++ t) + 1 := by
        simp [countWhile, passes]
      rw [step, List.length_cons] at exact
      obtain ⟨all, stops⟩ := ih (Nat.succ.inj exact)
      exact ⟨List.forall_mem_cons.mpr ⟨passes, all⟩, stops⟩

theorem all_of_countWhile {test : Char → Bool} {w : List Char} (whole : countWhile test w = w.length) :
    ∀ c ∈ w, test c = true :=
  (stops_of_countWhile (t := []) (by rw [List.append_nil, whole])).1

/-- Texts that the lengths of tokens in front of them cannot tell apart, if no token reaches into
the first of them. -/
structure Alike (t t' : List Char) : Prop where
  stops : ∀ test, Visible test → Stops test t → Stops test t'
  hex : ∀ w, hexLength (w ++ t) = 0 → hexLength (w ++ t') = 0
  exponent : ∀ w, exponentLength (w ++ t) = 0 → exponentLength (w ++ t') = 0
  unit : unitLength t = 0 → unitLength t' = 0
  duration : durationLength t = 0 → durationLength t' = 0

/-! Numbers. -/

theorem hexLength_eq (c x : Char) (rest : List Char) :
    hexLength (c :: x :: rest) =
      if c = '0' ∧ (x = 'x' ∨ x = 'X') ∧ 0 < countWhile isHexDigit rest
      then 2 + countWhile isHexDigit rest else 0 := by
  by_cases zero : c = '0'
  · subst zero
    simp [hexLength]
  · simp [hexLength, zero]

theorem hexLength_eq_zero_iff {c x : Char} {rest : List Char} :
    hexLength (c :: x :: rest) = 0 ↔
      (c = '0' → x = 'x' ∨ x = 'X' → Stops isHexDigit rest) := by
  rw [hexLength_eq, ← countWhile_eq_zero_iff]
  by_cases zero : c = '0' <;> by_cases mark : x = 'x' ∨ x = 'X' <;> simp [zero, mark]

theorem hexLength_eq_zero_of_breaks {u v : List Char} (breaks : Breaks v) (w : List Char)
    (none : hexLength (w ++ u) = 0) : hexLength (w ++ v) = 0 := by
  -- The zero, the mark and the digits can lie on both sides of the border.
  match w with
  | [] => obtain rfl | ⟨rest, rfl | rfl | rfl | rfl | rfl | rfl⟩ := breaks.cases <;> rfl
  | [c] =>
    obtain rfl | ⟨rest, rfl | rfl | rfl | rfl | rfl | rfl⟩ := breaks.cases
    · simp [hexLength]
    all_goals
      rw [List.singleton_append, hexLength_eq_zero_iff]
      rintro - (mark | mark) <;> cases mark
  | c :: x :: w =>
    simp only [List.cons_append, hexLength_eq_zero_iff] at none ⊢
    exact fun zero mark => (none zero mark).append_congr w fun _ => breaks.stops visible_hexDigit

/-- Length of the sign in front, if there is one. -/
def signLength : List Char → Nat
  | '+' :: _ | '-' :: _ => 1
  | _ => 0

theorem exponentLength_eq (c : Char) (rest : List Char) :
    exponentLength (c :: rest) =
      if c = 'e' ∨ c = 'E' then
        let digits := countWhile Char.isDigit (rest.drop (signLength rest))
        if digits = 0 then 0 else 1 + signLength rest + digits
      else 0 := by
  simp only [exponentLength, Bool.or_eq_true, decide_eq_true_eq]
  rfl

theorem signLength_le_one (cs : List Char) : signLength cs ≤ 1 := by
  unfold signLength
  split <;> omega

theorem signLength_le (cs : List Char) : signLength cs ≤ cs.length := by
  cases cs with
  | nil => exact Nat.le_refl 0
  | cons c rest => exact Nat.le_trans (signLength_le_one _) (Nat.succ_le_succ (Nat.zero_le _))

theorem signLength_cons (c : Char) (rest rest' : List Char) :
    signLength (c :: rest) = signLength (c :: rest') := by
  by_cases plus : c = '+'
  · rw [plus]
    rfl
  · by_cases minus : c = '-'
    · rw [minus]
      rfl
    · simp [signLength, plus, minus]

theorem Breaks.signLength_eq {v : List Char} (breaks : Breaks v) : signLength v = 0 := by
  obtain rfl | ⟨rest, rfl | rfl | rfl | rfl | rfl | rfl⟩ := breaks.cases <;> rfl

theorem exponentLength_eq_zero_iff {c : Char} {rest : List Char} :
    exponentLength (c :: rest) = 0 ↔
      (c = 'e' ∨ c = 'E' → Stops Char.isDigit (rest.drop (signLength rest))) := by
  rw [exponentLength_eq, ← countWhile_eq_zero_iff]
  by_cases mark : c = 'e' ∨ c = 'E'
  · simp only [mark, if_true, forall_const]
    split <;> omega
  · simp [mark]

theorem exponentLength_eq_of_pos {c : Char} {rest : List Char} (found : 0 < exponentLength (c :: rest)) :
    exponentLength (c :: rest) =
      1 + signLength rest + countWhile Char.isDigit (rest.drop (signLength rest)) ∧
      (c = 'e' ∨ c = 'E') ∧ 0 < countWhile Char.isDigit (rest.drop (signLength rest)) := by
  rw [exponentLength_eq] at found ⊢
  by_cases mark : c = 'e' ∨ c = 'E'
  · simp only [mark, if_true] at found ⊢
    split at found
    · cases found
    · next some =>
      rw [if_neg some]
      exact ⟨rfl, trivial, Nat.pos_of_ne_zero some⟩
  · rw [if_neg mark] at found
    cases found

theorem exponentLength_eq_zero_of_breaks {u v : List Char} (breaks : Breaks v) (w : List Char)
    (none : exponentLength (w ++ u) = 0) : exponentLength (w ++ v) = 0 := by
  -- The mark, the sign and the digits can lie on both sides of the border.
  match w with
  | [] => obtain rfl | ⟨rest, rfl | rfl | rfl | rfl | rfl | rfl⟩ := breaks.cases <;> rfl
  | [c] =>
    rw [List.singleton_append, exponentLength_eq_zero_iff, breaks.signLength_eq]
    exact fun _ => breaks.stops visible_digit
  | c :: s :: w =>
    simp only [List.cons_append, exponentLength_eq_zero_iff] at none ⊢
    rw [signLength_cons s _ (w ++ u)]
    intro mark
    have sign := signLength_le_one (s :: (w ++ u))
    rcases Nat.le_one_iff_eq_zero_or_eq_one.mp sign with zero | one
    · rw [zero] at none ⊢
      exact none mark
    · rw [one] at none ⊢
      exact (none mark).append_congr w fun _ => breaks.stops visible_digit

/-! Durations. -/

theorem unitBefore_of_stops {length : Nat} {rest : List Char} (stops : Stops startsIdentifier rest) :
    unitBefore length rest = length := by
  cases rest with
  | nil => rfl
  | cons c rest => simp [unitBefore, stops c rfl]

theorem stops_of_unitBefore {length : Nat} {rest : List Char} (found : 0 < unitBefore length rest) :
    Stops startsIdentifier rest ∧ unitBefore length rest = length := by
  cases rest with
  | nil => exact ⟨by simp [Stops], rfl⟩
  | cons c rest =>
    cases starts : startsIdentifier c with
    | false => simp [Stops, unitBefore, starts]
    | true => simp [unitBefore, starts] at found

def isUnitLetter (c : Char) : Bool :=
  ['s', 'm', 'h', 'd', 'w', 'y'].contains c

theorem unitLength_eq (c : Char) (rest : List Char) :
    unitLength (c :: rest) =
      if c = 'm' ∧ rest.head? = some 's' then unitBefore 2 rest.tail
      else if isUnitLetter c then unitBefore 1 rest else 0 := by
  generalize whole : c :: rest = cs
  unfold unitLength
  split
  · cases whole
    simp
  · cases whole
    simp [isUnitLetter]
  · next noPair =>
    cases whole
    have single : rest.head? ≠ some 's' := by
      intro first
      obtain ⟨more, rfl⟩ := List.head?_eq_some_iff.mp first
      exact noPair more rfl
    simp [isUnitLetter, single]
  iterate 4
    cases whole
    simp [isUnitLetter]
  · next _ notS notM notH notD notW notY =>
    have differs {a : Char} (absurd : ∀ more, cs = a :: more → False) : c ≠ a :=
      fun same => absurd rest (by rw [← whole, same])
    simp [isUnitLetter, differs notS, differs notM, differs notH, differs notD, differs notW,
      differs notY]

/-- A unit that lies in front of what follows. -/
theorem unitLength_append_eq {w t t' : List Char} (found : 0 < unitLength (w ++ t))
    (short : unitLength (w ++ t) ≤ w.length)
    (stops : Stops startsIdentifier t → Stops startsIdentifier t') :
    unitLength (w ++ t') = unitLength (w ++ t) := by
  cases w with
  | nil => exact absurd found (Nat.not_lt.mpr short)
  | cons c w =>
    rw [List.cons_append, List.cons_append, unitLength_eq, unitLength_eq] at *
    by_cases pair : c = 'm' ∧ (w ++ t).head? = some 's'
    · rw [if_pos pair] at found short ⊢
      obtain ⟨stopped, two⟩ := stops_of_unitBefore found
      cases w with
      | nil =>
        rw [two] at short
        cases short with
        | step impossible => cases impossible
      | cons s w =>
        rw [if_pos ⟨pair.1, pair.2⟩, two]
        exact unitBefore_of_stops (stopped.append_congr w stops)
    · rw [if_neg pair] at found short ⊢
      by_cases letter : isUnitLetter c = true
      · rw [if_pos letter] at found
        obtain ⟨stopped, one⟩ := stops_of_unitBefore found
        have stopped' := stopped.append_congr w stops
        rw [if_neg fun both => stopped'.head?_ne (by decide) both.2, if_pos letter, if_pos letter, one]
        exact unitBefore_of_stops stopped'
      · simp [letter] at found

theorem Stops.starts {cs : List Char} (stops : Stops continuesIdentifier cs) :
    Stops startsIdentifier cs := by
  intro c first
  have fails := stops c first
  simp only [continuesIdentifier, Bool.or_eq_false_iff] at fails
  exact fails.1.1

/-- Nothing behind the word in front matters for the unit it may be. -/
theorem unitLength_word {t t' : List Char} (c : Char) (w : List Char)
    (stops : Stops continuesIdentifier t) (stops' : Stops continuesIdentifier t') :
    unitLength (c :: (w ++ t')) = unitLength (c :: (w ++ t)) := by
  have same (length : Nat) (w : List Char) :
      unitBefore length (w ++ t') = unitBefore length (w ++ t) := by
    cases w with
    | nil => exact (unitBefore_of_stops stops'.starts).trans (unitBefore_of_stops stops.starts).symm
    | cons d w => rfl
  rw [unitLength_eq, unitLength_eq, same]
  cases w with
  | nil =>
    have noPair : ([] ++ t).head? ≠ some 's' := stops.head?_ne (by decide)
    have noPair' : ([] ++ t').head? ≠ some 's' := stops'.head?_ne (by decide)
    have neither : ¬(c = 'm' ∧ ([] ++ t).head? = some 's') := fun both => noPair both.2
    have neither' : ¬(c = 'm' ∧ ([] ++ t').head? = some 's') := fun both => noPair' both.2
    rw [if_neg neither, if_neg neither']
  | cons d w =>
    rw [show (d :: w ++ t').tail = w ++ t' from rfl, same]
    rfl

theorem durationLength_eq {cs : List Char} (digits : 0 < countWhile Char.isDigit cs)
    (unit : 0 < unitLength (cs.drop (countWhile Char.isDigit cs))) :
    durationLength cs = countWhile Char.isDigit cs +
      unitLength (cs.drop (countWhile Char.isDigit cs)) +
      durationLength (cs.drop (countWhile Char.isDigit cs +
        unitLength (cs.drop (countWhile Char.isDigit cs)))) := by
  rw [durationLength, dif_pos ⟨digits, unit⟩]

theorem durationLength_pos_iff {cs : List Char} :
    0 < durationLength cs ↔ 0 < countWhile Char.isDigit cs ∧
      0 < unitLength (cs.drop (countWhile Char.isDigit cs)) := by
  rw [durationLength]
  split <;> omega

/-! Numerals in front of texts that are alike. -/

theorem fractionLength_eq (c : Char) (rest : List Char) :
    fractionLength (c :: rest) = if c = '.' then 1 + countWhile Char.isDigit rest else 0 := by
  by_cases point : c = '.'
  · rw [point]
    rfl
  · simp [fractionLength, point]

theorem visible_point : Visible (· = '.') := visible_literal rfl (by decide)

theorem Alike.fractionLength_eq {w t t' : List Char} (alike : Alike t t')
    (short : fractionLength (w ++ t) ≤ w.length) :
    fractionLength (w ++ t') = fractionLength (w ++ t) := by
  cases w with
  | nil =>
    have zero_iff (cs : List Char) : fractionLength cs = 0 ↔ Stops (· = '.') cs := by
      cases cs with
      | nil => simp [fractionLength, Stops]
      | cons c cs => by_cases point : c = '.' <;> simp [Token.fractionLength_eq, Stops, point]
    have none : fractionLength t = 0 := Nat.le_zero.mp short
    rw [List.nil_append, List.nil_append, none, zero_iff]
    exact alike.stops _ visible_point ((zero_iff t).mp none)
  | cons c w =>
    rw [List.cons_append, List.cons_append, Token.fractionLength_eq, Token.fractionLength_eq] at *
    by_cases point : c = '.'
    · rw [if_pos point, List.length_cons] at short
      rw [if_pos point, if_pos point, countWhile_append_eq (by omega) (alike.stops _ visible_digit)]
    · rw [if_neg point, if_neg point]

theorem Alike.exponentLength_eq {w t t' : List Char} (alike : Alike t t')
    (short : exponentLength (w ++ t) ≤ w.length) :
    exponentLength (w ++ t') = exponentLength (w ++ t) := by
  rcases Nat.eq_zero_or_pos (exponentLength (w ++ t)) with none | found
  · rw [none, alike.exponent w none]
  · match w with
    | [] => exact absurd found (Nat.not_lt.mpr short)
    | [c] =>
      -- An exponent takes a digit behind its letter.
      rw [List.singleton_append] at found short
      obtain ⟨size, -, digits⟩ := exponentLength_eq_of_pos found
      rw [size, List.length_singleton] at short
      omega
    | c :: s :: w =>
      change exponentLength (c :: (s :: w ++ t')) = exponentLength (c :: (s :: w ++ t))
      rw [List.cons_append] at found short
      obtain ⟨size, mark, digits⟩ := exponentLength_eq_of_pos found
      have sameSign : signLength (s :: w ++ t') = signLength (s :: w ++ t) := signLength_cons s _ _
      have sign : signLength (s :: w ++ t) ≤ 1 := signLength_le_one _
      have within : signLength (s :: w ++ t) ≤ (s :: w).length := by
        rw [List.length_cons]
        omega
      rw [List.drop_append_of_le_length within] at size digits
      have sameDigits : countWhile Char.isDigit ((s :: w).drop (signLength (s :: w ++ t)) ++ t') =
          countWhile Char.isDigit ((s :: w).drop (signLength (s :: w ++ t)) ++ t) := by
        refine countWhile_append_eq ?_ (alike.stops _ visible_digit)
        rw [size] at short
        simp only [List.length_drop, List.length_cons] at short ⊢
        omega
      rw [size, Token.exponentLength_eq, if_pos mark, sameSign, List.drop_append_of_le_length within,
        sameDigits]
      exact if_neg (Nat.ne_of_gt digits)

/-- A decimal number that ends exactly with the front. -/
theorem Alike.decimalLength_eq {w t t' : List Char} (alike : Alike t t')
    (exact : decimalLength (w ++ t) = w.length) : decimalLength (w ++ t') = w.length := by
  simp only [decimalLength] at exact ⊢
  -- Each part ends inside `w`, so the next one starts at the same place in front of `t'`.
  have wholeShort : countWhile Char.isDigit (w ++ t) ≤ w.length := by omega
  rw [countWhile_append_eq wholeShort (alike.stops _ visible_digit)]
  generalize countWhile Char.isDigit (w ++ t) = whole at exact wholeShort ⊢
  rw [List.drop_append_of_le_length wholeShort] at exact ⊢
  have fractionShort : fractionLength (w.drop whole ++ t) ≤ (w.drop whole).length := by
    rw [List.length_drop]
    omega
  rw [alike.fractionLength_eq fractionShort]
  generalize fractionLength (w.drop whole ++ t) = fraction at exact fractionShort ⊢
  have mantissaShort : whole + fraction ≤ w.length := by omega
  rw [List.drop_append_of_le_length mantissaShort] at exact ⊢
  have exponentShort : exponentLength (w.drop (whole + fraction) ++ t) ≤
      (w.drop (whole + fraction)).length := by
    rw [List.length_drop]
    omega
  rw [alike.exponentLength_eq exponentShort]
  exact exact

theorem unitLength_eq_zero {c : Char} (noLetter : isUnitLetter c = false) (rest : List Char) :
    unitLength (c :: rest) = 0 := by
  have notM : c ≠ 'm' := by
    rintro rfl
    cases noLetter
  rw [unitLength_eq, if_neg fun both => notM both.1, noLetter]
  rfl

/-- The fraction or exponent behind the digits of a decimal number is no unit. -/
theorem unitLength_behind_digits {w t : List Char} (exact : decimalLength (w ++ t) = w.length)
    (more : w.drop (countWhile Char.isDigit (w ++ t)) ≠ []) (s : List Char) :
    unitLength (w.drop (countWhile Char.isDigit (w ++ t)) ++ s) = 0 := by
  simp only [decimalLength] at exact
  have wholeShort : countWhile Char.isDigit (w ++ t) ≤ w.length := by omega
  generalize countWhile Char.isDigit (w ++ t) = whole at exact wholeShort more ⊢
  rw [List.drop_append_of_le_length wholeShort] at exact
  obtain ⟨c, rest, split⟩ := List.exists_cons_of_ne_nil more
  rw [split, List.cons_append] at exact ⊢
  apply unitLength_eq_zero
  -- What follows the digits is a fraction, or else an exponent.
  by_cases point : c = '.'
  · rw [point]
    rfl
  · have size : (w.drop whole).length = rest.length + 1 := by rw [split, List.length_cons]
    rw [List.length_drop] at size
    rw [fractionLength_eq, if_neg point, Nat.add_zero, List.drop_append_of_le_length wholeShort,
      split, List.cons_append] at exact
    have found : 0 < exponentLength (c :: (rest ++ t)) := by omega
    obtain ⟨-, rfl | rfl, -⟩ := exponentLength_eq_of_pos found <;> rfl

/-- A duration that ends exactly with the front. -/
theorem Alike.durationLength_eq {t t' : List Char} (alike : Alike t t') (w : List Char)
    (exact : durationLength (w ++ t) = w.length) : durationLength (w ++ t') = w.length := by
  by_cases empty : w = []
  · subst empty
    exact alike.duration exact
  · have nonempty := List.length_pos_iff.mpr empty
    obtain ⟨digits, unit⟩ := durationLength_pos_iff.mp (exact ▸ nonempty)
    rw [Token.durationLength_eq digits unit] at exact
    have digitsShort : countWhile Char.isDigit (w ++ t) ≤ w.length := by omega
    have sameDigits := countWhile_append_eq digitsShort (alike.stops _ visible_digit)
    generalize countWhile Char.isDigit (w ++ t) = d at *
    rw [List.drop_append_of_le_length digitsShort] at exact unit
    have unitShort : unitLength (w.drop d ++ t) ≤ (w.drop d).length := by
      rw [List.length_drop]
      omega
    have sameUnit := unitLength_append_eq unit unitShort (alike.stops _ visible_startsIdentifier)
    generalize unitLength (w.drop d ++ t) = u at *
    -- The first number and its unit are the same; what is left of `w` is a shorter duration.
    have partShort : d + u ≤ w.length := by omega
    rw [List.drop_append_of_le_length partShort] at exact
    have rest := alike.durationLength_eq (w.drop (d + u)) (by rw [List.length_drop]; omega)
    have unit' : 0 < unitLength ((w ++ t').drop (countWhile Char.isDigit (w ++ t'))) := by
      rwa [sameDigits, List.drop_append_of_le_length digitsShort, sameUnit]
    rw [Token.durationLength_eq (sameDigits ▸ digits) unit', sameDigits,
      List.drop_append_of_le_length digitsShort, sameUnit, List.drop_append_of_le_length partShort,
      rest, List.length_drop]
    omega
  termination_by w.length
  decreasing_by
    rw [List.length_drop]
    omega

/-- A hexadecimal number that ends exactly with the front. -/
theorem Alike.hexLength_eq {w t t' : List Char} (alike : Alike t t') (found : 0 < hexLength (w ++ t))
    (exact : hexLength (w ++ t) = w.length) : hexLength (w ++ t') = w.length := by
  match w with
  | [] => exact absurd exact (Nat.ne_of_gt found)
  | [c] =>
    cases t with
    | nil => simp [hexLength] at found
    | cons x t =>
      rw [List.singleton_append, Token.hexLength_eq, List.length_singleton] at exact
      split at exact <;> omega
  | c :: x :: w =>
    simp only [List.cons_append, Token.hexLength_eq] at exact found ⊢
    split at exact
    · next shape =>
      simp only [List.length_cons] at exact ⊢
      have same : countWhile isHexDigit (w ++ t') = countWhile isHexDigit (w ++ t) :=
        countWhile_append_eq (by omega) (alike.stops _ visible_hexDigit)
      rw [same, if_pos shape]
      exact exact
    · next noShape =>
      rw [if_neg noShape] at found
      cases found

/-- A number or duration that ends exactly with the front. -/
theorem Alike.numeral_eq {w t t' : List Char} {kind : Kind} (alike : Alike t t')
    (exact : numeral (w ++ t) = (kind, w.length)) (nonempty : w ≠ []) :
    numeral (w ++ t') = (kind, w.length) := by
  simp only [numeral] at exact ⊢
  split at exact
  · next hex =>
    obtain ⟨rfl, size⟩ := Prod.mk.inj exact
    have same := alike.hexLength_eq hex size
    rw [same, if_pos (List.length_pos_iff.mpr nonempty)]
  · next noHex =>
    have noHex' : hexLength (w ++ t') = 0 := alike.hex w (by omega)
    rw [noHex', if_neg (Nat.lt_irrefl 0)]
    split at exact
    · next isDuration =>
      obtain ⟨rfl, size⟩ := Prod.mk.inj exact
      have same := alike.durationLength_eq w size
      have found := durationLength_pos_iff.mp (same ▸ List.length_pos_iff.mpr nonempty)
      rw [same, if_pos (by simpa using found)]
    · next noDuration =>
      obtain ⟨rfl, size⟩ := Prod.mk.inj exact
      rw [alike.decimalLength_eq size]
      have digitsShort : countWhile Char.isDigit (w ++ t) ≤ w.length := by
        simp only [decimalLength] at size
        omega
      have sameDigits := countWhile_append_eq digitsShort (alike.stops _ visible_digit)
      have noUnit : 0 < countWhile Char.isDigit (w ++ t) →
          unitLength ((w ++ t).drop (countWhile Char.isDigit (w ++ t))) = 0 := by
        simpa using noDuration
      rw [if_neg ?_]
      -- A unit in `t'` right behind the digits would turn the number into a duration.
      simp only [sameDigits, Bool.and_eq_true, decide_eq_true_eq, not_and, Nat.not_lt, Nat.le_zero]
      intro digits
      have none := noUnit digits
      rw [List.drop_append_of_le_length digitsShort] at none ⊢
      by_cases more : w.drop (countWhile Char.isDigit (w ++ t)) = []
      · rw [more] at none ⊢
        exact alike.unit none
      · exact unitLength_behind_digits size more t'

/-! Tokens in front of texts that are alike. -/

theorem stringLength_eq_true {quote c : Char} {rest : List Char} {n : Nat} :
    stringLength quote (c :: rest) = (true, n) ↔
      if c = '\\' && quote != '\x60' then
        ∃ d more k, rest = d :: more ∧ stringLength quote more = (true, k) ∧ n = k + 2
      else ¬(c = '\n' && quote != '\x60') = true ∧
        if c = quote then n = 1 else ∃ k, stringLength quote rest = (true, k) ∧ n = k + 1 := by
  have behind (k : Nat) (cs : List Char) : ((stringLength quote cs).1, (stringLength quote cs).2 + k) =
      (true, n) ↔ ∃ m, stringLength quote cs = (true, m) ∧ n = m + k := by
    obtain ⟨flag, m⟩ := stringLength quote cs
    cases flag <;> simp [eq_comm]
  rw [stringLength.eq_def]
  dsimp only
  split
  · cases rest with
    | nil => simp
    | cons d more => simpa [and_assoc] using behind 2 more
  · split
    · next newline => simp [newline]
    · next sameLine =>
      rw [and_iff_right sameLine]
      split
      · simp [eq_comm]
      · exact behind 1 rest

theorem stringLength_pos {quote : Char} {cs : List Char} {n : Nat}
    (closed : stringLength quote cs = (true, n)) : 0 < n := by
  cases cs with
  | nil => simp [stringLength] at closed
  | cons c rest =>
    rw [stringLength_eq_true] at closed
    split at closed
    · obtain ⟨d, more, k, -, -, rfl⟩ := closed
      exact Nat.succ_pos _
    · obtain ⟨-, closed⟩ := closed
      split at closed
      · exact closed ▸ Nat.one_pos
      · obtain ⟨k, -, rfl⟩ := closed
        exact Nat.succ_pos _

/-- A string is closed by its own characters. -/
theorem stringLength_append {quote : Char} {t t' : List Char} (w : List Char)
    (closed : stringLength quote (w ++ t) = (true, w.length)) :
    stringLength quote (w ++ t') = (true, w.length) := by
  -- An escape takes two characters at once, so the recursion is on the length.
  match w with
  | [] => exact absurd (stringLength_pos closed) (Nat.lt_irrefl 0)
  | c :: w =>
    rw [List.cons_append, stringLength_eq_true] at closed ⊢
    split at closed
    · next guarded =>
      rw [if_pos guarded]
      obtain ⟨d, more, k, split, inner, size⟩ := closed
      cases w with
      | nil =>
        have := stringLength_pos inner
        rw [List.length_singleton] at size
        omega
      | cons d' w =>
        obtain ⟨rfl, rfl⟩ := List.cons.inj split
        simp only [List.length_cons, Nat.add_right_cancel_iff] at size
        exact ⟨d', w ++ t', w.length, rfl, stringLength_append w (size ▸ inner), rfl⟩
    · next plain =>
      rw [if_neg plain]
      refine ⟨closed.1, ?_⟩
      obtain ⟨-, closed⟩ := closed
      split at closed
      · next isQuote =>
        rw [if_pos isQuote]
        exact closed
      · next notQuote =>
        rw [if_neg notQuote]
        obtain ⟨k, inner, size⟩ := closed
        rw [List.length_cons, Nat.add_right_cancel_iff] at size
        exact ⟨w.length, stringLength_append w (size ▸ inner), rfl⟩
  termination_by w.length

/-- The characters that are tokens whatever follows. -/
def punctuation : List Char :=
  ['(', ')', '\x7b', '\x7d', '[', ']', ',', '@', '+', '-', '*', '/', '%', '^']

/-- The characters that a second one can change. -/
def comparators : List Char :=
  ['=', '!', '<', '>']

/-- What starts with a character that has no case of its own. -/
def otherShape (depth : Nat) (c : Char) (rest : List Char) : Shape × Nat :=
  if c = ':' && (0 < depth || !rest.head?.any startsIdentifier) then (.token .colon, 0)
  else if c = '"' || c = '\'' || c = '\x60' then
    let (closed, n) := stringLength c rest
    (if closed then .token .string else .fault .unterminatedString, n)
  else if c.isDigit || (c = '.' && rest.head?.any Char.isDigit) then
    let (kind, n) := numeral (c :: rest)
    (.token kind, n - 1)
  else if startsIdentifier c || c = ':' then
    (.token .identifier, countWhile continuesIdentifier rest)
  else (.fault (.unexpectedCharacter c), 0)

theorem shape_eq_otherShape {c : Char} (other : c ∉ punctuation ++ comparators) (depth : Nat) (rest : List Char) :
    shape depth c rest = otherShape depth c rest := by
  unfold shape
  split
  case h_19 => rfl
  all_goals exact absurd (by decide) other

/-- A second character that decides what the first one is. -/
theorem Alike.second_eq {w t t' : List Char} {a : Char} {both result : Shape}
    (otherwise : List Char → Shape × Nat) (alike : Alike t t') (visible : Visible (· = a))
    (exact : (if (w ++ t).head? = some a then (both, 1) else otherwise (w ++ t)) = (result, w.length))
    (later : otherwise (w ++ t) = (result, w.length) → otherwise (w ++ t') = (result, w.length)) :
    (if (w ++ t').head? = some a then (both, 1) else otherwise (w ++ t')) = (result, w.length) := by
  split at exact
  · next found =>
    cases w with
    | nil => simp at exact
    | cons b w =>
      have found' : (b :: w ++ t').head? = some a := found
      rwa [if_pos found']
  · next missing =>
    have stops : Stops (· = a) (w ++ t) := by
      intro c first
      simp only [decide_eq_false_iff_not]
      rintro rfl
      exact missing first
    have stops' := stops.append_congr w (alike.stops _ visible)
    rw [if_neg (stops'.head?_ne (by simp))]
    exact later exact

theorem Alike.pair_eq {w t t' : List Char} {second : Char} {both single result : Shape}
    (alike : Alike t t') (visible : Visible (· = second))
    (exact : pair second (w ++ t) both single = (result, w.length)) :
    pair second (w ++ t') both single = (result, w.length) :=
  alike.second_eq (fun _ => (single, 0)) visible exact id

theorem decimalLength_pos {c : Char} {rest : List Char} (starts : c.isDigit = true ∨ c = '.') :
    0 < decimalLength (c :: rest) := by
  simp only [decimalLength]
  by_cases digit : c.isDigit = true
  · have : 0 < countWhile Char.isDigit (c :: rest) := by simp [countWhile, digit]
    omega
  · have point : c = '.' := by simpa [digit] using starts
    have noDigits : countWhile Char.isDigit (c :: rest) = 0 := by simp [countWhile, digit]
    rw [noDigits, List.drop_zero, fractionLength_eq, if_pos point]
    omega

theorem numeral_pos {c : Char} {rest : List Char} (starts : c.isDigit = true ∨ c = '.') :
    0 < (numeral (c :: rest)).2 := by
  simp only [numeral]
  split
  · next hex => exact hex
  · split
    · next isDuration => exact durationLength_pos_iff.mpr (by simpa using isDuration)
    · exact decimalLength_pos starts

theorem stops_iff {test : Char → Bool} {cs : List Char} :
    Stops test cs ↔ cs.head?.any test = false := by
  cases cs <;> simp [Stops]

theorem stringShape_eq {c : Char} {w t : List Char} {kind : Kind} (t' : List Char)
    (exact : (if (stringLength c (w ++ t)).1 then Shape.token .string else .fault .unterminatedString,
      (stringLength c (w ++ t)).2) = (.token kind, w.length)) :
    (if (stringLength c (w ++ t')).1 then Shape.token .string else .fault .unterminatedString,
      (stringLength c (w ++ t')).2) = (.token kind, w.length) := by
  obtain ⟨isClosed, size⟩ := Prod.mk.inj exact
  split at isClosed
  · next closes =>
    rw [stringLength_append w (Prod.ext closes size)]
    exact Prod.ext isClosed rfl
  · cases isClosed

theorem Alike.numeralShape_eq {c : Char} {w t t' : List Char} {kind : Kind} (alike : Alike t t')
    (starts : c.isDigit = true ∨ c = '.')
    (exact : (Shape.token (numeral (c :: (w ++ t))).1, (numeral (c :: (w ++ t))).2 - 1) =
      (.token kind, w.length)) :
    (Shape.token (numeral (c :: (w ++ t'))).1, (numeral (c :: (w ++ t'))).2 - 1) =
      (.token kind, w.length) := by
  have positive : 0 < (numeral (c :: (w ++ t))).2 := numeral_pos starts
  obtain ⟨isKind, size⟩ := Prod.mk.inj exact
  have whole : numeral (c :: w ++ t) = (kind, (c :: w).length) := by
    refine Prod.ext (Shape.token.inj isKind) ?_
    simp only [List.cons_append, List.length_cons]
    omega
  rw [← List.cons_append, alike.numeral_eq whole (List.cons_ne_nil c w)]
  rfl

/-- A point in front of a digit is not alone. -/
theorem one_lt_numeral_point {rest : List Char} (digit : rest.head?.any Char.isDigit = true) :
    1 < (numeral ('.' :: rest)).2 := by
  have noHex : hexLength ('.' :: rest) = 0 := by simp [hexLength]
  have noDigits : countWhile Char.isDigit ('.' :: rest) = 0 := countWhile_eq_zero_iff.mpr (by simp [Stops])
  have digits : countWhile Char.isDigit rest ≠ 0 := by
    rw [ne_eq, countWhile_eq_zero_iff, stops_iff, digit]
    exact Bool.noConfusion
  simp only [numeral, noHex, noDigits, decimalLength, List.drop_zero, fractionLength_eq]
  simp
  omega

theorem Alike.otherShape_eq {depth : Nat} {c : Char} {w t t' : List Char} {kind : Kind}
    (alike : Alike t t') (exact : otherShape depth c (w ++ t) = (.token kind, w.length)) :
    otherShape depth c (w ++ t') = (.token kind, w.length) := by
  -- The next character only matters for a colon and a point. It is in `w`, unless `c` is alone.
  have next (test : Char → Bool) (visible : Visible test)
      (inside : (w ++ t).head?.any test = true → w ≠ []) :
      (w ++ t').head?.any test = (w ++ t).head?.any test := by
    cases w with
    | cons b w => rfl
    | nil =>
      have missing : t.head?.any test = false := Bool.eq_false_iff.mpr fun first => inside first rfl
      exact (stops_iff.mp (alike.stops _ visible (stops_iff.mpr missing))).trans missing.symm
  have colon : (c = ':' && (0 < depth || !(w ++ t').head?.any startsIdentifier)) =
      (c = ':' && (0 < depth || !(w ++ t).head?.any startsIdentifier)) := by
    by_cases inBrackets : 0 < depth
    · simp [inBrackets]
    by_cases isColon : c = ':'
    · rw [next startsIdentifier visible_startsIdentifier]
      intro first empty
      subst isColon empty
      rw [List.nil_append] at first exact
      have size : countWhile continuesIdentifier t = 0 := by
        simpa [otherShape, inBrackets, first] using congrArg Prod.snd exact
      have missing := stops_iff.mp (countWhile_eq_zero_iff.mp size).starts
      exact Bool.noConfusion (missing.symm.trans first)
    · simp [isColon]
  have point : (c = '.' && (w ++ t').head?.any Char.isDigit) =
      (c = '.' && (w ++ t).head?.any Char.isDigit) := by
    by_cases isPoint : c = '.'
    · rw [next Char.isDigit visible_digit]
      intro first empty
      subst isPoint empty
      rw [List.nil_append] at first exact
      have size : (numeral ('.' :: t)).2 - 1 = 0 := by
        simpa [otherShape, first] using congrArg Prod.snd exact
      have := one_lt_numeral_point first
      omega
    · simp [isPoint]
  -- With these two settled, both texts take the same branch.
  unfold otherShape at exact ⊢
  rw [colon, point]
  split at exact
  · next isColon =>
    rw [if_pos isColon]
    exact exact
  · next noColon =>
    rw [if_neg noColon]
    split at exact
    · next isQuote =>
      rw [if_pos isQuote]
      exact stringShape_eq t' exact
    · next noQuote =>
      rw [if_neg noQuote]
      split at exact
      · next isNumeral =>
        rw [if_pos isNumeral]
        refine alike.numeralShape_eq ?_ exact
        simp only [Bool.or_eq_true, Bool.and_eq_true, decide_eq_true_eq] at isNumeral
        exact isNumeral.imp_right And.left
      · next noNumeral =>
        rw [if_neg noNumeral]
        split at exact
        · next isName =>
          obtain ⟨isKind, size⟩ := Prod.mk.inj exact
          rw [if_pos isName, countWhile_append_eq (Nat.le_of_eq size)
            (alike.stops _ visible_continuesIdentifier)]
          exact exact
        · cases exact

/-- A token that ends exactly with the front. -/
theorem Alike.shape_eq {depth : Nat} {c : Char} {w t t' : List Char} {kind : Kind}
    (alike : Alike t t') (exact : shape depth c (w ++ t) = (.token kind, w.length)) :
    shape depth c (w ++ t') = (.token kind, w.length) := by
  have equal : Visible (· = '=') := visible_literal rfl (by decide)
  have tilde : Visible (· = '~') := visible_literal rfl (by decide)
  -- Punctuation looks at nothing, a comparator at one character more.
  by_cases alone : c ∈ punctuation
  · simp only [punctuation, List.mem_cons, List.not_mem_nil, or_false] at alone
    rcases alone with rfl | rfl | rfl | rfl | rfl | rfl | rfl | rfl | rfl | rfl | rfl | rfl | rfl | rfl
    all_goals exact exact
  · by_cases compares : c ∈ comparators
    · simp only [comparators, List.mem_cons, List.not_mem_nil, or_false] at compares
      rcases compares with rfl | rfl | rfl | rfl
      · exact alike.second_eq (pair '~' · (.token .regexMatch) (.token .assign)) equal exact
          (alike.pair_eq tilde)
      · exact alike.second_eq
          (pair '~' · (.token .regexNoMatch) (.fault (.unexpectedCharacter '!'))) equal exact
          (alike.pair_eq tilde)
      · exact alike.pair_eq equal exact
      · exact alike.pair_eq equal exact
    · have other : c ∉ punctuation ++ comparators := by simp [alone, compares]
      rw [shape_eq_otherShape other] at exact ⊢
      exact alike.otherShape_eq exact

/-! No token is longer than the text. -/

theorem unitLength_le (cs : List Char) : unitLength cs ≤ cs.length := by
  cases cs with
  | nil => exact Nat.zero_le _
  | cons c rest =>
    have before (n : Nat) (cs : List Char) : unitBefore n cs ≤ n := by
      cases cs with
      | nil => exact Nat.le_refl n
      | cons c cs =>
        rw [unitBefore]
        split <;> omega
    rw [unitLength_eq, List.length_cons]
    split
    · next pair =>
      obtain ⟨more, rfl⟩ := List.head?_eq_some_iff.mp pair.2
      have := before 2 more
      simp only [List.tail_cons, List.length_cons]
      omega
    · have := before 1 rest
      split <;> omega

theorem durationLength_le (cs : List Char) : durationLength cs ≤ cs.length := by
  fun_induction durationLength cs with
  | case1 cs digits unit found ih =>
    have digitsLe := countWhile_le Char.isDigit cs
    have unitLe := unitLength_le (cs.drop digits)
    rw [List.length_drop] at ih unitLe
    omega
  | case2 => exact Nat.zero_le _

theorem exponentLength_le (cs : List Char) : exponentLength cs ≤ cs.length := by
  cases cs with
  | nil => exact Nat.le_refl 0
  | cons c rest =>
    rcases Nat.eq_zero_or_pos (exponentLength (c :: rest)) with none | found
    · rw [none]
      exact Nat.zero_le _
    · obtain ⟨size, -, digits⟩ := exponentLength_eq_of_pos found
      have := countWhile_le Char.isDigit (rest.drop (signLength rest))
      rw [List.length_drop] at this
      rw [size, List.length_cons]
      omega

theorem fractionLength_le (cs : List Char) : fractionLength cs ≤ cs.length := by
  cases cs with
  | nil => exact Nat.le_refl 0
  | cons c rest =>
    have := countWhile_le Char.isDigit rest
    rw [fractionLength_eq, List.length_cons]
    split <;> omega

theorem decimalLength_le (cs : List Char) : decimalLength cs ≤ cs.length := by
  have wholeLe := countWhile_le Char.isDigit cs
  simp only [decimalLength]
  generalize countWhile Char.isDigit cs = whole at wholeLe ⊢
  have fraction := fractionLength_le (cs.drop whole)
  have exponent := exponentLength_le (cs.drop (whole + fractionLength (cs.drop whole)))
  rw [List.length_drop] at fraction exponent
  omega

theorem hexLength_le (cs : List Char) : hexLength cs ≤ cs.length := by
  match cs with
  | [] => exact Nat.le_refl 0
  | [_] => simp [hexLength]
  | c :: x :: rest =>
    have := countWhile_le isHexDigit rest
    rw [hexLength_eq, List.length_cons, List.length_cons]
    split <;> omega

theorem numeral_le (cs : List Char) : (numeral cs).2 ≤ cs.length := by
  simp only [numeral]
  split
  · exact hexLength_le cs
  · split
    · exact durationLength_le cs
    · exact decimalLength_le cs

theorem stringLength_le (quote : Char) (cs : List Char) : (stringLength quote cs).2 ≤ cs.length := by
  fun_induction stringLength quote cs <;> simp_all

theorem otherShape_le (depth : Nat) (c : Char) (rest : List Char) :
    (otherShape depth c rest).2 ≤ rest.length := by
  unfold otherShape
  split
  · exact Nat.zero_le _
  · split
    · exact stringLength_le c rest
    · split
      · have := numeral_le (c :: rest)
        rw [List.length_cons] at this
        exact Nat.sub_le_of_le_add this
      · split
        · exact countWhile_le _ _
        · exact Nat.zero_le _

theorem shape_le (depth : Nat) (c : Char) (rest : List Char) :
    (shape depth c rest).2 ≤ rest.length := by
  have second (a : Char) (both : Shape) (otherwise : Shape × Nat) (le : otherwise.2 ≤ rest.length) :
      (if rest.head? = some a then (both, 1) else otherwise).2 ≤ rest.length := by
    cases rest with
    | nil => simpa using le
    | cons b rest =>
      split
      · simp
      · exact le
  unfold shape
  split
  case h_15 => exact second _ _ _ (second _ _ _ (Nat.zero_le _))
  case h_16 => exact second _ _ _ (second _ _ _ (Nat.zero_le _))
  case h_17 => exact second _ _ _ (Nat.zero_le _)
  case h_18 => exact second _ _ _ (Nat.zero_le _)
  case h_19 => exact otherShape_le depth c rest
  all_goals exact Nat.zero_le _

end QueryLint.Token

import QueryLint.Proofs.Grammar.Sound
import QueryLint.Proofs.Pattern.Extents

/-! A pattern text and the same text with the end of a group behind it.

`Padded xs ys` says that the cells `ys` spell what `xs` do, at other places perhaps, and then `)$`. A
reader that stops before the padding cannot see it: what it answers for `ys`, it answers for `xs` too.
For a reader that can fail, `Tracks` says so. The other way round it fails: without the padding a text
can be too short. A reader that goes on into the padding leaves less than two cells, of which none
is the parenthesis.
-/

set_option autoImplicit false

namespace QueryLint.Pattern.Reader

open Text (Place)

/-- The second cells spell what the first ones do, and then the end of a group and of the text. -/
inductive Padded : List Cell → List Cell → Prop where
  | close {paren dollar : Cell} : paren.char = ')' → dollar.char = '$' → Padded [] [paren, dollar]
  | cons {a b : Cell} {xs ys : List Cell} :
    a.char = b.char → Padded xs ys → Padded (a :: xs) (b :: ys)

namespace Padded

variable {xs ys : List Cell}

theorem length_eq (padded : Padded xs ys) : ys.length = xs.length + 2 := by
  induction padded with
  | close => rfl
  | cons _ _ ih => simp [ih]

/-- Only the last two cells can be a match for none. -/
theorem uncons {b : Cell} (padded : Padded xs (b :: ys)) (other : b.char ≠ ')') :
    ∃ a xs', xs = a :: xs' ∧ a.char = b.char ∧ Padded xs' ys := by
  cases padded with
  | close isParen _ => exact absurd isParen other
  | cons same padded => exact ⟨_, _, rfl, same, padded⟩

/-- What is longer than the end of the padding goes on with the first cells. -/
theorem uncons_of_length {b : Cell} (padded : Padded xs (b :: ys)) (enough : 2 ≤ ys.length) :
    ∃ a xs', xs = a :: xs' ∧ a.char = b.char ∧ Padded xs' ys := by
  cases padded with
  | close => simp at enough
  | cons same padded => exact ⟨_, _, rfl, same, padded⟩

theorem tail (padded : Padded xs ys) (enough : 2 ≤ ys.tail.length) : Padded xs.tail ys.tail := by
  cases padded with
  | close => simp at enough
  | cons _ padded => exact padded

theorem drop (padded : Padded xs ys) {n : Nat} (fits : n ≤ xs.length) :
    Padded (xs.drop n) (ys.drop n) := by
  induction padded generalizing n with
  | close isParen isDollar =>
    obtain rfl : n = 0 := by simpa using fits
    exact .close isParen isDollar
  | cons same padded ih =>
    cases n with
    | zero => exact .cons same padded
    | succ n => exact ih (by simpa using fits)

theorem within {xs' ys' : List Cell} (padded : Padded xs ys) (tails : Padded xs' ys') :
    Padded (within xs xs') (within ys ys') := by
  have lengths : ys.length - ys'.length = xs.length - xs'.length := by
    rw [padded.length_eq, tails.length_eq]
    omega
  rw [Reader.within, Reader.within, lengths]
  exact padded.drop (Nat.sub_le _ _)

end Padded

theorem within_of_suffix {rest tail : List Cell} (suffix : tail <:+ rest) : within rest tail = tail :=
  (List.suffix_iff_eq_drop.mp suffix).symm

theorem length_lt_of_skipBlank {extended : Bool} {rest more : List Cell} {cell : Cell}
    (skip : skipBlank extended rest = cell :: more) : more.length < rest.length := by
  have shorter := length_skipBlank_le extended rest
  rwa [skip] at shorter

theorem length_within_le_tail (rest tail : List Cell) : (within rest tail).length ≤ tail.length := by
  rw [within, List.length_drop]
  omega

theorem dropComment_suffix (rest : List Cell) : dropComment rest <:+ rest := by
  induction rest with
  | nil => exact List.nil_suffix
  | cons cell rest ih =>
    rw [dropComment]
    split
    · exact List.suffix_cons cell rest
    · exact ih.trans (List.suffix_cons cell rest)

theorem skipBlank_suffix (extended : Bool) (rest : List Cell) : skipBlank extended rest <:+ rest := by
  fun_induction skipBlank extended rest with
  | case1 | case4 => exact List.suffix_rfl
  | case2 cell more _ ih => exact ih.trans (List.suffix_cons cell more)
  | case3 cell more _ _ ih =>
    exact ih.trans ((dropComment_suffix more).trans (List.suffix_cons cell more))

@[simp] theorem within_skipBlank (extended : Bool) (rest : List Cell) :
    within rest (skipBlank extended rest) = skipBlank extended rest :=
  within_of_suffix (skipBlank_suffix extended rest)

namespace Padded

variable {xs ys : List Cell} {extended : Bool}

theorem dropComment (padded : Padded xs ys) (left : dropComment ys ≠ []) :
    Padded (dropComment xs) (dropComment ys) := by
  induction padded with
  | close isParen isDollar => simp [Reader.dropComment, isParen, isDollar] at left
  | cons same padded ih =>
    simp only [Reader.dropComment, same] at left ⊢
    split
    · exact padded
    · next other => exact ih (by simpa [other] using left)

theorem skipBlank (padded : Padded xs ys) (left : skipBlank extended ys ≠ []) :
    Padded (skipBlank extended xs) (skipBlank extended ys) := by
  fun_induction Reader.skipBlank extended ys generalizing xs with
  | case1 => contradiction
  | case2 b ys blank ih =>
    simp only [Bool.and_eq_true] at blank
    cases padded with
    | close isParen _ =>
      -- The parenthesis is no blank.
      rw [isParen] at blank
      exact absurd blank.2 (by decide)
    | cons same padded =>
      rw [Reader.skipBlank, same, if_pos (by simpa using blank)]
      exact ih padded left
  | case3 b ys solid comment ih =>
    obtain ⟨a, xs, rfl, same, padded⟩ := padded.uncons (by
      simp only [Bool.and_eq_true, decide_eq_true_eq] at comment
      rw [comment.2]
      decide)
    rw [Reader.skipBlank, same, if_neg solid, if_pos comment]
    refine ih (padded.dropComment ?_) left
    intro none
    rw [none, Reader.skipBlank] at left
    contradiction
  | case4 b ys solid plain =>
    cases padded with
    | close isParen isDollar =>
      rw [Reader.skipBlank]
      exact .close isParen isDollar
    | cons same padded =>
      rw [Reader.skipBlank, same, if_neg solid, if_neg plain]
      exact .cons same padded

theorem skipBlank_cons {b : Cell} {more : List Cell} (padded : ys ≠ [] → Padded xs ys)
    (found : Reader.skipBlank extended ys = b :: more) :
    Padded (Reader.skipBlank extended xs) (b :: more) := by
  have some : ys ≠ [] := List.length_pos_iff.mp (Nat.zero_lt_of_lt (length_lt_of_skipBlank found))
  rw [← found]
  exact (padded some).skipBlank (found ▸ List.cons_ne_nil b more)

theorem advance (padded : Padded xs ys) (enough : 2 ≤ (advance extended ys).length) :
    Padded (advance extended xs) (advance extended ys) := by
  have shorter := length_skipBlank_le extended ys.tail
  rw [Reader.advance] at enough
  refine (padded.tail (by omega)).skipBlank ?_
  intro none
  simp [none] at enough

end Padded

theorem skipBlank_solid {extended : Bool} {cell : Cell} {more : List Cell}
    (solid : Unicode.isBlank cell.char = false) (plain : cell.char ≠ '#') :
    skipBlank extended (cell :: more) = cell :: more := by
  rw [skipBlank, if_neg (by simp [solid]), if_neg (by simp [plain])]

theorem Padded.dropWhile {xs ys : List Cell} {skips : Char → Bool} (padded : Padded xs ys)
    (stops : skips ')' = false) :
    Padded (xs.dropWhile fun cell => skips cell.char) (ys.dropWhile fun cell => skips cell.char) := by
  induction padded with
  | close isParen isDollar =>
    rw [List.dropWhile_cons_of_neg (by simp [isParen, stops])]
    exact .close isParen isDollar
  | cons same padded ih =>
    simp only [List.dropWhile_cons, same]
    split
    · exact ih
    · exact .cons same padded

/-- A search for what the padding has not: it fails for both texts, or it ends at the same cell. -/
theorem Padded.span {xs ys : List Cell} (padded : Padded xs ys) (accepts : Char → Bool)
    (paren : accepts ')' = true) (dollar : accepts '$' = true) :
    ((xs.dropWhile fun cell => accepts cell.char) = [] ∧
        (ys.dropWhile fun cell => accepts cell.char) = []) ∨
      ((xs.takeWhile fun cell => accepts cell.char).map Cell.char =
          (ys.takeWhile fun cell => accepts cell.char).map Cell.char ∧
        ∃ a b xs' ys', (xs.dropWhile fun cell => accepts cell.char) = a :: xs' ∧
          (ys.dropWhile fun cell => accepts cell.char) = b :: ys' ∧ Padded xs' ys') := by
  induction padded with
  | close isParen isDollar => simp [isParen, isDollar, paren, dollar]
  | @cons a b xs ys same padded ih =>
    by_cases accepted : accepts b.char = true
    · simpa [List.dropWhile_cons, List.takeWhile_cons, same, accepted] using ih
    · have stays : (a :: xs).dropWhile (fun cell => accepts cell.char) = a :: xs := by
        simp [same, accepted]
      have stays' : (b :: ys).dropWhile (fun cell => accepts cell.char) = b :: ys := by simp [accepted]
      exact .inr ⟨by simp [same, accepted], a, b, xs, ys, stays, stays', padded⟩

theorem startsWith_eq {xs ys : List Cell} (word : List Char) (padded : Padded xs ys)
    (inside : ')' ∉ word) : startsWith word ys = startsWith word xs := by
  unfold startsWith
  induction padded generalizing word with
  | close isParen _ =>
    cases word with
    | nil => rfl
    | cons c word =>
      have : c ≠ ')' := by rintro rfl; simp at inside
      simp [List.isPrefixOf, isParen, this]
  | cons same _ ih =>
    cases word with
    | nil => rfl
    | cons c word =>
      simp only [List.map_cons, List.isPrefixOf, same]
      rw [ih word (by simp_all)]

theorem length_le_of_startsWith {word : List Char} {rest : List Cell} (starts : startsWith word rest = true) :
    word.length ≤ rest.length := by
  simpa using (List.isPrefixOf_iff_prefix.mp starts).length_le

/-- The characters in front that a reader accepts, which extended mode may separate. -/
def run (accepts : Char → Bool) (extended : Bool) (rest : List Cell) : List Char × List Cell :=
  match rest with
  | [] => ([], [])
  | cell :: more =>
    if accepts cell.char then
      let (cs, tail) := run accepts extended (skipBlank extended more)
      (cell.char :: cs, tail)
    else ([], rest)
  termination_by rest.length
  decreasing_by
    have := length_skipBlank_le extended more
    simp only [List.length_cons]
    omega

theorem digits_eq_run (extended : Bool) (rest : List Cell) :
    digits extended rest = run Char.isDigit extended rest := by
  fun_induction digits extended rest with
  | case1 => rw [run]
  | case2 cell more digit ds tail read ih =>
    rw [read, within_skipBlank] at ih
    rw [run, if_pos digit, ← ih]
  | case3 cell more other => rw [run, if_neg other]

theorem boundaryName_eq_run (extended : Bool) (rest : List Cell) :
    boundaryName extended rest = run isBoundaryLetter extended rest := by
  fun_induction boundaryName extended rest with
  | case1 => rw [run]
  | case2 cell more letter name tail read ih =>
    rw [read, within_skipBlank] at ih
    rw [run, if_pos letter, ← ih]
  | case3 cell more other => rw [run, if_neg other]

theorem bracedName_eq_run (extended : Bool) (rest : List Cell) :
    bracedName extended rest = run (· ≠ '\x7d') extended rest := by
  fun_induction bracedName extended rest with
  | case1 => rw [run]
  | case2 cell more brace => rw [run, if_neg (by simpa using brace)]
  | case3 cell more other name tail read ih =>
    rw [read, within_skipBlank] at ih
    rw [run, if_pos (by simpa using other), ← ih]

/-- A run that leaves cells behind ends before the padding: who takes the parenthesis takes all. -/
theorem Padded.run {xs ys : List Cell} (padded : Padded xs ys) (accepts : Char → Bool) (extended : Bool)
    (ends : accepts ')' = true → accepts '$' = true) (left : (run accepts extended ys).2 ≠ []) :
    (run accepts extended xs).1 = (run accepts extended ys).1 ∧
      Padded (run accepts extended xs).2 (run accepts extended ys).2 := by
  fun_induction Reader.run accepts extended ys generalizing xs with
  | case1 => contradiction
  | case2 b ys accepted cs tail read ih =>
    have more : Reader.skipBlank extended ys ≠ [] := by
      intro none
      rw [none, Reader.run] at read
      cases read
      contradiction
    cases padded with
    | close isParen isDollar =>
      -- Who takes the parenthesis takes the dollar too, and then nothing is left.
      have skips : Reader.skipBlank extended [_] = [_] :=
        skipBlank_solid (by rw [isDollar]; decide) (by simp [isDollar])
      rw [isParen] at accepted
      rw [skips, Reader.run, isDollar, if_pos (ends accepted), Reader.skipBlank, Reader.run] at read
      cases read
      contradiction
    | cons same padded =>
      rw [read] at ih
      have := ih (padded.skipBlank more) left
      rw [Reader.run, same, if_pos accepted]
      exact ⟨by simp [this.1], this.2⟩
  | case3 b ys other =>
    cases padded with
    | close isParen isDollar =>
      rw [Reader.run]
      exact ⟨rfl, .close isParen isDollar⟩
    | cons same padded =>
      rw [Reader.run, same, if_neg other]
      exact ⟨rfl, .cons same padded⟩

/-- What the padded reading answers with at least `least` cells left, the other one answers too, as
far as `view` looks at it. -/
def Tracks {α γ : Type} (least : Nat) (view : α → γ) (answer padded : Except Error (α × List Cell)) :
    Prop :=
  ∀ v ys, padded = .ok (v, ys) → least ≤ ys.length →
    ∃ w xs, answer = .ok (w, xs) ∧ view w = view v ∧ Padded xs ys

variable {s s' : Source} {extended : Bool} {xs ys : List Cell}

theorem Padded.decimal (padded : Padded xs ys) (left : (decimal s' extended ys).2 ≠ []) :
    (decimal s extended xs).1.toOption = (decimal s' extended ys).1.toOption ∧
      Padded (decimal s extended xs).2 (decimal s' extended ys).2 := by
  have blank : Unicode.isBlank ')' = false := by decide
  unfold Reader.decimal at left ⊢
  simp only [digits_eq_run] at left ⊢
  have starts := padded.dropWhile blank
  generalize (ys.dropWhile fun cell => Unicode.isBlank cell.char) = ys₁ at starts left ⊢
  have behind : (Reader.run Char.isDigit extended ys₁).2 ≠ [] := by
    intro none
    simp [none, Reader.skipBlank] at left
  obtain ⟨sameDigits, tails⟩ := starts.run Char.isDigit extended (by decide) behind
  constructor
  · rw [sameDigits]
    simp only [apply_ite Except.toOption]
    rfl
  · exact (tails.dropWhile blank).skipBlank left

theorem Tracks.fail {α γ : Type} {least : Nat} {view : α → γ}
    {answer : Except Error (α × List Cell)} {extent : Extent} {fault : Fault} :
    Tracks least view answer (s'.fail extent fault) := by
  intro v ys read
  cases read

theorem Tracks.pure {α γ : Type} {least : Nat} {view : α → γ} {w v : α} (same : view w = view v)
    (padded : least ≤ ys.length → Padded xs ys) :
    Tracks least view (.ok (w, xs)) (.ok (v, ys)) := by
  intro v' ys' read enough
  cases read
  exact ⟨w, xs, rfl, same, padded enough⟩

theorem Padded.dropLazy (padded : Padded xs ys) : Padded (dropLazy xs) (dropLazy ys) := by
  cases padded with
  | close isParen isDollar =>
    simp only [Reader.dropLazy, isParen, Char.reduceEq, if_false]
    exact .close isParen isDollar
  | cons same padded =>
    simp only [Reader.dropLazy, same]
    split
    · exact padded
    · exact .cons same padded

/-- What stands behind the numbers of a counted repetition: a brace, and perhaps a question mark. -/
def closeCounts (s : Source) (extended : Bool) (start : Place) (range : Nat × Option Nat)
    (tail : List Cell) : Except Error ((Nat × Option Nat) × List Cell) :=
  match tail with
  | [] => s.fail ⟨start, s.here tail⟩ .countUnclosed
  | close :: behind =>
    if close.char ≠ '\x7d' then s.fail ⟨start, s.here tail⟩ .countUnclosed else
    let rest' := Reader.dropLazy (skipBlank extended behind)
    match range with
    | (n, some m) =>
      if m < n then s.fail ⟨start, s.here rest'⟩ .countInvalid else .ok (range, rest')
    | _ => .ok (range, rest')

theorem closeCounts_tracks (start start' : Place) (range : Nat × Option Nat) (padded : Padded xs ys) :
    Tracks 2 id (closeCounts s extended start range xs) (closeCounts s' extended start' range ys) := by
  unfold closeCounts
  cases padded with
  | close isParen isDollar =>
    simp only [isParen]
    -- A parenthesis closes no count.
    exact .fail
  | cons same padded =>
    simp only [same]
    split
    · exact .fail
    · have rest : ∀ {xs ys}, Padded xs ys → 2 ≤ (Reader.dropLazy (skipBlank extended ys)).length →
          Padded (Reader.dropLazy (skipBlank extended xs)) (Reader.dropLazy (skipBlank extended ys)) := by
        intro xs ys padded enough
        apply Padded.dropLazy
        apply padded.skipBlank
        intro none
        simp [none, Reader.dropLazy] at enough
      split
      · split
        · exact .fail
        · exact .pure rfl (rest padded)
      · exact .pure rfl (rest padded)

/-- A number that the padded reading finds with cells left is found without the padding. -/
theorem Padded.decimal_ok (padded : Padded xs ys) (left : (Reader.decimal s' extended ys).2 ≠ []) {n : Nat}
    (read : (Reader.decimal s' extended ys).1 = .ok n) :
    xs ≠ [] ∧ (Reader.decimal s extended xs).1 = .ok n ∧
      Padded (Reader.decimal s extended xs).2 (Reader.decimal s' extended ys).2 := by
  obtain ⟨same, tails⟩ := padded.decimal (s := s) left
  rw [read] at same
  have found : (Reader.decimal s extended xs).1 = .ok n := Grammar.toOption_eq_some.mp same
  refine ⟨?_, found, tails⟩
  rintro rfl
  simp [Reader.decimal, digits, Source.fail] at found

/-- What stands behind the comma of a counted repetition. -/
def upperCounts (s : Source) (extended : Bool) (start : Place) (n : Nat) (second : List Cell) :
    Except Error ((Nat × Option Nat) × List Cell) :=
  match second with
  | [] => s.fail ⟨start, s.here second⟩ .countUnclosed
  | cell :: _ =>
    if cell.char ≠ '\x7d' then do
      let m ← (decimal s extended second).1
      closeCounts s extended start (n, some m) (decimal s extended second).2
    else closeCounts s extended start (n, none) second

theorem upperCounts_tracks (start start' : Place) (n : Nat) (padded : ys ≠ [] → Padded xs ys) :
    Tracks 2 id (upperCounts s extended start n xs) (upperCounts s' extended start' n ys) := by
  intro v zs read enough
  cases ys with
  | nil => cases read
  | cons b ys =>
    have padded := padded (by simp)
    simp only [upperCounts] at read
    split at read
    · next other =>
      obtain ⟨m, most, read⟩ := Grammar.bind_ok read
      have left : (decimal s' extended (b :: ys)).2 ≠ [] := by
        intro none
        rw [none] at read
        cases read
      obtain ⟨someX, found, tails⟩ := padded.decimal_ok (s := s) left most
      obtain ⟨w, zs', readX, same, rest⟩ :=
        closeCounts_tracks start start' (n, some m) tails v zs read enough
      refine ⟨w, zs', ?_, same, rest⟩
      cases padded with
      | close => contradiction
      | cons sameChar _ =>
        simp only [upperCounts, sameChar, if_pos other, found]
        exact readX
    · next brace =>
      obtain ⟨a, xs, rfl, sameChar, tail⟩ := padded.uncons (by simp_all)
      simp only [upperCounts, sameChar, if_neg brace]
      exact closeCounts_tracks start start' (n, none) padded v zs read enough

theorem counts_tracks {a b : Cell} (padded : Padded xs ys) :
    Tracks 2 id (counts s extended (a :: xs)) (counts s' extended (b :: ys)) := by
  intro v zs read enough
  simp only [counts, advance, List.tail_cons] at read ⊢
  split at read
  · cases read
  next noInner =>
  have inner := padded.skipBlank (by simpa using noInner)
  split at read
  · cases read
  next separator more found =>
  have left : (decimal s' extended (skipBlank extended ys)).2 ≠ [] := by simp [found]
  split at read
  · -- One number, which is both bounds.
    next other =>
    obtain ⟨n, least, read⟩ := Grammar.bind_ok read
    obtain ⟨someX, leastX, after⟩ := inner.decimal_ok (s := s) left least
    obtain ⟨w, zs', readX, same, rest⟩ :=
      closeCounts_tracks a.place b.place (n, some n) after v zs read enough
    refine ⟨w, zs', ?_, same, rest⟩
    rw [found] at after
    generalize (decimal s extended (skipBlank extended xs)).2 = tail at after readX
    cases after with
    | close => cases readX
    | cons sameChar _ =>
      simp only [List.isEmpty_iff, someX, if_false, sameChar, if_pos other, leastX]
      exact readX
  · next comma =>
    -- An end behind the comma is reported before a fault of the number in front of it.
    have least : ∃ n, (decimal s' extended (skipBlank extended ys)).1 = .ok n ∧
        upperCounts s' extended b.place n (skipBlank extended more) = .ok (v, zs) := by
      rw [found, List.tail_cons] at read
      split at read
      · cases read
      · next second =>
        obtain ⟨n, least, read⟩ := Grammar.bind_ok read
        refine ⟨n, least, ?_⟩
        simp only [upperCounts, second]
        rw [second] at read
        exact read
    obtain ⟨n, least, read⟩ := least
    obtain ⟨someX, leastX, after⟩ := inner.decimal_ok (s := s) left least
    rw [found] at after
    obtain ⟨c, xs₂, isTail, sameChar, after⟩ := after.uncons (by simp_all)
    obtain ⟨w, zs', readX, same, rest⟩ :=
      upperCounts_tracks (s := s) a.place b.place n after.skipBlank v zs read enough
    refine ⟨w, zs', ?_, same, rest⟩
    simp only [List.isEmpty_iff, someX, if_false, isTail, sameChar, if_neg comma, leastX,
      List.tail_cons]
    generalize skipBlank extended xs₂ = second at readX
    cases second with
    | nil => cases readX
    | cons => exact readX

end QueryLint.Pattern.Reader

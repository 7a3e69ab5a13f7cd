import QueryLint.Proofs.Pattern.Classes

/-! Openings of groups in front of the end of a group.

Flags end at a colon or a parenthesis, so the padding ends a list of flags that the text alone leaves
open; the parenthesis is used up then. Names of groups are told apart by their characters.
-/

set_option autoImplicit false

namespace QueryLint.Pattern.Reader

variable {s s' : Source} {extended : Bool} {xs ys : List Cell}

theorem find?_fst_eq_none {α β : Type} {entries entries' : List (α × β)} (p : α → Bool)
    (same : entries.map Prod.fst = entries'.map Prod.fst) :
    (entries.find? fun entry => p entry.1) = none ↔ (entries'.find? fun entry => p entry.1) = none := by
  have onNames (entries : List (α × β)) :
      (entries.find? fun entry => p entry.1) = none ↔ (entries.map Prod.fst).find? p = none := by
    simp
  rw [onNames, onNames, same]

theorem flagItems_tracks {seen seen' : List (FlagItem × Extent)}
    (same : seen.map Prod.fst = seen'.map Prod.fst) (padded : Padded xs ys) :
    Tracks 3 id (flagItems s seen xs) (flagItems s' seen' ys) := by
  intro v zs read enough
  induction padded generalizing seen seen' with
  | close isParen _ =>
    -- The parenthesis of the padding ends the flags, and too little is left.
    unfold flagItems at read
    rw [if_pos (by simp [isParen])] at read
    split at read
    · cases read
    · cases read
      simp at enough
  | @cons a b xs ys sameChar padded ih =>
    unfold flagItems at read ⊢
    simp only [sameChar]
    split at read
    · next ends =>
      rw [if_pos ends]
      split at read
      · cases read
      -- A sign at the end is refused in both texts, for the signs are at the same items.
      next notSign =>
      cases read
      split
      · next extent rest =>
        obtain ⟨⟨item, extent'⟩, rest', isSeen, rfl, -⟩ := List.map_eq_cons_iff.mp same.symm
        exact absurd isSeen (notSign extent' rest')
      · exact ⟨_, a :: xs, rfl, congrArg List.reverse same, .cons sameChar padded⟩
    · next goesOn =>
      simp only [if_neg goesOn]
      dsimp only at read
      split at read
      · cases read
      next item isItem =>
      split at read
      · cases read
      next new =>
      rw [← find?_fst_eq_none (· == item) same] at new
      simp only [new]
      exact ih (by simp [same]) read

theorem isNameChar_paren (first : Bool) : isNameChar first ')' = false := by
  cases first <;> decide +kernel

theorem nameChars_tracks (first : Bool) (padded : ys ≠ [] → Padded xs ys) :
    Tracks 2 id (nameChars s first xs) (nameChars s' first ys) := by
  intro v zs read enough
  fun_induction nameChars s' first ys generalizing xs v with
  | case1 => cases read
  | case2 first b ys close =>
    cases read
    obtain ⟨a, xs, rfl, same, tail⟩ := (padded (by simp)).uncons (by simp [close])
    refine ⟨[], a :: xs, ?_, rfl, .cons same tail⟩
    rw [nameChars, same, if_pos close]
    rfl
  | case3 => cases read
  | case4 first b ys other valid ih =>
    obtain ⟨⟨name, tail⟩, read, answer⟩ := Grammar.bind_ok read
    cases answer
    obtain ⟨a, xs, rfl, same, padded⟩ := (padded (by simp)).uncons (by
      intro isParen
      rw [isParen] at valid
      cases first <;> simp [isNameChar_paren] at valid)
    obtain ⟨name', tail', readX, sameName, tails⟩ := ih (fun _ => padded) _ read
    refine ⟨a.char :: name', tail', ?_, ?_, tails⟩
    · rw [nameChars, same, if_neg other, if_neg valid, readX]
      rfl
    · simp_all

theorem groupName_tracks {names names' : Names} (same : names.map Prod.fst = names'.map Prod.fst)
    (padded : ys ≠ [] → Padded xs ys) :
    Tracks 2 (List.map Prod.fst) (groupName s names xs) (groupName s' names' ys) := by
  intro v zs read enough
  simp only [groupName] at read ⊢
  obtain ⟨⟨name, close⟩, readName, read⟩ := Grammar.bind_ok read
  dsimp only at read
  split at read
  · cases read
  next someName =>
  split at read
  · cases read
  next new =>
  cases read
  obtain ⟨name', close', readX, sameName, closes⟩ :=
    nameChars_tracks (s := s) true padded name close readName (by
      rw [List.length_tail] at enough
      omega)
  obtain rfl : name' = name := sameName
  rw [← find?_fst_eq_none (· == name') same] at new
  refine ⟨(name', ⟨s.here xs, s.here close'⟩) :: names, close'.tail, ?_, ?_, closes.tail enough⟩
  · simp only [readX, bind, Except.bind, if_neg someName, new]
    rfl
  · simp only [List.map_cons, same]

/-- As `Tracks`, for the readers of an opening. -/
def TracksOpening (answer padded : Except Error (Opening × Names × List Cell)) : Prop :=
  ∀ opening names ys, padded = .ok (opening, names, ys) → 2 ≤ ys.length →
    ∃ names' xs, answer = .ok (opening, names', xs) ∧ names'.map Prod.fst = names.map Prod.fst ∧
      Padded xs ys

namespace TracksOpening

variable {answer answer' padded padded' : Except Error (Opening × Names × List Cell)}

theorem fail {extent : Extent} {fault : Fault} : TracksOpening answer (s'.fail extent fault) := by
  intro opening names ys read
  cases read

theorem pure {opening : Opening} {names names' : Names}
    (same : names.map Prod.fst = names'.map Prod.fst) (padded : Padded xs ys) :
    TracksOpening (.ok (opening, names, xs)) (.ok (opening, names', ys)) := by
  intro opening' names'' ys' read _
  cases read
  exact ⟨names, xs, rfl, same, padded⟩

theorem ite {condition : Prop} [Decidable condition]
    (yes : condition → TracksOpening answer padded) (no : ¬condition → TracksOpening answer' padded') :
    TracksOpening (if condition then answer else answer') (if condition then padded else padded') := by
  split
  · exact yes ‹_›
  · exact no ‹_›

end TracksOpening

/-- A group whose name is in front. -/
def namedGroup (s : Source) (names : Names) (rest : List Cell) :
    Except Error (Opening × Names × List Cell) := do
  let (names, tail) ← groupName s names rest
  pure (.group [], names, tail)

theorem namedGroup_tracks {names names' : Names} (same : names.map Prod.fst = names'.map Prod.fst)
    (padded : Padded xs ys) : TracksOpening (namedGroup s names xs) (namedGroup s' names' ys) := by
  intro opening found zs read enough
  obtain ⟨⟨found', tail⟩, readName, answered⟩ := Grammar.bind_ok read
  cases answered
  obtain ⟨names, tail', readX, sameNames, tails⟩ :=
    groupName_tracks (s := s) same (fun _ => padded) found zs readName enough
  refine ⟨names, tail', ?_, sameNames, tails⟩
  rw [namedGroup, readX]
  rfl

/-- Flags alone, or a group with flags; a question mark is in front. -/
def flagGroup (s : Source) (paren : Extent) (names : Names) (rest : List Cell) :
    Except Error (Opening × Names × List Cell) := do
  if rest.tail.isEmpty then s.fail paren .groupUnclosed else
  let (items, close) ← flagItems s [] rest.tail
  if close.head?.any fun cell => cell.char = ')' then
    if items.isEmpty then s.fail (s.point rest) .repetitionMissing
    else pure (.flags items, names, close.tail)
  else pure (.group items, names, close.tail)

theorem flagGroup_tracks {paren paren' : Extent} {names names' : Names}
    (same : names.map Prod.fst = names'.map Prod.fst) (padded : Padded xs.tail ys.tail) :
    TracksOpening (flagGroup s paren names xs) (flagGroup s' paren' names' ys) := by
  intro opening found zs read enough
  unfold flagGroup at read
  split at read
  · cases read
  obtain ⟨⟨items, close⟩, readItems, read⟩ := Grammar.bind_ok read
  dsimp only at read
  -- Whether flags alone or a group with flags, what ends the flags is dropped.
  have isTail : zs = close.tail := by
    split at read
    · split at read <;> cases read
      rfl
    · cases read
      rfl
  have long : 3 ≤ close.length := by
    rw [isTail, List.length_tail] at enough
    omega
  obtain ⟨items', close', readX, sameItems, closes⟩ :=
    flagItems_tracks (s := s) rfl padded items close readItems long
  obtain rfl : items' = items := sameItems
  have someX : ¬xs.tail.isEmpty = true := by
    intro none
    rw [List.isEmpty_iff.mp none] at readX
    cases readX
  have sameClose : (close'.head?.any fun cell => cell.char = ')') =
      close.head?.any fun cell => cell.char = ')' := by
    cases closes with
    | close => simp at long
    | cons sameChar _ => simp [sameChar]
  have tails : Padded close'.tail close.tail := closes.tail (isTail ▸ enough)
  rw [flagGroup, if_neg someX]
  simp only [readX, bind, Except.bind, sameClose]
  split at read
  · next isClose =>
    rw [if_pos isClose]
    split at read
    · cases read
    next someItems =>
    cases read
    rw [if_neg someItems]
    exact ⟨names, close'.tail, rfl, same, tails⟩
  · next isColon =>
    cases read
    rw [if_neg isColon]
    exact ⟨names, close'.tail, rfl, same, tails⟩

theorem openGroup_tracks {a b : Cell} {names names' : Names}
    (same : names.map Prod.fst = names'.map Prod.fst) (padded : Padded xs ys) :
    TracksOpening (openGroup s extended names (a :: xs)) (openGroup s' extended names' (b :: ys)) := by
  by_cases left : skipBlank extended ys = []
  · -- Nothing is left behind the parenthesis but what extended mode ignores.
    intro opening found zs read enough
    unfold openGroup at read
    rw [List.tail_cons, left] at read
    cases read
    simp at enough
  have inner : Padded (skipBlank extended (a :: xs).tail) (skipBlank extended (b :: ys).tail) :=
    padded.skipBlank left
  unfold openGroup
  generalize skipBlank extended (a :: xs).tail = xs' at inner ⊢
  generalize skipBlank extended (b :: ys).tail = ys' at inner ⊢
  simp only [startsWith_eq ['?', '='] inner (by decide), startsWith_eq ['?', '!'] inner (by decide),
    startsWith_eq ['?', '<', '='] inner (by decide), startsWith_eq ['?', '<', '!'] inner (by decide),
    startsWith_eq ['?', 'P', '<'] inner (by decide), startsWith_eq ['?', '<'] inner (by decide),
    startsWith_eq ['?'] inner (by decide)]
  have behind {word : List Char} (starts : startsWith word xs' = true) :
      Padded (xs'.drop word.length) (ys'.drop word.length) :=
    inner.drop (length_le_of_startsWith starts)
  refine .ite (fun _ => .fail) fun _ => ?_
  refine .ite (fun _ => .fail) fun _ => ?_
  refine .ite (fun isName => namedGroup_tracks same (behind isName)) fun _ => ?_
  refine .ite (fun isName => namedGroup_tracks same (behind isName)) fun _ => ?_
  refine .ite (fun isFlags => ?_) fun _ => .pure same inner
  exact flagGroup_tracks same (by simpa using behind isFlags)

end QueryLint.Pattern.Reader

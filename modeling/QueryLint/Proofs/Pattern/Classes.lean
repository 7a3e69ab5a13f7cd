import QueryLint.Proofs.Pattern.Escapes

/-! Bracketed classes in front of the end of a group.

A class ends with its own bracket, which is none of the padding. So a class that the padded reading
finds is found without the padding, and every reader inside of it has to leave more than the padding
behind; a text that ends inside a class is refused in both readings.
-/

set_option autoImplicit false

namespace QueryLint.Pattern.Reader

open Text (Place)

variable {s s' : Source} {extended : Bool} {xs ys : List Cell}

theorem member_tracks (padded : Padded xs ys) :
    TracksPrimitive extended ys (member s extended xs) (member s' extended ys) := by
  cases padded with
  | close isParen isDollar =>
    -- The parenthesis is a member, and too little is left.
    intro p zs read enough
    simp only [member, isParen] at read
    cases read
    simp at enough
  | @cons a b xs ys same padded =>
    simp only [member, same]
    exact .ite (fun _ => (escape_tracks padded).behind (List.suffix_cons b ys))
      fun _ => .pure (by simp [Primitive.bare, Literal.bare]) padded

theorem memberItem_ok {p q : Primitive} {item : ClassSet} (same : q.bare = p.bare)
    (read : memberItem s' p = .ok item) :
    ∃ item', memberItem s q = .ok item' ∧ item'.bare = item.bare := by
  cases p <;> cases q <;> cases read <;> simp only [Primitive.bare, reduceCtorEq] at same
  · exact ⟨_, rfl, congrArg ClassSet.literal (Primitive.literal.inj same)⟩
  · exact ⟨_, rfl, congrArg ClassSet.escape (Primitive.escape.inj same)⟩

theorem memberLiteral_ok {p q : Primitive} {l : Literal} (same : q.bare = p.bare)
    (read : memberLiteral s' p = .ok l) : ∃ l', memberLiteral s q = .ok l' ∧ l'.bare = l.bare := by
  cases p <;> cases q <;> cases read <;> simp only [Primitive.bare, reduceCtorEq] at same
  exact ⟨_, rfl, Primitive.literal.inj same⟩

theorem Padded.peekBlank {comment : Bool} (padded : Padded xs ys) :
    peekBlank comment ys = (peekBlank comment xs).or (some ')') := by
  have solid : Unicode.isBlank ')' = false := by decide
  induction padded generalizing comment with
  | close isParen _ => simp [Reader.peekBlank, isParen, solid]
  | cons same _ ih =>
    simp only [Reader.peekBlank, same]
    split
    · exact ih
    · split
      · exact ih
      · rfl

/-- Where all is blank or comment, so is the first character. -/
theorem peekBlank_none {comment : Bool} {rest : List Cell} {c : Char}
    (none : peekBlank comment rest = none) (first : rest.head?.map Cell.char = some c) :
    Unicode.isBlank c = true ∨ c = '#' := by
  cases rest with
  | nil => cases first
  | cons cell rest =>
    cases first
    rw [peekBlank] at none
    split at none
    · next blank => exact .inl blank
    · split at none
      · next start =>
        simp only [Bool.and_eq_true, decide_eq_true_eq] at start
        exact .inr start.2
      · cases none

/-- The padding does not change whether a range or an operator can follow a hyphen. -/
theorem peekSecond_iff {a b : Cell} {c : Char} (padded : Padded xs ys)
    (solid : Unicode.isBlank c = false) (plain : c ≠ '#') (other : c ≠ ')') :
    peekSecond extended (a :: xs) = some c ↔ peekSecond extended (b :: ys) = some c := by
  have first : ys.head?.map Cell.char = (xs.head?.map Cell.char).or (some ')') := by
    cases padded with
    | close isParen _ => simp [isParen]
    | cons same _ => simp [same]
  simp only [peekSecond, List.tail_cons, padded.peekBlank, first]
  cases extended with
  | false =>
    cases xs.head? <;> simp [Ne.symm other]
  | true =>
    cases peeked : peekBlank false xs with
    | some d => simp
    | none =>
      have notFirst : xs.head?.map Cell.char ≠ some c := by
        intro first
        rcases peekBlank_none peeked first with blank | isHash
        · simp [blank] at solid
        · exact plain isHash
      simp [notFirst, Ne.symm other]

theorem leadingHyphens_tracks (start start' : Place) {items items' : ClassSet}
    (same : items.bare = items'.bare) (padded : ys ≠ [] → Padded xs ys) :
    Tracks 3 ClassSet.bare (leadingHyphens s extended start items xs)
      (leadingHyphens s' extended start' items' ys) := by
  intro v zs read enough
  fun_induction leadingHyphens s' extended start' items' ys generalizing xs items with
  | case1 => cases read
  | case2 items' b ys hyphen ih =>
    obtain ⟨a, xs, rfl, sameChar, padded⟩ := (padded (by simp)).uncons (by simp [hyphen])
    rw [within_skipBlank] at ih read
    rw [leadingHyphens, sameChar, if_pos hyphen, within_skipBlank]
    exact ih (by simp [ClassSet.bare, same, Literal.bare]) padded.skipBlank read
  | case3 items' b ys other =>
    cases read
    obtain ⟨a, xs, rfl, sameChar, tail⟩ := (padded (by simp)).uncons_of_length (by simpa using enough)
    refine ⟨items, a :: xs, ?_, same, .cons sameChar tail⟩
    rw [leadingHyphens, sameChar, if_neg other]

/-- A member of a class is no boundary, so a class goes on behind no brace of a boundary. -/
theorem not_memberItem_of_meetsBrace {p : Primitive} {item : ClassSet} {source rest : List Cell}
    (meets : p.MeetsBrace extended source rest) : memberItem s p ≠ .ok item := by
  obtain ⟨isBoundary, -⟩ := meets
  cases p <;> simp [Primitive.bare, memberItem, Source.fail] at isBoundary ⊢

theorem not_memberLiteral_of_meetsBrace {p : Primitive} {l : Literal} {source rest : List Cell}
    (meets : p.MeetsBrace extended source rest) : memberLiteral s p ≠ .ok l := by
  obtain ⟨isBoundary, -⟩ := meets
  cases p <;> simp [Primitive.bare, memberLiteral, Source.fail] at isBoundary ⊢

theorem classItem_tracks (opening opening' : Extent) (padded : Padded xs ys) :
    Tracks 3 ClassSet.bare (classItem s extended opening xs) (classItem s' extended opening' ys) := by
  intro v zs read enough
  simp only [classItem] at read
  obtain ⟨⟨first, behind⟩, readFirst, read⟩ := Grammar.bind_ok read
  simp only at read
  split at read
  · cases read
  next d more found =>
  have shorter := length_skipBlank_le extended behind
  -- Behind the first member stands more than one cell, with a second member or without.
  have someMore : more ≠ [] := by
    rintro rfl
    rw [found] at read
    split at read
    · obtain ⟨item, -, answered⟩ := Grammar.bind_ok read
      cases answered
      simp at enough
    · simp only [advance, List.tail_cons, skipBlank, List.isEmpty_nil, if_true] at read
      cases read
  have tracked := member_tracks (s := s) padded first behind readFirst (by
    have := List.length_pos_iff.mpr someMore
    rw [found, List.length_cons] at shorter
    omega)
  have closeBracket : Unicode.isBlank ']' = false := by decide
  have hyphen : Unicode.isBlank '-' = false := by decide
  rw [found] at read
  split at read
  · next noRange =>
    -- A member alone.
    obtain ⟨item, readItem, answered⟩ := Grammar.bind_ok read
    cases answered
    rcases tracked with meets | ⟨q, xs', readX, same, tails⟩
    · exact absurd readItem (not_memberItem_of_meetsBrace meets)
    obtain ⟨item', readItemX, sameItem⟩ := memberItem_ok (s := s) same readItem
    rw [List.length_cons] at enough
    have front := Padded.skipBlank_cons (fun _ => tails) found
    obtain ⟨c, xs'', behind', sameChar, tail⟩ := front.uncons_of_length (by omega)
    refine ⟨item', c :: xs'', ?_, sameItem, .cons sameChar tail⟩
    simp only [classItem, readX, bind, Except.bind, behind', sameChar,
      peekSecond_iff (b := d) tail closeBracket (by decide) (by decide),
      peekSecond_iff (b := d) tail hyphen (by decide) (by decide), if_pos noRange, readItemX]
    rfl
  · next range =>
    split at read
    · cases read
    -- A range, from one member to another.
    next someInner =>
    simp only [advance, List.tail_cons] at someInner read
    obtain ⟨⟨last, tail⟩, readLast, read⟩ := Grammar.bind_ok read
    obtain ⟨low, readLow, read⟩ := Grammar.bind_ok read
    obtain ⟨high, readHigh, read⟩ := Grammar.bind_ok read
    split at read
    · cases read
    next ordered =>
    cases read
    rcases tracked with meets | ⟨q, xs', readX, same, tails⟩
    · exact absurd readLow (not_memberLiteral_of_meetsBrace meets)
    have front := Padded.skipBlank_cons (fun _ => tails) found
    obtain ⟨c, xs'', behind', sameChar, rest⟩ := front.uncons (by simp_all)
    have inner := rest.skipBlank (by simpa using someInner)
    rcases member_tracks (s := s) inner last tail readLast (Nat.le_of_succ_le enough) with
      meets | ⟨q', tail', readLastX, sameLast, tails'⟩
    · exact absurd readHigh (not_memberLiteral_of_meetsBrace meets)
    obtain ⟨low', readLowX, sameLow⟩ := memberLiteral_ok (s := s) same readLow
    obtain ⟨high', readHighX, sameHigh⟩ := memberLiteral_ok (s := s) sameLast readHigh
    have lowChar : low'.char = low.char := (Literal.mk.inj sameLow).1
    have highChar : high'.char = high.char := (Literal.mk.inj sameHigh).1
    refine ⟨.range low' high', tail', ?_, by simp only [ClassSet.bare, sameLow, sameHigh], tails'⟩
    have someInnerX : (skipBlank extended xs'').isEmpty = false := by
      cases inner' : skipBlank extended xs'' with
      | nil =>
        rw [inner'] at readLastX
        cases readLastX
      | cons => rfl
    simp only [classItem, readX, bind, Except.bind, behind', sameChar,
      peekSecond_iff (b := d) rest closeBracket (by decide) (by decide),
      peekSecond_iff (b := d) rest hyphen (by decide) (by decide), if_neg range, advance, List.tail_cons,
      someInnerX, readLastX, readLowX, readHighX, lowChar, highChar, if_neg ordered]
    rfl

theorem setOperator?_eq (padded : Padded xs ys) : setOperator? ys = setOperator? xs := by
  unfold setOperator?
  rw [startsWith_eq _ padded (by decide), startsWith_eq _ padded (by decide),
    startsWith_eq _ padded (by decide)]

/-- Two answers of a reader that finds something or nothing, over a text and over the padded one. -/
def Matches {α γ : Type} (view : α → γ) (found padded : α × List Cell) : Prop :=
  view found.1 = view padded.1 ∧ Padded found.2 padded.2

/-- A class by its name, from behind the sign on. -/
def className (s : Source) (start : Place) (negated : Bool) (rest : List Cell) :
    Option (ClassSet × List Cell) := do
  let name := rest.takeWhile fun cell => cell.char ≠ ':'
  let _ :: bracket :: tail := rest.dropWhile fun cell => cell.char ≠ ':' | none
  if bracket.char ≠ ']' then none else
  let kind ← asciiClass? (String.ofList (name.map Cell.char))
  pure (.ascii kind negated ⟨start, s.here tail⟩, tail)

theorem className_rel (start start' : Place) (negated : Bool) (padded : Padded xs ys) :
    Option.Rel (Matches ClassSet.bare) (className s start negated xs) (className s' start' negated ys) := by
  have span := padded.span (· ≠ ':') (by decide) (by decide)
  simp only [className]
  rcases span with ⟨noColon, noColon'⟩ | ⟨sameName, a, b, xs', ys', colon, colon', padded⟩
  · rw [noColon, noColon']
    exact .none
  · rw [colon, colon', sameName]
    cases padded with
    | close isParen _ =>
      simp only [isParen]
      exact .none
    | cons same padded =>
      simp only [same]
      split
      · exact .none
      · cases asciiClass? _ with
        | none => exact .none
        | some kind => exact .some ⟨rfl, padded⟩

theorem namedClass?_rel {a b : Cell} (padded : Padded xs ys) :
    Option.Rel (Matches ClassSet.bare) (namedClass? s (a :: xs)) (namedClass? s' (b :: ys)) := by
  simp only [namedClass?, List.tail_cons]
  cases padded with
  | close isParen _ =>
    simp only [isParen]
    exact .none
  | @cons colon colon' xs ys same padded =>
    simp only [same]
    split
    · exact .none
    cases padded with
    | close isParen isDollar =>
      simp only [isParen]
      exact className_rel (s := s) a.place b.place false (.close isParen isDollar)
    | @cons sign sign' xs ys same padded =>
      by_cases caret : sign'.char = '^'
      · simp only [same, if_pos caret]
        exact className_rel a.place b.place true padded
      · simp only [same, if_neg caret]
        exact className_rel a.place b.place false (.cons same padded)

def Bracket.bare (b : Bracket) : Bracket :=
  ⟨⟨1, 0⟩, .blank, b.negated, b.outer.bare, b.pending.map (Prod.map id ClassSet.bare)⟩

theorem ClassSet.bare_eq_empty {set : ClassSet} : set.bare = .empty ↔ set = .empty := by
  cases set <;> simp [ClassSet.bare]

/-- What a bracket begins with behind its sign: hyphens, or a closing bracket taken as itself. -/
def firstItems (s : Source) (extended : Bool) (start : Place) (rest : List Cell) :
    Except Error (ClassSet × List Cell) := do
  let unclosed {α : Type} (tail : List Cell) : Except Error α :=
    s.fail ⟨start, s.here tail⟩ .classUnclosed
  if rest.isEmpty then unclosed rest else
  let (items, inner) ← leadingHyphens s extended start .empty rest
  match inner with
  | [] => unclosed inner
  | cell :: _ =>
    if items = .empty && cell.char = ']' then
      let tail := Reader.advance extended inner
      if tail.isEmpty then unclosed tail
      else pure (ClassSet.literal { char := ']', extent := s.next inner }, tail)
    else pure (items, inner)

/-- The sign of a bracket and the cells behind it. -/
def bracketSign (extended : Bool) (rest : List Cell) : Bool × List Cell :=
  match Reader.advance extended rest with
  | [] => (false, [])
  | cell :: more =>
    if cell.char = '^' then (true, Reader.advance extended (cell :: more)) else (false, cell :: more)

/-- Puts what an opened bracket was read with around its first items. -/
def finishBracket (s : Source) (start : Place) (negated : Bool) (outer : ClassSet)
    (pending : Option (SetOperator × ClassSet)) (found : ClassSet × List Cell) :
    Bracket × ClassSet × List Cell :=
  (⟨start, ⟨start, s.here found.2⟩, negated, outer, pending⟩, found)

theorem openBracket_eq (s : Source) (outer : ClassSet) (pending : Option (SetOperator × ClassSet))
    (rest : List Cell) :
    openBracket s extended outer pending rest =
      (firstItems s extended (s.here rest) (bracketSign extended rest).2).map
        (finishBracket s (s.here rest) (bracketSign extended rest).1 outer pending) := by
  simp only [openBracket, bracketSign, firstItems]
  cases Reader.advance extended rest with
  | nil => rfl
  | cons cell more =>
    generalize s.here rest = start
    -- With a sign and without one, the reading of the first items is the same.
    by_cases caret : cell.char = '^'
    all_goals
      simp only [caret, decide_true, decide_false, if_true, if_false]
      split
      · rfl
    all_goals
      cases leadingHyphens s extended start .empty _ with
      | error e => rfl
      | ok found =>
        obtain ⟨items, inner⟩ := found
        cases inner with
        | nil => rfl
        | cons cell more =>
          by_cases first : (decide (items = ClassSet.empty) && decide (cell.char = ']')) = true
          · simp only [bind, Except.bind, if_pos first]
            split <;> rfl
          · simp only [bind, Except.bind, if_neg first]
            rfl

theorem firstItems_tracks (start start' : Place) (padded : ys ≠ [] → Padded xs ys) :
    Tracks 3 ClassSet.bare (firstItems s extended start xs) (firstItems s' extended start' ys) := by
  intro v zs read enough
  simp only [firstItems] at read
  split at read
  · cases read
  next some =>
  obtain ⟨⟨items', inner'⟩, readHyphens, read⟩ := Grammar.bind_ok read
  simp only at read
  split at read
  · cases read
  next d more =>
  have long : 3 ≤ (d :: more).length := by
    -- What is left in the end was left behind the hyphens already.
    have shorter := length_skipBlank_le extended more
    split at read
    · split at read
      · cases read
      · cases read
        exact Nat.le_succ_of_le (Nat.le_trans enough shorter)
    · cases read
      exact enough
  obtain ⟨items, inner, readX, same, behind⟩ :=
    leadingHyphens_tracks (s := s) start start' rfl padded _ _ readHyphens long
  have someX : xs.isEmpty = false := by
    cases xs with
    | nil =>
      rw [leadingHyphens] at readX
      cases readX
    | cons => rfl
  obtain ⟨c, more', rfl, sameChar, tail⟩ := behind.uncons_of_length (Nat.le_of_succ_le_succ long)
  have sameEmpty : items = .empty ↔ items' = .empty := by
    rw [← ClassSet.bare_eq_empty, same, ClassSet.bare_eq_empty]
  simp only [firstItems, someX, readX, bind, Except.bind, sameChar, sameEmpty]
  split at read
  · next first =>
    split at read
    · cases read
    · cases read
      have rest : Padded (skipBlank extended more') (skipBlank extended more) := by
        apply tail.skipBlank
        intro none
        simp [Reader.advance, none] at enough
      have someRest : (Reader.advance extended (c :: more')).isEmpty = false := by
        have longer : 3 ≤ (Reader.skipBlank extended more).length := enough
        have some : 0 < (Reader.skipBlank extended more').length := by
          rw [rest.length_eq] at longer
          omega
        exact List.isEmpty_eq_false_iff.mpr (List.length_pos_iff.mp some)
      simp only [if_pos first, someRest]
      exact ⟨_, _, rfl, rfl, rest⟩
  · next other =>
    cases read
    simp only [if_neg other]
    exact ⟨items, _, rfl, same, behind⟩

theorem Padded.bracketSign {a b : Cell} (padded : Padded xs ys)
    (left : (bracketSign extended (b :: ys)).2 ≠ []) :
    (bracketSign extended (a :: xs)).1 = (bracketSign extended (b :: ys)).1 ∧
      Padded (bracketSign extended (a :: xs)).2 (bracketSign extended (b :: ys)).2 := by
  simp only [Reader.bracketSign, Reader.advance, List.tail_cons] at left ⊢
  have inner : Padded (Reader.skipBlank extended xs) (Reader.skipBlank extended ys) := by
    apply padded.skipBlank
    intro none
    simp [none] at left
  generalize Reader.skipBlank extended xs = xs' at inner
  generalize Reader.skipBlank extended ys = ys' at inner left
  cases inner with
  | close isParen isDollar =>
    simp [isParen]
    exact .close isParen isDollar
  | cons same inner =>
    simp only [same] at left ⊢
    split
    · next caret => exact ⟨rfl, inner.skipBlank (by simpa [caret] using left)⟩
    · exact ⟨rfl, .cons same inner⟩

theorem openBracket_ok {a b : Cell} {outer outer' items' : ClassSet}
    {pending pending' : Option (SetOperator × ClassSet)} {bracket' : Bracket} {zs : List Cell}
    (sameOuter : outer.bare = outer'.bare)
    (samePending : pending.map (Prod.map id ClassSet.bare) = pending'.map (Prod.map id ClassSet.bare))
    (padded : Padded xs ys)
    (read : openBracket s' extended outer' pending' (b :: ys) = .ok (bracket', items', zs))
    (enough : 3 ≤ zs.length) :
    ∃ bracket items zs', openBracket s extended outer pending (a :: xs) = .ok (bracket, items, zs') ∧
      bracket.bare = bracket'.bare ∧ items.bare = items'.bare ∧ Padded zs' zs := by
  rw [openBracket_eq] at read
  cases readItems : firstItems s' extended (s'.here (b :: ys)) (bracketSign extended (b :: ys)).2 with
  | error e =>
    rw [readItems] at read
    cases read
  | ok found =>
    rw [readItems] at read
    cases read
    have left : (bracketSign extended (b :: ys)).2 ≠ [] := by
      intro none
      rw [none] at readItems
      cases readItems
    obtain ⟨sameSign, inner⟩ := padded.bracketSign (a := a) left
    obtain ⟨items, zs', readX, same, tails⟩ :=
      firstItems_tracks (s := s) a.place b.place (fun _ => inner) _ _ readItems enough
    refine ⟨(finishBracket s a.place (bracketSign extended (a :: xs)).1 outer pending (items, zs')).1,
      items, zs', ?_, ?_, same, tails⟩
    · rw [openBracket_eq]
      exact congrArg (Except.map _) readX
    · simp only [Bracket.bare, finishBracket, sameSign, sameOuter, samePending]

/-- A class ends with its own bracket, so it takes a cell at least. -/
theorem classBody_shortens {current : Bracket} {stack : List Bracket}
    {pending : Option (SetOperator × ClassSet)} {items : ClassSet} {rest tail : List Cell} {t : Syntax}
    (read : classBody s extended current stack pending items rest = .ok (t, tail)) :
    tail.length < (skipBlank extended rest).length := by
  have shorter {more rest : List Cell} {cell : Cell} (inner : List Cell)
      (skip : skipBlank extended rest = cell :: more)
      (ih : tail.length < (skipBlank extended (within more inner)).length) :
      tail.length < (skipBlank extended rest).length := by
    have := length_skipBlank_le extended (within more inner)
    have := length_within_le more inner
    rw [skip, List.length_cons]
    omega
  fun_induction classBody s extended current stack pending items rest with
  | case1 => cases read
  | case2 _ _ _ _ _ _ _ skip _ _ _ inner _ ih => exact shorter inner skip (ih read)
  | case3 _ _ _ _ _ _ _ skip _ _ _ ih =>
    obtain ⟨⟨bracket, items, inner⟩, -, read⟩ := Grammar.bind_ok read
    exact shorter inner skip (ih bracket items inner read)
  | case4 _ _ _ _ _ _ skip =>
    cases read
    rw [skip]
    exact Nat.lt_succ_self _
  | case5 _ _ _ _ _ more skip _ _ _ _ _ _ ih =>
    have shorter := length_skipBlank_le extended more
    rw [skip, List.length_cons]
    exact Nat.lt_succ_of_lt (Nat.lt_of_lt_of_le (ih read) shorter)
  | case6 _ _ _ _ _ _ more skip _ _ _ _ _ ih => exact shorter more.tail skip (ih read)
  | case7 _ _ _ _ _ _ _ skip _ _ _ _ ih =>
    obtain ⟨⟨item, inner⟩, -, read⟩ := Grammar.bind_ok read
    exact shorter inner skip (ih item inner read)

theorem classBody_within_shortens {current : Bracket} {stack : List Bracket}
    {pending : Option (SetOperator × ClassSet)} {items : ClassSet} {more inner tail : List Cell} {t : Syntax}
    (read : classBody s extended current stack pending items (within more inner) = .ok (t, tail)) :
    tail.length < inner.length :=
  calc tail.length
    _ < (skipBlank extended (within more inner)).length := classBody_shortens read
    _ ≤ (within more inner).length := length_skipBlank_le extended (within more inner)
    _ ≤ inner.length := length_within_le_tail more inner

theorem settle_bare {pending pending' : Option (SetOperator × ClassSet)} {items items' : ClassSet}
    (samePending : pending.map (Prod.map id ClassSet.bare) = pending'.map (Prod.map id ClassSet.bare))
    (sameItems : items.bare = items'.bare) :
    (settle pending items).bare = (settle pending' items').bare := by
  cases pending <;> cases pending' <;> simp_all [settle, ClassSet.bare, Prod.ext_iff]

theorem classBody_tracks {current current' : Bracket} {stack stack' : List Bracket}
    {pending pending' : Option (SetOperator × ClassSet)} {items items' : ClassSet}
    (sameCurrent : current.bare = current'.bare)
    (sameStack : stack.map Bracket.bare = stack'.map Bracket.bare)
    (samePending : pending.map (Prod.map id ClassSet.bare) = pending'.map (Prod.map id ClassSet.bare))
    (sameItems : items.bare = items'.bare) (padded : ys ≠ [] → Padded xs ys) :
    Tracks 2 Syntax.bare (classBody s extended current stack pending items xs)
      (classBody s' extended current' stack' pending' items' ys) := by
  intro v zs read enough
  induction size : ys.length using Nat.strongRecOn
    generalizing xs ys current current' stack stack' pending pending' items items' v with
  | _ n ih =>
  have shortens := classBody_shortens read
  rw [classBody] at read
  split at read
  · cases read
  next b more skip =>
  rw [skip, List.length_cons] at shortens
  have shorter : more.length < n := size ▸ length_lt_of_skipBlank skip
  have smaller (tail : List Cell) : (within more tail).length < n :=
    Nat.lt_of_le_of_lt (length_within_le more tail) shorter
  obtain ⟨a, xs', skipX, sameChar, behind⟩ :=
    (Padded.skipBlank_cons padded skip).uncons_of_length (by omega)
  rw [classBody]
  split
  · next none => simp [none] at skipX
  next a' xs'' skipX' =>
  obtain ⟨rfl, rfl⟩ := List.cons.inj (skipX'.symm.trans skipX)
  simp only [sameChar]
  dsimp only at read
  split at read
  · next isOpen =>
    simp only [if_pos isOpen]
    -- A class by its name, or a class in brackets inside of this one.
    have named : Option.Rel (Matches ClassSet.bare) (namedClass? s (a' :: xs''))
        (namedClass? s' (b :: more)) := namedClass?_rel behind
    generalize namedClass? s' (b :: more) = found' at read named
    generalize namedClass? s (a' :: xs'') = found at named
    cases named with
    | @some found found' tracked =>
      have sameUnion : (items.union found.1).bare = (items'.union found'.1).bare := by
        simp only [ClassSet.bare, sameItems, tracked.1]
      exact ih _ (smaller _) sameCurrent sameStack samePending sameUnion
        (fun _ => behind.within tracked.2) v read rfl
    | none =>
      obtain ⟨⟨bracket, items, tail⟩, readOpen, read⟩ := Grammar.bind_ok read
      have long : 3 ≤ tail.length := Nat.lt_of_le_of_lt enough (classBody_within_shortens read)
      obtain ⟨bracket', items', tail', readOpenX, sameBracket, sameInner, tails⟩ :=
        openBracket_ok (s := s) (a := a') sameItems samePending behind readOpen long
      simp only [readOpenX, bind, Except.bind]
      exact ih _ (smaller _) sameBracket (by simp [sameCurrent, sameStack]) rfl sameInner
        (fun _ => behind.within tails) v read rfl
  · next notOpen =>
    simp only [if_neg notOpen]
    split at read
    · next isClose =>
      -- The innermost class is closed; it is an item of the one around it, if there is one.
      simp only [if_pos isClose]
      obtain ⟨-, -, sameNegated, sameOuter, sameOuterPending⟩ := Bracket.mk.inj sameCurrent
      have sameSettled := settle_bare samePending sameItems
      cases stack' with
      | nil =>
        obtain rfl : stack = [] := by simpa using sameStack
        cases read
        exact ⟨_, _, rfl, by simp only [Syntax.bare, sameNegated, sameSettled], behind⟩
      | cons enclosing' stack' =>
        cases stack with
        | nil => cases sameStack
        | cons enclosing stack =>
          obtain ⟨sameEnclosing, sameStack⟩ := List.cons.inj sameStack
          exact ih _ shorter sameEnclosing sameStack sameOuterPending
            (by simp only [ClassSet.bare, sameOuter, sameNegated, sameSettled]) (fun _ => behind) v read rfl
    · next notClose =>
      simp only [if_neg notClose, ← setOperator?_eq (.cons sameChar behind)]
      split at read
      · next operator found =>
        -- An operator takes all that is read so far for its left side.
        have long : 2 ≤ more.tail.length :=
          Nat.le_of_lt (Nat.lt_of_le_of_lt enough (classBody_within_shortens read))
        exact ih _ (smaller _) sameCurrent sameStack (by simp [settle_bare samePending sameItems]) rfl
          (fun _ => behind.within (behind.tail long)) v read rfl
      · next notOperator =>
        obtain ⟨⟨item, tail⟩, readItem, read⟩ := Grammar.bind_ok read
        have long : 3 ≤ tail.length := Nat.lt_of_le_of_lt enough (classBody_within_shortens read)
        obtain ⟨item', tail', readX, sameItem, tails⟩ := classItem_tracks (s := s) current.opening
          current'.opening (.cons sameChar behind) item tail readItem long
        simp only [readX, bind, Except.bind]
        exact ih _ (smaller _) sameCurrent sameStack samePending
          (by simp only [ClassSet.bare, sameItems, sameItem]) (fun _ => behind.within tails) v read rfl

/-- The body of a class takes a closing bracket, so its opening leaves more than the padding. -/
theorem class_ok {a b : Cell} {bracket' : Bracket} {first' : ClassSet} {item' : Syntax}
    {tail rest : List Cell} (padded : Padded xs ys)
    (opened : openBracket s' extended .empty none (b :: ys) = .ok (bracket', first', tail))
    (found : classBody s' extended bracket' [] none first' tail = .ok (item', rest))
    (enough : 2 ≤ rest.length) :
    ∃ bracket first tail' item rest',
      openBracket s extended .empty none (a :: xs) = .ok (bracket, first, tail') ∧
      classBody s extended bracket [] none first tail' = .ok (item, rest') ∧
      item.bare = item'.bare ∧ Padded rest' rest := by
  have room : 3 ≤ tail.length := by
    have := classBody_shortens found
    have := length_skipBlank_le extended tail
    omega
  have noPending : (none : Option (SetOperator × ClassSet)).map (Prod.map id ClassSet.bare) =
      (none : Option (SetOperator × ClassSet)).map (Prod.map id ClassSet.bare) := rfl
  have noBrackets : ([] : List Bracket).map Bracket.bare = ([] : List Bracket).map Bracket.bare := rfl
  obtain ⟨bracket, first, tail', openedX, sameBracket, sameFirst, tails⟩ :=
    openBracket_ok (s := s) (a := a) (rfl : ClassSet.empty.bare = _) noPending padded opened room
  obtain ⟨item, rest', foundX, sameItem, rests⟩ :=
    classBody_tracks (s := s) sameBracket noBrackets noPending sameFirst (fun _ => tails) item' rest found
      enough
  exact ⟨bracket, first, tail', item, rest', openedX, foundX, sameItem, rests⟩

end QueryLint.Pattern.Reader

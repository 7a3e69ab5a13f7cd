import QueryLint.Proofs.Pattern.Groups

/-! Patterns that must match a whole text.

A pattern is tied to the beginning and the end of a text by a group and two anchors around it:
`^(?:…)$`. If the whole is a pattern, the part in the middle is one too, unless it closes the group and
opens another; then the one fault of the part is a group that was not opened. `compile_of_anchored`
says so. It rests on `body_unwraps`, which reads the part alone and as it stands in the whole, step by
step.
-/

set_option autoImplicit false

namespace QueryLint.Pattern

namespace Reader

open Text (Place)

variable {s s' : Source} {extended : Bool} {xs ys : List Cell}

theorem Syntax.isRepeatable_bare (t : Syntax) : t.bare.isRepeatable = t.isRepeatable := by
  cases t <;> rfl

theorem repeatLast_ok {items items' before' : List Syntax} {item' : Syntax} (rest : List Cell)
    (same : items.map Syntax.bare = items'.map Syntax.bare)
    (read : repeatLast s' ys items' = .ok (item', before')) :
    ∃ item before, repeatLast s rest items = .ok (item, before) ∧ item.bare = item'.bare ∧
      before.map Syntax.bare = before'.map Syntax.bare := by
  cases items' with
  | nil => cases read
  | cons item' items' =>
    cases items with
    | nil => cases same
    | cons item items =>
      obtain ⟨sameItem, sameItems⟩ := List.cons.inj same
      rw [repeatLast, ← Syntax.isRepeatable_bare, ← sameItem, Syntax.isRepeatable_bare] at read
      split at read
      · next repeatable =>
        cases read
        exact ⟨item, items, by rw [repeatLast, if_pos repeatable], sameItem, sameItems⟩
      · cases read

theorem primitive_tracks {a b : Cell} (same : a.char = b.char) (padded : Padded xs ys) :
    TracksPrimitive extended ys (primitive s extended a xs) (primitive s' extended b ys) := by
  simp only [primitive, same]
  refine .ite (fun _ => escape_tracks padded) fun _ => ?_
  refine .ite (fun _ => .pure rfl padded) fun _ => ?_
  refine .ite (fun _ => .pure rfl padded) fun _ => ?_
  exact .ite (fun _ => .pure rfl padded) fun _ => .pure (by simp [Primitive.bare, Literal.bare]) padded

theorem mem_of_mem_within {rest tail : List Cell} {cell : Cell} (member : cell ∈ within rest tail) :
    cell ∈ rest :=
  List.mem_of_mem_drop member

theorem mem_of_mem_behind {rest more : List Cell} {front cell : Cell}
    (skip : skipBlank extended rest = front :: more) (member : cell ∈ more) : cell ∈ rest :=
  (skipBlank_suffix extended rest).subset (skip ▸ List.mem_cons_of_mem front member)

/-- An open group needs its parenthesis. -/
theorem body_unclosed {names : Names} {stack : List Frame} {alternatives items : List Syntax}
    {rest : List Cell} {t : Syntax} (isOpen : stack ≠ []) (noParen : ∀ cell ∈ rest, cell.char ≠ ')') :
    body s extended names stack alternatives items rest ≠ .ok t := by
  intro read
  fun_induction body s extended names stack alternatives items rest with
  | case1 => contradiction
  | case2 => cases read
  | case3 _ _ _ _ _ _ _ _ skip _ _ ihFlags ihGroup =>
    obtain ⟨⟨opening, names, tail⟩, -, read⟩ := Grammar.bind_ok read
    have none : ∀ cell ∈ within _ tail, cell.char ≠ ')' :=
      fun cell member => noParen cell (mem_of_mem_behind skip (mem_of_mem_within member))
    cases opening with
    | flags flags => exact ihFlags names tail flags isOpen none read
    | group flags => exact ihGroup names tail flags (List.cons_ne_nil _ _) none read
  | case4 => cases read
  -- Only a parenthesis takes a group off the stack.
  | case5 _ _ _ _ _ _ _ skip _ isParen =>
    have member := (skipBlank_suffix _ _).subset (skip ▸ List.mem_cons_self)
    exact noParen _ member isParen
  | case6 _ _ _ _ _ _ _ _ skip _ _ _ ih =>
    exact ih isOpen (fun cell member => noParen cell (mem_of_mem_behind skip member)) read
  | case7 _ _ _ _ _ _ _ _ skip _ _ _ _ _ ih =>
    obtain ⟨⟨bracket, inner, tail⟩, -, read⟩ := Grammar.bind_ok read
    obtain ⟨⟨item, tail⟩, -, read⟩ := Grammar.bind_ok read
    exact ih item tail isOpen
      (fun cell member => noParen cell (mem_of_mem_behind skip (mem_of_mem_within member))) read
  | case8 _ _ _ _ _ _ _ _ skip _ _ _ _ _ _ ih =>
    obtain ⟨⟨item, before⟩, -, read⟩ := Grammar.bind_ok read
    obtain ⟨⟨⟨least, most⟩, tail⟩, -, read⟩ := Grammar.bind_ok read
    exact ih item before least most tail isOpen
      (fun cell member => noParen cell (mem_of_mem_behind skip (mem_of_mem_within member))) read
  | case9 _ _ _ _ _ _ _ _ skip _ _ _ _ _ _ _ _ _ ih =>
    obtain ⟨⟨item, before⟩, -, read⟩ := Grammar.bind_ok read
    exact ih item before isOpen
      (fun cell member => noParen cell (mem_of_mem_behind skip (mem_of_mem_within member))) read
  | case10 _ _ _ _ _ _ _ _ skip _ _ _ _ _ _ ih =>
    obtain ⟨⟨item, tail⟩, -, read⟩ := Grammar.bind_ok read
    exact ih item tail isOpen
      (fun cell member => noParen cell (mem_of_mem_behind skip (mem_of_mem_within member))) read

theorem concatenation_bare (items : List Syntax) :
    (concatenation items).bare = concatenation (items.map Syntax.bare) := by
  have folded (tail : Syntax) : (items.foldl (fun tail item => .sequence item tail) tail).bare =
      (items.map Syntax.bare).foldl (fun tail item => .sequence item tail) tail.bare := by
    induction items generalizing tail with
    | nil => rfl
    | cons item items ih => exact ih (.sequence item tail)
  exact folded .empty

theorem alternation_bare (alternatives : List Syntax) (last : Syntax) :
    (alternation alternatives last).bare = alternation (alternatives.map Syntax.bare) last.bare := by
  induction alternatives generalizing last with
  | nil => rfl
  | cons branch alternatives ih => exact ih (.either branch last)

def Frame.bare (f : Frame) : Frame :=
  ⟨.blank, f.flags, f.extended, f.alternatives.map Syntax.bare, f.items.map Syntax.bare⟩

/-- The group that the padding closes, behind the anchor of the text. -/
def Frame.anchor (paren : Extent) : Frame :=
  ⟨paren, [], false, [], [.assertion .startLine]⟩

/-- The pattern that must match a whole text, around another one. -/
def anchored (inner : Syntax) : Syntax :=
  .sequence (.assertion .startLine) (.sequence (.group [] inner) (.sequence (.assertion .endLine) .empty))

/-- What a padded text tells of the text alone: either both are the same pattern, or the text alone
closes a group that it did not open. -/
def Unwraps (answer padded : Except Error Syntax) : Prop :=
  ∀ whole, padded = .ok whole →
    (∃ tree inner, answer = .ok tree ∧ inner.bare = tree.bare ∧ whole = anchored inner) ∨
      ∃ error, answer = .error error ∧ error.fault = .groupUnopened

namespace Unwraps

theorem ite {answer answer' padded padded' : Except Error Syntax} {condition : Prop}
    [Decidable condition] (yes : condition → Unwraps answer padded)
    (no : ¬condition → Unwraps answer' padded') :
    Unwraps (if condition then answer else answer') (if condition then padded else padded') := by
  split
  · exact yes ‹_›
  · exact no ‹_›

theorem bind {α : Type} {answer padded : Except Error α} {next next' : α → Except Error Syntax}
    (step : ∀ v, padded = .ok v →
      (∃ w, answer = .ok w ∧ Unwraps (next w) (next' v)) ∨ ∀ whole, next' v ≠ .ok whole) :
    Unwraps (answer >>= next) (padded >>= next') := by
  intro whole read
  obtain ⟨v, found, read⟩ := Grammar.bind_ok read
  rcases step v found with ⟨w, foundX, unwraps⟩ | fails
  · rw [foundX]
    exact unwraps whole read
  · exact absurd read (fails whole)

end Unwraps

theorem Padded.noParen_within {tail : List Cell} (padded : Padded xs ys) (short : tail.length < 2) :
    ∀ cell ∈ Reader.within ys tail, cell.char ≠ ')' := by
  have behind {n : Nat} (beyond : xs.length < n) : ∀ cell ∈ ys.drop n, cell.char ≠ ')' := by
    induction padded generalizing n with
    | close _ isDollar =>
      -- The parenthesis is the first cell behind the text, so less than two cells are the dollar at most.
      match n with
      | 1 => simp [isDollar]
      | n + 2 => simp
    | cons _ _ ih =>
      cases n with
      | zero => simp at beyond
      | succ n => exact ih (by simpa using beyond)
  rw [Reader.within]
  exact behind (by rw [padded.length_eq]; omega)

theorem body_nil {names : Names} {alternatives items : List Syntax} {rest : List Cell}
    (none : skipBlank extended rest = []) :
    body s extended names [] alternatives items rest =
      .ok (alternation alternatives (concatenation items)) := by
  rw [body]
  split
  · rfl
  · next skip =>
    rw [none] at skip
    cases skip

theorem body_dollar {names : Names} {items : List Syntax} {dollar : Cell} (isDollar : dollar.char = '$') :
    body s extended names [] [] items [dollar] = .ok (concatenation (.assertion .endLine :: items)) := by
  have solid : skipBlank extended [dollar] = [dollar] :=
    skipBlank_solid (by rw [isDollar]; decide) (by simp [isDollar])
  have once : repetition? '$' = none := rfl
  rw [body]
  split
  · next skip => simp [solid] at skip
  next cell more skip =>
  rw [solid] at skip
  cases skip
  simp only [isDollar, Char.reduceEq, if_false, once, primitive, if_true, bind, Except.bind]
  exact body_nil (show skipBlank extended [] = [] by rw [skipBlank])

/-- A brace with nothing but the padding behind it opens no count. -/
theorem counts_padding {brace : Cell} {more tail : List Cell} {range : Nat × Option Nat}
    (nothing : Padded [] (skipBlank extended more)) :
    counts s extended (brace :: more) ≠ .ok (range, tail) := by
  intro read
  simp only [counts, Reader.advance, List.tail_cons] at read
  split at read
  · cases read
  split at read
  · cases read
  next separator behind found =>
  have noLeast {n : Nat} : (decimal s extended (skipBlank extended more)).1 ≠ .ok n := by
    intro least
    exact (nothing.decimal_ok (s := s) (by simp [found]) least).1 rfl
  split at read
  · obtain ⟨n, least, -⟩ := Grammar.bind_ok read
    exact noLeast least
  · split at read
    · cases read
    · obtain ⟨n, least, -⟩ := Grammar.bind_ok read
      exact noLeast least

theorem body_meetsBrace {names : Names} {stack : List Frame} {alternatives items : List Syntax}
    {brace : Cell} {more : List Cell} {t : Syntax} (isBrace : brace.char = '\x7b')
    (nothing : Padded [] (skipBlank extended more)) :
    body s extended names stack alternatives items (brace :: more) ≠ .ok t := by
  intro read
  have solid : skipBlank extended (brace :: more) = brace :: more :=
    skipBlank_solid (by rw [isBrace]; decide) (by simp [isBrace])
  unfold body at read
  split at read
  · next skip => simp [solid] at skip
  next cell more' skip =>
  rw [solid] at skip
  cases skip
  simp only [isBrace, Char.reduceEq, if_false, if_true] at read
  obtain ⟨⟨item, before⟩, -, read⟩ := Grammar.bind_ok read
  obtain ⟨⟨range, tail⟩, readCounts, -⟩ := Grammar.bind_ok read
  exact counts_padding nothing readCounts

/-- Under a group, something is left to read. -/
theorem exists_skipBlank {names : Names} {stack : List Frame} {alternatives items : List Syntax}
    {rest : List Cell} {t : Syntax} (isOpen : stack ≠ [])
    (read : body s extended names stack alternatives items rest = .ok t) :
    ∃ cell more, skipBlank extended rest = cell :: more := by
  unfold body at read
  split at read
  · split at read
    · contradiction
    · cases read
  · next cell more skip => exact ⟨cell, more, skip⟩

/-- The parenthesis of the padding closes the innermost open group, which is the one around the text. -/
theorem body_padding {names : Names} {stack : List Frame} {alternatives items : List Syntax}
    {paren : Extent} {close dollar : Cell} {rest : List Cell} {whole : Syntax}
    (skip : skipBlank extended rest = [close, dollar]) (isParen : close.char = ')')
    (isDollar : dollar.char = '$')
    (read : body s extended names (stack ++ [.anchor paren]) alternatives items rest = .ok whole) :
    stack = [] ∧ whole = anchored (alternation alternatives (concatenation items)) := by
  unfold body at read
  split at read
  · next none => simp [none] at skip
  next cell more found =>
  rw [skip] at found
  cases found
  simp only [isParen, Char.reduceEq, if_false, if_true] at read
  cases stack with
  | nil =>
    simp only [List.nil_append, Frame.anchor] at read
    rw [body_dollar isDollar] at read
    cases read
    exact ⟨rfl, rfl⟩
  | cons frame stack => exact absurd read (body_unclosed (by simp) (by simp [isDollar]))

/-- What is read of a text alone and of the text in its padding, the places apart. -/
structure InStep (names names' : Names) (stack stack' : List Frame)
    (alternatives alternatives' items items' : List Syntax) : Prop where
  names : names.map Prod.fst = names'.map Prod.fst
  stack : stack.map Frame.bare = stack'.map Frame.bare
  alternatives : alternatives.map Syntax.bare = alternatives'.map Syntax.bare
  items : items.map Syntax.bare = items'.map Syntax.bare

section

variable {names names' found found' : Names} {stack stack' : List Frame}
  {alternatives alternatives' items items' : List Syntax}

namespace InStep

theorem inner (same : InStep names names' stack stack' alternatives alternatives' items items') :
    (alternation alternatives' (concatenation items')).bare =
      (alternation alternatives (concatenation items)).bare := by
  simp only [alternation_bare, concatenation_bare, same.alternatives, same.items]

theorem item {item item' : Syntax}
    (same : InStep names names' stack stack' alternatives alternatives' items items')
    (sameItem : item.bare = item'.bare) :
    InStep names names' stack stack' alternatives alternatives' (item :: items) (item' :: items') :=
  ⟨same.names, same.stack, same.alternatives, by simp [sameItem, same.items]⟩

theorem repeated {item item' : Syntax} {before before' : List Syntax}
    (same : InStep names names' stack stack' alternatives alternatives' items items')
    (sameItem : item.bare = item'.bare) (sameBefore : before.map Syntax.bare = before'.map Syntax.bare)
    (least : Nat) (most : Option Nat) :
    InStep names names' stack stack' alternatives alternatives' (.repeated item least most :: before)
      (.repeated item' least most :: before') :=
  ⟨same.names, same.stack, same.alternatives, by simp [Syntax.bare, sameItem, sameBefore]⟩

theorem branch (same : InStep names names' stack stack' alternatives alternatives' items items') :
    InStep names names' stack stack' (concatenation items :: alternatives)
      (concatenation items' :: alternatives') [] [] :=
  ⟨same.names, same.stack, by simp [concatenation_bare, same.alternatives, same.items], rfl⟩

theorem flags (same : InStep names names' stack stack' alternatives alternatives' items items')
    (sameFound : found.map Prod.fst = found'.map Prod.fst) (flags : List FlagItem) :
    InStep found found' stack stack' alternatives alternatives' (.flags flags :: items)
      (.flags flags :: items') :=
  ⟨sameFound, same.stack, same.alternatives, by simp [Syntax.bare, same.items]⟩

theorem group (same : InStep names names' stack stack' alternatives alternatives' items items')
    (sameFound : found.map Prod.fst = found'.map Prod.fst) (paren paren' : Extent)
    (flags : List FlagItem) (extended : Bool) :
    InStep found found' (⟨paren, flags, extended, alternatives, items⟩ :: stack)
      (⟨paren', flags, extended, alternatives', items'⟩ :: stack') [] [] [] [] :=
  ⟨sameFound, by simp [Frame.bare, same.stack, same.alternatives, same.items], rfl, rfl⟩

theorem close {frame frame' : Frame}
    (same :
      InStep names names' (frame :: stack) (frame' :: stack') alternatives alternatives' items items') :
    frame.extended = frame'.extended ∧
      InStep names names' stack stack' frame.alternatives frame'.alternatives
        (.group frame.flags (alternation alternatives (concatenation items)) :: frame.items)
        (.group frame'.flags (alternation alternatives' (concatenation items')) :: frame'.items) := by
  obtain ⟨sameFrame, sameStack⟩ := List.cons.inj same.stack
  obtain ⟨-, sameFlags, sameMode, sameOuter, sameBefore⟩ := Frame.mk.inj sameFrame
  exact ⟨sameMode, same.names, sameStack, sameOuter,
    by simp [Syntax.bare, sameFlags, same.inner, sameBefore]⟩

end InStep

/-- As long as fewer than `n` characters of the padded text are left, it tells of the text alone. -/
def UnwrapsBelow (s s' : Source) (paren : Extent) (n : Nat) : Prop :=
  ∀ {extended : Bool} {names names' : Names} {stack stack' : List Frame}
    {alternatives alternatives' items items' : List Syntax} {xs ys : List Cell}, ys.length < n →
    InStep names names' stack stack' alternatives alternatives' items items' →
    (ys ≠ [] → Padded xs ys) →
    Unwraps (body s extended names stack alternatives items xs)
      (body s' extended names' (stack' ++ [.anchor paren]) alternatives' items' ys)

/-- One step, in front of equal characters. -/
theorem body_step {paren : Extent} {a b : Cell} {xs' more : List Cell}
    (below : UnwrapsBelow s s' paren (more.length + 1)) (skip : skipBlank extended xs = a :: xs')
    (skip' : skipBlank extended ys = b :: more) (sameChar : a.char = b.char) (behind : Padded xs' more)
    (same : InStep names names' stack stack' alternatives alternatives' items items') :
    Unwraps (body s extended names stack alternatives items xs)
      (body s' extended names' (stack' ++ [.anchor paren]) alternatives' items' ys) := by
  have smaller (tail : List Cell) : (within more tail).length < more.length + 1 :=
    Nat.lt_succ_of_le (length_within_le more tail)
  -- What leaves less than the padding has read the parenthesis that closes the group around the text.
  have unclosed {tail : List Cell} {extended : Bool} {names : Names} {stack : List Frame}
      {alternatives items : List Syntax} (short : ¬2 ≤ tail.length) (whole : Syntax) :
      body s' extended names (stack ++ [.anchor paren]) alternatives items (within more tail) ≠ .ok whole :=
    body_unclosed (by simp) (behind.noParen_within (Nat.lt_of_not_le short))
  have goesOn {items items' : List Syntax} {tail tail' : List Cell}
      (same : InStep names names' stack stack' alternatives alternatives' items items')
      (tails : Padded tail' tail) :
      Unwraps (body s extended names stack alternatives items (within xs' tail'))
        (body s' extended names' (stack' ++ [.anchor paren]) alternatives' items' (within more tail)) :=
    below (smaller tail) same fun _ => behind.within tails
  intro whole read
  unfold body at read
  split at read
  · next none => simp [none] at skip'
  next cell rest found =>
  rw [skip'] at found
  cases found
  unfold body
  split
  · next none => simp [none] at skip
  next cell rest found =>
  rw [skip] at found
  cases found
  suffices unwraps : Unwraps _ _ from unwraps whole read
  simp only [sameChar]
  refine .ite (fun _ => ?_) fun _ => ?_
  · -- A group opens, or flags are set to the end of the group that is open.
    apply Unwraps.bind
    rintro ⟨opening, found', tail⟩ opened
    by_cases long : 2 ≤ tail.length
    · obtain ⟨found, tail', openedX, sameFound, tails⟩ :=
        openGroup_tracks (s := s) (a := a) same.names behind opening found' tail opened long
      refine .inl ⟨(opening, found, tail'), openedX, ?_⟩
      cases opening with
      | flags flags => exact below (smaller tail) (same.flags sameFound flags) fun _ => behind.within tails
      | group flags =>
        exact below (smaller tail) (same.group sameFound _ _ flags extended) fun _ => behind.within tails
    · right
      cases opening with
      | flags flags => exact unclosed long
      | group flags =>
        intro whole
        exact body_unclosed (List.cons_ne_nil _ _) (behind.noParen_within (Nat.lt_of_not_le long))
  refine .ite (fun _ => ?_) fun _ => ?_
  · -- The innermost group is closed; without one, the text alone is not a pattern.
    cases stack' with
    | nil =>
      obtain rfl : stack = [] := by simpa using same.stack
      exact fun _ _ => .inr ⟨_, rfl, rfl⟩
    | cons frame' stack' =>
      cases stack with
      | nil => cases same.stack
      | cons frame stack =>
        obtain ⟨sameMode, outer⟩ := same.close
        simp only [sameMode]
        exact below (Nat.lt_succ_self _) outer fun _ => behind
  refine .ite (fun _ => ?_) fun _ => ?_
  · exact below (Nat.lt_succ_self _) same.branch fun _ => behind
  refine .ite (fun _ => ?_) fun _ => ?_
  · -- A class.
    intro whole read
    obtain ⟨⟨bracket', first', tail⟩, opened, read⟩ := Grammar.bind_ok read
    obtain ⟨⟨item', rest⟩, found, read⟩ := Grammar.bind_ok read
    dsimp only at found read
    by_cases long : 2 ≤ rest.length
    · obtain ⟨bracket, first, tail', item, rest', openedX, foundX, sameItem, rests⟩ :=
        class_ok (s := s) (a := a) behind opened found long
      simp only [openedX, foundX, bind, Except.bind]
      exact goesOn (same.item sameItem) rests whole read
    · exact absurd read (unclosed long whole)
  refine .ite (fun _ => ?_) fun _ => ?_
  · -- A count of repetitions.
    apply Unwraps.bind
    rintro ⟨item', before'⟩ found
    left
    obtain ⟨item, before, foundX, sameItem, sameBefore⟩ := repeatLast_ok (s := s) (a :: xs') same.items found
    refine ⟨(item, before), foundX, ?_⟩
    apply Unwraps.bind
    rintro ⟨range', tail⟩ counted
    by_cases long : 2 ≤ tail.length
    · obtain ⟨range, tail', countedX, sameRange, tails⟩ :=
        counts_tracks (s := s) (a := a) behind range' tail counted long
      obtain rfl : range = range' := sameRange
      exact .inl ⟨(range, tail'), countedX, goesOn (same.repeated sameItem sameBefore _ _) tails⟩
    · exact .inr (unclosed long)
  cases repetition? b.char with
  | some counts =>
    apply Unwraps.bind
    rintro ⟨item', before'⟩ found
    left
    obtain ⟨item, before, foundX, sameItem, sameBefore⟩ := repeatLast_ok (s := s) (a :: xs') same.items found
    exact ⟨(item, before), foundX, goesOn (same.repeated sameItem sameBefore _ _) behind.dropLazy⟩
  | none =>
    apply Unwraps.bind
    rintro ⟨item', tail⟩ found
    by_cases long : 2 ≤ tail.length
    · rcases primitive_tracks (s := s) sameChar behind item' tail found long with
        ⟨-, suffix, brace, after, rfl, isBrace, nothing⟩ | ⟨item, tail', foundX, sameItem, tails⟩
      · right
        intro whole
        dsimp only
        rw [within_of_suffix suffix]
        exact body_meetsBrace isBrace nothing
      · have sameSyntax : item.toSyntax.bare = item'.toSyntax.bare := by
          rw [← Primitive.toSyntax_bare, ← Primitive.toSyntax_bare, sameItem]
        exact .inl ⟨(item, tail'), foundX, goesOn (same.item sameSyntax) tails⟩
    · exact .inr (unclosed long)

theorem body_unwraps {paren : Extent}
    (same : InStep names names' stack stack' alternatives alternatives' items items')
    (padded : ys ≠ [] → Padded xs ys) :
    Unwraps (body s extended names stack alternatives items xs)
      (body s' extended names' (stack' ++ [.anchor paren]) alternatives' items' ys) := by
  -- A step can leave any later part of the text, so the induction is on the length of what is left.
  induction size : ys.length using Nat.strongRecOn
    generalizing xs ys extended names names' stack stack' alternatives alternatives' items items' with
  | _ n ih =>
  intro whole read
  obtain ⟨b, more, skip⟩ := exists_skipBlank (by simp) read
  have shorter : more.length < n := size ▸ length_lt_of_skipBlank skip
  have inner := Padded.skipBlank_cons padded skip
  cases skipX : skipBlank extended xs with
  | nil =>
    rw [skipX] at inner
    cases inner with
    | close isParen isDollar =>
    obtain ⟨rfl, rfl⟩ := body_padding skip isParen isDollar read
    obtain rfl : stack = [] := by simpa using same.stack
    exact .inl ⟨_, _, body_nil skipX, same.inner, rfl⟩
  | cons a xs' =>
    rw [skipX] at inner
    cases inner with
    | cons sameChar behind =>
    have below : UnwrapsBelow s s' paren (more.length + 1) := by
      intro _ _ _ _ _ _ _ _ _ _ _ least same padded
      exact ih _ (Nat.lt_of_lt_of_le least shorter) same padded rfl
    exact body_step below skipX skip sameChar behind same whole read

end

theorem padded_cells (at_ at_' : Place) (cs : List Char) :
    Padded (cells at_ cs) (cells at_' (cs ++ [')', '$'])) := by
  induction cs generalizing at_ at_' with
  | nil => exact .close rfl rfl
  | cons c cs ih => exact .cons rfl (ih (at_.next c) (at_'.next c))

theorem skipBlank_plain (rest : List Cell) : skipBlank false rest = rest := by
  cases rest with
  | nil => rw [skipBlank]
  | cons cell more => simp [skipBlank]

/-- The anchor and the opening of the group are read on their own. -/
theorem body_anchor {caret paren question colon : Cell} {rest : List Cell}
    (isCaret : caret.char = '^') (isParen : paren.char = '(') (isQuestion : question.char = '?')
    (isColon : colon.char = ':') :
    body s false [] [] [] [] (caret :: paren :: question :: colon :: rest) =
      body s false [] [.anchor (s.next (paren :: question :: colon :: rest))] [] [] rest := by
  have once : repetition? '^' = none := rfl
  have opens : openGroup s false [] (paren :: question :: colon :: rest) = .ok (.group [], [], rest) := by
    simp [openGroup, skipBlank_plain, startsWith, isQuestion, isColon, flagItems, bind, Except.bind,
      List.isPrefixOf]
    rfl
  -- One step for the anchor, and one for the group.
  have anchor : body s false [] [] [] [] (caret :: paren :: question :: colon :: rest) =
      body s false [] [] [] [.assertion .startLine] (paren :: question :: colon :: rest) := by
    rw [body]
    split
    · next skip => simp [skipBlank_plain] at skip
    next cell more skip =>
    rw [skipBlank_plain] at skip
    cases skip
    simp only [isCaret, Char.reduceEq, if_false, once, primitive, if_true, bind, Except.bind]
    rw [within_of_suffix List.suffix_rfl]
    rfl
  rw [anchor, body]
  split
  · next skip => simp [skipBlank_plain] at skip
  next cell more skip =>
  rw [skipBlank_plain] at skip
  cases skip
  have behind : within (question :: colon :: rest) rest = rest :=
    within_of_suffix ((List.suffix_cons colon rest).trans (List.suffix_cons question _))
  simp only [isParen, if_true, opens, bind, Except.bind, behind]
  rfl

theorem read_unwraps (value : String) :
    Unwraps (Syntax.read value) (Syntax.read ("^(?:" ++ value ++ ")$")) := by
  have spelled : ("^(?:" ++ value ++ ")$").toList =
      '^' :: '(' :: '?' :: ':' :: (value.toList ++ [')', '$']) := by
    simp only [String.toList_append]
    rfl
  simp only [Syntax.read, spelled, cells]
  rw [body_anchor rfl rfl rfl rfl, ← List.nil_append [Frame.anchor _]]
  exact body_unwraps ⟨rfl, rfl, rfl, rfl⟩ fun _ => padded_cells _ _ _

end Reader

open Reader (anchored)

theorem Node.ofSyntax_anchored {inner : Syntax} {whole : Node} {flags : Flags}
    (worked : Node.ofSyntax {} (anchored inner) = .ok (whole, flags)) :
    ∃ node flags, Node.ofSyntax {} inner = .ok (node, flags) ∧ node.stepCount ≤ whole.stepCount := by
  simp only [anchored, ofSyntax, bind, Except.bind, Flags.apply] at worked
  split at worked
  · cases worked
  next answer found =>
  cases worked
  split at found
  · cases found
  next answer' found' =>
  cases found
  split at found'
  · cases found'
  next pair worked =>
  cases found'
  refine ⟨pair.1, pair.2, worked, ?_⟩
  simp only [stepCount]
  omega

/-- A tree with another's places left out of account is worked into the same node. -/
theorem Node.ofSyntax_of_bare {tree tree' : Syntax} {flags : Flags} {answer : Node × Flags}
    (same : tree.bare = tree'.bare) (worked : Node.ofSyntax flags tree = .ok answer) :
    Node.ofSyntax flags tree' = .ok answer := by
  rw [← Grammar.toOption_eq_some, ← ofSyntax_bare, ← same, ofSyntax_bare, worked]
  rfl

/-- A text is a pattern if it can be read, its flags can be worked in and it is not too large. -/
theorem compile_ok_iff {pattern : String} :
    (∃ test, compile pattern = .ok test) ↔
      ∃ tree n flags, Syntax.read pattern = .ok tree ∧ Node.ofSyntax {} tree = .ok (n, flags) ∧
        n.stepCount ≤ Program.maxSteps := by
  constructor
  · rintro ⟨test, compiled⟩
    rw [compile] at compiled
    obtain ⟨n, found, compiled⟩ := Grammar.bind_ok compiled
    rw [node] at found
    obtain ⟨tree, read, worked⟩ := Grammar.bind_ok found
    split at worked
    · next flags isNode =>
      cases worked
      split at compiled
      · cases compiled
      · next fits => exact ⟨tree, n, flags, read, isNode, Nat.le_of_not_lt fits⟩
    · cases worked
  · rintro ⟨tree, n, flags, read, worked, fits⟩
    have isNode : node pattern = .ok n := by
      simp only [node, read, bind, Except.bind, worked]
      rfl
    refine ⟨fun text => (Program.ofNode n).search text.toList, ?_⟩
    rw [compile, isNode]
    exact if_neg (Nat.not_lt.mpr fits)

/-- The part of a pattern that is tied to both ends of a text is a pattern, unless it closes the group
that ties it. -/
theorem compile_of_anchored {value : String} {test : String → Bool}
    (compiled : compile ("^(?:" ++ value ++ ")$") = .ok test) :
    (∃ test, compile value = .ok test) ∨ ∃ e, compile value = .error e ∧ e.fault = .groupUnopened := by
  obtain ⟨whole, wholeNode, flags, read, worked, fits⟩ := compile_ok_iff.mp ⟨test, compiled⟩
  rcases Reader.read_unwraps value whole read with
    ⟨tree, inner, readAlone, same, rfl⟩ | ⟨error, failed, unopened⟩
  · obtain ⟨n, flags, workedInner, smaller⟩ := Node.ofSyntax_anchored worked
    exact .inl (compile_ok_iff.mpr
      ⟨tree, n, flags, readAlone, Node.ofSyntax_of_bare same workedInner, Nat.le_trans smaller fits⟩)
  · refine .inr ⟨error, ?_, unopened⟩
    rw [compile, node, failed]
    rfl

end QueryLint.Pattern

import QueryLint.Proofs.Pattern.Padding

/-! Escapes in front of the end of a group.

All readers of escapes stop before the padding or fail, but for one: a word boundary looks for a name
behind a brace, and where the text ends with the brace there is none, while the padding shows that the
brace opens no name. `Primitive.MeetsBrace` is this case; nothing can be read behind it.
-/

set_option autoImplicit false

namespace QueryLint.Pattern.Reader

open Text (Place)

variable {s s' : Source} {extended : Bool} {xs ys : List Cell}

theorem hexDigit_ne_paren {c : Char} (digit : ¬(Literal.Quoted.hexDigit? c).isNone = true) :
    c ≠ ')' := by
  rintro rfl
  exact digit (by decide)

theorem hexDigits_tracks (n : Nat) (padded : ys ≠ [] → Padded xs ys) :
    Tracks 2 id (hexDigits s extended n xs) (hexDigits s' extended n ys) := by
  intro v zs read enough
  induction n generalizing xs ys v with
  | zero =>
    cases read
    exact ⟨[], xs, rfl, rfl, padded (by rintro rfl; simp at enough)⟩
  | succ n ih =>
    cases ys with
    | nil => cases read
    | cons b ys =>
      rw [hexDigits] at read
      split at read
      · cases read
      · next digit =>
        obtain ⟨⟨ds, tail⟩, read, answer⟩ := Grammar.bind_ok read
        cases answer
        -- A digit is not the parenthesis, so the text alone has it too.
        obtain ⟨a, xs, rfl, same, padded⟩ := (padded (by simp)).uncons (hexDigit_ne_paren digit)
        obtain ⟨ds', tail', readX, sameDigits, tails⟩ := ih padded.skipBlank _ read
        refine ⟨a.char :: ds', tail', ?_, ?_, tails⟩
        · rw [hexDigits, same, if_neg digit, readX]
          rfl
        · simp_all

theorem bracedDigits_tracks (brace brace' : Place) (padded : ys ≠ [] → Padded xs ys) :
    Tracks 2 id (bracedDigits s extended brace xs) (bracedDigits s' extended brace' ys) := by
  intro v zs read enough
  fun_induction bracedDigits s' extended brace' ys generalizing xs v with
  | case1 => cases read
  | case2 b ys close =>
    cases read
    obtain ⟨a, xs, rfl, same, tail⟩ := (padded (by simp)).uncons (by simp [close])
    refine ⟨[], a :: xs, ?_, rfl, .cons same tail⟩
    rw [bracedDigits, same, if_pos close]
    rfl
  | case3 b ys other digit => cases read
  | case4 b ys other digit ih =>
    obtain ⟨⟨ds, tail⟩, read, answer⟩ := Grammar.bind_ok read
    cases answer
    obtain ⟨a, xs, rfl, same, padded⟩ := (padded (by simp)).uncons (hexDigit_ne_paren digit)
    rw [within_skipBlank] at ih read
    obtain ⟨ds', tail', readX, sameDigits, tails⟩ := ih padded.skipBlank _ read
    refine ⟨a.char :: ds', tail', ?_, ?_, tails⟩
    · rw [bracedDigits, same, if_neg other, if_neg digit, within_skipBlank, readX]
      rfl
    · simp_all

theorem hexChar_ok {extent extent' : Extent} {ds : List Char} {c : Char}
    (read : hexChar s' extent' ds = .ok c) : hexChar s extent ds = .ok c := by
  unfold hexChar at read ⊢
  split at read
  · exact read
  · cases read

theorem hexLiteral_tracks (start start' : Place) (letter : Char) {a b : Cell}
    (padded : Padded xs ys) :
    Tracks 2 Literal.bare (hexLiteral s extended start letter (a :: xs))
      (hexLiteral s' extended start' letter (b :: ys)) := by
  intro v zs read enough
  simp only [hexLiteral, Reader.advance, List.tail_cons] at read ⊢
  split at read
  · cases read
  next d more found =>
  have inner := Padded.skipBlank_cons (fun _ => padded) found
  rw [found] at read
  split at read
  · next brace =>
    -- As many digits as there are, in braces.
    obtain ⟨⟨ds, close⟩, readDigits, read⟩ := Grammar.bind_ok read
    simp only at read
    split at read
    · cases read
    next someDigits =>
    obtain ⟨c, readChar, answer⟩ := Grammar.bind_ok read
    cases answer
    obtain ⟨c', xs', inner', sameChar, tail⟩ := inner.uncons (by simp [brace])
    have shorter := length_skipBlank_le extended close.tail
    obtain ⟨ds', close', readX, same, closes⟩ := bracedDigits_tracks (s := s) c'.place d.place
      tail.skipBlank _ _ readDigits (by rw [List.length_tail] at shorter; omega)
    obtain rfl : ds' = ds := same
    have rest := closes.advance enough
    refine ⟨⟨c, ⟨start, s.here (skipBlank extended close'.tail)⟩, false⟩, _, ?_, rfl, rest⟩
    simp only [inner', sameChar, if_pos brace, List.tail_cons, readX, bind, Except.bind,
      if_neg someDigits]
    rw [hexChar_ok readChar]
    rfl
  · next other =>
    -- As many digits as the letter says.
    obtain ⟨⟨ds, close⟩, readDigits, read⟩ := Grammar.bind_ok read
    obtain ⟨c, readChar, answer⟩ := Grammar.bind_ok read
    cases answer
    obtain ⟨ds', close', readX, same, closes⟩ :=
      hexDigits_tracks (s := s) _ (fun _ => inner) _ _ readDigits enough
    obtain rfl : ds' = ds := same
    refine ⟨⟨c, ⟨start, s.here close'⟩, letter = 'x'⟩, close', ?_, rfl, closes⟩
    generalize skipBlank extended xs = xs' at inner readX
    cases inner with
    | close =>
      -- Some digit is missing, whatever the width.
      split at readX
      · cases readX
      · split at readX <;> cases readX
    | cons sameChar _ =>
      simp only [sameChar, if_neg other, readX, bind, Except.bind]
      rw [hexChar_ok readChar]
      rfl

theorem propertyClass_tracks (start start' : Place) (negated : Bool) {a b : Cell}
    (padded : Padded xs ys) :
    Tracks 2 ClassEscape.bare (propertyClass s extended start negated (a :: xs))
      (propertyClass s' extended start' negated (b :: ys)) := by
  intro v zs read enough
  simp only [propertyClass, Reader.advance, List.tail_cons] at read ⊢
  split at read
  · cases read
  next d more found =>
  have inner := Padded.skipBlank_cons (fun _ => padded) found
  rw [found, List.tail_cons] at read
  split at read
  · next brace =>
    -- A name in braces.
    rw [bracedName_eq_run] at read
    split at read
    · cases read
    next last tail closed =>
    cases read
    obtain ⟨c, xs', inner', sameChar, behind⟩ := inner.uncons (by simp [brace])
    have left : skipBlank extended more ≠ [] := by
      intro none
      simp [none, run] at closed
    have closes := (behind.skipBlank left).run (· ≠ '\x7d') extended
    rw [closed] at closes
    obtain ⟨sameName, closes⟩ := closes (by decide) (by simp)
    obtain ⟨last', tail', closed', -, tails⟩ := closes.uncons_of_length enough
    refine ⟨.property (propertyQuery (run (· ≠ '\x7d') extended (skipBlank extended xs')).1) negated
      ⟨start, s.here tail'⟩, tail', ?_, ?_, tails⟩
    · simp only [inner', sameChar, if_pos brace, List.tail_cons, bracedName_eq_run, closed']
      rfl
    · simp only [ClassEscape.bare, sameName]
  · next other =>
    split at read
    · cases read
    -- A name of one letter.
    next notBackslash =>
    cases read
    have shorter := length_skipBlank_le extended more
    obtain ⟨c, xs', inner', sameChar, behind⟩ := inner.uncons_of_length (by omega)
    have tails : Padded (skipBlank extended xs') (skipBlank extended more) := by
      apply behind.skipBlank
      intro none
      simp [none] at enough
    refine ⟨.property (.named (String.singleton c.char)) negated
      ⟨start, s.here (skipBlank extended xs')⟩, _, ?_, ?_, tails⟩
    · simp only [inner', sameChar, if_neg other, if_neg notBackslash, List.tail_cons]
      rfl
    · simp only [ClassEscape.bare, sameChar]

/-- A name in braces that the padded reading finds. -/
theorem namedBoundary?_some (start start' : Place) {a b : Cell} {kind : Assertion} {zs : List Cell}
    (padded : Padded xs ys)
    (read : namedBoundary? s' extended start' (b :: ys) = .ok (some (kind, zs))) (enough : 2 ≤ zs.length) :
    ∃ xs', namedBoundary? s extended start (a :: xs) = .ok (some (kind, xs')) ∧ Padded xs' zs := by
  simp only [namedBoundary?, Reader.advance, List.tail_cons, boundaryName_eq_run] at read ⊢
  split at read
  · cases read
  next d more found =>
  have inner := Padded.skipBlank_cons (fun _ => padded) found
  rw [found] at read
  split at read
  · cases read
  next letter =>
  split at read
  · cases read
  next last tail closed =>
  have closes := inner.run isBoundaryLetter extended
  rw [closed] at closes
  obtain ⟨sameName, closes⟩ := closes (by decide) (by simp)
  split at read
  · cases read
  next brace =>
  have noParen : isBoundaryLetter ')' = false := by decide
  obtain ⟨c, xs', inner', sameChar, -⟩ := inner.uncons (by
    intro isParen
    simp [isParen, noParen] at letter)
  obtain ⟨last', tail', closed', sameLast, tails⟩ := closes.uncons (by simp_all)
  rw [inner'] at closed' sameName
  obtain rfl : tail = zs := by split at read <;> cases read <;> rfl
  refine ⟨tail', ?_, tails⟩
  simp only [inner', sameChar, if_neg letter, closed', sameLast, if_neg brace, sameName]
  split at read <;> simp_all [pure, Except.pure, Source.fail]

/-- Where the padded reading finds no name, there is none, or the text ends in front of one. -/
theorem namedBoundary?_none (start start' : Place) {a b : Cell} (padded : Padded xs ys)
    (read : namedBoundary? s' extended start' (b :: ys) = .ok none) :
    namedBoundary? s extended start (a :: xs) = .ok none ∨ Padded [] (skipBlank extended ys) := by
  simp only [namedBoundary?, Reader.advance, List.tail_cons] at read ⊢
  split at read
  · cases read
  next d more found =>
  have inner := Padded.skipBlank_cons (fun _ => padded) found
  split at read
  · next other =>
    generalize skipBlank extended xs = xs' at inner
    -- No letter is behind the brace: in both texts, or the text alone ends there.
    rw [found]
    cases inner with
    | close isParen isDollar => exact .inr (.close isParen isDollar)
    | cons sameChar _ =>
      left
      simp only [sameChar, if_pos other]
      rfl
  · split at read
    · cases read
    · split at read
      · cases read
      · split at read <;> cases read

def Primitive.bare : Primitive → Primitive
  | .literal l => .literal l.bare
  | .assertion kind _ => .assertion kind .blank
  | .dot _ => .dot .blank
  | .escape e => .escape e.bare

theorem Primitive.toSyntax_bare (p : Primitive) : p.bare.toSyntax = p.toSyntax.bare := by
  cases p <;> rfl

/-- A word boundary with a brace behind it and nothing behind the brace but padding. Without the
padding the brace is the beginning of a name that the text is too short for. -/
def Primitive.MeetsBrace (extended : Bool) (source : List Cell) (p : Primitive) (rest : List Cell) :
    Prop :=
  p.bare = .assertion .wordBoundary .blank ∧ rest <:+ source ∧
    ∃ brace more, rest = brace :: more ∧ brace.char = '\x7b' ∧ Padded [] (skipBlank extended more)

/-- As `Tracks`, for the readers of one character, which can meet a brace in the cells of `source`. -/
def TracksPrimitive (extended : Bool) (source : List Cell)
    (answer padded : Except Error (Primitive × List Cell)) : Prop :=
  ∀ p ys, padded = .ok (p, ys) → 2 ≤ ys.length → p.MeetsBrace extended source ys ∨
    ∃ q xs, answer = .ok (q, xs) ∧ q.bare = p.bare ∧ Padded xs ys

namespace TracksPrimitive

variable {source : List Cell} {answer answer' padded padded' : Except Error (Primitive × List Cell)}

theorem fail {extent : Extent} {fault : Fault} :
    TracksPrimitive extended source answer (s'.fail extent fault) := by
  intro v ys read
  cases read

theorem pure {p q : Primitive} (same : q.bare = p.bare) (padded : Padded xs ys) :
    TracksPrimitive extended source (.ok (q, xs)) (.ok (p, ys)) := by
  intro v ys' read _
  cases read
  exact .inr ⟨q, xs, rfl, same, padded⟩

theorem ite {condition : Prop} [Decidable condition]
    (yes : condition → TracksPrimitive extended source answer padded)
    (no : ¬condition → TracksPrimitive extended source answer' padded') :
    TracksPrimitive extended source (if condition then answer else answer')
      (if condition then padded else padded') := by
  split
  · exact yes ‹_›
  · exact no ‹_›

theorem behind {more : List Cell} (tracks : TracksPrimitive extended more answer padded)
    (suffix : more <:+ source) : TracksPrimitive extended source answer padded := by
  intro p ys read enough
  rcases tracks p ys read enough with ⟨isBoundary, isSuffix, meets⟩ | tracked
  · exact .inl ⟨isBoundary, isSuffix.trans suffix, meets⟩
  · exact .inr tracked

end TracksPrimitive

theorem Tracks.primitive {α : Type} {view : α → α} {source : List Cell}
    {answer padded : Except Error (α × List Cell)} (tracks : Tracks 2 view answer padded)
    {f : α → Primitive} (respects : ∀ w v, view w = view v → (f w).bare = (f v).bare) :
    TracksPrimitive extended source (answer >>= fun (w, xs) => .ok (f w, xs))
      (padded >>= fun (v, ys) => .ok (f v, ys)) := by
  intro p ys read enough
  obtain ⟨⟨v, ys⟩, readFirst, answered⟩ := Grammar.bind_ok read
  cases answered
  obtain ⟨w, xs, readX, same, tails⟩ := tracks v ys readFirst enough
  refine .inr ⟨f w, xs, ?_, respects w v same, tails⟩
  rw [readX]
  rfl

/-- A word boundary, named or not; the cells are those behind its letter. -/
def boundary (s : Source) (extended : Bool) (start : Place) (extent : Extent) (rest : List Cell) :
    Except Error (Primitive × List Cell) := do
  match rest with
  | brace :: _ =>
    if brace.char = '\x7b' then
      match ← namedBoundary? s extended start rest with
      | some (kind, tail) => pure (.assertion kind ⟨start, s.here tail⟩, tail)
      | none => pure (.assertion .wordBoundary extent, rest)
    else pure (.assertion .wordBoundary extent, rest)
  | [] => pure (.assertion .wordBoundary extent, rest)

theorem boundary_tracks {start start' : Place} {extent extent' : Extent} (padded : Padded xs ys) :
    TracksPrimitive extended ys (boundary s extended start extent xs)
      (boundary s' extended start' extent' ys) := by
  cases padded with
  | close isParen isDollar =>
    simp only [boundary, isParen]
    exact .pure rfl (.close isParen isDollar)
  | @cons a b xs ys same padded =>
    simp only [boundary, same]
    refine .ite (fun brace => ?_) fun _ => .pure rfl (.cons same padded)
    intro p zs read enough
    obtain ⟨found, readName, answered⟩ := Grammar.bind_ok read
    cases found with
    | some found =>
      cases answered
      obtain ⟨xs', readX, tails⟩ := namedBoundary?_some (s := s) start start' padded readName enough
      refine .inr ⟨.assertion _ ⟨start, s.here xs'⟩, xs', ?_, rfl, tails⟩
      rw [readX]
      rfl
    | none =>
      cases answered
      rcases namedBoundary?_none (s := s) start start' padded readName with readX | noName
      · refine .inr ⟨.assertion .wordBoundary extent, a :: xs, ?_, rfl, .cons same padded⟩
        rw [readX]
        rfl
      · exact .inl ⟨rfl, List.suffix_rfl, b, ys, rfl, brace, noName⟩

theorem escape_tracks {a b : Cell} (padded : Padded xs ys) :
    TracksPrimitive extended ys (escape s extended (a :: xs)) (escape s' extended (b :: ys)) := by
  simp only [escape, List.tail_cons]
  cases padded with
  | close isParen isDollar =>
    -- The backslash takes the parenthesis, and too little is left.
    intro p zs read enough
    simp only [isParen] at read
    cases read
    simp at enough
  | @cons c d xs ys same padded =>
    dsimp only
    rw [same]
    refine .ite (fun _ => .fail) fun _ => ?_
    refine .ite (fun _ => ?hex) fun _ => ?_
    case hex =>
      exact (hexLiteral_tracks _ _ _ padded).primitive fun w v same => by simp [Primitive.bare, same]
    refine .ite (fun _ => ?property) fun _ => ?_
    case property =>
      exact (propertyClass_tracks _ _ _ padded).primitive fun w v same => by simp [Primitive.bare, same]
    cases perlEscape? d.char with
    | some perl => exact .pure rfl padded
    | none =>
      refine .ite (fun _ => .pure rfl padded) fun _ => ?_
      cases controlEscape? d.char with
      | some control => exact .pure rfl padded
      | none =>
        refine .ite (fun _ => .pure rfl padded) fun _ => ?_
        refine .ite (fun _ => .pure rfl padded) fun _ => ?_
        refine .ite (fun _ => .pure rfl padded) fun _ => ?_
        refine .ite (fun _ => .pure rfl padded) fun _ => ?_
        refine .ite (fun _ => .pure rfl padded) fun _ => ?_
        exact .ite (fun _ => (boundary_tracks padded).behind (List.suffix_cons d ys)) fun _ => .fail

end QueryLint.Pattern.Reader

import QueryLint.Proofs.Token.Lookahead
import QueryLint.Proofs.Token.Move

/-! Cutting a text in front of another.

`Cuts` cuts a text in the presence of what follows it, so that no token is split, and `Cuts.breaks`
says that the same cut holds when the text ends there, or a blank or a comment comes next. The depth
of brackets is the only other thing that a cut depends on.
-/

set_option autoImplicit false

namespace QueryLint.Token

open Text (Span byteSize)

/-- The characters `x` are cut into `tokens` in front of `u`, and `final` is the depth behind them.
Comments are closed, so that what follows cannot be inside of one. -/
inductive Cuts (u : List Char) (final : Nat) : Nat → Nat → List Char → List Token → Prop
  | done {offset : Nat} : Cuts u final final offset [] []
  | blank {depth offset : Nat} {c : Char} {x : List Char} {tokens : List Token} :
      isSpace c = true → Cuts u final depth (offset + 1) x tokens →
      Cuts u final depth offset (c :: x) tokens
  | comment {depth offset : Nat} {text x : List Char} {tokens : List Token} :
      (∀ c ∈ text, c ≠ '\n') →
      Cuts u final depth (offset + 1 + byteSize text) ('\n' :: x) tokens →
      Cuts u final depth offset ('#' :: (text ++ '\n' :: x)) tokens
  | token {depth offset : Nat} {c : Char} {text x : List Char} {kind : Kind} {tokens : List Token} :
      isSpace c = false → c ≠ '#' →
      shape depth c (text ++ (x ++ u)) = (.token kind, text.length) →
      Cuts u final (depthAfter depth (.token kind)) (offset + byteSize (c :: text)) x tokens →
      Cuts u final depth offset (c :: (text ++ x))
        (⟨kind, String.ofList (c :: text), ⟨offset, offset + byteSize (c :: text)⟩⟩ :: tokens)

theorem ne_of_test {test : Char → Bool} {c a : Char} (passes : test c = true)
    (fails : test a = false) : c ≠ a := by
  rintro rfl
  rw [passes] at fails
  cases fails

theorem isDigit_of_starts {c : Char} (starts : startsIdentifier c = true) : c.isDigit = false := by
  rcases (Bool.or_eq_true _ _).mp starts with letter | underscore
  · have above : 'A'.val ≤ c.val := by
      rcases (Bool.or_eq_true _ _).mp letter with upper | lower
      · exact (of_decide_eq_true upper).1
      · have least : 'a'.val ≤ c.val := of_decide_eq_true ((Bool.and_eq_true _ _).mp lower).1
        exact UInt32.le_trans (by decide) least
    have beyond : ¬c.val ≤ '9'.val := fun below =>
      absurd (UInt32.le_trans above below) (by decide)
    rw [Char.isDigit, decide_eq_false beyond, Bool.and_false]
  · rw [of_decide_eq_true underscore]
    decide

theorem isSpace_of_starts {c : Char} (starts : startsIdentifier c = true) : isSpace c = false := by
  cases blank : isSpace c with
  | false => rfl
  | true =>
    rw [visible_startsIdentifier c (.inl blank)] at starts
    cases starts

/-- A character that passes a test is no symbol, if no symbol does. -/
theorem notMem_symbols {test : Char → Bool} {c : Char} (passes : test c = true)
    (none : (punctuation ++ comparators).all (!test ·) = true) : c ∉ punctuation ++ comparators := by
  intro member
  simpa [passes] using List.all_eq_true.mp none c member

theorem shape_of_starts {c : Char} (starts : startsIdentifier c = true) (depth : Nat)
    (rest : List Char) :
    shape depth c rest = (.token .identifier, countWhile continuesIdentifier rest) := by
  have ne {a : Char} (fails : startsIdentifier a = false) : c ≠ a := ne_of_test starts fails
  have other : c ∉ punctuation ++ comparators := notMem_symbols starts (by decide)
  have noColon : c ≠ ':' := ne rfl
  have noQuote : c ≠ '"' ∧ c ≠ '\'' ∧ c ≠ '\x60' := ⟨ne rfl, ne rfl, ne rfl⟩
  have noPoint : c ≠ '.' := ne rfl
  rw [shape_eq_otherShape other]
  simp [otherShape, starts, isDigit_of_starts starts, noColon, noQuote, noPoint]

theorem shape_of_digit {c : Char} (digit : c.isDigit = true) (depth : Nat) (rest : List Char) :
    shape depth c rest = (.token (numeral (c :: rest)).1, (numeral (c :: rest)).2 - 1) := by
  have ne {a : Char} (fails : a.isDigit = false) : c ≠ a := ne_of_test digit fails
  have other : c ∉ punctuation ++ comparators := notMem_symbols digit (by decide)
  have noColon : c ≠ ':' := ne rfl
  have noQuote : c ≠ '"' ∧ c ≠ '\'' ∧ c ≠ '\x60' := ⟨ne rfl, ne rfl, ne rfl⟩
  rw [shape_eq_otherShape other]
  simp [otherShape, digit, noColon, noQuote]

/-- A hexadecimal number is no duration: the mark behind the zero is no unit. -/
theorem durationLength_of_hex {cs : List Char} (hex : 0 < hexLength cs) : durationLength cs = 0 := by
  match cs with
  | [] => simp [hexLength] at hex
  | [_] => simp [hexLength] at hex
  | c :: x :: rest =>
    rw [hexLength_eq] at hex
    split at hex
    · next shape =>
      obtain ⟨rfl, mark, -⟩ := shape
      have noDigit : x.isDigit = false := by rcases mark with rfl | rfl <;> rfl
      have noLetter : isUnitLetter x = false := by rcases mark with rfl | rfl <;> rfl
      have digits : countWhile Char.isDigit ('0' :: x :: rest) = 1 := by
        simp [countWhile, noDigit]
      apply Nat.eq_zero_of_not_pos
      rw [durationLength_pos_iff, digits, List.drop_one, List.tail_cons,
        unitLength_eq_zero noLetter]
      omega
    · cases hex

theorem numeral_duration_iff {cs : List Char} :
    (numeral cs).1 = .duration ↔ 0 < durationLength cs := by
  simp only [numeral]
  split
  · next hex => simp [durationLength_of_hex hex]
  · rw [durationLength_pos_iff]
    split <;> simp_all

theorem Breaks.unitLength_eq {v : List Char} (breaks : Breaks v) : unitLength v = 0 := by
  obtain rfl | ⟨rest, rfl | rfl | rfl | rfl | rfl | rfl⟩ := breaks.cases <;> rfl

theorem durationLength_eq_zero {cs : List Char} (noDigit : Stops Char.isDigit cs) :
    durationLength cs = 0 := by
  apply Nat.eq_zero_of_not_pos
  rw [durationLength_pos_iff, countWhile_eq_zero_iff.mpr noDigit]
  exact fun both => Nat.lt_irrefl 0 both.1

theorem Alike.of_breaks {u v : List Char} (x : List Char) (breaks : Breaks v)
    (unit : unitLength (x ++ u) = 0 → unitLength (x ++ v) = 0)
    (duration : durationLength (x ++ u) = 0 → durationLength (x ++ v) = 0) :
    Alike (x ++ u) (x ++ v) where
  stops _ visible stops := stops.append_congr x fun _ => breaks.stops visible
  hex w none := by
    rw [← List.append_assoc] at none ⊢
    exact hexLength_eq_zero_of_breaks breaks _ none
  exponent w none := by
    rw [← List.append_assoc] at none ⊢
    exact exponentLength_eq_zero_of_breaks breaks _ none
  unit := unit
  duration := duration

/-- The text behind a cut does not matter, as long as nothing of it can belong to the last token. -/
theorem Cuts.alike {u v : List Char} {final depth offset : Nat} {x : List Char} {tokens : List Token}
    (cuts : Cuts u final depth offset x tokens) (breaks : Breaks v) : Alike (x ++ u) (x ++ v) := by
  induction cuts with
  | done =>
    refine .of_breaks [] breaks (fun _ => breaks.unitLength_eq) fun _ => ?_
    exact durationLength_eq_zero (breaks.stops visible_digit)
  | @blank _ _ c x _ isBlank _ _ =>
    have breaks' : Breaks (c :: x ++ v) := by simp [Breaks, isBlank]
    refine .of_breaks (c :: x) breaks (fun _ => breaks'.unitLength_eq) fun _ => ?_
    exact durationLength_eq_zero (breaks'.stops visible_digit)
  | comment =>
    exact .of_breaks (_ :: _) breaks (fun _ => rfl) fun _ => durationLength_eq_zero (by simp [Stops])
  | @token depth _ c text x kind _ _ _ isToken _ ih =>
    have stops := ih.stops
    refine .of_breaks _ breaks ?_ ?_
    · intro none
      rw [List.cons_append, List.append_assoc] at none ⊢
      -- A unit would be a word, and the word is a token that ends inside `text`.
      cases letter : isUnitLetter c with
      | false => exact unitLength_eq_zero letter _
      | true =>
        have starts : startsIdentifier c = true := by
          have table : ['s', 'm', 'h', 'd', 'w', 'y'].all startsIdentifier = true := by decide
          exact List.all_eq_true.mp table c (by simpa [isUnitLetter] using letter)
        rw [shape_of_starts starts] at isToken
        have stopped := (stops_of_countWhile (Prod.mk.inj isToken).2).2
        rw [unitLength_word c text stopped (ih.stops _ visible_continuesIdentifier stopped)]
        exact none
    · intro none
      rw [List.cons_append, List.append_assoc] at none ⊢
      -- A duration would be a numeral, and the numeral in front is the same for `v`.
      cases digit : c.isDigit with
      | false => exact durationLength_eq_zero (by simp [Stops, digit])
      | true =>
        rw [shape_of_digit digit] at isToken
        have same := ih.numeralShape_eq (.inl digit) isToken
        have kinds := (Prod.mk.inj (same.trans isToken.symm)).1
        apply Nat.eq_zero_of_not_pos
        rw [← numeral_duration_iff, Shape.token.inj kinds, numeral_duration_iff, none]
        exact Nat.lt_irrefl 0

/-- A cut also holds in front of a blank, a comment or the end. -/
theorem Cuts.breaks {u v : List Char} {final depth offset : Nat} {x : List Char} {tokens : List Token}
    (cuts : Cuts u final depth offset x tokens) (breaks : Breaks v) :
    Cuts v final depth offset x tokens := by
  induction cuts with
  | done => exact .done
  | blank isBlank _ ih => exact .blank isBlank ih
  | comment inLine _ ih => exact .comment inLine ih
  | token notBlank notHash isToken cuts ih =>
    exact .token notBlank notHash ((cuts.alike breaks).shape_eq isToken) ih

/-- Bracket depth behind tokens. -/
def depthBehind (depth : Nat) : List Token → Nat
  | [] => depth
  | t :: ts => depthBehind (depthAfter depth (.token t.kind)) ts

theorem depthBehind_append (depth : Nat) (front back : List Token) :
    depthBehind depth (front ++ back) = depthBehind (depthBehind depth front) back := by
  induction front generalizing depth with
  | nil => rfl
  | cons t front ih => exact ih _

theorem Cuts.final_eq {u : List Char} {final depth offset : Nat} {x : List Char} {tokens : List Token}
    (cuts : Cuts u final depth offset x tokens) : final = depthBehind depth tokens := by
  induction cuts with
  | done => rfl
  | blank _ _ ih | comment _ _ ih | token _ _ _ _ ih => exact ih

theorem offset_blank {c : Char} (isBlank : isSpace c = true) (offset : Nat) (x : List Char) :
    offset + byteSize (c :: x) = offset + 1 + byteSize x := by
  have one : c.utf8Size = 1 := by
    rcases isSpace_iff.mp isBlank with rfl | rfl | rfl | rfl | rfl <;> rfl
  rw [byteSize, one, Nat.add_assoc]

theorem offset_comment (offset : Nat) (text x : List Char) :
    offset + byteSize ('#' :: (text ++ x)) = offset + 1 + byteSize text + byteSize x := by
  have hash : '#'.utf8Size = 1 := rfl
  rw [byteSize, Text.byteSize_append, hash]
  omega

/-- What the scanner makes of a text that is cut. -/
theorem Cuts.scan_eq {u : List Char} {final depth offset : Nat} {x : List Char} {tokens : List Token}
    (cuts : Cuts u final depth offset x tokens) :
    scan depth offset (x ++ u) = tokens.map .token ++ scan final (offset + byteSize x) u := by
  induction cuts with
  | done => rfl
  | @blank depth offset c x _ isBlank _ ih =>
    rw [List.cons_append, scan, if_pos isBlank, ih, offset_blank isBlank]
  | @comment depth offset text x _ inLine _ ih =>
    have noBlank : ¬isSpace '#' = true := by decide
    have inLine' : ∀ c ∈ text, decide (c ≠ '\n') = true := by simpa using inLine
    rw [List.cons_append, List.append_assoc, scan, if_neg noBlank, if_pos rfl,
      List.takeWhile_append_of_pos inLine', List.dropWhile_append_of_pos inLine']
    rw [offset_comment, ← ih]
    simp
  | @token depth offset c text x kind _ notBlank notHash isToken _ ih =>
    have size : offset + byteSize (c :: (text ++ x)) =
        offset + byteSize (c :: text) + byteSize x := by
      rw [byteSize, byteSize, Text.byteSize_append]
      omega
    rw [List.cons_append, List.append_assoc, scan, if_neg (by simp [notBlank]), if_neg notHash,
      isToken, size]
    simp only [List.take_left, List.drop_left, ih, Item.ofShape, List.map_cons, List.cons_append]

theorem Cuts.ne_nil {u : List Char} {final depth offset : Nat} {x : List Char} {tokens : List Token}
    (cuts : Cuts u final depth offset x tokens) (some : tokens ≠ []) : x ≠ [] := by
  rintro rfl
  cases cuts
  exact some rfl

/-- A first token whose text is known. -/
theorem Cuts.first {u x : List Char} {final depth offset : Nat} {kind : Kind} {text : String}
    {c : Char} {cs : List Char} {tokens : List Token} (isText : text.toList = c :: cs)
    (notBlank : isSpace c = false) (notHash : c ≠ '#')
    (isToken : shape depth c (cs ++ (x ++ u)) = (.token kind, cs.length))
    (later : Cuts u final (depthAfter depth (.token kind)) (offset + byteSize text.toList) x tokens) :
    Cuts u final depth offset (text.toList ++ x)
      (⟨kind, text, ⟨offset, offset + byteSize text.toList⟩⟩ :: tokens) := by
  have sameText : String.ofList (c :: cs) = text := by rw [← isText, String.ofList_toList]
  rw [isText, List.cons_append] at *
  rw [← sameText]
  exact .token notBlank notHash isToken later

/-- A text that is cut to its end. -/
theorem Cuts.items_eq {final : Nat} {source : String} {tokens : List Token}
    (cuts : Cuts [] final 0 0 source.toList tokens) : items source = tokens.map .token := by
  have scanned := cuts.scan_eq
  rw [List.append_nil, scan, List.append_nil] at scanned
  exact scanned

/-- The text in front of the first token. -/
theorem exists_start {depth offset : Nat} {cs : List Char} {item : Item} {items : List Item}
    (scanned : scan depth offset cs = item :: items) :
    ∃ x u, cs = x ++ u ∧ item.span.start = offset + byteSize x ∧
      scan depth (offset + byteSize x) u = item :: items := by
  fun_induction scan depth offset cs with
  | case1 => cases scanned
  | case2 depth offset c rest isBlank ih =>
    obtain ⟨x, u, rfl, starts, scanned⟩ := ih scanned
    have size := offset_blank isBlank offset x
    exact ⟨c :: x, u, rfl, size ▸ starts, size ▸ scanned⟩
  | case3 depth offset rest _ ih =>
    obtain ⟨x, u, split, starts, scanned⟩ := ih scanned
    have size := offset_comment offset (rest.takeWhile (· ≠ '\n')) x
    refine ⟨'#' :: (rest.takeWhile (· ≠ '\n') ++ x), u, ?_, size ▸ starts, size ▸ scanned⟩
    rw [List.cons_append, List.append_assoc, ← split, List.takeWhile_append_dropWhile]
  | case4 depth offset c rest noBlank noHash kind n isShape text stop ih =>
    have first := (List.cons.inj scanned).1
    refine ⟨[], c :: rest, rfl, by rw [← first, Item.span_ofShape]; rfl, ?_⟩
    rw [← scanned, byteSize, Nat.add_zero, scan, if_neg noBlank, if_neg noHash, isShape]

/-- A text can be cut behind any number of its tokens, right where the last of them ends. -/
theorem exists_cuts {depth offset : Nat} {cs : List Char} {t : Token} {front back : List Token}
    (scanned : scan depth offset cs = (front ++ t :: back).map .token) :
    ∃ x u final, cs = x ++ u ∧ Cuts u final depth offset x (front ++ [t]) ∧
      t.span.stop = offset + byteSize x ∧
      scan final (offset + byteSize x) u = back.map .token := by
  fun_induction scan depth offset cs generalizing front with
  | case1 => simp at scanned
  | case2 depth offset c rest isBlank ih =>
    obtain ⟨x, u, final, rfl, cuts, stops, scanned⟩ := ih scanned
    have size := offset_blank isBlank offset x
    exact ⟨c :: x, u, final, rfl, .blank isBlank cuts, size ▸ stops, size ▸ scanned⟩
  | case3 depth offset rest _ ih =>
    obtain ⟨x, u, final, split, cuts, stops, scanned⟩ := ih scanned
    obtain ⟨d, x, rfl⟩ := List.exists_cons_of_ne_nil (cuts.ne_nil (by simp))
    -- A token follows, so the comment does not run to the end of the text.
    have newline : d = '\n' := by
      have first := List.head?_dropWhile_not (fun c : Char => decide (c ≠ '\n')) rest
      rw [split] at first
      simpa using first
    subst newline
    have size := offset_comment offset (rest.takeWhile (· ≠ '\n')) ('\n' :: x)
    refine ⟨'#' :: (rest.takeWhile (· ≠ '\n') ++ '\n' :: x), u, final, ?_, .comment ?_ cuts,
      size ▸ stops, size ▸ scanned⟩
    · rw [List.cons_append, List.append_assoc, ← split, List.takeWhile_append_dropWhile]
    · intro c member
      simpa using List.all_eq_true.mp List.all_takeWhile c member
  | case4 depth offset c rest noBlank noHash kind n isShape text stop =>
    rename_i ih
    have within : n ≤ rest.length := by simpa [isShape] using shape_le depth c rest
    have size : (rest.take n).length = n := List.length_take_of_le within
    have isToken (k : Kind) (same : kind = .token k) (x u : List Char) (split : rest.drop n = x ++ u) :
        shape depth c (rest.take n ++ (x ++ u)) = (.token k, (rest.take n).length) := by
      rw [← split, List.take_append_drop, isShape, size, same]
    cases kind with
    | fault cause => cases front <;> cases scanned
    | token k =>
      cases front with
      | nil =>
        obtain ⟨same, later⟩ := List.cons.inj scanned
        cases same
        refine ⟨text ++ [], rest.drop n, depthAfter depth (.token k), ?_, ?_, ?_, ?_⟩
        · simp [text]
        · exact .token (by simpa using noBlank) noHash (isToken k rfl [] _ rfl) .done
        · rw [List.append_nil]
        · rw [List.append_nil]
          exact later
      | cons first front =>
        obtain ⟨same, later⟩ := List.cons.inj scanned
        cases same
        obtain ⟨x, u, final, split, cuts, stops, later⟩ := ih later
        have whole : offset + byteSize (text ++ x) = stop + byteSize x := by
          rw [Text.byteSize_append, ← Nat.add_assoc]
        refine ⟨text ++ x, u, final, ?_, ?_, whole ▸ stops, whole ▸ later⟩
        · rw [List.append_assoc, ← split, List.cons_append, List.take_append_drop]
        · exact .token (by simpa using noBlank) noHash (isToken k rfl x u split) cuts

end QueryLint.Token

import QueryLint.Proofs.Token.Cut

/-! Texts with the same tokens and other gaps.

A token that was cut out of some text is cut out again, at the same depth of brackets, wherever a gap
or the end of the text follows it. So the texts of tokens can be moved apart, or closer together, as
long as some gap remains between any two of them.
-/

set_option autoImplicit false

namespace QueryLint.Token

open Text (byteSize)

/-- Blanks and comments. The end of the line closes a comment; only at the end of a text, where `final`
is true, may it be left open. -/
inductive Gap (final : Bool) : List Char → Prop
  | nil : Gap final []
  | blank {c : Char} {rest : List Char} :
      isSpace c = true → Gap final rest → Gap final (c :: rest)
  | comment {text rest : List Char} :
      '\n' ∉ text → Gap final rest → Gap final ('#' :: (text ++ '\n' :: rest))
  | opened {text : List Char} : final = true → '\n' ∉ text → Gap final ('#' :: text)

/-- The texts of tokens, each with the gap that follows it, behind a first gap. -/
def spaced (gap : List Char) : List (Token × List Char) → List Char
  | [] => gap
  | (t, next) :: rest => gap ++ (t.text.toList ++ spaced next rest)

/-- Gaps that keep tokens apart: those between two tokens are not empty. -/
def Separate (gap : List Char) : List (Token × List Char) → Prop
  | [] => Gap true gap
  | (_, next) :: rest => Gap false gap ∧ (rest ≠ [] → next ≠ []) ∧ Separate next rest

/-! Gaps. -/

theorem Gap.breaks {final : Bool} {gap : List Char} (isGap : Gap final gap) : Breaks gap := by
  cases isGap with
  | nil => simp [Breaks]
  | blank isBlank => simp [Breaks, isBlank]
  | comment | opened => simp [Breaks]

theorem Gap.breaks_append {final : Bool} {gap : List Char} (isGap : Gap final gap) (some : gap ≠ [])
    (rest : List Char) : Breaks (gap ++ rest) := by
  obtain ⟨c, cs, rfl⟩ := List.exists_cons_of_ne_nil some
  exact isGap.breaks

theorem Gap.cuts {gap : List Char} (isGap : Gap false gap) (u : List Char) (depth offset : Nat) :
    Cuts u depth depth offset gap [] := by
  induction isGap generalizing offset with
  | nil => exact .done
  | blank isBlank _ ih => exact .blank isBlank (ih _)
  | comment inLine _ ih =>
    refine .comment (fun c member => ?_) (.blank rfl (ih _))
    rintro rfl
    exact inLine member
  | opened isFinal => cases isFinal

theorem Gap.scan_append {gap : List Char} (isGap : Gap false gap) (u : List Char) (depth offset : Nat) :
    scan depth offset (gap ++ u) = scan depth (offset + byteSize gap) u :=
  (isGap.cuts u depth offset).scan_eq

theorem Gap.scan_eq {final : Bool} {gap : List Char} (isGap : Gap final gap) (depth offset : Nat) :
    scan depth offset gap = [] := by
  induction isGap generalizing offset with
  | nil => rw [scan]
  | blank isBlank _ ih => rw [scan, if_pos isBlank, ih]
  | @comment text rest inLine _ ih =>
    have closed : Gap false ('#' :: (text ++ ['\n'])) := .comment inLine .nil
    have scanned := closed.scan_append rest depth offset
    rw [ih] at scanned
    simpa using scanned
  | @opened text _ inLine =>
    have nothing : text.dropWhile (fun c : Char => decide (c ≠ '\n')) = [] := by
      rw [← List.append_nil text, List.dropWhile_append_of_pos, List.dropWhile_nil]
      intro c member
      simpa using fun same : c = '\n' => inLine (same ▸ member)
    rw [scan, if_neg (by decide), if_pos rfl, nothing, scan]

theorem Separate.breaks {gap : List Char} {parts : List (Token × List Char)}
    (separate : Separate gap parts) (some : parts ≠ [] → gap ≠ []) : Breaks (spaced gap parts) := by
  cases parts with
  | nil => exact Gap.breaks separate
  | cons part rest => exact separate.1.breaks_append (some (List.cons_ne_nil part rest)) _

/-! Tokens. -/

/-- The token is cut out at a depth of brackets wherever a gap or the end of the text follows it. -/
def Stands (depth : Nat) (t : Token) : Prop :=
  ∃ c text, t.text.toList = c :: text ∧ isSpace c = false ∧ c ≠ '#' ∧
    ∀ v, Breaks v → shape depth c (text ++ v) = (.token t.kind, text.length)

/-- Tokens that stand one behind the other, each at the depth that those before it leave. -/
def AllStand (depth : Nat) : List Token → Prop
  | [] => True
  | t :: ts => Stands depth t ∧ AllStand (depthAfter depth (.token t.kind)) ts

theorem Breaks.alike {v : List Char} (breaks : Breaks v) (u : List Char) : Alike u v := by
  have nothing : Cuts u 0 0 0 [] [] := .done
  exact nothing.alike breaks

/-- Tokens of a text stand on their own: nothing of what follows them there is needed. -/
theorem allStand_of_scan {depth offset : Nat} {cs : List Char} {tokens : List Token}
    (scanned : scan depth offset cs = tokens.map .token) : AllStand depth tokens := by
  fun_induction scan depth offset cs generalizing tokens with
  | case1 =>
    obtain rfl : tokens = [] := by simpa using scanned.symm
    trivial
  | case2 _ _ _ _ _ ih | case3 _ _ _ _ ih => exact ih scanned
  | case4 depth offset c rest noBlank noHash kind n isShape text stop =>
    rename_i ih
    cases tokens with
    | nil => cases scanned
    | cons t ts =>
      obtain ⟨first, later⟩ := List.cons.inj scanned
      cases kind with
      | fault => cases first
      | token k =>
        cases first
        have within : n ≤ rest.length := by simpa [isShape] using shape_le depth c rest
        have isToken : shape depth c (rest.take n ++ rest.drop n) = (.token k, (rest.take n).length) := by
          rw [List.take_append_drop, isShape, List.length_take_of_le within]
        refine ⟨⟨c, rest.take n, by simp [text], by simpa using noBlank, noHash, ?_⟩, ih later⟩
        exact fun v breaks => (breaks.alike _).shape_eq isToken

/-- What a token is, apart from its place. -/
def face (t : Token) : Kind × String :=
  (t.kind, t.text)

theorem Stands.scan_eq {depth : Nat} {t : Token} (stands : Stands depth t) {v : List Char}
    (breaks : Breaks v) (offset : Nat) :
    ∃ t' : Token, t'.face = t.face ∧ scan depth offset (t.text.toList ++ v) =
      .token t' :: scan (depthAfter depth (.token t.kind)) (offset + byteSize t.text.toList) v := by
  obtain ⟨c, text, isText, notBlank, notHash, isToken⟩ := stands
  have sameText : String.ofList (c :: text) = t.text := by rw [← isText, String.ofList_toList]
  refine ⟨⟨t.kind, t.text, ⟨offset, offset + byteSize (c :: text)⟩⟩, rfl, ?_⟩
  rw [isText, List.cons_append, scan, if_neg (by simp [notBlank]), if_neg notHash, isToken v breaks]
  simp only [List.take_left, List.drop_left, Item.ofShape, sameText]

/-- Texts of tokens that stand are cut into the same tokens again. -/
theorem AllStand.scan_spaced {depth : Nat} {gap : List Char} {parts : List (Token × List Char)}
    (stand : AllStand depth (parts.map Prod.fst)) (separate : Separate gap parts) (offset : Nat) :
    ∃ tokens : List Token, scan depth offset (spaced gap parts) = tokens.map .token ∧
      tokens.map face = (parts.map Prod.fst).map face := by
  induction parts generalizing depth offset gap with
  | nil => exact ⟨[], Gap.scan_eq separate depth offset, rfl⟩
  | cons part rest ih =>
    obtain ⟨t, next⟩ := part
    obtain ⟨isGap, apart, separate⟩ := separate
    obtain ⟨stands, standRest⟩ := stand
    obtain ⟨t', same, scanned⟩ :=
      stands.scan_eq (separate.breaks apart) (offset + byteSize gap)
    obtain ⟨tokens, scannedRest, sameRest⟩ := ih standRest separate _
    refine ⟨t' :: tokens, ?_, by simp only [List.map_cons, same, sameRest]⟩
    rw [spaced, isGap.scan_append, scanned, scannedRest, List.map_cons]

end QueryLint.Token

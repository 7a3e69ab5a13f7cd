import QueryLint.Proofs.Text.Offsets
import QueryLint.Text.Place

/-! The line of an offset.

Going through a text up to an offset passes whole lines and then some characters of one more. The helpers
for lines count newlines on their own; here all of them are brought to this one division of the text.
-/

set_option autoImplicit false

namespace QueryLint.Text

/-- The text is made of so many lines, each closed by its newline. -/
inductive WholeLines : Nat → List Char → Prop
  | nil : WholeLines 0 []
  | cons {n : Nat} {line rest : List Char} :
      '\n' ∉ line → WholeLines n rest → WholeLines (n + 1) (line ++ '\n' :: rest)

/-- Every text is some whole lines and a last one, which is not closed. -/
theorem exists_wholeLines (cs : List Char) :
    ∃ n whole last, cs = whole ++ last ∧ WholeLines n whole ∧ '\n' ∉ last := by
  induction cs with
  | nil => exact ⟨0, [], [], rfl, .nil, by simp⟩
  | cons c cs ih =>
    obtain ⟨n, whole, last, rfl, isWhole, inLine⟩ := ih
    -- The first character is a line of its own or joins the line behind it.
    by_cases newline : c = '\n'
    · subst newline
      exact ⟨n + 1, _, last, rfl, @WholeLines.cons _ [] _ (by simp) isWhole, inLine⟩
    · have ne : '\n' ≠ c := Ne.symm newline
      cases isWhole with
      | nil => exact ⟨0, [], c :: last, rfl, .nil, by simp [ne, inLine]⟩
      | @cons n line rest inFirst isWhole =>
        exact ⟨n + 1, _, last, rfl, @WholeLines.cons _ (c :: line) _ (by simp [ne, inFirst]) isWhole, inLine⟩

/-- Whole lines end in a newline, if there are any. -/
theorem WholeLines.eq_concat {n : Nat} {whole : List Char} (isWhole : WholeLines n whole)
    (some : whole ≠ []) : ∃ front, whole = front ++ ['\n'] := by
  induction isWhole with
  | nil => exact absurd rfl some
  | @cons n line rest _ isWhole ih =>
    cases isWhole with
    | nil => exact ⟨line, rfl⟩
    | cons =>
      obtain ⟨front, split⟩ := ih (by simp)
      exact ⟨line ++ '\n' :: front, by simp [split]⟩

theorem WholeLines.count_eq {n : Nat} {whole : List Char} (isWhole : WholeLines n whole) :
    whole.count '\n' = n := by
  induction isWhole with
  | nil => rfl
  | cons inLine _ ih => simp [List.count_append, List.count_eq_zero_of_not_mem inLine, ih]

/-- The line that an offset is on: it goes from one newline to the next, or from or to an end of the text.
An offset at a newline is on the line that this newline ends. -/
structure OnLine (text : List Char) (offset : Nat) (before line after : List Char) : Prop where
  split : text = before ++ (line ++ after)
  inLine : '\n' ∉ line
  opens : before = [] ∨ before.getLast? = some '\n'
  closes : after = [] ∨ after.head? = some '\n'
  starts : byteSize before ≤ offset
  stops : offset ≤ byteSize before + byteSize line

/-! The helpers for lines. -/

theorem lines_line {line : List Char} (inLine : '\n' ∉ line) (rest : List Char) :
    lines (line ++ '\n' :: rest) = line :: lines rest := by
  induction line with
  | nil => rw [List.nil_append, lines, if_pos rfl]
  | cons c line ih =>
    rw [List.mem_cons, not_or] at inLine
    rw [List.cons_append, lines, if_neg (Ne.symm inLine.1), ih inLine.2]
    rfl

theorem head?_lines (cs : List Char) : (lines cs).head? = some (cs.takeWhile (· ≠ '\n')) := by
  induction cs with
  | nil => rfl
  | cons c cs ih =>
    rw [lines]
    split
    · next newline => simp [newline]
    · next other => simp [List.head?_modifyHead, ih, other]

/-- Behind whole lines stands the next one. -/
theorem WholeLines.lineText_eq {n : Nat} {whole : List Char} (isWhole : WholeLines n whole)
    (rest : List Char) : lineText (whole ++ rest) (n + 1) = rest.takeWhile (· ≠ '\n') := by
  have found : (lines (whole ++ rest))[n]? = some (rest.takeWhile (· ≠ '\n')) := by
    induction isWhole with
    | nil => rw [List.nil_append, ← List.head?_eq_getElem?, head?_lines]
    | @cons n line whole inLine _ ih =>
      rw [List.append_assoc, List.cons_append, lines_line inLine, List.getElem?_cons_succ]
      exact ih
  rw [lineText, List.getD_eq_getElem?_getD, Nat.add_sub_cancel, found]
  rfl

theorem lineStart_line {line : List Char} (inLine : '\n' ∉ line) (n : Nat) (rest : List Char) :
    lineStart (n + 2) (line ++ '\n' :: rest) = byteSize line + (1 + lineStart (n + 1) rest) := by
  induction line with
  | nil =>
    rw [List.nil_append, lineStart, if_pos rfl, byteSize, Nat.zero_add]
    rfl
  | cons c line ih =>
    rw [List.mem_cons, not_or] at inLine
    rw [List.cons_append, lineStart, if_neg (Ne.symm inLine.1), ih inLine.2, byteSize, Nat.add_assoc]

theorem WholeLines.lineStart_eq {n : Nat} {whole : List Char} (isWhole : WholeLines n whole)
    (rest : List Char) : lineStart (n + 1) (whole ++ rest) = byteSize whole := by
  induction isWhole with
  | nil => rw [lineStart, byteSize]
  | @cons n line whole inLine _ ih =>
    rw [List.append_assoc, List.cons_append, lineStart_line inLine, ih, byteSize_append, byteSize]
    rfl

/-! Places. -/

namespace Place

theorem foldl_next_line {line : List Char} (inLine : '\n' ∉ line) (p : Place) :
    line.foldl next p = ⟨p.line, p.column + line.length⟩ := by
  induction line generalizing p with
  | nil => rfl
  | cons c line ih =>
    rw [List.mem_cons, not_or] at inLine
    rw [List.foldl_cons, ih inLine.2, next, if_neg (Ne.symm inLine.1), List.length_cons, Nat.add_assoc,
      Nat.add_comm 1]

theorem foldl_next_wholeLines {n : Nat} {whole : List Char} (isWhole : WholeLines n whole) (line : Nat) :
    whole.foldl next ⟨line, 0⟩ = ⟨line + n, 0⟩ := by
  induction isWhole generalizing line with
  | nil => rfl
  | cons inLine _ ih =>
    rw [List.foldl_append, List.foldl_cons, foldl_next_line inLine, next, if_pos rfl, ih, Nat.add_assoc,
      Nat.add_comm 1]

/-- The characters that start within the first `n` bytes. -/
def passed : Nat → List Char → List Char
  | 0, _ => []
  | _ + 1, [] => []
  | n + 1, c :: cs => c :: passed (n + 1 - c.utf8Size) cs

theorem skip_eq (p : Place) (n : Nat) (cs : List Char) : p.skip n cs = (passed n cs).foldl next p := by
  fun_induction skip p n cs with
  | case1 => rw [passed, List.foldl_nil]
  | case2 => rw [passed, List.foldl_nil]
  | case3 p n c cs ih => rw [passed, List.foldl_cons, ih]

theorem passed_isPrefix (n : Nat) (cs : List Char) : passed n cs <+: cs := by
  fun_induction passed n cs with
  | case1 => exact List.nil_prefix
  | case2 => exact List.nil_prefix
  | case3 n c cs ih => exact List.cons_prefix_cons.mpr ⟨rfl, ih⟩

/-- The characters passed reach an offset that is inside the text. -/
theorem le_byteSize_passed {n : Nat} {cs : List Char} (within : n ≤ byteSize cs) :
    n ≤ byteSize (passed n cs) := by
  fun_induction passed n cs with
  | case1 => exact Nat.zero_le _
  | case2 => exact absurd within (by simp [byteSize])
  | case3 n c cs ih =>
    rw [byteSize] at within ⊢
    have reach := ih (by omega)
    omega

/-- The last character passed starts before the offset. -/
theorem byteSize_lt_of_passed {n : Nat} {cs front : List Char} {c : Char}
    (last : passed n cs = front ++ [c]) : byteSize front < n := by
  fun_induction passed n cs generalizing front with
  | case1 => exact absurd last (by simp)
  | case2 => exact absurd last (by simp)
  | case3 n d cs ih =>
    cases front with
    | nil => exact Nat.succ_pos n
    | cons e front =>
      obtain ⟨rfl, tail⟩ := List.cons.inj last
      have before := ih tail
      rw [byteSize]
      omega

/-- The text at an offset: `n` whole lines and `column`, the front of the next line, are passed. -/
structure Division (cs : List Char) (offset n : Nat) (whole column back : List Char) : Prop where
  split : cs = whole ++ (column ++ back)
  passed_eq : passed offset cs = whole ++ column
  isWhole : WholeLines n whole
  inLine : '\n' ∉ column

theorem exists_division (cs : List Char) (offset : Nat) :
    ∃ n whole column back, Division cs offset n whole column back := by
  obtain ⟨back, split⟩ := passed_isPrefix offset cs
  obtain ⟨n, whole, column, divided, isWhole, inLine⟩ := exists_wholeLines (passed offset cs)
  rw [divided, List.append_assoc] at split
  exact ⟨n, whole, column, back, split.symm, divided, isWhole, inLine⟩

namespace Division

variable {cs whole column back : List Char} {offset n : Nat}

theorem ofOffset_eq (division : Division cs offset n whole column back) :
    ofOffset cs offset = ⟨n + 1, column.length⟩ := by
  rw [ofOffset, skip_eq, division.passed_eq, List.foldl_append, foldl_next_wholeLines division.isWhole,
    foldl_next_line division.inLine, Nat.add_comm n 1, Nat.zero_add]

theorem lineStart_eq (division : Division cs offset n whole column back) :
    lineStart (n + 1) cs = byteSize whole := by
  rw [division.split, division.isWhole.lineStart_eq]

theorem lineText_eq (division : Division cs offset n whole column back) :
    lineText cs (n + 1) = column ++ back.takeWhile (· ≠ '\n') := by
  rw [division.split, division.isWhole.lineText_eq, List.takeWhile_append_of_pos]
  exact fun c member => by simpa using fun same : c = '\n' => division.inLine (same ▸ member)

/-- The last character passed starts before the offset, and a newline has one byte. -/
theorem byteSize_whole_le (division : Division cs offset n whole column back) :
    byteSize whole ≤ offset := by
  rcases List.eq_nil_or_concat column with rfl | ⟨front, c, rfl⟩
  · by_cases none : whole = []
    · rw [none, byteSize]
      exact Nat.zero_le offset
    · obtain ⟨front, rfl⟩ := division.isWhole.eq_concat none
      have before := byteSize_lt_of_passed (division.passed_eq.trans (List.append_nil _))
      rw [byteSize_append]
      exact before
  · have last : passed offset cs = (whole ++ front) ++ [c] := by
      rw [division.passed_eq, List.concat_eq_append, List.append_assoc]
    have before := byteSize_lt_of_passed last
    rw [byteSize_append] at before
    omega

/-- An offset inside the text is not behind the characters passed. -/
theorem le_byteSize (division : Division cs offset n whole column back) (within : offset ≤ byteSize cs) :
    offset ≤ byteSize whole + byteSize column := by
  have reach := le_byteSize_passed within
  rw [division.passed_eq, byteSize_append] at reach
  exact reach

end Division

/-- The line that is shown for an offset is the one it is on. The place counts the lines before it and the
characters passed of the line itself. -/
theorem exists_onLine {cs : List Char} {offset : Nat} (within : offset ≤ byteSize cs) :
    let place := ofOffset cs offset
    ∃ before after, OnLine cs offset before (lineText cs place.line) after ∧
      lineStart place.line cs = byteSize before ∧ place.line = before.count '\n' + 1 ∧
      ∃ ahead rest, lineText cs place.line = ahead ++ rest ∧ passed offset cs = before ++ ahead ∧
        place.column = ahead.length := by
  intro place
  obtain ⟨n, whole, column, back, division⟩ := exists_division cs offset
  have reach := division.le_byteSize within
  have isPlace : place = ⟨n + 1, column.length⟩ := division.ofOffset_eq
  rw [isPlace, division.lineText_eq]
  refine ⟨whole, back.dropWhile (· ≠ '\n'), ?_, division.lineStart_eq, by rw [division.isWhole.count_eq],
    column, _, rfl, division.passed_eq, rfl⟩
  constructor
  · rw [List.append_assoc, List.takeWhile_append_dropWhile, ← division.split]
  · intro member
    rcases List.mem_append.mp member with inColumn | inRest
    · exact division.inLine inColumn
    · simpa using List.all_eq_true.mp List.all_takeWhile _ inRest
  · by_cases none : whole = []
    · exact .inl none
    · obtain ⟨front, rfl⟩ := division.isWhole.eq_concat none
      exact .inr (by simp)
  · cases behind : back.dropWhile (· ≠ '\n') with
    | nil => exact .inl rfl
    | cons c rest =>
      have stopped := List.head?_dropWhile_not (· ≠ '\n') back
      rw [behind] at stopped
      exact .inr (by simpa using stopped)
  · exact division.byteSize_whole_le
  · rw [byteSize_append]
    omega

end Place

end QueryLint.Text

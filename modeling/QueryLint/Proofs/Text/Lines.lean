import Mathlib.Data.List.GetD
import QueryLint.Proofs.Text.Place

/-! The lines of a text are the text.

One helper for lines counts newlines, the other cuts the text at them. They agree on every line that there
is, put together the lines are the text again, and behind the last line both find the end of the text.
-/

set_option autoImplicit false

namespace QueryLint.Text

/-- The text from a byte offset up to the next newline, or up to the end. -/
def lineFrom? (offset : Nat) (text : List Char) : Option (List Char) :=
  (cutAt? offset text).map fun (_, rest) => rest.takeWhile (· ≠ '\n')

theorem lineFrom?_append (before rest : List Char) :
    lineFrom? (byteSize before) (before ++ rest) = some (rest.takeWhile (· ≠ '\n')) := by
  rw [lineFrom?, cutAt?_append]
  rfl

theorem lines_eq_splitOn (cs : List Char) : lines cs = cs.splitOn '\n' := by
  induction cs with
  | nil => rfl
  | cons c cs ih => simp [lines, ih, List.splitOn_cons_eq_if_modifyHead]

theorem length_lines (cs : List Char) : (lines cs).length = cs.count '\n' + 1 := by
  induction cs with
  | nil => rfl
  | cons c cs ih =>
    rw [lines]
    split
    · next newline => rw [List.length_cons, ih, newline, List.count_cons_self]
    · next other => rw [List.length_modifyHead, ih, List.count_cons_of_ne other]

/-- Line numbers begin with one. -/
theorem map_lineText (cs : List Char) :
    (List.range' 1 (cs.count '\n' + 1)).map (lineText cs) = lines cs := by
  refine List.ext_getElem (by rw [List.length_map, List.length_range', length_lines]) ?_
  intro i _ inLines
  rw [List.getElem_map, List.getElem_range', lineText, List.getD_eq_getElem _ _ (by omega)]
  congr 1
  omega

/-- Every line that there is stands behind the whole lines before it. -/
theorem exists_wholeLines_before {n : Nat} {cs : List Char} (some : n ≤ cs.count '\n') :
    ∃ whole rest, cs = whole ++ rest ∧ WholeLines n whole := by
  induction n generalizing cs with
  | zero => exact ⟨[], cs, rfl, .nil⟩
  | succ n ih =>
    have newline : '\n' ∈ cs := List.count_pos_iff.mp (by omega)
    obtain ⟨line, rest, rfl, inLine⟩ := List.eq_append_cons_of_mem newline
    rw [List.count_append, List.count_cons_self, List.count_eq_zero_of_not_mem inLine] at some
    have behind : n ≤ rest.count '\n' := by omega
    obtain ⟨whole, rest, rfl, isWhole⟩ := ih behind
    exact ⟨line ++ '\n' :: whole, rest, by simp, .cons inLine isWhole⟩

/-! Lines behind the last one. -/

theorem lineText_beyond {n : Nat} {cs : List Char} (beyond : cs.count '\n' + 1 < n) :
    lineText cs n = [] := by
  rw [lineText, List.getD_eq_default]
  rw [length_lines]
  omega

theorem lineStart_beyond {n : Nat} {cs : List Char} (beyond : cs.count '\n' + 1 < n) :
    lineStart n cs = byteSize cs := by
  fun_induction lineStart n cs with
  | case1 => omega
  | case2 => omega
  | case3 => rfl
  | case4 n c cs ihNewline ihOther =>
    rw [byteSize]
    congr 1
    split
    · next newline =>
      rw [newline, List.count_cons_self] at beyond
      exact ihNewline (by omega)
    · next other =>
      rw [List.count_cons_of_ne other] at beyond
      exact ihOther beyond

/-- The line of a number is what stands at the offset of that number. -/
theorem lineFrom?_lineStart (n : Nat) (cs : List Char) :
    lineFrom? (lineStart n cs) cs = some (lineText cs n) := by
  -- A line that there is follows whole lines, and one that there is not begins at the end.
  have counted (n : Nat) : lineFrom? (lineStart (n + 1) cs) cs = some (lineText cs (n + 1)) := by
    by_cases within : n ≤ cs.count '\n'
    · obtain ⟨whole, rest, rfl, isWhole⟩ := exists_wholeLines_before within
      rw [isWhole.lineStart_eq, isWhole.lineText_eq, lineFrom?_append]
    · have atEnd := lineFrom?_append cs []
      rw [List.append_nil] at atEnd
      rw [lineStart_beyond (by omega), lineText_beyond (by omega), atEnd]
      rfl
  cases n with
  | zero =>
    have same : lineStart 0 cs = lineStart 1 cs := by rw [lineStart, lineStart]
    rw [same]
    exact counted 0
  | succ n => exact counted n

/-- Every line has no newline and goes from where it begins up to the next newline or the end of the text.
All lines, with newlines between them, are the text; there is one more than there are newlines. Any other
line begins at the end of the text and is empty. -/
theorem lines_partition (text : List Char) :
    (∀ n, '\n' ∉ lineText text n ∧ lineFrom? (lineStart n text) text = some (lineText text n)) ∧
    ['\n'].intercalate ((List.range' 1 (text.count '\n' + 1)).map (lineText text)) = text ∧
    ∀ n, text.count '\n' + 1 < n → lineStart n text = byteSize text ∧ lineText text n = [] := by
  refine ⟨fun n => ⟨?_, lineFrom?_lineStart n text⟩, ?_, fun n beyond =>
    ⟨lineStart_beyond beyond, lineText_beyond beyond⟩⟩
  · obtain ⟨_, -, taken⟩ := Option.map_eq_some_iff.mp (lineFrom?_lineStart n text)
    rw [← taken]
    intro member
    simpa using List.all_eq_true.mp List.all_takeWhile _ member
  · rw [map_lineText, lines_eq_splitOn, List.intercalate_splitOn]

/-- An empty line behind the last newline is a line; the one behind it is not. -/
theorem lines_partition_trailing :
    let text := ['a', '\n', 'é', '\n']
    lineStart 3 text = 5 ∧ lineFrom? 5 text = some [] ∧ text.count '\n' + 1 < 4 ∧
      lineStart 4 text = byteSize text ∧ lineText text 4 = [] := by
  intro text
  obtain ⟨each, -, beyond⟩ := lines_partition text
  exact ⟨rfl, (each 3).2, by decide, beyond 4 (by decide)⟩

end QueryLint.Text

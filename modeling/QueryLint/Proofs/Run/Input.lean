import QueryLint.Run

/-! The expression on the standard input is made of its lines.

A line ends with a line feed, which may have a carriage return before it. What stands behind the last line
feed is a line only if there is something, and it ends with nothing: a carriage return there belongs to it.
-/

set_option autoImplicit false

namespace QueryLint.Run

/-- A line without the carriage return at its end. -/
def chomp (line : List Char) : List Char :=
  if line.getLast? = some '\r' then line.dropLast else line

/-- The lines among the pieces of a text that is cut at its line feeds. -/
def ended : List (List Char) → List (List Char)
  | [] => []
  | [last] => if last = [] then [] else [last]
  | line :: next :: rest => chomp line :: ended (next :: rest)

def inputLines (text : List Char) : List (List Char) :=
  ended (Text.lines text)

theorem chomp_cons {c : Char} {line : List Char} (kept : line = [] → c ≠ '\r') :
    chomp (c :: line) = c :: chomp line := by
  cases line with
  | nil => simp [chomp, kept rfl]
  | cons d line =>
    unfold chomp
    rw [List.getLast?_cons_cons, List.dropLast_cons_cons]
    split <;> rfl

theorem exists_lines (cs : List Char) : ∃ line rest, Text.lines cs = line :: rest := by
  induction cs with
  | nil => exact ⟨_, _, rfl⟩
  | cons c cs ih =>
    obtain ⟨line, rest, cut⟩ := ih
    rw [Text.lines, cut]
    split
    · exact ⟨_, _, rfl⟩
    · exact ⟨_, _, rfl⟩

theorem lines_newline (cs : List Char) : Text.lines ('\n' :: cs) = [] :: Text.lines cs := rfl

theorem lines_cons {c : Char} {cs line : List Char} {rest : List (List Char)} (other : c ≠ '\n')
    (cut : Text.lines cs = line :: rest) : Text.lines (c :: cs) = (c :: line) :: rest := by
  rw [Text.lines, if_neg other, cut]
  rfl

/-- A text whose first line is empty is empty or begins with a line feed. -/
theorem of_lines_nil {cs : List Char} {rest : List (List Char)} (cut : Text.lines cs = [] :: rest) :
    (cs = [] ∧ rest = []) ∨ ∃ more, cs = '\n' :: more := by
  cases cs with
  | nil => exact .inl ⟨rfl, (List.cons.inj cut).2.symm⟩
  | cons c cs =>
    by_cases newline : c = '\n'
    · exact .inr ⟨cs, by rw [newline]⟩
    · obtain ⟨line, others, cutRest⟩ := exists_lines cs
      rw [lines_cons newline cutRest] at cut
      cases cut

theorem inputLines_ne_nil {cs : List Char} (nonempty : cs ≠ []) : inputLines cs ≠ [] := by
  obtain ⟨line, rest, cut⟩ := exists_lines cs
  rw [inputLines, cut]
  cases rest with
  | cons next rest => exact List.cons_ne_nil _ _
  | nil =>
    have filled : line ≠ [] := by
      rintro rfl
      rcases of_lines_nil cut with ⟨empty, -⟩ | ⟨more, rfl⟩
      · exact nonempty empty
      · obtain ⟨line, rest, cutMore⟩ := exists_lines more
        rw [lines_newline, cutMore] at cut
        cases cut
    rw [ended, if_neg filled]
    exact List.cons_ne_nil _ _

/-- A line in front of other text. -/
theorem intercalate_ended {line cs : List Char} (nonempty : cs ≠ []) :
    ['\n'].intercalate (ended (line :: Text.lines cs)) =
      chomp line ++ '\n' :: ['\n'].intercalate (inputLines cs) := by
  have more : inputLines cs ≠ [] := inputLines_ne_nil nonempty
  have step : ended (line :: Text.lines cs) = chomp line :: inputLines cs := by
    obtain ⟨next, rest, cut⟩ := exists_lines cs
    rw [inputLines, cut, ended]
  rw [step, List.intercalate_cons_of_ne_nil more, List.append_assoc]
  rfl

/-- A character in front of a line that goes on. -/
theorem intercalate_ended_cons {c : Char} {line : List Char} {rest : List (List Char)}
    (kept : line = [] → rest ≠ [] → c ≠ '\r') :
    ['\n'].intercalate (ended ((c :: line) :: rest)) = c :: ['\n'].intercalate (ended (line :: rest)) := by
  cases rest with
  | nil =>
    rw [ended, if_neg (List.cons_ne_nil c line), ended]
    split
    · next empty => simp [empty]
    · simp
  | cons next rest =>
    rw [ended, ended, chomp_cons fun empty => kept empty (List.cons_ne_nil _ _)]
    cases ended (next :: rest) with
    | nil => simp
    | cons => simp [List.intercalate_cons_cons]

theorem joinLines_eq (text : List Char) : joinLines text = ['\n'].intercalate (inputLines text) := by
  fun_induction joinLines text with
  | case1 => rfl
  | case2 => rfl
  | case3 => rfl
  | case4 rest nonempty ih =>
    have cut : Text.lines ('\r' :: '\n' :: rest) = ['\r'] :: Text.lines rest := rfl
    rw [inputLines, cut, intercalate_ended fun empty => nonempty empty, ih]
    rfl
  | case5 c rest notNewline _ notReturn ih =>
    by_cases newline : c = '\n'
    · subst newline
      rw [inputLines, lines_newline, intercalate_ended fun empty => notNewline rfl empty, ih]
      rfl
    · obtain ⟨line, others, cut⟩ := exists_lines rest
      rw [inputLines, lines_cons newline cut, ih, inputLines, cut]
      refine (intercalate_ended_cons ?_).symm
      rintro rfl more rfl
      rcases of_lines_nil cut with ⟨-, none⟩ | ⟨behind, rfl⟩
      · exact more none
      · exact notReturn behind rfl rfl

example : inputLines "a\r\nb\n\nc\r".toList = ["a".toList, "b".toList, [], "c\r".toList] := by decide

end QueryLint.Run

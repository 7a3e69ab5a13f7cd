import QueryLint.Diagnostic.Ansi
import QueryLint.Proofs.Diagnostic.Plain
import QueryLint.Proofs.Linter.Defaults

/-! How many lines the errors of a text take.

Without colour an error is written as three lines, of which the first and the last have its message. So three
lines are all exactly when the message has no newline. What a message quotes is escaped almost everywhere: only
an escape sequence of a string literal, which can have a newline in it, and the report of the engine on a
pattern come into a message as they are.
-/

set_option autoImplicit false

namespace QueryLint

open Text (Place byteSize)

/-! Texts in one line. -/

namespace Text

/-- A text without a newline. -/
def OneLine (text : String) : Prop :=
  '\n' ∉ text.toList

theorem oneLine_append {front back : String} :
    OneLine (front ++ back) ↔ OneLine front ∧ OneLine back := by
  simp [OneLine]

theorem OneLine.append {front back : String} (first : OneLine front) (second : OneLine back) :
    OneLine (front ++ back) :=
  oneLine_append.mpr ⟨first, second⟩

/-- Texts that are given character by character, as literals are. -/
theorem oneLine_literal {cs : List Char} (other : cs.all (· != '\n') = true) :
    OneLine (String.ofList cs) := by
  intro member
  rw [String.toList_ofList] at member
  exact absurd (List.all_eq_true.mp other _ member) (by decide)

theorem newline_notMem_hex (n : Nat) : '\n' ∉ hex n := by
  rw [hex]
  induction n using Nat.strong_induction_on with
  | _ n ih =>
    rw [Nat.toDigits_eq_if (by decide)]
    split
    · simp
    · simp [ih (n / 16) (by omega)]

theorem newline_notMem_codePointEscape (c : Char) : '\n' ∉ codePointEscape c := by
  simp [codePointEscape, newline_notMem_hex]

theorem oneLine_toString (n : Nat) : OneLine (toString n) := by
  simpa [OneLine, Nat.toString_eq_ofList_toDigits] using not_mem_toDigits rfl n

/-- Newlines are escaped between quotes. -/
theorem oneLine_quoted (text : String) : OneLine (quoted text) := by
  have char (c : Char) : '\n' ∉ quotedChar c := by
    by_cases isNewline : c = '\n'
    · subst isNewline
      decide
    · simp only [quotedChar]
      repeat' split
      all_goals first
        | decide
        | exact newline_notMem_codePointEscape c
        | exact fun member => isNewline (List.mem_singleton.mp member).symm
  simp [OneLine, quoted, char]

theorem oneLine_asciiChar (c : Char) : OneLine (asciiChar c) := by
  simp only [OneLine, asciiChar, String.toList_ofList]
  by_cases isNewline : c = '\n'
  · subst isNewline
    decide
  · repeat' split
    all_goals first
      | decide
      | exact newline_notMem_codePointEscape c
      | exact fun member => isNewline (List.mem_singleton.mp member).symm

end Text

open Text (OneLine oneLine_literal oneLine_quoted oneLine_toString)

/-! Messages. -/

namespace ParseError

theorem oneLine_describe (kind : Token.Kind) : OneLine kind.describe := by
  cases kind <;> exact oneLine_literal rfl

theorem oneLine_typeName (type : ValueType) : OneLine type.name := by
  cases type <;> exact oneLine_literal rfl

theorem oneLine_contextName (context : Context) : OneLine context.name := by
  cases context <;> exact oneLine_literal rfl

theorem oneLine_found (kind : Token.Kind) (text : String) : OneLine (found kind text) := by
  have withText (kind : Token.Kind) : OneLine s!"{kind.describe} {Text.quoted text}" :=
    .append (.append (oneLine_describe kind) (oneLine_literal rfl)) (oneLine_quoted text)
  unfold found
  split
  · exact withText _
  · exact withText _
  · exact withText _
  · exact oneLine_describe kind

theorem oneLine_clause (expected : Expectation) : OneLine expected.clause := by
  cases expected with
  | kind kind => exact .append (oneLine_literal rfl) (oneLine_describe kind)
  | _ => exact oneLine_literal rfl

theorem oneLine_roleName (role : Role) : OneLine role.name := by
  cases role with
  | argument function => exact .append (oneLine_literal rfl) (oneLine_quoted function)
  | _ => exact oneLine_literal rfl

theorem oneLine_argumentRange (function : Signature) : OneLine (argumentRange function) := by
  unfold argumentRange
  split
  · dsimp only
    split
    · exact oneLine_toString _
    · exact .append (.append (oneLine_toString _) (oneLine_literal rfl)) (oneLine_toString _)
  · exact .append (oneLine_literal rfl) (oneLine_toString _)

theorem oneLine_fault (fault : Token.Fault) : OneLine fault.message := by
  cases fault with
  | unexpectedCharacter c =>
    exact .append (.append (oneLine_literal rfl) (Text.oneLine_asciiChar c)) (oneLine_literal rfl)
  | unterminatedString => exact oneLine_literal rfl

theorem oneLine_duration (error : Literal.DurationError) : OneLine error.message := by
  cases error with
  | empty => exact oneLine_literal rfl
  | malformed text | outOfRange text => exact .append (oneLine_literal rfl) (oneLine_quoted text)

/-- What is wrong is shown as it is and has a newline: a report on a pattern, or an escape sequence. -/
def Cause.HasNewline : Cause → Prop
  | .pattern _ report => '\n' ∈ report.toList
  | .string (.unknownEscape c) => c = '\n'
  | .string (.badCode digits) => '\n' ∈ digits.toList
  | _ => False

theorem Cause.oneLine_message (cause : Cause) : OneLine cause.message ↔ ¬cause.HasNewline := by
  cases cause with
  | string error =>
    cases error with
    | unknownEscape c =>
      have char : OneLine (String.singleton c) ↔ ¬c = '\n' := by simp [OneLine, eq_comm]
      exact (Text.oneLine_append.trans (and_iff_right (oneLine_literal rfl))).trans char
    | badCode digits => exact Text.oneLine_append.trans (and_iff_right (oneLine_literal rfl))
    | _ =>
      refine iff_of_true ?_ id
      exact oneLine_literal rfl
  | pattern label report =>
    have front : OneLine s!"invalid regular expression in label matcher {Text.quoted label}: " :=
      .append (.append (oneLine_literal rfl) (oneLine_quoted label)) (oneLine_literal rfl)
    exact Text.oneLine_append.trans (and_iff_right front)
  | lexical fault => exact iff_of_true (oneLine_fault fault) id
  | duration error => exact iff_of_true (oneLine_duration error) id
  | unexpected kind text context expected =>
    refine iff_of_true ?_ id
    exact .append (.append (.append (.append (oneLine_literal rfl) (oneLine_found kind text))
      (oneLine_literal rfl)) (oneLine_contextName context)) (oneLine_clause expected)
  | operandType type | signedType type | subqueryType type | rangeType type =>
    refine iff_of_true ?_ id
    exact .append (oneLine_literal rfl) (oneLine_typeName type)
  | setOperandScalar op =>
    refine iff_of_true ?_ id
    exact .append (.append (oneLine_literal rfl) (oneLine_quoted _)) (oneLine_literal rfl)
  | offsetMisplaced | instantMisplaced =>
    refine iff_of_true ?_ id
    exact .append (oneLine_literal rfl) (oneLine_literal rfl)
  | number text | unknownFunction text =>
    refine iff_of_true ?_ id
    exact .append (oneLine_literal rfl) (oneLine_quoted text)
  | argumentCount function count =>
    refine iff_of_true ?_ id
    exact .append (.append (.append (.append (.append (oneLine_literal rfl) (oneLine_argumentRange function))
      (oneLine_literal rfl)) (oneLine_quoted function.name)) (oneLine_literal rfl))
      (.append (oneLine_literal rfl) (oneLine_toString count))
  | argumentType expected role actual =>
    refine iff_of_true ?_ id
    exact .append (.append (.append (.append (.append (oneLine_literal rfl) (oneLine_typeName expected))
      (oneLine_literal rfl)) (oneLine_roleName role)) (oneLine_literal rfl)) (oneLine_typeName actual)
  | aggregateCount expected actual =>
    refine iff_of_true ?_ id
    exact .append (oneLine_literal rfl) (.append (.append (.append (oneLine_literal rfl)
      (oneLine_toString expected)) (oneLine_literal rfl)) (oneLine_toString actual))
  | empty | scalarComparison | boolMisplaced | matchingOperands | setGrouping | offsetRepeated | instantRepeated
  | instantInfinite | emptySelector =>
    refine iff_of_true ?_ id
    exact oneLine_literal rfl

end ParseError

/-! Counting newlines. -/

namespace Text

theorem toList_loop (bytes : ByteArray) (i : Nat) (done : List UInt8) :
    ByteArray.toList.loop bytes i done = done.reverse ++ bytes.data.toList.drop i := by
  fun_induction ByteArray.toList.loop bytes i done with
  | case1 i done more ih =>
    have within : i < bytes.data.toList.length := more
    have byte : bytes.get! i = bytes.data.toList[i] := by
      rw [ByteArray.get!, Array.getElem_toList]
      exact getElem!_pos bytes.data i more
    rw [ih, List.drop_eq_getElem_cons within, byte, List.reverse_cons, List.append_assoc,
      List.singleton_append]
  | case2 i done more => rw [List.drop_eq_nil_of_le (Nat.le_of_not_lt more), List.append_nil]

/-- Texts one behind the other have their bytes one behind the other. -/
theorem toUTF8_append (front back : String) :
    (front ++ back).toUTF8.toList = front.toUTF8.toList ++ back.toUTF8.toList := by
  simp [ByteArray.toList, toList_loop]

theorem toUTF8_flatMap {α : Type} (f : α → List Char) (as : List α) :
    (String.ofList (as.flatMap f)).toUTF8.toList =
      as.flatMap fun a => (String.ofList (f a)).toUTF8.toList := by
  induction as with
  | nil => simp [ByteArray.toList, toList_loop]
  | cons a as ih => rw [List.flatMap_cons, String.ofList_append, toUTF8_append, ih, List.flatMap_cons]

end Text

/-- A finding without colour has a newline at the end of each of three lines, and its message twice. -/
theorem Diagnostic.count_lines [Coloring] {d : Diagnostic} (plain : d.color = .disabled) {producer : String}
    (oneLine : OneLine producer) {text : List Char} (within : d.span.start ≤ byteSize text) (p : Paint) :
    (d.lines p producer text).count '\n' = 3 + 2 * d.message.toList.count '\n' := by
  obtain ⟨before, after, onLine, -⟩ := Place.exists_onLine within
  have noColor : ¬d.color = .enabled := by simp [plain]
  have noDisplay := (Place.ofOffset text d.span.start).not_mem_display rfl (show '\n' ∉ _ by decide)
  have noMargin := not_mem_margin rfl (show '\n' ∉ _ by decide) (Place.ofOffset text d.span.start)
  have noLabel : '\n' ∉ d.level.label.toList := by cases d.level <;> decide
  have noProducer : '\n' ∉ producer.toList := oneLine
  have header : (d.header p producer (Place.ofOffset text d.span.start)).count '\n' =
      d.message.toList.count '\n' := by
    simp [Diagnostic.header, tint_plain plain, List.count_eq_zero.mpr, noProducer, noLabel, noDisplay]
  have source : (d.sourceLine p text (Place.ofOffset text d.span.start)).count '\n' = 0 := by
    simp [sourceLine, noColor, List.count_eq_zero.mpr, noMargin, onLine.inLine]
  have marker : (d.markerLine p (Place.ofOffset text d.span.start)).count '\n' =
      d.message.toList.count '\n' := by
    simp [markerLine, tint_plain plain, List.count_replicate]
  simp only [lines, List.count_append, List.count_cons, header, source, marker]
  simp
  omega

theorem ParseError.count_display (error : ParseError) :
    error.display.toList.count '\n' = error.message.toList.count '\n' := by
  have isDisplay : error.display = "parse error: " ++ error.message := rfl
  rw [isDisplay, String.toList_append, List.count_append,
    List.count_eq_zero.mpr (oneLine_literal rfl : OneLine "parse error: "), Nat.zero_add]

namespace Linter

section

variable [Pattern.Engine] [Coloring]

/-- The errors of a text have three lines each, and two more for every newline of a message. -/
theorem exists_run_error {source : String} {errors : List ParseError}
    (failed : Expr.parse source = .error errors) {linter : Linter} (plain : linter.color = .disabled)
    (filter : Severity) :
    ∃ text : String,
      Writes (linter.run source filter) ⟨true, errors.length⟩ text.toUTF8.toList ∧
      text.toList.count '\n' =
        3 * errors.length + 2 * (errors.map fun error => error.message.toList.count '\n').sum := by
  let lines (error : ParseError) : List Char :=
    (⟨.error, error.span, error.display, .disabled⟩ : Diagnostic).lines linter.paint parserName source.toList
  have isProducer : OneLine parserName := oneLine_literal rfl
  have counted : ∀ error ∈ errors, (lines error).count '\n' = 3 + 2 * error.message.toList.count '\n' := by
    intro error member
    have fits := Text.Span.fits_iff.mp (Expr.error_fits failed member)
    rw [← error.count_display]
    exact Diagnostic.count_lines rfl isProducer (Nat.le_trans fits.1 fits.2) linter.paint
  refine ⟨String.ofList (errors.flatMap lines), ?_, ?_⟩
  · have writes : Writes (linter.run source filter) ⟨true, errors.length⟩ _ := .run_error failed
    rw [plain, Diagnostic.ofParseErrors, List.flatMap_map] at writes
    rw [Text.toUTF8_flatMap]
    exact writes
  · rw [String.toList_ofList, List.count_flatMap, Function.comp_def, List.map_congr_left counted]
    simp [List.sum_map_add, List.sum_map_mul_left, Nat.mul_comm]

/-- The errors of a text have three lines each if and only if no message has a newline; and a message has one
exactly if it has the text of a bad escape sequence, or the report on a pattern, with a newline in it. -/
theorem run_error_newlines {source : String} {errors : List ParseError}
    (failed : Expr.parse source = .error errors) {linter : Linter} (plain : linter.color = .disabled)
    (filter : Severity) :
    ∃ text : String,
      Writes (linter.run source filter) ⟨true, errors.length⟩ text.toUTF8.toList ∧
      text.toList.count '\n' =
        3 * errors.length + 2 * (errors.map fun error => error.message.toList.count '\n').sum ∧
      (∀ error ∈ errors, '\n' ∈ error.message.toList ↔ error.cause.HasNewline) ∧
      (text.toList.count '\n' = 3 * errors.length ↔ ∀ error ∈ errors, ¬error.cause.HasNewline) := by
  have oneLine (error : ParseError) : OneLine error.message ↔ ¬error.cause.HasNewline :=
    error.cause.oneLine_message
  obtain ⟨text, writes, count⟩ := exists_run_error failed plain filter
  refine ⟨text, writes, count, fun error _ => not_iff_not.mp (oneLine error), ?_⟩
  have none : (errors.map fun error => error.message.toList.count '\n').sum = 0 ↔
      ∀ error ∈ errors, ¬error.cause.HasNewline := by
    simp only [List.sum_eq_zero_iff, List.forall_mem_map, List.count_eq_zero]
    exact forall₂_congr fun error _ => oneLine error
  rw [count, ← none]
  omega

end

theorem run_error_newlines_unfinished :
    let _ := Pattern.Engine.ofAnswers []
    let _ := Ansi.coloring
    ∃ (errors : List ParseError) (text : String), Expr.parse "up +" = .error errors ∧ errors.length = 1 ∧
      Writes ((⟨[], .disabled, ⟨true⟩⟩ : Linter).run "up +" .error) ⟨true, errors.length⟩ text.toUTF8.toList ∧
      text.toList.count '\n' =
        3 * errors.length + 2 * (errors.map fun error => error.message.toList.count '\n').sum ∧
      (∀ error ∈ errors, '\n' ∈ error.message.toList ↔ error.cause.HasNewline) ∧
      (text.toList.count '\n' = 3 * errors.length ↔ ∀ error ∈ errors, ¬error.cause.HasNewline) := by
  intro _ _
  have failed : Expr.parse "up +" =
      .error [⟨⟨4, 4⟩, .unexpected .eof "" .expression .anything⟩] := by cbv
  have plain : (⟨[], .disabled, ⟨true⟩⟩ : Linter).color = .disabled := rfl
  obtain ⟨text, lines⟩ := run_error_newlines failed plain .error
  exact ⟨_, text, failed, rfl, lines⟩

/-- A backslash guards a newline in a string, and then the message on the escape has it. -/
theorem run_error_newlines_escape :
    let _ := Pattern.Engine.ofAnswers []
    let _ := Ansi.coloring
    ∃ (error : ParseError) (text : String), Expr.parse "\"\\\n\"" = .error [error] ∧ '\n' ∈ error.message.toList ∧
      Writes ((⟨[], .disabled, ⟨true⟩⟩ : Linter).run "\"\\\n\"" .error) ⟨true, 1⟩ text.toUTF8.toList ∧
      text.toList.count '\n' = 5 := by
  intro _ _
  have failed : Expr.parse "\"\\\n\"" = .error [⟨⟨0, 4⟩, .string (.unknownEscape '\n')⟩] := by cbv
  have plain : (⟨[], .disabled, ⟨true⟩⟩ : Linter).color = .disabled := rfl
  obtain ⟨text, writes, count⟩ := exists_run_error failed plain .error
  refine ⟨_, text, failed, ?_, writes, count⟩
  decide

end Linter

end QueryLint

import QueryLint.Proofs.Diagnostic.Color
import QueryLint.Proofs.Linter.Output
import QueryLint.Proofs.Text.PlaceOrder

/-! Findings without colour point at the flagged text.

The line that is shown is the one that the flagged part starts on. The marker is as far to the right as
the flagged part, because its column counts characters and the margin has one byte for each of its
characters; and it is as long, if all flagged characters have one byte too.
-/

set_option autoImplicit false

namespace QueryLint

open Text (Place Boundary OnLine byteSize lineText slice?)

/-- What goes on behind an offset without a newline is all on the line of the offset. -/
theorem Text.OnLine.exists_rest {text before ahead rest after flagged more : List Char} {offset : Nat}
    (onLine : OnLine text offset before (ahead ++ rest) after)
    (split : text = before ++ ahead ++ (flagged ++ more)) (inLine : '\n' ∉ flagged) :
    ∃ tail, rest = flagged ++ tail := by
  have same : rest ++ after = flagged ++ more := by
    have whole := onLine.split.symm.trans split
    simpa only [List.append_assoc, List.append_cancel_left_eq] using whole
  rcases List.append_eq_append_iff.mp same with ⟨beyond, longer, isAfter⟩ | ⟨tail, longer, -⟩
  · -- Beyond the line there is at least its newline, and the flagged part has none.
    cases beyond with
    | nil => exact ⟨[], by rw [longer, List.append_nil, List.append_nil]⟩
    | cons c beyond =>
      have isNewline : c = '\n' := by simpa [isAfter] using onLine.closes
      exact absurd (by simp [longer, isNewline]) inLine
  · exact ⟨tail, longer⟩

namespace Diagnostic

/-- The line of the expression, as it is shown. -/
def shownLine (number : Nat) (line : String) : String :=
  s!"L{number}| {line}"

/-- Header, line of the expression and marker, which starts behind so many blanks. -/
def plainText (d : Diagnostic) (producer : String) (at_ : Place) (line : String) (blanks : Nat) : String :=
  let indent := String.ofList (List.replicate blanks ' ')
  let carets := String.ofList (List.replicate (d.span.stop - d.span.start) '^')
  s!"{producer}<[{d.level.label}] ({at_.line}:{at_.column}) {d.message}\n" ++
    (shownLine at_.line line ++ "\n" ++ s!"{indent}{carets} {d.message}\n")

theorem toList_shownLine (at_ : Place) (line : List Char) :
    (shownLine at_.line (String.ofList line)).toList = margin at_ ++ line := by
  have unchanged (s : String) : toString s = s := rfl
  simp [shownLine, margin, unchanged]

/-- A finding without colour is written as its plain text. -/
theorem lines_plain [Coloring] {d : Diagnostic} (plain : d.color = .disabled) (p : Paint) (producer : String)
    (text : List Char) :
    let place := Place.ofOffset text d.span.start
    String.ofList (d.lines p producer text) =
      d.plainText producer place (String.ofList (lineText text place.line))
        ((margin place).length + place.column) := by
  intro place
  have unchanged (s : String) : toString s = s := rfl
  have noColor : ¬d.color = .enabled := by
    rw [plain]
    exact ColorMode.noConfusion
  apply String.toList_inj.mp
  simp [place, plainText, toList_shownLine, lines, header, sourceLine, markerLine, tint_plain plain, noColor,
    Place.display, Text.Span.length, unchanged]

end Diagnostic

open Diagnostic (shownLine toList_shownLine margin)

namespace Linter

/-- What is written about a finding without colour. Nothing is, if its span does not fit the text; otherwise
its plain text with the line that the span starts on. If the span starts between two characters, the blanks
in front of the marker are as many as the characters in front of the flagged part on the line that is shown;
and if moreover the flagged characters are ASCII and on one line, the carets end with the last of them. -/
theorem report_plain [Coloring] {d : Diagnostic} (plain : d.color = .disabled) (paint : Paint)
    (producer text : String) :
    let size := byteSize text.toList
    let place := Place.ofOffset text.toList d.span.start
    (¬(d.span.start ≤ d.span.stop ∧ d.span.stop ≤ size) →
      Ends (report paint producer text d) (.error (.render (.invalidSpan d.span size))) {}) ∧
    (d.span.start ≤ d.span.stop ∧ d.span.stop ≤ size →
      ∃ (before line after : List Char) (blanks : Nat),
        OnLine text.toList d.span.start before line after ∧ place.line = before.count '\n' + 1 ∧
        Ends (report paint producer text d) (.ok ())
          { bytes := (d.plainText producer place (String.ofList line) blanks).toUTF8.toList } ∧
        (Boundary text.toList d.span.start →
          ∃ ahead rest, line = ahead ++ rest ∧ byteSize before + byteSize ahead = d.span.start ∧
            place.column = ahead.length ∧
            blanks = (shownLine place.line (String.ofList ahead)).length ∧
            ∀ flagged, slice? d.span.start d.span.stop text.toList = some flagged →
              (∀ c ∈ flagged, c.toNat < 128 ∧ c ≠ '\n') →
              (∃ tail, rest = flagged ++ tail) ∧
                blanks + (d.span.stop - d.span.start) =
                  (shownLine place.line (String.ofList (ahead ++ flagged))).length)) := by
  intro size place
  refine ⟨fun unfit => ?_, fun fits => ?_⟩
  · exact .report_unfit (by simpa [Text.Span.fits] using unfit)
  · have within : d.span.start ≤ size := Nat.le_trans fits.1 fits.2
    obtain ⟨before, after, onLine, -, isLine, ahead, rest, split, passed, column⟩ := Place.exists_onLine within
    have width (cs : List Char) :
        (shownLine place.line (String.ofList cs)).length = (margin place).length + cs.length := by
      rw [← String.length_toList, toList_shownLine, List.length_append]
    refine ⟨before, _, after, (margin place).length + place.column, onLine, isLine, ?_, ?_⟩
    · rw [← Diagnostic.lines_plain plain paint]
      exact .report (Text.Span.fits_iff.mpr fits)
    · have isFront {front back : List Char} (isText : text.toList = front ++ back)
          (isStart : d.span.start = byteSize front) : front = before ++ ahead := by
        rw [← passed, isText, isStart, Place.passed_append]
      rintro ⟨front, back, isText, isStart⟩
      refine ⟨ahead, rest, split, ?_, column, by rw [width, column], fun flagged cut ascii => ⟨?_, ?_⟩⟩
      · rw [isStart, isFront isText isStart, Text.byteSize_append]
      · -- Flagged characters without a newline do not go on behind the line.
        obtain ⟨front', more, isText', isStart', -⟩ := Text.slice?_eq_some cut
        rw [isFront isText' isStart'] at isText'
        rw [split] at onLine
        exact onLine.exists_rest isText' fun member => (ascii _ member).2 rfl
      · obtain ⟨-, -, -, -, isStop⟩ := Text.slice?_eq_some cut
        -- The bytes of an ASCII text are as many as its characters.
        rw [Text.byteSize_of_ascii fun c member => (ascii c member).1] at isStop
        rw [width, column, List.length_append]
        omega

/-- The end of a second line, behind a character of two bytes. -/
theorem report_plain_second_line :
    let _ := Ansi.coloring
    let d : Diagnostic := ⟨.warning, ⟨6, 8⟩, "m", .disabled⟩
    let text := "é\nab cd"
    d.color = .disabled ∧ Boundary text.toList 6 ∧ slice? 6 8 text.toList = some ['c', 'd'] ∧
      ∃ (before line after ahead rest : List Char) (blanks : Nat), OnLine text.toList 6 before line after ∧
        Ends (report ⟨true⟩ "r" text d) (.ok ())
          { bytes := (d.plainText "r" ⟨2, 3⟩ (String.ofList line) blanks).toUTF8.toList } ∧
        line = ahead ++ rest ∧ blanks = (shownLine 2 (String.ofList ahead)).length ∧
        (∃ tail, rest = ['c', 'd'] ++ tail) ∧
        blanks + 2 = (shownLine 2 (String.ofList (ahead ++ ['c', 'd']))).length := by
  intro _ d text
  have plain : d.color = .disabled := rfl
  have boundary : Boundary text.toList 6 := ⟨['é', '\n', 'a', 'b', ' '], ['c', 'd'], by decide, by decide⟩
  have cut : slice? 6 8 text.toList = some ['c', 'd'] := by decide
  have place : Place.ofOffset text.toList d.span.start = ⟨2, 3⟩ := by decide
  obtain ⟨-, written⟩ := report_plain plain ⟨true⟩ "r" text
  obtain ⟨before, line, after, blanks, onLine, -, ends, between⟩ := written (by decide)
  obtain ⟨ahead, rest, split, -, -, isIndent, flagged⟩ := between boundary
  rw [place] at ends isIndent
  obtain ⟨tail, last⟩ := flagged ['c', 'd'] cut (by simp)
  rw [place] at last
  exact ⟨plain, boundary, cut, before, line, after, ahead, rest, blanks, onLine, ends, split, isIndent, tail, last⟩

end Linter

end QueryLint

import QueryLint.Diagnostic.Coloring
import QueryLint.Text.Place
import QueryLint.Text.Utf8

/-! Findings as text: a header, the line of the expression, and carets under the flagged part. -/

set_option autoImplicit false

namespace QueryLint

open Text (Span Place)

/-- Why a finding was not written: the sink takes no more, or its span is not in the text. -/
inductive RenderError where
  | closed
  | invalidSpan (span : Span) (size : Nat)
  deriving DecidableEq, Repr

/-- What a full sink answers. -/
def closedMessage : String := "closed"

def RenderError.message : RenderError → String
  | .closed => s!"IO error: {closedMessage}"
  | .invalidSpan span size =>
    s!"range [{span.start}, {span.stop}) does not fit an expression of {size} bytes"

namespace Diagnostic

/-- What stands before the line of the expression. -/
def margin (at_ : Place) : List Char :=
  'L' :: (Nat.toDigits 10 at_.line ++ ['|', ' '])

section

variable [Coloring]

/-- Colours a text if the finding is in colour. -/
def tint (p : Paint) (d : Diagnostic) (text : List Char) : List Char :=
  if d.color = .enabled then p.paint d.level text else text

def header (p : Paint) (d : Diagnostic) (producer : String) (at_ : Place) : List Char :=
  producer.toList ++ '<' :: '[' :: (d.tint p d.level.label.toList ++ ']' :: ' ' ::
    (at_.display.toList ++ ' ' :: d.message.toList))

/-- The line with its flagged part in colour, unless that is empty or cuts a character. -/
def highlight (p : Paint) (d : Diagnostic) (line : List Char) (lineStart : Nat) : List Char :=
  let size := Text.byteSize line
  let start := min (d.span.start - lineStart) size
  let stop := min (d.span.stop - lineStart) size
  match Text.cutAt? start line, Text.cutAt? stop line with
  | some (before, fromStart), some (_, after) =>
    match Text.cutAt? (stop - start) fromStart with
    | some (flagged, _) => if flagged.isEmpty then line else before ++ d.tint p flagged ++ after
    | none => line
  | _, _ => line

def sourceLine (p : Paint) (d : Diagnostic) (text : List Char) (at_ : Place) : List Char :=
  let line := Text.lineText text at_.line
  let shown :=
    if d.color = .enabled then d.highlight p line (Text.lineStart at_.line text) else line
  margin at_ ++ shown

/-- Carets, as many as the span has bytes, under the place where it starts. -/
def markerLine (p : Paint) (d : Diagnostic) (at_ : Place) : List Char :=
  List.replicate ((margin at_).length + at_.column) ' ' ++
    d.tint p (List.replicate d.span.length '^') ++ ' ' :: d.tint p d.message.toList

/-- The three lines of a finding about an expression text. -/
def lines (p : Paint) (d : Diagnostic) (producer : String) (text : List Char) : List Char :=
  let at_ := Place.ofOffset text d.span.start
  d.header p producer at_ ++ '\n' :: (d.sourceLine p text at_ ++ '\n' ::
    (d.markerLine p at_ ++ ['\n']))

/-- Writes out a finding whose span fits the text. -/
def render (p : Paint) (d : Diagnostic) (producer : String) (text : String) :
    Except RenderError String :=
  let size := Text.byteSize text.toList
  if d.span.fits size then .ok (String.ofList (d.lines p producer text.toList))
  else .error (.invalidSpan d.span size)

end

end Diagnostic

end QueryLint

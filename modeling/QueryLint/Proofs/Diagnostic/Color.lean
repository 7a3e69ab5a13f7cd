import QueryLint.Diagnostic.Ansi
import QueryLint.Diagnostic.Render
import QueryLint.Proofs.Text.Place

/-! Colour adds nothing but colour.

A finding in colour is the plain one with escape sequences around some of its parts, so taking these out
again gives the plain one. On the line of the expression the sequences enclose the flagged part, as far as
it is on that line and cuts no character. This rests on `Coloring.Frames`, which says what putting a text in
colour does.
-/

set_option autoImplicit false

namespace QueryLint

open Text (Place byteSize Encloses lineText lineStart)

namespace Paint

/-! Taking colours out. -/

/-- What stands behind the rest of a colour sequence: a bracket, numbers and an `m`. -/
def colorRest? : List Char → Option (List Char)
  | '[' :: cs =>
    match cs.dropWhile fun c => c.isDigit || c = ';' with
    | 'm' :: rest => some rest
    | _ => none
  | _ => none

theorem length_colorRest? {cs rest : List Char} (found : colorRest? cs = some rest) :
    rest.length < cs.length := by
  unfold colorRest? at found
  split at found
  · next cs =>
    split at found
    · next more split =>
      cases found
      have shorter := (List.dropWhile_suffix (l := cs) fun c => c.isDigit || c = ';').length_le
      rw [split, List.length_cons] at shorter
      rw [List.length_cons]
      omega
    · cases found
  · cases found

/-- A text without its colour sequences. -/
def strip : List Char → List Char
  | [] => []
  | c :: cs =>
    if c = escape then
      match _found : colorRest? cs with
      | some rest => strip rest
      | none => c :: strip cs
    else c :: strip cs
  termination_by cs => cs.length
  decreasing_by
    · have := length_colorRest? ‹_›
      simp only [List.length_cons]
      omega
    · simp
    · simp

theorem strip_cons {c : Char} (plain : c ≠ escape) (cs : List Char) : strip (c :: cs) = c :: strip cs := by
  rw [strip, if_neg plain]

theorem strip_escape {cs rest : List Char} (found : colorRest? cs = some rest) :
    strip (escape :: cs) = strip rest := by
  rw [strip, if_pos rfl]
  split
  · next rest' found' =>
    cases found.symm.trans found'
    rfl
  · next none =>
    cases found.symm.trans none

/-- Without its colours the text is `plain`, whatever follows it. -/
def Strips (colored plain : List Char) : Prop :=
  ∀ rest, strip (colored ++ rest) = plain ++ strip rest

namespace Strips

theorem strip_eq {colored plain : List Char} (strips : Strips colored plain) : strip colored = plain := by
  have whole := strips []
  rw [List.append_nil, strip, List.append_nil] at whole
  exact whole

theorem append {front front' back back' : List Char} (first : Strips front front') (second : Strips back back') :
    Strips (front ++ back) (front' ++ back') := by
  intro rest
  rw [List.append_assoc, first, second, List.append_assoc]

theorem of_plain {cs : List Char} (plain : escape ∉ cs) : Strips cs cs := by
  intro rest
  induction cs with
  | nil => rfl
  | cons c cs ih =>
    rw [List.mem_cons, not_or] at plain
    rw [List.cons_append, strip_cons (Ne.symm plain.1), ih plain.2, List.cons_append]

theorem cons {c : Char} {colored plain : List Char} (isPlain : c ≠ escape) (strips : Strips colored plain) :
    Strips (c :: colored) (c :: plain) := by
  intro rest
  rw [List.cons_append, strip_cons isPlain, strips, List.cons_append]

end Strips

/-- A colour sequence: the escape character, a bracket, numbers and an `m`. -/
def IsSequence (cs : List Char) : Prop :=
  ∃ codes : List Char, cs = escape :: '[' :: (codes ++ ['m']) ∧ ∀ c ∈ codes, c.isDigit = true ∨ c = ';'

theorem IsSequence.strips {cs : List Char} (isSequence : IsSequence cs) : Strips cs [] := by
  obtain ⟨codes, rfl, areCodes⟩ := isSequence
  intro rest
  have dropped : (codes ++ 'm' :: rest).dropWhile (fun c => c.isDigit || c = ';') = 'm' :: rest := by
    rw [List.dropWhile_append_of_pos fun c member => by simpa using areCodes c member]
    exact List.dropWhile_cons_of_neg (by decide)
  have found : colorRest? ('[' :: (codes ++ 'm' :: rest)) = some rest := by
    simp only [colorRest?, dropped]
  simpa using strip_escape found

end Paint

open Paint (escape IsSequence Strips strip)

/-- What putting a text in colour does. Where escape sequences are not written it does nothing; where they are,
and none is in the text, one that starts the colour comes in front of it and one that ends it behind. -/
structure Coloring.Frames [Coloring] (opening closing : Color → List Char) : Prop where
  off (color : Color) (text : List Char) : paint false color text = text
  on (color : Color) {text : List Char} : escape ∉ text →
    paint true color text = opening color ++ text ++ closing color
  opens (color : Color) : IsSequence (opening color)
  closes (color : Color) : IsSequence (closing color)

section

variable {c : Char} (noDigit : c.isDigit = false)
include noDigit

theorem Text.not_mem_toDigits (n : Nat) : c ∉ Nat.toDigits 10 n := by
  intro member
  have digit := Nat.isDigit_of_mem_toDigits (by decide) (by decide) member
  rw [noDigit] at digit
  cases digit

theorem Text.Place.not_mem_display (noMark : c ∉ ['(', ':', ')']) (p : Place) : c ∉ p.display.toList := by
  have shown : p.display.toList =
      '(' :: (Nat.toDigits 10 p.line ++ ':' :: (Nat.toDigits 10 p.column ++ [')'])) := by
    simp only [display, String.toList_append, Nat.toString_eq_ofList_toDigits, String.toList_ofList,
      List.append_assoc]
    rfl
  simpa [shown, Text.not_mem_toDigits noDigit] using noMark

theorem Diagnostic.not_mem_margin (noMark : c ∉ ['L', '|', ' ']) (p : Place) : c ∉ margin p := by
  simpa [margin, Text.not_mem_toDigits noDigit] using noMark

end

namespace Ansi

theorem reopen_eq (start : List Char) {text : List Char} (isPlain : escape ∉ text) : reopen start text = text := by
  induction text with
  | nil => rw [reopen]
  | cons c cs ih =>
    rw [List.mem_cons, not_or] at isPlain
    have noReset : ¬reset.isPrefixOf (c :: cs) = true := by
      rw [List.isPrefixOf_iff_prefix, reset, List.cons_prefix_cons]
      exact fun found => isPlain.1 found.1
    rw [reopen, if_neg noReset, ih isPlain.2]

theorem isSequence_opening (color : Color) : IsSequence (opening color) := by
  refine ⟨code color, rfl, ?_⟩
  cases color <;> simp [code]

theorem isSequence_reset : IsSequence reset :=
  ⟨['0'], rfl, by simp⟩

theorem frames : @Coloring.Frames coloring opening fun _ => reset := by
  let _ := coloring
  exact {
    off := fun color text => rfl
    on := fun color text isPlain => congrArg (opening color ++ · ++ reset) (reopen_eq (opening color) isPlain)
    opens := isSequence_opening
    closes := fun _ => isSequence_reset }

end Ansi

namespace Diagnostic

section

variable [Coloring]

theorem tint_plain {d : Diagnostic} (plain : d.color = .disabled) (p : Paint) (text : List Char) :
    d.tint p text = text := by
  rw [tint, if_neg]
  rw [plain]
  exact ColorMode.noConfusion

/-- The finding in colour or not. -/
def withColor (d : Diagnostic) (mode : ColorMode) : Diagnostic :=
  { d with color := mode }

theorem tint_disabled (p : Paint) (d : Diagnostic) (text : List Char) :
    (d.withColor .disabled).tint p text = text :=
  tint_plain rfl p text

/-! The line of the expression. -/

/-- Where the flagged part ends on the line that is shown. -/
def lastShown (d : Diagnostic) (text : List Char) : Nat :=
  let place := Place.ofOffset text d.span.start
  min d.span.stop (lineStart place.line text + byteSize (lineText text place.line))

theorem highlight_flagged (p : Paint) (d : Diagnostic) {n : Nat} {before flagged after : List Char}
    (some : flagged ≠ [])
    (start : min (d.span.start - n) (byteSize (before ++ (flagged ++ after))) = byteSize before)
    (stop : min (d.span.stop - n) (byteSize (before ++ (flagged ++ after))) =
      byteSize before + byteSize flagged) :
    d.highlight p (before ++ (flagged ++ after)) n = before ++ d.tint p flagged ++ after := by
  have first : Text.cutAt? (byteSize before) (before ++ (flagged ++ after)) = .some (before, flagged ++ after) :=
    Text.cutAt?_append ..
  have second : Text.cutAt? (byteSize before + byteSize flagged) (before ++ (flagged ++ after)) =
      .some (before ++ flagged, after) := by
    rw [Text.cutAt?_eq_some_iff, List.append_assoc, Text.byteSize_append]
    exact ⟨rfl, rfl⟩
  have noFlag : ¬flagged.isEmpty = true := by simpa using some
  simp only [highlight, start, stop, first, second, Nat.add_sub_cancel_left, Text.cutAt?_append, if_neg noFlag]

theorem highlight_plain (p : Paint) (d : Diagnostic) {n : Nat} {line : List Char}
    (nothing : ¬Encloses line (min (d.span.start - n) (byteSize line)) (min (d.span.stop - n) (byteSize line))) :
    d.highlight p line n = line := by
  unfold highlight
  dsimp only
  split
  · next before fromStart front after first second =>
    split
    · next flagged rest third =>
      split
      · rfl
      · next some =>
        -- The cuts were made at boundaries, with something between them.
        obtain ⟨isStart, startSize⟩ := Text.cutAt?_eq_some_iff.mp first
        obtain ⟨isStop, stopSize⟩ := Text.cutAt?_eq_some_iff.mp second
        obtain ⟨-, size⟩ := Text.cutAt?_eq_some_iff.mp third
        have positive : 0 < byteSize flagged := by
          apply Nat.pos_of_ne_zero
          intro none
          exact some (by rw [Text.byteSize_eq_zero none]; rfl)
        exact absurd ⟨by omega, ⟨_, _, isStart, startSize⟩, ⟨_, _, isStop, stopSize⟩⟩ nothing
    · rfl
  · rfl

theorem highlight_cases (p : Paint) (d : Diagnostic) (n : Nat) (line : List Char) :
    d.highlight p line n = line ∨ ∃ before flagged after, line = before ++ (flagged ++ after) ∧
      d.highlight p line n = before ++ d.tint p flagged ++ after := by
  by_cases encloses :
    Encloses line (min (d.span.start - n) (byteSize line)) (min (d.span.stop - n) (byteSize line))
  · obtain ⟨before, flagged, after, isLine, start, stop, some⟩ := encloses.split
    rw [isLine] at start stop
    exact .inr ⟨before, flagged, after, isLine, isLine ▸ highlight_flagged p d some start stop⟩
  · exact .inl (highlight_plain p d encloses)

/-- What is shown of the line: the flagged part is in colour, if there is one, and otherwise nothing is. -/
theorem highlight_spec {d : Diagnostic} {text : List Char} (fits : d.span.fits (byteSize text) = true) :
    let place := Place.ofOffset text d.span.start
    let line := lineText text place.line
    let start := lineStart place.line text
    (∀ c ∈ line, c ∈ text) ∧
      (Encloses text d.span.start (d.lastShown text) →
        ∃ before flagged after, line = before ++ (flagged ++ after) ∧
          start + byteSize before = d.span.start ∧
          Text.slice? d.span.start (d.lastShown text) text = some flagged ∧
          ∀ p, d.highlight p line start = before ++ d.tint p flagged ++ after) ∧
      (¬Encloses text d.span.start (d.lastShown text) → ∀ p, d.highlight p line start = line) := by
  intro place line start
  obtain ⟨ordered, within⟩ := Text.Span.fits_iff.mp fits
  obtain ⟨whole, rest, onLine, isStart, -⟩ := Place.exists_onLine (Nat.le_trans ordered within)
  have split : text = whole ++ (line ++ rest) := onLine.split
  have isStart : start = byteSize whole := isStart
  have before : byteSize whole ≤ d.span.start := onLine.starts
  have behind : d.span.start ≤ byteSize whole + byteSize line := onLine.stops
  have isLast : d.lastShown text = min d.span.stop (start + byteSize line) := rfl
  -- Both ends as they are counted from the start of the line.
  obtain ⟨a, isA⟩ : ∃ a, a = min (d.span.start - start) (byteSize line) := ⟨_, rfl⟩
  obtain ⟨b, isB⟩ : ∃ b, b = min (d.span.stop - start) (byteSize line) := ⟨_, rfl⟩
  have onLine : d.span.start = byteSize whole + a := by omega
  have lastOnLine : d.lastShown text = byteSize whole + b := by omega
  have same : Encloses text d.span.start (d.lastShown text) ↔ Encloses line a b := by
    rw [lastOnLine, onLine, split]
    exact Text.encloses_part (by omega) (by omega) whole rest
  rw [same]
  refine ⟨fun c member => ?_, ?_, fun nothing p => ?_⟩
  · rw [split]
    simp [member]
  · intro encloses
    obtain ⟨before, flagged, after, isLine, sizeA, sizeB, some⟩ := encloses.split
    refine ⟨before, flagged, after, isLine, by omega, ?_, fun p => ?_⟩
    · have inText : text = whole ++ before ++ (flagged ++ (after ++ rest)) := by
        rw [split, isLine]
        simp only [List.append_assoc]
      have sizes : d.span.start = byteSize (whole ++ before) ∧
          d.lastShown text = byteSize (whole ++ before) + byteSize flagged := by
        rw [Text.byteSize_append]
        omega
      rw [sizes.1, sizes.2, inText]
      exact Text.slice?_append ..
    · rw [isLine]
      exact highlight_flagged p d some (by rw [← isLine, ← isA, sizeA]) (by rw [← isLine, ← isB, sizeB])
  · refine highlight_plain p d ?_
    rw [← isA, ← isB]
    exact nothing

end

/-! The whole finding. -/

theorem not_mem_label (level : Severity) : escape ∉ level.label.toList := by
  cases level <;> decide

section

variable [Coloring] {opening closing : Color → List Char} (frames : Coloring.Frames opening closing)
include frames

theorem tint_enabled {text : List Char} (isPlain : escape ∉ text) (d : Diagnostic) :
    (d.withColor .enabled).tint ⟨true⟩ text = opening d.level.color ++ text ++ closing d.level.color := by
  rw [tint, if_pos]
  · exact frames.on d.level.color isPlain
  · rfl

theorem tint_ansi_off (d : Diagnostic) (text : List Char) : d.tint ⟨false⟩ text = text := by
  unfold tint
  split
  · exact frames.off d.level.color text
  · rfl

theorem strips_tint {text : List Char} (isPlain : escape ∉ text) (d : Diagnostic) :
    Strips ((d.withColor .enabled).tint ⟨true⟩ text) text := by
  have opened := (frames.opens d.level.color).strips.append (.of_plain isPlain)
  have framed := opened.append (frames.closes d.level.color).strips
  rw [List.nil_append, List.append_nil] at framed
  rw [tint_enabled frames isPlain]
  exact framed

theorem highlight_ansi_off (d : Diagnostic) (n : Nat) (line : List Char) : d.highlight ⟨false⟩ line n = line := by
  rcases highlight_cases ⟨false⟩ d n line with same | ⟨before, flagged, after, isLine, shown⟩
  · exact same
  · rw [shown, tint_ansi_off frames, isLine, List.append_assoc]

theorem strips_highlight {line : List Char} (isPlain : escape ∉ line) (d : Diagnostic) (n : Nat) :
    Strips ((d.withColor .enabled).highlight ⟨true⟩ line n) line := by
  rcases highlight_cases ⟨true⟩ (d.withColor .enabled) n line with same | ⟨before, flagged, after, rfl, shown⟩
  · rw [same]
    exact .of_plain isPlain
  · simp only [List.mem_append, not_or] at isPlain
    obtain ⟨plainBefore, plainFlagged, plainAfter⟩ := isPlain
    rw [shown, ← List.append_assoc]
    exact ((Strips.of_plain plainBefore).append (strips_tint frames plainFlagged d)).append (.of_plain plainAfter)

theorem strips_header {d : Diagnostic} {producer : String} (plainProducer : escape ∉ producer.toList)
    (plainMessage : escape ∉ d.message.toList) (place : Place) :
    Strips ((d.withColor .enabled).header ⟨true⟩ producer place)
      ((d.withColor .disabled).header ⟨true⟩ producer place) := by
  have message : Strips (place.display.toList ++ ' ' :: d.message.toList)
      (place.display.toList ++ ' ' :: d.message.toList) :=
    (Strips.of_plain (place.not_mem_display rfl (by decide))).append (.cons (by decide) (.of_plain plainMessage))
  have label := strips_tint frames (not_mem_label d.level) d
  rw [header, header, tint_disabled]
  refine (Strips.of_plain plainProducer).append (.cons (by decide) (.cons (by decide) ?_))
  exact label.append (.cons (by decide) (.cons (by decide) message))

theorem strips_sourceLine {d : Diagnostic} {text : List Char} {place : Place}
    (plainLine : escape ∉ lineText text place.line) :
    Strips ((d.withColor .enabled).sourceLine ⟨true⟩ text place)
      ((d.withColor .disabled).sourceLine ⟨true⟩ text place) :=
  (Strips.of_plain (not_mem_margin rfl (by decide) place)).append (strips_highlight frames plainLine d _)

theorem strips_markerLine {d : Diagnostic} (plainMessage : escape ∉ d.message.toList) (place : Place) :
    Strips ((d.withColor .enabled).markerLine ⟨true⟩ place)
      ((d.withColor .disabled).markerLine ⟨true⟩ place) := by
  have row (n : Nat) {c : Char} (other : c ≠ escape) : escape ∉ List.replicate n c :=
    fun member => other (List.eq_of_mem_replicate member).symm
  rw [markerLine, markerLine, tint_disabled, tint_disabled]
  have carets := strips_tint frames (row d.span.length (show '^' ≠ escape by decide)) d
  refine ((Strips.of_plain (row _ (by decide))).append carets).append (.cons (by decide) ?_)
  exact strips_tint frames plainMessage d

theorem strips_lines {d : Diagnostic} {producer : String} {text : List Char}
    (plainProducer : escape ∉ producer.toList) (plainMessage : escape ∉ d.message.toList)
    (plainLine : escape ∉ lineText text (Place.ofOffset text d.span.start).line) :
    Strips ((d.withColor .enabled).lines ⟨true⟩ producer text)
      ((d.withColor .disabled).lines ⟨true⟩ producer text) := by
  refine (strips_header frames plainProducer plainMessage _).append (.cons (by decide) ?_)
  refine (strips_sourceLine frames plainLine).append (.cons (by decide) ?_)
  exact (strips_markerLine frames plainMessage _).append (.of_plain (by decide))

theorem lines_ansi_off (d : Diagnostic) (producer : String) (text : List Char) :
    (d.withColor .enabled).lines ⟨false⟩ producer text = (d.withColor .disabled).lines ⟨false⟩ producer text := by
  simp only [lines, header, sourceLine, markerLine, tint_ansi_off frames, highlight_ansi_off frames,
    ite_self]
  rfl

/-- Colour changes nothing but colour. Where escape sequences are not written at all, a finding in colour is
written like a plain one. Where they are, and none is in the texts themselves, taking them out of the finding
in colour gives the plain one; and on the line of the expression they enclose just the flagged bytes up to the
end of the line, if there are any and no character is cut, and are absent otherwise. -/
theorem render_withColor {d : Diagnostic} {text : String} (fits : d.span.fits (byteSize text.toList) = true)
    (producer : String) :
    let colored := d.withColor .enabled
    let plain := d.withColor .disabled
    (∃ output, colored.render ⟨false⟩ producer text = .ok output ∧
        plain.render ⟨false⟩ producer text = .ok output) ∧
      (escape ∉ producer.toList → escape ∉ d.message.toList → escape ∉ text.toList →
        let place := Place.ofOffset text.toList d.span.start
        ∃ output shown : List Char,
          colored.render ⟨true⟩ producer text = .ok (String.ofList output) ∧
          plain.render ⟨true⟩ producer text = .ok (String.ofList (strip output)) ∧
          output = colored.header ⟨true⟩ producer place ++ '\n' :: (margin place ++ shown ++ '\n' ::
            (colored.markerLine ⟨true⟩ place ++ ['\n'])) ∧
          (Encloses text.toList d.span.start (d.lastShown text.toList) →
            ∃ before flagged after, lineText text.toList place.line = before ++ (flagged ++ after) ∧
              lineStart place.line text.toList + byteSize before = d.span.start ∧
              Text.slice? d.span.start (d.lastShown text.toList) text.toList = some flagged ∧
              shown = before ++ (opening d.level.color ++ flagged ++ closing d.level.color) ++ after) ∧
          (¬Encloses text.toList d.span.start (d.lastShown text.toList) → escape ∉ margin place ++ shown)) := by
  intro colored plain
  have write (p : Paint) (mode : ColorMode) : (d.withColor mode).render p producer text =
      .ok (String.ofList ((d.withColor mode).lines p producer text.toList)) := if_pos fits
  obtain ⟨inText, flagged, nothing⟩ := highlight_spec (d := colored) fits
  refine ⟨⟨_, write ⟨false⟩ .enabled, ?_⟩, ?_⟩
  · rw [write, lines_ansi_off frames]
  · intro plainProducer plainMessage plainText place
    have plainLine : escape ∉ lineText text.toList place.line := fun member => plainText (inText _ member)
    have stripped := (strips_lines frames plainProducer plainMessage plainLine).strip_eq
    refine ⟨_, colored.highlight ⟨true⟩ (lineText text.toList place.line) (lineStart place.line text.toList),
      write ⟨true⟩ .enabled, by rw [write, stripped], rfl, fun encloses => ?_, fun none => ?_⟩
    · -- The flagged part is a part of the text, so no escape sequence is in it either.
      obtain ⟨before, inside, after, isLine, starts, isPart, shown⟩ := flagged encloses
      have plainInside : escape ∉ inside := by
        intro member
        have inLine : escape ∈ before ++ (inside ++ after) := by simp [member]
        exact plainLine (isLine ▸ inLine)
      refine ⟨before, inside, after, isLine, starts, isPart, (shown ⟨true⟩).trans ?_⟩
      rw [tint_enabled frames plainInside]
    · have same : colored.highlight ⟨true⟩ (lineText text.toList place.line) (lineStart place.line text.toList) =
          lineText text.toList place.line := nothing none ⟨true⟩
      rw [same, List.mem_append, not_or]
      exact ⟨not_mem_margin rfl (by decide) place, plainLine⟩

end

/-- A finding that runs into the next line. -/
theorem render_withColor_next_line :
    let _ := Ansi.coloring
    let d : Diagnostic := ⟨.error, ⟨4, 7⟩, "m", .enabled⟩
    let text := "é\nab\ncd"
    d.span.fits (byteSize text.toList) = true ∧ Encloses text.toList 4 5 ∧
      (∃ output, (d.withColor .enabled).render ⟨false⟩ "r" text = .ok output ∧
        (d.withColor .disabled).render ⟨false⟩ "r" text = .ok output) ∧
      ∃ output before flagged after : List Char,
        (d.withColor .enabled).render ⟨true⟩ "r" text = .ok (String.ofList output) ∧
        (d.withColor .disabled).render ⟨true⟩ "r" text = .ok (String.ofList (strip output)) ∧
        lineText text.toList 2 = before ++ (flagged ++ after) ∧
        Text.slice? 4 5 text.toList = some flagged := by
  intro _ d text
  have fits : d.span.fits (byteSize text.toList) = true := by decide
  have last : d.lastShown text.toList = 5 := by decide
  have encloses : Encloses text.toList 4 5 :=
    ⟨by decide, ⟨['é', '\n', 'a'], ['b', '\n', 'c', 'd'], by decide, by decide⟩,
      ⟨['é', '\n', 'a', 'b'], ['\n', 'c', 'd'], by decide, by decide⟩⟩
  obtain ⟨off, on⟩ := render_withColor Ansi.frames fits "r"
  obtain ⟨output, shown, isColored, isPlain, -, flagged, -⟩ := on (by decide) (by decide) (by decide)
  obtain ⟨before, part, after, isLine, -, isPart, -⟩ := flagged (last ▸ encloses)
  rw [last] at isPart
  have line : (Place.ofOffset text.toList d.span.start).line = 2 := by decide
  rw [line] at isLine
  exact ⟨fits, encloses, off, output, before, part, after, isColored, isPlain, isLine, isPart⟩

end Diagnostic

end QueryLint

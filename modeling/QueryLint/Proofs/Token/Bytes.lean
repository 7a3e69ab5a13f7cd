import QueryLint.Proofs.Text.Offsets
import QueryLint.Proofs.Token.Lookahead
import QueryLint.Token.Bytes

/-! Cutting bytes is cutting characters.

The scanner tests for ASCII, and of a longer character every byte has a code beyond that; so from every
boundary between characters it takes the same steps on bytes and on characters, and it comes to a boundary
again. That is not so inside a string: a backslash makes it skip the first byte only, and it goes on inside
the character. The bytes that are left there are none that a string looks for, so it leaves the character in
the end.
-/

set_option autoImplicit false

namespace QueryLint.Token

open Text (byteSize)

/-! Tests for ASCII. -/

/-- Only ASCII characters pass. -/
def Ascii (test : Char → Bool) : Prop :=
  ∀ c, test c = true → c.toNat < 128

theorem ascii_of_le {c d : Char} (ascii : d.toNat < 128) (le : c ≤ d) : c.toNat < 128 :=
  Nat.lt_of_le_of_lt (Char.le_def.mp le) ascii

theorem ascii_isDigit : Ascii Char.isDigit := by
  intro c digit
  simp only [Char.isDigit, Bool.and_eq_true, decide_eq_true_eq] at digit
  exact ascii_of_le (d := '9') (by decide) digit.2

theorem ascii_startsIdentifier : Ascii startsIdentifier := by
  intro c starts
  simp only [startsIdentifier, Bool.or_eq_true, decide_eq_true_eq] at starts
  rcases starts with letter | rfl
  · have cases : (decide ('A' ≤ c ∧ c ≤ 'Z') || decide ('a' ≤ c) && decide (c ≤ 'z')) = true := letter
    simp only [Bool.or_eq_true, Bool.and_eq_true, decide_eq_true_eq] at cases
    rcases cases with upper | lower
    · exact ascii_of_le (d := 'Z') (by decide) upper.2
    · exact ascii_of_le (d := 'z') (by decide) lower.2
  · decide

theorem ascii_continuesIdentifier : Ascii continuesIdentifier := by
  intro c continues
  simp only [continuesIdentifier, Bool.or_eq_true, decide_eq_true_eq] at continues
  rcases continues with (starts | digit) | rfl
  · exact ascii_startsIdentifier c starts
  · exact ascii_isDigit c digit
  · decide

theorem ascii_isHexDigit : Ascii isHexDigit := by
  intro c hex
  simp only [isHexDigit, Bool.or_eq_true, Bool.and_eq_true, decide_eq_true_eq] at hex
  rcases hex with (digit | lower) | upper
  · exact ascii_isDigit c digit
  · exact ascii_of_le (d := 'f') (by decide) lower.2
  · exact ascii_of_le (d := 'F') (by decide) upper.2

theorem ascii_isSpace : Ascii isSpace := by
  intro c space
  rcases isSpace_iff.mp space with rfl | rfl | rfl | rfl | rfl
  all_goals decide

theorem ascii_isUnitLetter : Ascii isUnitLetter := by
  intro c letter
  simp only [isUnitLetter, List.contains_cons, List.contains_nil, Bool.or_eq_true, beq_iff_eq] at letter
  rcases letter with rfl | rfl | rfl | rfl | rfl | rfl | none
  any_goals decide
  cases none

theorem Ascii.eq_false {test : Char → Bool} (ascii : Ascii test) {c : Char} (wide : ¬c.toNat < 128) :
    test c = false :=
  Bool.eq_false_iff.mpr fun passes => wide (ascii c passes)

theorem ascii_literal {a : Char} (ascii : a.toNat < 128) : Ascii (· = a) := by
  intro c same
  rwa [of_decide_eq_true same]

theorem ne_of_wide {c a : Char} (ascii : a.toNat < 128) (wide : ¬c.toNat < 128) : c ≠ a := by
  rintro rfl
  exact wide ascii

theorem ascii_of_and {c a : Char} (ascii : a.toNat < 128) {flag : Bool}
    (both : (decide (c = a) && flag) = true) : c.toNat < 128 :=
  ascii_literal ascii c ((Bool.and_eq_true _ _).mp both).1

/-- The ASCII characters in front. -/
def asciiPart (cs : List Char) : List Char :=
  cs.takeWhile (·.toNat < 128)

theorem asciiPart_cons {c : Char} (ascii : c.toNat < 128) (cs : List Char) :
    asciiPart (c :: cs) = c :: asciiPart cs := by
  simp [asciiPart, ascii]

theorem asciiPart_cons_wide {c : Char} (wide : ¬c.toNat < 128) (cs : List Char) : asciiPart (c :: cs) = [] := by
  simp [asciiPart, wide]

theorem head?_asciiPart {test : Char → Bool} (ascii : Ascii test) (cs : List Char) :
    (asciiPart cs).head?.any test = cs.head?.any test := by
  cases cs with
  | nil => rfl
  | cons c cs =>
    by_cases isAscii : c.toNat < 128
    · rw [asciiPart_cons isAscii]
      rfl
    · simp [asciiPart_cons_wide isAscii, ascii.eq_false isAscii]

theorem head?_asciiPart_iff {a : Char} (ascii : a.toNat < 128) {cs : List Char} :
    (asciiPart cs).head? = some a ↔ cs.head? = some a := by
  have same := head?_asciiPart (ascii_literal ascii) cs
  cases cs with
  | nil => exact Iff.rfl
  | cons c cs =>
    by_cases isAscii : c.toNat < 128
    · rw [asciiPart_cons isAscii]
      exact Iff.rfl
    · rw [asciiPart_cons_wide isAscii]
      exact iff_of_false nofun fun isFirst => ne_of_wide ascii isAscii (Option.some.inj isFirst)

theorem countWhile_asciiPart {test : Char → Bool} (ascii : Ascii test) (cs : List Char) :
    countWhile test (asciiPart cs) = countWhile test cs := by
  induction cs with
  | nil => rfl
  | cons c cs ih =>
    by_cases isAscii : c.toNat < 128
    · rw [asciiPart_cons isAscii]
      cases passes : test c <;> simp [countWhile, passes] at ih ⊢
      exact ih
    · simp [asciiPart_cons_wide isAscii, countWhile, ascii.eq_false isAscii]

theorem countWhile_le_asciiPart {test : Char → Bool} (ascii : Ascii test) (cs : List Char) :
    countWhile test cs ≤ (asciiPart cs).length :=
  countWhile_asciiPart ascii cs ▸ countWhile_le test (asciiPart cs)

theorem drop_asciiPart {n : Nat} {cs : List Char} (within : n ≤ (asciiPart cs).length) :
    (asciiPart cs).drop n = asciiPart (cs.drop n) := by
  induction n generalizing cs with
  | zero => rfl
  | succ n ih =>
    cases cs with
    | nil => rfl
    | cons c cs =>
      by_cases isAscii : c.toNat < 128
      · rw [asciiPart_cons isAscii] at within ⊢
        exact ih (Nat.le_of_succ_le_succ within)
      · rw [asciiPart_cons_wide isAscii] at within
        cases within

theorem byteSize_take {n : Nat} {cs : List Char} (within : n ≤ (asciiPart cs).length) :
    byteSize (cs.take n) = n := by
  have split : asciiPart cs ++ cs.dropWhile (·.toNat < 128) = cs := List.takeWhile_append_dropWhile
  have taken : cs.take n = (asciiPart cs).take n := by
    rw [← split, List.take_append_of_le_length within, split]
  have ascii : ∀ c ∈ (asciiPart cs).take n, c.toNat < 128 := fun c member =>
    of_decide_eq_true (List.all_eq_true.mp List.all_takeWhile c (List.mem_of_mem_take member))
  rw [taken, Text.byteSize_of_ascii ascii, List.length_take, Nat.min_eq_left within]

/-! Behind the ASCII characters in front, nothing matters for the lengths of tokens. -/

theorem unitBefore_asciiPart (length : Nat) (cs : List Char) :
    unitBefore length (asciiPart cs) = unitBefore length cs := by
  have by_head (cs : List Char) :
      unitBefore length cs = if cs.head?.any startsIdentifier then 0 else length := by
    cases cs <;> rfl
  rw [by_head, by_head, head?_asciiPart ascii_startsIdentifier]

theorem unitLength_asciiPart (cs : List Char) : unitLength (asciiPart cs) = unitLength cs := by
  cases cs with
  | nil => rfl
  | cons c rest =>
    by_cases isAscii : c.toNat < 128
    · rw [asciiPart_cons isAscii, unitLength_eq, unitLength_eq, unitBefore_asciiPart]
      by_cases pair : c = 'm' ∧ rest.head? = some 's'
      · obtain ⟨more, rfl⟩ := List.head?_eq_some_iff.mp pair.2
        rw [if_pos pair, if_pos ⟨pair.1, (head?_asciiPart_iff (by decide)).mpr rfl⟩,
          asciiPart_cons (by decide)]
        exact unitBefore_asciiPart 2 more
      · have noPair : ¬(c = 'm' ∧ (asciiPart rest).head? = some 's') := by
          rwa [head?_asciiPart_iff (by decide)]
        rw [if_neg pair, if_neg noPair]
    · rw [asciiPart_cons_wide isAscii, unitLength_eq_zero (ascii_isUnitLetter.eq_false isAscii)]
      rfl

theorem durationLength_asciiPart (cs : List Char) : durationLength (asciiPart cs) = durationLength cs := by
  fun_induction durationLength cs with
  | case1 cs digits unit found ih =>
    have digitsWithin : digits ≤ (asciiPart cs).length := countWhile_le_asciiPart ascii_isDigit cs
    have sameUnit : unitLength ((asciiPart cs).drop digits) = unit := by
      rw [drop_asciiPart digitsWithin, unitLength_asciiPart]
    have unitWithin := unitLength_le ((asciiPart cs).drop digits)
    rw [sameUnit, List.length_drop] at unitWithin
    have sameDigits : countWhile Char.isDigit (asciiPart cs) = digits := countWhile_asciiPart ascii_isDigit cs
    rw [durationLength_eq (sameDigits ▸ found.1) (by rw [sameDigits, sameUnit]; exact found.2), sameDigits,
      sameUnit, drop_asciiPart (by omega), ih]
  | case2 cs digits unit none =>
    have sameDigits : countWhile Char.isDigit (asciiPart cs) = digits := countWhile_asciiPart ascii_isDigit cs
    rw [durationLength, dif_neg]
    rwa [sameDigits, drop_asciiPart (countWhile_le_asciiPart ascii_isDigit cs), unitLength_asciiPart]

theorem signLength_asciiPart (cs : List Char) : signLength (asciiPart cs) = signLength cs := by
  cases cs with
  | nil => rfl
  | cons c rest =>
    by_cases isAscii : c.toNat < 128
    · rw [asciiPart_cons isAscii, signLength_cons]
    · have noPlus : c ≠ '+' := ne_of_wide (by decide) isAscii
      have noMinus : c ≠ '-' := ne_of_wide (by decide) isAscii
      simp [asciiPart_cons_wide isAscii, signLength, noPlus, noMinus]

theorem exponentLength_asciiPart (cs : List Char) : exponentLength (asciiPart cs) = exponentLength cs := by
  cases cs with
  | nil => rfl
  | cons c rest =>
    by_cases isAscii : c.toNat < 128
    · have within : signLength rest ≤ (asciiPart rest).length := by
        rw [← signLength_asciiPart]
        exact signLength_le (asciiPart rest)
      rw [asciiPart_cons isAscii, exponentLength_eq, exponentLength_eq, signLength_asciiPart,
        drop_asciiPart within, countWhile_asciiPart ascii_isDigit]
    · have noMark : ¬(c = 'e' ∨ c = 'E') :=
        not_or.mpr ⟨ne_of_wide (by decide) isAscii, ne_of_wide (by decide) isAscii⟩
      rw [asciiPart_cons_wide isAscii, exponentLength_eq, if_neg noMark]
      rfl

theorem fractionLength_asciiPart (cs : List Char) : fractionLength (asciiPart cs) = fractionLength cs := by
  cases cs with
  | nil => rfl
  | cons c rest =>
    by_cases isAscii : c.toNat < 128
    · rw [asciiPart_cons isAscii, fractionLength_eq, fractionLength_eq, countWhile_asciiPart ascii_isDigit]
    · have noPoint : c ≠ '.' := ne_of_wide (by decide) isAscii
      rw [asciiPart_cons_wide isAscii, fractionLength_eq, if_neg noPoint]
      rfl

theorem decimalLength_asciiPart (cs : List Char) : decimalLength (asciiPart cs) = decimalLength cs := by
  have wholeWithin := countWhile_le_asciiPart ascii_isDigit cs
  simp only [decimalLength]
  rw [countWhile_asciiPart ascii_isDigit]
  generalize countWhile Char.isDigit cs = whole at wholeWithin ⊢
  have sameFraction : fractionLength ((asciiPart cs).drop whole) = fractionLength (cs.drop whole) := by
    rw [drop_asciiPart wholeWithin, fractionLength_asciiPart]
  have fractionWithin := fractionLength_le ((asciiPart cs).drop whole)
  rw [List.length_drop, sameFraction] at fractionWithin
  rw [sameFraction, drop_asciiPart (by omega), exponentLength_asciiPart]

theorem hexLength_asciiPart (cs : List Char) : hexLength (asciiPart cs) = hexLength cs := by
  match cs with
  | [] => rfl
  | [c] =>
    have none (cs : List Char) (short : cs.length ≤ 1) : hexLength cs = 0 := by
      match cs with
      | [] => rfl
      | [_] => simp [hexLength]
    rw [none _ (List.takeWhile_prefix _).length_le, none [c] (Nat.le_refl 1)]
  | c :: x :: rest =>
    by_cases first : c.toNat < 128
    · by_cases second : x.toNat < 128
      · rw [asciiPart_cons first, asciiPart_cons second, hexLength_eq, hexLength_eq,
          countWhile_asciiPart ascii_isHexDigit]
      · have noMark : ¬(x = 'x' ∨ x = 'X') :=
          not_or.mpr ⟨ne_of_wide (by decide) second, ne_of_wide (by decide) second⟩
        rw [asciiPart_cons first, asciiPart_cons_wide second, hexLength_eq, if_neg fun all => noMark all.2.1]
        simp [hexLength]
    · have noZero : c ≠ '0' := ne_of_wide (by decide) first
      rw [asciiPart_cons_wide first, hexLength_eq, if_neg fun all => noZero all.1]
      rfl

theorem numeral_asciiPart (cs : List Char) : numeral (asciiPart cs) = numeral cs := by
  simp only [numeral]
  rw [hexLength_asciiPart, countWhile_asciiPart ascii_isDigit, durationLength_asciiPart,
    decimalLength_asciiPart, drop_asciiPart (countWhile_le_asciiPart ascii_isDigit cs), unitLength_asciiPart]

/-- A character that opens no string. -/
def Unquoted (c : Char) : Prop :=
  (c = '"' || c = '\'' || c = '\x60') = false

theorem unquoted_of_wide {c : Char} (wide : ¬c.toNat < 128) : Unquoted c := by
  have no {a : Char} (ascii : a.toNat < 128) : decide (c = a) = false := decide_eq_false (ne_of_wide ascii wide)
  rw [Unquoted, no (a := '"') (by decide), no (a := '\'') (by decide), no (a := '\x60') (by decide)]
  rfl

/-- Nothing that starts with an ASCII character, and is no string, has another character in it. -/
theorem shape_asciiPart {c : Char} (ascii : c.toNat < 128) (unquoted : Unquoted c) (depth : Nat)
    (rest : List Char) : shape depth c (asciiPart rest) = shape depth c rest := by
  have second (a : Char) (isAscii : a.toNat < 128) (both otherwise : Shape × Nat) :
      (if (asciiPart rest).head? = some a then both else otherwise) =
        if rest.head? = some a then both else otherwise := by
    simp only [head?_asciiPart_iff isAscii]
  have equal (both otherwise : Shape × Nat) := second '=' (by decide) both otherwise
  have tilde (both otherwise : Shape × Nat) := second '~' (by decide) both otherwise
  unfold shape
  split
  case h_15 | h_16 | h_17 | h_18 => simp only [pair, equal, tilde]
  case h_19 =>
    have same : numeral (c :: asciiPart rest) = numeral (c :: rest) := by
      rw [← asciiPart_cons ascii, numeral_asciiPart]
    rw [unquoted, head?_asciiPart ascii_startsIdentifier, head?_asciiPart ascii_isDigit, same,
      countWhile_asciiPart ascii_continuesIdentifier]
    rfl
  all_goals rfl

namespace Bytes

/-! The bytes of a text. -/

/-- The bytes of one character. -/
def code (c : Char) : List Char :=
  (String.utf8EncodeChar c).map Char.ofUInt8

theorem codes_cons (c : Char) (cs : List Char) : codes (c :: cs) = code c ++ codes cs := by
  simp [codes, code]

theorem codes_append (front back : List Char) : codes (front ++ back) = codes front ++ codes back := by
  simp [codes]

theorem length_code (c : Char) : (code c).length = c.utf8Size := by
  rw [code, List.length_map, String.length_utf8EncodeChar]

/-- The codes of a text are its bytes. -/
theorem codes_toList (source : String) : codes source.toList = source.toUTF8.data.toList.map Char.ofUInt8 := by
  rw [codes, String.toUTF8_eq_toByteArray, ← String.utf8Encode_toList, List.utf8Encode]
  simp

theorem length_codes (cs : List Char) : (codes cs).length = byteSize cs := by
  induction cs with
  | nil => rfl
  | cons c cs ih => rw [codes_cons, List.length_append, length_code, ih, byteSize]

/-- A byte is the character itself, if that is ASCII. -/
theorem code_of_ascii {c : Char} (ascii : c.toNat < 128) : code c = [c] := by
  have small : c.val.toNat ≤ 127 := Nat.le_of_lt_succ ascii
  have same : Char.ofUInt8 (UInt8.ofNat c.val.toNat) = c := by
    apply Char.ext
    apply UInt32.toNat_inj.mp
    change (UInt8.ofNat c.val.toNat).toUInt32.toNat = c.val.toNat
    simp
    omega
  rw [code, String.utf8EncodeChar, if_pos small, List.map_singleton, same]

theorem codes_cons_of_ascii {c : Char} (ascii : c.toNat < 128) (cs : List Char) :
    codes (c :: cs) = c :: codes cs := by
  rw [codes_cons, code_of_ascii ascii, List.singleton_append]

theorem byteSize_cons_of_ascii {c : Char} (ascii : c.toNat < 128) (cs : List Char) :
    byteSize (c :: cs) = 1 + byteSize cs := by
  rw [byteSize, ← length_code, code_of_ascii ascii, List.length_singleton]

/-- No byte of a longer character is one of an ASCII character. -/
theorem wide_code {c : Char} (wide : ¬c.toNat < 128) : ∀ x ∈ code c, ¬x.toNat < 128 := by
  have large : ¬c.val.toNat ≤ 127 := fun small => wide (Nat.lt_succ_of_le small)
  have beyond {n : Nat} (least : 128 ≤ n) (most : n < 256) : ¬(Char.ofUInt8 (UInt8.ofNat n)).toNat < 128 := by
    change ¬(UInt8.ofNat n).toUInt32.toNat < 128
    simp
    omega
  have marked (n : Nat) : ¬(Char.ofUInt8 (UInt8.ofNat (n % 64 + 128))).toNat < 128 :=
    beyond (Nat.le_add_left ..) (by omega)
  rw [code, String.utf8EncodeChar, if_neg large]
  intro x member
  split at member
  · simp only [List.map_cons, List.map_nil, List.mem_cons, List.not_mem_nil, or_false] at member
    rcases member with rfl | rfl
    · exact beyond (by omega) (by omega)
    · exact marked _
  · split at member
    · simp only [List.map_cons, List.map_nil, List.mem_cons, List.not_mem_nil, or_false] at member
      rcases member with rfl | rfl | rfl
      · exact beyond (by omega) (by omega)
      · exact marked _
      · exact marked _
    · simp only [List.map_cons, List.map_nil, List.mem_cons, List.not_mem_nil, or_false] at member
      rcases member with rfl | rfl | rfl | rfl
      · exact beyond (by omega) (by omega)
      · exact marked _
      · exact marked _
      · exact marked _

theorem exists_code (c : Char) : ∃ x more, code c = x :: more :=
  List.exists_cons_of_length_pos (length_code c ▸ c.utf8Size_pos)

theorem exists_wide {c : Char} (wide : ¬c.toNat < 128) : ∃ x more, code c = x :: more ∧ ¬x.toNat < 128 := by
  obtain ⟨x, more, isCode⟩ := exists_code c
  exact ⟨x, more, isCode, wide_code wide x (isCode ▸ List.mem_cons_self ..)⟩

theorem asciiPart_codes (cs : List Char) : asciiPart (codes cs) = asciiPart cs := by
  induction cs with
  | nil => rfl
  | cons c cs ih =>
    by_cases ascii : c.toNat < 128
    · rw [codes_cons_of_ascii ascii, asciiPart_cons ascii, asciiPart_cons ascii, ih]
    · obtain ⟨x, more, isCode, wide⟩ := exists_wide ascii
      rw [codes_cons, isCode, List.cons_append, asciiPart_cons_wide wide, asciiPart_cons_wide ascii]

/-! One position after the other. -/

variable {bytes rest : List Char} {position : Nat}

theorem getElem?_of_drop {c : Char} (isRest : bytes.drop position = c :: rest) : bytes[position]? = some c := by
  rw [← List.head?_drop, isRest]
  rfl

theorem getElem?_of_drop_nil (isEnd : bytes.drop position = []) : bytes[position]? = none := by
  rw [← List.head?_drop, isEnd]
  rfl

theorem drop_succ_of_drop {c : Char} (isRest : bytes.drop position = c :: rest) :
    bytes.drop (position + 1) = rest := by
  rw [← List.tail_drop, isRest, List.tail_cons]

theorem drop_of_drop {passed : List Char} (isRest : bytes.drop position = passed ++ rest) :
    bytes.drop (position + passed.length) = rest := by
  rw [← List.drop_drop, isRest, List.drop_left]

theorem skipTrivia_none (comment : Bool) (isEnd : bytes.drop position = []) :
    skipTrivia bytes comment position = position := by
  rw [skipTrivia]
  split
  · rfl
  · next read =>
    rw [getElem?_of_drop_nil isEnd] at read
    cases read

theorem skipTrivia_some (comment : Bool) {c : Char} (isRest : bytes.drop position = c :: rest) :
    skipTrivia bytes comment position =
      if c = '\n' then skipTrivia bytes false (position + 1)
      else if comment || isSpace c then skipTrivia bytes comment (position + 1)
      else if c = '#' then skipTrivia bytes true (position + 1)
      else position := by
  rw [skipTrivia]
  split
  · next read =>
    rw [getElem?_of_drop isRest] at read
    cases read
  · next read =>
    rw [getElem?_of_drop isRest] at read
    cases read
    rfl

theorem stringEnd_none (quote : Char) (isEnd : bytes.drop position = []) :
    stringEnd bytes quote position = (false, min position bytes.length) := by
  rw [stringEnd]
  split
  · rfl
  · next read =>
    rw [getElem?_of_drop_nil isEnd] at read
    cases read

theorem stringEnd_some (quote : Char) {c : Char} (isRest : bytes.drop position = c :: rest) :
    stringEnd bytes quote position =
      if c = '\\' && quote != '\x60' then stringEnd bytes quote (position + 2)
      else if c = '\n' && quote != '\x60' then (false, min (position + 1) bytes.length)
      else if c = quote then (true, position + 1)
      else stringEnd bytes quote (position + 1) := by
  rw [stringEnd]
  split
  · next read =>
    rw [getElem?_of_drop isRest] at read
    cases read
  · next read =>
    rw [getElem?_of_drop isRest] at read
    cases read
    rfl

/-! Blanks and comments. -/

/-- In a comment everything but a newline is passed. -/
theorem skipTrivia_append {passed : List Char} (isRest : bytes.drop position = passed ++ rest)
    (noNewline : '\n' ∉ passed) :
    skipTrivia bytes true position = skipTrivia bytes true (position + passed.length) := by
  induction passed generalizing position with
  | nil => rfl
  | cons c passed ih =>
    rw [List.mem_cons, not_or] at noNewline
    have next : bytes.drop (position + 1) = passed ++ rest := drop_succ_of_drop isRest
    rw [skipTrivia_some true isRest, if_neg (Ne.symm noNewline.1), if_pos (Bool.true_or _), ih next noNewline.2,
      List.length_cons, Nat.add_assoc, Nat.add_comm 1]

/-- A character that is no newline has none among its bytes. -/
theorem newline_notMem_code {c : Char} (other : c ≠ '\n') : '\n' ∉ code c := by
  by_cases ascii : c.toNat < 128
  · simpa [code_of_ascii ascii] using other.symm
  · exact fun member => wide_code ascii _ member (by decide)

theorem skipTrivia_comment {cs : List Char} (isRest : bytes.drop position = codes cs) :
    skipTrivia bytes true position =
      skipTrivia bytes false (position + byteSize (cs.takeWhile (· ≠ '\n'))) := by
  induction cs generalizing position with
  | nil =>
    rw [skipTrivia_none true isRest, List.takeWhile_nil, byteSize, Nat.add_zero,
      skipTrivia_none false isRest]
  | cons c cs ih =>
    by_cases isNewline : c = '\n'
    · subst isNewline
      rw [codes_cons_of_ascii (by decide)] at isRest
      have nothing : List.takeWhile (fun c => decide (c ≠ '\n')) ('\n' :: cs) = [] := by simp
      rw [nothing, byteSize, Nat.add_zero, skipTrivia_some true isRest, skipTrivia_some false isRest,
        if_pos rfl, if_pos rfl]
    · have taken : (c :: cs).takeWhile (fun c => decide (c ≠ '\n')) =
          c :: cs.takeWhile (fun c => decide (c ≠ '\n')) :=
        List.takeWhile_cons_of_pos (by simpa using isNewline)
      rw [codes_cons] at isRest
      rw [taken, byteSize, skipTrivia_append isRest (newline_notMem_code isNewline), ih (drop_of_drop isRest),
        length_code, Nat.add_assoc]

/-- What starts a token or a fault stays in front. -/
def Starts (cs : List Char) : Prop :=
  ∀ c ∈ cs.head?, isSpace c = false ∧ c ≠ '#'

theorem skipTrivia_of_starts {cs : List Char} (isRest : bytes.drop position = codes cs) (starts : Starts cs) :
    skipTrivia bytes false position = position := by
  cases cs with
  | nil => exact skipTrivia_none false isRest
  | cons c cs =>
    obtain ⟨noSpace, noHash⟩ := starts c rfl
    -- The first byte is the character itself, or no ASCII character at all.
    obtain ⟨x, more, isCode, same⟩ : ∃ x more, code c = x :: more ∧ isSpace x = false ∧ x ≠ '#' := by
      by_cases ascii : c.toNat < 128
      · exact ⟨c, [], code_of_ascii ascii, noSpace, noHash⟩
      · obtain ⟨x, more, isCode, wide⟩ := exists_wide ascii
        exact ⟨x, more, isCode, ascii_isSpace.eq_false wide, ne_of_wide (by decide) wide⟩
    have noNewline : x ≠ '\n' := by
      rintro rfl
      exact absurd same.1 (by decide)
    rw [codes_cons, isCode, List.cons_append] at isRest
    rw [skipTrivia_some false isRest, if_neg noNewline, same.1, Bool.or_false, if_neg Bool.false_ne_true,
      if_neg same.2]

/-- Both scanners pass the same blanks and comments. -/
theorem exists_skipTrivia {cs : List Char} (isRest : bytes.drop position = codes cs) (depth : Nat) :
    ∃ passed more, cs = passed ++ more ∧ skipTrivia bytes false position = position + byteSize passed ∧
      scan depth position cs = scan depth (position + byteSize passed) more ∧ Starts more := by
  induction depth, position, cs using scan.induct with
  | case1 depth position => exact ⟨[], [], rfl, skipTrivia_none false isRest, rfl, by simp [Starts]⟩
  | case2 depth position c rest space ih =>
    have ascii := ascii_isSpace c space
    rw [codes_cons_of_ascii ascii] at isRest
    obtain ⟨passed, more, split, skips, scans, starts⟩ := ih (drop_succ_of_drop isRest)
    have behind : position + byteSize (c :: passed) = position + 1 + byteSize passed := by
      rw [byteSize_cons_of_ascii ascii, Nat.add_assoc]
    refine ⟨c :: passed, more, by rw [split, List.cons_append], ?_, ?_, starts⟩
    · rw [skipTrivia_some false isRest, Bool.false_or, if_pos space, ite_self, skips, behind]
    · rw [scan, if_pos space, scans, behind]
  | case3 depth position rest noSpace ih =>
    let comment := rest.takeWhile (· ≠ '\n')
    have split : comment ++ rest.dropWhile (· ≠ '\n') = rest := List.takeWhile_append_dropWhile
    rw [codes_cons_of_ascii (by decide)] at isRest
    have inComment : bytes.drop (position + 1) = codes rest := drop_succ_of_drop isRest
    have behindComment : bytes.drop (position + 1 + byteSize comment) = codes (rest.dropWhile (· ≠ '\n')) := by
      rw [← split, codes_append] at inComment
      rw [← length_codes]
      exact drop_of_drop inComment
    obtain ⟨passed, more, isRest', skips, scans, starts⟩ := ih behindComment
    have behind : position + byteSize ('#' :: (comment ++ passed)) =
        position + 1 + byteSize comment + byteSize passed := by
      rw [byteSize_cons_of_ascii (by decide), Text.byteSize_append]
      omega
    refine ⟨'#' :: (comment ++ passed), more, ?_, ?_, ?_, starts⟩
    · rw [List.cons_append, List.append_assoc, ← isRest', split]
    · rw [skipTrivia_some false isRest, if_neg (by decide), Bool.false_or, if_neg noSpace, if_pos rfl,
        skipTrivia_comment inComment, skips, behind]
    · rw [scan, if_neg noSpace, if_pos rfl, scans, behind]
  | case4 depth position c rest noSpace noHash =>
    have starts : Starts (c :: rest) := by
      intro first isFirst
      cases isFirst
      exact ⟨by simpa using noSpace, noHash⟩
    exact ⟨[], c :: rest, rfl, skipTrivia_of_starts isRest starts, rfl, starts⟩

/-! Strings. -/

/-- A byte that a string goes on behind. -/
def Passes (quote c : Char) : Prop :=
  ¬(c = '\\' && quote != '\x60') = true ∧ ¬(c = '\n' && quote != '\x60') = true ∧ c ≠ quote

theorem stringEnd_append {quote : Char} {passed : List Char} (isRest : bytes.drop position = passed ++ rest)
    (passes : ∀ c ∈ passed, Passes quote c) :
    stringEnd bytes quote position = stringEnd bytes quote (position + passed.length) := by
  induction passed generalizing position with
  | nil => rfl
  | cons c passed ih =>
    obtain ⟨noBackslash, noNewline, noQuote⟩ := passes c (List.mem_cons_self ..)
    have next : bytes.drop (position + 1) = passed ++ rest := drop_succ_of_drop isRest
    rw [stringEnd_some quote isRest, if_neg noBackslash, if_neg noNewline, if_neg noQuote,
      ih next fun c member => passes c (List.mem_cons_of_mem _ member), List.length_cons, Nat.add_assoc,
      Nat.add_comm 1]

section

variable {quote : Char} (quoteAscii : quote.toNat < 128)
include quoteAscii

theorem passes_of_wide {x : Char} (wide : ¬x.toNat < 128) : Passes quote x := by
  have noBackslash : x ≠ '\\' := ne_of_wide (by decide) wide
  have noNewline : x ≠ '\n' := ne_of_wide (by decide) wide
  exact ⟨by simp [noBackslash], by simp [noNewline], ne_of_wide quoteAscii wide⟩

/-- The bytes of a character are passed if the character is. -/
theorem passes_code {c : Char} (passes : Passes quote c) : ∀ x ∈ code c, Passes quote x := by
  by_cases isAscii : c.toNat < 128
  · simpa [code_of_ascii isAscii] using passes
  · exact fun x member => passes_of_wide quoteAscii (wide_code isAscii x member)

/-- Both scanners end a string at the same place. -/
theorem stringEnd_eq {cs : List Char} (isRest : bytes.drop position = codes cs)
    (within : position ≤ bytes.length) :
    stringEnd bytes quote position =
      ((stringLength quote cs).1, position + byteSize (cs.take (stringLength quote cs).2)) := by
  have size : bytes.length = position + byteSize cs := by
    have length := congrArg List.length isRest
    rw [List.length_drop, length_codes] at length
    omega
  fun_induction stringLength quote cs generalizing position with
  | case1 =>
    rw [stringEnd_none quote isRest, size]
    simp [byteSize]
  | case2 c guards =>
    have ascii : c.toNat < 128 := ascii_of_and (a := '\\') (by decide) guards
    rw [byteSize_cons_of_ascii ascii, byteSize] at size
    rw [codes_cons_of_ascii ascii] at isRest
    -- The guarded byte would stand behind the last one.
    have isEnd : bytes.drop (position + 2) = [] := List.drop_eq_nil_of_le (by omega)
    rw [stringEnd_some quote isRest, if_pos guards, stringEnd_none quote isEnd, size, List.take_succ_cons,
      byteSize_cons_of_ascii ascii]
    refine Prod.ext rfl ?_
    simp [byteSize]
  | case3 c guards d tail closed n same ih =>
    have ascii : c.toNat < 128 := ascii_of_and (a := '\\') (by decide) guards
    rw [byteSize_cons_of_ascii ascii, byteSize] at size
    rw [codes_cons_of_ascii ascii, codes_cons] at isRest
    -- One byte of the guarded character is skipped, and the others are passed.
    obtain ⟨x, more, isCode⟩ := exists_code d
    have length : more.length + 1 = d.utf8Size := by rw [← length_code, isCode, List.length_cons]
    have passes : ∀ y ∈ more, Passes quote y := by
      by_cases isAscii : d.toNat < 128
      · rw [code_of_ascii isAscii] at isCode
        cases isCode
        exact fun y member => absurd member List.not_mem_nil
      · intro y member
        exact passes_of_wide quoteAscii (wide_code isAscii y (isCode ▸ List.mem_cons_of_mem _ member))
    have inside : bytes.drop (position + 2) = more ++ codes tail := by
      rw [isCode] at isRest
      exact drop_succ_of_drop (drop_succ_of_drop isRest)
    rw [stringEnd_some quote isRest, if_pos guards, stringEnd_append inside passes,
      ih (drop_of_drop inside) (by omega) (by omega), same]
    refine Prod.ext rfl ?_
    simp only [List.take_succ_cons, byteSize_cons_of_ascii ascii, byteSize]
    omega
  | case4 c tail plain isNewline =>
    have ascii : c.toNat < 128 := ascii_of_and (a := '\n') (by decide) isNewline
    rw [byteSize_cons_of_ascii ascii] at size
    rw [codes_cons_of_ascii ascii] at isRest
    rw [stringEnd_some quote isRest, if_neg plain, if_pos isNewline, List.take_succ_cons,
      byteSize_cons_of_ascii ascii]
    refine Prod.ext rfl ?_
    simp only [List.take_zero, byteSize]
    omega
  | case5 tail plain noNewline =>
    rw [codes_cons_of_ascii quoteAscii] at isRest
    rw [stringEnd_some quote isRest, if_neg plain, if_neg noNewline, if_pos rfl, List.take_succ_cons,
      byteSize_cons_of_ascii quoteAscii]
    rfl
  | case6 c tail plain noNewline noQuote closed n same ih =>
    rw [byteSize] at size
    rw [codes_cons] at isRest
    have passes := passes_code quoteAscii ⟨plain, noNewline, noQuote⟩
    rw [stringEnd_append isRest passes, ih (drop_of_drop isRest) (by rw [length_code]; omega)
      (by rw [length_code]; omega), same, length_code]
    refine Prod.ext rfl ?_
    simp only [List.take_succ_cons, byteSize]
    omega

end

/-! Tokens and faults. -/

theorem shape_of_quote {c : Char} (isQuote : (c = '"' || c = '\'' || c = '\x60') = true) (depth : Nat)
    (rest : List Char) :
    shape depth c rest = (if (stringLength c rest).1 then .token .string else .fault .unterminatedString,
      (stringLength c rest).2) := by
  have cases : c = '"' ∨ c = '\'' ∨ c = '\x60' := by simpa [or_assoc] using isQuote
  rcases cases with rfl | rfl | rfl
  all_goals
    rw [shape_eq_otherShape (by decide), otherShape, if_neg (by simp), if_pos (by decide)]

theorem shape_of_wide {c : Char} (wide : ¬c.toNat < 128) (depth : Nat) (rest : List Char) :
    shape depth c rest = (.fault (.unexpectedCharacter c), 0) := by
  have no {a : Char} (ascii : a.toNat < 128) : decide (c = a) = false := decide_eq_false (ne_of_wide ascii wide)
  have all : ∀ a ∈ punctuation ++ comparators, a.toNat < 128 := by simp [punctuation, comparators]
  rw [shape_eq_otherShape fun member => wide (all c member), otherShape, unquoted_of_wide wide,
    no (a := ':') (by decide), no (a := '.') (by decide), ascii_isDigit.eq_false wide,
    ascii_startsIdentifier.eq_false wide]
  rfl

/-- A character that is unexpected is so alone. -/
theorem eq_of_unexpected {depth : Nat} {c d : Char} {rest : List Char}
    (unexpected : (shape depth c rest).1 = .fault (.unexpectedCharacter d)) :
    shape depth c rest = (.fault (.unexpectedCharacter c), 0) := by
  revert unexpected
  unfold shape
  split
  case h_19 => grind
  all_goals grind [pair]

/-- Where a byte is an ASCII character, both scanners find the same there. -/
theorem shapeAt_eq {c : Char} {cs : List Char} (ascii : c.toNat < 128)
    (isRest : bytes.drop position = c :: codes cs) (depth : Nat) :
    shapeAt bytes depth position c =
      ((shape depth c cs).1, position + byteSize (c :: cs.take (shape depth c cs).2)) := by
  have next := drop_succ_of_drop isRest
  have within := (List.getElem?_eq_some_iff.mp (getElem?_of_drop isRest)).1
  rw [byteSize_cons_of_ascii ascii]
  unfold shapeAt
  split
  · next isQuote =>
    rw [stringEnd_eq ascii next (by omega), shape_of_quote isQuote]
    refine Prod.ext rfl ?_
    simp only
    omega
  · next noQuote =>
    have unquoted : Unquoted c := Bool.eq_false_iff.mpr noQuote
    have same : shape depth c (codes cs) = shape depth c cs := by
      rw [← shape_asciiPart ascii unquoted, asciiPart_codes, shape_asciiPart ascii unquoted]
    -- The other characters of the token are ASCII, too, so there are as many of them as bytes.
    have size : byteSize (cs.take (shape depth c cs).2) = (shape depth c cs).2 := by
      have short := shape_le depth c (asciiPart cs)
      rw [shape_asciiPart ascii unquoted] at short
      exact byteSize_take short
    rw [next, same, size]
    refine Prod.ext rfl ?_
    simp only
    omega

/-- At a boundary, the character that is reported is the one behind it. -/
theorem itemAt?_unexpected {text before rest : List Char} {c : Char} (split : text = before ++ c :: rest)
    (d : Char) (stop : Nat) :
    itemAt? text (byteSize before) (.fault (.unexpectedCharacter d), stop) =
      some (.ofShape [c] ⟨byteSize before, byteSize before + byteSize [c]⟩ (.fault (.unexpectedCharacter c)),
        byteSize before + byteSize [c]) := by
  have cut : Text.cutAt? (byteSize before) text = some (before, c :: rest) := by
    rw [split, Text.cutAt?_append]
  rw [itemAt?, cut]
  rfl

theorem drop_codes (before cs : List Char) : (codes (before ++ cs)).drop (byteSize before) = codes cs := by
  rw [codes_append, ← length_codes, List.drop_left]

/-- What both scanners find at a boundary, if no blank and no comment is there. -/
theorem exists_itemAt {text before rest : List Char} {c : Char} (split : text = before ++ c :: rest)
    (depth : Nat) :
    let start := byteSize before
    let found := shape depth c rest
    let cut := c :: rest.take found.2
    ∃ x, (codes text)[start]? = some x ∧
      depthAfter depth (shapeAt (codes text) depth start x).1 = depthAfter depth found.1 ∧
      itemAt? text start (shapeAt (codes text) depth start x) =
        some (.ofShape cut ⟨start, start + byteSize cut⟩ found.1, start + byteSize cut) := by
  intro start found cut
  have isRest : (codes text).drop start = code c ++ codes rest := by rw [split, drop_codes, codes_cons]
  have isCut (alone : found = (.fault (.unexpectedCharacter c), 0)) : cut = [c] := by
    rw [show cut = c :: rest.take found.2 from rfl, alone, List.take_zero]
  by_cases ascii : c.toNat < 128
  · rw [code_of_ascii ascii] at isRest
    have same : shapeAt (codes text) depth start c = (found.1, start + byteSize cut) :=
      shapeAt_eq ascii isRest depth
    refine ⟨c, getElem?_of_drop isRest, by rw [same], ?_⟩
    rw [same]
    cases isKind : found.1 with
    | token kind =>
      have whole : text = before ++ (cut ++ rest.drop found.2) := by
        rw [split, List.cons_append, List.take_append_drop]
      have sliced : Text.slice? start (start + byteSize cut) text = some cut := by
        rw [whole]
        exact Text.slice?_append before cut _
      rw [itemAt?, sliced]
      rfl
    | fault cause =>
      cases cause with
      | unterminatedString => rfl
      | unexpectedCharacter d =>
        have alone : found = (.fault (.unexpectedCharacter c), 0) := eq_of_unexpected isKind
        rw [alone] at isKind
        cases isKind
        rw [isCut alone]
        exact itemAt?_unexpected split c _
  · obtain ⟨x, more, isCode, wide⟩ := exists_wide ascii
    have noQuote : ¬(x = '"' || x = '\'' || x = '\x60') = true := by
      rw [unquoted_of_wide wide]
      exact Bool.false_ne_true
    have alone : found = (.fault (.unexpectedCharacter c), 0) := shape_of_wide ascii depth rest
    have unexpected : shapeAt (codes text) depth start x = (.fault (.unexpectedCharacter x), start + 1) := by
      rw [shapeAt, if_neg noQuote, shape_of_wide wide]
    rw [isCode] at isRest
    refine ⟨x, getElem?_of_drop isRest, by rw [unexpected, alone]; rfl, ?_⟩
    rw [unexpected, isCut alone, alone]
    exact itemAt?_unexpected split x _

/-- At the end of the text there is nothing more. -/
theorem scan?_of_end {text : List Char} {start : Nat} (skips : skipTrivia (codes text) false position = start)
    (isEnd : (codes text)[start]? = none) (depth : Nat) : scan? text depth position = some [] := by
  subst skips
  rw [scan?]
  split
  · rfl
  · next read =>
    rw [isEnd] at read
    cases read

theorem scan?_of_item {text : List Char} {start depth next : Nat} {x : Char} {item : Item}
    (skips : skipTrivia (codes text) false position = start) (read : (codes text)[start]? = some x)
    (made : itemAt? text start (shapeAt (codes text) depth start x) = some (item, next)) :
    scan? text depth position =
      (scan? text (depthAfter depth (shapeAt (codes text) depth start x).1) next).map (item :: ·) := by
  subst skips
  rw [scan?]
  split
  · next isEnd =>
    rw [read] at isEnd
    cases isEnd
  · next x' isRead =>
    rw [read] at isRead
    cases isRead
    dsimp only
    split
    · next none =>
      rw [made] at none
      cases none
    · next item' next' made' =>
      rw [made] at made'
      cases made'
      rfl

/-- From a boundary on, both scanners find the same. -/
theorem scan?_eq {text : List Char} (before cs : List Char) (split : text = before ++ cs) (depth : Nat) :
    scan? text depth (byteSize before) = some (scan depth (byteSize before) cs) := by
  induction size : cs.length using Nat.strongRecOn generalizing before cs depth with
  | ind n ih =>
    have isRest : (codes text).drop (byteSize before) = codes cs := by rw [split, drop_codes]
    obtain ⟨passed, more, rfl, skips, scans, starts⟩ := exists_skipTrivia isRest depth
    rw [← Text.byteSize_append] at skips scans
    rw [← List.append_assoc] at split
    cases more with
    | nil =>
      have isEnd : (codes text).drop (byteSize (before ++ passed)) = [] := by
        rw [split, drop_codes]
        rfl
      rw [scans, scan]
      exact scan?_of_end skips (getElem?_of_drop_nil isEnd) depth
    | cons c rest =>
      obtain ⟨noSpace, noHash⟩ := starts c rfl
      obtain ⟨x, read, sameDepth, made⟩ := exists_itemAt split depth
      have behind : text = (before ++ passed ++ c :: rest.take (shape depth c rest).2) ++
          rest.drop (shape depth c rest).2 := by
        rw [List.append_assoc _ (c :: _), List.cons_append, List.take_append_drop, split]
      have shorter : (rest.drop (shape depth c rest).2).length < n := by
        simp only [← size, List.length_drop, List.length_append, List.length_cons]
        omega
      have later := ih _ shorter _ _ behind (depthAfter depth (shape depth c rest).1) rfl
      rw [Text.byteSize_append] at later
      rw [scan?_of_item skips read made, sameDepth, later, scans, scan, noSpace, if_neg Bool.false_ne_true,
        if_neg noHash]
      rfl

/-- The scanner on bytes never cuts a character, and it finds what the scanner on characters finds. -/
theorem items?_eq (source : String) : items? source = some (items source) :=
  scan?_eq [] source.toList rfl 0

end Bytes

end QueryLint.Token

import QueryLint.Proofs.Expr.Nodes
import QueryLint.Proofs.Literal.Digits

/-! What a duration amounts to.

A duration is parts, each digits and a unit. No part can be read in two ways, because the next one starts
with a digit. The reader looks at a limit three times on its way, at the digits, at the part and at the sum
so far; since every unit is at least a millisecond, all of this together is one limit on the whole sum.
-/

set_option autoImplicit false

namespace QueryLint.Literal.Duration

/-- Units of time. -/
inductive TimeUnit where
  | milliseconds | seconds | minutes | hours | days | weeks | years
  deriving DecidableEq, Repr

namespace TimeUnit

def symbol : TimeUnit → List Char
  | .milliseconds => ['m', 's']
  | .seconds => ['s']
  | .minutes => ['m']
  | .hours => ['h']
  | .days => ['d']
  | .weeks => ['w']
  | .years => ['y']

/-- How many milliseconds it is. -/
def size : TimeUnit → Nat
  | .milliseconds => 1
  | .seconds => 1000
  | .minutes => 60 * 1000
  | .hours => 60 * 60 * 1000
  | .days => 24 * 60 * 60 * 1000
  | .weeks => 7 * 24 * 60 * 60 * 1000
  | .years => 365 * 24 * 60 * 60 * 1000

theorem size_pos (unit : TimeUnit) : 0 < unit.size := by
  cases unit <;> decide

theorem unit?_symbol (unit : TimeUnit) {rest : List Char} (noPair : rest.head? ≠ some 's') :
    unit? (unit.symbol ++ rest) = some (unit.size, rest) := by
  cases unit with
  | minutes =>
    cases rest with
    | nil => rfl
    | cons c rest =>
      have other : c ≠ 's' := by simpa using noPair
      simp [symbol, size, unit?, other]
  | _ => rfl

theorem exists_of_unit? {cs rest : List Char} {factor : Nat} (found : unit? cs = some (factor, rest)) :
    ∃ unit : TimeUnit, cs = unit.symbol ++ rest ∧ factor = unit.size := by
  unfold unit? at found
  split at found
  all_goals cases found
  · exact ⟨.milliseconds, rfl, rfl⟩
  · exact ⟨.seconds, rfl, rfl⟩
  · exact ⟨.minutes, rfl, rfl⟩
  · exact ⟨.hours, rfl, rfl⟩
  · exact ⟨.days, rfl, rfl⟩
  · exact ⟨.weeks, rfl, rfl⟩
  · exact ⟨.years, rfl, rfl⟩

end TimeUnit

/-- So many of a unit. -/
structure Part where
  digits : List Char
  unit : TimeUnit
  some : digits ≠ []
  isDigit : ∀ c ∈ digits, c.isDigit = true

namespace Part

def text (part : Part) : List Char :=
  part.digits ++ part.unit.symbol

/-- Its milliseconds. -/
def value (part : Part) : Nat :=
  decimal part.digits * part.unit.size

theorem head?_text (part : Part) (rest : List Char) : (part.text ++ rest).head? ≠ Option.some 's' := by
  obtain ⟨c, digits, split⟩ := List.exists_cons_of_ne_nil part.some
  have isDigit : c.isDigit = true := part.isDigit c (by simp [split])
  rw [text, split]
  rintro same
  cases same
  cases isDigit

theorem takeWhile_text (part : Part) (rest : List Char) :
    (part.text ++ rest).takeWhile Char.isDigit = part.digits := by
  have noDigit : (part.unit.symbol ++ rest).takeWhile Char.isDigit = [] := by
    cases part.unit <;> rfl
  rw [text, List.append_assoc, List.takeWhile_append_of_pos part.isDigit, noDigit, List.append_nil]

theorem dropWhile_text (part : Part) (rest : List Char) :
    (part.text ++ rest).dropWhile Char.isDigit = part.unit.symbol ++ rest := by
  have noDigit : (part.unit.symbol ++ rest).dropWhile Char.isDigit = part.unit.symbol ++ rest := by
    cases part.unit <;> rfl
  rw [text, List.append_assoc, List.dropWhile_append_of_pos part.isDigit, noDigit]

/-- Digits and a unit behind them are a part. -/
theorem exists_of_unit? {cs rest : List Char} {factor : Nat} (some : cs.takeWhile Char.isDigit ≠ [])
    (found : unit? (cs.dropWhile Char.isDigit) = .some (factor, rest)) :
    ∃ part : Part, cs = part.text ++ rest ∧
      part.value = Number.digitsValue (cs.takeWhile Char.isDigit) * factor := by
  obtain ⟨unit, split, isSize⟩ := TimeUnit.exists_of_unit? found
  refine ⟨⟨_, unit, some, List.all_eq_true.mp List.all_takeWhile⟩, ?_, ?_⟩
  · rw [text, List.append_assoc, ← split, List.takeWhile_append_dropWhile]
  · rw [value, digitsValue_eq, isSize]

theorem digitsValue_le (part : Part) : Number.digitsValue part.digits ≤ part.value := by
  rw [digitsValue_eq, value]
  exact Nat.le_mul_of_pos_right _ part.unit.size_pos

end Part

/-- A part adds its value, unless the sum is then beyond the limit. -/
theorem sum_text (literal : String) (total : Nat) (part : Part) {rest : List Char}
    (noPair : rest.head? ≠ some 's') :
    sum literal total (part.text ++ rest) =
      if limit < total + part.value then .error (.outOfRange literal)
      else sum literal (total + part.value) rest := by
  have some : (part.text ++ rest).isEmpty = false := by simp [Part.text, part.some]
  have isUnit : unit? ((part.text ++ rest).dropWhile Char.isDigit) = .some (part.unit.size, rest) := by
    rw [part.dropWhile_text, part.unit.unit?_symbol noPair]
  have isValue : Number.digitsValue part.digits * part.unit.size = part.value := by
    rw [digitsValue_eq, Part.value]
  have least := part.digitsValue_le
  rw [sum.eq_def]
  simp only [some, part.takeWhile_text, List.isEmpty_eq_false_iff.mpr part.some]
  rw [if_neg Bool.false_ne_true, if_neg Bool.false_ne_true]
  -- Digits beyond the limit are a part beyond it.
  split
  · next large => rw [if_pos (by omega)]
  · split
    · next noUnit => cases isUnit.symm.trans noUnit
    · next found =>
      cases isUnit.symm.trans found
      rw [isValue]

/-- What parts are written as, one behind the other. -/
def write (parts : List Part) : List Char :=
  parts.flatMap Part.text

/-- The exact sum of parts. -/
def total (parts : List Part) : Nat :=
  (parts.map Part.value).sum

theorem write_cons (part : Part) (parts : List Part) : write (part :: parts) = part.text ++ write parts :=
  List.flatMap_cons

theorem total_cons (part : Part) (parts : List Part) : total (part :: parts) = part.value + total parts :=
  List.sum_cons

theorem head?_write (parts : List Part) : (write parts).head? ≠ some 's' := by
  cases parts with
  | nil => simp [write]
  | cons part parts =>
    rw [write_cons]
    exact part.head?_text _

/-- Parts whose sum is within the limit are added up. -/
theorem sum_write {literal : String} {parts : List Part} {before : Nat} (within : before + total parts ≤ limit) :
    sum literal before (write parts) = .ok (before + total parts) := by
  induction parts generalizing before with
  | nil =>
    rw [write, List.flatMap_nil, sum]
    rfl
  | cons part parts ih =>
    rw [total_cons, ← Nat.add_assoc] at within ⊢
    rw [write_cons, sum_text literal before part (head?_write parts), if_neg (by omega)]
    exact ih within

/-- What is added up is parts. -/
theorem exists_of_sum {literal : String} {before n : Nat} {cs : List Char} (within : before ≤ limit)
    (added : sum literal before cs = .ok n) :
    ∃ parts, cs = write parts ∧ n = before + total parts ∧ n ≤ limit := by
  fun_induction sum literal before cs with
  | case1 before cs none =>
    cases added
    exact ⟨[], List.isEmpty_iff.mp none, rfl, within⟩
  | case2 | case3 | case4 | case5 => cases added
  | case6 before cs _ digits some value _ factor rest isUnit fits ih =>
    obtain ⟨part, split, isValue⟩ := Part.exists_of_unit? (fun none => some (List.isEmpty_iff.mpr none)) isUnit
    obtain ⟨parts, isRest, isSum, bounded⟩ := ih (by omega) added
    refine ⟨part :: parts, ?_, ?_, bounded⟩
    · rw [write_cons, ← isRest, split]
    · rw [isSum, total_cons, isValue, Nat.add_assoc]

/-- A duration is read if and only if it is one or more parts whose sum is within the limit, and then it is
this sum. -/
theorem read_eq_ok_iff {text : String} {n : Nat} :
    read text = .ok n ↔
      ∃ parts, parts ≠ [] ∧ text.toList = write parts ∧ total parts ≤ limit ∧ n = total parts := by
  unfold read
  split
  · next none =>
    constructor
    · intro failed
      cases failed
    · rintro ⟨_ | ⟨part, parts⟩, some, isText, -⟩
      · exact absurd rfl some
      · rw [isText, write_cons] at none
        simp [Part.text, part.some] at none
  · next some =>
    constructor
    · intro added
      obtain ⟨parts, isText, isSum, bounded⟩ := exists_of_sum (Nat.zero_le limit) added
      rw [Nat.zero_add] at isSum
      refine ⟨parts, ?_, isText, isSum ▸ bounded, isSum⟩
      rintro rfl
      exact some (by rw [isText]; rfl)
    · rintro ⟨parts, -, isText, bounded, rfl⟩
      have added : sum text 0 (write parts) = _ := sum_write (by rwa [Nat.zero_add])
      rw [Nat.zero_add] at added
      rw [isText, added]

theorem le_limit_of_read {text : String} {n : Nat} (found : read text = .ok n) : n ≤ limit := by
  obtain ⟨parts, -, -, bounded, rfl⟩ := read_eq_ok_iff.mp found
  exact bounded

/-- The offset that the parser gives to a selector is a duration or its negative. -/
theorem exists_of_offset {eof keyword : Token} {e e' : Expr} {ts : List Token} {rest : Parser.Fewer ts}
    (answer : Parser.offset eof keyword e ts = .ok (e', rest)) :
    ∃ modifiers value text ms, e'.modifiers? = some modifiers ∧ modifiers.offset = some value ∧
      read text = .ok ms ∧ (value = (ms : Int) ∨ value = -(ms : Int)) := by
  rw [Parser.offset] at answer
  obtain ⟨⟨⟨ms, length⟩, r, shorter⟩, readLength, answer⟩ := Grammar.bind_ok answer
  obtain ⟨-, isLength⟩ := Grammar.duration_sound readLength
  simp only at answer
  split at answer
  · cases answer
  · next modifiers found =>
    split at answer
    · cases answer
    · cases answer
      refine ⟨_, _, length.text, ms, Expr.modifiers?_modify found _ _, rfl, isLength.read, ?_⟩
      split
      · exact .inr rfl
      · exact .inl rfl

/-- Durations are added up exactly. A text is read if and only if it is one or more parts, each digits and a
unit, whose exact sum is below two to the power 63, and then it is that sum; every other text is refused. So
the negative of a duration is also a signed word of 64 bits, and so is every offset. -/
theorem read_eq_total :
    (∀ (text : String) (n : Nat), read text = .ok n ↔
      ∃ parts, parts ≠ [] ∧ text.toList = write parts ∧ total parts ≤ 2 ^ 63 - 1 ∧ n = total parts) ∧
    (∀ text : String, (∃ e, read text = .error e) ↔
      ¬∃ parts, parts ≠ [] ∧ text.toList = write parts ∧ total parts ≤ 2 ^ 63 - 1) ∧
    (∀ (text : String) (n : Nat), read text = .ok n →
      (Int64.ofNat n).toInt = n ∧ (-Int64.ofNat n).toInt = -(n : Int)) ∧
    ∀ (eof keyword : Token) (e e' : Expr) (ts : List Token) (rest : Parser.Fewer ts),
      Parser.offset eof keyword e ts = .ok (e', rest) →
      ∃ modifiers value, e'.modifiers? = some modifiers ∧ modifiers.offset = some value ∧
        (Int64.ofInt value).toInt = value := by
  have isLimit : limit = 2 ^ 63 - 1 := rfl
  refine ⟨fun text n => read_eq_ok_iff, fun text => ?_, fun text n found => ?_, ?_⟩
  · cases found : read text with
    | ok n =>
      obtain ⟨parts, some, isText, bounded, -⟩ := read_eq_ok_iff.mp found
      simpa using ⟨parts, some, isText, bounded⟩
    | error e =>
      refine iff_of_true ⟨e, rfl⟩ ?_
      rintro ⟨parts, some, isText, bounded⟩
      have isRead := read_eq_ok_iff.mpr ⟨parts, some, isText, bounded, rfl⟩
      cases found.symm.trans isRead
  · have bounded := le_limit_of_read found
    refine ⟨Int64.toInt_ofNat_of_lt (by omega), ?_⟩
    rw [← Int64.ofInt_eq_ofNat, ← Int64.ofInt_neg, Int64.toInt_ofInt_of_le (by omega) (by omega)]
  · intro eof keyword e e' ts rest answer
    obtain ⟨modifiers, value, text, ms, isModified, isOffset, found, isValue⟩ := exists_of_offset answer
    have bounded := le_limit_of_read found
    exact ⟨modifiers, value, isModified, isOffset, Int64.toInt_ofInt_of_le (by omega) (by omega)⟩

/-- The longest duration, in two parts. -/
theorem read_eq_total_longest :
    read "9223372036854775s0807ms" = .ok (2 ^ 63 - 1) ∧
      (-Int64.ofNat (2 ^ 63 - 1)).toInt = -((2 ^ 63 - 1 : Nat) : Int) := by
  let parts : List Part :=
    [⟨"9223372036854775".toList, .seconds, by decide, List.all_eq_true.mp rfl⟩,
      ⟨"0807".toList, .milliseconds, by decide, List.all_eq_true.mp rfl⟩]
  obtain ⟨isRead, -, isWord, -⟩ := read_eq_total
  have found : read "9223372036854775s0807ms" = .ok (2 ^ 63 - 1) :=
    (isRead _ _).mpr ⟨parts, by simp [parts], by decide, by decide, by decide⟩
  exact ⟨found, (isWord _ _ found).2⟩

end QueryLint.Literal.Duration

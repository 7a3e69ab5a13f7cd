import Mathlib.Data.Nat.Digits.Defs
import QueryLint.Number.Decimal
import QueryLint.Proofs.Literal.Quoted

/-! Digits as numbers.

The readers take digits from the left, each time multiplying what they have by the base. A number is the
sum of its digits, each times its power of the base, and the first digit has the highest power.
-/

set_option autoImplicit false

namespace QueryLint.Literal

theorem ofDigits_reverse {Digit : Type} (base : Nat) (value : Digit → Nat) (digits : List Digit) :
    Nat.ofDigits base (digits.reverse.map value) = digits.foldl (fun n d => n * base + value d) 0 := by
  rw [Nat.ofDigits_eq_foldr, List.foldr_map, List.foldr_reverse]
  congr
  funext n d
  rw [Nat.cast_id, Nat.add_comm, Nat.mul_comm]

/-- The number that ASCII digits are in base ten. -/
def decimal (digits : List Char) : Nat :=
  Nat.ofDigits 10 (digits.reverse.map fun c => c.toNat - '0'.toNat)

theorem digitsValue_eq (digits : List Char) : Number.digitsValue digits = decimal digits := by
  rw [Number.digitsValue, decimal, ofDigits_reverse]

namespace Quoted

/-- The hexadecimal digits in order of their value, in lower case. -/
def hexDigits : List Char :=
  "0123456789abcdef".toList

/-- The number that hexadecimal digits are, in either case. -/
def hexNumber (digits : List Char) : Nat :=
  Nat.ofDigits 16 (digits.reverse.map fun c => hexDigits.idxOf c.toLower)

theorem not_le_of_ascii {c d : Char} (other : ¬c.toNat < 128) (ascii : d.toNat < 128) : ¬c ≤ d := by
  rw [Char.le_def, UInt32.le_iff_toNat_le]
  change ¬c.toNat ≤ d.toNat
  omega

/-- Only ASCII characters are hexadecimal digits. -/
theorem ascii_of_hex {c : Char} (hex : c.toLower ∈ hexDigits) : c.toNat < 128 := by
  have small : hexDigits.all (·.toNat < 128) = true := by decide
  by_contra other
  have same : c.toLower = c := dif_neg fun upper =>
    not_le_of_ascii other (show 'Z'.toNat < 128 by decide) (Char.le_def.mpr upper.2)
  exact other (of_decide_eq_true (List.all_eq_true.mp small c (same ▸ hex)))

theorem hexDigit?_eq (c : Char) :
    hexDigit? c = if c.toLower ∈ hexDigits then some (hexDigits.idxOf c.toLower) else none := by
  have table : ∀ n < 128, hexDigit? (Char.ofNat n) = if (Char.ofNat n).toLower ∈ hexDigits then
      some (hexDigits.idxOf (Char.ofNat n).toLower) else none := by decide +kernel
  by_cases ascii : c.toNat < 128
  · have found := table c.toNat ascii
    rwa [Char.ofNat_toNat] at found
  · rw [if_neg fun hex => ascii (ascii_of_hex hex), hexDigit?,
      if_neg fun digit => not_le_of_ascii ascii (by decide) digit.2,
      if_neg fun lower => not_le_of_ascii ascii (by decide) lower.2,
      if_neg fun upper => not_le_of_ascii ascii (by decide) upper.2]

theorem hexNumber_eq (digits : List Char) :
    hexNumber digits = digits.foldl (fun n c => n * 16 + hexDigits.idxOf c.toLower) 0 := by
  rw [hexNumber, ofDigits_reverse]

/-- Hexadecimal digits have their number as value, and nothing else has a value. -/
theorem hexValue?_eq_some_iff {digits : List Char} {n : Nat} :
    hexValue? digits = some n ↔ (∀ c ∈ digits, c.toLower ∈ hexDigits) ∧ n = hexNumber digits := by
  have fold (hex : ∀ c ∈ digits, c.toLower ∈ hexDigits) (m : Nat) :
      digits.foldlM (fun n c => (hexDigit? c).map (n * 16 + ·)) m =
        some (digits.foldl (fun n c => n * 16 + hexDigits.idxOf c.toLower) m) := by
    induction digits generalizing m with
    | nil => rfl
    | cons c digits ih =>
      rw [List.forall_mem_cons] at hex
      rw [List.foldlM_cons, hexDigit?_eq, if_pos hex.1]
      exact ih hex.2 _
  constructor
  · intro found
    have hex : ∀ c ∈ digits, c.toLower ∈ hexDigits := by
      intro c member
      have digit := hexValue?_isSome_iff.mp (Option.isSome_of_eq_some found) c member
      rw [hexDigit?_eq] at digit
      by_contra other
      rw [if_neg other] at digit
      cases digit
    rw [hexValue?, fold hex] at found
    exact ⟨hex, by rw [hexNumber_eq, Option.some.inj found]⟩
  · rintro ⟨hex, rfl⟩
    rw [hexValue?, fold hex, hexNumber_eq]

end Quoted

end QueryLint.Literal

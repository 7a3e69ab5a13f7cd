/-! Binary floating-point numbers of 64 bits.

A value is its bit pattern: one sign bit, eleven exponent bits, fifty-two fraction bits. Reading a
decimal rounds the exact quotient to the nearest value, a tie to the even one. -/

set_option autoImplicit false

namespace QueryLint.Number

structure Double where
  bits : UInt64
  deriving DecidableEq, Repr, Inhabited

namespace Double

def infinityBits : Nat := 0x7ff0000000000000

def infinity : Double := ⟨0x7ff0000000000000⟩

def nan : Double := ⟨0x7ff8000000000000⟩

/-- Flips the sign bit. -/
def neg (d : Double) : Double :=
  ⟨d.bits ^^^ 0x8000000000000000⟩

def isNegative (d : Double) : Bool :=
  0x8000000000000000 ≤ d.bits

/-- The bit pattern without the sign. -/
def magnitude (d : Double) : Nat :=
  d.bits.toNat % 0x8000000000000000

def isFinite (d : Double) : Bool :=
  d.magnitude < infinityBits

def isNaN (d : Double) : Bool :=
  infinityBits < d.magnitude

/-- Sixteen hexadecimal digits of the bit pattern. -/
def hexBits (d : Double) : String :=
  let digits := Nat.toDigits 16 d.bits.toNat
  String.ofList (List.replicate (16 - digits.length) '0' ++ digits)

/-- The integer nearest to `num / den`, a tie to the even one. -/
def roundQuotient (num den : Nat) : Nat :=
  let q := num / den
  let r := num % den
  if 2 * r < den then q
  else if den < 2 * r then q + 1
  else if q % 2 = 0 then q else q + 1

/-- `num / den` divided by two to the power `e`, as a quotient. -/
def scale (num den : Nat) : Int → Nat × Nat
  | .ofNat e => (num, den * Nat.pow 2 e)
  | .negSucc e => (num * Nat.pow 2 (e + 1), den)

/-- The exponent of the largest power of two that is not above `num / den`. -/
def floorLog (num den : Nat) : Int :=
  let guess : Int := (Nat.log2 num : Int) - (Nat.log2 den : Int)
  let (n, d) := scale num den guess
  if n < d then guess - 1 else guess

/-- The value nearest to a positive quotient. Below the least normal value the last fraction bit
keeps its weight, so the pattern is the mantissa plus the scaled exponent in every case. -/
def ofQuotient (num den : Nat) : Double :=
  if num = 0 then ⟨0⟩ else
  let weight := max (floorLog num den - 52) (-1074)
  let (n, d) := scale num den weight
  let pattern := (weight + 1074).toNat * 0x10000000000000 + roundQuotient n d
  if infinityBits ≤ pattern then infinity else ⟨pattern.toUInt64⟩

def ofNat (n : Nat) : Double :=
  ofQuotient n 1

/-- The value nearest to `digits * 10 ^ exponent`. Outside the range of the format the power need
not be formed. -/
def ofDecimal (digits : Nat) (exponent : Int) : Double :=
  let places : Int := (Nat.toDigits 10 digits).length + exponent
  if digits = 0 then ⟨0⟩
  else if 400 < places then infinity
  else if places < -400 then ⟨0⟩
  else match exponent with
    | .ofNat e => ofQuotient (digits * Nat.pow 10 e) 1
    | .negSucc e => ofQuotient digits (Nat.pow 10 (e + 1))

/-- A finite magnitude as `mantissa * 2 ^ weight`. -/
def decompose (magnitude : Nat) : Nat × Int :=
  let biased : Nat := magnitude / 0x10000000000000
  let fraction : Nat := magnitude % 0x10000000000000
  if biased = 0 then (fraction, -1074) else (fraction + 0x10000000000000, (biased : Int) - 1075)

end Double

end QueryLint.Number

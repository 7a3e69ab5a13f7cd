import QueryLint.Number.Double

/-! Decimal notation: reading digits with a point and an exponent, and writing the fewest digits
that read back. -/

set_option autoImplicit false

namespace QueryLint.Number

/-- Value of a list of decimal digits. -/
def digitsValue (cs : List Char) : Nat :=
  cs.foldl (fun n c => n * 10 + (c.toNat - '0'.toNat)) 0

namespace Decimal

/-- The exponent after a mantissa, zero when there is none. -/
def exponent? : List Char → Option Int
  | [] => some 0
  | c :: rest =>
    if c = 'e' || c = 'E' then
      let (negative, digits) := match rest with
        | '-' :: ds => (true, ds)
        | '+' :: ds => (false, ds)
        | ds => (false, ds)
      if digits.isEmpty || !digits.all Char.isDigit then none
      else
        let n : Int := digitsValue digits
        some (if negative then -n else n)
    else none

/-- Reads digits with an optional point and an optional exponent; at least one digit must stand
before the exponent. -/
def read? (cs : List Char) : Option Double :=
  let whole := cs.takeWhile Char.isDigit
  let (fraction, rest) := match cs.dropWhile Char.isDigit with
    | '.' :: more => (more.takeWhile Char.isDigit, more.dropWhile Char.isDigit)
    | more => ([], more)
  if whole.isEmpty && fraction.isEmpty then none
  else (exponent? rest).map fun e =>
    Double.ofDecimal (digitsValue (whole ++ fraction)) (e - fraction.length)

/-- Reads an optional sign and an unsigned decimal. -/
def readSigned? : List Char → Option Double
  | '-' :: cs => (read? cs).map Double.neg
  | '+' :: cs => read? cs
  | cs => read? cs

/-- Position of the point after the first significant digit, counted downwards below one: the
least `k` with `num / den < 10 ^ k`. -/
def pointPosition (num den : Nat) : Int :=
  if den ≤ num then (Nat.toDigits 10 (num / den)).length
  else 1 - (Nat.toDigits 10 ((den - 1) / num)).length

/-- The two neighbours of `num / den` on the grid of multiples of `10 ^ e`. -/
def neighbours (num den : Nat) (e : Int) : Nat × Nat :=
  let q := match e with
    | .ofNat k => num / (den * Nat.pow 10 k)
    | .negSucc k => num * Nat.pow 10 (k + 1) / den
  (q, q + 1)

/-- Whether the upper neighbour is at least as near as the lower one. -/
def upperNearer (num den : Nat) (e : Int) (lower : Nat) : Bool :=
  match e with
  | .ofNat k => (2 * lower + 1) * (den * Nat.pow 10 k) ≤ 2 * num
  | .negSucc k => (2 * lower + 1) * den ≤ 2 * (num * Nat.pow 10 (k + 1))

/-- The fewest digits, and the weight of the last one, that read back as the value; of two such
numbers the nearer, and the upper one of two equally near. -/
def shortest (value : Double) : Nat × Int :=
  let (mantissa, weight) := Double.decompose value.magnitude
  let (num, den) := match weight with
    | .ofNat e => (mantissa * Nat.pow 2 e, 1)
    | .negSucc e => (mantissa, Nat.pow 2 (e + 1))
  let point := pointPosition num den
  let reads (digits : Nat) (e : Int) : Bool :=
    (Double.ofDecimal digits e).magnitude == value.magnitude
  let rec search : List Nat → Nat × Int
    | [] => (0, 0)
    | places :: more =>
      let e := point - places
      let (lower, upper) := neighbours num den e
      match reads lower e, reads upper e with
      | true, true => if upperNearer num den e lower then (upper, e) else (lower, e)
      | true, false => (lower, e)
      | false, true => (upper, e)
      | false, false => search more
  let (digits, e) := search ((List.range 18).drop 1)
  -- Just below a power of ten the single digit that reads back is the next one's first.
  if digits = 10 then (1, e + 1) else (digits, e)

/-- Digits in positional notation, with no exponent and no point in a whole number. -/
def positional (digits : Nat) (e : Int) : List Char :=
  let ds := Nat.toDigits 10 digits
  match e with
  | .ofNat k => ds ++ List.replicate k '0'
  | .negSucc k =>
    let places := k + 1
    let padded := List.replicate (places + 1 - ds.length) '0' ++ ds
    padded.take (padded.length - places) ++ '.' :: padded.drop (padded.length - places)

/-- Text of a number: positional, with the fewest digits that read back. -/
def write (value : Double) : String :=
  if value.isNaN then "NaN"
  else
    let sign := if value.isNegative then ['-'] else []
    let body :=
      if value.magnitude = Double.infinityBits then ['i', 'n', 'f']
      else if value.magnitude = 0 then ['0']
      else
        let (digits, e) := shortest value
        positional digits e
    String.ofList (sign ++ body)

end Decimal

end QueryLint.Number

import QueryLint.Number.Decimal
import QueryLint.Text.Quoted

/-! Duration literals such as `1h30m`, in milliseconds. -/

set_option autoImplicit false

namespace QueryLint.Literal

/-- Why a text is no duration. -/
inductive DurationError where
  | empty
  | malformed (text : String)
  | outOfRange (text : String)
  deriving DecidableEq, Repr

def DurationError.message : DurationError → String
  | .empty => "empty duration string"
  | .malformed text => s!"not a valid duration string: {Text.quoted text}"
  | .outOfRange text => s!"duration out of range: {Text.quoted text}"

namespace Duration

/-- The longest duration, in milliseconds. -/
def limit : Nat := 0x7fffffffffffffff

/-- Milliseconds of the unit in front, and what follows it. -/
def unit? : List Char → Option (Nat × List Char)
  | 'm' :: 's' :: rest => some (1, rest)
  | 's' :: rest => some (1000, rest)
  | 'm' :: rest => some (60000, rest)
  | 'h' :: rest => some (3600000, rest)
  | 'd' :: rest => some (86400000, rest)
  | 'w' :: rest => some (604800000, rest)
  | 'y' :: rest => some (31536000000, rest)
  | _ => none

theorem length_unit? {cs rest : List Char} {factor : Nat} (h : unit? cs = some (factor, rest)) :
    rest.length < cs.length := by
  unfold unit? at h
  split at h <;> simp_all
  all_goals omega

/-- Adds up the parts; `text` is the whole literal, for the error. -/
def sum (text : String) (total : Nat) (cs : List Char) : Except DurationError Nat :=
  if cs.isEmpty then .ok total else
  let digits := cs.takeWhile Char.isDigit
  if digits.isEmpty then .error (.malformed text) else
  let value := Number.digitsValue digits
  if limit < value then .error (.outOfRange text) else
  match _h : unit? (cs.dropWhile Char.isDigit) with
  | none => .error (.malformed text)
  | some (factor, rest) =>
    if limit < total + value * factor then .error (.outOfRange text)
    else sum text (total + value * factor) rest
  termination_by cs.length
  decreasing_by
    have shorter := length_unit? _h
    have := (List.dropWhile_suffix (l := cs) Char.isDigit).length_le
    omega

/-- Reads a duration: digits and units, at least one of each, added up. -/
def read (text : String) : Except DurationError Nat :=
  if text.toList.isEmpty then .error .empty else sum text 0 text.toList

end Duration

end QueryLint.Literal

import QueryLint.Rule.DeniedLabels
import QueryLint.Settings.Error
import QueryLint.Unicode.Properties

/-! Denied labels as they are given on the command line, `NAME=PATTERN`. -/

set_option autoImplicit false

namespace QueryLint

namespace DeniedLabels

/-- Drops blanks at both ends. -/
def trim (cs : List Char) : List Char :=
  ((cs.dropWhile Unicode.isBlank).reverse.dropWhile Unicode.isBlank).reverse

/-- Splits a flag at its first equals sign; the name is trimmed and must not be empty. -/
def readFlag (flag : String) : Except SettingsError (String × String) :=
  let cs := flag.toList
  let name := trim (cs.takeWhile (· ≠ '='))
  match cs.dropWhile (· ≠ '=') with
  | [] => .error (.invalid (.malformedRule flag))
  | _ :: pattern =>
    if name.isEmpty then .error (.invalid (.malformedRule flag))
    else .ok (String.ofList name, String.ofList pattern)

/-- Reads all flags; the first that cannot be read is reported. -/
def readFlags : List String → Except SettingsError (List (String × String))
  | [] => .ok []
  | flag :: rest => do
    let entry ← readFlag flag
    let entries ← readFlags rest
    pure (entry :: entries)

/-- The rules that flags give; of two for one label the last counts. -/
def ofFlags (flags : List String) : Except SettingsError LabelMap := do
  let entries ← readFlags flags
  pure (LabelMap.insertAll {} entries)

end DeniedLabels

end QueryLint

import QueryLint.Diagnostic.Basic

/-! When output is coloured. -/

set_option autoImplicit false

namespace QueryLint

inductive ColorChoice where
  | auto | always | never
  deriving DecidableEq, Repr

namespace ColorChoice

def name : ColorChoice → String
  | .auto => "auto"
  | .always => "always"
  | .never => "never"

def ofName? : String → Option ColorChoice
  | "auto" => some .auto
  | "always" => some .always
  | "never" => some .never
  | _ => none

/-- Reads a choice, in any case. -/
def read (s : String) : Except String ColorChoice :=
  match ofName? (Text.lower s) with
  | some choice => .ok choice
  | none => .error s!"Unknown color mode: {s}"

/-- The mode that a choice means; left to itself, only a terminal gets colours, and only if nobody
asked for none. -/
def resolve (choice : ColorChoice) (isTerminal noColor : Bool) : ColorMode :=
  match choice with
  | .always => .enabled
  | .never => .disabled
  | .auto => .ofBool (isTerminal && !noColor)

end ColorChoice

end QueryLint

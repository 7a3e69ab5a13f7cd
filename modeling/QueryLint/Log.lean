/-! Records of what the program did. -/

set_option autoImplicit false

namespace QueryLint.Log

inductive Level where
  | debug | info | warn
  deriving DecidableEq, Repr

def Level.label : Level → String
  | .debug => "DEBUG"
  | .info => "INFO"
  | .warn => "WARN"

structure Entry where
  level : Level
  message : String
  deriving DecidableEq, Repr

def Entry.display (e : Entry) : String :=
  s!"{e.level.label} {e.message}"

def Entry.debug (message : String) : Entry := ⟨.debug, message⟩

def Entry.info (message : String) : Entry := ⟨.info, message⟩

def Entry.warn (message : String) : Entry := ⟨.warn, message⟩

end QueryLint.Log

namespace QueryLint

/-- A computation that keeps a log and may fail; the log stays in either case. -/
abbrev Logged (ε : Type) := ExceptT ε (StateM (List Log.Entry))

def Logged.note {ε : Type} (entry : Log.Entry) : Logged ε Unit :=
  modify (· ++ [entry])

end QueryLint

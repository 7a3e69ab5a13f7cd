import QueryLint.Rule.LabelMap
import QueryLint.Settings.Color
import QueryLint.Settings.Error

/-! The settings of a run, and how flags change them. -/

set_option autoImplicit false

namespace QueryLint

structure OutputSettings where
  color : ColorChoice := .auto
  verbose : Bool := false
  deriving DecidableEq, Repr

structure Settings where
  /-- Findings below this severity are neither shown nor counted. -/
  levelFilter : Severity := .error
  /-- Whether directories are searched all the way down. -/
  recursive : Bool := false
  /-- Manifests to lint in place of the standard input. -/
  manifests : List String := []
  deniedLabels : LabelMap := {}
  output : OutputSettings := {}
  deriving DecidableEq, Repr

/-- What flags say; a flag that is not given says nothing. -/
structure Overrides where
  levelFilter : Option Severity := none
  color : Option ColorChoice := none
  verbose : Option Bool := none
  recursive : Option Bool := none
  deniedLabels : List (String × String) := []
  manifests : List String := []
  deriving DecidableEq, Repr

namespace Settings

/-- Labels must have names. -/
def validate (s : Settings) : Except SettingsError Unit :=
  if s.deniedLabels.labels.any (· = "") then .error (.invalid .emptyLabel) else .ok ()

/-- Settings with what flags say on top: denied labels are added one by one, and manifests replace
all others. -/
def override (s : Settings) (o : Overrides) : Settings where
  levelFilter := o.levelFilter.getD s.levelFilter
  recursive := o.recursive.getD s.recursive
  manifests := if o.manifests.isEmpty then s.manifests else o.manifests
  deniedLabels := s.deniedLabels.insertAll o.deniedLabels
  output := ⟨o.color.getD s.output.color, o.verbose.getD s.output.verbose⟩

end Settings

end QueryLint

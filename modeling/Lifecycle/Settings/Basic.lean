import Lifecycle.Collection
import Lifecycle.Settings.Files

namespace Lifecycle

/-- Defaults for checking a change: the query's name, the refusal's message, whether an unchanged
field is checked, and what stands for an absent value. -/
structure ValidatorDefaults where
  name : String := "can_transit"
  message : String := "cannot transit from \x7bold\x7d to \x7bnew\x7d"
  required : Bool := true
  absentToken : String := "None"
  deriving DecidableEq

structure Settings where
  configPath : Option Path := none
  verbose : Bool := false
  logJson : Bool := false
  validator : ValidatorDefaults := {}
  deriving DecidableEq

/-- What settings are read from: variables, files and the working directory. -/
structure Surroundings where
  vars : List (String × String) := []
  files : Files := []
  cwd : Place := []

def Surroundings.valueOf? (s : Surroundings) (name : String) : Option String :=
  field? name s.vars

end Lifecycle

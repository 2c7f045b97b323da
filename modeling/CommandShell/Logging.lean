import CommandShell.Settings.Settings
import CommandShell.Text.Case

/-!
# Log levels

Logging has a profile and a level. The level is given by name, in any case; without a name the
environment decides.
-/

namespace CommandShell.Logging

open CommandShell.Host

/-- The names of the log levels, from the lowest to the highest. -/
def levels : List String :=
  ["TRACE", "DEBUG", "INFO", "SUCCESS", "WARNING", "ERROR", "CRITICAL"]

/-- The level that a name stands for, or the environment if there is no name. -/
def chooseLevel (e : Environment) (level : Option String) : String :=
  let unnamed := (e.get? Settings.logLevelName).getD "WARNING"
  Text.upper (match level with
    | some "" => unnamed
    | some name => name
    | none => unnamed)

/-- Sets logging up; the answer is the level that holds now. -/
def configure (e : Environment) (level : Option String) : Except Fault String :=
  let chosen := chooseLevel e level
  if levels.contains chosen then .ok chosen else .error (.unknownLevel chosen)

end CommandShell.Logging

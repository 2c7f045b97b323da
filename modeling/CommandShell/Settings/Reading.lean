import CommandShell.Settings.DotEnv
import CommandShell.Settings.Settings
import CommandShell.Text.Utf8

/-!
# Reading the settings

One way to build settings: from the values that are given, the environment and the `.env` file, in
this order. Statements of `.env` that cannot be read do no harm, but each of them is worth a
complaint.
-/

namespace CommandShell.Settings

open CommandShell.Host

/-- The text of the `.env` file in the working directory; empty if there is no such file. -/
def fileText (m : Machine) : Except Fault String :=
  if m.files.isFile m.cwd ".env" then
    match m.files.read m.cwd ".env" with
    | .error _ => .ok ""
    | .ok bytes => (Text.decode bytes).mapError Fault.malformedText
  else .ok ""

/-- The bindings of the `.env` file in the working directory. -/
def fileBindings (m : Machine) : Except Fault (List (String × Option String)) :=
  (fileText m).map (DotEnv.parse m.environment)

/-- The complaint about a statement that cannot be read. -/
def complaint (line : Nat) : String :=
  "python-dotenv could not parse statement starting at line " ++ toString line

/-- What reading the settings has to complain about. -/
def complaints (m : Machine) : List String :=
  match fileText m with
  | .ok text => (DotEnv.unreadableLines text).map complaint
  | .error _ => []

/-- The settings that are found in the places, and the machine with the complaints on standard
error. -/
def read : Build := fun values m ↦
  let found := match fileBindings m with
    | .error fault => .error fault
    | .ok file =>
      let environment := environmentBindings m.environment
      let setting := fun (ownNames names : List String) ↦
        choose (askedFor values ownNames) (firstValue environment names) (firstValue file names)
      match setting historyNames historyNames, setting ["prompt"] [promptName],
        setting ["log_level"] [logLevelName] with
      | .ok history, .ok prompt, .ok level =>
        .ok { historyFile := history.map Path.normalise
              prompt := prompt.getD "$ "
              logLevel := level.getD "WARNING" }
      | _, _, _ => .error .invalidSettings
  (found, m.printError (String.join ((complaints m).map (· ++ "\n"))).toUTF8)

end CommandShell.Settings

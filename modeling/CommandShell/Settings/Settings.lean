import CommandShell.Fault
import CommandShell.Host.Machine

/-!
# Settings

There are three settings. They are built by a library, which is a parameter here (`Build`): it is
given values for them and looks for the others in places of its own. What is relied on is the order
in which it does so (`Build.InOrder`). First come the values that it is given, then the environment,
then the `.env` file in the working directory, and the first place that has a setting decides. Names
are matched without regard to case; of several spellings of a name among the values that are given,
the first one counts.

The history file goes by three names; within one place the names are tried in a fixed order.
-/

namespace CommandShell

open CommandShell.Host

/-- The settings of a session. -/
structure Settings where
  /-- The file that the history is loaded from and saved to. -/
  historyFile : Option String := none
  /-- What is shown before each line. -/
  prompt : String := "$ "
  logLevel : String := "WARNING"
  deriving DecidableEq, Repr, Inhabited

namespace Settings

/-- A value that a caller asks for. -/
inductive Asked
  | text (value : String)
  /-- No value: the other places decide. -/
  | null
  /-- A value that is no text. -/
  | other
  deriving DecidableEq, Repr, Inhabited

def historyNames : List String := ["history_file", "PIPESHELL_HISTORY_FILE", "HISTFILE"]

def promptName : String := "PIPESHELL_PROMPT"

def logLevelName : String := "PIPESHELL_LOG_LEVEL"

/-- What a caller asks for under a name: the first value for it in any case. -/
def askedUnder (asked : List (String × Asked)) (name : String) : Option Asked :=
  (asked.find? fun a ↦ a.2 ≠ .null && a.1.toLower = name.toLower).map (·.2)

/-- What a caller asks for under the first name that has a value. -/
def askedFor (asked : List (String × Asked)) (names : List String) : Option Asked :=
  names.findSome? (askedUnder asked)

/-- The value of a variable whose name is matched without regard to case; of several the last one
counts. -/
def valueOf (bindings : List (String × Option String)) (name : String) : Option String :=
  match bindings.reverse.find? fun b ↦ b.1.toLower = name.toLower with
  | some b => b.2
  | none => none

/-- The value under the first name that has one. -/
def firstValue (bindings : List (String × Option String)) (names : List String) :
    Option String :=
  names.findSome? (valueOf bindings)

def environmentBindings (e : Environment) : List (String × Option String) :=
  e.bindings.map fun b ↦ (b.1, some b.2)

/-- One setting: what the caller asks for, else the environment, else the `.env` file. -/
def choose (asked : Option Asked) (environment file : Option String) :
    Except Fault (Option String) :=
  match asked with
  | some (.text value) => .ok (some value)
  | some _ => .error .invalidSettings
  | none => .ok (environment <|> file)

/-- The library that settings are built with: from values for them and what else it finds on a
machine it makes the settings, or it fails. It may have something to say on standard error. -/
abbrev Build := List (String × Asked) → Machine → Except Fault Settings × Machine

/-- The places are looked at in order, and within each place the names of the history file. What the
`.env` file binds may be anything. -/
def Build.InOrder (build : Build) : Prop :=
  ∀ values m settings, (build values m).1 = .ok settings →
    ∃ file value,
      choose (askedFor values historyNames)
        (firstValue (environmentBindings m.environment) historyNames)
        (firstValue file historyNames) = .ok value ∧
      settings.historyFile = value.map Path.normalise

/-- The settings that hold at this moment. What a caller asks for without a value is left out, so
that the other places decide. -/
def get (build : Build) (asked : List (String × Asked)) (m : Machine) :
    Except Fault Settings × Machine :=
  build (asked.filter fun a ↦ a.2 ≠ .null) m

end Settings

end CommandShell

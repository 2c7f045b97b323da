import CommandShell.Command.Standard
import CommandShell.Logging
import CommandShell.Session.StandardInput
import CommandShell.Text.Similarity

/-!
# The command line

The shell takes three options with a value: a line to run instead of a session, the history file,
and the prompt. A value follows its option, either as the next argument or joined to it. The option
for help has no value. There are no operands.

An argument that is no option but looks much like one is answered with the options that may be
meant.
-/

namespace CommandShell.CommandLine

open CommandShell.Host CommandShell.Pipeline

def version : String := "0.1.0"

/-- The options that there are. -/
inductive Switch
  | command
  | historyFile
  | prompt
  | help
  deriving DecidableEq, Repr, Inhabited

/-- The long names of the options, in alphabetical order. -/
def longNames : List String := ["--command", "--help", "--histfile", "--prompt"]

def Switch.named? : String → Option Switch
  | "-c" => some .command
  | "--command" => some .command
  | "--histfile" => some .historyFile
  | "--prompt" => some .prompt
  | "--help" => some .help
  | _ => none

/-- What the arguments ask for. -/
structure Options where
  command : Option String := none
  historyFile : Option String := none
  prompt : Option String := none
  help : Bool := false
  deriving DecidableEq, Repr, Inhabited

def Options.set (o : Options) (switch : Switch) (value : String) : Options :=
  match switch with
  | .command => { o with command := some value }
  | .historyFile => { o with historyFile := some value }
  | .prompt => { o with prompt := some value }
  | .help => { o with help := true }

/-- Why arguments cannot be understood. -/
inductive UsageError
  | unknownOption (name : String)
  | missingValue (name : String)
  | unexpectedValue (name : String)
  /-- The path of the history file has a NUL character. -/
  | unusableHistoryFile
  | extraArguments (args : List String)
  deriving DecidableEq, Repr, Inhabited

/-- Whether a character controls the terminal instead of being shown. -/
def isControl (c : Char) : Bool :=
  c < ' ' || ('\x7f' ≤ c && c < '\u00A0')

/-- An argument with its control characters written by their numbers. -/
def shownArgument (arg : String) : String :=
  String.ofList (arg.toList.flatMap fun c ↦ if isControl c then Text.escapeHidden c else [c])

/-- The options that may be meant by a name that no option has. Short names are not compared. -/
def meantBy (name : String) : List String :=
  if "--".toList.isPrefixOf name.toList then
    longNames.filter fun option ↦ Text.areClose option.toList name.toList
  else []

def UsageError.message : UsageError → String
  | .unknownOption name =>
    let meant := match meantBy name with
      | [] => ""
      | options => " (Possible options: " ++ String.intercalate ", " options ++ ")"
    "No such option: " ++ shownArgument name ++ meant
  | .missingValue name => "Option '" ++ name ++ "' requires an argument."
  | .unexpectedValue name => "Option '" ++ name ++ "' does not take a value."
  | .unusableHistoryFile =>
    "Invalid value for '--histfile': Value error, " ++ Fault.embeddedNul.message
  | .extraArguments args =>
    "Got unexpected extra argument(s) (" ++ String.intercalate " " (args.map shownArgument) ++ ")"

/-! ## Arguments -/

/-- An argument taken apart. -/
inductive Argument
  /-- It ends the options. -/
  | separator
  /-- An option, and its value if it is joined to it. -/
  | option (name : String) (value : Option String)
  | operand (text : String)
  deriving DecidableEq, Repr, Inhabited

/-- Takes an argument apart. A long option is joined to its value by an equals sign, a short one
directly. -/
def Argument.ofText (arg : String) : Argument :=
  match arg.toList with
  | ['-', '-'] => .separator
  | '-' :: '-' :: _ =>
    match arg.toList.span (· ≠ '=') with
    | (name, []) => .option (String.ofList name) none
    | (name, _ :: value) => .option (String.ofList name) (some (String.ofList value))
  | ['-', letter] => .option (String.ofList ['-', letter]) none
  | '-' :: letter :: value => .option (String.ofList ['-', letter]) (some (String.ofList value))
  | _ => .operand arg

def readArguments (o : Options) : List String → Except UsageError (Options × List String)
  | [] => .ok (o, [])
  | arg :: rest =>
    match Argument.ofText arg with
    | .separator => .ok (o, rest)
    | .operand text => (readArguments o rest).map fun r ↦ (r.1, text :: r.2)
    | .option name joined =>
      match Switch.named? name, joined, rest with
      | none, _, _ => .error (.unknownOption name)
      | some .help, some _, _ => .error (.unexpectedValue name)
      | some .help, none, rest => readArguments (o.set .help "") rest
      | some switch, some value, rest => readArguments (o.set switch value) rest
      | some switch, none, value :: rest => readArguments (o.set switch value) rest
      | some _, none, [] => .error (.missingValue name)

/-- What arguments ask for. -/
def Options.ofArgs (args : List String) : Except UsageError Options :=
  match readArguments {} args with
  | .error e => .error e
  | .ok (o, extra) =>
    if o.help then .ok o
    else if o.historyFile.any Path.hasNul then .error .unusableHistoryFile
    else if extra.isEmpty then .ok o
    else .error (.extraArguments extra)

/-! ## Running -/

/-- Why a call of the shell comes to no status. -/
inductive Failure
  | usage (error : UsageError)
  | fault (fault : Fault)
  deriving Inhabited

def Failure.message : Failure → String
  | .usage error => error.message
  | .fault f => f.message

def invalidSettingsStatus : Int := 2

def Options.asked (o : Options) : List (String × Settings.Asked) :=
  let value := fun (v : Option String) ↦ match v with
    | some text => Settings.Asked.text text
    | none => .null
  [("history_file", value o.historyFile), ("prompt", value o.prompt)]

/-- What the program takes from libraries: how settings are built, and how messages are shown in an
environment. -/
structure Library where
  settings : Settings.Build
  renderer : Environment → Except Fault (String → Except Fault String)

/-- Runs what the options ask for in a new session: one line, or the lines of standard input. The
log level has to be right; where lines are read, the renderer is set up first. -/
def runOptions {σ : Type} (E : Engine σ) (L : Library) (o : Options) (s : Shell) :
    Except Fault Int × Shell :=
  let logging := Logging.configure s.machine.environment (some s.settings.logLevel)
  match o.command with
  | some line =>
    match logging with
    | .error fault => (.error fault, s)
    | .ok _ =>
      let done := Session.runLine E Standard.registry s line false
      (done.outcome, done.shell)
  | none =>
    match L.renderer s.machine.environment, logging with
    | .error fault, _ => (.error fault, s)
    | .ok _, .error fault => (.error fault, s)
    | .ok render, .ok _ => Session.interactInput E Standard.registry ⟨.stream, render⟩ s

/-- Calls the shell with arguments: the status it ends with, and the machine as it leaves it. -/
def run {σ : Type} (E : Engine σ) (L : Library) (args : List String) (m : Machine) :
    Except Failure Int × Machine :=
  match Options.ofArgs args with
  | .error e => (.error (.usage e), m)
  | .ok o =>
    if o.help then (.ok 0, m)
    else
      match Settings.get L.settings o.asked m with
      | (.error .invalidSettings, machine) =>
        (.ok invalidSettingsStatus,
          machine.printError (Fault.invalidSettings.message ++ "\n").toUTF8)
      | (.error fault, machine) => (.error (.fault fault), machine)
      | (.ok settings, machine) =>
        let (outcome, s) := runOptions E L o { machine, settings }
        (outcome.mapError Failure.fault, s.machine)

end CommandShell.CommandLine

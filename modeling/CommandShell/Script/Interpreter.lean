import CommandShell.Script.Evaluation

/-!
# The interpreter of scripts

What the program does that runs scripts: it takes its variables from the environment, reads its
arguments, and runs the text among them, the file that they name, or what it reads.
-/

namespace CommandShell.Script

open CommandShell.Host CommandShell.Process CommandShell.Text

namespace State

def importVariable (s : State) (name value : String) : State :=
  if isName name then s.putVariable name (some { value := some value, exported := true }) else s

def beginVariable (s : State) (name value : String) : State :=
  let v := (s.binding? name).getD {}
  s.putVariable name (some { v with value := some value })

/-- The state in which a script begins that is called in a certain way. -/
def begun (i : Invocation) : State :=
  let s : State := { self := i.self, vars := firstVariables, cwd := i.cwd }
  let s := i.environment.bindings.foldl (fun (s : State) e ↦
    s.importVariable (Octets.ofText e.1) (Octets.ofText e.2)) s
  (s.beginVariable "IFS" standardSeparators).beginVariable "OPTIND" "1"

end State

/-- What the arguments of the interpreter ask for. -/
structure Request where
  /-- Whether the first operand is a text to be run. -/
  hasText : Bool := false
  operands : List String := []
  deriving Repr, Inhabited

namespace Sh

/-- Handles the letters of an argument of the interpreter; the answer is whether one of them
announces a text, and the arguments that are left. -/
def startLetters (on : Bool) (args : List String) : List Char → Sh (Bool × List String)
  | [] => return (false, args)
  | 'c' :: cs => do
    let (_, rest) ← startLetters on args cs
    return (true, rest)
  | 'l' :: cs => startLetters on args cs
  | 'o' :: cs => do
    let rest ← optionLetters on args ['o']
    startLetters on rest cs
  | c :: cs => do
    setOption c on
    startLetters on args cs

/-- Reads the arguments of the interpreter. -/
def startArguments : (fuel : Nat) → List String → Sh Request
  | 0, operands => return { operands }
  | _, [] => return {}
  | fuel + 1, arg :: rest => do
    let further := fun (on : Bool) (cs : List Char) ↦ do
      let (hasText, rest) ← startLetters on rest cs
      let r ← startArguments fuel rest
      return { r with hasText := r.hasText || hasText : Request }
    match arg.toList with
    | ['-'] | ['-', '-'] => return { operands := rest }
    | '-' :: cs => further true cs
    | '+' :: cs => further false cs
    | _ => return { operands := arg :: rest }

/-- Notes the working directory. The path in the environment is good if it leads there. -/
def startDirectory : Sh Unit := do
  let s ← get
  let fs ← look
  let isGood := fun (path : String) ↦
    Path.isAbsolute path &&
      (match fs.find s.cwd (Octets.text path) with
        | .ok id => id == s.cwd
        | .error _ => false)
  noteDirectory ((s.value? "PWD").filter isGood) false

/-- Goes by another name, with other parameters. -/
def goBy (self : String) (parameters : List String) : Sh Unit :=
  modify fun s ↦ { s with self, parameters }

/-- Runs what the arguments of the interpreter ask for. -/
def start (core : Core) (args : List String) : Sh Unit := do
  let (id, parent) ← call .identify
  modify fun s ↦ (({ s with process := id, parent } : State).beginVariable "PPID" (toString parent))
  startDirectory
  let r ← startArguments (args.length + 1) args
  match r.hasText, r.operands with
  | true, [] => fail "-c requires an argument"
  | true, text :: rest =>
    match rest with
    | self :: parameters => goBy self parameters
    | [] => pure ()
    checkMonitor
    let reads ← hasOption 's'
    let _ ← runText core text { exits := !reads }
    if reads then
      let _ ← runScriptFile core 0
  | false, operands =>
    if operands.isEmpty then setOption 's' true
    if ← hasOption 's' then
      modify fun s ↦ { s with parameters := operands }
      checkMonitor
      let _ ← runScriptFile core 0
    else
      let path := operands.headD ""
      let s ← get
      match ← call (.openFile s.cwd (Octets.text path) .reading) with
      | .error e => fail ("cannot open " ++ path ++ ": " ++ failureWords "No such file" e)
      | .ok opened =>
        let fd := (← setAside opened).getD opened
        goBy path operands.tail
        checkMonitor
        let _ ← runScriptFile core fd
  throw .exit

end Sh

/-- How many times commands can be nested. -/
def nestingLimit : Nat := 20000

/-- What the program does that runs scripts. -/
def interpret (launch : Launcher) (i : Invocation) : Behaviour :=
  let core : Core := { run := Sh.evaluate launch nestingLimit, launch }
  Sh.process core (Sh.start core i.args) (.begun i)

end CommandShell.Script

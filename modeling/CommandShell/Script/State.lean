import CommandShell.Process.Launching
import CommandShell.Script.Tree

/-!
# The state of a script

What the interpreter of a script keeps in mind while it runs, and the monad that it works in: a job
with a state, which commands can leave early. What a builtin writes is held back until the builtin
is through.
-/

namespace CommandShell.Script

open CommandShell.Host CommandShell.Process CommandShell.Text

/-- A variable. One without a value has attributes only. -/
structure Variable where
  value : Option String := none
  exported : Bool := false
  readOnly : Bool := false
  deriving DecidableEq, Repr, Inhabited

/-- Which commands are skipped. -/
inductive Skip
  | nothing
  /-- All up to the end of a loop. -/
  | toLoopEnd
  /-- All up to the next turn of a loop. -/
  | toNextTurn
  /-- All up to the end of a function or of a script that was read in, which leaves with a status
  of its own. -/
  | toReturn
  /-- The same, where no status was given. -/
  | toPlainReturn
  deriving DecidableEq, Repr, Inhabited

/-- What a variable or the options were before they became local. -/
inductive Remembered
  | variable (name : String) (before : Option Variable)
  | options (before : List Char)
  deriving Repr, Inhabited

/-- Processes that were started together. -/
structure Task where
  number : Nat
  /-- The processes, and how each ended, once it has. -/
  processes : List (ProcessId × Option Int)
  /-- Whether somebody has waited for the end. -/
  isAwaited : Bool := false
  deriving Repr, Inhabited

/-- What the interpreter keeps in mind. -/
structure State where
  /-- The name that the script goes by. -/
  self : String
  parameters : List String := []
  vars : List (String × Variable) := []
  functions : List (String × Tree) := []
  /-- How many functions are being run. -/
  calls : Nat := 0
  /-- Where programs were found, by the places of their directories in the search path; the flag
  tells whether that has to be looked at again. -/
  located : List (String × Nat × Bool) := []
  aliases : List (String × String) := []
  /-- The letters of the options that are on. -/
  options : List Char := []
  /-- The texts of documents, by their numbers. -/
  documents : List (Nat × Word) := []
  nextDocument : Nat := 0
  traps : List (Signal × String) := []
  /-- The signals that have come and whose traps were not run yet. -/
  pending : List Signal := []
  /-- The processes that were started, latest first. -/
  tasks : List Task := []
  /-- The last process that was started in the background. -/
  lastBackground : Option ProcessId := none
  process : ProcessId := 0
  parent : ProcessId := 0
  /-- Whether this is a process that comes from the one that runs the script. -/
  isChild : Bool := false
  umask : Nat := 0o022
  /-- The working directory, the path that it goes by, and the path without links. -/
  cwd : NodeId := FileSystem.root
  directory : String := ""
  physicalDirectory : String := ""
  status : Int := 0
  /-- The status before the commands of a trap. -/
  savedStatus : Option Int := none
  /-- The status of the last command whose output was put in. -/
  insertedStatus : Int := 0
  skip : Skip := .nothing
  /-- How many loops are left or begun anew. -/
  skippedLoops : Int := 0
  /-- How many loops are being run. -/
  loops : Nat := 0
  /-- The line that complaints are about. -/
  line : Nat := 0
  /-- The line that was come to in reading. -/
  readLine : Nat := 1
  /-- The builtin that is being run. -/
  builtin : Option String := none
  /-- What a builtin has written. -/
  output : String := ""
  /-- Whether the output of a builtin could not be written. -/
  outputFailed : Bool := false
  /-- What became local, for each function that is being run and each command with variables of its
  own, innermost first. -/
  locals : List (List Remembered) := []
  /-- Where descriptors led before redirections, innermost first: to where they were copied, or
  nowhere. -/
  redirected : List (List (Descriptor × Option Descriptor)) := []
  /-- Where complaints about a command go that is shown before it is run. -/
  traceDescriptor : Descriptor := 2
  isTracing : Bool := false
  /-- How far the options of the parameters were read: the next parameter, and what is left of the
  one before. -/
  nextOption : Nat := 1
  optionRest : Option Nat := none
  deriving Inhabited

/-- How commands are left early. -/
inductive Leave
  /-- There was an error. -/
  | failure
  /-- The process is to end. -/
  | ending
  /-- A command asked for the end. -/
  | exit
  deriving DecidableEq, Repr, Inhabited

/-- What the interpreter does. -/
abbrev Sh := ExceptT Leave (StateT State Job)

/-- How a command is run. -/
structure Flags where
  /-- Whether the process ends with it. -/
  exits : Bool := false
  /-- Whether something is made of its status. -/
  tested : Bool := false
  deriving DecidableEq, Repr, Inhabited

/-- What the interpreter is given: how commands are run, and how programs are started. -/
structure Core where
  run : Option Tree → Flags → Sh Int
  launch : Launcher

namespace Sh

variable {α : Type}

/-- A part of a program. -/
def job (j : Job α) : Sh α :=
  ExceptT.lift (StateT.lift j)

def call (c : SystemCall) : Sh c.Answer :=
  job (Job.call c)

/-- The files as they are now. -/
def look : Sh FileSystem :=
  job Job.look

/-- Lets the others go on. -/
def pause : Sh Unit :=
  call .pause

/-! ## Writing -/

/-- Writes what a builtin has written so far. -/
def flush : Sh Unit := do
  let s ← get
  if s.output != "" then
    set { s with output := "" }
    match ← job (Job.write 1 (Octets.bytes s.output)) with
    | .ok () => pure ()
    | .error _ => modify fun s ↦ { s with outputFailed := true }

/-- Writes a text of octets in a builtin. -/
def print (text : String) : Sh Unit := do
  modify fun s ↦ { s with output := s.output ++ text }
  if 8192 < (← get).output.length then flush

/-- Writes a text of octets to standard error. -/
def printError (text : String) : Sh Unit := do
  let _ ← job (Job.write 2 (Octets.bytes text))

/-- Complains. -/
def warn (message : String) : Sh Unit := do
  let s ← get
  let builtin := match s.builtin with
    | some name => name ++ ": "
    | none => ""
  printError (s.self ++ ": " ++ toString s.line ++ ": " ++ builtin ++ message ++ "\n")

def leave (how : Leave) (status : Int) : Sh α := do
  modify fun s ↦ { s with status }
  throw how

def failWith (how : Leave) (status : Int) (message : String) : Sh α := do
  modify fun s ↦ { s with status }
  warn message
  flush
  throw how

/-- Complains of an error. -/
def fail (message : String) : Sh α :=
  failWith .failure 2 message

/-- Complains of something that cannot be read. -/
def failReading (line : Nat) (message : String) : Sh α := do
  modify fun s ↦ { s with line }
  fail ("Syntax error: " ++ message)

/-- Notes the line that commands stand on. -/
def atLine (line : Nat) : Sh Unit :=
  modify fun s ↦ { s with line }

def hasOption (letter : Char) : Sh Bool :=
  return (← get).options.contains letter

/-- Runs something; the answer tells how it was left, if it was. -/
def attempt (body : Sh α) : Sh (Except Leave α) :=
  ExceptT.lift (ExceptT.run body : StateT State Job (Except Leave α))

/-- Runs something, and something else after it however it is left. -/
def andFinally (body : Sh α) (cleanUp : Sh Unit) : Sh α := do
  let outcome ← attempt body
  cleanUp
  match outcome with
  | .ok a => return a
  | .error how => throw how

end Sh

end CommandShell.Script

import CommandShell.Script.DirectoryBuiltins
import CommandShell.Script.NamingBuiltins
import CommandShell.Script.OptionBuiltins
import CommandShell.Script.Printing
import CommandShell.Script.ProcessBuiltins
import CommandShell.Script.ScriptFiles

/-!
# Builtins

The builtins by their names. Here are those that change how the script goes on: they leave loops,
functions and scripts, and run texts and files.
-/

namespace CommandShell.Script

open CommandShell.Host CommandShell.Process CommandShell.Text

namespace Sh

/-- Ends the process, perhaps with a status. -/
def exit (args : List String) : Sh Int := do
  if let some text := args.head? then
    let n ← number text
    modify fun s ↦ { s with savedStatus := some (n : Int) }
  throw .exit

/-- Leaves the innermost function or file that is being run. -/
def returnBuiltin (args : List String) : Sh Int := do
  match args with
  | text :: _ =>
    let n ← number text
    modify fun s ↦ { s with skip := .toReturn }
    return n
  | [] =>
    modify fun s ↦ { s with skip := .toPlainReturn }
    return (← get).status

/-- Leaves loops, or begins their next turn. -/
def leaveLoops (skip : Skip) (args : List String) : Sh Int := do
  let levels ← match args with
    | text :: _ => do
      let n ← number text
      if n = 0 then failNumber text
      pure n
    | [] => pure 1
  let s ← get
  let levels := min levels s.loops
  if levels != 0 then set { s with skip, skippedLoops := levels }
  return 0

/-- Runs its arguments as a text. -/
def eval (core : Core) (flags : Flags) (args : List String) : Sh Int := do
  if args.isEmpty then return 0
  runText core (String.intercalate " " args) { tested := flags.tested }

/-- The path of a file that is looked for in the search path. -/
def findScript (name : String) : Sh String := do
  if name.contains '/' then return name
  let s ← get
  let fs ← look
  match (State.programPaths s.searchPath name).find? fun p ↦ fs.isFile s.cwd (Octets.text p) with
  | some path => return path
  | none => fail (name ++ ": not found")

/-- Runs a file as a part of the script. -/
def dot (core : Core) (args : List String) : Sh Int := do
  match ← readOperands args with
  | [] => return 0
  | name :: _ =>
    let path ← findScript name
    let s ← get
    let opened ← match ← call (.openFile s.cwd (Octets.text path) .reading) with
      | .ok fd => pure fd
      | .error e => fail ("cannot open " ++ path ++ ": " ++ failureWords "No such file" e)
    let fd ← if opened < firstCopy then (·.getD opened) <$> setAside opened else pure opened
    modify fun s ↦ { s with builtin := some path }
    andFinally (runScriptFile core fd) (close fd)

/-- A program takes the place of the script, if there is one. -/
def exec (core : Core) (args : List String) : Sh Int := do
  if args.isEmpty then return 0
  becomeProgram core args none none

def runNamed (core : Core) (flags : Flags) (name : String) (args : List String) : Sh Int :=
  match name with
  | "." => dot core args
  | "[" | "test" => test name args
  | ":" | "true" => pure 0
  | "false" => pure 1
  | "alias" => setAliases args
  | "bg" | "fg" => resumeTask args
  | "break" => leaveLoops .toLoopEnd args
  | "cd" | "chdir" => cd args
  | "command" => command args
  | "continue" => leaveLoops .toNextTurn args
  | "echo" => echo args
  | "eval" => eval core flags args
  | "exec" => exec core args
  | "exit" => exit args
  | "export" | "readonly" => giveAttribute name args
  | "getopts" => getopts args
  | "hash" => hash args
  | "jobs" => jobs args
  | "kill" => kill args
  | "local" => localBuiltin args
  | "printf" => printf args
  | "pwd" => pwd args
  | "read" => read args
  | "return" => returnBuiltin args
  | "set" => setBuiltin args
  | "shift" => shift args
  | "times" => times
  | "trap" => trap args
  | "type" => type args
  | "ulimit" => ulimit args
  | "umask" => umask args
  | "unalias" => unalias args
  | "unset" => unset args
  | "wait" => wait args
  | _ => pure 0
where
  /-- Prints by a format, which has to be there. -/
  printf (args : List String) : Sh Int := do
    match ← readOperands args with
    | [] => fail "usage: printf format [arg ...]"
    | template :: args => formatted template args

/-- Runs a builtin up to its end, with its output. An error in one that is not special only gives a
status. Without a name nothing is run. -/
def runBuiltin (core : Core) (flags : Flags) (isSpecial : Bool) (argv : List String) :
    Sh Unit := do
  let before := (← get).builtin
  modify fun s ↦ { s with builtin := argv.head? }
  let outcome ← attempt do
    let status ← match argv with
      | [] => pure (← get).insertedStatus
      | name :: args => runNamed core flags name args
    flush
    if (← get).outputFailed then
      warn (argv.headD "" ++ ": I/O error")
      modify fun s ↦ { s with status := if status % 2 = 0 then status + 1 else status }
    else modify fun s ↦ { s with status }
  modify fun s ↦ { s with output := "", outputFailed := false, builtin := before }
  match outcome with
  | .ok () => pure ()
  | .error how => if how = .failure && !isSpecial then pure () else throw how

end Sh

end CommandShell.Script

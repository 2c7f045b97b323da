import CommandShell.Script.Redirecting

/-!
# What command names stand for

The name of a command is that of a function, of a builtin, or of a program in one of the directories
of the search path. Where a program was found is kept in mind until the search path changes.
-/

namespace CommandShell.Script

open CommandShell.Host CommandShell.Process CommandShell.Text

/-- The builtins that are no special ones. -/
def plainNames : List String :=
  ["alias", "bg", "cd", "chdir", "command", "echo", "false", "fg", "getopts", "hash", "jobs",
    "kill", "printf", "pwd", "read", "test", "[", "true", "type", "ulimit", "umask", "unalias",
    "wait"]

def isBuiltin (name : String) : Bool :=
  specialNames.contains name || plainNames.contains name

/-- Whether the arguments of a builtin set variables. -/
def setsVariables (name : String) : Bool :=
  ["alias", "export", "local", "readonly"].contains name

/-- What a command name stands for. -/
inductive Meaning
  /-- A program, by the place of its directory in the search path unless its name is a path. -/
  | program (place : Option Nat)
  | builtin
  | function (body : Tree)
  deriving Inhabited

namespace State

/-- The paths that a program can have, in the order in which they are tried. -/
def programPaths (searchPath name : String) : List String :=
  (splitString ':' searchPath).map fun directory ↦
    if directory = "" then name else directory ++ "/" ++ name

def function? (s : State) (name : String) : Option Tree :=
  s.functions.lookup name

/-- Where a command is known to be. -/
def location? (s : State) (name : String) : Option (Nat × Bool) :=
  s.located.lookup name

/-- The state that knows, or does not know any more, where a command is. -/
def locate (s : State) (name : String) : Option Nat → State
  | none => { s with located := s.located.filter (·.1 != name) }
  | some place =>
    if (s.location? name).isSome then
      { s with
        located := s.located.map fun l ↦ if l.1 == name then (name, place, false) else l }
    else { s with located := s.located ++ [(name, place, false)] }

/-- The state that knows a function, or does not know one any more. -/
def define (s : State) (name : String) (f : Option Tree) : State :=
  let others := s.functions.filter (·.1 != name)
  let functions := others ++ f.toList.map fun body ↦ (name, body)
  { s with functions }.locate name none

/-- The state that looks again where commands are, because the working directory changed. -/
def unsettleCommands (s : State) : State :=
  { s with located := s.located.map fun l ↦ (l.1, l.2.1, true) }

end State

/-- Looks for a program under some paths, numbered from `place` on. A path up to the place where it
was before need not be looked at unless it is a relative one. What comes with a failure is the
reason. -/
def searchProgram (fs : FileSystem) (cwd : NodeId) (before : Option Nat) (place : Nat)
    (reason : Errno) : List String → Except Errno Nat
  | [] => .error reason
  | path :: rest =>
    let skipped := Path.isAbsolute path && before.any (place < ·)
    let known := Path.isAbsolute path && before = some place
    if known then .ok place
    else if skipped then searchProgram fs cwd before (place + 1) reason rest
    else match fs.lookUp cwd (Octets.text path) with
      | .ok (_, n) =>
        if n.isRegular then .ok place else searchProgram fs cwd before (place + 1) .access rest
      | .error e =>
        let reason := if e = .noEntry ∨ e = .notDirectory then reason else e
        searchProgram fs cwd before (place + 1) reason rest

namespace Sh

/-- Finds out what a command name stands for. Without a search path of its own that of the script
is used, and where the program is is kept in mind. -/
def findCommand (name : String) (functions : Bool := true) (path : Option String := none)
    (complains : Bool := false) : Sh (Option Meaning) := do
  if name.contains '/' then return some (.program none)
  let s ← get
  if functions then
    if let some f := s.function? name then return some (.function f)
  if isBuiltin name then return some .builtin
  let known := if path.isSome then none else s.location? name
  let keeps := path.isNone && (functions || (s.function? name).isNone)
  match known with
  | some (place, false) => return some (.program (some place))
  | _ =>
    let before := known.map (·.1)
    let paths := State.programPaths (path.getD s.searchPath) name
    match searchProgram (← look) s.cwd before 0 .noEntry paths with
    | .ok place =>
      if keeps then modify fun s ↦ s.locate name (some place)
      return some (.program (some place))
    | .error e =>
      if keeps then modify fun s ↦ s.locate name none
      if complains then warn (name ++ ": " ++ failureWords "not found" e)
      return none

/-- Starts a file as a program. One in no known format is taken for a script. -/
def launchFile (core : Core) (fs : FileSystem) (i : Invocation) (path : String) :
    Except Errno Behaviour :=
  let shell := "/bin/sh"
  match core.launch fs i (Octets.text path) with
  | .error .execFormat =>
    if path = shell then .error .execFormat
    else core.launch fs { i with argv := shell :: path :: i.args } shell
  | found => found

/-- The status for a program that cannot be started. -/
def unstartedStatus (e : Errno) : Int :=
  if [.loop, .nameTooLong, .noEntry, .notDirectory].contains e then 127 else 126

/-- A program takes the place of this process, the first one that can be started under the paths of
its name from some place on. -/
def becomeProgram {α : Type} (core : Core) (argv : List String) (path : Option String)
    (place : Option Nat) : Sh α := do
  let s ← get
  let name := argv.headD ""
  let paths := if name.contains '/' then [name]
    else (State.programPaths (path.getD s.searchPath) name).drop (place.getD 0)
  let i : Invocation := { argv, environment := s.environment, cwd := s.cwd }
  let fs ← look
  match firstOf (launchFile core fs i) .noEntry paths with
  | .ok program => job (Job.become program)
  | .error e =>
    failWith .ending (unstartedStatus e) (name ++ ": " ++ failureWords "not found" e)
where
  /-- The first success, or else the last reason that is more than the lack of a file. -/
  firstOf (launch : String → Except Errno Behaviour) (reason : Errno) :
      List String → Except Errno Behaviour
    | [] => .error reason
    | path :: rest =>
      match launch path with
      | .ok b => .ok b
      | .error e =>
        firstOf launch (if e = .noEntry ∨ e = .notDirectory then reason else e) rest

end Sh

end CommandShell.Script

import CommandShell.Command.Builtin
import CommandShell.Command.Executable

/-!
# Stages

A stage is a command with what it takes to run it and its place in the pipeline. `buildStages` is
all or nothing: the leftmost command whose name means nothing keeps every stage from being built.
-/

namespace CommandShell

open CommandShell.Host CommandShell.Line

/-- What a stage runs. -/
inductive Work
  /-- A builtin; there may be nothing behind its name. -/
  | builtin (handler : Option (Call → Shell → Reply × Shell))
  /-- A program; without a path its name is looked for when it is started. -/
  | external (executable : Option String)
  deriving Inhabited

/-- A command and its place in a pipeline. -/
structure Stage where
  command : Command
  work : Work
  position : Nat
  isFirst : Bool
  isLast : Bool
  deriving Inhabited

namespace Stage

/-- What the command of a name runs. -/
def workOf (r : Registry) (m : Machine) (name : String) : Except Fault Work :=
  match Command.meaningOf r.registered m name with
  | .error fault => .error fault
  | .ok .builtin => .ok (.builtin ((r.get? name).map (·.handler)))
  | .ok (.external path) => .ok (.external (some path))
  | .ok .unknown => .error (.commandNotFound name)

def buildFrom (r : Registry) (m : Machine) (position length : Nat) :
    List Command → Except Fault (List Stage)
  | [] => .ok []
  | command :: rest =>
    match workOf r m command.name with
    | .error fault => .error fault
    | .ok work =>
      match buildFrom r m (position + 1) length rest with
      | .error fault => .error fault
      | .ok stages =>
        .ok ({ command, work, position
               isFirst := position == 0
               isLast := position + 1 == length } :: stages)

end Stage

def buildStages (r : Registry) (m : Machine) (commands : List Command) :
    Except Fault (List Stage) :=
  Stage.buildFrom r m 0 commands.length commands

end CommandShell

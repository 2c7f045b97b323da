import CommandShell.History.Log
import CommandShell.Settings.Settings

/-!
# Builtins and the shell that runs them

`Shell` is what a command line can change: the machine, the history, the request to exit and the
last status. A builtin is a name and a handler, and a handler is a function of a call and the
shell: it answers with a reply and the shell as it leaves it. What a builtin writes is part of its
reply; whoever runs it decides what becomes of that.
-/

namespace CommandShell

open CommandShell.Host

/-- What a command line can look at and change. -/
structure Shell where
  machine : Machine := {}
  history : HistoryLog := {}
  settings : Settings := {}
  /-- The status of the last line that came to its end. -/
  lastStatus : Int := 0
  /-- The status that the shell was asked to end with. -/
  exitRequest : Option Int := none
  deriving Inhabited

namespace Shell

/-- The status that the shell ends with: the one asked for, or else that of the last line. -/
def exitStatus (s : Shell) : Int :=
  s.exitRequest.getD s.lastStatus

def print (s : Shell) (text : String) : Shell :=
  { s with machine := s.machine.print text.toUTF8 }

def printError (s : Shell) (text : String) : Shell :=
  { s with machine := s.machine.printError text.toUTF8 }

/-- Prints a message on standard error, on a line of its own. -/
def report (s : Shell) (message : String) : Shell :=
  s.printError (message ++ "\n")

end Shell

/-- How a builtin is called. -/
structure Call where
  args : List String
  /-- Whether the builtin is one stage of several. -/
  inPipeline : Bool
  /-- The names of all builtins of the session. -/
  registered : List String
  deriving Repr, Inhabited

/-- What a builtin answers. -/
inductive Reply
  /-- It came to its end with a status; what it wrote to each stream. -/
  | returned (status : Int) (output errors : String)
  /-- It failed; what it had written to each stream by then. -/
  | raised (fault : Fault) (output : String := "") (errors : String := "")
  deriving Inhabited

/-- A command that the shell runs itself. The last status belongs to the session: a builtin can look
at it, but what it has to say about itself is the status in its reply. -/
structure Builtin where
  name : String
  handler : Call → Shell → Reply × Shell
  lastStatus_eq : ∀ call s, (handler call s).2.lastStatus = s.lastStatus

/-- The builtins of a session, in the order in which their names were registered. -/
structure Registry where
  builtins : List Builtin := []

namespace Registry

def get? (r : Registry) (name : String) : Option Builtin :=
  r.builtins.find? fun b ↦ b.name == name

/-- The registry with one more builtin; it takes the place of one of the same name. -/
def register (r : Registry) (b : Builtin) : Registry :=
  if (r.get? b.name).isSome then
    ⟨r.builtins.map fun other ↦ if other.name = b.name then b else other⟩
  else ⟨r.builtins ++ [b]⟩

/-- The names of the builtins as they were registered. -/
def registered (r : Registry) : List String :=
  r.builtins.map (·.name)

/-- The names of the builtins in the order of their code points. -/
def names (r : Registry) : List String :=
  r.registered.mergeSort fun a b ↦ !decide (b < a)

theorem get?_eq_none_iff (r : Registry) (name : String) :
    r.get? name = none ↔ name ∉ r.registered := by
  simp [get?, registered, List.find?_eq_none]

end Registry

end CommandShell

import CommandShell.Command.Builtin

/-!
# The history file of a session

The history is loaded from a file when the session begins and written back when it ends. A file that
does not exist is no fault; one that cannot be used is reported, and the session goes on.
-/

namespace CommandShell.Session

open CommandShell.Host

def afterFileUse (s : Shell) : Except Fault Shell → Except Fault Shell
  | .error (.history fault) => .ok (s.report fault.message)
  | used => used

/-- Whether the history file is there. A path that leads nowhere is no fault, but one that the
system refuses is. -/
def historyFileExists (m : Machine) (path : String) : Except Fault Bool :=
  if Path.hasNul path then .ok false
  else match m.files.find m.cwd path with
    | .ok _ => .ok true
    | .error .noEntry => .ok false
    | .error .notDirectory => .ok false
    | .error .loop => .ok false
    | .error cause => .error (.system cause (some path))

def loadHistory (s : Shell) : Except Fault Shell :=
  match s.settings.historyFile with
  | none => .ok s
  | some path =>
    match historyFileExists s.machine path with
    | .error fault => .error fault
    | .ok false => .ok s
    | .ok true =>
      afterFileUse s ((s.history.load s.machine path true).map fun r ↦ { s with history := r.1 })

/-- Writes the whole history over the history file. -/
def flushHistory (s : Shell) : Except Fault Shell :=
  match s.settings.historyFile with
  | none => .ok s
  | some path =>
    let saved := s.history.save s.machine path
    let left := { s with machine := saved.2 }
    afterFileUse left (saved.1.map fun history ↦ { left with history })

/-- Ends the session: the status it ends with, and the shell after the history was written. -/
def finish (s : Shell) : Except Fault (Int × Shell) :=
  (flushHistory s).map fun s ↦ (s.exitStatus, s)

/-- Asks the session to end with a status. -/
def requestExit (s : Shell) (status : Int) : Shell :=
  { s with exitRequest := some status }

end CommandShell.Session

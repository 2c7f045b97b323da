import CommandShell.Pipeline.Execution
import CommandShell.Text.Blank

/-!
# Running a line

A line is trimmed, parsed and turned into stages, and only when all of that has succeeded is
anything run. A line that is no pipeline and a command that does not exist are reported and have a
status of their own; every other fault passes on to the caller. Whatever becomes of it, a line that
is not blank joins the history afterwards, unless it is not to be recorded.
-/

namespace CommandShell

open CommandShell.Pipeline

/-- What comes of a line. -/
structure LineRun (σ : Type) where
  /-- The status, or the fault that passes on. -/
  outcome : Except Fault Int
  shell : Shell
  /-- The pipeline that was run, if it came to that. -/
  run : Option (Run σ) := none

namespace Session

variable {σ : Type}

/-- The status of a line with a command that does not exist. -/
def notFoundStatus : Int := 127

/-- The status of a line that is no pipeline. -/
def parseErrorStatus : Int := 2

def settled (s : Shell) (status : Int) (run : Option (Run σ) := none) : LineRun σ :=
  { outcome := .ok status, shell := { s with lastStatus := status }, run }

/-- Runs the text of a line that is neither blank nor to be trimmed. -/
def runText (E : Engine σ) (r : Registry) (s : Shell) (text : String) : LineRun σ :=
  match Line.parse text with
  | .error e => settled (s.report e.message) parseErrorStatus
  | .ok parsed =>
    match buildStages r s.machine parsed.commands with
    | .error (.commandNotFound name) =>
      settled (s.print ((Fault.commandNotFound name).message ++ "\n")) notFoundStatus
    | .error fault => { outcome := .error fault, shell := s }
    | .ok stages =>
      match Pipeline.run E r.registered stages parsed.redirection s with
      | (.ok status, run) => settled run.shell status (some run)
      | (.error fault, run) => { outcome := .error fault, shell := run.shell, run := some run }

def record (s : Shell) (text : String) : Shell :=
  { s with history := s.history.append text }

/-- Runs a line. A blank one does nothing and has the last status. -/
def runLine (E : Engine σ) (r : Registry) (s : Shell) (line : String) (recorded : Bool := true) :
    LineRun σ :=
  let text := Text.trimString line
  if text = "" then { outcome := .ok s.lastStatus, shell := s }
  else
    let done := runText E r s text
    if recorded then { done with shell := record done.shell text } else done

theorem runLine_blank (E : Engine σ) (r : Registry) (s : Shell) {line : String}
    (h : Text.trimString line = "") (recorded : Bool) :
    runLine E r s line recorded = { outcome := .ok s.lastStatus, shell := s } := by
  simp [runLine, h]

@[simp] theorem lastStatus_record (s : Shell) (text : String) :
    (record s text).lastStatus = s.lastStatus := rfl

end Session

end CommandShell

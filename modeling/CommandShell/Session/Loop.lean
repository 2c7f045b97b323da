import CommandShell.Session.HistoryFile
import CommandShell.Session.Line
import CommandShell.Text.Lines

/-!
# The interactive loop

The loop is a fold over what the user enters: lines, and interrupts at the prompt. It ends when exit
is asked for or the input is at its end. A fault of a line is shown as a message, an interrupt is
not, and neither ends the loop. The history is loaded before the first line and written after the
last.

What a message looks like is up to whoever shows it: a `Frontend` brings its renderer along.
-/

namespace CommandShell

open CommandShell.Pipeline

/-- What the user enters at a prompt. -/
inductive Entry
  | line (text : String)
  | interrupt
  deriving DecidableEq, Repr, Inhabited

/-- How the lines of a loop are read. -/
inductive Reader
  /-- From a stream: the prompt is written to standard output. -/
  | stream
  /-- From a terminal, which shows the prompt itself. -/
  | terminal
  deriving DecidableEq, Repr, Inhabited

/-- How a loop meets its user. -/
structure Frontend where
  reader : Reader
  /-- The text that shows a message on standard error, unless the renderer fails. -/
  render : String → Except Fault String

namespace Session

variable {σ : Type}

/-- The lines that a text gives a loop; a last line without a line end counts. -/
def streamEntries (text : String) : List Entry :=
  let pieces := Text.lines text.toList
  let whole := if pieces.getLast? = some [] then pieces.dropLast else pieces
  whole.map fun cs ↦ .line (String.ofList cs)

def showPrompt (f : Frontend) (s : Shell) : Shell :=
  match f.reader with
  | .stream => s.print s.settings.prompt
  | .terminal => s

/-- The shell after a line: a fault is shown, unless it is an interrupt. If that fails, it is a
fault of the loop. -/
def afterLine (f : Frontend) (done : LineRun σ) : Except Fault Unit × Shell :=
  match done.outcome with
  | .ok _ => (.ok (), done.shell)
  | .error .interrupted => (.ok (), done.shell)
  | .error fault =>
    match f.render fault.message with
    | .ok text => (.ok (), done.shell.printError text)
    | .error unshown => (.error unshown, done.shell)

def enter (E : Engine σ) (r : Registry) (f : Frontend) (s : Shell) :
    Entry → Except Fault Unit × Shell
  | .interrupt => (.ok (), s)
  | .line text => afterLine f (runLine E r s text)

def loop (E : Engine σ) (r : Registry) (f : Frontend) (s : Shell) :
    List Entry → Except Fault Unit × Shell
  | [] => (.ok (), if s.exitRequest.isSome then s else showPrompt f s)
  | entry :: rest =>
    if s.exitRequest.isSome then (.ok (), s)
    else match enter E r f (showPrompt f s) entry with
      | (.ok (), s) => loop E r f s rest
      | (.error fault, s) => (.error fault, s)

theorem loop_of_exitRequest (E : Engine σ) (r : Registry) (f : Frontend) {s : Shell}
    (h : s.exitRequest.isSome = true) (entries : List Entry) :
    loop E r f s entries = (.ok (), s) := by
  cases entries <;> simp [loop, h]

theorem loop_cons (E : Engine σ) (r : Registry) (f : Frontend) {s t : Shell}
    (h : s.exitRequest = none) {entry : Entry} (rest : List Entry)
    (he : enter E r f (showPrompt f s) entry = (.ok (), t)) :
    loop E r f s (entry :: rest) = loop E r f t rest := by
  simp [loop, h, he]

/-- Runs a session from its beginning to its end, with a loop between: the status it ends with, and
the shell as it is left. -/
def within (s : Shell) (body : Shell → Except Fault Unit × Shell) : Except Fault Int × Shell :=
  match loadHistory s with
  | .error fault => (.error fault, s)
  | .ok s =>
    match body s with
    | (.error fault, s) => (.error fault, s)
    | (.ok (), s) =>
      match finish s with
      | .error fault => (.error fault, s)
      | .ok (status, s) => (.ok status, s)

/-- Runs a session in which all entries are there already. -/
def interact (E : Engine σ) (r : Registry) (f : Frontend) (s : Shell) (entries : List Entry) :
    Except Fault Int × Shell :=
  within s fun s ↦ loop E r f s entries

end Session

end CommandShell

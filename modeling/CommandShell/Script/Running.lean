import CommandShell.Script.CommandReading
import CommandShell.Script.Descriptors
import CommandShell.Script.Variables

/-!
# Running texts

Commands are read from a text one at a time, and each is run before the next one is read, because
what it does can change how the next one is read. The traps of signals are such texts, and so is the
trap that is run at the end of a process.
-/

namespace CommandShell.Script

open CommandShell.Process

/-- A text that commands are read from. -/
structure Source where
  layers : List Layer
  line : Nat := 1
  /-- Whether no more of the text is to come. -/
  complete : Bool := true
  deriving Inhabited

/-- A whole text to read commands from. -/
def Source.ofText (text : String) : Source where
  layers := [{ text := text.toList }]

/-- Notes how commands are left that have an end of their own. -/
def State.settle (s : State) (how : Option Leave) : State :=
  let status := match s.savedStatus with
    | some saved => if how = some .exit || s.skip = .toPlainReturn then saved else s.status
    | none => s.status
  { s with status, savedStatus := none, skip := .nothing, loops := 0, isTracing := false }

namespace Sh

/-- Reads the next command of a text. There is none if more of the text is needed. -/
def readNext (source : Source) : Sh (Option (Parse.Found × Source)) := do
  let s ← get
  let reader : Reader :=
    { layers := source.layers, complete := source.complete, line := source.line
      documents := s.documents, nextDocument := s.nextDocument, aliases := s.aliases }
  match Parse.completeCommand.run reader with
  | .ok (found, r) =>
    set { s with documents := r.documents, nextDocument := r.nextDocument, readLine := r.line }
    return some (found, { source with layers := r.layers, line := r.line })
  | .error .needsMore => return none
  | .error (.mistake line message) => failReading line message

def runFound (core : Core) (flags : Flags) (status : Int) : Parse.Found → Sh Int
  | .command tree isLast => core.run (some tree) { flags with exits := flags.exits && isLast }
  | .blank => do
    let _ ← core.run none { flags with exits := false }
    return status
  | .nothing => return status

/-- Runs the commands of a text up to its end; the answer is the status of the last one. -/
def runSource (core : Core) (flags : Flags) : (fuel : Nat) → Source → (status : Int) → Sh Int
  | 0, _, status => return status
  | fuel + 1, source, status => do
    match ← readNext source with
    | none | some (.nothing, _) => return status
    | some (found, source) =>
      let status ← runFound core flags status found
      if (← get).skip = .nothing then runSource core flags fuel source status
      else return status

def runText (core : Core) (text : String) (flags : Flags := {}) : Sh Int := do
  let before := (← get).readLine
  andFinally (runSource core flags endurance (.ofText text) 0)
    (modify fun s ↦ { s with readLine := before })

/-! ## Traps -/

/-- Whether there is a trap with something to be done. -/
def hasTraps : Sh Bool :=
  return (← get).traps.any fun t ↦ t.2 != ""

/-- Takes note of the signals that have come. -/
def noticeSignals : Sh Unit := do
  if (← get).traps.any fun t ↦ t.1 != 0 && t.2 != "" then
    let signals ← call .takeSignals
    modify fun s ↦
      { s with pending := s.pending ++ signals.filter fun n ↦ !s.pending.contains n }

def runTrapsOf (core : Core) (status : Int) : List Signal → Sh Unit
  | [] => pure ()
  | signal :: rest => do
    let s ← get
    if s.skip != .nothing then set { s with pending := signal :: rest ++ s.pending }
    else
      if let some action := s.traps.lookup signal then
        let _ ← runText core action
        modify fun s ↦ { s with status := if s.skip = .toReturn then s.status else status }
      runTrapsOf core status rest

/-- Runs the traps of the signals that have come. The status is the same afterwards, unless a trap
returns one. -/
def runTraps (core : Core) : Sh Unit := do
  noticeSignals
  let s ← get
  if !s.pending.isEmpty then
    let status := s.savedStatus.getD s.status
    set { s with pending := [], savedStatus := some status }
    runTrapsOf core status (s.pending.mergeSort fun a b ↦ a ≤ b)
    modify fun now ↦ { now with savedStatus := s.savedStatus }

/-! ## Processes -/

/-- Puts things right when commands with an end of their own are left. -/
def settle (how : Option Leave) : Sh Unit := do
  unwindDescriptors 0
  modify fun s ↦ s.settle how

/-- Ends a process. The trap for that is run, and the answer is the status of the process. -/
def finish (core : Core) (how : Option Leave) : Sh Int := do
  settle how
  let s ← get
  set { s with savedStatus := some s.status, traps := s.traps.filter (·.1 != 0) }
  if let some action := s.traps.lookup 0 then
    match ← attempt (runText core action) with
    | .ok _ =>
      modify fun s ↦ { s with skip := .toPlainReturn }
      settle none
    | .error how => settle (some how)
  flush
  return (← get).status

/-- What a process does that runs something and then ends. -/
def process (core : Core) (body : Sh Unit) (s : State) : Behaviour :=
  Job.behaviour do
    let work : Sh Int := do
      match ← attempt body with
      | .ok () => finish core none
      | .error how => finish core (some how)
    let (result, _) ← work.run s
    return match result with
      | .ok status => status % 256
      | .error _ => 2

end Sh

end CommandShell.Script

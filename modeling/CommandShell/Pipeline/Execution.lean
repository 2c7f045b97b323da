import CommandShell.Pipeline.Run

/-!
# Running a pipeline

First the targets of the redirection are opened, standard output before standard error; a target
that cannot be opened only costs a message. Then the stages are started from left to right. An
external stage becomes a process, which gets a pipe for what the stage before it has to say. A
builtin stage runs at once: it closes the link into it unread, and what it prints is handed on or
delivered when it is through. At last the processes and copies go on until all are done, and the
status is that of the last stage.

However a run ends, the processes that are left are killed and waited for, and what the shell holds
open is closed.
-/

namespace CommandShell.Pipeline

open CommandShell.Host CommandShell.Line

/-- How pipelines run: the programs there are, the turns that the workers get after each stage is
started, and how long they are waited for. -/
structure Engine (σ : Type) where
  programs : Programs σ
  /-- The turns after the start of the stage at a position. -/
  interleaving : Nat → List Run.Turn := fun _ ↦ []
  /-- The greatest number of rounds until all is done. -/
  patience : Nat := 100000000

/-- The status of a stage whose program cannot be started. -/
def notStartedStatus : Int := 126

/-- The status of a process that the shell kills. -/
def killedStatus : Int := -9

/-- The status of a stage as far as it is known. -/
inductive StageStatus
  | known (status : Int)
  /-- It will be that of a process. -/
  | ofProcess (id : Nat)
  deriving DecidableEq, Repr, Inhabited

namespace Run

variable {σ : Type}

/-! ## Redirections -/

/-- Opens the target of a stream. The answer is what was opened, or none if there is no target or it
cannot be opened. -/
def openTarget (r : Run σ) : Option Target → Except Fault (Option Outlet) × Run σ
  | none => (.ok none, r)
  | some target =>
    if Path.hasNul target.path then (.error .embeddedNul, r)
    else
      match r.shell.machine.openOutlet target.path target.append with
      | .ok (machine, outlet) =>
        let r := r.changeMachine fun _ ↦ machine
        (.ok (some outlet),
          { r with opened := r.opened ++ [outlet] }.note (.opened target.path outlet))
      | .error _ =>
        (.ok none, { r with shell := r.shell.report (Fault.redirection target.path).message }
          |>.note (.refused target.path))

def closeFiles (r : Run σ) : Run σ :=
  r.changeMachine fun m ↦ r.opened.foldl Machine.closeOutlet m

/-- The sink of a stream: what was opened for it, or else what the shell has. -/
def sinkOr (opened : Option Outlet) (otherwise : Outlet) : Sink :=
  .outlet (opened.getD otherwise)

/-- Delivers what a builtin wrote; if it wrote nothing, nothing is written. -/
def deliver (r : Run σ) (sink : Sink) (text : String) : Except Fault Unit × Run σ :=
  if text = "" then (.ok (), r)
  else
    match r.write sink text.toUTF8 with
    | (.ok (), r) => (.ok (), r)
    | (.error cause, r) => (.error (.system cause), r)

/-! ## Starting stages -/

/-- What was opened for the last stage to write to; every other stage has nothing. -/
structure Targets where
  output : Option Outlet := none
  errors : Option Outlet := none
  deriving Repr, Inhabited

def closeIncoming (r : Run σ) (position : Nat) : Option Link → Run σ
  | some link => (r.closeLink link).note (.closedLink position)
  | none => r

/-- What a stage leaves behind: its link to the next stage and its status. -/
abbrev Started := Option Link × StageStatus

def runBuiltin (r : Run σ) (registered : List String) (stage : Stage)
    (handler : Option (Call → Shell → Reply × Shell)) (incoming : Option Link)
    (targets : Targets) :
    Except Fault Started × Run σ :=
  let r := r.closeIncoming stage.position incoming
  match handler with
  | none => (.error (.noHandler stage.command.name), r)
  | some handler =>
    let call : Call :=
      { args := stage.command.arguments
        inPipeline := !(stage.isFirst && stage.isLast)
        registered }
    let r := r.note (.handled stage.position)
    match handler call r.shell with
    | (.raised fault _ _, shell) => (.error fault, { r with shell })
    | (.returned status output errors, shell) =>
      match { r with shell }.deliver (sinkOr targets.errors .errors) errors with
      | (.error fault, r) => (.error fault, r)
      | (.ok (), r) =>
        if stage.isLast then
          match r.deliver (sinkOr targets.output .output) output with
          | (.error fault, r) => (.error fault, r)
          | (.ok (), r) => (.ok (none, .known status), r)
        else (.ok (some (.ready output.toUTF8), .known status), r)

/-- The pipe that a stage writes to, unless it is the last one. -/
def addOutputPipe (r : Run σ) (stage : Stage) : Run σ × Option Nat :=
  if stage.isLast then (r, none)
  else
    let added := r.addPipe { shellReads := true, shellWrites := true }
    (added.1, some added.2)

/-- Gives up the shell's end for writing of a stage's output pipe. -/
def closeWriteEnd (r : Run σ) : Option Nat → Run σ
  | some id => r.changePipe id fun p ↦ { p with shellWrites := false }
  | none => r

/-- Nobody is left who would close the shell's end for reading of a stage's output pipe. -/
def forgetReadEnd (r : Run σ) : Option Nat → Run σ
  | some _ => r.changeMachine Machine.forgetReadEnd
  | none => r

/-- The streams of the process of a stage. Its input is a pipe of its own if a link leads into it,
and that pipe is the next one to be made. -/
def streamsOf (r : Run σ) (incoming : Option Link) (pipe : Option Nat) (targets : Targets) :
    Streams where
  input := match incoming with
    | some _ => .pipe r.pipes.size
    | none => .shellInput
  output := match pipe with
    | some id => .pipe id
    | none => sinkOr targets.output .output
  errors := sinkOr targets.errors .errors

/-- The run with one more process for a stage, and with the copy that feeds it. -/
def addProcess (r : Run σ) (stage : Stage) (state : σ) (incoming : Option Link)
    (pipe : Option Nat) (streams : Streams) : Run σ :=
  let r := match incoming with
    | none => r
    | some link =>
      let (r, id) := r.addPipe { shellWrites := true, programReads := true }
      { r with copies := r.copies.push { link, pipe := id } }
  let r := match pipe with
    | some id => r.changePipe id fun p ↦ { p with programWrites := true }
    | none => r
  { r with processes := r.processes.push { position := stage.position, state, streams } }
    |>.note (.started stage.position r.processes.size)

/-- Starts an external stage. A program that cannot be started is reported; the stage before it
loses its reader, and the stage after it gets an empty input. -/
def startExternal (P : Programs σ) (r : Run σ) (stage : Stage) (executable : Option String)
    (incoming : Option Link) (targets : Targets) : Except Fault Started × Run σ :=
  let (r, pipe) := r.addOutputPipe stage
  let streams := r.streamsOf incoming pipe targets
  let path := executable.getD stage.command.name
  if (path :: stage.command.argv).any Path.hasNul then
    (.error .embeddedNul, (r.closeWriteEnd pipe).forgetReadEnd pipe)
  else match P.start r.shell.machine streams path stage.command.argv with
    | .ok state =>
      let id := r.processes.size
      let r := (r.addProcess stage state incoming pipe streams).closeWriteEnd pipe
      (.ok (pipe.map Link.stream, .ofProcess id), r)
    | .error reason =>
      let r := match pipe with
        | some id => r.closeLink (.stream id)
        | none => r
      let r := (r.closeIncoming stage.position incoming).closeWriteEnd pipe
      let message := "shell: " ++ stage.command.name ++ ": " ++ reason.message
      let r := { r with shell := r.shell.report message }
        |>.note (.notStarted stage.position reason)
      let link := if stage.isLast then none else some (.ready ByteArray.empty)
      (.ok (link, .known notStartedStatus), r)

def startStage (P : Programs σ) (registered : List String) (r : Run σ) (stage : Stage)
    (incoming : Option Link) (targets : Targets) : Except Fault Started × Run σ :=
  let targets := if stage.isLast then targets else {}
  match stage.work with
  | .external executable => r.startExternal P stage executable incoming targets
  | .builtin handler => r.runBuiltin registered stage handler incoming targets

/-- Starts the stages from left to right. The answer is the status of each, as far as it is known;
the link that no stage took comes with it. -/
def startAll (E : Engine σ) (registered : List String) (targets : Targets) :
    List Stage → Option Link → Run σ → Except Fault (List StageStatus) × Option Link × Run σ
  | [], incoming, r => (.ok [], incoming, r)
  | stage :: rest, incoming, r =>
    match r.startStage E.programs registered stage incoming targets with
    | (.error fault, r) => (.error fault, incoming, r)
    | (.ok (link, status), r) =>
      let r := r.turns E.programs (E.interleaving stage.position)
      match startAll E registered targets rest link r with
      | (.error fault, left, r) => (.error fault, left, r)
      | (.ok statuses, left, r) => (.ok (status :: statuses), left, r)

/-! ## Ending the run -/

def resolve (r : Run σ) : StageStatus → Option Int
  | .known status => some status
  | .ofProcess id =>
    match r.processes[id]? with
    | some p => p.status
    | none => none

def lastStatus (r : Run σ) (statuses : List StageStatus) : Except Fault Int :=
  match statuses.getLast? with
  | none => .ok 0
  | some status =>
    match r.resolve status with
    | some s => .ok s
    | none => .error .stalled

/-- Ends the copies that are not finished. -/
def cancelCopies (r : Run σ) : Run σ :=
  (List.range r.copies.size).foldl (fun r id ↦
    match r.copies[id]? with
    | some c => if c.finished then r else r.finishCopy id c
    | none => r) r

/-- Kills the processes that are left, and waits for all. -/
def reap (r : Run σ) : Run σ :=
  (List.range r.processes.size).foldl (fun r id ↦
    match r.processes[id]? with
    | some p =>
      let p := { p with reaped := true }
      match p.status with
      | some status => r.endProcess id p status
      | none => r.endProcess id p killedStatus
    | none => r) r

/-- Leaves nothing behind: the link that no stage took, the copies and the processes. -/
def cleanUp (r : Run σ) (left : Option Link) : Run σ :=
  let r := match left with
    | some link => r.closeLink link
    | none => r
  r.cancelCopies.reap

end Run

variable {σ : Type}

/-- Runs the stages of a pipeline whose redirection targets are open. -/
def runStages (E : Engine σ) (registered : List String) (stages : List Stage) (targets : Run.Targets)
    (r : Run σ) : Except Fault Int × Run σ :=
  match Run.startAll E registered targets stages none r with
  | (.error fault, left, r) => (.error fault, r.cleanUp left)
  | (.ok statuses, left, r) =>
    let r := r.settle E.programs E.patience
    (if r.isDone then r.lastStatus statuses else .error .stalled, r.cleanUp left)

/-- Runs a pipeline: the status of its last stage, and the run as it was left. -/
def run (E : Engine σ) (registered : List String) (stages : List Stage) (redirection : Redirection)
    (shell : Shell) : Except Fault Int × Run σ :=
  match ({ shell : Run σ }).openTarget redirection.output with
  | (.error fault, r) => (.error fault, r.closeFiles)
  | (.ok output, r) =>
    match r.openTarget redirection.errors with
    | (.error fault, r) => (.error fault, r.closeFiles)
    | (.ok errors, r) =>
      match runStages E registered stages { output, errors } r with
      | (result, r) => (result, r.closeFiles)

end CommandShell.Pipeline

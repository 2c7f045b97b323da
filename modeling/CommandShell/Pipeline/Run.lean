import CommandShell.Command.Stage
import CommandShell.Pipeline.Program

/-!
# The state of a running pipeline

A pipeline that runs holds pipes, open files, processes and copies. A process reads from the shell's
own standard input or from a pipe, and writes to the shell's own streams, a pipe or a file. Between
two stages there is no pipe that both share: what an external stage writes goes into a pipe that the
shell reads, and a copy carries it into the pipe that the next stage reads. So there are always two
ends in the shell's hands, and both have to be closed in the end.

Here are the state and the moves of the two kinds of worker, processes and copies. A move is a turn
of one worker, and says how much it may take at once; every schedule is a list of turns.
-/

namespace CommandShell.Pipeline

open CommandShell.Host CommandShell.Line

/-- A pipe, and who holds its ends. -/
structure Pipe where
  /-- Everything that was written so far. -/
  data : ByteArray := ByteArray.empty
  /-- How many bytes of it were read. -/
  taken : Nat := 0
  shellReads : Bool := false
  shellWrites : Bool := false
  programReads : Bool := false
  programWrites : Bool := false
  deriving Inhabited

namespace Pipe

/-- Whether somebody can still read. -/
def hasReader (p : Pipe) : Bool :=
  p.shellReads || p.programReads

/-- Whether somebody can still write. -/
def hasWriter (p : Pipe) : Bool :=
  p.shellWrites || p.programWrites

/-- How many bytes were written and not read. -/
def waiting (p : Pipe) : Nat :=
  p.data.size - p.taken

/-- The next bytes to be read, at most so many. -/
def next (p : Pipe) (most : Nat) : ByteArray :=
  p.data.extract p.taken (min (p.taken + most) p.data.size)

/-- The pipe after its next bytes were read. -/
def advance (p : Pipe) (most : Nat) : Pipe :=
  { p with taken := min (p.taken + most) p.data.size }

def add (p : Pipe) (bytes : ByteArray) : Pipe :=
  { p with data := p.data ++ bytes }

end Pipe

/-- What connects a stage to the next one, on the side of the stage that writes. -/
inductive Link
  /-- An external stage: the pipe that it writes to. -/
  | stream (pipe : Nat)
  /-- A stage whose output is there already. -/
  | ready (bytes : ByteArray)
  deriving Inhabited

/-- A program that was started for a stage. -/
structure Process (σ : Type) where
  position : Nat
  state : σ
  streams : Streams
  /-- Whether it still has its standard input. -/
  inputOpen : Bool := true
  /-- How it ended, once it has. -/
  status : Option Int := none
  /-- Whether the shell has waited for its end. -/
  reaped : Bool := false

/-- A copy from a link into the pipe that a process reads. -/
structure Copy where
  link : Link
  pipe : Nat
  finished : Bool := false
  deriving Inhabited

/-- What happened while a pipeline ran. -/
inductive Event
  /-- The target of a redirection was opened. -/
  | opened (path : String) (outlet : Outlet)
  /-- The target of a redirection could not be opened. -/
  | refused (path : String)
  /-- A process was started for the stage at a position. -/
  | started (position process : Nat)
  /-- The program of a stage could not be started. -/
  | notStarted (position : Nat) (reason : Errno)
  /-- The link into the stage at a position was closed before it ran. -/
  | closedLink (position : Nat)
  /-- The handler of a builtin stage ran. -/
  | handled (position : Nat)
  deriving DecidableEq, Repr, Inhabited

/-- A pipeline as it runs. -/
structure Run (σ : Type) where
  shell : Shell
  pipes : Array Pipe := #[]
  /-- What was opened for the run. -/
  opened : List Outlet := []
  processes : Array (Process σ) := #[]
  copies : Array Copy := #[]
  /-- What happened, latest first. -/
  events : List Event := []

namespace Run

variable {σ : Type}

def note (r : Run σ) (e : Event) : Run σ :=
  { r with events := e :: r.events }

def changePipe (r : Run σ) (id : Nat) (f : Pipe → Pipe) : Run σ :=
  { r with pipes := r.pipes.modify id f }

/-- The run with one more pipe, and the pipe's number. -/
def addPipe (r : Run σ) (p : Pipe) : Run σ × Nat :=
  ({ r with pipes := r.pipes.push p }, r.pipes.size)

def changeMachine (r : Run σ) (f : Machine → Machine) : Run σ :=
  { r with shell := { r.shell with machine := f r.shell.machine } }

/-- Writes bytes to a sink, or says why that cannot be done. -/
def write (r : Run σ) (sink : Sink) (bytes : ByteArray) : Except Errno Unit × Run σ :=
  match sink with
  | .outlet o =>
    let written := r.shell.machine.write o bytes
    (written.1, r.changeMachine fun _ ↦ written.2)
  | .pipe id =>
    match r.pipes[id]? with
    | some p =>
      if p.hasReader then (.ok (), r.changePipe id fun p ↦ p.add bytes) else (.error .brokenPipe, r)
    | none => (.error .brokenPipe, r)

/-- Gives up the shell's end of a link. -/
def closeLink (r : Run σ) : Link → Run σ
  | .stream id => r.changePipe id fun p ↦ { p with shellReads := false }
  | .ready _ => r

/-! ## Turns of a process -/

/-- Gives up the end that a process reads from. -/
def closeInputEnd (r : Run σ) (p : Process σ) : Run σ :=
  match p.streams.input with
  | .pipe id => r.changePipe id fun q ↦ { q with programReads := false }
  | .shellInput => r

/-- Gives up the end that a process writes to. -/
def closeOutputEnd (r : Run σ) (p : Process σ) : Run σ :=
  match p.streams.output with
  | .pipe id => r.changePipe id fun q ↦ { q with programWrites := false }
  | .outlet _ => r

def endProcess (r : Run σ) (id : Nat) (p : Process σ) (status : Int) : Run σ :=
  ({ r with processes := r.processes.setIfInBounds id { p with status := some status } }
    |>.closeInputEnd p).closeOutputEnd p

def moveProcess (r : Run σ) (id : Nat) (p : Process σ) (state : σ) : Run σ :=
  { r with processes := r.processes.setIfInBounds id { p with state } }

/-- The run after a process gave up its standard input. -/
def closeInput (r : Run σ) (id : Nat) (p : Process σ) (state : σ) : Run σ :=
  { r with processes := r.processes.setIfInBounds id { p with state, inputOpen := false } }
    |>.closeInputEnd p

/-- Takes at most so many bytes; none if they have to be waited for. -/
def takeInput (r : Run σ) (source : Source) (most : Nat) : Option (ByteArray × Run σ) :=
  match source with
  | .shellInput =>
    let (bytes, machine) := r.shell.machine.takeInput most
    some (bytes, r.changeMachine fun _ ↦ machine)
  | .pipe id =>
    match r.pipes[id]? with
    | none => some (ByteArray.empty, r)
    | some p =>
      if 0 < p.waiting then some (p.next most, r.changePipe id fun p ↦ p.advance most)
      else if p.hasWriter then none
      else some (ByteArray.empty, r)

/-- Takes at most so many bytes for a process. One that gave up its standard input gets no more. -/
def takeFor (r : Run σ) (p : Process σ) (most : Nat) : Option (ByteArray × Run σ) :=
  if p.inputOpen then r.takeInput p.streams.input most else some (ByteArray.empty, r)

/-- One turn of a process, which takes at most so many bytes at once. -/
def stepProcess (P : Programs σ) (r : Run σ) (id most : Nat) : Run σ :=
  match r.processes[id]? with
  | none => r
  | some p =>
    if p.status.isSome then r
    else match P.act p.state with
      | .exit status => r.endProcess id p status
      | .read wanted next waiting =>
        match r.takeFor p (min wanted (max most 1)) with
        | none => r.moveProcess id p waiting
        | some (bytes, r) => r.moveProcess id p (next bytes)
      | .write channel bytes next refused =>
        match r.write (p.streams.sink channel) bytes with
        | (.ok (), r) => r.moveProcess id p next
        | (.error e, r) => r.moveProcess id p (refused e)
      | .closeInput next => r.closeInput id p next
      | .files act =>
        let (files, next) := act r.shell.machine.files
        (r.changeMachine fun m ↦ { m with files }).moveProcess id p next

/-! ## Turns of a copy -/

/-- Ends a copy: both its ends are closed. -/
def finishCopy (r : Run σ) (id : Nat) (c : Copy) : Run σ :=
  ({ r with copies := r.copies.setIfInBounds id { c with finished := true } }.closeLink c.link)
    |>.changePipe c.pipe fun p ↦ { p with shellWrites := false }

/-- One turn of a copy, which carries at most so many bytes at once. It ends when there is no more
to come, and when nobody reads what it carries. -/
def stepCopy (r : Run σ) (id most : Nat) : Run σ :=
  match r.copies[id]? with
  | none => r
  | some c =>
    if c.finished then r
    else match c.link with
      | .ready bytes =>
        match r.write (.pipe c.pipe) bytes with
        | (_, r) => r.finishCopy id c
      | .stream source =>
        match r.takeInput (.pipe source) (max most 1) with
        | none => r
        | some (bytes, r) =>
          if bytes.isEmpty then r.finishCopy id c
          else match r.write (.pipe c.pipe) bytes with
            | (.ok (), r) => r
            | (.error _, r) => r.finishCopy id c

/-! ## Schedules -/

/-- A turn of one worker, and how many bytes it may take at once; it always may take one. -/
inductive Turn
  | process (id most : Nat)
  | copy (id most : Nat)
  deriving DecidableEq, Repr, Inhabited

def turn (P : Programs σ) (r : Run σ) : Turn → Run σ
  | .process id most => r.stepProcess P id most
  | .copy id most => r.stepCopy id most

/-- Gives turns in order. -/
def turns (P : Programs σ) (r : Run σ) (ts : List Turn) : Run σ :=
  ts.foldl (turn P) r

@[simp] theorem turns_cons (P : Programs σ) (r : Run σ) (t : Turn) (ts : List Turn) :
    r.turns P (t :: ts) = (r.turn P t).turns P ts := rfl

theorem turns_append (P : Programs σ) (r : Run σ) (ts us : List Turn) :
    r.turns P (ts ++ us) = (r.turns P ts).turns P us :=
  List.foldl_append ..

/-- Whether every process has ended and every copy is finished. -/
def isDone (r : Run σ) : Bool :=
  r.processes.all (·.status.isSome) && r.copies.all (·.finished)

/-- The most bytes that a copy carries at once. -/
def chunk : Nat := 65536

def round (r : Run σ) : List Turn :=
  (List.range r.copies.size).map (Turn.copy · chunk) ++
    (List.range r.processes.size).map (Turn.process · chunk)

/-- Gives turns to everybody until all is done; `patience` bounds the number of rounds. -/
def settle (P : Programs σ) : (patience : Nat) → Run σ → Run σ
  | 0, r => r
  | patience + 1, r => if r.isDone then r else settle P patience (r.turns P r.round)

theorem settle_of_isDone (P : Programs σ) (patience : Nat) {r : Run σ} (h : r.isDone = true) :
    settle P patience r = r := by
  cases patience <;> simp [settle, h]

end Run

end CommandShell.Pipeline

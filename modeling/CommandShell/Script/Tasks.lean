import CommandShell.Script.Running

/-!
# Processes of a script

A script runs parts of itself in processes of their own. Each begins as a copy of the script, and
those that are started together make up a task, which the script can wait for.
-/

namespace CommandShell.Script

open CommandShell.Process CommandShell.Text

/-! ## Tasks -/

namespace Task

/-- Whether all processes of a task have ended. -/
def isOver (t : Task) : Bool :=
  !t.processes.isEmpty && t.processes.all (·.2.isSome)

/-- The status of a task, which is that of its last process; a signal counts from 128 on. -/
def status (t : Task) : Int :=
  match t.processes.getLast? with
  | some (_, some n) => if n < 0 then 128 - n else n
  | _ => 0

end Task

namespace State

def task? (s : State) (number : Nat) : Option Task :=
  s.tasks.find? fun t ↦ t.number == number

def changeTask (s : State) (number : Nat) (f : Task → Task) : State :=
  { s with tasks := s.tasks.map fun t ↦ if t.number == number then f t else t }

/-- The least number that no task needs. A task that is over and was waited for needs none. -/
def freeTask (s : State) : Nat :=
  let taken := (s.tasks.filter fun t ↦ !(t.isOver && t.isAwaited)).map (·.number)
  ((List.range (taken.length + 1)).map (· + 1)).find? (fun n ↦ !taken.contains n) |>.getD 0

def noteEnd (s : State) (id : ProcessId) (status : Int) : State :=
  { s with
    tasks := s.tasks.map fun t ↦
      { t with
        processes := t.processes.map fun p ↦
          if p.1 == id && p.2.isNone then (id, some status) else p } }

/-- The state in which a process begins that comes from this one. -/
def forked (s : State) : State :=
  { s with
    isChild := true, tasks := [], skip := .nothing, redirected := []
    traps := s.traps.filter fun t ↦ t.2 == "" }

end State

namespace Sh

def beginTask : Sh Nat := do
  let s ← get
  let number := s.freeTask
  let others := s.tasks.filter fun t ↦ t.number != number
  set { s with tasks := { number, processes := [] } :: others }
  return number

/-- Begins to be a process that comes from another one, whose traps are forgotten. A process in the
background does not heed the keyboard; the first one of a task has nothing to read. -/
def becomeChild (trapped : List Signal) (background isFirst : Bool) : Sh Unit := do
  trapped.forM fun signal ↦ do
    let _ ← call (.handle signal .standard)
  if background then
    let _ ← call (.handle Signal.interrupt .ignored)
    let _ ← call (.handle Signal.quit .ignored)
    if isFirst then
      close 0
      match ← call (.openFile (← get).cwd "/dev/null" .reading) with
      | .ok 0 => pure ()
      | _ => fail "Can't open /dev/null"

/-- Starts a process that does something and then ends. -/
def startProcess (core : Core) (task : Nat) (background : Bool) (body : Sh Unit) : Sh Unit := do
  let s ← get
  let isFirst := (s.task? task).all (·.processes.isEmpty)
  let trapped := (s.traps.filter fun t ↦ t.1 != 0 && t.2 != "").map (·.1)
  let child := do
    becomeChild trapped background isFirst
    body
  let id ← job (Job.fork (process core child s.forked))
  modify fun s ↦
    { s.changeTask task fun t ↦ { t with processes := t.processes ++ [(id, none)] } with
      lastBackground := if background then some id else s.lastBackground }

/-! ## Waiting -/

/-- Tells how a process ended, if a signal ended it that is worth mentioning. -/
def mournProcess (status : Int) : Sh Unit := do
  let signal : Signal := (-status).toNat
  if status < 0 && signal != Signal.interrupt && signal != Signal.pipe then
    printError (signal.description ++ "\n")

/-- Waits until some child has ended and takes note of that. The answer is whether there was one,
and whether a signal came before. -/
def awaitChild (mourned : Option Nat) : Sh (Bool × Bool) := do
  match ← call (.wait none) with
  | .ok (id, status) =>
    let s ← get
    set (s.noteEnd id status)
    if (mourned.bind s.task?).any fun t ↦ t.processes.any (·.1 == id) then mournProcess status
    return (true, false)
  | .error .interrupted =>
    noticeSignals
    return (true, true)
  | .error _ => return (false, false)

/-- Waits until a task is over. A signal ends that if `yields` says so; the answer is whether it
did. -/
def awaitTask (number : Nat) (yields : Bool) : (fuel : Nat) → Sh Bool
  | 0 => return false
  | fuel + 1 => do
    if ((← get).task? number).all (·.isOver) then return false
    match ← awaitChild (some number) with
    | (false, _) => return false
    | (true, true) => if yields then return true else awaitTask number yields fuel
    | (true, false) => awaitTask number yields fuel

/-- Waits for a task that nobody else asks for; the answer is its status. -/
def completeTask (number : Nat) : Sh Int := do
  let _ ← awaitTask number false endurance
  let status := ((← get).task? number).elim 0 Task.status
  modify fun s ↦ { s with tasks := s.tasks.filter fun t ↦ t.number != number }
  return status

/-! ## Output of commands -/

def readAll (fd : Descriptor) : (fuel : Nat) → ByteArray → Sh ByteArray
  | 0, seen => return seen
  | fuel + 1, seen => do
    match ← call (.read fd 4096) with
    | .ok bytes => if bytes.isEmpty then return seen else readAll fd fuel (seen ++ bytes)
    | .error _ => return seen

/-- What a command writes, as a text of octets. -/
def outputOf (core : Core) (tree : Tree) : Sh String := do
  let (input, output) ← call .makePipe
  let task ← beginTask
  startProcess core task false do
    close input
    if output != 1 then
      let _ ← duplicate output 1
      close output
    let _ ← core.run (some tree) { exits := true }
  close output
  let bytes ← readAll input endurance ByteArray.empty
  close input
  let status ← completeTask task
  modify fun s ↦ { s with insertedStatus := status }
  return Octets.ofBytes bytes

end Sh

end CommandShell.Script

import CommandShell.Script.BuiltinArguments
import CommandShell.Script.Tasks

/-!
# Builtins for processes

Sending signals and setting traps for them, waiting for tasks, and telling how they are getting on.
-/

namespace CommandShell.Script

open CommandShell.Host CommandShell.Process CommandShell.Text

namespace Sh

/-! ## Tasks -/

def taskNamed (name : Option String) : Sh Task := do
  let tasks := (← get).tasks
  let current := fun (found : Option Task) (complaint : String) ↦
    match found with
    | some t => pure t
    | none => fail complaint
  match name with
  | none => current tasks.head? "No current job"
  | some name =>
    match name.toList with
    | ['%'] | ['%', '+'] | ['%', '%'] => current tasks.head? "No current job"
    | ['%', '-'] => current tasks[1]? "No previous job"
    | '%' :: digits =>
      let number := (digitsOnly? (String.ofList digits)).getD 0
      current (tasks.find? fun t ↦ t.number == number) ("No such job: " ++ name)
    | _ => fail ("No such job: " ++ name)

/-- What is said about a process that has ended. -/
def endWords (status : Int) : String :=
  if status < 0 then Signal.description (-status).toNat
  else if status = 0 then "Done"
  else "Done(" ++ toString status ++ ")"

/-- What is said about a task. -/
def taskLine (tasks : List Task) (showsProcess : Bool) (t : Task) : String :=
  let isTask := fun (other : Option Task) ↦ other.any fun o ↦ o.number == t.number
  let mark := if isTask tasks.head? then "+" else if isTask tasks[1]? then "-" else " "
  let process := ((t.processes.head?).map fun p ↦ toString p.1 ++ " ").getD ""
  let words := match t.processes.getLast? with
    | some (_, some status) => if t.isOver then endWords status else "Running"
    | _ => "Running"
  let text := "[" ++ toString t.number ++ "] " ++ mark ++ " " ++
    (if showsProcess then process else "") ++ words
  text ++ String.ofList (List.replicate (33 - text.length) ' ') ++ "\n"

/-- Says how tasks are getting on. Those that are over are forgotten then. -/
def jobs (args : List String) : Sh Int := do
  let (options, names) ← readOptions "lp" args
  let tasks := (← get).tasks
  let chosen ← if names.isEmpty then pure tasks else names.mapM fun name ↦ taskNamed (some name)
  let form := (options.getLast?.map (·.1)).getD ' '
  chosen.forM fun t ↦ do
    let tasks := (← get).tasks
    if form = 'p' then
      print (((t.processes.head?).map fun p ↦ toString p.1).getD "" ++ "\n")
    else
      print (taskLine tasks (form = 'l') t)
      if t.isOver then
        modify fun s ↦ { s with tasks := s.tasks.filter fun o ↦ o.number != t.number }
  return 0

/-- Takes up a task again, which cannot be done without a terminal. -/
def resumeTask (args : List String) : Sh Int := do
  let names ← readOperands args
  let _ ← taskNamed names.head?
  fail ("job " ++ (names.head?).getD "(null)" ++ " not created under job control")

/-- The status of a wait that a signal ended. -/
def interruptedStatus : Sh Int :=
  return 128 + Int.ofNat ((← get).pending.getLastD 0)

def waitForAll : (fuel : Nat) → Sh Int
  | 0 => return 0
  | fuel + 1 => do
    modify fun s ↦
      { s with tasks := s.tasks.map fun t ↦ { t with isAwaited := t.isAwaited || t.isOver } }
    if (← get).tasks.all Task.isOver then return 0
    match ← awaitChild none with
    | (false, _) => return 0
    | (true, true) => interruptedStatus
    | (true, false) => waitForAll fuel

def waitFor (status : Int) : List String → Sh Int
  | [] => return status
  | name :: rest => do
    let task ← if name.toList.head? = some '%' then some <$> taskNamed (some name)
      else do
        let id ← number name
        pure ((← get).tasks.find? fun t ↦ (t.processes.getLast?.map (·.1)) == some id)
    match task with
    | none => waitFor status rest
    | some t =>
      if ← awaitTask t.number true endurance then interruptedStatus
      else
        modify fun s ↦ s.changeTask t.number fun t ↦ { t with isAwaited := true }
        waitFor (((← get).task? t.number).elim status Task.status) rest

def wait (args : List String) : Sh Int := do
  let names ← readOperands args
  if names.isEmpty then waitForAll endurance else waitFor 127 names

/-- Prints the time that was used, of which there is none. -/
def times : Sh Int := do
  let line := "0m0.000000s 0m0.000000s\n"
  print (line ++ line)
  return 0

/-! ## Signals -/

/-- The signal of a number or a name, from a least one on. -/
def signalNamed? (least : Signal) (text : String) : Option Signal :=
  match digitsOnly? text with
  | some n => if n < Signal.count then some n else none
  | none =>
    let upper := String.ofList (text.toList.map Char.toUpper)
    ((List.range Signal.count).drop least).find? fun s ↦ Signal.name s == upper

/-- Gives up on `kill`, telling how it is called. -/
def failKill : Sh Int :=
  fail ("Usage: kill [-s sigspec | -signum | -sigspec] [pid | job]... or\n" ++
    "kill -l [exitstatus]")

/-- Prints the names of signals. -/
def listSignals (args : List String) : Sh Int := do
  match args with
  | [] =>
    print "0\n"
    ((List.range Signal.count).drop 1).forM fun s ↦ print (Signal.name s ++ "\n")
    return 0
  | text :: _ =>
    let n ← number text
    let n := if 128 < n then n - 128 else n
    if 0 < n && n < Signal.count then
      print (Signal.name n ++ "\n")
      return 0
    else fail ("invalid signal number or exit status: " ++ text)

/-- Sends a signal to the process of an argument; the answer is the status. Only a process that is
named by its number can be there. -/
def sendTo (signal : Signal) (status : Int) (text : String) : Sh Int := do
  let answer ← match text.toList with
    | '%' :: _ =>
      let _ ← taskNamed (some text)
      pure (.error .noSuchProcess)
    | '-' :: digits =>
      let _ ← number (String.ofList digits)
      pure (.error .noSuchProcess)
    | _ =>
      let id ← number text
      let (self, _) ← call .identify
      call (.send (if id = 0 then self else id) signal)
  match answer with
  | .ok () => return status
  | .error e =>
    warn (e.message ++ "\n")
    return 1

/-- Sends a signal, or prints the names of signals. -/
def kill (args : List String) : Sh Int := do
  match args with
  | [] => failKill
  | first :: rest =>
    let dashed := first.toList.head? = some '-'
    let direct := if dashed then signalNamed? 1 (String.ofList first.toList.tail) else none
    match direct with
    | some signal => if rest.isEmpty then failKill else rest.foldlM (sendTo signal) 0
    | none =>
      let (options, names) ← if dashed then readOptions "ls:" args else pure ([], args)
      let signals ← (options.filter fun o ↦ o.1 = 's').mapM fun o ↦
        match signalNamed? 1 o.2 with
        | some signal => pure signal
        | none => fail ("invalid signal number or name: " ++ o.2)
      let lists := options.any fun o ↦ o.1 = 'l'
      if lists then (if signals.isEmpty || names.isEmpty then listSignals names else failKill)
      else if names.isEmpty then failKill
      else names.foldlM (sendTo (signals.getLast?.getD Signal.terminate)) 0

/-! ## Traps -/

/-- Tells the machine what is to be done with a signal. One that was ignored before the script began
stays ignored. -/
def arrange (signal : Signal) (old new : Option String) : Sh Unit := do
  let wanted : Disposition := match new with
    | none => .standard
    | some "" => .ignored
    | some _ => .caught
  if signal != 0 then
    let before ← call (.handle signal wanted)
    if before = .ignored && old != some "" then
      let _ ← call (.handle signal .ignored)

def setTraps (action : Option String) : List String → Sh Int
  | [] => return 0
  | name :: rest => do
    match signalNamed? 0 name with
    | none =>
      printError ("trap: " ++ name ++ ": bad trap\n")
      return 1
    | some signal =>
      let s ← get
      let others := s.traps.filter (·.1 != signal)
      set { s with traps := others ++ action.toList.map fun a ↦ (signal, a) }
      arrange signal (s.traps.lookup signal) action
      setTraps action rest

/-- Sets traps or prints them. -/
def trap (args : List String) : Sh Int := do
  match ← readOperands args with
  | [] =>
    ((← get).traps.mergeSort fun a b ↦ a.1 ≤ b.1).forM fun t ↦
      print ("trap -- " ++ quotedForReading t.2 ++ " " ++ Signal.name t.1 ++ "\n")
    return 0
  | [name] => setTraps none [name]
  | action :: names => setTraps (if action = "-" then none else some action) names

/-! ## Limits -/

/-- The limits of the machine: letters, what they are about, and what they are. -/
def limits : List (Char × String × String) :=
  [('t', "time(seconds)", "unlimited"), ('f', "file(blocks)", "unlimited"),
    ('d', "data(kbytes)", "unlimited"), ('s', "stack(kbytes)", "8192"),
    ('c', "coredump(blocks)", "0"), ('m', "memory(kbytes)", "unlimited"),
    ('l', "locked memory(kbytes)", "8192"), ('p', "process", "unlimited"),
    ('n', "nofiles", "1048576"), ('v', "vmemory(kbytes)", "unlimited"),
    ('w', "locks", "unlimited"), ('r', "rtprio", "0")]

/-- Prints a limit, or all of them. -/
def ulimit (args : List String) : Sh Int := do
  let (options, operands) ← readOptions "HSatfdscmlpnvwr" args
  let letter := ((options.map (·.1)).filter fun c ↦ c != 'H' && c != 'S').getLast?.getD 'f'
  match operands with
  | _ :: _ :: _ => fail "too many arguments"
  | [value] =>
    if letter = 'a' then fail "too many arguments"
    if value != "unlimited" && (digitsOnly? value).isNone then fail "bad number"
  | [] =>
    if letter = 'a' then
      limits.forM fun l ↦
        print (l.2.1 ++ String.ofList (List.replicate (20 - l.2.1.length) ' ') ++ " " ++ l.2.2 ++
          "\n")
    else print (((limits.lookup letter).map (·.2)).getD "" ++ "\n")
  return 0

end Sh

end CommandShell.Script

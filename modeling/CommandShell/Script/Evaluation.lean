import CommandShell.Script.SimpleCommands

/-!
# Running commands

The meaning of a tree. Commands that only test something may fail even if the script is to end with
the first command that fails. Commands are skipped while a loop, a function or a file is being left.
-/

namespace CommandShell.Script

open CommandShell.Process

namespace Sh

/-- Ends a loop or goes on with it, after commands in it were run. The answer is what is to be
skipped by the loop itself. -/
def endTurn : Sh Skip := do
  let s ← get
  match s.skip with
  | .toLoopEnd | .toNextTurn =>
    let left := s.skippedLoops - 1
    if left ≤ 0 then
      set { s with skip := .nothing, skippedLoops := left }
      return s.skip
    else
      set { s with skippedLoops := left }
      return .toLoopEnd
  | skip => return skip

/-- Whether a loop goes on after what was skipped. -/
def goesOn (skip : Skip) : Bool :=
  skip = .nothing || skip = .toNextTurn

/-- Runs something as a loop. -/
def asLoop (body : Sh Int) : Sh Int := do
  modify fun s ↦ { s with loops := s.loops + 1 }
  let status ← body
  modify fun s ↦ { s with loops := s.loops - 1 }
  return status

def runLoop (core : Core) (flags : Flags) (isUntil : Bool) (test body : Tree) :
    (fuel : Nat) → (status : Int) → Sh Int
  | 0, status => return status
  | fuel + 1, status => do
    pause
    let n ← core.run (some test) { tested := true }
    let skip ← endTurn
    let status := if skip = .toReturn then n else status
    if skip != .nothing then
      if goesOn skip then runLoop core flags isUntil test body fuel status else return status
    else if (n = 0) = isUntil then return status
    else
      let status ← core.run (some body) flags
      let skip ← endTurn
      if goesOn skip then runLoop core flags isUntil test body fuel status else return status

def runEach (core : Core) (flags : Flags) (name : String) (body : Tree) :
    List String → (status : Int) → Sh Int
  | [], status => return status
  | word :: rest, _ => do
    setVariable name (some word)
    let status ← core.run (some body) flags
    let skip ← endTurn
    if goesOn skip then runEach core flags name body rest status else return status

/-- The branch of a choice that a text belongs to, if there is one. -/
def findBranch (core : Core) (text : String) :
    List (List Word × Option Tree) → Sh (Option (Option Tree))
  | [] => return none
  | (patterns, body) :: rest => do
    if (← get).skip != .nothing then return none
    if ← matchesAny patterns then return some body else findBranch core text rest
where
  /-- Whether one of some patterns matches. -/
  matchesAny : List Word → Sh Bool
    | [] => return false
    | word :: rest => do
      let pattern ← expandPattern core word
      if Pattern.isMatch pattern text.toList then return true else matchesAny rest

/-- Ends the process with what it does now. -/
def runLast (core : Core) (flags : Flags) (tree : Tree) : Sh Unit := do
  let _ ← core.run (some tree) { flags with exits := true }

/-- Looks for the program of a stage, so that it is known where it is. -/
def lookAhead (stage : Tree) : Sh Unit := do
  match stage with
  | .simple _ _ (word :: _) _ =>
    if let some name := plainText? word then
      if isName name then
        let _ ← findCommand name
  | _ => pure ()

def startStages (core : Core) (flags : Flags) (background : Bool) (task : Nat)
    (input : Option Descriptor) : List Tree → Sh Unit
  | [] => pure ()
  | stage :: rest => do
    lookAhead stage
    let pipe ← if rest.isEmpty then pure none else some <$> call .makePipe
    startProcess core task background do
      if let some (reader, _) := pipe then close reader
      if let some fd := input then
        let _ ← duplicate fd 0
        close fd
      if let some (_, writer) := pipe then
        if writer != 1 then
          let _ ← duplicate writer 1
          close writer
      runLast core flags stage
    if let some fd := input then close fd
    if let some (_, writer) := pipe then close writer
    startStages core flags background task (pipe.map (·.1)) rest

def runPipeline (core : Core) (flags : Flags) (background : Bool) (stages : List Tree) :
    Sh Int := do
  let task ← beginTask
  startStages core flags background task none stages
  if background then return 0 else completeTask task

/-- Follows redirections that nothing is kept for, and ends the process with a command. -/
def runInChild (core : Core) (flags : Flags) (targets : List (Descriptor × Target))
    (body : Tree) : Sh Unit := do
  targets.forM (redirect false)
  runLast core flags body

/-- Runs commands in a process of their own. -/
def runSubshell (core : Core) (flags : Flags) (line : Nat) (background : Bool) (body : Tree)
    (redirections : List Redirection) : Sh Int := do
  atLine line
  let targets ← targetsOf core redirections
  if !background && flags.exits && !(← hasTraps) then
    modify State.forked
    runInChild core flags targets body
    return (← get).status
  let task ← beginTask
  let inner := if background then { flags with tested := false } else flags
  startProcess core task background (runInChild core inner targets body)
  if background then return 0 else completeTask task

/-- Runs a command with redirections around it. The flag tells whether one of them failed. -/
def runWithRedirections (core : Core) (flags : Flags) (line : Nat) (body : Tree)
    (redirections : List Redirection) : Sh (Int × Bool) := do
  atLine line
  let targets ← targetsOf core redirections
  pushDescriptors
  let done ← redirectAll targets
  let status ← if done then core.run (some body) { tested := flags.tested }
    else pure (← get).status
  popDescriptors
  return (status, !done)

def runSecond (core : Core) (flags : Flags) (first second : Tree) (tested : Bool)
    (wanted : Int → Bool) : Sh Int := do
  let status ← core.run (some first) { tested := flags.tested || tested }
  if wanted status && (← get).skip = .nothing then core.run (some second) flags
  else return (← get).status

/-- Runs a tree; the answer is its status and whether the script may have to end for it. -/
def runTree (core : Core) (flags : Flags) (tree : Tree) : Sh (Int × Bool) := do
  match tree with
  | .simple line assignments words redirections =>
    return (← runSimple core flags line assignments words redirections, true)
  | .pipeline background stages => return (← runPipeline core flags background stages, true)
  | .redirected line body redirections => runWithRedirections core flags line body redirections
  | .background line body redirections =>
    return (← runSubshell core flags line true body redirections, true)
  | .subshell line body redirections =>
    return (← runSubshell core flags line false body redirections, true)
  | .and first second =>
    return (← runSecond core flags first second true (· == 0), false)
  | .or first second =>
    return (← runSecond core flags first second true (· != 0), false)
  | .sequence first second =>
    return (← runSecond core flags first second false fun _ ↦ true, false)
  | .negated body =>
    let status ← core.run (some body) { tested := true }
    if (← get).skip != .nothing then return (status, false)
    return (if status = 0 then 1 else 0, false)
  | .branch test yes no =>
    let status ← core.run (some test) { tested := true }
    if (← get).skip != .nothing then return ((← get).status, false)
    match if status = 0 then some yes else no with
    | some body => return (← core.run (some body) flags, false)
    | none => return (0, false)
  | .loop isUntil test body =>
    let inner : Flags := { tested := flags.tested }
    return (← asLoop (runLoop core inner isUntil test body endurance 0), false)
  | .each line name words body =>
    atLine line
    let fields := (← words.mapM (expandFields core)).flatten
    return (← asLoop (runEach core { tested := flags.tested } name body fields 0), false)
  | .choose line word branches =>
    atLine line
    let text ← expandText core word
    match ← findBranch core text branches with
    | some (some body) =>
      if (← get).skip = .nothing then return (← core.run (some body) flags, false)
      else return (0, false)
    | _ => return (0, false)
  | .define name body =>
    modify fun s ↦ s.define name (some body)
    return (0, false)

/-- Runs a tree, and traps before and after it. A failure may end the process, and what it ends with
does. -/
def evaluateWith (core : Core) (tree : Option Tree) (flags : Flags) : Sh Int := do
  let checked ← match tree with
    | none => pure false
    | some tree =>
      if ← hasOption 'n' then pure false
      else
        runTraps core
        let (status, checked) ← runTree core flags tree
        modify fun s ↦ { s with status }
        pure checked
  runTraps core
  let s ← get
  if s.options.contains 'e' && checked && !flags.tested && s.status != 0 then throw .ending
  if flags.exits then throw .ending
  return s.status

/-- Runs commands that are nested so many times at most. A process that nests them deeper is ended
by the machine. -/
def evaluate (launch : Launcher) : (fuel : Nat) → Option Tree → Flags → Sh Int
  | 0, _, _ => job (Job.exit (-(Signal.segment : Int)))
  | fuel + 1, tree, flags => evaluateWith { run := evaluate launch fuel, launch } tree flags

end Sh

end CommandShell.Script

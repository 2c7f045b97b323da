import CommandShell.Script.Builtins

/-!
# Simple commands

A simple command is run in steps: its first word tells which builtin it calls, if it calls one,
then all its words are expanded, its redirections are followed, its variables are set, and at last
the command that the first word stands for is run.
-/

namespace CommandShell.Script

open CommandShell.Process CommandShell.Text

/-- What is known of a simple command after its words were expanded. -/
structure Prepared where
  /-- The words from the one that names the command on. -/
  argv : List String := []
  /-- The words before that one. -/
  before : List String := []
  /-- Whether it is called as a special builtin. -/
  isSpecial : Bool := false
  /-- Whether variables that it sets are for itself only. -/
  ownVariables : Bool := false
  /-- Whether its arguments set variables. -/
  setsVariables : Bool := false
  isExec : Bool := false
  /-- Whether it can be a function. -/
  functions : Bool := true
  /-- A search path of its own. -/
  path : Option String := none
  meaning : Option Meaning := some .builtin
  deriving Inhabited

/-- Where complaints lead that a redirection does not concern. -/
def State.keptErrors (s : State) : Descriptor :=
  ((s.redirected.head?.bind (·.lookup 2)).join).getD 2

namespace Sh

def firstFields (core : Core) : List Word → Sh (List String × List Word)
  | [] => return ([], [])
  | word :: rest => do
    let fields ← expandFields core word
    if fields.isEmpty then firstFields core rest else return (fields, rest)

/-- Fields if there are some, else those of the first words that have any. -/
def moreFields (core : Core) (fields : List String) (words : List Word) :
    Sh (List String × List Word) :=
  if fields.isEmpty then firstFields core words else pure (fields, words)

/-- What stands after a word `command`. -/
structure AfterCommand where
  /-- The fields from the one that names a command on, if there is one without further options. -/
  named : Option (List String) := none
  /-- The fields before it. -/
  before : List String
  /-- The words that were not expanded. -/
  words : List Word
  path : Option String := none
  deriving Inhabited

/-- Looks for a command after the word `command` and its options. -/
def afterCommand (core : Core) (path : Option String) :
    (fuel : Nat) → (before fields : List String) → List Word → Sh AfterCommand
  | 0, before, _, words => return { before, words, path }
  | fuel + 1, before, fields, words => do
    let (fields, words) ← moreFields core fields words
    match fields with
    | [] => return { before, words, path }
    | field :: rest =>
      match field.toList with
      | ['-', '-'] =>
        let before := before ++ [field]
        let (fields, words) ← moreFields core rest words
        return { named := if fields.isEmpty then none else some fields, before, words, path }
      | '-' :: c :: cs =>
        if (c :: cs).all (· = 'p') then
          afterCommand core (some standardPath) fuel (before ++ [field]) rest words
        else
          let path := if c = 'p' then some standardPath else path
          return { before := before ++ fields, words, path }
      | _ => return { named := some fields, before, words, path }

/-- Finds out which builtin a command calls. The word `command` in front of another one takes away
what is special about it. -/
def identify (core : Core) :
    (fuel : Nat) → (isFirst : Bool) → Prepared → List Word → Sh (Prepared × List Word)
  | 0, _, p, words => return (p, words)
  | fuel + 1, isFirst, p, words => do
    let name := p.argv.headD ""
    let isFunction := p.functions && ((← get).function? name).isSome
    if name.contains '/' || isFunction || !isBuiltin name then
      return ({ p with ownVariables := true, meaning := none }, words)
    let isSpecial := specialNames.contains name
    let p : Prepared :=
      { p with
        isSpecial := isFirst && isSpecial
        ownVariables := !(isFirst && isSpecial)
        setsVariables := Script.setsVariables name
        isExec := name = "exec"
        meaning := some .builtin }
    if name != "command" then return (p, words)
    let a ← afterCommand core p.path endurance [name] p.argv.tail words
    match a.named with
    | some argv =>
      identify core fuel false
        { p with argv, before := p.before ++ a.before, functions := false, path := a.path } a.words
    | none => return ({ p with argv := a.before, path := a.path }, a.words)

def expandArgument (core : Core) (sets : Bool) (word : Word) : Sh (List String) :=
  if sets && isAssignment word then (fun text ↦ [text]) <$> expandSetting core word
  else expandFields core word

/-- Expands the words of a command. -/
def prepare (core : Core) (words : List Word) : Sh Prepared := do
  let (argv, words) ← firstFields core words
  if argv.isEmpty then return {}
  let (p, words) ← identify core endurance true { argv } words
  let more ← words.mapM (expandArgument core p.setsVariables)
  return { p with argv := p.argv ++ more.flatten }

/-! ## Showing commands -/

/-- The text that stands before a command that is shown. -/
def traceMark (core : Core) : Sh String := do
  let mark := ((← get).value? "PS4").getD ""
  if !mark.toList.any fun c ↦ "$`\\".toList.contains c then return mark
  let s ← get
  let due : Waiting := { number := 0, endWord := ['\x00'], stripsTabs := false, expands := true }
  let reader : Reader := { layers := [{ text := mark.toList }], aliases := s.aliases }
  match (Parse.document (Parse.commandReaders readingLimit) due).run reader with
  | .ok (_, r) => expandDocument core r.word
  | .error _ => return mark

/-- Shows a command before it is run, if there is the option for that. -/
def trace (core : Core) (settings words : List String) : Sh Unit := do
  let s ← get
  if s.options.contains 'x' && !s.isTracing then
    set { s with isTracing := true }
    let mark ← traceMark core
    modify fun s ↦ { s with isTracing := false }
    let line := mark ++ String.intercalate " " (settings ++ words) ++ "\n"
    let _ ← call (.write s.traceDescriptor (Octets.bytes line))

/-! ## Running commands -/

/-- How many functions can be run within each other. -/
def maxCalls : Nat := 1000

/-- Calls a function. It has parameters and loops of its own. -/
def callFunction (core : Core) (flags : Flags) (body : Tree) (args : List String) : Sh Unit := do
  let before ← get
  if maxCalls ≤ before.calls then
    fail ("Maximum function recursion depth (" ++ toString maxCalls ++ ") reached")
  set { before with
    parameters := args, calls := before.calls + 1, loops := 0
    nextOption := 1, optionRest := none }
  let outcome ← attempt (core.run (some body) { tested := flags.tested })
  modify fun s ↦
    { s with
      parameters := before.parameters, calls := before.calls, loops := before.loops
      nextOption := before.nextOption, optionRest := before.optionRest
      skip := if s.skip = .toReturn || s.skip = .toPlainReturn then .nothing else s.skip }
  match outcome with
  | .ok _ => pure ()
  | .error how => throw how

/-- Runs a program in a process of its own, or in this one if it ends with it anyway. -/
def callProgram (core : Core) (flags : Flags) (p : Prepared) (place : Option Nat) : Sh Int := do
  if flags.exits && !(← hasTraps) then becomeProgram core p.argv p.path place
  else
    let task ← beginTask
    startProcess core task false (becomeProgram core p.argv p.path place)
    completeTask task

/-- Sets the variables in front of a command; the answer is how they are shown. -/
def setInFront (core : Core) (p : Prepared) : List Word → Sh (List String)
  | [] => return []
  | word :: rest => do
    let setting ← expandSetting core word
    if p.ownVariables then makeLocal setting true
    else
      let (name, value) := splitSetting setting
      setVariable name value (p.isExec && 1 < p.argv.length)
    return setting :: (← setInFront core p rest)

/-- Runs the command that a simple command stands for; the answer is its status. -/
def runPrepared (core : Core) (flags : Flags) (p : Prepared) : Sh Int := do
  let meaning ← match p.meaning with
    | some m => pure (some m)
    | none => findCommand (p.argv.headD "") p.functions p.path true
  match meaning with
  | none =>
    modify fun s ↦ { s with status := 127 }
    return 127
  | some (.program place) => callProgram core flags p place
  | some .builtin =>
    runBuiltin core flags p.isSpecial p.argv
    return (← get).status
  | some (.function body) =>
    callFunction core flags body p.argv.tail
    return (← get).status

/-- Sets variables and runs a command after its redirections were followed. -/
def runRedirected (core : Core) (flags : Flags) (p : Prepared) (assignments : List Word) :
    Sh Int := do
  let settings ← setInFront core p assignments
  trace core settings (p.before ++ p.argv)
  runPrepared core flags p

def runSimple (core : Core) (flags : Flags) (line : Nat) (assignments words : List Word)
    (redirections : List Redirection) : Sh Int := do
  atLine line
  modify fun s ↦ { s with insertedStatus := 0 }
  let p ← prepare core words
  let s ← get
  let locals := s.locals.length
  let levels := s.redirected.length
  if p.ownVariables then pushLocals
  let targets ← targetsOf core redirections
  if !redirections.isEmpty then pushDescriptors
  let status ← if ← redirectAll targets then do
      modify fun s ↦ { s with
        traceDescriptor := if redirections.isEmpty then 2 else s.keptErrors }
      runRedirected core flags p assignments
    else do
      if p.isSpecial then throw .failure
      pure (← get).status
  if !redirections.isEmpty then popDescriptors p.isExec
  unwindDescriptors levels
  unwindLocals locals
  return status

end Sh

end CommandShell.Script

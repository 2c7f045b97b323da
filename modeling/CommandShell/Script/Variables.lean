import CommandShell.Script.State

/-!
# Variables

Setting, unsetting and exporting variables, and variables that are local to a function or a command.
Some variables are always there, with or without a value, and keep their attributes.
-/

namespace CommandShell.Script

open CommandShell.Host CommandShell.Text

/-- The variables that are always there. -/
def fixedNames : List String :=
  ["IFS", "MAIL", "MAILPATH", "OPTIND", "PATH", "PS1", "PS2", "PS4", "TERM", "HISTSIZE"]

/-- What separates fields if nothing is said. -/
def standardSeparators : String := " \t\n"

/-- Where commands are looked for if nothing is said. -/
def standardPath : String :=
  "/usr/local/sbin:/usr/local/bin:/usr/sbin:/usr/bin:/sbin:/bin"

/-- The variables of an interpreter before it looks at its environment. -/
def firstVariables : List (String × Variable) :=
  [("IFS", standardSeparators), ("OPTIND", "1"), ("PATH", standardPath), ("PS1", "# "),
    ("PS2", "> "), ("PS4", "+ ")].map fun v ↦ (v.1, { value := some v.2 })

/-- The whole number that digits spell, if nothing else is there. -/
def digitsOnly? (text : String) : Option Nat :=
  let cs := text.toList
  if !cs.isEmpty && cs.all fun c ↦ '0' ≤ c && c ≤ '9' then
    some (cs.foldl (fun n c ↦ 10 * n + (c.toNat - 48)) 0)
  else none

/-- The sum of a name by which it is put into one of several buckets. -/
def nameSum (name : String) : Nat :=
  name.foldl (fun n c ↦ n + c.toNat) ((name.toList.head?.map (·.toNat)).getD 0 * 16)

namespace State

def binding? (s : State) (name : String) : Option Variable :=
  s.vars.lookup name

def value? (s : State) (name : String) : Option String :=
  (s.binding? name).bind (·.value)

/-- The state with a variable as it is given; none takes it away. -/
def putVariable (s : State) (name : String) (v : Option Variable) : State :=
  match v with
  | none => { s with vars := s.vars.filter (·.1 != name) }
  | some v =>
    if (s.binding? name).isSome then
      { s with vars := s.vars.map fun e ↦ if e.1 == name then (name, v) else e }
    else { s with vars := s.vars ++ [(name, v)] }

/-- The state after the value of a variable that the interpreter heeds was changed. -/
def heed (s : State) (name : String) (value : Option String) : State :=
  if name = "PATH" then { s with located := [] }
  else if name = "OPTIND" then
    { s with nextOption := max 1 ((value.bind digitsOnly?).getD 1), optionRest := none }
  else s

/-- Whether a variable is local to something. -/
def isLocal (s : State) (name : String) : Bool :=
  s.locals.any fun frame ↦ frame.any fun
    | .variable n _ => n == name
    | .options _ => false

def separators (s : State) : String :=
  (s.value? "IFS").getD standardSeparators

/-- Where commands are looked for. -/
def searchPath (s : State) : String :=
  (s.value? "PATH").getD ""

/-- The place of a variable in the order in which they are handed on. -/
def bucket (name : String) : Nat :=
  nameSum name % 39

/-- The environment of the programs that are started. -/
def environment (s : State) : Environment :=
  let exported := s.vars.filterMap fun v ↦
    if v.2.exported then v.2.value.map fun value ↦ (v.1, value) else none
  ⟨(exported.mergeSort fun a b ↦ bucket a.1 ≤ bucket b.1).map fun v ↦
    (Octets.text v.1, Octets.text v.2)⟩

end State

namespace Sh

def value? (name : String) : Sh (Option String) :=
  return (← get).value? name

/-- Sets attributes of a variable, and its value unless none is given. -/
def setVariable (name : String) (value : Option String) (exported : Bool := false)
    (readOnly : Bool := false) : Sh Unit := do
  let s ← get
  let old := s.binding? name
  if old.any (·.readOnly) then fail (name ++ ": is read only")
  if name = "OPTIND" then
    if let some text := value then
      if (digitsOnly? text).isNone then fail ("Illegal number: " ++ text)
  let v := old.getD {}
  let v : Variable :=
    { value
      exported := v.exported || exported || s.options.contains 'a'
      readOnly := v.readOnly || readOnly }
  set ((s.putVariable name (some v)).heed name value)

/-- Sets a variable whose name may be none. -/
def setNamed (name value : String) : Sh Unit := do
  if isName name then setVariable name (some value)
  else fail (name ++ ": bad variable name")

/-- Takes the value of a variable away, and the variable itself unless it has to be there. -/
def unsetVariable (name : String) : Sh Unit := do
  let s ← get
  match s.binding? name with
  | none => pure ()
  | some v =>
    if v.readOnly then fail (name ++ ": is read only")
    let left := if fixedNames.contains name || s.isLocal name
      then some { v with value := none } else none
    set ((s.putVariable name left).heed name none)

/-- Takes a name and a value apart at the first equals sign. -/
def splitSetting (text : String) : String × Option String :=
  match text.toList.span (· ≠ '=') with
  | (name, _ :: value) => (String.ofList name, some (String.ofList value))
  | (name, []) => (String.ofList name, none)

/-- Begins to remember variables that become local. -/
def pushLocals : Sh Unit :=
  modify fun s ↦ { s with locals := [] :: s.locals }

/-- Makes a variable local, perhaps with a new value; a dash stands for the options. -/
def makeLocal (setting : String) (exported : Bool := false) : Sh Unit := do
  let s ← get
  let remember := fun (r : Remembered) ↦
    modify fun s ↦ (match s.locals with
      | frame :: rest => { s with locals := (r :: frame) :: rest }
      | [] => s : State)
  if setting = "-" then remember (.options s.options)
  else
    let (name, value) := splitSetting setting
    if !isName name then fail (setting ++ ": bad variable name")
    match s.binding? name, value with
    | none, value => setVariable name value exported
    | some _, some value => setVariable name (some value) exported
    | some _, none => pure ()
    remember (.variable name (s.binding? name))

def restore (r : Remembered) : Sh Unit :=
  modify fun s ↦ match r with
    | .options before => { s with options := before }
    | .variable name before => (s.putVariable name before).heed name (before.bind (·.value))

/-- Ends the innermost local variables; they keep their values if `keep` says so. -/
def popLocals (keep : Bool := false) : Sh Unit := do
  match (← get).locals with
  | [] => pure ()
  | frame :: rest =>
    modify fun s ↦ { s with locals := rest }
    if !keep then frame.forM restore

/-- Ends local variables until so many levels of them are left. -/
def unwindLocals (levels : Nat) : Sh Unit := do
  let surplus := (← get).locals.length - levels
  (List.range surplus).forM fun _ ↦ popLocals

end Sh

end CommandShell.Script

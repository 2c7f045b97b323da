import CommandShell.Script.BuiltinArguments
import CommandShell.Script.Programs

/-!
# Builtins for variables

Exporting variables, making them read-only, local or unset, and reading lines into them.
-/

namespace CommandShell.Script

open CommandShell.Process CommandShell.Text

namespace Sh

/-- Prints variables with something before each, in the order of their names. -/
def printVariables (before : String) (shown : List (String × Variable)) : Sh Unit :=
  (shown.mergeSort fun a b ↦ a.1 ≤ b.1).forM fun v ↦ do
    let setting := match v.2.value with
      | some text => "=" ++ quotedForReading text
      | none => ""
    print ((if before = "" then "" else before ++ " ") ++ v.1 ++ setting ++ "\n")

/-- Gives an attribute to variables, or prints those that have it. -/
def giveAttribute (name : String) (args : List String) : Sh Int := do
  let isExport := name.toList.head? = some 'e'
  let (options, operands) ← readOptions "p" args
  if !options.isEmpty || operands.isEmpty then
    let shown := (← get).vars.filter fun v ↦
      if isExport then v.2.exported else v.2.readOnly
    printVariables name shown
  else
    operands.forM fun operand ↦ do
      let (name, value) := splitSetting operand
      match (← get).binding? name, value with
      | some v, none =>
        let v := if isExport then { v with exported := true } else { v with readOnly := true }
        modify fun s ↦ s.putVariable name (some v)
      | _, value =>
        if !isName name then fail (name ++ ": bad variable name")
        setVariable name value isExport (!isExport)
  return 0

/-- Makes variables local. -/
def localBuiltin (args : List String) : Sh Int := do
  if (← get).locals.isEmpty then fail "not in a function"
  args.forM fun arg ↦ makeLocal arg
  return 0

/-- Takes variables away, or functions. -/
def unset (args : List String) : Sh Int := do
  let (options, names) ← readOptions "vf" args
  let ofFunctions := (options.getLast?.map (·.1)) = some 'f'
  names.forM fun name ↦ do
    if ofFunctions then modify fun s ↦ s.define name none
    else
      let (name, _) := splitSetting name
      if !isName name then fail (name ++ ": bad variable name")
      unsetVariable name
  return 0

/-- Drops positional parameters. -/
def shift (args : List String) : Sh Int := do
  let n ← match args with
    | [] => pure 1
    | arg :: _ => number arg
  let s ← get
  if s.parameters.length < n then fail "can't shift that many"
  set { s with parameters := s.parameters.drop n, nextOption := 1, optionRest := none }
  return 0

/-! ## Options of scripts -/

/-- What was found out about the next option of a script. -/
structure OptionStep where
  /-- The option, or a mark for what is wrong with it. -/
  shown : Char := '?'
  /-- The value for `OPTARG`; none takes it away. -/
  value : Option String := some ""
  complaint : Option String := none
  isOver : Bool := false
  /-- How many arguments were passed, and where the next option is in the last of them. -/
  passed : Nat
  rest : Option Nat := none
  deriving Repr, Inhabited

/-- What an option letter means: whether it is known, and whether it takes a value. -/
def optionKind? (letters : List Char) (c : Char) : Option Bool :=
  match letters with
  | [] => none
  | l :: ':' :: rest => if l = c then some true else optionKind? rest c
  | l :: rest => if l = c then some false else optionKind? rest c

/-- The step for an option letter; `place` is where the text after it begins in the last argument
that was passed. -/
def optionStep (letters : List Char) (c : Char) (after : List Char) (args : List String)
    (passed place : Nat) : OptionStep :=
  let isSilent := letters.head? = some ':'
  let rest := some place
  match optionKind? letters c with
  | none =>
    if isSilent then { value := some c.toString, passed, rest }
    else { value := none, complaint := some ("Illegal option -" ++ c.toString), passed, rest }
  | some false => { shown := c, passed, rest }
  | some true =>
    if !after.isEmpty then { shown := c, value := some (String.ofList after), passed }
    else match args[passed]? with
      | some value => { shown := c, value := some value, passed := passed + 1 }
      | none =>
        if isSilent then { shown := ':', value := some c.toString, passed, rest }
        else
          { value := none, complaint := some ("No arg for -" ++ c.toString ++ " option")
            passed, rest }

/-- The next option of some arguments. So many of them were passed, and the last one of those may
have more options from some place on. -/
def nextStep (letters : List Char) (args : List String) (passed : Nat) (rest : Option Nat) :
    OptionStep :=
  let last := ((args[passed - 1]?).getD "").toList
  match if passed = 0 then none else rest.map fun place ↦ (place, last.drop place) with
  | some (place, c :: after) => optionStep letters c after args passed (place + 1)
  | _ =>
    match ((args[passed]?).getD "").toList with
    | ['-', '-'] => { isOver := true, passed := passed + 1 }
    | '-' :: c :: after => optionStep letters c after args (passed + 1) 2
    | _ => { isOver := true, passed }

/-- Reads the next option of the parameters, or of other arguments. -/
def getopts (args : List String) : Sh Int := do
  match args with
  | letters :: name :: others =>
    let s ← get
    let among := if others.isEmpty then s.parameters else others
    let (next, rest) := if among.length + 1 < s.nextOption then (1, none)
      else (s.nextOption, s.optionRest)
    let step := nextStep letters.toList among (next - 1) rest
    match step.complaint with
    | some text =>
      printError (text ++ "\n")
      unsetVariable "OPTARG"
    | none =>
      if !step.isOver then
        match step.value with
        | some value => setVariable "OPTARG" (some value)
        | none => pure ()
    setVariable "OPTIND" (some (toString (step.passed + 1)))
    setNamed name step.shown.toString
    modify fun s ↦ { s with nextOption := step.passed + 1, optionRest := step.rest }
    return if step.isOver then 1 else 0
  | _ => fail "Usage: getopts optstring var [arg...]"

/-! ## Reading lines -/

/-- A line that is being read: its characters, and the regions of them that are split. -/
structure LineRead where
  atoms : Array Atom := #[]
  regions : Array Region := #[]
  /-- Where the region begins that was begun last. -/
  start : Nat := 0
  /-- Whether the last character was a backslash that takes the meaning from the next one. -/
  escaped : Bool := false
  deriving Inhabited

def LineRead.endRegion (l : LineRead) (stop : Nat) : LineRead :=
  { l with regions := l.regions.push { start := l.start, stop } }

/-- Reads a line; the flag tells whether it has an end. -/
def readLine (isRaw : Bool) : (fuel : Nat) → LineRead → Sh (LineRead × Bool)
  | 0, l => return (l, false)
  | fuel + 1, l => do
    match ← call (.read 0 1) with
    | .error _ => return (l, false)
    | .ok bytes =>
      if bytes.isEmpty then return (l, false)
      let c := Char.ofNat (bytes.get! 0).toNat
      let size := l.atoms.size
      if c = '\x00' then readLine isRaw fuel l
      else if l.escaped then
        let l := l.endRegion size
        let atoms := if c = '\n' then l.atoms else l.atoms.push (.plain c)
        readLine isRaw fuel { l with atoms, start := atoms.size, escaped := false }
      else if c = '\\' && !isRaw then readLine isRaw fuel { l with escaped := true }
      else if c = '\n' then return (l, true)
      else readLine isRaw fuel { l with atoms := l.atoms.push (.plain c) }

/-- Gives fields to variables in order; those without a field become empty. -/
def setFields : List String → List String → Sh Unit
  | [], _ => pure ()
  | name :: names, fields => do
    setNamed name (fields.headD "")
    setFields names fields.tail

/-- Reads a line into variables. The last one gets all that is left. -/
def read (args : List String) : Sh Int := do
  let (options, names) ← readOptions "p:r" args
  if names.isEmpty then fail "arg count"
  let (l, hasEnd) ← readLine (options.any fun o ↦ o.1 = 'r') endurance {}
  let l := l.endRegion l.atoms.size
  let separators := (← get).separators
  let fields := splitFields separators l.atoms l.regions.toList (some names.length)
  setFields names (fields.map Atom.text)
  return if hasEnd then 0 else 1

end Sh

end CommandShell.Script

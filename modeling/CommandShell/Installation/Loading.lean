import CommandShell.Pipeline.Execution
import CommandShell.Process.Calls
import CommandShell.Script.Interpreter
import CommandShell.Tool.Copying
import CommandShell.Tool.Counting
import CommandShell.Tool.Making
import CommandShell.Tool.Numbers
import CommandShell.Tool.Parts
import CommandShell.Tool.Sorting
import CommandShell.Tool.Translation

/-!
# Loading programs

What happens when a file is executed. A file that the machine provides is one of its tools. A file
that begins with `#!` names an interpreter, which is executed instead, with the file among its
arguments; this may go on for a few rounds. Anything else has no known format.
-/

namespace CommandShell.Installation

open CommandShell.Host CommandShell.Pipeline CommandShell.Process CommandShell.Text

/-! ## Programs of the machine -/

/-- The tools of the machine and what they are called. -/
def tools : List (String × (Invocation → Job Int)) :=
  [("cat", Tool.cat), ("head", Tool.head), ("tail", Tool.tail), ("tee", Tool.tee),
    ("sort", Tool.sort), ("tr", Tool.tr), ("seq", Tool.seq), ("yes", Tool.yes),
    ("echo", Tool.echo), ("pwd", Tool.pwd), ("wc", Tool.wc), ("true", fun _ ↦ pure 0),
    ("false", fun _ ↦ pure 1)]

def interpreterNames : List String := ["sh", "dash"]

/-- The names of everything that is installed. -/
def programNames : List String :=
  tools.map (·.1) ++ "env" :: interpreterNames

def programOf (launch : Launcher) (name : String) (i : Invocation) : Option Behaviour :=
  if interpreterNames.contains name then some (Script.interpret launch i)
  else if name = "env" then some (Tool.env launch i).behaviour
  else (tools.lookup name).map fun tool ↦ (tool i).behaviour

/-! ## Scripts -/

/-- How many bytes of a script are looked at. -/
def headSize : Nat := 256

/-- A byte at the start of a script; after its end there are zeros. -/
def headByte (data : ByteArray) (place : Nat) : Char :=
  if place < min headSize data.size then Char.ofNat (data.get! place).toNat else '\x00'

/-- The first place from one to another, both included, where a byte has a property. -/
def firstPlace? (data : ByteArray) (p : Char → Bool) (start last : Nat) : Option Nat :=
  ((List.range (last + 1 - start)).map (start + ·)).find? fun place ↦ p (headByte data place)

/-- Whether a character separates the parts of a first line. -/
def isGap (c : Char) : Bool :=
  c = ' ' || c = '\t'

def endsName (c : Char) : Bool :=
  isGap c || c = '\x00'

/-- The text from one place to before another one, or to the first NUL. -/
def headText (data : ByteArray) (start stop : Nat) : String :=
  String.ofList
    ((((List.range (stop - start)).map (start + ·)).map (headByte data)).takeWhile (· ≠ '\x00'))

/-- Where the first line of a script ends. One without an end is good if the name in it has one. -/
def lineEnd? (data : ByteArray) : Option Nat :=
  let last := headSize - 1
  match firstPlace? data (fun c ↦ c = '\n' || c = '\x00') 0 last with
  | some place => if headByte data place = '\n' then some place else withoutEnd last
  | none => withoutEnd last
where
  /-- The end of a line that is not there as a whole. -/
  withoutEnd (last : Nat) : Option Nat := do
    let name ← firstPlace? data (fun c ↦ !isGap c) 2 last
    let _ ← firstPlace? data endsName name last
    return last

/-- The place after a text without the gaps at its end. -/
def trimmedEnd (data : ByteArray) : (stop : Nat) → Nat
  | 0 => 0
  | stop + 1 => if isGap (headByte data stop) then trimmedEnd data stop else stop + 1

/-- The interpreter that the first line of a script names, and the argument for it if there is
one. -/
def interpreterOf (data : ByteArray) : Option (String × Option String) := do
  if headByte data 0 != '#' || headByte data 1 != '!' then failure
  let stop := trimmedEnd data (← lineEnd? data)
  let name ← firstPlace? data (fun c ↦ !isGap c) 2 stop
  if name = stop then failure
  let gap := firstPlace? data endsName name stop
  let arg := gap.bind fun gap ↦
    if headByte data gap = '\x00' then none else firstPlace? data (fun c ↦ !isGap c) gap stop
  match gap, arg with
  | some gap, some arg => return (headText data name gap, some (headText data arg stop))
  | some gap, none => return (headText data name (min gap stop), none)
  | none, _ => return (headText data name stop, none)

/-! ## Executing files -/

/-- What can be executed. -/
inductive Image
  | program (name : String)
  | script (data : ByteArray)
  deriving Inhabited

def openImage (fs : FileSystem) (cwd : NodeId) (path : String) : Except Errno Image :=
  match fs.lookUp cwd path with
  | .error e => .error e
  | .ok (_, .program name) => .ok (.program name)
  | .ok (id, .file mode data) =>
    if mode &&& 0o111 = 0 then .error .access
    else if fs.isBeingWritten id then .error .textBusy
    else .ok (.script data)
  | .ok _ => .error .access

/-- The longest argument, with the zero at its end, and the most that all of them may need. -/
def maxArgument : Nat := 131072

/-- The most bytes that arguments and environment may need. -/
def maxArguments : Nat := 2097152

/-- Whether arguments and environment have room in a process. -/
def hasRoom (i : Invocation) (path : String) : Bool :=
  let texts := i.argv.map (fun (a : String) ↦ a.length + 1) ++
    i.environment.bindings.map fun e ↦ e.1.utf8ByteSize + e.2.utf8ByteSize + 2
  texts.all (· ≤ maxArgument) &&
    texts.foldl (· + ·) 0 + 8 * texts.length + path.utf8ByteSize + 1 ≤ maxArguments

/-- Executes a file that was opened; `rounds` bounds how often an interpreter takes its place. -/
def execute (program : String → Invocation → Option Behaviour) (fs : FileSystem) :
    (rounds : Nat) → Invocation → (path : String) → Image → Except Errno Behaviour
  | _, i, _, .program name =>
    match program name i with
    | some b => .ok b
    | none => .error .execFormat
  | rounds, i, path, .script data =>
    match interpreterOf data with
    | none => .error .execFormat
    | some (interpreter, arg) => do
      let name := Octets.text interpreter
      let image ← if interpreter = "" then .error .access else openImage fs i.cwd name
      match rounds with
      | 0 => .error .loop
      | rounds + 1 =>
        let argv := interpreter :: arg.toList ++ Octets.ofText path :: i.args
        execute program fs rounds { i with argv } name image

/-- How often an interpreter may take the place of a file. -/
def maxRounds : Nat := 5

/-- Executes the file of a path. -/
def load (program : String → Invocation → Option Behaviour) : Launcher := fun fs i path ↦ do
  let image ← openImage fs i.cwd path
  if !hasRoom i path then .error .argumentsTooLong
  else execute program fs maxRounds i path image

/-- How programs are started by programs, nested so many times at most. -/
def launcher : (nesting : Nat) → Launcher
  | 0 => fun _ _ _ ↦ .error .noProcess
  | nesting + 1 => load (programOf (launcher nesting))

/-- How deep programs may start programs. -/
def maxNesting : Nat := 10000

def programs : Programs Group where
  start m streams executable argv :=
    let i : Invocation :=
      { argv := argv.map Octets.ofText, environment := m.environment, cwd := m.cwd }
    ((launcher maxNesting).search m.files i executable).map (Group.begun m.input streams)
  act := Group.act

/-- Pipelines with the programs of the machine. -/
def engine : Engine Group where
  programs := programs

end CommandShell.Installation

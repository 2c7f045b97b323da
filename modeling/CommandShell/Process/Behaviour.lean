import CommandShell.Host.Machine
import CommandShell.Process.Signal
import CommandShell.Text.Octets

/-!
# Behaviours

A behaviour is a program written down as the tree of everything it may do: it ends with a status,
starts a copy of itself that goes its own way, or makes a call to the machine and goes on with the
answer. A tree has no infinite branch; a program that would run for ever has a behaviour that runs
for a very long time.

`Job α` is a part of a program that comes to an `α` and then goes on. Jobs compose as a monad, so a
tool is a `do` block, and a program that ends early does not go on.
-/

namespace CommandShell.Process

open CommandShell.Host

abbrev ProcessId := Nat

/-- The number that a process gives to something it has open. -/
abbrev Descriptor := Nat

/-- What a descriptor leads to, as far as a program can find out. -/
inductive Opened
  | file (node : NodeId) (offset : Nat) (mode : OpenMode)
  | pipe
  deriving Repr, Inhabited

/-- The calls to the machine. -/
inductive SystemCall
  /-- Reads at most so many bytes, and waits for the first of them. -/
  | read (fd : Descriptor) (most : Nat)
  | write (fd : Descriptor) (bytes : ByteArray)
  /-- Opens a file under the least free number. -/
  | openFile (cwd : NodeId) (path : String) (mode : OpenMode)
  | close (fd : Descriptor)
  /-- Makes `target` lead where `fd` leads. -/
  | duplicate (fd target : Descriptor)
  /-- Makes the first free number that is not below `least` lead where `fd` leads. -/
  | duplicateAbove (fd least : Descriptor)
  /-- Makes a pipe: the end to read from and the end to write to. -/
  | makePipe
  /-- Goes to a place in a file. -/
  | seek (fd : Descriptor) (offset : Nat)
  | inspect (fd : Descriptor)
  /-- Changes the files; the answer is the files as they were. -/
  | change (act : FileSystem → FileSystem)
  /-- Waits for a child, or for any of them, to end. -/
  | wait (child : Option ProcessId)
  | send (target : ProcessId) (signal : Signal)
  /-- Says what is to be done with a signal; the answer is what would have been done before. -/
  | handle (signal : Signal) (disposition : Disposition)
  /-- The caught signals that have come since the last such call. -/
  | takeSignals
  /-- The numbers of the process and of its parent. -/
  | identify
  /-- What programs do that take the place of others: they forget what was caught, and keep only the
  descriptors with one digit. -/
  | takeOver
  /-- Lets the others go on. -/
  | pause

@[reducible] def SystemCall.Answer : SystemCall → Type
  | .read _ _ => Except Errno ByteArray
  | .write _ _ => Except Errno Unit
  | .openFile _ _ _ => Except Errno Descriptor
  | .close _ => Except Errno Unit
  | .duplicate _ _ => Except Errno Unit
  | .duplicateAbove _ _ => Except Errno Descriptor
  | .makePipe => Descriptor × Descriptor
  | .seek _ _ => Except Errno Unit
  | .inspect _ => Except Errno Opened
  | .change _ => FileSystem
  | .wait _ => Except Errno (ProcessId × Int)
  | .send _ _ => Except Errno Unit
  | .handle _ _ => Disposition
  | .takeSignals => List Signal
  | .identify => ProcessId × ProcessId
  | .takeOver => Unit
  | .pause => Unit

/-- A program as the tree of what it may do. -/
inductive Behaviour
  /-- It ends with a status; a signal counts as its negative number. -/
  | exit (status : Int)
  /-- It starts a child that behaves in its own way, and goes on with the child's number. -/
  | fork (child : Behaviour) (next : ProcessId → Behaviour)
  | call (c : SystemCall) (next : c.Answer → Behaviour)

instance : Inhabited Behaviour := ⟨.exit 0⟩

/-- A part of a program. -/
def Job (α : Type) : Type :=
  (α → Behaviour) → Behaviour

/-- How many steps a program is followed that would go on for ever. -/
def endurance : Nat := 1000000000

namespace Job

variable {α : Type}

instance : Monad Job where
  pure a := fun next ↦ next a
  bind job f := fun next ↦ job fun a ↦ f a next

instance : Inhabited (Job α) := ⟨fun _ ↦ .exit 0⟩

/-- The program ends. -/
def exit (status : Int) : Job α :=
  fun _ ↦ .exit status

def call (c : SystemCall) : Job c.Answer :=
  fun next ↦ .call c next

def fork (child : Behaviour) : Job ProcessId :=
  fun next ↦ .fork child next

/-- Another program takes the place of this one. -/
def become (other : Behaviour) : Job α :=
  fun _ ↦ .call .takeOver fun _ ↦ other

/-- The behaviour of a program that ends with the status it comes to. -/
def behaviour (job : Job Int) : Behaviour :=
  job .exit

def write (fd : Descriptor) (bytes : ByteArray) : Job (Except Errno Unit) :=
  call (.write fd bytes)

def read (fd : Descriptor) (most : Nat) : Job (Except Errno ByteArray) :=
  call (.read fd most)

/-- The files as they are now. -/
def look : Job FileSystem :=
  call (.change id)

/-- Writes a line of octets to standard error, whether or not anybody can read it. -/
def complain (text : String) : Job Unit := do
  let _ ← write 2 (Text.Octets.bytes (text ++ "\n"))

end Job

/-- How a program is called. Its arguments are texts of octets, the first of which is its name. -/
structure Invocation where
  argv : List String
  environment : Environment := {}
  cwd : NodeId := FileSystem.root
  deriving Inhabited

/-- The arguments without the program's own name. -/
def Invocation.args (i : Invocation) : List String :=
  i.argv.tail

/-- The name that the program was called by. -/
def Invocation.self (i : Invocation) : String :=
  i.argv.headD ""

/-- Starts a program of the machine: what the executable of a path does. -/
abbrev Launcher := FileSystem → Invocation → (path : String) → Except Errno Behaviour

end CommandShell.Process

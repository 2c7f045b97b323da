import CommandShell.Host.Environment
import CommandShell.Host.Tree

/-!
# The machine around the shell

`Machine` is what the shell shares with the programs that it starts: the files, its working
directory, its environment, its standard input, and what has been written to its standard output
and standard error. Standard input is an open file, so whoever reads from it takes what is read
away from all others.
-/

namespace CommandShell.Host

/-- The files, the working directory, the environment and the standard streams of the shell. -/
structure Machine where
  files : FileSystem := {}
  /-- The working directory, as a node: it stays what it is when its name changes. -/
  cwd : NodeId := FileSystem.root
  environment : Environment := {}
  /-- The open file that standard input is. -/
  input : FileId := 0
  /-- What went to standard output. -/
  output : ByteArray := ByteArray.empty
  /-- What went to standard error. -/
  errors : ByteArray := ByteArray.empty
  deriving Inhabited

/-- Where the shell itself can write. -/
inductive Outlet
  | output
  | errors
  | file (id : FileId)
  deriving DecidableEq, Repr, Inhabited

namespace Machine

/-- The machine with bytes to be read from standard input, in a file that has no name. -/
def withInput (m : Machine) (bytes : ByteArray) : Machine :=
  let (files, node) := m.files.addNode (.file 0o600 bytes)
  let (files, input) := files.addOpen node { reads := true, writes := true }
  { m with files, input }

/-- Takes at most so many bytes from standard input; none are left if there are none. -/
def takeInput (m : Machine) (most : Nat) : ByteArray × Machine :=
  match m.files.readOpen m.input most with
  | .ok (bytes, files) => (bytes, { m with files })
  | .error _ => (ByteArray.empty, m)

/-- Writes bytes to standard output. -/
def print (m : Machine) (bytes : ByteArray) : Machine :=
  { m with output := m.output ++ bytes }

def printError (m : Machine) (bytes : ByteArray) : Machine :=
  { m with errors := m.errors ++ bytes }

/-- Writes bytes to what the shell has open, or says why that cannot be done. -/
def write (m : Machine) (o : Outlet) (bytes : ByteArray) : Except Errno Unit × Machine :=
  match o with
  | .output => (.ok (), m.print bytes)
  | .errors => (.ok (), m.printError bytes)
  | .file id =>
    let written := m.files.writeOpen id bytes
    (written.1, { m with files := written.2 })

/-- Opens a path for writing, in place of what is there or to write after it. Some paths name what
the shell has open already. -/
def openOutlet (m : Machine) (path : String) (keep : Bool) : Except Errno (Machine × Outlet) :=
  let opened := fun (r : FileSystem × FileId) ↦ ({ m with files := r.1 }, Outlet.file r.2)
  match m.files.descriptorNamed? m.cwd path with
  | none => (m.files.openFile m.cwd path (.writing keep)).map opened
  | some 0 =>
    match m.files.open? m.input with
    | some f => (m.files.openNode f.node (.writing keep)).map opened
    | none => .error .noEntry
  | some 1 => .ok (m, .output)
  | some 2 => .ok (m, .errors)
  | some _ => .error .noEntry

/-- The directory that shows what the shell has open, by number. -/
def descriptorPath : String := "/proc/self/fd"

/-- The machine after the shell has forgotten the end of a pipe that it could read from. The end
stays open, and the next number stands for it; nobody writes to the pipe any more, so it reads as
empty. -/
def forgetReadEnd (m : Machine) : Machine :=
  match m.files.lookUp FileSystem.root descriptorPath with
  | .ok (directory, .directory _ entries) =>
    { m with files := (m.files.create directory (toString entries.length) (.device .null)).1 }
  | _ => m

/-- Gives up what was opened. -/
def closeOutlet (m : Machine) : Outlet → Machine
  | .file id => { m with files := m.files.closeFile id }
  | _ => m

/-- Writes bytes to what a path names, in place of what is there or after it. Once it was opened, it
is closed again, whether it took the bytes or not. -/
def writeFile (m : Machine) (path : String) (keep : Bool) (bytes : ByteArray) :
    Except Errno Unit × Machine :=
  match m.openOutlet path keep with
  | .error e => (.error e, m)
  | .ok (opened, o) =>
    let written := opened.write o bytes
    (written.1, written.2.closeOutlet o)

/-- The path of the working directory, unless it was removed. -/
def workingDirectory? (m : Machine) : Option String :=
  m.files.pathOf? m.cwd

/-- Moves to another working directory. -/
def changeDirectory (m : Machine) (path : String) : Except Errno Machine :=
  match m.files.lookUp m.cwd path with
  | .error e => .error e
  | .ok (id, n) => if n.isFolder then .ok { m with cwd := id } else .error .notDirectory

/-- The directories to search for commands, as one text. -/
def searchPath (m : Machine) : String :=
  (m.environment.get? "PATH").getD ""

end Machine

end CommandShell.Host

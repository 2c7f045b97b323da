import CommandShell.Host.Errno
import CommandShell.Host.Path

/-!
# The file system

A file system is a table of nodes; a node is a file, a directory, a symbolic link, or something the
machine provides. Directories hold the identities of their entries, not the entries themselves, so
an open file or a working directory stays what it is when names around it change. The files that
somebody has open are a second table.

`FileSystem.walk` is the one place where paths are resolved. It follows symbolic links with a
budget, which is also what makes it end.
-/

namespace CommandShell.Host

/-- The identity of a node: its place in the table. -/
abbrev NodeId := Nat

/-- The identity of an open file: its place in the table. -/
abbrev FileId := Nat

/-- The devices of the machine. -/
inductive Device
  /-- It swallows what is written to it and reads as empty. -/
  | null
  /-- It has no room for what is written to it and reads as zeros. -/
  | full
  /-- It swallows what is written to it and reads as zeros. -/
  | zero
  /-- The terminal of whoever asks; there is none. -/
  | terminal
  deriving DecidableEq, Repr, Inhabited

/-- What a name can stand for. -/
inductive Node
  /-- A regular file with its permission bits. -/
  | file (mode : Nat) (data : ByteArray)
  /-- A program that belongs to the machine, known by its name. -/
  | program (name : String)
  /-- A directory, the directory above it, and its entries. -/
  | directory (parent : NodeId) (entries : List (String × NodeId))
  /-- A directory that was removed: nothing is in it, but the way up remains. -/
  | removedDirectory (parent : NodeId)
  /-- A symbolic link. -/
  | link (target : String)
  | device (kind : Device)
  /-- What the process that asks has open under a number. -/
  | descriptor (number : Nat)
  deriving Inhabited

namespace Node

def isRegular : Node → Bool
  | .file _ _ => true
  | .program _ => true
  | _ => false

def isFolder : Node → Bool
  | .directory _ _ => true
  | .removedDirectory _ => true
  | _ => false

/-- Whether the permissions of a node let it be executed; a directory can always be entered. -/
def mayExecute : Node → Bool
  | .file mode _ => mode &&& 0o111 != 0
  | .program _ => true
  | .directory _ _ => true
  | .removedDirectory _ => true
  | _ => false

end Node

/-- How a file is opened. -/
structure OpenMode where
  reads : Bool := false
  writes : Bool := false
  /-- Whether the file is made if it is not there. -/
  creates : Bool := false
  /-- Whether it must not be there already. -/
  exclusive : Bool := false
  /-- Whether what is in it goes. -/
  truncates : Bool := false
  /-- Whether all bytes go to its end. -/
  appends : Bool := false
  /-- The permissions of a file that is made. -/
  permissions : Nat := 0o644
  deriving DecidableEq, Repr, Inhabited

namespace OpenMode

def reading : OpenMode := { reads := true }

/-- For writing a new file or to the end of one. -/
def writing (keep : Bool) : OpenMode :=
  { writes := true, creates := true, truncates := !keep, appends := keep }

end OpenMode

/-- A file that is open. Whoever shares it shares the place in it as well. -/
structure OpenFile where
  node : NodeId
  /-- Where the next bytes are read or written. -/
  offset : Nat := 0
  mode : OpenMode := {}
  isOpen : Bool := true
  deriving Repr, Inhabited

/-- A write to a regular file that the system refuses: no room is left, the file may not grow, or the
disk fails. -/
structure Refusal where
  /-- How many of the bytes are in the file all the same. -/
  taken : Nat
  cause : Errno
  deriving DecidableEq, Repr, Inhabited

/-- All nodes, of which the root directory is node 0, and all open files. -/
structure FileSystem where
  nodes : Array Node := #[.directory 0 []]
  opened : Array OpenFile := #[]
  /-- What becomes of the next writes to regular files, one after another: each is refused or goes
  through. All writes after these go through. -/
  refusals : List (Option Refusal) := []
  deriving Inhabited

/-- Where a path leads: to a node, or to a free name in a directory. -/
inductive Place
  | node (id : NodeId)
  | vacant (directory : NodeId) (name : String)
  deriving DecidableEq, Repr, Inhabited

namespace FileSystem

def root : NodeId := 0

/-- The greatest number of symbolic links that one path may lead through. -/
def linkBudget : Nat := 40

/-- The longest name, in bytes. -/
def maxName : Nat := 255

/-- The longest path, in bytes. -/
def maxPath : Nat := 4095

def node? (fs : FileSystem) (id : NodeId) : Option Node :=
  fs.nodes[id]?

/-- The file system with another node under this identity. -/
def setNode (fs : FileSystem) (id : NodeId) (n : Node) : FileSystem :=
  { fs with nodes := fs.nodes.setIfInBounds id n }

/-- The file system with one more node, and the node's identity. -/
def addNode (fs : FileSystem) (n : Node) : FileSystem × NodeId :=
  ({ fs with nodes := fs.nodes.push n }, fs.nodes.size)

@[simp] theorem node?_setNode_self (fs : FileSystem) (id : NodeId) (n : Node)
    (h : id < fs.nodes.size) : (fs.setNode id n).node? id = some n := by
  simp [node?, setNode, h]

@[simp] theorem node?_setNode_of_ne (fs : FileSystem) {id other : NodeId} (n : Node)
    (h : id ≠ other) : (fs.setNode id n).node? other = fs.node? other := by
  simp [node?, setNode, h]

@[simp] theorem node?_addNode_self (fs : FileSystem) (n : Node) :
    (fs.addNode n).1.node? (fs.addNode n).2 = some n := by
  simp [node?, addNode]

/-! ## Resolving paths -/

/-- Where one name leads from a node, links not followed. The length of a name matters only to a
directory that could hold it. -/
def child (fs : FileSystem) (here : NodeId) (name : String) : Except Errno Place :=
  match fs.node? here with
  | some (.directory parent entries) =>
    if name = "." then .ok (.node here)
    else if name = ".." then .ok (.node parent)
    else if maxName < name.utf8ByteSize then .error .nameTooLong
    else match entries.lookup name with
      | some id => .ok (.node id)
      | none => .ok (.vacant here name)
  | some (.removedDirectory parent) =>
    if name = "." then .ok (.node here)
    else if name = ".." then .ok (.node parent)
    else .error .noEntry
  | some _ => .error .notDirectory
  | none => .error .noEntry

/-- Walks names from a node. A link in the middle is followed always, one at the end if `follow`
says so; `links` is what is left of the budget. -/
def walk (fs : FileSystem) (follow : Bool) (links : Nat) (here : NodeId) :
    List String → Except Errno Place
  | [] => .ok (.node here)
  | name :: rest =>
    match fs.child here name with
    | .error e => .error e
    | .ok (.vacant directory name) =>
      if rest.isEmpty then .ok (.vacant directory name) else .error .noEntry
    | .ok (.node id) =>
      match fs.node? id with
      | some (.link target) =>
        if rest.isEmpty && !follow then .ok (.node id)
        else match links with
          | 0 => .error .loop
          | left + 1 =>
            walk fs follow left (if Path.isAbsolute target then root else here)
              (Path.components target ++ rest)
      | _ => walk fs follow links id rest
termination_by names => (links, names.length)

/-- Where a path leads from a working directory. -/
def locate (fs : FileSystem) (cwd : NodeId) (path : String) (follow : Bool := true) :
    Except Errno Place :=
  if path = "" then .error .noEntry
  else if maxPath < path.utf8ByteSize then .error .nameTooLong
  else fs.walk follow linkBudget (if Path.isAbsolute path then root else cwd)
    (Path.components path)

def find (fs : FileSystem) (cwd : NodeId) (path : String) (follow : Bool := true) :
    Except Errno NodeId :=
  match fs.locate cwd path follow with
  | .ok (.node id) => .ok id
  | .ok (.vacant _ _) => .error .noEntry
  | .error e => .error e

def lookUp (fs : FileSystem) (cwd : NodeId) (path : String) (follow : Bool := true) :
    Except Errno (NodeId × Node) :=
  match fs.find cwd path follow with
  | .error e => .error e
  | .ok id =>
    match fs.node? id with
    | some n => .ok (id, n)
    | none => .error .noEntry

/-- The name under which a directory holds a node. -/
def nameOf? (entries : List (String × NodeId)) (id : NodeId) : Option String :=
  (entries.find? fun e ↦ e.2 == id).map (·.1)

/-- The names from the root down to a directory; `fuel` bounds the depth. -/
def namesTo? (fs : FileSystem) : (fuel : Nat) → NodeId → Option (List String)
  | 0, _ => none
  | fuel + 1, id =>
    if id = root then some []
    else match fs.node? id with
      | some (.directory parent _) =>
        match fs.node? parent with
        | some (.directory _ entries) =>
          match nameOf? entries id, fs.namesTo? fuel parent with
          | some name, some names => some (names ++ [name])
          | _, _ => none
        | _ => none
      | _ => none

/-- The absolute path of a directory, unless it was removed. -/
def pathOf? (fs : FileSystem) (id : NodeId) : Option String :=
  (fs.namesTo? (fs.nodes.size + 1) id).map fun names ↦ "/" ++ String.intercalate "/" names

end FileSystem

end CommandShell.Host

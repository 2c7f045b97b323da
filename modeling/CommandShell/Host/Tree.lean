import CommandShell.Host.Files

/-!
# Shaping the tree

Making and removing directories, and putting nodes under names.
-/

namespace CommandShell.Host.FileSystem

/-- The directory under a name, made if it is not there. -/
def enterOrMake (fs : FileSystem) (here : NodeId) (name : String) :
    Except Errno (FileSystem × NodeId) :=
  match fs.walk true linkBudget here [name] with
  | .error e => .error e
  | .ok (.node id) =>
    match fs.node? id with
    | some n => if n.isFolder then .ok (fs, id) else .error .notDirectory
    | none => .error .noEntry
  | .ok (.vacant directory name) => .ok (fs.create directory name (.directory directory []))

/-- The directory that names lead to, made with all directories on the way. -/
def makeNames (fs : FileSystem) (here : NodeId) : List String → Except Errno (FileSystem × NodeId)
  | [] => .ok (fs, here)
  | name :: rest =>
    match fs.enterOrMake here name with
    | .error e => .error e
    | .ok (fs, id) => fs.makeNames id rest

/-- The directory that a path names, made with all directories on the way. -/
def makeDirectory (fs : FileSystem) (cwd : NodeId) (path : String) :
    Except Errno (FileSystem × NodeId) :=
  fs.makeNames (if Path.isAbsolute path then root else cwd) (Path.components path)

/-- Puts a node under the last name of a path, in place of what was there. Directories on the way
are made. -/
def place (fs : FileSystem) (cwd : NodeId) (path : String) (n : Node) :
    Except Errno FileSystem :=
  match (Path.components path).reverse with
  | [] => .error .isDirectory
  | last :: above =>
    match fs.makeNames (if Path.isAbsolute path then root else cwd) above.reverse with
    | .error e => .error e
    | .ok (fs, directory) =>
      match fs.walk true linkBudget directory [last] with
      | .error e => .error e
      | .ok (.node id) => .ok (fs.setNode id n)
      | .ok (.vacant directory name) => .ok (fs.create directory name n).1

/-- Changes the permission bits of the file that a path names. -/
def setMode (fs : FileSystem) (cwd : NodeId) (path : String) (mode : Nat) :
    Except Errno FileSystem :=
  match fs.lookUp cwd path with
  | .error e => .error e
  | .ok (id, .file _ data) => .ok (fs.setNode id (.file mode data))
  | .ok _ => .ok fs

/-- Marks the directories below a node as removed; `fuel` bounds the depth. -/
def clear (fs : FileSystem) : (fuel : Nat) → NodeId → FileSystem
  | 0, _ => fs
  | fuel + 1, id =>
    match fs.node? id with
    | some (.directory parent entries) =>
      let below := entries.foldl (fun fs e ↦ fs.clear fuel e.2) fs
      below.setNode id (.removedDirectory parent)
    | _ => fs

/-- Removes what a path names, with everything below it. -/
def remove (fs : FileSystem) (cwd : NodeId) (path : String) : Except Errno FileSystem :=
  match fs.find cwd path false with
  | .error e => .error e
  | .ok id =>
    let trimmed := fs.clear (fs.nodes.size + 1) id
    let cut := fun (n : Node) ↦ match n with
      | .directory parent entries => .directory parent (entries.filter fun e ↦ e.2 != id)
      | n => n
    .ok { trimmed with nodes := trimmed.nodes.map cut }

end CommandShell.Host.FileSystem

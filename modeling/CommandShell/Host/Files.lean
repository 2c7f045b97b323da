import CommandShell.Host.FileSystem

/-!
# Files

What the file system answers about a path, and how files are opened, read and written. An open file
is known by its node, so what happens to its name later does not matter to it.
-/

namespace CommandShell.Host.FileSystem

/-! ## Questions about paths -/

/-- Whether a path names anything, symbolic links followed. -/
def pathExists (fs : FileSystem) (cwd : NodeId) (path : String) : Bool :=
  (fs.find cwd path).isOk

/-- Whether a path names a node with a property. -/
def holds (fs : FileSystem) (cwd : NodeId) (path : String) (p : Node → Bool) : Bool :=
  match fs.lookUp cwd path with
  | .ok (_, n) => p n
  | .error _ => false

def isFile (fs : FileSystem) (cwd : NodeId) (path : String) : Bool :=
  fs.holds cwd path Node.isRegular

def isDirectory (fs : FileSystem) (cwd : NodeId) (path : String) : Bool :=
  fs.holds cwd path Node.isFolder

/-- Whether the permissions of what a path names let it be executed. -/
def isAccessible (fs : FileSystem) (cwd : NodeId) (path : String) : Bool :=
  fs.holds cwd path Node.mayExecute

/-- The names in a directory, in no particular order. -/
def list (fs : FileSystem) (cwd : NodeId) (path : String) : Except Errno (List String) :=
  match fs.lookUp cwd path with
  | .error e => .error e
  | .ok (_, .directory _ entries) => .ok (entries.map (·.1))
  | .ok (_, .removedDirectory _) => .ok []
  | .ok _ => .error .notDirectory

/-! ## Contents -/

def contents (fs : FileSystem) (id : NodeId) : Except Errno ByteArray :=
  match fs.node? id with
  | some (.file _ data) => .ok data
  | some (.program _) => .ok ByteArray.empty
  | some (.device .terminal) => .error .noDevice
  | some (.device _) => .ok ByteArray.empty
  | some (.descriptor _) => .error .noDevice
  | some (.directory _ _) => .error .isDirectory
  | some (.removedDirectory _) => .error .isDirectory
  | some (.link _) => .error .loop
  | none => .error .noEntry

/-- The bytes of the file that a path names. -/
def read (fs : FileSystem) (cwd : NodeId) (path : String) : Except Errno ByteArray :=
  match fs.find cwd path with
  | .error e => .error e
  | .ok id => fs.contents id

def addEntry (fs : FileSystem) (directory : NodeId) (name : String) (id : NodeId) : FileSystem :=
  match fs.node? directory with
  | some (.directory parent entries) =>
    fs.setNode directory (.directory parent (entries ++ [(name, id)]))
  | _ => fs

/-- A new node under a free name. -/
def create (fs : FileSystem) (directory : NodeId) (name : String) (n : Node) :
    FileSystem × NodeId :=
  let added := fs.addNode n
  (added.1.addEntry directory name added.2, added.2)

/-- Bytes laid over old bytes from an offset on; a gap is filled with zeros. -/
def overlay (old : ByteArray) (offset : Nat) (new : ByteArray) : ByteArray :=
  if offset = old.size then old ++ new
  else
    let before := old.extract 0 offset
    let gap : ByteArray := ⟨Array.replicate (offset - old.size) 0⟩
    before ++ gap ++ new ++ old.extract (offset + new.size) old.size

/-- The number of bytes of a node. -/
def size (fs : FileSystem) (id : NodeId) : Nat :=
  match fs.node? id with
  | some (.file _ data) => data.size
  | _ => 0

/-! ## Open files -/

def asksForDirectory (path : String) : Bool :=
  path.toList.getLast? = some '/'

def addOpen (fs : FileSystem) (node : NodeId) (mode : OpenMode) : FileSystem × FileId :=
  ({ fs with opened := fs.opened.push { node, mode } }, fs.opened.size)

def openNode (fs : FileSystem) (id : NodeId) (mode : OpenMode) :
    Except Errno (FileSystem × FileId) :=
  match fs.node? id with
  | some (.file permissions data) =>
    if mode.truncates && !data.isEmpty then
      .ok ((fs.setNode id (.file permissions ByteArray.empty)).addOpen id mode)
    else .ok (fs.addOpen id mode)
  | some (.program _) => if mode.writes then .error .textBusy else .ok (fs.addOpen id mode)
  | some (.device .terminal) => .error .noDevice
  | some (.device _) => .ok (fs.addOpen id mode)
  | some (.descriptor _) => .error .noDevice
  | some (.directory _ _) =>
    if mode.writes || mode.creates then .error .isDirectory else .ok (fs.addOpen id mode)
  | some (.removedDirectory _) =>
    if mode.writes || mode.creates then .error .isDirectory else .ok (fs.addOpen id mode)
  | some (.link _) => .error .loop
  | none => .error .noEntry

def openFile (fs : FileSystem) (cwd : NodeId) (path : String) (mode : OpenMode) :
    Except Errno (FileSystem × FileId) :=
  match fs.locate cwd path with
  | .ok (.vacant directory name) =>
    if mode.creates then
      let made := fs.create directory name (.file mode.permissions ByteArray.empty)
      .ok (made.1.addOpen made.2 mode)
    else .error .noEntry
  | .ok (.node id) => if mode.exclusive then .error .exists else fs.openNode id mode
  | .error .noEntry =>
    if mode.creates && asksForDirectory path &&
        (fs.locate cwd (Path.dropEndSlashes path)).isOk then
      .error .isDirectory
    else .error .noEntry
  | .error e => .error e

def descriptorNamed? (fs : FileSystem) (cwd : NodeId) (path : String) : Option Nat :=
  match fs.lookUp cwd path with
  | .ok (_, .descriptor number) => some number
  | _ => none

def open? (fs : FileSystem) (id : FileId) : Option OpenFile :=
  match fs.opened[id]? with
  | some f => if f.isOpen then some f else none
  | none => none

def changeOpen (fs : FileSystem) (id : FileId) (f : OpenFile → OpenFile) : FileSystem :=
  { fs with opened := fs.opened.modify id f }

def closeFile (fs : FileSystem) (id : FileId) : FileSystem :=
  fs.changeOpen id fun f ↦ { f with isOpen := false }

/-- Goes to a place in an open file. -/
def seek (fs : FileSystem) (id : FileId) (offset : Nat) : FileSystem :=
  fs.changeOpen id fun f ↦ { f with offset }

def readOpen (fs : FileSystem) (id : FileId) (most : Nat) : Except Errno (ByteArray × FileSystem) :=
  match fs.open? id with
  | none => .error .badDescriptor
  | some f =>
    if !f.mode.reads then .error .badDescriptor
    else match fs.node? f.node with
      | some (.device .zero) => .ok (⟨Array.replicate most 0⟩, fs)
      | some (.device .full) => .ok (⟨Array.replicate most 0⟩, fs)
      | _ =>
        match fs.contents f.node with
        | .error e => .error e
        | .ok data =>
          let stop := min (f.offset + most) data.size
          .ok (data.extract f.offset stop, fs.seek id (max f.offset stop))

def writeAt (fs : FileSystem) (id : NodeId) (offset : Nat) (bytes : ByteArray) : FileSystem :=
  match fs.node? id with
  | some (.file mode data) => fs.setNode id (.file mode (overlay data offset bytes))
  | _ => fs

/-- What the system answers to a write of bytes to a regular file, what it takes of them, and what
becomes of the writes after this one. No bytes are no write. -/
def accept (refusals : List (Option Refusal)) (bytes : ByteArray) :
    Except Errno Unit × ByteArray × List (Option Refusal) :=
  match refusals with
  | [] => (.ok (), bytes, [])
  | next :: later =>
    if bytes.isEmpty then (.ok (), bytes, next :: later)
    else match next with
      | none => (.ok (), bytes, later)
      | some refusal => (.error refusal.cause, bytes.extract 0 refusal.taken, later)

def writeThrough (fs : FileSystem) (id : FileId) (f : OpenFile) (bytes : ByteArray) : FileSystem :=
  let offset := if f.mode.appends then fs.size f.node else f.offset
  (fs.writeAt f.node offset bytes).seek id (offset + bytes.size)

def writeOpen (fs : FileSystem) (id : FileId) (bytes : ByteArray) :
    Except Errno Unit × FileSystem :=
  match fs.open? id with
  | none => (.error .badDescriptor, fs)
  | some f =>
    if !f.mode.writes then (.error .badDescriptor, fs)
    else match fs.node? f.node with
      | some (.device .full) => (if bytes.isEmpty then .ok () else .error .noSpace, fs)
      | some (.file _ _) =>
        let (answer, taken, refusals) := accept fs.refusals bytes
        (answer, { fs with refusals }.writeThrough id f taken)
      | _ => (.ok (), fs.writeThrough id f bytes)

/-- Whether somebody has a node open for writing. -/
def isBeingWritten (fs : FileSystem) (id : NodeId) : Bool :=
  fs.opened.any fun f ↦ f.isOpen && f.mode.writes && f.node == id

end CommandShell.Host.FileSystem

import CommandShell.Fault
import CommandShell.Host.Machine

/-!
# Finding executables

A name with a slash in it is a path, and it is an executable if it names a regular file that may be
executed. Any other name is looked for in the directories of the search path, from left to right;
an empty entry stands for no directory.

What is found is written as the search path has it, so a relative entry gives a relative path. A
name that is a path is made absolute, lexically.
-/

namespace CommandShell

open CommandShell.Host CommandShell.Text

namespace Command

/-- Whether a path names a regular file that may be executed. A path with a NUL character names
nothing. -/
def isExecutable (m : Machine) (path : String) : Bool :=
  !Path.hasNul path && m.files.isFile m.cwd path && m.files.isAccessible m.cwd path

def directories (searchPath : String) : List String :=
  (splitString ':' searchPath).filter (· ≠ "")

/-- The executable of a name in the first directory that has one. -/
def searchFor (m : Machine) (searchPath name : String) : Option String :=
  ((directories searchPath).map fun d ↦ Path.join d name).find? (isExecutable m)

/-- The executable that a name stands for, if it stands for one. A relative path cannot be made
absolute when the working directory is gone. -/
def findExecutable (m : Machine) (name : String) (searchPath : Option String := none) :
    Except Fault (Option String) :=
  if name = "" then .ok none
  else if Path.hasSlash name then
    if isExecutable m name then
      if Path.isAbsolute name then .ok (some (Path.absolute "/" name))
      else match m.workingDirectory? with
        | some here => .ok (some (Path.absolute here name))
        | none => .error .workingDirectoryGone
    else .ok none
  else .ok (searchFor m (searchPath.getD m.searchPath) name)

/-- What a command name can stand for. -/
inductive Meaning
  | builtin
  | external (executable : String)
  | unknown
  deriving DecidableEq, Repr, Inhabited

/-- What a command name stands for; a builtin hides an executable of the same name. -/
def meaningOf (registered : List String) (m : Machine) (name : String) :
    Except Fault Meaning :=
  if registered.contains name then .ok .builtin
  else match findExecutable m name with
    | .error fault => .error fault
    | .ok (some path) => .ok (.external path)
    | .ok none => .ok .unknown

end Command

end CommandShell

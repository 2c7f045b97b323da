import CommandShell.Text.Split

/-!
# Paths as text

What can be said about a path without looking at any file. Three readings of a path occur:

* `components` is how the file system walks it, name by name;
* `normalise` tidies it without changing what it names: repeated slashes, `.` parts and a slash at
  the end go, `..` parts stay;
* `absolute` is lexical: a `..` removes the part before it, even if that part is a symbolic link.

Exactly two slashes at the start are kept as they are; three or more count as one.
-/

namespace CommandShell.Path

open CommandShell.Text

/-- Whether the path starts at the root directory. -/
def isAbsolute (path : String) : Bool :=
  path.toList.head? = some '/'

/-- Whether the path has a slash in it, so that no search path applies to it. -/
def hasSlash (path : String) : Bool :=
  path.toList.contains '/'

/-- Whether the path has a NUL character, which no system call takes. -/
def hasNul (path : String) : Bool :=
  path.toList.contains '\x00'

/-- The slashes that an absolute path keeps at its start. -/
def rootSlashes (path : String) : String :=
  match path.toList with
  | '/' :: '/' :: '/' :: _ => "/"
  | '/' :: '/' :: _ => "//"
  | '/' :: _ => "/"
  | _ => ""

/-- The names of the path in order. A slash at the end asks for a directory, as a `.` would. -/
def components (path : String) : List String :=
  let names := (splitString '/' path).filter (· ≠ "")
  if path.toList.getLast? = some '/' && !names.isEmpty then names ++ ["."] else names

/-- The parts that `normalise` keeps. -/
def parts (path : String) : List String :=
  (splitString '/' path).filter fun part ↦ part ≠ "" && part ≠ "."

/-- The path without repeated slashes, `.` parts and a slash at the end. -/
def normalise (path : String) : String :=
  match rootSlashes path ++ String.intercalate "/" (parts path) with
  | "" => "."
  | tidy => tidy

/-- The parts so far, last part first, after one more part of a path that may start at the root.
A `..` removes the part before it; there is nothing above the root. -/
def collapseStep (rooted : Bool) (seen : List String) (part : String) : List String :=
  if part ≠ ".." then part :: seen
  else match seen with
    | [] => if rooted then [] else [part]
    | before :: rest => if before = ".." then part :: seen else rest

/-- The path with every `..` taken lexically. -/
def collapse (path : String) : String :=
  let rooted := isAbsolute path
  let kept := ((parts path).foldl (collapseStep rooted) []).reverse
  match rootSlashes path ++ String.intercalate "/" kept with
  | "" => "."
  | tidy => tidy

def join (directory name : String) : String :=
  if isAbsolute name then name
  else if directory = "" || directory.toList.getLast? = some '/' then directory ++ name
  else directory ++ "/" ++ name

def absolute (workingDirectory path : String) : String :=
  collapse (if isAbsolute path then path else join workingDirectory path)

/-- The text without the slashes at its end. -/
def dropEndSlashes (path : String) : String :=
  String.ofList (path.toList.reverse.dropWhile (· = '/')).reverse

end CommandShell.Path

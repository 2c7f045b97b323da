import CommandShell.Script.BuiltinArguments
import CommandShell.Script.Programs

/-!
# Builtins for directories and permissions

The working directory goes by the path on which it was reached, links included, until somebody asks
for the path without links.
-/

namespace CommandShell.Script

open CommandShell.Host CommandShell.Process CommandShell.Text

/-- The path that a directory goes by after a change from another one. A part `..` takes the part
before it away. -/
def changedPath (directory path : String) : String :=
  let isAbsolute := Path.isAbsolute path
  let base := if isAbsolute then [] else splitString '/' directory
  let parts := (base ++ splitString '/' path).filter fun part ↦ part ≠ "" && part ≠ "."
  let kept := parts.foldl (fun seen part ↦ if part = ".." then seen.tail else part :: seen) []
  let start := Path.rootSlashes (if isAbsolute then path else directory)
  start ++ String.intercalate "/" kept.reverse

/-- Whether a path leads from the working directory itself, so that it is looked for nowhere
else. -/
def isFromHere (path : String) : Bool :=
  Path.isAbsolute path || path = "." || path = ".." || path.startsWith "./" ||
    path.startsWith "../"

namespace Sh

/-- The path of the working directory without links. It is empty if there is none. -/
def physicalDirectory : Sh String := do
  let s ← get
  match (← look).pathOf? s.cwd with
  | some path => return Octets.ofText path
  | none =>
    warn ("getcwd() failed: " ++ Errno.noEntry.message)
    return ""

/-- Notes the path that the working directory goes by; without one it is looked up. -/
def noteDirectory (path : Option String) (keepsOld : Bool) : Sh Unit := do
  if keepsOld then setVariable "OLDPWD" (some (← get).directory) true
  let path ← path.elim physicalDirectory pure
  modify fun s ↦ { s with directory := path }
  setVariable "PWD" (some path) true

/-- Moves to another working directory; the answer is whether that could be done. -/
def changeDirectory (path : String) (isPhysical : Bool) : Sh Bool := do
  let s ← get
  let named := if isPhysical || (s.directory = "" && !Path.isAbsolute path) then none
    else some (changedPath s.directory path)
  match (← look).lookUp s.cwd (Octets.text (named.getD path)) with
  | .ok (id, n) =>
    if !n.isFolder then return false
    modify fun s ↦ { s with cwd := id }
    noteDirectory named true
    modify State.unsettleCommands
    return true
  | .error _ => return false

/-- Whether the options of a builtin ask for paths without links; the last one counts. -/
def asksForPhysical (options : List (Char × String)) : Bool :=
  (options.getLast?.map (·.1)) = some 'P'

/-- The first directory of a path in a list of them, and whether that is worth mentioning. -/
def directoryAmong (fs : FileSystem) (cwd : NodeId) (path : String) :
    List String → Option (String × Bool)
  | [] => none
  | directory :: rest =>
    let full := if directory = "" then path else directory ++ "/" ++ path
    if fs.isDirectory cwd (Octets.text full) then some (full, directory != "")
    else directoryAmong fs cwd path rest

/-- Moves to another working directory. -/
def cd (args : List String) : Sh Int := do
  let (options, operands) ← readOptions "LP" args
  let isPhysical := asksForPhysical options
  let goesBack := operands.head? = some "-"
  let s ← get
  let destination := (match operands with
    | [] => s.value? "HOME"
    | "-" :: _ => s.value? "OLDPWD"
    | path :: _ => some path).getD ""
  let named := if destination = "" then "." else destination
  let fs ← look
  let found := if isFromHere destination then none
    else directoryAmong fs s.cwd named (splitString ':' ((s.value? "CDPATH").getD ""))
  let (path, isWorthSaying) := found.getD (named, false)
  if !(← changeDirectory path isPhysical) then fail ("can't cd to " ++ named)
  if isWorthSaying || goesBack then print ((← get).directory ++ "\n")
  return 0

/-- Prints the working directory. -/
def pwd (args : List String) : Sh Int := do
  let (options, _) ← readOptions "LP" args
  let path ← if asksForPhysical options then physicalDirectory else pure (← get).directory
  print (path ++ "\n")
  return 0

/-! ## Permissions of new files -/

/-- The bits for who and what letters stand for. -/
def whoBits (c : Char) : Nat :=
  match c with
  | 'u' => 0o700
  | 'g' => 0o070
  | 'o' => 0o007
  | _ => 0o777

/-- The bits for what letters stand for. -/
def permissionBits (mode : Nat) (c : Char) : Option Nat :=
  match c with
  | 'r' => some 0o444
  | 'w' => some 0o222
  | 'x' | 'X' => some 0o111
  | 'u' => some (mode / 64 % 8 * 0o111)
  | 'g' => some (mode / 8 % 8 * 0o111)
  | 'o' => some (mode % 8 * 0o111)
  | 's' | 't' => some 0
  | _ => none

/-- Permissions after one clause of a symbolic mode. -/
def applyClause (mode : Nat) (clause : List Char) : Option Nat :=
  let (who, rest) := clause.span "ugoa".toList.contains
  let scope := if who.isEmpty then 0o777 else who.foldl (fun n c ↦ n ||| whoBits c) 0
  if rest.isEmpty then none else actions (rest.length + 1) scope mode rest
where
  /-- Permissions after the operators of a clause. -/
  actions : (fuel : Nat) → (scope mode : Nat) → List Char → Option Nat
    | 0, _, mode, _ => some mode
    | _, _, mode, [] => some mode
    | fuel + 1, scope, mode, op :: rest =>
      if !"+-=".toList.contains op then none
      else
        let (letters, rest) := rest.span fun c ↦ !"+-=".toList.contains c
        let bits := letters.foldlM (fun n c ↦ (permissionBits mode c).map (n ||| ·)) 0
        bits.bind fun bits ↦
          let chosen := bits &&& scope
          let next := match op with
            | '+' => mode ||| chosen
            | '-' => mode - (mode &&& chosen)
            | _ => (mode - (mode &&& scope)) ||| chosen
          actions fuel scope next rest

/-- Permissions after all clauses of a symbolic mode. -/
def applyClauses (mode : Nat) (text : String) : Option Nat :=
  ((splitString ',' text).map String.toList).foldlM applyClause mode

def shownPermissions (mode : Nat) : String :=
  let letters := fun (n : Nat) ↦
    (if n / 4 % 2 = 1 then "r" else "") ++ (if n / 2 % 2 = 1 then "w" else "") ++
      (if n % 2 = 1 then "x" else "")
  "u=" ++ letters (mode / 64) ++ ",g=" ++ letters (mode / 8) ++ ",o=" ++ letters mode

/-- Four octal digits. -/
def octalMode (mode : Nat) : String :=
  let digits := String.ofList (Nat.toDigits 8 mode)
  String.ofList (List.replicate (4 - digits.length) '0') ++ digits

/-- Prints or sets the permissions that new files do not get. -/
def umask (args : List String) : Sh Int := do
  let (options, operands) ← readOptions "S" args
  let s ← get
  match operands with
  | [] =>
    print (if options.isEmpty then octalMode s.umask ++ "\n"
      else shownPermissions (0o777 - s.umask) ++ "\n")
  | text :: _ =>
    if (text.toList.head?).any fun c ↦ '0' ≤ c && c ≤ '9' then
      if text.toList.any fun c ↦ c < '0' || '7' < c then failNumber text
      let mode := text.toList.foldl (fun n c ↦ (8 * n + (c.toNat - 48)) % 0x100000000) 0
      modify fun s ↦ { s with umask := mode % 0o1000 }
    else
      match applyClauses (0o777 - s.umask) text with
      | some mode => modify fun s ↦ { s with umask := 0o777 - (mode &&& 0o777) }
      | none => fail ("Illegal mode: " ++ text)
  return 0

end Sh

end CommandShell.Script

import CommandShell.Script.Expansion

/-!
# Redirections

A redirection leads a descriptor to a file, to where another descriptor leads, or to the text of a
document. The words of all redirections of a command are expanded before the first of them is
followed.
-/

namespace CommandShell.Script

open CommandShell.Host CommandShell.Process CommandShell.Text

/-- A redirection whose word was expanded. -/
inductive Target
  | file (kind : FileKind) (name : String)
  /-- Where another descriptor leads. -/
  | descriptor (source : Descriptor)
  /-- Nowhere. -/
  | nowhere
  | document (text : String)
  deriving DecidableEq, Repr, Inhabited

/-- What scripts say about a failure; a file or directory that is not there has words of its own. -/
def failureWords (missing : String) (e : Errno) : String :=
  if e = .noEntry ∨ e = .notDirectory then missing else e.message

namespace Sh

/-- Gives up on something that is no descriptor. -/
def failDescriptor {α : Type} : Sh α := do
  failReading (← get).readLine "Bad fd number"

/-- Where a word leads that stands for a descriptor. -/
def descriptorOf (text : String) : Sh Target := do
  match text.toList with
  | ['-'] => return .nowhere
  | [c] => if '0' ≤ c && c ≤ '9' then return .descriptor (c.toNat - 48) else failDescriptor
  | _ => failDescriptor

def targetOf (core : Core) : Redirection → Sh (Descriptor × Target)
  | .file fd kind name => return (fd, .file kind (← expandText core name))
  | .duplicate fd _ source => do
    match plainText? source with
    | some text => return (fd, ← descriptorOf text)
    | none => return (fd, ← descriptorOf ((← expandFields core source).headD ""))
  | .document fd number expands => do
    let word := ((← get).documents.lookup number).getD []
    if expands then return (fd, .document (← expandDocument core word))
    else return (fd, .document (quotedText word))

/-- Opens a file under the least free number. -/
def openFile (path : String) (mode : OpenMode) : Sh Descriptor := do
  let s ← get
  match ← call (.openFile s.cwd (Octets.text path) mode) with
  | .ok fd => return fd
  | .error e =>
    if mode.creates then
      fail ("cannot create " ++ path ++ ": " ++ failureWords "Directory nonexistent" e)
    else fail ("cannot open " ++ path ++ ": " ++ failureWords "No such file" e)

def openMode (s : State) : FileKind → OpenMode
  | .input => .reading
  | .both => { reads := true, writes := true, creates := true, permissions }
  | .append => { OpenMode.writing true with permissions }
  | .output | .clobber => { OpenMode.writing false with permissions }
where
  /-- The permissions of a file that is made. -/
  permissions : Nat := 0o666 - (0o666 &&& s.umask)

/-- Opens the file of a redirection. With the option for that, a regular file that is there is not
written over. -/
def openTarget (kind : FileKind) (path : String) : Sh Descriptor := do
  let s ← get
  let mode := openMode s kind
  if kind = .output && s.options.contains 'C' then
    match (← look).lookUp s.cwd (Octets.text path) with
    | .error _ => openFile path { mode with exclusive := true, truncates := false }
    | .ok (_, n) =>
      if n.isRegular then
        fail ("cannot create " ++ path ++ ": " ++ Errno.exists.message)
      else openFile path { mode with truncates := false }
  else openFile path mode

def openDocument (text : String) : Sh Descriptor := do
  let (input, output) ← call .makePipe
  let _ ← call (.write output (Octets.bytes text))
  close output
  return input

def lead (fd opened : Descriptor) : Sh Unit := do
  if opened != fd then
    match ← duplicate opened fd with
    | .ok () => close opened
    | .error e =>
      close opened
      fail (toString opened ++ ": " ++ e.message)

/-- Follows one redirection. What was there before is kept if `keeps` says so. -/
def redirect (keeps : Bool) : Descriptor × Target → Sh Unit
  | (fd, target) => do
    let guard := fun (changes : Bool) ↦ if keeps then keep fd changes else pure ()
    match target with
    | .file kind path =>
      let opened ← openTarget kind path
      guard (opened != fd)
      lead fd opened
    | .document text =>
      let opened ← openDocument text
      guard (opened != fd)
      lead fd opened
    | .descriptor source =>
      if source != fd then
        guard true
        if let .error e ← duplicate source fd then
          fail (toString source ++ ": " ++ e.message)
    | .nowhere =>
      guard true
      close fd

/-- Expands the words of redirections. -/
def targetsOf (core : Core) (redirections : List Redirection) :
    Sh (List (Descriptor × Target)) :=
  redirections.mapM (targetOf core)

/-- Follows redirections. An error in one of them is only told; the answer is whether there was
none. -/
def redirectAll (targets : List (Descriptor × Target)) : Sh Bool := do
  match ← attempt (targets.forM (redirect true)) with
  | .ok () => return true
  | .error .failure => return false
  | .error how => throw how

end Sh

end CommandShell.Script

import CommandShell.Process.Behaviour

/-!
# Looking for executables

A program that is called by a name without a slash is looked for in the directories of the search
path of the environment that it is called in.
-/

namespace CommandShell.Process

open CommandShell.Host

/-- The paths that an executable can stand for when a process is started: itself if it has a slash,
else its name in each directory of the search path. -/
def executablePaths (e : Environment) (executable : String) : List String :=
  if Path.hasSlash executable then [executable]
  else
    (Text.splitString ':' ((e.get? "PATH").getD "/bin:/usr/bin")).map fun directory ↦
      Path.join directory executable

/-- Starts the first of some paths that can be; otherwise the answer is the first reason that is
more than the lack of a file. -/
def launchFirst {β : Type} (launch : String → Except Errno β) (reason : Option Errno)
    (last : Errno) : List String → Except Errno β
  | [] => .error (reason.getD last)
  | path :: rest =>
    match launch path with
    | .ok b => .ok b
    | .error e =>
      let isLack := e = .noEntry ∨ e = .notDirectory
      launchFirst launch (if reason.isSome ∨ isLack then reason else some e) e rest

/-- Starts the executable of a name. -/
def Launcher.search (launch : Launcher) (fs : FileSystem) (i : Invocation) (name : String) :
    Except Errno Behaviour :=
  launchFirst (launch fs i) none .noEntry (executablePaths i.environment name)

end CommandShell.Process

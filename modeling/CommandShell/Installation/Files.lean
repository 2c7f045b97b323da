import CommandShell.Installation.Loading

/-!
# The files of a fresh machine

The tree that a machine begins with: the programs under `/usr/bin`, where `/bin` leads as well, the
devices, what a process has open, and some empty directories.
-/

namespace CommandShell.Installation

open CommandShell.Host

def freshDirectories : List String :=
  ["/usr/bin", "/dev", Machine.descriptorPath, "/etc", "/home", "/root", "/tmp", "/var"]

def freshDevices : List (String × Device) :=
  [("null", .null), ("full", .full), ("zero", .zero), ("tty", .terminal)]

/-- The names for what a process has open. -/
def descriptorNames : List (String × Nat) :=
  [("stdin", 0), ("stdout", 1), ("stderr", 2)] ++
    (List.range 10).map fun n ↦ ("fd/" ++ toString n, n)

/-- The nodes of a fresh machine that are no directories. -/
def freshNodes : List (String × Node) :=
  ("/bin", .link "usr/bin") :: ("/dev/fd", .link Machine.descriptorPath) ::
    freshDevices.map (fun d ↦ ("/dev/" ++ d.1, .device d.2)) ++
    descriptorNames.map (fun d ↦ ("/dev/" ++ d.1, .descriptor d.2)) ++
    programNames.map fun name ↦ ("/usr/bin/" ++ name, .program name)

def changed (fs : FileSystem) : Except Errno FileSystem → FileSystem
  | .ok after => after
  | .error _ => fs

def freshFiles : FileSystem :=
  let folders := freshDirectories.foldl (fun fs path ↦
    changed fs ((fs.makeDirectory FileSystem.root path).map (·.1))) {}
  freshNodes.foldl (fun fs n ↦ changed fs (fs.place FileSystem.root n.1 n.2)) folders

end CommandShell.Installation

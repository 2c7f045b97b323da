import CommandShell.Installation.Loading
import CommandShell.Proofs.Host.Walking

/-!
# Which file is executed

A program is started from a path, but the path matters only in two ways: it leads to a file, which
is opened, and a script is told it. So two paths that name the same node start the same file
(`openImage_eq_of_find_eq`), and what a start makes of the file that it has opened is a function of
its own (`startImage`). The search path of the environment is not asked again for an executable with
a slash in it.
-/

namespace CommandShell

open CommandShell.Host CommandShell.Pipeline CommandShell.Process

theorem Process.Launcher.search_of_hasSlash (launch : Launcher) (fs : FileSystem) (i : Invocation)
    {path : String} (h : Path.hasSlash path = true) :
    launch.search fs i path = launch fs i path := by
  rw [Launcher.search, executablePaths, if_pos h, launchFirst]
  split
  · next started hstarted => exact hstarted.symm
  · next reason hreason =>
    rw [hreason]
    dsimp only
    split_ifs <;> rfl

theorem Host.FileSystem.isBeingWritten_of_opened_eq {fs : FileSystem} (h : fs.opened = #[])
    (id : NodeId) : fs.isBeingWritten id = false := by
  simp [isBeingWritten, h]

namespace Installation

theorem openImage_eq_of_find_eq {fs : FileSystem} {cwd cwd' : NodeId} {path path' : String}
    (h : fs.find cwd path = fs.find cwd' path') :
    openImage fs cwd path = openImage fs cwd' path' := by
  rw [openImage, openImage, FileSystem.lookUp_eq_of_find_eq h]

theorem openImage_of_find {fs : FileSystem} {cwd id : NodeId} {path : String} {mode : Nat}
    {data : ByteArray} (hfind : fs.find cwd path = .ok id)
    (hnode : fs.node? id = some (.file mode data)) (hmode : mode &&& 0o111 ≠ 0)
    (hwritten : fs.isBeingWritten id = false) : openImage fs cwd path = .ok (.script data) := by
  rw [openImage, FileSystem.lookUp_eq_ok_iff.mpr ⟨hfind, hnode⟩]
  dsimp only
  rw [if_neg hmode, hwritten]
  rfl

/-- What is started of a file that was opened; a script is told the path. -/
def startImage (m : Machine) (streams : Streams) (path : String) (argv : List String)
    (image : Image) : Except Errno Group :=
  let i : Invocation :=
    { argv := argv.map Text.Octets.ofText, environment := m.environment, cwd := m.cwd }
  (if !hasRoom i path then .error .argumentsTooLong
    else execute (programOf (launcher (maxNesting - 1))) m.files maxRounds i path image).map
    (Group.begun m.input streams)

/-- **Starting a path is opening the file that it names, and executing that.** -/
theorem start_eq (m : Machine) (streams : Streams) {path : String}
    (h : Path.hasSlash path = true) (argv : List String) :
    programs.start m streams path argv =
      (openImage m.files m.cwd path).bind (startImage m streams path argv) := by
  have hlauncher : launcher maxNesting = load (programOf (launcher (maxNesting - 1))) := rfl
  simp only [programs, hlauncher, Launcher.search_of_hasSlash _ _ _ h, load]
  cases openImage m.files m.cwd path with
  | error e => rfl
  | ok image => rfl

end Installation

end CommandShell

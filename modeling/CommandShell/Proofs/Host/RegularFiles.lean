import CommandShell.Proofs.Host.Handles
import CommandShell.Proofs.Host.Writing

/-!
# Regular files that can be written

A path that can be opened for writing may lead to a stream of the shell, to a device or to a regular
file. `Machine.HasBytes` is the last case, with the bytes that the file has once it is open: those
that were there before, or none where the file is made by opening it.

What is written under such a path is not lost, unless the system refuses the write. It goes to the
end of the file or in place of what was there, nobody else's handle notices, and the path is again
one of this kind (`HasBytes.of_writeFile`). So writes under one path can be lined up. Where the system
refuses nothing, all of them go through (`HasBytes.writeFile_ok`).
-/

namespace CommandShell.Host

namespace Machine

open FileSystem

variable {m m' : Machine} {path : String} {keep : Bool} {data bytes : ByteArray}

/-- The path can be opened for writing, and what is open then is a regular file with these bytes. -/
def HasBytes (m : Machine) (path : String) (data : ByteArray) : Prop :=
  ∃ (opened : Machine) (file : FileId) (f : OpenFile) (mode : Nat),
    m.openOutlet path true = .ok (opened, .file file) ∧
      opened.files.open? file = some f ∧ opened.files.node? f.node = some (.file mode data)

/-! ## Where such a path leads -/

/-- The path leads to a regular file with these bytes, or to a free name under which a file without
bytes can be made. -/
inductive LeadsTo (m : Machine) (path : String) : ByteArray → Prop
  | file {id : NodeId} {mode : Nat} {data : ByteArray} (target : m.target? path = some id)
      (node : m.files.node? id = some (.file mode data)) : LeadsTo m path data
  | vacant {directory : NodeId} {name : String}
      (vacant : m.files.locate m.cwd path = .ok (.vacant directory name)) :
      LeadsTo m path ByteArray.empty

theorem descriptorNamed?_of_vacant {directory : NodeId} {name : String}
    (h : m.files.locate m.cwd path = .ok (.vacant directory name)) :
    m.files.descriptorNamed? m.cwd path = none := by
  simp only [descriptorNamed?, lookUp, find, h]

theorem locate_of_find {id : NodeId} (h : (m.files.find m.cwd path).toOption = some id) :
    m.files.locate m.cwd path = .ok (.node id) := by
  cases hfind : m.files.find m.cwd path with
  | error e =>
    rw [hfind] at h
    cases h
  | ok found =>
    rw [hfind] at h
    cases h
    exact find_eq_ok_iff_locate.mp hfind

/-- Opened to write after what is there, a file shows the bytes that it had. -/
theorem HasBytes.leadsTo (h : m.HasBytes path data) : m.LeadsTo path data := by
  obtain ⟨opened, file, f, mode, hopen, hf, hnode⟩ := h
  obtain ⟨-, ho | ho, -⟩ | ⟨other, ho, -, hopens⟩ := opens_of_openOutlet hopen
  · cases ho
  · cases ho
  · cases ho
    cases hopens with
    | there target opens =>
      obtain rfl := Option.some.inj (hf.symm.trans opens.open_eq)
      exact .file target (opens.node?_eq.symm.trans hnode)
    | made vacant opens =>
      obtain rfl := Option.some.inj (hf.symm.trans opens.open_eq)
      obtain ⟨hgains, -⟩ := create_locates (n := .file 0o644 ByteArray.empty) vacant nofun
      rw [opens.node?_eq, hgains.node_eq] at hnode
      cases hnode
      exact .vacant vacant

theorem exists_openNode {fs : FileSystem} {id : NodeId} {mode : Nat}
    (h : fs.node? id = some (.file mode data)) (keep : Bool) :
    ∃ fs' file, fs.openNode id (.writing keep) = .ok (fs', file) := by
  unfold openNode
  rw [h]
  dsimp only
  split_ifs
  · exact ⟨_, _, rfl⟩
  · exact ⟨_, _, rfl⟩

theorem takesAll_openOutlet {o : Outlet} (h : m.openOutlet path keep = .ok (m', o))
    (htakes : m.files.TakesAll) : m'.files.TakesAll := by
  obtain ⟨file, -, -, -, hrefusals⟩ | ⟨-, rfl⟩ := hasOpened_of_openOutlet h
  · rwa [TakesAll, hrefusals]
  · exact htakes

theorem takesAll_writeFile {answer : Except Errno Unit}
    (h : m.writeFile path keep bytes = (answer, m')) (htakes : m.files.TakesAll) :
    m'.files.TakesAll := by
  unfold writeFile at h
  split at h
  · cases h
    exact htakes
  · next opened o hopen =>
    cases h
    have hopened := takesAll_openOutlet hopen htakes
    cases o with
    | file file => exact hopened.writeOpen file bytes
    | output => exact hopened
    | errors => exact hopened

namespace LeadsTo

theorem of_find {id : NodeId} {mode : Nat} (hfind : m.files.find m.cwd path = .ok id)
    (hnode : m.files.node? id = some (.file mode data)) : m.LeadsTo path data := by
  refine .file ?_ hnode
  rw [(IsOrdinary.of_find hfind hnode rfl).target?_eq, hfind]
  rfl

/-- It can be opened, whether its bytes are to be kept or not. What is opened then is the file, or
one that was made for it. -/
theorem exists_openOutlet (h : m.LeadsTo path data) (keep : Bool) :
    ∃ opened file fs node mode, m.openOutlet path keep = .ok (opened, .file file) ∧
      fs.node? node = some (.file mode data) ∧ OpensNode fs opened.files node keep file := by
  cases h with
  | @file id mode _ target node =>
    obtain ⟨fs, file, hopen⟩ := exists_openNode node keep
    refine ⟨{ m with files := fs }, file, m.files, id, mode, ?_, node, openNode_opensNode hopen⟩
    unfold target? at target
    split at target
    · next hnone =>
      have hexclusive : (OpenMode.writing keep).exclusive = false := rfl
      simp only [openOutlet, hnone, openFile, locate_of_find target, hexclusive,
        Bool.false_eq_true, if_false, hopen, Except.map]
    · next hinput =>
      obtain ⟨f, hf, rfl⟩ := Option.map_eq_some_iff.mp target
      simp only [openOutlet, hinput, hf, hopen, Except.map]
    · cases target
  | @vacant directory name vacant =>
    obtain ⟨hgains, -⟩ := create_locates (n := .file 0o644 ByteArray.empty) vacant nofun
    have hopens := addOpen_opensNode hgains.node_eq keep
    refine ⟨{ m with files := _ }, _, _, _, _, ?_, hgains.node_eq, hopens⟩
    simp only [openOutlet, descriptorNamed?_of_vacant vacant, openFile, vacant]
    rfl

theorem hasBytes (h : m.LeadsTo path data) : m.HasBytes path data := by
  obtain ⟨opened, file, fs, node, mode, hopen, hnode, hopens⟩ := h.exists_openOutlet true
  exact ⟨opened, file, _, mode, hopen, hopens.open_eq, hopens.node?_eq.trans hnode⟩

theorem isOk_openOutlet (h : m.LeadsTo path data) (keep : Bool) :
    (m.openOutlet path keep).isOk = true := by
  obtain ⟨opened, file, fs, node, mode, hopen, -⟩ := h.exists_openOutlet keep
  rw [hopen]
  rfl

theorem writeFile_ok (h : m.LeadsTo path data) (htakes : m.files.TakesAll) (keep : Bool)
    (bytes : ByteArray) : (m.writeFile path keep bytes).1 = .ok () := by
  obtain ⟨opened, file, fs, node, mode, hopen, hnode, hopens⟩ := h.exists_openOutlet keep
  simp only [writeFile, hopen, write]
  exact hopens.writeOpen_of_takesAll hnode (takesAll_openOutlet hopen htakes) bytes

theorem descriptorNamed?_ne (h : m.LeadsTo path data) (number : Nat) :
    m.files.descriptorNamed? m.cwd path ≠ some (number + 1) := by
  intro hstream
  cases h with
  | file target =>
    simp only [target?, hstream] at target
    cases target
  | vacant vacant =>
    rw [descriptorNamed?_of_vacant vacant] at hstream
    cases hstream

end LeadsTo

/-! ## Writing -/

theorem steps_of_writeFile {answer : Except Errno Unit}
    (hopens : (m.openOutlet path keep).isOk = true)
    (h : m.writeFile path keep bytes = (answer, m')) :
    ∃ opened o written, m.openOutlet path keep = .ok (opened, o) ∧
      opened.write o bytes = (answer, written) ∧ m' = written.closeOutlet o := by
  unfold writeFile at h
  split at h
  · next hclosed =>
    rw [hclosed] at hopens
    cases hopens
  · next opened o hopen =>
    obtain ⟨hanswer, hclose⟩ := Prod.mk.inj h
    exact ⟨opened, o, _, hopen, Prod.ext hanswer rfl, hclose.symm⟩

/-- A handle that was open stays as it is while something is written under a path. -/
theorem open?_writeFile {answer : Except Errno Unit}
    (h : m.writeFile path keep bytes = (answer, m')) {other : FileId} {f : OpenFile}
    (hf : m.files.open? other = some f) : m'.files.open? other = some f := by
  unfold writeFile at h
  split at h
  · cases h
    exact hf
  · next opened o hopen =>
    cases h
    obtain ⟨file, rfl, hhandle⟩ | ⟨hno, rfl⟩ := hasOpened_of_openOutlet hopen
    · obtain ⟨hne, hother⟩ := hhandle.open?_of_open? hf
      change ((opened.files.writeOpen file bytes).2.closeFile file).open? other = some f
      rw [open?_closeFile, if_neg hne.symm, open?_writeOpen_of_ne _ _ hne.symm, hother]
    · cases o with
      | file file => exact absurd rfl (hno file)
      | output => exact hf
      | errors => exact hf

/-- A path leads to the same node as long as the tree and standard input stay what they are. -/
theorem target?_of_sameTree (hm : m' = { m with files := m'.files })
    (htree : SameTree m.files m'.files)
    (hinput : ∀ f, m.files.open? m.input = some f → m'.files.open? m.input = some f) {id : NodeId}
    (h : m.target? path = some id) : m'.target? path = some id := by
  have hcwd : m'.cwd = m.cwd := by rw [hm]
  have hin : m'.input = m.input := by rw [hm]
  unfold target? at h ⊢
  rw [hcwd, hin, htree.descriptorNamed?_eq, htree.find_eq]
  split at h
  · exact h
  · obtain ⟨f, hf, rfl⟩ := Option.map_eq_some_iff.mp h
    rw [hinput f hf]
    rfl
  · cases h

/-- After something was written the file is there. It has these bytes after those that were kept,
all else about the machine is as it was, and the path is a name of standard input if it was one. -/
theorem LeadsTo.written (h : m.LeadsTo path data)
    (hwrite : m.writeFile path keep bytes = (.ok (), m')) :
    m' = { m with files := m'.files } ∧
    m'.files.descriptorNamed? m.cwd path = m.files.descriptorNamed? m.cwd path ∧
    ∃ id mode, m'.target? path = some id ∧
      m'.files.node? id =
        some (.file mode ((if keep then data else ByteArray.empty) ++ bytes)) := by
  obtain ⟨⟨e, -, hanswer⟩, -⟩ | ⟨-, -, number, hstream⟩ | ⟨-, hm, taken, htaken, hwrote⟩ :=
    wrote_of_writeFile hwrite
  · cases hanswer
  · exact absurd hstream (h.descriptorNamed?_ne number)
  · refine ⟨hm, ?_⟩
    obtain rfl := htaken.eq_of_ok rfl
    have hhandle : ∀ f, m.files.open? m.input = some f → m'.files.open? m.input = some f :=
      fun f hf ↦ open?_writeFile hwrite hf
    -- a file that was there keeps its place, and one that was not is made
    cases hwrote with
    | @there id target writes =>
      cases h with
      | @file id' mode _ target' node =>
        obtain rfl := Option.some.inj (target.symm.trans target')
        refine ⟨writes.sameTree.descriptorNamed?_eq _ _, id, mode, ?_, writes.node?_of_file node⟩
        exact target?_of_sameTree hm writes.sameTree hhandle target
      | vacant vacant =>
        rw [target?_of_vacant vacant] at target
        cases target
    | @made directory name vacant writes =>
      cases h with
      | file target' =>
        rw [target?_of_vacant vacant] at target'
        cases target'
      | vacant =>
        obtain ⟨hgains, hlocate⟩ := create_locates (n := .file 0o644 ByteArray.empty) vacant nofun
        have hafter := writes.node?_of_file hgains.node_eq
        have hfind : m'.files.find m.cwd path =
            .ok (m.files.create directory name (.file 0o644 ByteArray.empty)).2 := by
          rw [writes.sameTree.find_eq, find, hlocate]
        have hnone : m'.files.descriptorNamed? m.cwd path = none := by
          simp only [descriptorNamed?, lookUp, hfind, hafter]
        refine ⟨hnone.trans (descriptorNamed?_of_vacant vacant).symm, _, 0o644, ?_, hafter⟩
        rw [target?, cwd_writeFile hwrite, hnone]
        simp only [hfind]
        rfl

theorem HasBytes.writeFile_ok (h : m.HasBytes path data) (htakes : m.files.TakesAll) (keep : Bool)
    (bytes : ByteArray) : (m.writeFile path keep bytes).1 = .ok () :=
  h.leadsTo.writeFile_ok htakes keep bytes

/-- **What is written under a path with a regular file is not lost.** All that changes is the files;
the path leads to a file, which has the bytes that were written, after those that were kept. -/
theorem HasBytes.of_writeFile (h : m.HasBytes path data)
    (hwrite : m.writeFile path keep bytes = (.ok (), m')) :
    m' = { m with files := m'.files } ∧
      m'.HasBytes path ((if keep then data else ByteArray.empty) ++ bytes) ∧
      m'.target? path ≠ none ∧
      m'.files.descriptorNamed? m'.cwd path = m.files.descriptorNamed? m.cwd path := by
  obtain ⟨hm, hstream, id, mode, htarget, hnode⟩ := h.leadsTo.written hwrite
  refine ⟨hm, (LeadsTo.file htarget hnode).hasBytes, ?_, ?_⟩
  · rw [htarget]
    exact Option.some_ne_none id
  · rw [cwd_writeFile hwrite, hstream]

/-! ## Reading -/

theorem HasBytes.read_eq (h : m.HasBytes path data)
    (hstream : m.files.descriptorNamed? m.cwd path = none) (hthere : m.target? path ≠ none) :
    m.files.read m.cwd path = .ok data := by
  cases h.leadsTo with
  | file target node =>
    simp only [target?, hstream] at target
    rw [FileSystem.read, find, locate_of_find target]
    simp only [contents, node]
  | vacant vacant => exact absurd (target?_of_vacant vacant) hthere

end Machine

end CommandShell.Host

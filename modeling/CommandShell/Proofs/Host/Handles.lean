import CommandShell.Host.Machine
import Mathlib.Tactic.SplitIfs

/-!
# Handles of their own

Whoever opens a file gets a new place in the table of open files, and with it an offset that nobody
shares. Nothing else in the table changes, so a handle that is open already stays as it is while
others are opened.
-/

namespace CommandShell.Host

namespace FileSystem

/-! ## The table of open files -/

@[simp] theorem opened_setNode (fs : FileSystem) (id : NodeId) (n : Node) :
    (fs.setNode id n).opened = fs.opened := rfl

@[simp] theorem opened_addNode (fs : FileSystem) (n : Node) :
    (fs.addNode n).1.opened = fs.opened := rfl

@[simp] theorem opened_addEntry (fs : FileSystem) (directory : NodeId) (name : String)
    (id : NodeId) : (fs.addEntry directory name id).opened = fs.opened := by
  rw [addEntry]
  split <;> rfl

@[simp] theorem refusals_create (fs : FileSystem) (directory : NodeId) (name : String) (n : Node) :
    (fs.create directory name n).1.refusals = fs.refusals := by
  rw [create, addEntry]
  split <;> rfl

@[simp] theorem opened_create (fs : FileSystem) (directory : NodeId) (name : String) (n : Node) :
    (fs.create directory name n).1.opened = fs.opened := by
  rw [create, opened_addEntry, opened_addNode]

theorem open?_changeOpen_of_ne (fs : FileSystem) (f : OpenFile → OpenFile) {id other : FileId}
    (h : id ≠ other) : (fs.changeOpen id f).open? other = fs.open? other := by
  rw [open?, changeOpen, Array.getElem?_modify, if_neg h, open?]

theorem open?_closeFile (fs : FileSystem) (file other : FileId) :
    (fs.closeFile file).open? other = if file = other then none else fs.open? other := by
  split_ifs with h
  · rw [open?, closeFile, changeOpen, Array.getElem?_modify, if_pos h]
    cases fs.opened[other]? <;> rfl
  · exact open?_changeOpen_of_ne fs _ h

@[simp] theorem opened_writeAt (fs : FileSystem) (id : NodeId) (offset : Nat) (bytes : ByteArray) :
    (fs.writeAt id offset bytes).opened = fs.opened := by
  rw [writeAt]
  split <;> rfl

theorem open?_writeOpen_of_ne (fs : FileSystem) {id other : FileId} (bytes : ByteArray)
    (hne : id ≠ other) : (fs.writeOpen id bytes).2.open? other = fs.open? other := by
  have hthrough : ∀ (fs : FileSystem) (f : OpenFile) (bytes : ByteArray),
      (fs.writeThrough id f bytes).open? other = fs.open? other := by
    intro fs f bytes
    rw [writeThrough, seek, open?_changeOpen_of_ne _ _ hne, open?, open?, opened_writeAt]
  unfold writeOpen
  split
  · rfl
  · split
    · rfl
    · split
      · rfl
      · exact hthrough _ _ _
      · exact hthrough _ _ _

/-- One file system has one more open file than another: a new one at its beginning. What becomes of
the next writes is the same for both. -/
def HasOpened (before after : FileSystem) (mode : OpenMode) (id : FileId) : Prop :=
  id = before.opened.size ∧ (∃ node, after.opened = before.opened.push { node, mode }) ∧
    after.refusals = before.refusals

theorem hasOpened_addOpen {before fs : FileSystem} (h : fs.opened = before.opened)
    (hrefusals : fs.refusals = before.refusals) (node : NodeId) (mode : OpenMode) :
    HasOpened before (fs.addOpen node mode).1 mode (fs.addOpen node mode).2 := by
  refine ⟨congrArg Array.size h, ⟨node, ?_⟩, hrefusals⟩
  rw [addOpen, h]

/-- However a node is opened, what is new in the table is one handle. -/
theorem hasOpened_of_openNode {fs after : FileSystem} {node : NodeId} {mode : OpenMode}
    {id : FileId} (h : fs.openNode node mode = .ok (after, id)) : HasOpened fs after mode id := by
  -- whatever kind of node it is, the table of open files has not changed before the handle is added
  have key : ∀ other : FileSystem, other.opened = fs.opened → other.refusals = fs.refusals →
      (Except.ok (other.addOpen node mode) : Except Errno (FileSystem × FileId)) =
        .ok (after, id) → HasOpened fs after mode id := by
    intro other hother hrefusals heq
    have hopen := hasOpened_addOpen hother hrefusals node mode
    rw [Except.ok.inj heq] at hopen
    exact hopen
  unfold openNode at h
  split at h
  · split at h
    · exact key _ (opened_setNode ..) rfl h
    · exact key _ rfl rfl h
  · split at h
    · cases h
    · exact key _ rfl rfl h
  · cases h
  · exact key _ rfl rfl h
  · cases h
  · split at h
    · cases h
    · exact key _ rfl rfl h
  · split at h
    · cases h
    · exact key _ rfl rfl h
  · cases h
  · cases h

theorem hasOpened_of_openFile {fs after : FileSystem} {cwd : NodeId} {path : String}
    {mode : OpenMode} {id : FileId} (h : fs.openFile cwd path mode = .ok (after, id)) :
    HasOpened fs after mode id := by
  unfold openFile at h
  split at h
  · next directory name _ =>
    split at h
    · have hopen := hasOpened_addOpen
        (opened_create fs directory name (.file mode.permissions ByteArray.empty))
        (refusals_create fs directory name (.file mode.permissions ByteArray.empty))
        (fs.create directory name (.file mode.permissions ByteArray.empty)).2 mode
      rw [Except.ok.inj h] at hopen
      exact hopen
    · cases h
  · split at h
    · cases h
    · exact hasOpened_of_openNode h
  · split at h <;> cases h
  · cases h

namespace HasOpened

variable {before after : FileSystem} {mode : OpenMode} {id : FileId}

theorem open?_self (h : HasOpened before after mode id) :
    ∃ node, after.open? id = some { node, mode } := by
  obtain ⟨rfl, ⟨node, hafter⟩, -⟩ := h
  exact ⟨node, by simp [open?, hafter]⟩

theorem open?_of_open? (h : HasOpened before after mode id) {other : FileId} {f : OpenFile}
    (hf : before.open? other = some f) : other ≠ id ∧ after.open? other = some f := by
  obtain ⟨rfl, ⟨node, hafter⟩, -⟩ := h
  have hlt : other < before.opened.size := by
    refine Nat.lt_of_not_le fun hge ↦ ?_
    rw [open?, Array.getElem?_eq_none hge] at hf
    cases hf
  refine ⟨Nat.ne_of_lt hlt, ?_⟩
  rw [open?, hafter, Array.getElem?_push_lt hlt]
  rwa [open?, Array.getElem?_eq_getElem hlt] at hf

end HasOpened

end FileSystem

namespace Machine

/-- What the shell opens is a new handle, unless the path names one of the shell's own streams; then
nothing is opened at all. -/
theorem hasOpened_of_openOutlet {m after : Machine} {path : String} {keep : Bool} {outlet : Outlet}
    (h : m.openOutlet path keep = .ok (after, outlet)) :
    (∃ id, outlet = .file id ∧
      FileSystem.HasOpened m.files after.files (.writing keep) id) ∨
    (∀ id, outlet ≠ .file id) ∧ after = m := by
  have key : ∀ r : Except Errno (FileSystem × FileId),
      r.map (fun r ↦ ({ m with files := r.1 }, Outlet.file r.2)) = .ok (after, outlet) →
        ∃ id, outlet = .file id ∧ r = .ok (after.files, id) := by
    rintro (e | ⟨files, id⟩) heq
    · cases heq
    · cases heq
      exact ⟨id, rfl, rfl⟩
  unfold openOutlet at h
  split at h
  · obtain ⟨id, rfl, hopen⟩ := key _ h
    exact .inl ⟨id, rfl, FileSystem.hasOpened_of_openFile hopen⟩
  · split at h
    · obtain ⟨id, rfl, hopen⟩ := key _ h
      exact .inl ⟨id, rfl, FileSystem.hasOpened_of_openNode hopen⟩
    · cases h
  · cases h
    exact .inr ⟨nofun, rfl⟩
  · cases h
    exact .inr ⟨nofun, rfl⟩
  · cases h

end Machine

end CommandShell.Host

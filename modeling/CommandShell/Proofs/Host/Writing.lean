import CommandShell.Host.Machine
import CommandShell.Proofs.Host.Walking

/-!
# What a path names after it was written

Writing to a path either changes the bytes of the file that it leads to, or makes a new file under a
free name; nothing else in the tree is touched. That has two sides.

* What is read under the path is what was written, after what was there if that was kept
  (`Machine.writeFile_reads`).
* Every other node has the bytes that it had (`Machine.contents_writeFile_of_ne`).

A path that cannot be opened is left as it is. One that was opened and then refuses the bytes is
not: what was to be replaced is gone, and a beginning of the bytes may be in its place (`Taken`).

Paths that name a device or a stream of the shell are on their own: nothing that is written there is
read back.
-/

namespace CommandShell.Host

namespace FileSystem

variable {fs fs' : FileSystem}

theorem contents_eq_noEntry_iff {id : NodeId} :
    fs.contents id = .error .noEntry ↔ fs.node? id = none := by
  unfold contents
  split <;> simp_all

/-! ## Opening for writing -/

@[simp] theorem node?_addOpen (node : NodeId) (mode : OpenMode) (id : NodeId) :
    (fs.addOpen node mode).1.node? id = fs.node? id := rfl

@[simp] theorem node?_closeFile (file : FileId) (id : NodeId) :
    (fs.closeFile file).node? id = fs.node? id := rfl

theorem open?_addOpen (node : NodeId) (mode : OpenMode) :
    (fs.addOpen node mode).1.open? (fs.addOpen node mode).2 = some { node, mode } := by
  simp [open?, addOpen]

/-- A node was opened for writing, to write after what is there or in place of it: nothing else has
changed, and if it is a file, its bytes are still there or gone. -/
structure OpensNode (fs fs' : FileSystem) (node : NodeId) (keep : Bool) (file : FileId) : Prop where
  open_eq : fs'.open? file = some { node, mode := .writing keep }
  sameTree : SameTree fs fs'
  others : ∀ other, other ≠ node → fs'.node? other = fs.node? other
  node_eq : (∃ mode data, fs.node? node = some (.file mode data) ∧
      fs'.node? node = some (.file mode (if keep then data else ByteArray.empty))) ∨
    ∃ kind, kind ≠ .terminal ∧ fs.node? node = some (.device kind) ∧
      fs'.node? node = some (.device kind)

theorem openNode_opensNode {node : NodeId} {keep : Bool} {file : FileId}
    (h : fs.openNode node (.writing keep) = .ok (fs', file)) :
    OpensNode fs fs' node keep file := by
  -- a handle is added last, so the nodes are those of the file system that it is added to
  have hadd : ∀ fs₁ : FileSystem,
      (Except.ok (fs₁.addOpen node (.writing keep)) : Except Errno _) = .ok (fs', file) →
        fs'.open? file = some { node, mode := .writing keep } ∧ fs'.nodes = fs₁.nodes := by
    intro fs₁ heq
    have hopen : (fs₁.addOpen node (.writing keep)).1.open? (fs₁.addOpen node (.writing keep)).2 =
        some { node, mode := .writing keep } := open?_addOpen node (.writing keep)
    rw [Except.ok.inj heq] at hopen
    exact ⟨hopen, congrArg (fun r ↦ r.1.nodes) (Except.ok.inj heq).symm⟩
  unfold openNode at h
  split at h
  · next mode data hnode =>
    have hlt : node < fs.nodes.size := (Array.getElem?_eq_some_iff.mp hnode).1
    split_ifs at h with htruncates
    · obtain ⟨hopen, hnodes⟩ := hadd _ h
      have hkeep : keep = false := by
        simp only [OpenMode.writing, Bool.and_eq_true, Bool.not_eq_true'] at htruncates
        exact htruncates.1
      refine ⟨hopen, (sameTree_setNode hnode _).trans (sameTree_of_nodes_eq hnodes), ?_, ?_⟩
      · intro other hother
        rw [← node?_setNode_of_ne fs (.file mode ByteArray.empty) hother.symm, node?, node?, hnodes]
      · refine .inl ⟨mode, data, hnode, ?_⟩
        simp only [hkeep, Bool.false_eq_true, if_false]
        rw [← node?_setNode_self fs node (.file mode ByteArray.empty) hlt, node?, node?, hnodes]
    · obtain ⟨hopen, hnodes⟩ := hadd _ h
      have hdata : (if keep then data else ByteArray.empty) = data := by
        cases keep with
        | true => rfl
        | false =>
          simp only [OpenMode.writing, ByteArray.isEmpty, Bool.not_false, Bool.true_and,
            Bool.not_eq_true', Bool.not_eq_false, beq_iff_eq] at htruncates
          exact (ByteArray.size_eq_zero_iff.mp htruncates).symm
      refine ⟨hopen, sameTree_of_nodes_eq hnodes, ?_, .inl ⟨mode, data, hnode, ?_⟩⟩
      · intro other _
        rw [node?, node?, hnodes]
      · rw [hdata, ← hnode, node?, node?, hnodes]
  · cases h
  · cases h
  · next kind hkind hnode =>
    obtain ⟨hopen, hnodes⟩ := hadd _ h
    refine ⟨hopen, sameTree_of_nodes_eq hnodes, ?_, .inr ⟨kind, hkind, hnode, ?_⟩⟩
    · intro other _
      rw [node?, node?, hnodes]
    · rw [← hnode, node?, node?, hnodes]
  all_goals cases h

theorem addOpen_opensNode {node : NodeId} {mode : Nat}
    (h : fs.node? node = some (.file mode ByteArray.empty)) (keep : Bool) :
    OpensNode fs (fs.addOpen node (.writing keep)).1 node keep
      (fs.addOpen node (.writing keep)).2 where
  open_eq := open?_addOpen node (.writing keep)
  sameTree := sameTree_of_nodes_eq rfl
  others := fun _ _ ↦ rfl
  node_eq := .inl ⟨mode, ByteArray.empty, h, by rw [node?_addOpen, h, ite_self]⟩

/-! ## Writing -/

/-- What there is of bytes after they were written: a beginning of them, and all of them if the
write went through. -/
structure Taken (answer : Except Errno Unit) (bytes taken : ByteArray) : Prop where
  exists_rest : ∃ rest, taken ++ rest = bytes
  eq_of_ok : answer = .ok () → taken = bytes

theorem Taken.all (answer : Except Errno Unit) (bytes : ByteArray) : Taken answer bytes bytes :=
  ⟨⟨ByteArray.empty, ByteArray.append_empty⟩, fun _ ↦ rfl⟩

theorem taken_accept (refusals : List (Option Refusal)) (bytes : ByteArray) :
    Taken (accept refusals bytes).1 bytes (accept refusals bytes).2.1 := by
  unfold accept
  split
  · exact .all _ bytes
  · split
    · exact .all _ bytes
    · split
      · exact .all _ bytes
      · next _ refusal =>
        refine ⟨⟨bytes.extract refusal.taken bytes.size, ?_⟩, nofun⟩
        simp

/-- No write to a regular file is refused. -/
def TakesAll (fs : FileSystem) : Prop :=
  ∀ next ∈ fs.refusals, next = none

theorem accept_of_forall {refusals : List (Option Refusal)} (h : ∀ next ∈ refusals, next = none)
    (bytes : ByteArray) : (accept refusals bytes).1 = .ok () := by
  unfold accept
  split
  · rfl
  · next next later =>
    split
    · rfl
    · rw [h next List.mem_cons_self]

theorem mem_of_mem_accept {refusals : List (Option Refusal)} {bytes : ByteArray}
    {next : Option Refusal} (h : next ∈ (accept refusals bytes).2.2) : next ∈ refusals := by
  unfold accept at h
  split at h
  · exact h
  · split at h
    · exact h
    · split at h <;> exact List.mem_cons_of_mem _ h

@[simp] theorem refusals_writeAt (fs : FileSystem) (id : NodeId) (offset : Nat)
    (bytes : ByteArray) : (fs.writeAt id offset bytes).refusals = fs.refusals := by
  unfold writeAt
  split <;> rfl

@[simp] theorem refusals_writeThrough (fs : FileSystem) (id : FileId) (f : OpenFile)
    (bytes : ByteArray) : (fs.writeThrough id f bytes).refusals = fs.refusals :=
  refusals_writeAt ..

/-- A file system that refuses nothing refuses nothing after a write. -/
theorem TakesAll.writeOpen (h : fs.TakesAll) (id : FileId) (bytes : ByteArray) :
    (fs.writeOpen id bytes).2.TakesAll := by
  unfold FileSystem.writeOpen
  split
  · exact h
  · split
    · exact h
    · split
      · exact h
      · intro next hnext
        rw [refusals_writeThrough] at hnext
        exact h next (mem_of_mem_accept hnext)
      · intro next hnext
        rw [refusals_writeThrough] at hnext
        exact h next hnext

/-- Bytes went to a node: to a file after what is kept of it, or to a device, which keeps none. -/
structure Writes (fs fs' : FileSystem) (node : NodeId) (keep : Bool) (bytes : ByteArray) :
    Prop where
  sameTree : SameTree fs fs'
  others : ∀ other, other ≠ node → fs'.node? other = fs.node? other
  node_eq : (∃ mode data, fs.node? node = some (.file mode data) ∧
      fs'.node? node = some (.file mode ((if keep then data else ByteArray.empty) ++ bytes))) ∨
    ∃ kind, kind ≠ .terminal ∧ fs.node? node = some (.device kind) ∧
      fs'.node? node = some (.device kind)

theorem Writes.node?_of_file {node : NodeId} {keep : Bool} {bytes : ByteArray}
    (h : Writes fs fs' node keep bytes) {mode : Nat} {data : ByteArray}
    (hnode : fs.node? node = some (.file mode data)) :
    fs'.node? node =
      some (.file mode ((if keep then data else ByteArray.empty) ++ bytes)) := by
  obtain ⟨mode', data', hfile, hnode'⟩ | ⟨kind, -, hdevice, -⟩ := h.node_eq
  · rw [hnode] at hfile
    cases hfile
    exact hnode'
  · rw [hnode] at hdevice
    cases hdevice

theorem writeAt_of_file {node : NodeId} {mode : Nat} {data : ByteArray}
    (h : fs.node? node = some (.file mode data)) (bytes : ByteArray) :
    fs.writeAt node data.size bytes = fs.setNode node (.file mode (data ++ bytes)) := by
  rw [writeAt, h]
  simp only [overlay, if_true]

namespace OpensNode

variable {node : NodeId} {keep : Bool} {file : FileId}

/-- What a file takes of bytes goes to its end, once it was opened for writing. -/
theorem writeOpen_of_file (h : OpensNode fs fs' node keep file) {mode : Nat} {data : ByteArray}
    (hnode : fs'.node? node = some (.file mode data))
    (hkeep : keep = false → data = ByteArray.empty) (bytes : ByteArray) :
    (fs'.writeOpen file bytes).1 = (accept fs'.refusals bytes).1 ∧
      (fs'.writeOpen file bytes).2.nodes =
        (fs'.setNode node (.file mode (data ++ (accept fs'.refusals bytes).2.1))).nodes := by
  rcases haccept : accept fs'.refusals bytes with ⟨answer, taken, refusals⟩
  -- whatever becomes of later writes, the file gets what is taken
  have hnode' : ({ fs' with refusals } : FileSystem).node? node = some (.file mode data) := hnode
  have hsize : ({ fs' with refusals } : FileSystem).size node = data.size := by
    rw [size, hnode']
  have hend := writeAt_of_file hnode' taken
  rw [writeOpen, h.open_eq]
  cases keep with
  | true =>
    simp only [OpenMode.writing, Bool.not_true, Bool.false_eq_true, if_false, if_true, hnode,
      haccept, writeThrough, hsize, hend]
    exact ⟨trivial, rfl⟩
  | false =>
    -- the file is empty, so its end is where the handle is
    obtain rfl := hkeep rfl
    rw [ByteArray.size_empty] at hend
    simp only [OpenMode.writing, Bool.not_true, Bool.false_eq_true, if_false, hnode, haccept,
      writeThrough, hend]
    exact ⟨trivial, rfl⟩

theorem node?_eq (h : OpensNode fs fs' node true file) : fs'.node? node = fs.node? node := by
  obtain ⟨mode, data, hnode, hnode'⟩ | ⟨kind, -, hnode, hnode'⟩ := h.node_eq
  · rw [hnode, hnode', if_pos rfl]
  · rw [hnode, hnode']

theorem writeOpen_of_takesAll (h : OpensNode fs fs' node keep file) {mode : Nat}
    {data : ByteArray} (hnode : fs.node? node = some (.file mode data)) (htakes : fs'.TakesAll)
    (bytes : ByteArray) : (fs'.writeOpen file bytes).1 = .ok () := by
  obtain ⟨mode, data, -, hnode'⟩ | ⟨kind, -, hdevice, -⟩ := h.node_eq
  · rw [(h.writeOpen_of_file hnode' (by rintro rfl; rfl) bytes).1, accept_of_forall htakes]
  · rw [hnode] at hdevice
    cases hdevice

theorem nodes_of_writeOpen_device (h : OpensNode fs fs' node keep file) {kind : Device}
    (hnode : fs'.node? node = some (.device kind)) (bytes : ByteArray) :
    (fs'.writeOpen file bytes).2.nodes = fs'.nodes := by
  rw [writeOpen, h.open_eq]
  have hkept : ∀ offset, fs'.writeAt node offset bytes = fs' := by
    intro offset
    rw [writeAt, hnode]
  cases kind <;>
    simp only [OpenMode.writing, Bool.not_true, Bool.false_eq_true, if_false, hnode, writeThrough,
      hkept, seek, changeOpen]

theorem writes (h : OpensNode fs fs' node keep file) (bytes : ByteArray) :
    ∃ taken, Taken (fs'.writeOpen file bytes).1 bytes taken ∧
      Writes fs ((fs'.writeOpen file bytes).2.closeFile file) node keep taken := by
  obtain ⟨mode, data, hnode, hnode'⟩ | ⟨kind, hkind, hnode, hnode'⟩ := h.node_eq
  · have hlt : node < fs'.nodes.size := (Array.getElem?_eq_some_iff.mp hnode').1
    obtain ⟨hanswer, hnodes⟩ := h.writeOpen_of_file hnode' (by rintro rfl; rfl) bytes
    have htree (data' : ByteArray) : SameTree fs' (fs'.setNode node (.file mode data')) :=
      sameTree_setNode hnode' data'
    refine ⟨(accept fs'.refusals bytes).2.1, hanswer ▸ taken_accept _ _, ?_, ?_,
      .inl ⟨mode, data, hnode, ?_⟩⟩
    · exact h.sameTree.trans ((htree _).trans (sameTree_of_nodes_eq hnodes))
    · intro other hother
      rw [node?_closeFile, node?, hnodes, ← node?, node?_setNode_of_ne fs' _ hother.symm,
        h.others other hother]
    · rw [node?_closeFile, node?, hnodes, ← node?, node?_setNode_self fs' node _ hlt]
  · have hnodes := h.nodes_of_writeOpen_device hnode' bytes
    refine ⟨bytes, .all _ bytes, h.sameTree.trans (sameTree_of_nodes_eq hnodes), ?_,
      .inr ⟨kind, hkind, hnode, ?_⟩⟩
    · intro other hother
      rw [node?_closeFile, node?, hnodes, ← node?, h.others other hother]
    · rw [node?_closeFile, node?, hnodes, ← node?, hnode']

end OpensNode

end FileSystem

/-! ## What a path leads a writer to -/

namespace Machine

open FileSystem

variable {m m' : Machine} {path : String} {keep : Bool} {bytes : ByteArray}

/-- The node that a path leads a writer to. The name of the shell's standard input leads to what the
shell reads; its other streams are no nodes, and neither is a free name. -/
def target? (m : Machine) (path : String) : Option NodeId :=
  match m.files.descriptorNamed? m.cwd path with
  | none => (m.files.find m.cwd path).toOption
  | some 0 => (m.files.open? m.input).map (·.node)
  | some _ => none

/-- A path was opened for writing: either what it leads to was opened, or a file was made under the
free name that it leads to. -/
inductive Opens (m : Machine) (path : String) (keep : Bool) (fs : FileSystem) (file : FileId) : Prop
  | there {node : NodeId} (target : m.target? path = some node)
      (opens : OpensNode m.files fs node keep file)
  | made {directory : NodeId} {name : String}
      (vacant : m.files.locate m.cwd path = .ok (.vacant directory name))
      (opens : OpensNode (m.files.create directory name (.file 0o644 ByteArray.empty)).1 fs
        (m.files.create directory name (.file 0o644 ByteArray.empty)).2 keep file)

theorem target?_of_vacant {directory : NodeId} {name : String}
    (h : m.files.locate m.cwd path = .ok (.vacant directory name)) : m.target? path = none := by
  simp only [target?, descriptorNamed?, lookUp, find, h]
  rfl

theorem opens_of_openFile {fs : FileSystem} {file : FileId}
    (hnone : m.files.descriptorNamed? m.cwd path = none)
    (h : m.files.openFile m.cwd path (.writing keep) = .ok (fs, file)) :
    m.Opens path keep fs file := by
  unfold openFile at h
  split at h
  · next directory name hlocate =>
    have hgains := (create_locates (n := .file 0o644 ByteArray.empty) hlocate nofun).1
    have hopens := addOpen_opensNode hgains.node_eq keep
    have heq : (m.files.create directory name (.file 0o644 ByteArray.empty)).1.addOpen
        (m.files.create directory name (.file 0o644 ByteArray.empty)).2 (.writing keep) =
          (fs, file) := Except.ok.inj h
    rw [heq] at hopens
    exact .made hlocate hopens
  · next node hlocate =>
    refine .there ?_ (openNode_opensNode h)
    simp only [target?, hnone, find, hlocate]
    rfl
  · split at h <;> cases h
  · cases h

/-- Whatever was opened is one of the shell's own output streams, and nothing has changed, or it is
a new handle. -/
theorem opens_of_openOutlet {o : Outlet} (h : m.openOutlet path keep = .ok (m', o)) :
    (m' = m ∧ (o = .output ∨ o = .errors) ∧
      ∃ number, m.files.descriptorNamed? m.cwd path = some (number + 1)) ∨
      ∃ file, o = .file file ∧ m' = { m with files := m'.files } ∧
        m.Opens path keep m'.files file := by
  have hmap : ∀ r : Except Errno (FileSystem × FileId),
      r.map (fun r ↦ ({ m with files := r.1 }, Outlet.file r.2)) = .ok (m', o) →
        ∃ file, o = .file file ∧ m' = { m with files := m'.files } ∧ r = .ok (m'.files, file) := by
    rintro (e | ⟨files, file⟩) heq
    · cases heq
    · cases heq
      exact ⟨file, rfl, rfl, rfl⟩
  unfold openOutlet at h
  split at h
  · next hnone =>
    obtain ⟨file, rfl, hm, hopen⟩ := hmap _ h
    exact .inr ⟨file, rfl, hm, opens_of_openFile hnone hopen⟩
  · next hinput =>
    split at h
    · next f hf =>
      obtain ⟨file, rfl, hm, hopen⟩ := hmap _ h
      have htarget : m.target? path = some f.node := by
        simp only [target?, hinput, hf]
        rfl
      exact .inr ⟨file, rfl, hm, .there htarget (openNode_opensNode hopen)⟩
    · cases h
  · next houtput =>
    cases h
    exact .inl ⟨rfl, .inl rfl, 0, houtput⟩
  · next herrors =>
    cases h
    exact .inl ⟨rfl, .inr rfl, 1, herrors⟩
  · cases h

/-- Bytes were written under a path: either they went to the node that it leads to, or to a new file
under the free name that it leads to. -/
inductive Wrote (m : Machine) (path : String) (keep : Bool) (bytes : ByteArray) (fs : FileSystem) :
    Prop
  | there {node : NodeId} (target : m.target? path = some node)
      (writes : Writes m.files fs node keep bytes)
  | made {directory : NodeId} {name : String}
      (vacant : m.files.locate m.cwd path = .ok (.vacant directory name))
      (writes : Writes (m.files.create directory name (.file 0o644 ByteArray.empty)).1 fs
        (m.files.create directory name (.file 0o644 ByteArray.empty)).2 keep bytes)

/-- A path that cannot be opened for writing is left as it is. One that names an output stream of
the shell is no file. Otherwise all that changes is the files, and what is taken of the bytes is in
one of them. -/
theorem wrote_of_writeFile {answer : Except Errno Unit}
    (h : m.writeFile path keep bytes = (answer, m')) :
    ((∃ e, m.openOutlet path keep = .error e ∧ answer = .error e) ∧ m' = m) ∨
    (m'.files = m.files ∧ m'.cwd = m.cwd ∧
      ∃ number, m.files.descriptorNamed? m.cwd path = some (number + 1)) ∨
    (m.openOutlet path keep).isOk = true ∧ m' = { m with files := m'.files } ∧
      ∃ taken, Taken answer bytes taken ∧ m.Wrote path keep taken m'.files := by
  unfold writeFile at h
  split at h
  · next e hopen =>
    cases h
    exact .inl ⟨⟨e, hopen, rfl⟩, rfl⟩
  · next opened o hopen =>
    obtain ⟨rfl, rfl | rfl, hstream⟩ | ⟨file, rfl, hopened, hopens⟩ := opens_of_openOutlet hopen
    · cases h
      exact .inr (.inl ⟨rfl, rfl, hstream⟩)
    · cases h
      exact .inr (.inl ⟨rfl, rfl, hstream⟩)
    · cases h
      refine .inr (.inr ⟨by rw [hopen]; rfl, ?_, ?_⟩)
      · rw [hopened]
        rfl
      · cases hopens with
        | there target opens =>
          obtain ⟨taken, htaken, hwrites⟩ := opens.writes bytes
          exact ⟨taken, htaken, .there target hwrites⟩
        | made vacant opens =>
          obtain ⟨taken, htaken, hwrites⟩ := opens.writes bytes
          exact ⟨taken, htaken, .made vacant hwrites⟩

theorem cwd_writeFile {answer : Except Errno Unit}
    (h : m.writeFile path keep bytes = (answer, m')) : m'.cwd = m.cwd := by
  obtain ⟨-, rfl⟩ | ⟨-, hcwd, -⟩ | ⟨-, hm, -⟩ := wrote_of_writeFile h
  · rfl
  · exact hcwd
  · rw [hm]

/-! ### What is left alone -/

/-- **Writing leaves everything alone that the path does not lead to.** -/
theorem contents_writeFile_of_ne {answer : Except Errno Unit}
    (h : m.writeFile path keep bytes = (answer, m')) {id : NodeId} {n : Node}
    (hnode : m.files.node? id = some n) (hne : m.target? path ≠ some id) :
    m'.files.contents id = m.files.contents id := by
  obtain ⟨-, rfl⟩ | ⟨hfiles, -⟩ | ⟨-, -, taken, -, hwrote⟩ := wrote_of_writeFile h
  · rfl
  · rw [hfiles]
  · cases hwrote with
    | @there node target writes =>
      have hother : id ≠ node := by
        rintro rfl
        exact hne target
      exact contents_eq_of_node?_eq (writes.others id hother)
    | made vacant writes =>
      obtain ⟨hgains, -⟩ := create_locates (n := .file 0o644 ByteArray.empty) vacant nofun
      rw [← hgains.contents_eq hnode]
      exact contents_eq_of_node?_eq (writes.others id (hgains.ne_of_node? hnode))

/-- What the path leads to once it was opened is a file, which has what was taken of the bytes after
those that were kept, or a device. -/
theorem contents_writeFile_self {answer : Except Errno Unit}
    (h : m.writeFile path keep bytes = (answer, m')) (hopen : (m.openOutlet path keep).isOk = true)
    {id : NodeId} (htarget : m.target? path = some id) :
    (∃ mode data taken, m.files.node? id = some (.file mode data) ∧ Taken answer bytes taken ∧
      m'.files.contents id = .ok ((if keep then data else ByteArray.empty) ++ taken)) ∨
    ∃ kind, kind ≠ .terminal ∧ m.files.node? id = some (.device kind) := by
  obtain ⟨⟨e, hclosed, -⟩, -⟩ | ⟨-, -, number, hstream⟩ | ⟨-, -, taken, htaken, hwrote⟩ :=
    wrote_of_writeFile h
  · rw [hclosed] at hopen
    cases hopen
  · simp only [target?, hstream] at htarget
    cases htarget
  · cases hwrote with
    | there target writes =>
      obtain rfl := Option.some.inj (htarget.symm.trans target)
      obtain ⟨mode, data, hnode, hnode'⟩ | ⟨kind, hkind, hnode, -⟩ := writes.node_eq
      · refine .inl ⟨mode, data, taken, hnode, htaken, ?_⟩
        rw [contents, hnode']
      · exact .inr ⟨kind, hkind, hnode⟩
    | made vacant writes =>
      rw [target?_of_vacant vacant] at htarget
      cases htarget

/-! ### What is read back -/

/-- The path leads to no device and to no stream of the shell: to a file or a directory, or nowhere
yet. -/
def IsOrdinary (m : Machine) (path : String) : Prop :=
  ∀ id n, m.files.find m.cwd path = .ok id → m.files.node? id = some n → n.isSpecial = false

/-- The bytes that can be read under a path; none if nothing can be read. -/
def bytesAt (m : Machine) (path : String) : ByteArray :=
  match m.files.read m.cwd path with
  | .ok bytes => bytes
  | .error _ => ByteArray.empty

namespace IsOrdinary

theorem of_find {id : NodeId} {n : Node} (hfind : m.files.find m.cwd path = .ok id)
    (hnode : m.files.node? id = some n) (h : n.isSpecial = false) : m.IsOrdinary path := by
  intro other found hother hfound
  obtain rfl := Except.ok.inj (hfind.symm.trans hother)
  obtain rfl := Option.some.inj (hnode.symm.trans hfound)
  exact h

theorem descriptorNamed?_eq (h : m.IsOrdinary path) :
    m.files.descriptorNamed? m.cwd path = none := by
  unfold descriptorNamed? lookUp
  cases hfind : m.files.find m.cwd path with
  | error e => rfl
  | ok id =>
    dsimp only
    cases hnode : m.files.node? id with
    | none => rfl
    | some n =>
      have hspecial := h id n hfind hnode
      cases n <;> first | rfl | cases hspecial

theorem target?_eq (h : m.IsOrdinary path) :
    m.target? path = (m.files.find m.cwd path).toOption := by
  simp only [target?, h.descriptorNamed?_eq]

theorem find_of_target? (h : m.IsOrdinary path) {id : NodeId} (htarget : m.target? path = some id) :
    m.files.find m.cwd path = .ok id := by
  rw [h.target?_eq] at htarget
  cases hfind : m.files.find m.cwd path with
  | error e =>
    rw [hfind] at htarget
    cases htarget
  | ok found =>
    rw [hfind] at htarget
    rw [Option.some.inj htarget]

end IsOrdinary

theorem bytesAt_of_find {id : NodeId} {mode : Nat} {data : ByteArray}
    (hfind : m.files.find m.cwd path = .ok id) (hnode : m.files.node? id = some (.file mode data)) :
    m.bytesAt path = data := by
  simp only [bytesAt, FileSystem.read, hfind, contents, hnode]

theorem bytesAt_of_vacant {directory : NodeId} {name : String}
    (h : m.files.locate m.cwd path = .ok (.vacant directory name)) :
    m.bytesAt path = ByteArray.empty := by
  simp only [bytesAt, FileSystem.read, find, h]

/-- Once bytes were written under a path, it leads to a file that has them. -/
theorem Wrote.exists_file {fs : FileSystem} (h : m.Wrote path keep bytes fs)
    (hpath : m.IsOrdinary path) :
    ∃ id mode, fs.find m.cwd path = .ok id ∧
      fs.node? id =
        some (.file mode ((if keep then m.bytesAt path else ByteArray.empty) ++ bytes)) := by
  cases h with
  | @there node target writes =>
    have hfind := hpath.find_of_target? target
    obtain ⟨mode, data, hnode, hnode'⟩ | ⟨kind, -, hnode, -⟩ := writes.node_eq
    · refine ⟨node, mode, ?_, ?_⟩
      · rw [writes.sameTree.find_eq, hfind]
      · rw [hnode', bytesAt_of_find hfind hnode]
    · cases hpath node _ hfind hnode
  | @made directory name vacant writes =>
    obtain ⟨hgains, hlocate⟩ := create_locates (n := .file 0o644 ByteArray.empty) vacant nofun
    obtain ⟨mode, data, hnode, hnode'⟩ | ⟨kind, -, hnode, -⟩ := writes.node_eq
    · refine ⟨(m.files.create directory name (.file 0o644 ByteArray.empty)).2, mode, ?_, ?_⟩
      · rw [writes.sameTree.find_eq, find, hlocate]
      · rw [hgains.node_eq] at hnode
        cases hnode
        rw [hnode', bytesAt_of_vacant vacant]
    · rw [hgains.node_eq] at hnode
      cases hnode

/-- **What is written under a path is read back under it**, after what was there if that was kept,
as far as it was taken. Only a path that cannot be opened is left as it is. -/
theorem writeFile_reads (hpath : m.IsOrdinary path) {answer : Except Errno Unit}
    (h : m.writeFile path keep bytes = (answer, m')) :
    m'.IsOrdinary path ∧
      ((∃ e, m.openOutlet path keep = .error e ∧ answer = .error e) ∧ m' = m ∨
        (m.openOutlet path keep).isOk = true ∧ ∃ taken, Taken answer bytes taken ∧
          m'.files.read m'.cwd path =
            .ok ((if keep then m.bytesAt path else ByteArray.empty) ++ taken)) := by
  obtain ⟨hclosed, rfl⟩ | ⟨-, -, number, hstream⟩ | ⟨hopen, -, taken, htaken, hwrote⟩ :=
    wrote_of_writeFile h
  · exact ⟨hpath, .inl ⟨hclosed, rfl⟩⟩
  · rw [hpath.descriptorNamed?_eq] at hstream
    cases hstream
  · obtain ⟨id, mode, hfind, hnode⟩ := hwrote.exists_file hpath
    rw [← cwd_writeFile h] at hfind
    refine ⟨.of_find hfind hnode rfl, .inr ⟨hopen, taken, htaken, ?_⟩⟩
    simp only [FileSystem.read, hfind, contents, hnode]

theorem read_of_writeFile (hpath : m.IsOrdinary path)
    (h : m.writeFile path keep bytes = (.ok (), m')) :
    m'.files.read m'.cwd path =
      .ok ((if keep then m.bytesAt path else ByteArray.empty) ++ bytes) := by
  obtain ⟨-, ⟨⟨e, -, hanswer⟩, -⟩ | ⟨-, taken, htaken, hread⟩⟩ := writeFile_reads hpath h
  · cases hanswer
  · rw [hread, htaken.eq_of_ok rfl]

end Machine

end CommandShell.Host

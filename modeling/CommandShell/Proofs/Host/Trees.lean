import CommandShell.Proofs.Host.Leading
import CommandShell.Proofs.Host.Paths

/-!
# Trees

A table of nodes can hold anything; a file system is a table that is a tree. Its entries have names
that can stand between slashes, no two of a directory the same, and each leads to a node; the
directory above a directory is the one that it is an entry of, and the root is its own.

The empty file system is a tree (`isTree_empty`), and it stays one when a node is made under a free
name (`IsTree.create`). In a tree the path of a directory leads to it, through no link
(`IsTree.leads_of_namesTo?`).
-/

namespace CommandShell.Host.FileSystem

/-! ## Names -/

/-- What an entry of a directory can be called. -/
structure IsName (name : String) : Prop where
  isPart : Path.IsPart name
  ne_up : name ≠ ".."
  hasNul_eq : Path.hasNul name = false
  short : name.utf8ByteSize ≤ maxName

theorem isName_iff {name : String} : IsName name ↔
    Path.IsPart name ∧ name ≠ ".." ∧ Path.hasNul name = false ∧ name.utf8ByteSize ≤ maxName :=
  ⟨fun h ↦ ⟨h.isPart, h.ne_up, h.hasNul_eq, h.short⟩,
    fun ⟨hpart, hup, hnul, hshort⟩ ↦ ⟨hpart, hup, hnul, hshort⟩⟩

instance (name : String) : Decidable (IsName name) :=
  decidable_of_iff' _ isName_iff

/-- All entries of directories have names. -/
def HasNames (fs : FileSystem) : Prop :=
  ∀ ⦃id parent : NodeId⦄ ⦃entries : List (String × NodeId)⦄,
    fs.node? id = some (.directory parent entries) → ∀ e ∈ entries, IsName e.1

variable {fs fs' : FileSystem} {here id there directory parent above links : Nat}
  {entries below : List (String × NodeId)} {name : String}

theorem mem_of_lookup (h : entries.lookup name = some id) : (name, id) ∈ entries := by
  obtain ⟨before, after, rfl, -⟩ := List.lookup_eq_some_iff.mp h
  simp

theorem HasNames.hasNul_of_child (h : fs.HasNames) (hchild : fs.child here name = .ok (.node id)) :
    Path.hasNul name = false := by
  unfold child at hchild
  split at hchild
  · next hnode =>
    split_ifs at hchild with hdot hup
    · rw [hdot]
      decide
    · rw [hup]
      decide
    · split at hchild
      · next hlookup => exact (h hnode _ (mem_of_lookup hlookup)).hasNul_eq
      · cases hchild
  · split_ifs at hchild with hdot hup
    · rw [hdot]
      decide
    · rw [hup]
      decide
  · cases hchild
  · cases hchild

theorem HasNames.hasNul_of_leads (h : fs.HasNames) {names : List String}
    (hleads : fs.Leads links here names there) : ∀ name ∈ names, Path.hasNul name = false := by
  induction hleads with
  | nil => simp
  | node hchild _ _ ih => exact List.forall_mem_cons.mpr ⟨h.hasNul_of_child hchild, ih⟩
  | link hchild _ _ ih =>
    exact List.forall_mem_cons.mpr ⟨h.hasNul_of_child hchild,
      fun name hname ↦ ih name (List.mem_append_right _ hname)⟩

theorem HasNames.hasNul_of_find (h : fs.HasNames) {cwd : NodeId} {path : String}
    (hfind : fs.find cwd path = .ok id) : Path.hasNul path = false := by
  obtain ⟨-, -, links, -, hleads⟩ := find_eq_ok_iff.mp hfind
  exact Path.hasNul_of_components (h.hasNul_of_leads hleads)

/-! ## Trees -/

/-- What can be an entry of a directory: a directory only in its place, and none that is gone. -/
def LiesIn (directory : NodeId) : Node → Prop
  | .directory parent _ => parent = directory
  | .removedDirectory _ => False
  | _ => True

/-- The directories of a table of nodes make up a tree. -/
structure IsTree (fs : FileSystem) : Prop where
  root_eq : ∃ entries, fs.node? root = some (.directory root entries)
  hasNames : fs.HasNames
  /-- No two entries of a directory have the same name. -/
  nodup : ∀ {id parent : NodeId} {entries : List (String × NodeId)},
    fs.node? id = some (.directory parent entries) → (entries.map Prod.fst).Nodup
  /-- Every entry leads to a node that belongs there. -/
  liesIn : ∀ {id parent : NodeId} {entries : List (String × NodeId)},
    fs.node? id = some (.directory parent entries) →
    ∀ e ∈ entries, ∃ n, fs.node? e.2 = some n ∧ LiesIn id n

theorem isTree_empty : ({} : FileSystem).IsTree := by
  have hroot : ∀ {id parent : NodeId} {entries : List (String × NodeId)},
      ({} : FileSystem).node? id = some (.directory parent entries) → entries = [] := by
    intro id parent entries h
    cases id with
    | zero =>
      cases h
      rfl
    | succ id => cases h
  refine ⟨⟨[], rfl⟩, fun _ _ _ h ↦ ?_, fun h ↦ ?_, fun h ↦ ?_⟩
  · simp [hroot h]
  · simp [hroot h]
  · simp [hroot h]

/-! ### Changes that keep a tree -/

section Gains

variable {n : Node}

/-- A directory was there before, or it has gained its last entry, or it is the new node. -/
theorem Gains.directory_cases (h : Gains fs fs' directory name id n) {other : NodeId}
    (hnode : fs'.node? other = some (.directory parent entries)) :
    fs.node? other = some (.directory parent entries) ∨
      (other = directory ∧ ∃ old, fs.node? directory = some (.directory parent old) ∧
        old.lookup name = none ∧ entries = old ++ [(name, id)]) ∨
      (other = id ∧ n = .directory parent entries) := by
  by_cases hdirectory : other = directory
  · obtain ⟨above, old, hold, hfree, hnew⟩ := h.entry
    rw [hdirectory, hnew] at hnode
    cases hnode
    exact .inr (.inl ⟨hdirectory, old, hold, hfree, rfl⟩)
  · by_cases hid : other = id
    · rw [hid, h.node_eq] at hnode
      exact .inr (.inr ⟨hid, Option.some.inj hnode⟩)
    · rw [h.others other hdirectory hid] at hnode
      exact .inl hnode

theorem Gains.liesIn (h : Gains fs fs' directory name id n) {other there : NodeId}
    (hold : ∃ old, fs.node? there = some old ∧ LiesIn other old) :
    ∃ new, fs'.node? there = some new ∧ LiesIn other new := by
  obtain ⟨old, hnode, hlies⟩ := hold
  by_cases hdirectory : there = directory
  · subst hdirectory
    obtain ⟨above, entries, hbefore, -, hnew⟩ := h.entry
    rw [hbefore] at hnode
    cases hnode
    exact ⟨_, hnew, hlies⟩
  · exact ⟨old, (h.others there hdirectory (h.ne_of_node? hnode)).trans hnode, hlies⟩

/-- A tree with one more node is a tree, if that is no directory or an empty one in its place. -/
theorem IsTree.of_gains (h : fs.IsTree) (hgains : Gains fs fs' directory name id n)
    (hname : IsName name) (hlies : LiesIn directory n)
    (hempty : ∀ {above below}, n = .directory above below → below = []) : fs'.IsTree := by
  constructor
  case root_eq =>
    obtain ⟨entries, hroot⟩ := h.root_eq
    by_cases hdirectory : root = directory
    · subst hdirectory
      obtain ⟨above, old, hold, -, hnew⟩ := hgains.entry
      rw [hroot] at hold
      cases hold
      exact ⟨_, hnew⟩
    · exact ⟨entries, (hgains.others root hdirectory (hgains.ne_of_node? hroot)).trans hroot⟩
  case hasNames =>
    intro other parent entries hnode e he
    obtain hold | ⟨-, old, hold, -, rfl⟩ | ⟨-, hnew⟩ := hgains.directory_cases hnode
    · exact h.hasNames hold e he
    · rcases List.mem_append.mp he with he | he
      · exact h.hasNames hold e he
      · exact List.mem_singleton.mp he ▸ hname
    · rw [hempty hnew] at he
      cases he
  case nodup =>
    intro other parent entries hnode
    obtain hold | ⟨-, old, hold, hfree, rfl⟩ | ⟨-, hnew⟩ := hgains.directory_cases hnode
    · exact h.nodup hold
    · rw [List.map_append, List.nodup_append]
      refine ⟨h.nodup hold, by simp, fun used hused free hfree' ↦ ?_⟩
      obtain ⟨e, he, rfl⟩ := List.mem_map.mp hused
      rw [List.map_singleton, List.mem_singleton] at hfree'
      have hne : name ≠ e.1 := by simpa using List.lookup_eq_none_iff.mp hfree e he
      exact hfree' ▸ hne.symm
    · rw [hempty hnew]
      exact List.nodup_nil
  case liesIn =>
    intro other parent entries hnode e he
    obtain hold | ⟨rfl, old, hold, -, rfl⟩ | ⟨-, hnew⟩ := hgains.directory_cases hnode
    · exact hgains.liesIn (h.liesIn hold e he)
    · rcases List.mem_append.mp he with he | he
      · exact hgains.liesIn (h.liesIn hold e he)
      · exact ⟨n, List.mem_singleton.mp he ▸ hgains.node_eq, hlies⟩
    · rw [hempty hnew] at he
      cases he

/-- **A tree stays a tree when a node is made under a free name.** -/
theorem IsTree.create (h : fs.IsTree)
    (hdirectory : fs.node? directory = some (.directory parent entries))
    (hfree : entries.lookup name = none) (hname : IsName name) (hlies : LiesIn directory n)
    (hempty : ∀ {above below}, n = .directory above below → below = []) :
    (fs.create directory name n).1.IsTree :=
  h.of_gains (create_gains hdirectory hfree n) hname hlies hempty

end Gains

namespace IsTree

/-! ### Names in a tree -/

theorem child_of_mem (h : fs.IsTree) (hnode : fs.node? here = some (.directory parent entries))
    {e : String × NodeId} (he : e ∈ entries) : fs.child here e.1 = .ok (.node e.2) := by
  have hname := h.hasNames hnode e he
  have hlookup : entries.lookup e.1 = some e.2 := by
    obtain ⟨before, after, rfl⟩ := List.append_of_mem he
    have hnodup := h.nodup hnode
    rw [List.map_append, List.map_cons, List.nodup_append] at hnodup
    refine List.lookup_eq_some_iff.mpr ⟨before, after, rfl, fun b hb ↦ bne_iff_ne.mpr fun heq ↦ ?_⟩
    exact hnodup.2.2 b.1 (List.mem_map_of_mem hb) e.1 List.mem_cons_self heq.symm
  rw [child, hnode]
  simp only [if_neg hname.isPart.2.1, if_neg hname.ne_up, if_neg (Nat.not_lt.mpr hname.short),
    hlookup]

theorem child_root_up (h : fs.IsTree) : fs.child root ".." = .ok (.node root) := by
  obtain ⟨entries, hroot⟩ := h.root_eq
  rw [child, hroot]
  rfl

/-- The names from the root down to a directory lead there, through no link. -/
theorem leads_of_namesTo? (h : fs.IsTree) {fuel : Nat} {names : List String}
    (hnames : fs.namesTo? fuel id = some names) :
    fs.Leads 0 root names id ∧ ∀ name ∈ names, IsName name := by
  induction fuel generalizing id names with
  | zero => cases hnames
  | succ fuel ih =>
    rw [namesTo?] at hnames
    split_ifs at hnames with hroot
    · cases hnames
      rw [hroot]
      exact ⟨.nil root, by simp⟩
    · split at hnames
      · next parent below hid =>
        split at hnames
        · next entries hparent =>
          split at hnames
          · next name names' hname habove =>
            cases hnames
            obtain ⟨e, hfound, rfl⟩ := Option.map_eq_some_iff.mp hname
            have he := List.mem_of_find?_eq_some hfound
            have hnode : e.2 = id := by simpa using List.find?_some hfound
            obtain ⟨hleads, hall⟩ := ih habove
            -- the entry that was found leads one step further than the names above it
            have hstep : fs.Leads 0 parent [e.1] id := by
              refine .node (hnode ▸ h.child_of_mem hparent he) (fun target hlink ↦ ?_) (.nil id)
              rw [hid] at hlink
              cases hlink
            refine ⟨hleads.append hstep, fun name hmem ↦ ?_⟩
            rcases List.mem_append.mp hmem with hmem | hmem
            · exact hall name hmem
            · exact List.mem_singleton.mp hmem ▸ h.hasNames hparent e he
          · cases hnames
        · cases hnames
      · cases hnames

end IsTree

end CommandShell.Host.FileSystem

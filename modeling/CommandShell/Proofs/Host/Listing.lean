import CommandShell.Proofs.Host.Collapsing

/-!
# Names that are found are listed

A file can be reached in two ways: by the path of its directory with its name behind it, and by
listing the directory. Both go through the same node, as the names of a joined path are those of the
directory and the name (`Path.exists_components_join`), so whatever is found under a name is listed
by the directory (`FileSystem.FoldersAbove.mem_list_of_find`).

The two exceptions are `.` and `..`, which every directory knows and none lists. They lead to
directories only, if nothing else is above a directory (`FileSystem.FoldersAbove`); that is so in
the empty file system and stays so when a node is made or bytes are changed.
-/

namespace CommandShell

open CommandShell.Text

namespace Path

variable {directory name : String}

theorem components_cases (path : String) :
    components path = (splitString '/' path).filter (· ≠ "") ∨
      components path = (splitString '/' path).filter (· ≠ "") ++ ["."] := by
  rw [components]
  split_ifs
  · exact .inr rfl
  · exact .inl rfl

theorem components_of_getLast?_ne {path : String} (h : path.toList.getLast? ≠ some '/') :
    components path = (splitString '/' path).filter (· ≠ "") := by
  rw [components, if_neg]
  rw [Bool.and_eq_true, decide_eq_true_eq]
  exact fun hends ↦ h hends.1

/-- **The names of a joined path are those of the directory and the name.** A `.` for the slash at
the end of the directory is not among them. -/
theorem exists_components_join (hdirectory : directory ≠ "") (hname : name ≠ "")
    (hslash : hasSlash name = false) :
    ∃ names, components (join directory name) = names ++ [name] ∧
      (components directory = names ∨ components directory = names ++ ["."]) := by
  have hnotMem : '/' ∉ name.toList := hasSlash_eq_false_iff.mp hslash
  obtain ⟨front, hjoin, hfront⟩ :=
    exists_join hdirectory (isAbsolute_of_hasSlash_eq_false hslash)
  have hnames (last : String) (hlast : '/' ∉ last.toList) :
      (splitString '/' (front ++ "/" ++ last)).filter (· ≠ "") =
        (splitString '/' front).filter (· ≠ "") ++ [last].filter (· ≠ "") := by
    rw [splitString_append_sep rfl, splitString_of_notMem hlast, List.filter_append]
  refine ⟨(splitString '/' front).filter (· ≠ ""), ?_, ?_⟩
  · -- the name is not empty, so the path does not end with a slash
    have hend : (front ++ "/" ++ name).toList.getLast? ≠ some '/' := by
      rw [String.toList_append, List.getLast?_append,
        List.getLast?_eq_some_getLast (mt String.toList_eq_nil_iff.mp hname)]
      exact fun hlast ↦ hnotMem (Option.some.inj hlast ▸ List.getLast_mem _)
    rw [hjoin, components_of_getLast?_ne hend, hnames name hnotMem,
      List.filter_cons_of_pos (by simpa using hname), List.filter_nil]
  · obtain rfl | rfl := hfront
    · exact components_cases directory
    · have hempty := hnames "" (by simp)
      rw [String.append_empty] at hempty
      rw [List.filter_cons_of_neg (by simp), List.filter_nil, List.append_nil] at hempty
      rw [← hempty]
      exact components_cases _

theorem utf8ByteSize_le_join (hdirectory : directory ≠ "") (hname : isAbsolute name = false) :
    directory.utf8ByteSize ≤ (join directory name).utf8ByteSize := by
  obtain ⟨front, hjoin, rfl | rfl⟩ := exists_join hdirectory hname
  all_goals
    simp only [hjoin, String.utf8ByteSize_append]
    omega

end Path

namespace Host.FileSystem

variable {fs fs' : FileSystem} {cwd here there above id : NodeId} {links : Nat}
  {directory name : String} {n : Node}

/-! ## Finding and listing -/

theorem isFolder_of_child {place : Place} (h : fs.child here name = .ok place) :
    ∃ n, fs.node? here = some n ∧ n.isFolder = true := by
  unfold child at h
  split at h
  · next hnode => exact ⟨_, hnode, rfl⟩
  · next hnode => exact ⟨_, hnode, rfl⟩
  · cases h
  · cases h

/-- A name that leads somewhere is that of an entry, unless every directory knows it. -/
theorem mem_entries_of_child (h : fs.child here name = .ok (.node id)) (hdot : name ≠ ".")
    (hup : name ≠ "..") :
    ∃ parent entries, fs.node? here = some (.directory parent entries) ∧
      name ∈ entries.map (·.1) := by
  unfold child at h
  split at h
  · next parent entries hnode =>
    rw [if_neg hdot, if_neg hup] at h
    split_ifs at h
    split at h
    · next hlookup =>
      exact ⟨parent, entries, hnode, List.mem_map.mpr ⟨_, mem_of_lookup hlookup, rfl⟩⟩
    · cases h
  · rw [if_neg hdot, if_neg hup] at h
    cases h
  · cases h
  · cases h

theorem child_dot {place : Place} (h : fs.child here name = .ok place) :
    fs.child here "." = .ok (.node here) := by
  unfold child at h ⊢
  split at h
  · rw [if_pos rfl]
  · rw [if_pos rfl]
  · cases h
  · cases h

theorem Leads.exists_first {rest : List String} (h : fs.Leads links here (name :: rest) there) :
    ∃ id, fs.child here name = .ok (.node id) := by
  cases h with
  | node hchild => exact ⟨_, hchild⟩
  | link hchild => exact ⟨_, hchild⟩

/-- **What is found under a name in a directory is found from the directory on.** -/
theorem exists_leads_of_find_join (hdirectory : directory ≠ "") (hname : name ≠ "")
    (hslash : Path.hasSlash name = false)
    (hfind : fs.find cwd (Path.join directory name) = .ok there) :
    ∃ mid, fs.find cwd directory = .ok mid ∧ ∃ links, fs.Leads links mid [name] there := by
  have hrelative := Path.isAbsolute_of_hasSlash_eq_false hslash
  obtain ⟨-, hshort, links, hlinks, hleads⟩ := find_eq_ok_iff.mp hfind
  obtain ⟨names, hnames, hcases⟩ := Path.exists_components_join hdirectory hname hslash
  rw [Path.isAbsolute_join hdirectory hrelative, hnames, leads_append_iff] at hleads
  obtain ⟨a, b, mid, rfl, hbefore, hlast⟩ := hleads
  refine ⟨mid, find_eq_ok_iff.mpr ⟨hdirectory, ?_, a, by omega, ?_⟩, b, hlast⟩
  · exact Nat.le_trans (Path.utf8ByteSize_le_join hdirectory hrelative) hshort
  · obtain hcomponents | hcomponents := hcases
    · rwa [hcomponents]
    · -- the slash at the end asks for a directory, and that is what the name was looked for in
      obtain ⟨id, hchild⟩ := hlast.exists_first
      rw [hcomponents, ← Nat.add_zero a]
      exact hbefore.append (.node (child_dot hchild) (not_link_of_child hchild) (.nil mid))

/-! ## Above a directory -/

/-- Nothing but a directory is above a directory, even above one that was removed. -/
def FoldersAbove (fs : FileSystem) : Prop :=
  ∀ ⦃here above : NodeId⦄, fs.child here ".." = .ok (.node above) →
    ∃ n, fs.node? above = some n ∧ n.isFolder = true

theorem FoldersAbove.isFolder_of_leads (h : fs.FoldersAbove) (hname : name = "." ∨ name = "..")
    (hleads : fs.Leads links here [name] there) :
    ∃ n, fs.node? there = some n ∧ n.isFolder = true := by
  obtain ⟨id, hchild⟩ := hleads.exists_first
  obtain rfl | rfl := hname
  · obtain ⟨-, rfl⟩ := hleads.of_dot
    exact isFolder_of_child hchild
  · obtain ⟨n, hnode, hfolder⟩ := h hchild
    have hnot : ∀ target, fs.node? id ≠ some (.link target) := by
      intro target hlink
      rw [hnode] at hlink
      cases hlink
      cases hfolder
    obtain ⟨-, rfl⟩ := leads_nil_iff.mp (hleads.of_child hchild hnot)
    exact ⟨n, hnode, hfolder⟩

/-- **What is found under a name in a directory and is no directory itself is listed there.** -/
theorem FoldersAbove.mem_list_of_find (h : fs.FoldersAbove) (hdirectory : directory ≠ "")
    (hname : name ≠ "") (hslash : Path.hasSlash name = false)
    (hfind : fs.find cwd (Path.join directory name) = .ok there)
    (hnode : fs.node? there = some n) (hfile : n.isFolder = false) :
    ∃ names, fs.list cwd directory = .ok names ∧ name ∈ names := by
  obtain ⟨mid, hmid, links, hleads⟩ := exists_leads_of_find_join hdirectory hname hslash hfind
  have hplain : ¬(name = "." ∨ name = "..") := by
    intro hdots
    obtain ⟨folder, hfolder, hfolds⟩ := h.isFolder_of_leads hdots hleads
    rw [hnode] at hfolder
    cases hfolder
    rw [hfile] at hfolds
    cases hfolds
  rw [not_or] at hplain
  obtain ⟨id, hchild⟩ := hleads.exists_first
  obtain ⟨parent, entries, hmidNode, hmem⟩ := mem_entries_of_child hchild hplain.1 hplain.2
  exact ⟨_, by rw [list, lookUp_eq_ok_iff.mpr ⟨hmid, hmidNode⟩], hmem⟩

/-! ### File systems in which this is so -/

theorem foldersAbove_empty : ({} : FileSystem).FoldersAbove := by
  intro here above h
  cases here with
  | zero =>
    cases h
    exact ⟨_, rfl, rfl⟩
  | succ here => cases h

section Gains

variable {owner parent : NodeId} {entries : List (String × NodeId)}

/-- A new node is above nothing, and what is above it is the directory that has gained it. -/
theorem FoldersAbove.of_gains (h : fs.FoldersAbove) (hgains : Gains fs fs' owner name id n)
    (hlies : LiesIn owner n) : fs'.FoldersAbove := by
  obtain ⟨parent, entries, hbefore, -, hafter⟩ := hgains.entry
  intro here above hchild
  by_cases hid : here = id
  · rw [hid, child, hgains.node_eq] at hchild
    cases n with
    | directory parent entries =>
      obtain rfl : parent = owner := hlies
      cases hchild
      exact ⟨_, hafter, rfl⟩
    | removedDirectory parent => exact hlies.elim
    | _ => cases hchild
  · have hold : fs.child here ".." = .ok (.node above) := by
      by_cases howner : here = owner
      · subst howner
        rw [child, hafter] at hchild
        rw [child, hbefore]
        exact hchild
      · rwa [child, hgains.others here howner hid, ← child] at hchild
    obtain ⟨folder, hnode, hfolder⟩ := h hold
    by_cases howner : above = owner
    · exact ⟨_, howner ▸ hafter, rfl⟩
    · exact ⟨folder, (hgains.others above howner (hgains.ne_of_node? hnode)).trans hnode, hfolder⟩

theorem FoldersAbove.create (h : fs.FoldersAbove)
    (howner : fs.node? owner = some (.directory parent entries))
    (hfree : entries.lookup name = none) (hlies : LiesIn owner n) :
    (fs.create owner name n).1.FoldersAbove :=
  h.of_gains (create_gains howner hfree n) hlies

end Gains

end Host.FileSystem

end CommandShell

import CommandShell.Host.Files
import Mathlib.Tactic.SplitIfs

/-!
# Trees that differ little

Where a path leads depends on the names in the directories on its way, and on nothing else. So it
leads to the same place in two file systems that differ at most in the bytes of their files
(`SameTree`), and a path that led to a free name leads to whatever was made under that name, if
nothing else was made (`Gains`). Both facts are inductions along the walk, one case for each thing
that a name can turn out to be.
-/

namespace CommandShell.Host

/-! ## Trees that differ in bytes only -/

namespace Node

def outline : Node → Node
  | .file mode _ => .file mode ByteArray.empty
  | n => n

/-- Whether a node is something that bytes pass through rather than stay in. -/
def isSpecial : Node → Bool
  | .device _ => true
  | .descriptor _ => true
  | _ => false

theorem eq_or_file_of_outline_eq {n n' : Node} (h : n'.outline = n.outline) :
    n' = n ∨ ∃ mode data data', n = .file mode data ∧ n' = .file mode data' := by
  cases n <;> cases n' <;> simp_all [outline]

end Node

namespace FileSystem

variable {fs fs' fs'' : FileSystem}

theorem find_of_isAbsolute {path : String} (h : Path.isAbsolute path = true) (cwd cwd' : NodeId) :
    fs.find cwd path = fs.find cwd' path := by
  simp only [find, locate, h, if_true]

theorem find_eq_ok_iff_locate {cwd there : NodeId} {path : String} :
    fs.find cwd path = .ok there ↔ fs.locate cwd path = .ok (.node there) := by
  unfold find
  split
  · next hlocate => rw [hlocate, Except.ok.injEq, Except.ok.injEq, Place.node.injEq]
  · next hlocate => simp [hlocate]
  · next hlocate => simp [hlocate]

theorem lookUp_eq_ok_iff {cwd id : NodeId} {path : String} {n : Node} :
    fs.lookUp cwd path = .ok (id, n) ↔ fs.find cwd path = .ok id ∧ fs.node? id = some n := by
  rw [lookUp]
  constructor
  · intro h
    split at h
    · cases h
    · next found hfind =>
      split at h
      · next hnode =>
        cases h
        exact ⟨hfind, hnode⟩
      · cases h
  · rintro ⟨hfind, hnode⟩
    simp only [hfind, hnode]

theorem lookUp_eq_of_find_eq {cwd cwd' : NodeId} {path path' : String}
    (h : fs.find cwd path = fs.find cwd' path') : fs.lookUp cwd path = fs.lookUp cwd' path' := by
  rw [lookUp, lookUp, h]

/-! ### One name at a time -/

section Steps

variable {follow : Bool} {links here id : Nat} {name : String} {rest : List String}

theorem walk_of_link {target : String} (h : fs.child here name = .ok (.node id))
    (hlink : fs.node? id = some (.link target)) (hgo : ¬(rest.isEmpty && !follow) = true) :
    fs.walk follow (links + 1) here (name :: rest) =
      fs.walk follow links (if Path.isAbsolute target then root else here)
        (Path.components target ++ rest) := by
  rw [walk, h]
  simp only [hlink, hgo, Bool.false_eq_true, if_false]

theorem walk_of_node (h : fs.child here name = .ok (.node id))
    (hnot : ∀ target, fs.node? id ≠ some (.link target)) :
    fs.walk follow links here (name :: rest) = fs.walk follow links id rest := by
  rw [walk, h]
  dsimp only
  split
  · next target hlink => exact absurd hlink (hnot target)
  · rfl

end Steps

/-! ### The same tree -/

/-- Two file systems differ at most in the bytes of their files and in what is open. -/
def SameTree (fs fs' : FileSystem) : Prop :=
  ∀ id, (fs'.node? id).map Node.outline = (fs.node? id).map Node.outline

theorem SameTree.trans (h : SameTree fs fs') (h' : SameTree fs' fs'') : SameTree fs fs'' :=
  fun id ↦ (h' id).trans (h id)

theorem sameTree_of_nodes_eq (h : fs'.nodes = fs.nodes) : SameTree fs fs' := by
  intro id
  rw [node?, node?, h]

theorem sameTree_setNode {id : NodeId} {mode : Nat} {data : ByteArray}
    (h : fs.node? id = some (.file mode data)) (data' : ByteArray) :
    SameTree fs (fs.setNode id (.file mode data')) := by
  intro other
  by_cases hother : id = other
  · subst hother
    have hlt : id < fs.nodes.size := (Array.getElem?_eq_some_iff.mp h).1
    rw [node?_setNode_self fs id _ hlt, h]
    rfl
  · rw [node?_setNode_of_ne fs _ hother]

namespace SameTree

/-- What is under an identity is the same on both sides, or a file on both sides. -/
theorem node?_eq_or (h : SameTree fs fs') (id : NodeId) :
    fs'.node? id = fs.node? id ∨
      ∃ mode data data', fs.node? id = some (.file mode data) ∧
        fs'.node? id = some (.file mode data') := by
  have hid := h id
  cases hn : fs.node? id with
  | none =>
    rw [hn, Option.map_none, Option.map_eq_none_iff] at hid
    exact .inl hid
  | some n =>
    rw [hn, Option.map_some, Option.map_eq_some_iff] at hid
    obtain ⟨n', hn', houtline⟩ := hid
    obtain rfl | ⟨mode, data, data', rfl, rfl⟩ := Node.eq_or_file_of_outline_eq houtline
    · exact .inl hn'
    · exact .inr ⟨mode, data, data', rfl, hn'⟩

theorem child_eq (h : SameTree fs fs') (here : NodeId) (name : String) :
    fs'.child here name = fs.child here name := by
  obtain hsame | ⟨mode, data, data', hfile, hfile'⟩ := h.node?_eq_or here
  · rw [child, child, hsame]
  · rw [child, child, hfile, hfile']

theorem node?_eq_some_iff (h : SameTree fs fs') (id : NodeId) {n : Node}
    (hn : ∀ mode data, n ≠ .file mode data) : fs'.node? id = some n ↔ fs.node? id = some n := by
  obtain hsame | ⟨mode, data, data', hfile, hfile'⟩ := h.node?_eq_or id
  · rw [hsame]
  · rw [hfile, hfile']
    exact iff_of_false (fun heq ↦ hn _ _ (Option.some.inj heq).symm)
      fun heq ↦ hn _ _ (Option.some.inj heq).symm

theorem link_iff (h : SameTree fs fs') (id : NodeId) (target : String) :
    fs'.node? id = some (.link target) ↔ fs.node? id = some (.link target) :=
  h.node?_eq_some_iff id nofun

/-- The bytes of files do not matter to where names lead. -/
theorem walk_eq (h : SameTree fs fs') (follow : Bool) (links : Nat) (here : NodeId)
    (names : List String) : fs'.walk follow links here names = fs.walk follow links here names := by
  fun_induction walk fs follow links here names with
  | case1 => rw [walk]
  | case2 links here name rest e hchild => rw [walk, h.child_eq, hchild]
  | case3 links here name rest directory free hchild hlast =>
    rw [walk, h.child_eq, hchild]
    exact if_pos hlast
  | case4 links here name rest directory free hchild hlast =>
    rw [walk, h.child_eq, hchild]
    exact if_neg hlast
  | case5 links here name rest id hchild target hlink hstop =>
    rw [walk, h.child_eq, hchild]
    simp only [(h.link_iff id target).mpr hlink, hstop, if_true]
  | case6 here name rest id hchild target hlink hgo =>
    rw [walk, h.child_eq, hchild]
    simp only [(h.link_iff id target).mpr hlink, hgo, Bool.false_eq_true, if_false]
  | case7 here name rest id hchild target hlink hgo left ih =>
    rw [walk_of_link (by rw [h.child_eq, hchild]) ((h.link_iff id target).mpr hlink) hgo]
    exact ih
  | case8 links here name rest id hchild hnot ih =>
    rw [walk_of_node (by rw [h.child_eq, hchild]) fun target hlink ↦
      hnot target ((h.link_iff id target).mp hlink)]
    exact ih

theorem locate_eq (h : SameTree fs fs') (cwd : NodeId) (path : String) (follow : Bool) :
    fs'.locate cwd path follow = fs.locate cwd path follow := by
  rw [locate, locate, h.walk_eq]

theorem find_eq (h : SameTree fs fs') (cwd : NodeId) (path : String) (follow : Bool) :
    fs'.find cwd path follow = fs.find cwd path follow := by
  rw [find, find, h.locate_eq]

theorem descriptorNamed?_eq (h : SameTree fs fs') (cwd : NodeId) (path : String) :
    fs'.descriptorNamed? cwd path = fs.descriptorNamed? cwd path := by
  unfold descriptorNamed? lookUp
  rw [h.find_eq]
  cases fs.find cwd path with
  | error e => rfl
  | ok found =>
    obtain hsame | ⟨mode, data, data', hfile, hfile'⟩ := h.node?_eq_or found
    · simp only [hsame]
    · simp only [hfile, hfile']

end SameTree

/-! ## A new node under a free name -/

theorem of_child_vacant {here directory : NodeId} {name free : String}
    (h : fs.child here name = .ok (.vacant directory free)) :
    directory = here ∧ free = name ∧
      ∃ parent entries, fs.node? here = some (.directory parent entries) ∧
        entries.lookup name = none := by
  unfold child at h
  split at h
  · next parent entries hnode =>
    split_ifs at h
    · cases h
    · cases h
    · split at h
      · cases h
      · next hlookup =>
        cases h
        exact ⟨rfl, rfl, parent, entries, hnode, hlookup⟩
  · split_ifs at h <;> cases h
  · cases h
  · cases h

/-- A directory holds a node more than before, under a name that was free; the node is new, and the
others are as they were. -/
structure Gains (fs fs' : FileSystem) (directory : NodeId) (name : String) (id : NodeId)
    (n : Node) : Prop where
  entry : ∃ parent entries, fs.node? directory = some (.directory parent entries) ∧
    entries.lookup name = none ∧
    fs'.node? directory = some (.directory parent (entries ++ [(name, id)]))
  isNew : fs.node? id = none
  node_eq : fs'.node? id = some n
  others : ∀ other, other ≠ directory → other ≠ id → fs'.node? other = fs.node? other

theorem create_gains {directory parent : NodeId} {entries : List (String × NodeId)} {name : String}
    (hdirectory : fs.node? directory = some (.directory parent entries))
    (hfree : entries.lookup name = none) (n : Node) :
    Gains fs (fs.create directory name n).1 directory name (fs.create directory name n).2 n := by
  have hlt : directory < fs.nodes.size := (Array.getElem?_eq_some_iff.mp hdirectory).1
  -- the node is added first, and its entry in the directory after that
  have hadded : ∀ other, other ≠ (fs.addNode n).2 →
      (fs.addNode n).1.node? other = fs.node? other := by
    intro other hother
    change other ≠ fs.nodes.size at hother
    simp only [addNode, node?, Array.getElem?_push, if_neg hother]
  have hne : directory ≠ (fs.addNode n).2 := Nat.ne_of_lt hlt
  have hentry : (fs.create directory name n).1 =
      (fs.addNode n).1.setNode directory
        (.directory parent (entries ++ [(name, (fs.addNode n).2)])) := by
    simp only [create, addEntry, hadded directory hne, hdirectory]
  have hlt' : directory < (fs.addNode n).1.nodes.size := by
    rw [addNode, Array.size_push]
    exact Nat.lt_succ_of_lt hlt
  have hid : (fs.create directory name n).2 = (fs.addNode n).2 := rfl
  rw [hid]
  refine ⟨⟨parent, entries, hdirectory, hfree, ?_⟩, ?_, ?_, ?_⟩
  · rw [hentry, node?_setNode_self _ _ _ hlt']
  · exact Array.getElem?_eq_none (Nat.le_refl _)
  · rw [hentry, node?_setNode_of_ne _ _ hne]
    exact node?_addNode_self fs n
  · intro other hdir hnew
    rw [hentry, node?_setNode_of_ne _ _ hdir.symm]
    exact hadded other hnew

theorem contents_eq_of_node?_eq {id : NodeId} (h : fs'.node? id = fs.node? id) :
    fs'.contents id = fs.contents id := by
  rw [contents, contents, h]

namespace Gains

variable {directory id : NodeId} {name : String} {n : Node}

theorem ne_of_node? (h : Gains fs fs' directory name id n) {other : NodeId} {old : Node}
    (hother : fs.node? other = some old) : other ≠ id := by
  rintro rfl
  rw [h.isNew] at hother
  cases hother

theorem contents_eq (h : Gains fs fs' directory name id n) {other : NodeId} {old : Node}
    (hother : fs.node? other = some old) : fs'.contents other = fs.contents other := by
  by_cases hdirectory : other = directory
  · obtain ⟨parent, entries, hold, -, hnew⟩ := h.entry
    rw [hdirectory, contents, contents, hold, hnew]
  · exact contents_eq_of_node?_eq (h.others other hdirectory (h.ne_of_node? hother))

theorem child_of_node (h : Gains fs fs' directory name id n) {here found : NodeId} {part : String}
    (hchild : fs.child here part = .ok (.node found)) :
    fs'.child here part = .ok (.node found) := by
  obtain ⟨parent, entries, hold, -, hnew⟩ := h.entry
  by_cases hhere : here = directory
  · subst hhere
    rw [child, hold] at hchild
    rw [child, hnew]
    dsimp only at hchild ⊢
    split_ifs at hchild ⊢
    · exact hchild
    · exact hchild
    · rw [List.lookup_append]
      split at hchild
      · next hlookup =>
        rw [hlookup]
        exact hchild
      · cases hchild
  · have hnot : here ≠ id := by
      rintro rfl
      rw [child, h.isNew] at hchild
      cases hchild
    rwa [child, h.others here hhere hnot, ← child]

theorem child_self (h : Gains fs fs' directory name id n) {here : NodeId} {part : String}
    (hchild : fs.child here part = .ok (.vacant directory name)) :
    fs'.child here part = .ok (.node id) := by
  obtain ⟨rfl, rfl, -⟩ := of_child_vacant hchild
  obtain ⟨parent, entries, hold, hfree, hnew⟩ := h.entry
  rw [child, hold] at hchild
  rw [child, hnew]
  dsimp only at hchild ⊢
  split_ifs at hchild ⊢
  · cases hchild
  · cases hchild
  · rw [List.lookup_append, hfree]
    simp

/-- Every other free name still is free. -/
theorem child_of_vacant (h : Gains fs fs' directory name id n) {here other : NodeId}
    {part free : String} (hchild : fs.child here part = .ok (.vacant other free))
    (hne : ¬(other = directory ∧ free = name)) :
    fs'.child here part = .ok (.vacant other free) := by
  obtain ⟨rfl, rfl, -⟩ := of_child_vacant hchild
  obtain ⟨parent, entries, hold, -, hnew⟩ := h.entry
  by_cases hhere : other = directory
  · subst hhere
    have hname : (free == name) = false := beq_false_of_ne fun hname ↦ hne ⟨rfl, hname⟩
    rw [child, hold] at hchild
    rw [child, hnew]
    dsimp only at hchild ⊢
    split_ifs at hchild ⊢
    · cases hchild
    · cases hchild
    · split at hchild
      · cases hchild
      · next hlookup =>
        simp [List.lookup_append, hlookup, List.lookup_cons, hname]
  · have hnot : other ≠ id := by
      rintro rfl
      rw [child, h.isNew] at hchild
      cases hchild
    rwa [child, h.others other hhere hnot, ← child]

theorem link_iff (h : Gains fs fs' directory name id n) (hn : ∀ target, n ≠ .link target)
    (other : NodeId) (target : String) :
    fs'.node? other = some (.link target) ↔ fs.node? other = some (.link target) := by
  by_cases hdirectory : other = directory
  · obtain ⟨parent, entries, hold, -, hnew⟩ := h.entry
    rw [hdirectory, hold, hnew]
    constructor <;> nofun
  · by_cases hid : other = id
    · rw [hid, h.isNew, h.node_eq]
      constructor
      · intro hlink
        exact absurd (Option.some.inj hlink) (hn target)
      · nofun
    · rw [h.others other hdirectory hid]

/-- Names that led to a free name lead there still, or to the new node if it has got that name. -/
theorem walk_eq_ite (h : Gains fs fs' directory name id n) (hn : ∀ target, n ≠ .link target)
    {follow : Bool} {links : Nat} {here other : NodeId} {names : List String} {free : String}
    (hwalk : fs.walk follow links here names = .ok (.vacant other free)) :
    fs'.walk follow links here names =
      .ok (if other = directory ∧ free = name then .node id else .vacant other free) := by
  have hnot : ∀ target, fs'.node? id ≠ some (.link target) := by
    intro target hlink
    rw [h.node_eq] at hlink
    exact hn target (Option.some.inj hlink)
  fun_induction walk fs follow links here names with
  | case3 links here part rest found free' hchild hlast =>
    cases hwalk
    obtain rfl := List.isEmpty_iff.mp hlast
    split_ifs with hself
    · obtain ⟨rfl, rfl⟩ := hself
      rw [walk_of_node (h.child_self hchild) hnot, walk]
    · rw [walk, h.child_of_vacant hchild hself]
      rfl
  | case7 here part rest between hchild target hlink hgo left ih =>
    rw [walk_of_link (h.child_of_node hchild) ((h.link_iff hn between target).mpr hlink) hgo]
    exact ih hwalk
  | case8 links here part rest between hchild hlink ih =>
    rw [walk_of_node (h.child_of_node hchild) fun target ht ↦
      hlink target ((h.link_iff hn between target).mp ht)]
    exact ih hwalk
  | _ => cases hwalk

theorem locate_of_vacant (h : Gains fs fs' directory name id n) (hn : ∀ target, n ≠ .link target)
    {cwd other : NodeId} {path free : String}
    (hlocate : fs.locate cwd path = .ok (.vacant other free))
    (hne : ¬(other = directory ∧ free = name)) :
    fs'.locate cwd path = .ok (.vacant other free) := by
  unfold locate at hlocate ⊢
  split_ifs at hlocate ⊢ <;> rw [h.walk_eq_ite hn hlocate, if_neg hne]

end Gains

theorem of_walk_vacant {follow : Bool} {links : Nat} {here directory : NodeId} {names : List String}
    {name : String} (h : fs.walk follow links here names = .ok (.vacant directory name)) :
    ∃ parent entries, fs.node? directory = some (.directory parent entries) ∧
      entries.lookup name = none := by
  fun_induction walk fs follow links here names with
  | case3 links here part rest found free hchild hlast =>
    cases h
    obtain ⟨rfl, rfl, hfree⟩ := of_child_vacant hchild
    exact hfree
  | case7 here part rest between hchild target hlink hgo left ih => exact ih h
  | case8 links here part rest between hchild hlink ih => exact ih h
  | _ => cases h

theorem create_locates {cwd directory : NodeId} {path name : String} {n : Node}
    (h : fs.locate cwd path = .ok (.vacant directory name)) (hn : ∀ target, n ≠ .link target) :
    Gains fs (fs.create directory name n).1 directory name (fs.create directory name n).2 n ∧
      (fs.create directory name n).1.locate cwd path =
        .ok (.node (fs.create directory name n).2) := by
  unfold locate at h ⊢
  split_ifs at h ⊢
  all_goals
    obtain ⟨parent, entries, hdirectory, hfree⟩ := of_walk_vacant h
    have hgains := create_gains hdirectory hfree n
    refine ⟨hgains, ?_⟩
    rw [hgains.walk_eq_ite hn h, if_pos ⟨rfl, rfl⟩]

end FileSystem

end CommandShell.Host

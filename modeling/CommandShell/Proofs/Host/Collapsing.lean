import CommandShell.Host.Machine
import CommandShell.Proofs.Host.Trees

/-!
# Taking `..` lexically

An absolute path is made from a path as text: the path of the working directory is put before it,
and every `..` takes away the part before it. The file system looks at more than the text. It goes
up from wherever the parts have led, and behind a symbolic link that is another directory than the
one in which the link was found.

So the text is right where every `..` leads back to the directory in which the part that it takes
away was looked up (`FileSystem.LeadsBack`). This is so for a path without `..`
(`FileSystem.leadsBack_of_notMem`), and then the parts that are left lead to the same node, through
no more links than before (`FileSystem.Leads.exists_trail`).

The proof goes along the parts and keeps the trail of the walk beside the parts that are left
(`FileSystem.Trail`), so that a `..` takes the last step from both.
-/

namespace CommandShell

open CommandShell.Text

/-! ## The text of an absolute path -/

namespace Path

theorem parts_append_slash (a b : String) : parts (a ++ "/" ++ b) = parts a ++ parts b := by
  rw [parts, splitString_append_sep rfl, List.filter_append, ← parts, ← parts]

/-- A name in a directory stands behind a slash, be it the directory's own or not. -/
theorem exists_join {directory name : String} (hdirectory : directory ≠ "")
    (hname : isAbsolute name = false) :
    ∃ front, join directory name = front ++ "/" ++ name ∧
      (directory = front ∨ directory = front ++ "/") := by
  rw [join, if_neg (by simp [hname])]
  split_ifs with hend
  · rw [Bool.or_eq_true, decide_eq_true_eq, decide_eq_true_eq] at hend
    obtain ⟨front, hfront⟩ := List.getLast?_eq_some_iff.mp (hend.resolve_left hdirectory)
    have heq : directory = String.ofList front ++ "/" := by
      rw [← String.toList_inj, hfront, String.toList_append, String.toList_ofList]
      rfl
    exact ⟨String.ofList front, by rw [heq], .inr heq⟩
  · exact ⟨directory, rfl, .inl rfl⟩

theorem parts_join {name : String} (h : isAbsolute name = false) (directory : String) :
    parts (join directory name) = parts directory ++ parts name := by
  by_cases hdirectory : directory = ""
  · rw [hdirectory, join, if_neg (by simp [h]), if_pos (by simp), String.empty_append]
    rfl
  · obtain ⟨front, hjoin, hfront⟩ := exists_join hdirectory h
    have hparts : parts directory = parts front := by
      obtain rfl | rfl := hfront
      · rfl
      · rw [← String.append_empty (s := front ++ "/"), parts_append_slash]
        exact List.append_nil _
    rw [hjoin, hparts, parts_append_slash]

theorem hasSlash_of_isAbsolute {path : String} (h : isAbsolute path = true) :
    hasSlash path = true := by
  have hhead : path.toList.head? = some '/' := of_decide_eq_true h
  exact List.contains_iff_mem.mpr (List.mem_of_head? hhead)

theorem isAbsolute_of_hasSlash_eq_false {path : String} (h : hasSlash path = false) :
    isAbsolute path = false := by
  cases habsolute : isAbsolute path with
  | false => rfl
  | true =>
    rw [hasSlash_of_isAbsolute habsolute] at h
    cases h

theorem isAbsolute_join {directory name : String} (hdirectory : directory ≠ "")
    (hname : isAbsolute name = false) :
    isAbsolute (join directory name) = isAbsolute directory := by
  obtain ⟨c, cs, htext⟩ := List.exists_cons_of_ne_nil (mt String.toList_eq_nil_iff.mp hdirectory)
  rw [join, hname, if_neg (by decide)]
  split_ifs
  · rw [isAbsolute, isAbsolute, String.toList_append, htext]
    rfl
  · rw [isAbsolute, isAbsolute, String.toList_append, String.toList_append, htext]
    rfl

theorem rootSlashes_of_isAbsolute {path : String} (h : isAbsolute path = true) :
    (rootSlashes path).toList = ['/'] ∨ (rootSlashes path).toList = ['/', '/'] := by
  have hhead : path.toList.head? = some '/' := of_decide_eq_true h
  unfold rootSlashes
  split
  · exact .inl rfl
  · exact .inr rfl
  · exact .inl rfl
  · next hnot =>
    obtain ⟨rest, hrest⟩ := List.head?_eq_some_iff.mp hhead
    exact absurd hrest (hnot rest)

/-- The parts that are left of an absolute path when every `..` has taken one away. -/
def partsLeft (path : String) : List String :=
  ((parts path).foldl (collapseStep true) []).reverse

theorem mem_of_mem_foldl {rooted : Bool} {seen ps : List String} {part : String}
    (h : part ∈ ps.foldl (collapseStep rooted) seen) : part ∈ seen ∨ part ∈ ps := by
  induction ps generalizing seen with
  | nil => exact .inl h
  | cons p ps ih =>
    rw [List.foldl_cons] at h
    obtain hstep | hrest := ih h
    · have hcases : part ∈ seen ∨ part = p := by
        unfold collapseStep at hstep
        grind
      exact hcases.imp_right fun heq : part = p ↦ heq ▸ List.mem_cons_self
    · exact .inr (List.mem_cons_of_mem p hrest)

theorem mem_parts_of_mem_partsLeft {path part : String} (h : part ∈ partsLeft path) :
    part ∈ parts path :=
  (mem_of_mem_foldl (List.mem_reverse.mp h)).resolve_left List.not_mem_nil

theorem isPart_of_mem_partsLeft {path : String} : ∀ part ∈ partsLeft path, IsPart part :=
  fun _ h ↦ isPart_of_mem_parts (mem_parts_of_mem_partsLeft h)

section Collapse

variable {path : String}

theorem collapse_eq_tidy (h : isAbsolute path = true) :
    collapse path = tidy (rootSlashes path) (partsLeft path) := by
  have hne : tidy (rootSlashes path) (partsLeft path) ≠ "" := by
    intro hempty
    have htext := congrArg String.toList hempty
    rw [toList_tidy] at htext
    obtain hslash | hslashes := rootSlashes_of_isAbsolute h
    · rw [hslash] at htext
      cases htext
    · rw [hslashes] at htext
      cases htext
  unfold collapse
  dsimp only
  rw [h]
  split
  · next hempty => exact absurd hempty hne
  · rfl

theorem isAbsolute_collapse (h : isAbsolute path = true) : isAbsolute (collapse path) = true := by
  rw [collapse_eq_tidy h, isAbsolute, toList_tidy]
  obtain hslash | hslashes := rootSlashes_of_isAbsolute h
  · rw [hslash]
    rfl
  · rw [hslashes]
    rfl

theorem components_collapse (h : isAbsolute path = true) :
    components (collapse path) = partsLeft path := by
  rw [collapse_eq_tidy h]
  exact components_tidy (rootSlashes_cases path) isPart_of_mem_partsLeft

end Collapse

end Path

/-! ## The trail of a walk -/

namespace Host.FileSystem

open CommandShell.Path

variable {fs : FileSystem} {here there : NodeId} {above : List NodeId} {links used : Nat}
  {seen names : List String}

/-- Whether every `..` among names leads back to the directory in which the name that it takes away
was looked up. The directories that the names have led through so far are `above`, the last one
first; `here` is where they have led. -/
def LeadsBack (fs : FileSystem) : (here : NodeId) → (above : List NodeId) → List String → Prop
  | _, _, [] => True
  | here, above, name :: rest =>
    if name = ".." then
      match above with
      | [] => LeadsBack fs here [] rest
      | before :: above =>
        fs.child here ".." = .ok (.node before) ∧ LeadsBack fs before above rest
    else
      ∀ id, fs.walk true linkBudget here [name] = .ok (.node id) →
        LeadsBack fs id (here :: above) rest

section LeadsBack

variable {name : String} {rest : List String}

theorem leadsBack_up_nil :
    fs.LeadsBack here [] (".." :: rest) ↔ fs.LeadsBack here [] rest :=
  Iff.rfl

theorem leadsBack_up_cons {before : NodeId} :
    fs.LeadsBack here (before :: above) (".." :: rest) ↔
      fs.child here ".." = .ok (.node before) ∧ fs.LeadsBack before above rest :=
  Iff.rfl

theorem leadsBack_cons_iff (h : name ≠ "..") :
    fs.LeadsBack here above (name :: rest) ↔
      ∀ id, fs.walk true linkBudget here [name] = .ok (.node id) →
        fs.LeadsBack id (here :: above) rest :=
  iff_of_eq (if_neg h)

theorem leadsBack_cons_of_leads (h : name ≠ "..") (hname : fs.Leads links here [name] there)
    (hlinks : links ≤ linkBudget) :
    fs.LeadsBack here above (name :: rest) ↔ fs.LeadsBack there (here :: above) rest := by
  simp only [leadsBack_cons_iff h, hname.walk_eq hlinks, Except.ok.injEq, Place.node.injEq,
    forall_eq']

theorem leadsBack_of_notMem (h : ".." ∉ names) : fs.LeadsBack here above names := by
  induction names generalizing here above with
  | nil => trivial
  | cons name rest ih =>
    rw [List.mem_cons, not_or] at h
    exact (leadsBack_cons_iff (Ne.symm h.1)).mpr fun id _ ↦ ih h.2

end LeadsBack

/-- The parts that are left, last part first, lead from the root to a node through the directories
above it, last one first. -/
inductive Trail (fs : FileSystem) : (links : Nat) → (seen : List String) → (here : NodeId) →
    (above : List NodeId) → Prop
  | start : Trail fs 0 [] root []
  | enter {links more : Nat} {seen : List String} {here there : NodeId} {above : List NodeId}
    {name : String} : Trail fs links seen here above → name ≠ ".." →
    fs.Leads more here [name] there → Trail fs (links + more) (name :: seen) there (here :: above)

theorem Trail.leads (h : fs.Trail links seen here above) :
    fs.Leads links root seen.reverse here := by
  induction h with
  | start => exact .nil root
  | enter _ _ hname ih =>
    rw [List.reverse_cons]
    exact ih.append hname

/-- **Where every `..` leads back, names that lead somewhere lead there collapsed**, and through no
more links. -/
theorem Leads.exists_trail (hroot : fs.child root ".." = .ok (.node root))
    (h : fs.Leads links here names there) (hlinks : links ≤ linkBudget)
    (hback : fs.LeadsBack here above names) (htrail : fs.Trail used seen here above) :
    ∃ most ≤ used + links, ∃ above',
      fs.Trail most (names.foldl (collapseStep true) seen) there above' := by
  induction names generalizing used seen here above links with
  | nil =>
    obtain ⟨rfl, rfl⟩ := leads_nil_iff.mp h
    exact ⟨used, Nat.le_refl _, above, htrail⟩
  | cons name rest ih =>
    rw [List.foldl_cons]
    by_cases hup : name = ".."
    · subst hup
      cases htrail with
      | start =>
        exact ih (h.of_child hroot (not_link_of_child hroot)) hlinks (leadsBack_up_nil.mp hback)
          .start
      | @enter used more seen before _ above part htrail hpart hstep =>
        -- the last step of the trail is taken back, and so is the part
        obtain ⟨hchild, hback⟩ := leadsBack_up_cons.mp hback
        have hseen : collapseStep true (part :: seen) ".." = seen := by
          simp [collapseStep, hpart]
        obtain ⟨most, hle, above', htrail'⟩ :=
          ih (h.of_child hchild hstep.not_link) hlinks hback htrail
        rw [hseen]
        exact ⟨most, by omega, above', htrail'⟩
    · obtain ⟨a, b, mid, rfl, hname, hrest⟩ := leads_cons_iff.mp h
      have hmid := (leadsBack_cons_of_leads hup hname (by omega)).mp hback
      have hseen : collapseStep true seen name = name :: seen := if_pos hup
      obtain ⟨most, hle, above', htrail'⟩ := ih hrest (by omega) hmid (htrail.enter hup hname)
      rw [hseen]
      exact ⟨most, by omega, above', htrail'⟩

/-! ## The node of a collapsed path -/

/-- What the parts of an absolute path lead to is what the collapsed path names, if that is no
longer than a path can be. -/
theorem find_collapse (htree : fs.IsTree) {path : String} (habsolute : isAbsolute path = true)
    (h : fs.Leads links root (parts path) there) (hlinks : links ≤ linkBudget)
    (hback : fs.LeadsBack root [] (parts path))
    (hshort : (collapse path).utf8ByteSize ≤ maxPath) (cwd : NodeId) :
    fs.find cwd (collapse path) = .ok there := by
  obtain ⟨most, hmost, above, htrail⟩ := h.exists_trail htree.child_root_up hlinks hback .start
  have hcollapsed := isAbsolute_collapse habsolute
  refine find_eq_ok_iff.mpr ⟨?_, hshort, most, by omega, ?_⟩
  · intro hempty
    rw [hempty] at hcollapsed
    exact absurd hcollapsed (by decide)
  · rw [if_pos hcollapsed, components_collapse habsolute]
    exact htrail.leads

end Host.FileSystem

/-! ## The path from the root -/

namespace Host.Machine

open CommandShell.Path

variable {m : Machine} {path full : String} {there : NodeId}

/-- The path from the root on, nothing collapsed: a relative one stands behind that of the working
directory, if there is one. -/
def fullPath? (m : Machine) (path : String) : Option String :=
  if isAbsolute path then some path
  else m.workingDirectory?.map fun here ↦ join here path

theorem isAbsolute_of_workingDirectory? {here : String} (h : m.workingDirectory? = some here) :
    isAbsolute here = true := by
  obtain ⟨names, -, rfl⟩ := Option.map_eq_some_iff.mp h
  rw [isAbsolute, String.toList_append]
  rfl

theorem isAbsolute_of_fullPath? (h : m.fullPath? path = some full) : isAbsolute full = true := by
  rw [fullPath?] at h
  split_ifs at h with habsolute
  · cases h
    exact habsolute
  · obtain ⟨here, hhere, rfl⟩ := Option.map_eq_some_iff.mp h
    have hroot := isAbsolute_of_workingDirectory? hhere
    have hne : here ≠ "" := by
      rintro rfl
      exact absurd hroot (by decide)
    rw [isAbsolute_join hne (by simpa using habsolute), hroot]

theorem leads_of_workingDirectory? (htree : m.files.IsTree) {here : String}
    (h : m.workingDirectory? = some here) :
    m.files.Leads 0 FileSystem.root (parts here) m.cwd := by
  obtain ⟨names, hnames, rfl⟩ := Option.map_eq_some_iff.mp h
  obtain ⟨hleads, hall⟩ := htree.leads_of_namesTo? hnames
  have hparts : parts ("/" ++ String.intercalate "/" names) = names :=
    parts_tidy (.inr (.inl rfl)) fun name hname ↦ (hall name hname).isPart
  exact hparts.symm ▸ hleads

theorem leads_of_fullPath? (htree : m.files.IsTree) (hfull : m.fullPath? path = some full)
    (hfind : m.files.find m.cwd path = .ok there) :
    ∃ links ≤ FileSystem.linkBudget, m.files.Leads links FileSystem.root (parts full) there := by
  obtain ⟨-, -, links, hlinks, hleads⟩ := FileSystem.find_eq_ok_iff.mp hfind
  have hparts := hleads.dropDots
  rw [← parts_eq] at hparts
  refine ⟨links, hlinks, ?_⟩
  rw [fullPath?] at hfull
  split_ifs at hfull with habsolute
  · cases hfull
    rwa [if_pos habsolute] at hparts
  · obtain ⟨here, hhere, rfl⟩ := Option.map_eq_some_iff.mp hfull
    rw [if_neg habsolute] at hparts
    rw [parts_join (by simpa using habsolute), ← Nat.zero_add links]
    exact (leads_of_workingDirectory? htree hhere).append hparts

/-- Whether every `..` of a path, behind that of the working directory if it is relative, leads
back to where the part that it takes away was looked up. -/
def LeadsBack (m : Machine) (path : String) : Prop :=
  ∀ full, m.fullPath? path = some full → m.files.LeadsBack FileSystem.root [] (parts full)

/-- **Where every `..` leads back, the absolute path of what is there names it too**, if it is no
longer than a path can be. -/
theorem find_collapse_fullPath (htree : m.files.IsTree) (hfull : m.fullPath? path = some full)
    (hfind : m.files.find m.cwd path = .ok there) (hback : m.LeadsBack path)
    (hshort : (collapse full).utf8ByteSize ≤ FileSystem.maxPath) (cwd : NodeId) :
    m.files.find cwd (collapse full) = .ok there := by
  obtain ⟨links, hlinks, hleads⟩ := leads_of_fullPath? htree hfull hfind
  exact FileSystem.find_collapse htree (isAbsolute_of_fullPath? hfull) hleads hlinks
    (hback full hfull) hshort cwd

end Host.Machine

end CommandShell

import CommandShell.Proofs.Host.Walking

/-!
# Where names lead

A walk that comes to a node has gone there name by name, and it has followed a certain number of
symbolic links on its way. `Leads` says so as a relation, one constructor for each thing that a name
can turn out to be. The number belongs to the relation, because the budget of a walk is for the
whole of it: walks can be taken apart and put together (`leads_append_iff`), and what is put
together costs the sum.

A walk within a budget is the same as names that lead somewhere at no more than that cost
(`walk_eq_node_iff`), so what is proved of the relation holds of the walk.
-/

namespace CommandShell.Host.FileSystem

/-- Names lead from one node to another through a number of symbolic links. -/
inductive Leads (fs : FileSystem) : (links : Nat) → (here : NodeId) → List String →
    (there : NodeId) → Prop
  | nil (here : NodeId) : Leads fs 0 here [] here
  | node {links : Nat} {here id there : NodeId} {name : String} {rest : List String} :
    fs.child here name = .ok (.node id) → (∀ target, fs.node? id ≠ some (.link target)) →
    Leads fs links id rest there → Leads fs links here (name :: rest) there
  | link {links : Nat} {here id there : NodeId} {name target : String} {rest : List String} :
    fs.child here name = .ok (.node id) → fs.node? id = some (.link target) →
    Leads fs links (if Path.isAbsolute target then root else here)
      (Path.components target ++ rest) there →
    Leads fs (links + 1) here (name :: rest) there

variable {fs : FileSystem} {here there mid : NodeId} {links : Nat}

/-! ## Walks -/

theorem Leads.walk_eq {names : List String} (h : fs.Leads links here names there) {budget : Nat}
    (hbudget : links ≤ budget) : fs.walk true budget here names = .ok (.node there) := by
  induction h generalizing budget with
  | nil here => rw [walk]
  | node hchild hnot _ ih => rw [walk_of_node hchild hnot, ih hbudget]
  | link hchild hlink _ ih =>
    obtain ⟨left, rfl⟩ := Nat.exists_eq_add_of_le' hbudget
    rw [← Nat.add_assoc, walk_of_link hchild hlink (by simp), ih (Nat.le_add_left _ _)]

theorem exists_leads_of_walk {budget : Nat} {names : List String}
    (h : fs.walk true budget here names = .ok (.node there)) :
    ∃ links ≤ budget, fs.Leads links here names there := by
  fun_induction walk fs true budget here names with
  | case1 =>
    cases h
    exact ⟨0, Nat.zero_le _, .nil _⟩
  | case7 here name rest id hchild target hlink hgo left ih =>
    obtain ⟨links, hle, hleads⟩ := ih h
    exact ⟨links + 1, Nat.succ_le_succ hle, .link hchild hlink hleads⟩
  | case8 budget here name rest id hchild hnot ih =>
    obtain ⟨links, hle, hleads⟩ := ih h
    exact ⟨links, hle, .node hchild hnot hleads⟩
  | case5 _ _ _ _ _ _ _ _ hstop => simp at hstop
  | _ => cases h

/-- **A walk comes to a node exactly if the names lead there within the budget.** -/
theorem walk_eq_node_iff {budget : Nat} {names : List String} :
    fs.walk true budget here names = .ok (.node there) ↔
      ∃ links ≤ budget, fs.Leads links here names there :=
  ⟨exists_leads_of_walk, fun ⟨_, hle, hleads⟩ ↦ hleads.walk_eq hle⟩

theorem find_eq_ok_iff {cwd : NodeId} {path : String} :
    fs.find cwd path = .ok there ↔
      path ≠ "" ∧ path.utf8ByteSize ≤ maxPath ∧ ∃ links ≤ linkBudget,
        fs.Leads links (if Path.isAbsolute path then root else cwd) (Path.components path)
          there := by
  rw [find_eq_ok_iff_locate, ← walk_eq_node_iff, locate]
  by_cases hempty : path = ""
  · simp [hempty]
  · by_cases hlong : maxPath < path.utf8ByteSize
    · simp [hempty, hlong, Nat.not_le_of_lt hlong]
    · rw [if_neg hempty, if_neg hlong]
      simp only [ne_eq, hempty, not_false_eq_true, Nat.le_of_not_lt hlong, true_and]

theorem find_of_leads {cwd : NodeId} {path : String} (start : NodeId) (names : List String)
    (hread : path ≠ "" ∧ path.utf8ByteSize ≤ maxPath ∧
      (if Path.isAbsolute path then root else cwd) = start ∧ Path.components path = names)
    (h : fs.Leads links start names there) (hlinks : links ≤ linkBudget) :
    fs.find cwd path = .ok there := by
  obtain ⟨hpath, hshort, rfl, rfl⟩ := hread
  exact find_eq_ok_iff.mpr ⟨hpath, hshort, links, hlinks, h⟩

/-! ## Putting walks together -/

theorem Leads.append {names rest : List String} {a b : Nat} (h : fs.Leads a here names mid)
    (hrest : fs.Leads b mid rest there) : fs.Leads (a + b) here (names ++ rest) there := by
  induction h with
  | nil => rwa [Nat.zero_add]
  | node hchild hnot _ ih => exact .node hchild hnot (ih hrest)
  | link hchild hlink _ ih =>
    rw [Nat.add_right_comm]
    refine .link hchild hlink ?_
    rw [List.append_eq, ← List.append_assoc]
    exact ih hrest

/-- **Names after names lead through where the first of them lead**, and the links add up. -/
theorem leads_append_iff {names rest : List String} :
    fs.Leads links here (names ++ rest) there ↔
      ∃ a b mid, links = a + b ∧ fs.Leads a here names mid ∧ fs.Leads b mid rest there := by
  constructor
  · intro h
    generalize hall : names ++ rest = all at h
    induction h generalizing names with
    | nil here =>
      obtain ⟨rfl, rfl⟩ := List.append_eq_nil_iff.mp hall
      exact ⟨0, 0, here, rfl, .nil here, .nil here⟩
    | @node links here id there name more hchild hnot hleads ih =>
      obtain ⟨rfl, rfl⟩ | ⟨names, rfl, rfl⟩ := List.append_eq_cons_iff.mp hall
      · exact ⟨0, links, here, (Nat.zero_add _).symm, .nil here, .node hchild hnot hleads⟩
      · obtain ⟨a, b, mid, rfl, hnames, hrest⟩ := ih rfl
        exact ⟨a, b, mid, rfl, .node hchild hnot hnames, hrest⟩
    | @link links here id there name target more hchild hlink hleads ih =>
      obtain ⟨rfl, rfl⟩ | ⟨names, rfl, rfl⟩ := List.append_eq_cons_iff.mp hall
      · exact ⟨0, links + 1, here, (Nat.zero_add _).symm, .nil here,
          .link hchild hlink hleads⟩
      · obtain ⟨a, b, mid, rfl, hnames, hrest⟩ := ih (List.append_assoc _ _ _)
        exact ⟨a + 1, b, mid, Nat.add_right_comm a b 1, .link hchild hlink hnames, hrest⟩
  · rintro ⟨a, b, mid, rfl, hnames, hrest⟩
    exact hnames.append hrest

theorem leads_cons_iff {name : String} {rest : List String} :
    fs.Leads links here (name :: rest) there ↔
      ∃ a b mid, links = a + b ∧ fs.Leads a here [name] mid ∧ fs.Leads b mid rest there := by
  rw [← List.singleton_append, leads_append_iff]

theorem leads_nil_iff : fs.Leads links here [] there ↔ links = 0 ∧ there = here := by
  constructor
  · rintro ⟨⟩
    exact ⟨rfl, rfl⟩
  · rintro ⟨rfl, rfl⟩
    exact .nil _

/-! ## Single names -/

theorem not_link_of_child {name : String} {place : Place} (h : fs.child here name = .ok place)
    (target : String) : fs.node? here ≠ some (.link target) := by
  intro hlink
  rw [child, hlink] at h
  cases h

theorem eq_of_child_dot {place : Place} (h : fs.child here "." = .ok place) :
    place = .node here := by
  unfold child at h
  split at h
  · rw [if_pos rfl] at h
    cases h
    rfl
  · rw [if_pos rfl] at h
    cases h
    rfl
  · cases h
  · cases h

theorem Leads.not_link {name : String} {rest : List String}
    (h : fs.Leads links here (name :: rest) there) (target : String) :
    fs.node? here ≠ some (.link target) := by
  cases h with
  | node hchild => exact not_link_of_child hchild target
  | link hchild => exact not_link_of_child hchild target

theorem Leads.of_child {id : NodeId} {name : String} {rest : List String}
    (h : fs.Leads links here (name :: rest) there) (hchild : fs.child here name = .ok (.node id))
    (hnot : ∀ target, fs.node? id ≠ some (.link target)) : fs.Leads links id rest there := by
  cases h with
  | node hother _ hrest =>
    rw [hchild] at hother
    cases hother
    exact hrest
  | link hother hlink =>
    rw [hchild] at hother
    cases hother
    exact absurd hlink (hnot _)

theorem Leads.of_dot (h : fs.Leads links here ["."] there) : links = 0 ∧ there = here := by
  have hchild : fs.child here "." = .ok (.node here) := by
    cases h with
    | node hchild => exact eq_of_child_dot hchild ▸ hchild
    | link hchild => exact eq_of_child_dot hchild ▸ hchild
  exact leads_nil_iff.mp (h.of_child hchild h.not_link)

theorem Leads.dropDots {names : List String} (h : fs.Leads links here names there) :
    fs.Leads links here (names.filter (· ≠ ".")) there := by
  induction names generalizing links here with
  | nil => exact h
  | cons name rest ih =>
    obtain ⟨a, b, mid, rfl, hname, hrest⟩ := leads_cons_iff.mp h
    by_cases hdot : name = "."
    · subst hdot
      obtain ⟨rfl, rfl⟩ := hname.of_dot
      rw [Nat.zero_add]
      exact ih hrest
    · rw [List.filter_cons_of_pos (by simpa using hdot)]
      exact leads_cons_iff.mpr ⟨a, b, mid, rfl, hname, ih hrest⟩

end CommandShell.Host.FileSystem

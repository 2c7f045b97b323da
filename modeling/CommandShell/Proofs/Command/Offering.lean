import CommandShell.Completion
import CommandShell.Proofs.Command.Searching
import CommandShell.Proofs.Host.Trees

/-!
# What completion offers

A name is offered if it begins with the text before the cursor, and it is that of a builtin or it
stands in a directory of the search path and its permissions let it be executed
(`mem_candidates_iff`). The search for a command asks for more, namely a regular file. A directory
can always be entered, so it counts as something that may be executed, and there the two differ:
what is offered is a command unless all that the search path has under its name is directories
(`isCommand_iff_of_mem_candidates`).
-/

namespace CommandShell

open CommandShell.Host

/-! ## Search paths -/

namespace Host.Machine

def withSearchPath (m : Machine) : Option String → Machine
  | none => m
  | some searchPath => { m with environment := m.environment.set "PATH" searchPath }

theorem searchPath_withSearchPath (m : Machine) (searchPath : Option String) :
    (m.withSearchPath searchPath).searchPath = searchPath.getD m.searchPath := by
  cases searchPath with
  | none => rfl
  | some searchPath =>
    rw [Machine.searchPath, withSearchPath, Environment.get?_set_self]
    rfl

end Host.Machine

/-! ## What may be executed -/

theorem Host.Node.isRegular_eq_of_mayExecute {n : Node} (h : n.mayExecute = true) :
    n.isRegular = !n.isFolder := by
  cases n with
  | link => cases h
  | device => cases h
  | descriptor => cases h
  | _ => rfl

theorem Host.FileSystem.HasNames.isName_of_mem_list {fs : FileSystem} (h : fs.HasNames)
    {cwd : NodeId} {path name : String} {names : List String}
    (hlist : fs.list cwd path = .ok names) (hname : name ∈ names) : IsName name := by
  rw [list] at hlist
  split at hlist
  · cases hlist
  · next id parent entries hlook =>
    cases hlist
    obtain ⟨e, he, rfl⟩ := List.mem_map.mp hname
    exact h (lookUp_eq_ok_iff.mp hlook).2 e he
  · cases hlist
    cases hname
  · cases hlist

namespace Command

variable {registered : List String} {m : Machine} {searchPath name path : String}

/-- A name is that of a builtin, or it stands for an executable. -/
def IsCommand (registered : List String) (m : Machine) (name : String) : Prop :=
  meaningOf registered m name = .ok .builtin ∨
    ∃ path, meaningOf registered m name = .ok (.external path) ∧ NamesExecutable m path

def OnlyDirectories (m : Machine) (searchPath name : String) : Prop :=
  ∀ d ∈ directories searchPath, m.files.isAccessible m.cwd (Path.join d name) = true →
    m.files.isDirectory m.cwd (Path.join d name) = true

theorem namesExecutable_iff_of_hasNames (h : m.files.HasNames) :
    NamesExecutable m path ↔ m.files.isAccessible m.cwd path = true ∧
      ¬m.files.isDirectory m.cwd path = true := by
  rw [FileSystem.isAccessible, FileSystem.isDirectory, FileSystem.holds, FileSystem.holds]
  cases hlook : m.files.lookUp m.cwd path with
  | error e => simp [NamesExecutable, hlook]
  | ok found =>
    obtain ⟨hfind, hnode⟩ := FileSystem.lookUp_eq_ok_iff.mp hlook
    rw [namesExecutable_iff_of_find hfind hnode, and_comm (a := _ = true)]
    simp only [h.hasNul_of_find hfind, true_and, Bool.not_eq_true]
    refine and_congr_right fun hmay ↦ ?_
    rw [Node.isRegular_eq_of_mayExecute hmay, Bool.not_eq_true']

theorem mem_directories {d : String} :
    d ∈ directories searchPath ↔ d ∈ Text.splitString ':' searchPath ∧ d ≠ "" := by
  simp [directories]

theorem searchFor_eq_none_iff_onlyDirectories (h : m.files.HasNames) :
    searchFor m searchPath name = none ↔ OnlyDirectories m searchPath name := by
  simp only [searchFor_eq_none_iff, OnlyDirectories, HasExecutable, mem_directories,
    namesExecutable_iff_of_hasNames h, not_and, not_not, and_imp]

theorem searchFor_withSearchPath (m : Machine) (other : Option String) (searchPath name : String) :
    searchFor (m.withSearchPath other) searchPath name = searchFor m searchPath name := by
  cases other <;> rfl

theorem meaningOf_of_mem (h : name ∈ registered) (m : Machine) :
    meaningOf registered m name = .ok .builtin := by
  rw [meaningOf, if_pos (by simpa using h)]

theorem meaningOf_of_isName (hname : FileSystem.IsName name) (h : name ∉ registered)
    (m : Machine) : meaningOf registered m name =
      .ok ((searchFor m m.searchPath name).elim .unknown .external) := by
  have hslash := Path.hasSlash_eq_false_iff.mpr hname.isPart.2.2
  rw [meaningOf, if_neg (by simpa using h),
    findExecutable_of_hasSlash_eq_false hname.isPart.1 hslash, Option.getD_none]
  cases searchFor m m.searchPath name <;> rfl

theorem isCommand_iff_of_isName (hname : FileSystem.IsName name) (h : name ∉ registered) :
    (IsCommand registered m name ↔ searchFor m m.searchPath name ≠ none) ∧
      (searchFor m m.searchPath name = none → meaningOf registered m name = .ok .unknown) := by
  rw [IsCommand, meaningOf_of_isName hname h m]
  cases hfound : searchFor m m.searchPath name with
  | none => simp
  | some path =>
    obtain ⟨d, hfirst, rfl⟩ := searchFor_eq_some_iff.mp hfound
    simpa using hfirst.1.2

end Command

/-! ## Offers -/

namespace Completion

open Command

variable {r : Registry} {m : Machine} {beginning directory name : String}
  {searchPath : Option String}

theorem mem_sorted {names : List String} : name ∈ sorted names ↔ name ∈ names := by
  rw [sorted, List.mem_mergeSort, List.mem_eraseDups]

theorem mem_entriesOf_iff : name ∈ entriesOf m beginning directory ↔
    beginning.toList <+: name.toList ∧
      (∃ names, m.files.list m.cwd directory = .ok names ∧ name ∈ names) ∧
      m.files.isAccessible m.cwd (Path.join directory name) = true := by
  rw [entriesOf]
  cases hlist : m.files.list m.cwd directory with
  | error e => simp
  | ok names =>
    simp only [List.mem_filter, Bool.and_eq_true, List.isPrefixOf_iff_prefix, Except.ok.injEq,
      exists_eq_left']
    exact and_left_comm

theorem entriesOf_eq_singleton (hlist : m.files.list m.cwd directory = .ok [name])
    (hbegins : beginning.toList <+: name.toList)
    (hmay : m.files.isAccessible m.cwd (Path.join directory name) = true) :
    entriesOf m beginning directory = [name] := by
  rw [entriesOf, hlist]
  refine List.filter_eq_self.mpr (List.forall_mem_singleton.mpr ?_)
  rw [List.isPrefixOf_iff_prefix.mpr hbegins, hmay]
  rfl

/-- **What is offered** is a builtin or something in the search path that may be executed, and it
begins with the text before the cursor. -/
theorem mem_candidates_iff : name ∈ candidates r m beginning searchPath ↔
    beginning.toList <+: name.toList ∧ (name ∈ r.registered ∨
      ∃ d ∈ directories (searchPath.getD m.searchPath),
        (∃ names, m.files.list m.cwd d = .ok names ∧ name ∈ names) ∧
          m.files.isAccessible m.cwd (Path.join d name) = true) := by
  simp only [candidates, mem_sorted, List.mem_append, List.mem_filter, List.mem_flatMap,
    mem_entriesOf_iff, List.isPrefixOf_iff_prefix]
  constructor
  · rintro (⟨hbuiltin, hbegins⟩ | ⟨d, hd, hbegins, hlisted⟩)
    · exact ⟨hbegins, .inl hbuiltin⟩
    · exact ⟨hbegins, .inr ⟨d, hd, hlisted⟩⟩
  · rintro ⟨hbegins, hbuiltin | ⟨d, hd, hlisted⟩⟩
    · exact .inl ⟨hbuiltin, hbegins⟩
    · exact .inr ⟨d, hd, hbegins, hlisted⟩

/-- **What is offered is a command exactly if it is a builtin or not all that may be executed under
its name is directories**, and otherwise it is not known. -/
theorem isCommand_iff_of_mem_candidates (hnames : m.files.HasNames)
    (h : name ∈ candidates r m beginning searchPath) :
    beginning.toList <+: name.toList ∧
    (IsCommand r.registered (m.withSearchPath searchPath) name ↔
      name ∈ r.registered ∨ ¬OnlyDirectories m (searchPath.getD m.searchPath) name) ∧
    (¬IsCommand r.registered (m.withSearchPath searchPath) name →
      meaningOf r.registered (m.withSearchPath searchPath) name = .ok .unknown) := by
  obtain ⟨hbegins, hoffered⟩ := mem_candidates_iff.mp h
  refine ⟨hbegins, ?_⟩
  by_cases hbuiltin : name ∈ r.registered
  · have hcommand : IsCommand r.registered (m.withSearchPath searchPath) name :=
      .inl (meaningOf_of_mem hbuiltin _)
    exact ⟨iff_of_true hcommand (.inl hbuiltin), fun hnot ↦ absurd hcommand hnot⟩
  · have hname : FileSystem.IsName name := by
      obtain hother | ⟨d, -, ⟨names, hlist, hmem⟩, -⟩ := hoffered
      · exact absurd hother hbuiltin
      · exact hnames.isName_of_mem_list hlist hmem
    obtain ⟨hcommand, hunknown⟩ :=
      isCommand_iff_of_isName (m := m.withSearchPath searchPath) hname hbuiltin
    rw [Machine.searchPath_withSearchPath, searchFor_withSearchPath] at hcommand hunknown
    rw [hcommand, ← searchFor_eq_none_iff_onlyDirectories hnames]
    exact ⟨(or_iff_right hbuiltin).symm, fun hnot ↦ hunknown (not_not.mp hnot)⟩

/-! ### A directory among the tools -/

theorem list_a : shelved.files.list shelved.cwd "a" = .ok ["tool"] := by
  have hfind : shelved.files.find shelved.cwd "a" = .ok 1 :=
    FileSystem.find_of_leads 0 ["a"] (by decide) (.node rfl nofun (.nil 1)) (by decide)
  rw [FileSystem.list, FileSystem.lookUp_eq_ok_iff.mpr ⟨hfind, rfl⟩]
  rfl

theorem isAccessible_aTool :
    shelved.files.isAccessible shelved.cwd (Path.join "a" "tool") = true := by
  have hjoin : Path.join "a" "tool" = "a/tool" := by decide
  rw [hjoin, FileSystem.isAccessible, FileSystem.holds,
    FileSystem.lookUp_eq_ok_iff.mpr ⟨find_aTool, rfl⟩]
  rfl

theorem mem_candidates_tool {searchPath : String} (h : "a" ∈ directories searchPath) :
    "tool" ∈ candidates Standard.registry shelved "to" (some searchPath) :=
  mem_candidates_iff.mpr ⟨by decide, .inr ⟨"a", h, ⟨_, list_a, by simp⟩, isAccessible_aTool⟩⟩

/-- The directory of that name is no harm, because an executable comes after it. -/
theorem isCommand_of_mem_candidates_tool :
    shelved.files.HasNames ∧
    "tool" ∈ candidates Standard.registry shelved "to" (some "a:b") ∧
    IsCommand Standard.registry.registered (shelved.withSearchPath (some "a:b")) "tool" := by
  have hoffered : "tool" ∈ candidates Standard.registry shelved "to" (some "a:b") :=
    mem_candidates_tool (by decide)
  have hnames : shelved.files.HasNames := isTree_shelves.hasNames
  obtain ⟨-, hcommand, -⟩ := isCommand_iff_of_mem_candidates hnames hoffered
  refine ⟨hnames, hoffered, hcommand.mpr (.inr fun hall ↦ ?_)⟩
  obtain ⟨hmay, hfolder⟩ := (namesExecutable_iff_of_hasNames hnames).mp hasExecutable_b.2
  exact hfolder (hall "b" (by decide) hmay)

/-- Alone in the search path, the directory is offered and the command is not found. -/
theorem mem_candidates_tool_unknown :
    shelved.files.IsTree ∧
    "tool" ∈ candidates Standard.registry shelved "to" (some "a") ∧
    meaningOf Standard.registry.registered (shelved.withSearchPath (some "a")) "tool" =
      .ok .unknown := by
  have hname : FileSystem.IsName "tool" := by decide
  refine ⟨isTree_shelves, mem_candidates_tool (by decide),
    (isCommand_iff_of_isName hname (by decide)).2 ?_⟩
  rw [Machine.searchPath_withSearchPath, searchFor_withSearchPath, searchFor_eq_none_iff]
  have hsplit : Text.splitString ':' "a" = ["a"] := by decide
  simpa [hsplit] using not_hasExecutable_a

end Completion

end CommandShell

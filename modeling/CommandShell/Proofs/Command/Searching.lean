import CommandShell.Command.Standard
import CommandShell.Proofs.Host.Collapsing
import CommandShell.Proofs.Installation.Images
import CommandShell.Proofs.Text.Lines

/-!
# Searching for executables

The search path is a text, cut at its colons. A name is looked for in one entry after the other, and
the first entry that has an executable of that name decides (`IsFirst`): no entry that is empty or
leads nowhere, and nothing in an entry but an executable file, hides a later one. So a search path
can be cut in two at any colon, and the second half counts only if the first has nothing
(`findExecutable_searches`).

What is found is written as its entry is. It is absolute if the entry is, and then it stands for the
same file in every working directory (`findExecutable_isAbsolute_iff`). An entry that is relative
gives a relative path, which is read once more when the stage is started, in the working directory
of that moment.
-/

namespace CommandShell.Command

open CommandShell.Host CommandShell.Text
open CommandShell.Path (isAbsolute_of_hasSlash_eq_false)

variable {m : Machine} {searchPath name path directory : String}

/-! ## The entry that decides -/

/-- A path names an executable: a regular file that has the bit for execution. A path with a NUL
character names nothing. -/
def NamesExecutable (m : Machine) (path : String) : Prop :=
  Path.hasNul path = false ∧ ∃ id n, m.files.lookUp m.cwd path = .ok (id, n) ∧
    n.isRegular = true ∧ n.mayExecute = true

theorem isExecutable_iff : isExecutable m path = true ↔ NamesExecutable m path := by
  rw [isExecutable, FileSystem.isFile, FileSystem.isAccessible, FileSystem.holds,
    FileSystem.holds, NamesExecutable]
  cases m.files.lookUp m.cwd path with
  | error e => simp
  | ok found =>
    obtain ⟨id, n⟩ := found
    simp [and_assoc]

theorem namesExecutable_iff_of_find {id : NodeId} {n : Node}
    (hfind : m.files.find m.cwd path = .ok id) (hnode : m.files.node? id = some n) :
    NamesExecutable m path ↔
      Path.hasNul path = false ∧ n.isRegular = true ∧ n.mayExecute = true := by
  rw [NamesExecutable, FileSystem.lookUp_eq_ok_iff.mpr ⟨hfind, hnode⟩]
  simp [and_assoc]

instance (m : Machine) (path : String) : Decidable (NamesExecutable m path) :=
  decidable_of_iff _ isExecutable_iff

/-- Whether an entry of a search path has an executable of a name; an empty one has none. -/
def HasExecutable (m : Machine) (name directory : String) : Prop :=
  directory ≠ "" ∧ NamesExecutable m (Path.join directory name)

instance (m : Machine) (name directory : String) : Decidable (HasExecutable m name directory) :=
  inferInstanceAs (Decidable (_ ∧ _))

theorem hasExecutable_iff_of_find {id : NodeId} {n : Node} (hjoin : Path.join directory name = path)
    (hfind : m.files.find m.cwd path = .ok id) (hnode : m.files.node? id = some n) :
    HasExecutable m name directory ↔
      directory ≠ "" ∧ Path.hasNul path = false ∧ n.isRegular = true ∧ n.mayExecute = true := by
  rw [HasExecutable, hjoin, namesExecutable_iff_of_find hfind hnode]

def IsFirst (m : Machine) (searchPath name directory : String) : Prop :=
  HasExecutable m name directory ∧ ∃ before after,
    splitString ':' searchPath = before ++ directory :: after ∧
      ∀ d ∈ before, ¬HasExecutable m name d

theorem searchFor_eq (m : Machine) (searchPath name : String) :
    searchFor m searchPath name =
      ((splitString ':' searchPath).find? fun d ↦ decide (HasExecutable m name d)).map
        fun d ↦ Path.join d name := by
  rw [searchFor, directories, List.find?_map, List.find?_filter]
  congr 2
  funext d
  rw [Bool.eq_iff_iff, decide_eq_true_iff (p := HasExecutable m name d), HasExecutable,
    ← isExecutable_iff]
  simp

theorem searchFor_eq_some_iff :
    searchFor m searchPath name = some path ↔
      ∃ d, IsFirst m searchPath name d ∧ path = Path.join d name := by
  rw [searchFor_eq, Option.map_eq_some_iff]
  simp only [List.find?_eq_some_iff_append, IsFirst, decide_eq_true_eq, Bool.not_eq_true',
    decide_eq_false_iff_not, eq_comm (a := path)]

theorem searchFor_eq_none_iff :
    searchFor m searchPath name = none ↔
      ∀ d ∈ splitString ':' searchPath, ¬HasExecutable m name d := by
  rw [searchFor_eq, Option.map_eq_none_iff, List.find?_eq_none]
  simp only [decide_eq_true_eq]

theorem searchFor_append (m : Machine) (P Q name : String) :
    searchFor m (P ++ ":" ++ Q) name = (searchFor m P name).or (searchFor m Q name) := by
  rw [searchFor_eq, searchFor_eq, searchFor_eq, splitString_append_sep rfl, List.find?_append]
  cases (splitString ':' P).find? fun d ↦ decide (HasExecutable m name d) <;> rfl

theorem searchFor_of_notMem (h : ':' ∉ directory.toList) :
    searchFor m directory name =
      if HasExecutable m name directory then some (Path.join directory name) else none := by
  rw [searchFor_eq, splitString_of_notMem h, List.find?_singleton]
  split_ifs <;> simp_all

theorem findExecutable_of_hasSlash_eq_false (hname : name ≠ "")
    (hslash : Path.hasSlash name = false) (searchPath : Option String) :
    findExecutable m name searchPath = .ok (searchFor m (searchPath.getD m.searchPath) name) := by
  rw [findExecutable, if_neg hname, hslash]
  rfl

/-- **The search path is searched from left to right.** -/
theorem findExecutable_searches (m : Machine) {name : String} (hname : name ≠ "")
    (hslash : Path.hasSlash name = false) :
    (∀ P Q, findExecutable m name (some (P ++ ":" ++ Q)) =
      match findExecutable m name (some P) with
      | .ok none => findExecutable m name (some Q)
      | found => found) ∧
    (∀ directory, ':' ∉ directory.toList → findExecutable m name (some directory) =
      .ok (if directory ≠ "" ∧ NamesExecutable m (Path.join directory name) then
        some (Path.join directory name) else none)) ∧
    ∀ searchPath,
      (∀ path, findExecutable m name (some searchPath) = .ok (some path) ↔
        ∃ d, IsFirst m searchPath name d ∧ path = Path.join d name) ∧
      (findExecutable m name (some searchPath) = .ok none ↔
        ∀ d ∈ splitString ':' searchPath, ¬HasExecutable m name d) := by
  simp only [findExecutable_of_hasSlash_eq_false hname hslash, Option.getD_some, Except.ok.injEq]
  refine ⟨fun P Q ↦ ?_, fun directory hcolon ↦ ?_, fun searchPath ↦ ⟨fun path ↦ ?_, ?_⟩⟩
  · rw [searchFor_append]
    cases searchFor m P name <;> rfl
  · exact searchFor_of_notMem hcolon
  · exact searchFor_eq_some_iff
  · exact searchFor_eq_none_iff

/-! ### Several tools -/

/-- A directory `/a/tool`, and executables `/b/tool` and `/sub/b/tool`. -/
def shelves : FileSystem :=
  ((((((({} : FileSystem).create 0 "a" (.directory 0 [])).1.create 1 "tool"
    (.directory 1 [])).1.create 0 "b" (.directory 0 [])).1.create 3 "tool"
    (.file 0o755 ⟨#[1]⟩)).1.create 0 "sub" (.directory 0 [])).1.create 5 "b"
    (.directory 5 [])).1.create 6 "tool" (.file 0o755 ⟨#[2]⟩) |>.1

theorem isTree_shelves : shelves.IsTree := by
  have hname (name : String) (h : name ∈ ["a", "b", "sub", "tool"]) : FileSystem.IsName name := by
    revert name
    decide
  refine .create ?_ rfl rfl (hname "tool" (by simp)) trivial nofun
  refine .create ?_ rfl rfl (hname "b" (by simp)) rfl (fun h ↦ by cases h; rfl)
  refine .create ?_ rfl rfl (hname "sub" (by simp)) rfl (fun h ↦ by cases h; rfl)
  refine .create ?_ rfl rfl (hname "tool" (by simp)) trivial nofun
  refine .create ?_ rfl rfl (hname "b" (by simp)) rfl (fun h ↦ by cases h; rfl)
  refine .create ?_ rfl rfl (hname "tool" (by simp)) rfl (fun h ↦ by cases h; rfl)
  exact .create FileSystem.isTree_empty rfl rfl (hname "a" (by simp)) rfl
    (fun h ↦ by cases h; rfl)

/-- A shell at the root that searches relative directories, and an empty entry between them. -/
def shelved : Machine where
  files := shelves
  environment := ⟨[("PATH", "a::b")]⟩

theorem find_aTool : shelved.files.find shelved.cwd "a/tool" = .ok 2 :=
  FileSystem.find_of_leads 0 ["a", "tool"] (by decide)
    (.node rfl nofun (.node rfl nofun (.nil 2))) (by decide)

theorem find_bTool : shelved.files.find shelved.cwd "b/tool" = .ok 4 :=
  FileSystem.find_of_leads 0 ["b", "tool"] (by decide)
    (.node rfl nofun (.node rfl nofun (.nil 4))) (by decide)

theorem hasExecutable_b : HasExecutable shelved "tool" "b" :=
  (hasExecutable_iff_of_find (by decide) find_bTool rfl).mpr (by decide)

theorem not_hasExecutable_a : ¬HasExecutable shelved "tool" "a" :=
  mt (hasExecutable_iff_of_find (by decide) find_aTool rfl).mp (by decide)

theorem isFirst_b : IsFirst shelved shelved.searchPath "tool" "b" := by
  have hempty : ¬HasExecutable shelved "tool" "" := fun h ↦ h.1 rfl
  exact ⟨hasExecutable_b, ["a", ""], [], by decide, by
    simpa using ⟨not_hasExecutable_a, hempty⟩⟩

theorem searchFor_shelved : searchFor shelved shelved.searchPath "tool" = some "b/tool" := by
  have hjoin : Path.join "b" "tool" = "b/tool" := by decide
  exact searchFor_eq_some_iff.mpr ⟨"b", isFirst_b, hjoin.symm⟩

/-- Neither a directory nor an empty entry hides the executable in a later entry. -/
theorem findExecutable_searches_tool :
    "tool" ≠ "" ∧ Path.hasSlash "tool" = false ∧
    findExecutable shelved "tool" (some "a") = .ok none ∧
    findExecutable shelved "tool" (some "a::b") = .ok (some "b/tool") := by
  have hslash : Path.hasSlash "tool" = false := by decide
  obtain ⟨hcut, hone, -⟩ := findExecutable_searches shelved (by decide : "tool" ≠ "") hslash
  have ha : findExecutable shelved "tool" (some "a") = .ok none := by
    rw [hone "a" (by decide)]
    exact congrArg Except.ok (if_neg not_hasExecutable_a)
  have hempty : findExecutable shelved "tool" (some "") = .ok none := by
    rw [hone "" (by decide)]
    rfl
  have hb : findExecutable shelved "tool" (some "b") = .ok (some "b/tool") := by
    have hjoin : Path.join "b" "tool" = "b/tool" := by decide
    rw [hone "b" (by decide), ← hjoin]
    exact congrArg Except.ok (if_pos hasExecutable_b)
  have hsplit : "a" ++ ":" ++ (":b" : String) = "a::b" := by decide
  have hsplit' : "" ++ ":" ++ ("b" : String) = ":b" := by decide
  have hrest : findExecutable shelved "tool" (some ":b") = .ok (some "b/tool") := by
    rw [← hsplit', hcut, hempty, hb]
  refine ⟨by decide, hslash, ha, ?_⟩
  rw [← hsplit, hcut, ha, hrest]

/-! ## Absolute and relative results -/

/-- A name with a slash stands for its path from the root, collapsed. -/
theorem findExecutable_of_hasSlash (hslash : Path.hasSlash name = true)
    {searchPath : Option String} (h : findExecutable m name searchPath = .ok (some path)) :
    NamesExecutable m name ∧ ∃ full, m.fullPath? name = some full ∧ path = Path.collapse full := by
  have hname : name ≠ "" := by
    rintro rfl
    exact absurd hslash (by decide)
  rw [findExecutable, if_neg hname, if_pos hslash] at h
  split_ifs at h with hexecutable habsolute
  · cases h
    refine ⟨isExecutable_iff.mp hexecutable, name, by rw [Machine.fullPath?, if_pos habsolute], ?_⟩
    rw [Path.absolute, if_pos habsolute]
  · split at h
    · next here hhere =>
      cases h
      refine ⟨isExecutable_iff.mp hexecutable, Path.join here name, ?_, ?_⟩
      · rw [Machine.fullPath?, if_neg habsolute, hhere, Option.map_some]
      · rw [Path.absolute, if_neg habsolute]
    · cases h
  · cases h

theorem searchFor_of_findExecutable (hslash : Path.hasSlash name = false)
    {searchPath : Option String} (h : findExecutable m name searchPath = .ok (some path)) :
    searchFor m (searchPath.getD m.searchPath) name = some path := by
  have hname : name ≠ "" := by
    rintro rfl
    rw [findExecutable, if_pos rfl] at h
    cases h
  rw [findExecutable_of_hasSlash_eq_false hname hslash] at h
  exact Except.ok.inj h

/-- **What is found is absolute exactly if the name was a path or the entry that decided is
absolute**, and then the program that is started is that of one file, whatever the working directory
is by then. -/
theorem findExecutable_isAbsolute_iff {searchPath : Option String}
    (h : findExecutable m name searchPath = .ok (some path)) :
    (Path.isAbsolute path = true ↔ Path.hasSlash name = true ∨
      ∃ d, IsFirst m (searchPath.getD m.searchPath) name d ∧ Path.isAbsolute d = true) ∧
    (Path.isAbsolute path = true → ∀ (later : Machine) (streams : Pipeline.Streams)
      (argv : List String), Installation.programs.start later streams path argv =
        (Installation.openImage later.files m.cwd path).bind
          (Installation.startImage later streams path argv)) := by
  constructor
  · cases hslash : Path.hasSlash name with
    | true =>
      obtain ⟨-, full, hfull, rfl⟩ := findExecutable_of_hasSlash hslash h
      simp [Path.isAbsolute_collapse (Machine.isAbsolute_of_fullPath? hfull)]
    | false =>
      have hfound := searchFor_of_findExecutable hslash h
      have hname := isAbsolute_of_hasSlash_eq_false hslash
      constructor
      · intro habsolute
        obtain ⟨d, hfirst, rfl⟩ := searchFor_eq_some_iff.mp hfound
        rw [Path.isAbsolute_join hfirst.1.1 hname] at habsolute
        exact .inr ⟨d, hfirst, habsolute⟩
      · rintro (hother | ⟨d, hfirst, habsolute⟩)
        · cases hother
        · rw [searchFor_eq_some_iff.mpr ⟨d, hfirst, rfl⟩, Option.some.injEq] at hfound
          rw [← hfound, Path.isAbsolute_join hfirst.1.1 hname, habsolute]
  · -- absolute paths do not depend on where the shell has moved since
    intro habsolute later streams argv
    rw [Installation.start_eq later streams (Path.hasSlash_of_isAbsolute habsolute) argv,
      Installation.openImage_eq_of_find_eq
        (FileSystem.find_of_isAbsolute habsolute later.cwd m.cwd)]

/-- The absolute entry decides, and the executable in it is started wherever the shell has gone. -/
theorem findExecutable_isAbsolute_rootB :
    findExecutable shelved "tool" (some "a:/b") = .ok (some "/b/tool") ∧
    IsFirst shelved "a:/b" "tool" "/b" ∧ Path.isAbsolute "/b/tool" = true ∧
    ∀ (later : Machine) (streams : Pipeline.Streams) (argv : List String),
      Installation.programs.start later streams "/b/tool" argv =
        (Installation.openImage later.files shelved.cwd "/b/tool").bind
          (Installation.startImage later streams "/b/tool" argv) := by
  have hjoin : Path.join "/b" "tool" = "/b/tool" := by decide
  have hb : HasExecutable shelved "tool" "/b" := by
    have hfind : shelved.files.find shelved.cwd "/b/tool" = .ok 4 :=
      FileSystem.find_of_leads 0 ["b", "tool"] (by decide)
        (.node rfl nofun (.node rfl nofun (.nil 4))) (by decide)
    exact (hasExecutable_iff_of_find hjoin hfind rfl).mpr (by decide)
  have hfirst : IsFirst shelved "a:/b" "tool" "/b" :=
    ⟨hb, ["a"], [], by decide, by simpa using not_hasExecutable_a⟩
  have hfound : findExecutable shelved "tool" (some "a:/b") = .ok (some "/b/tool") := by
    rw [findExecutable_of_hasSlash_eq_false (by decide) (by decide), Option.getD_some,
      searchFor_eq_some_iff.mpr ⟨"/b", hfirst, hjoin.symm⟩]
  obtain ⟨habsolute, hstart⟩ := findExecutable_isAbsolute_iff hfound
  have hpath := habsolute.mpr (.inr ⟨"/b", hfirst, by decide⟩)
  exact ⟨hfound, hfirst, hpath, hstart hpath⟩

/-- A relative entry gives a relative path, and with it another executable is started once the shell
has gone elsewhere. -/
theorem findExecutable_relative :
    shelved.files.IsTree ∧
    findExecutable shelved "tool" = .ok (some "b/tool") ∧ Path.isAbsolute "b/tool" = false ∧
    Installation.openImage shelved.files shelved.cwd "b/tool" = .ok (.script ⟨#[1]⟩) ∧
    Standard.cd ⟨["sub"], true, Standard.registry.registered⟩ { machine := shelved } =
      (.returned 0 "" "", { machine := { shelved with cwd := 5 } }) ∧
    Installation.openImage shelved.files 5 "b/tool" = .ok (.script ⟨#[2]⟩) := by
  have hfound : findExecutable shelved "tool" = .ok (some "b/tool") := by
    rw [findExecutable_of_hasSlash_eq_false (by decide) (by decide), Option.getD_none,
      searchFor_shelved]
  have hcd : Standard.cd ⟨["sub"], true, Standard.registry.registered⟩ { machine := shelved } =
      (.returned 0 "" "", { machine := { shelved with cwd := 5 } }) := by
    have htarget : Standard.changeTarget shelved "sub" = .ok "sub" := by decide
    have hfind : shelved.files.find shelved.cwd "sub" = .ok 5 :=
      FileSystem.find_of_leads 0 ["sub"] (by decide) (.node rfl nofun (.nil 5)) (by decide)
    have hmove : shelved.changeDirectory "sub" = .ok { shelved with cwd := 5 } := by
      rw [Machine.changeDirectory, FileSystem.lookUp_eq_ok_iff.mpr ⟨hfind, rfl⟩]
      rfl
    have hnul : Path.hasNul "sub" = false := by decide
    simp only [Standard.cd, htarget, hnul, hmove, Bool.false_eq_true, if_false]
  have hother : shelved.files.find 5 "b/tool" = .ok 7 :=
    FileSystem.find_of_leads 5 ["b", "tool"] (by decide)
      (.node rfl nofun (.node rfl nofun (.nil 7))) (by decide)
  have hnobody (id : NodeId) : shelved.files.isBeingWritten id = false :=
    FileSystem.isBeingWritten_of_opened_eq rfl id
  exact ⟨isTree_shelves, hfound, by decide,
    Installation.openImage_of_find find_bTool rfl (by decide) (hnobody 4), hcd,
    Installation.openImage_of_find hother rfl (by decide) (hnobody 7)⟩

end CommandShell.Command

import CommandShell.Proofs.Command.Searching

/-!
# Commands that are named by a path

A name with a slash is checked as it was typed, but what is started is its absolute path, in which
every `..` was taken lexically. The two are the same file where every `..` of the name leads back to
the directory in which the part that it takes away was looked up (`findExecutable_names`). Behind a
symbolic link to a directory somewhere else it does not, and then another file is started than the
one that was checked, or none (`findExecutable_names_other`).
-/

namespace CommandShell.Command

open CommandShell.Host

variable {m : Machine} {name path : String}

theorem NamesExecutable.exists_find (h : NamesExecutable m path) :
    ∃ id, m.files.find m.cwd path = .ok id := by
  obtain ⟨-, id, n, hlook, -⟩ := h
  exact ⟨id, (FileSystem.lookUp_eq_ok_iff.mp hlook).1⟩

theorem NamesExecutable.of_find_eq (h : NamesExecutable m name) (hnul : Path.hasNul path = false)
    (hfind : m.files.find m.cwd path = m.files.find m.cwd name) : NamesExecutable m path := by
  obtain ⟨-, id, n, hlook, hregular, hmay⟩ := h
  exact ⟨hnul, id, n, (FileSystem.lookUp_eq_of_find_eq hfind).trans hlook, hregular, hmay⟩

/-- **A path that leads back wherever it goes up stands for the file that it names**: what is found
for it is itself an executable, it is that very file, and that file is what is started. -/
theorem findExecutable_names {searchPath : Option String} (htree : m.files.IsTree)
    (hslash : Path.hasSlash name = true)
    (hfound : findExecutable m name searchPath = .ok (some path)) (hback : m.LeadsBack name)
    (hshort : path.utf8ByteSize ≤ FileSystem.maxPath) :
    NamesExecutable m path ∧ m.files.find m.cwd path = m.files.find m.cwd name ∧
    ∀ (streams : Pipeline.Streams) (argv : List String),
      Installation.programs.start m streams path argv =
        (Installation.openImage m.files m.cwd name).bind
          (Installation.startImage m streams path argv) := by
  obtain ⟨hnames, full, hfull, rfl⟩ := findExecutable_of_hasSlash hslash hfound
  obtain ⟨id, hfind⟩ := hnames.exists_find
  have hcollapsed := Machine.find_collapse_fullPath htree hfull hfind hback hshort m.cwd
  have hsame := hcollapsed.trans hfind.symm
  have habsolute := Path.isAbsolute_collapse (Machine.isAbsolute_of_fullPath? hfull)
  refine ⟨hnames.of_find_eq (htree.hasNames.hasNul_of_find hcollapsed) hsame, hsame,
    fun streams argv ↦ ?_⟩
  rw [Installation.start_eq m streams (Path.hasSlash_of_isAbsolute habsolute) argv,
    Installation.openImage_eq_of_find_eq hsame]

/-! ### A link to a directory -/

/-- Executables `/d/tool` and `/tool`, a directory `/d/e`, and links `/k` to `/d` and `/l` to
`/d/e`. -/
def forked : FileSystem :=
  (((((({} : FileSystem).create 0 "d" (.directory 0 [])).1.create 1 "e" (.directory 1 [])).1.create
    1 "tool" (.file 0o755 ⟨#[1]⟩)).1.create 0 "k" (.link "/d")).1.create
    0 "l" (.link "/d/e")).1.create 0 "tool" (.file 0o755 ⟨#[2]⟩) |>.1

theorem isTree_forked : forked.IsTree := by
  have hname (name : String) (h : name ∈ ["d", "e", "k", "l", "tool"]) :
      FileSystem.IsName name := by
    revert name
    decide
  refine .create ?_ rfl rfl (hname "tool" (by simp)) trivial nofun
  refine .create ?_ rfl rfl (hname "l" (by simp)) trivial nofun
  refine .create ?_ rfl rfl (hname "k" (by simp)) trivial nofun
  refine .create ?_ rfl rfl (hname "tool" (by simp)) trivial nofun
  refine .create ?_ rfl rfl (hname "e" (by simp)) rfl (fun h ↦ by cases h; rfl)
  exact .create FileSystem.isTree_empty rfl rfl (hname "d" (by simp)) rfl
    (fun h ↦ by cases h; rfl)

/-- A shell in `/d`. -/
def inD : Machine where
  files := forked
  cwd := 1

theorem find_kept : inD.files.find inD.cwd "../k/e/../tool" = .ok 3 := by
  have hd : Path.isAbsolute "/d" = true := by decide
  have htarget : Path.components "/d" = ["d"] := by decide
  have hrest : inD.files.Leads 0 0 ["d", "e", "..", "tool"] 3 :=
    .node rfl nofun (.node rfl nofun (.node rfl nofun (.node rfl nofun (.nil 3))))
  have hleads : inD.files.Leads 1 1 ["..", "k", "e", "..", "tool"] 3 := by
    refine .node rfl nofun (.link rfl rfl ?_)
    rw [hd, htarget]
    exact hrest
  exact FileSystem.find_of_leads 1 _ (by decide) hleads (by decide)

theorem leadsBack_kept : inD.LeadsBack "../k/e/../tool" := by
  have hfull : inD.fullPath? "../k/e/../tool" = some "/d/../k/e/../tool" := by decide
  have hparts : Path.parts "/d/../k/e/../tool" = ["d", "..", "k", "e", "..", "tool"] := by
    decide
  have htarget : Path.components "/d" = ["d"] := by decide
  have hd : inD.files.Leads 0 0 ["d"] 1 := .node rfl nofun (.nil 1)
  have hk : inD.files.Leads 1 0 ["k"] 1 := by
    refine .link rfl rfl ?_
    rw [htarget]
    exact hd
  have he : inD.files.Leads 0 1 ["e"] 2 := .node rfl nofun (.nil 2)
  intro full h
  obtain rfl := Option.some.inj (hfull.symm.trans h)
  rw [hparts]
  refine (FileSystem.leadsBack_cons_of_leads (by decide) hd (by decide)).mpr ⟨rfl, ?_⟩
  refine (FileSystem.leadsBack_cons_of_leads (by decide) hk (by decide)).mpr ?_
  refine (FileSystem.leadsBack_cons_of_leads (by decide) he (by decide)).mpr ⟨rfl, ?_⟩
  exact FileSystem.leadsBack_of_notMem (by decide)

theorem findExecutable_kept :
    findExecutable inD "../k/e/../tool" = .ok (some "/k/tool") := by
  have hexecutable : isExecutable inD "../k/e/../tool" = true :=
    isExecutable_iff.mpr ((namesExecutable_iff_of_find find_kept rfl).mpr (by decide))
  have hrelative : Path.isAbsolute "../k/e/../tool" = false := by decide
  have hhere : inD.workingDirectory? = some "/d" := by decide
  have hpath : Path.absolute "/d" "../k/e/../tool" = "/k/tool" := by decide
  rw [findExecutable, if_neg (by decide), if_pos (by decide), if_pos hexecutable,
    hrelative, hhere]
  exact congrArg (Except.ok ∘ some) hpath

/-- Going up from where a link has led is no harm if the link itself stays in the path. -/
theorem findExecutable_names_kept :
    inD.files.IsTree ∧ Path.hasSlash "../k/e/../tool" = true ∧
    findExecutable inD "../k/e/../tool" = .ok (some "/k/tool") ∧ inD.LeadsBack "../k/e/../tool" ∧
    "/k/tool".utf8ByteSize ≤ FileSystem.maxPath ∧ NamesExecutable inD "/k/tool" ∧
    inD.files.find inD.cwd "/k/tool" = .ok 3 ∧
    ∀ (streams : Pipeline.Streams) (argv : List String),
      Installation.programs.start inD streams "/k/tool" argv =
        (Installation.openImage inD.files inD.cwd "../k/e/../tool").bind
          (Installation.startImage inD streams "/k/tool" argv) := by
  have hslash : Path.hasSlash "../k/e/../tool" = true := by decide
  have hshort : "/k/tool".utf8ByteSize ≤ FileSystem.maxPath := by decide
  obtain ⟨hnames, hfind, hstart⟩ :=
    findExecutable_names isTree_forked hslash findExecutable_kept leadsBack_kept hshort
  exact ⟨isTree_forked, hslash, findExecutable_kept, leadsBack_kept, hshort, hnames,
    hfind.trans find_kept, hstart⟩

/-- Behind a link that is taken away another file is started than the one that was checked. -/
theorem findExecutable_names_other :
    forked.IsTree ∧
    findExecutable { files := forked } "/l/../tool" = .ok (some "/tool") ∧
    forked.find 0 "/l/../tool" = .ok 3 ∧ forked.find 0 "/tool" = .ok 6 ∧
    Installation.openImage forked 0 "/l/../tool" = .ok (.script ⟨#[1]⟩) ∧
    Installation.openImage forked 0 "/tool" = .ok (.script ⟨#[2]⟩) := by
  have hnamed : forked.find 0 "/l/../tool" = .ok 3 := by
    have htarget : Path.components "/d/e" = ["d", "e"] := by decide
    have hroot : Path.isAbsolute "/d/e" = true := by decide
    have hleads : forked.Leads 1 0 ["l", "..", "tool"] 3 := by
      refine .link rfl rfl ?_
      rw [hroot, htarget]
      exact .node rfl nofun (.node rfl nofun (.node rfl nofun (.node rfl nofun (.nil 3))))
    exact FileSystem.find_of_leads 0 _ (by decide) hleads (by decide)
  have hstarted : forked.find 0 "/tool" = .ok 6 :=
    FileSystem.find_of_leads 0 ["tool"] (by decide) (.node rfl nofun (.nil 6)) (by decide)
  have hfound : findExecutable { files := forked } "/l/../tool" = .ok (some "/tool") := by
    have hexecutable : isExecutable { files := forked } "/l/../tool" = true :=
      isExecutable_iff.mpr ((namesExecutable_iff_of_find hnamed rfl).mpr (by decide))
    have habsolute : Path.isAbsolute "/l/../tool" = true := by decide
    have hpath : Path.absolute "/" "/l/../tool" = "/tool" := by decide
    rw [findExecutable, if_neg (by decide), if_pos (by decide), if_pos hexecutable,
      if_pos habsolute, hpath]
  have hnobody (id : NodeId) : forked.isBeingWritten id = false :=
    FileSystem.isBeingWritten_of_opened_eq rfl id
  exact ⟨isTree_forked, hfound, hnamed, hstarted,
    Installation.openImage_of_find hnamed rfl (by decide) (hnobody 3),
    Installation.openImage_of_find hstarted rfl (by decide) (hnobody 6)⟩

end CommandShell.Command

import CommandShell.Proofs.Host.Paths
import CommandShell.Proofs.Host.Writing
import CommandShell.Proofs.Session.Calls
import CommandShell.Proofs.Session.Invariants
import CommandShell.Proofs.Session.Recording

/-!
# From one session to the next

A session writes its whole log over the history file at its end, and the next one loads that file at
its beginning. Three facts make the second log the first one (`interact_persists`).

* Every entry of the log is clean: it was read from a history file, or it is a trimmed line, and
  lines come without line ends. Clean entries are read back as they were written.
* What is written under a path is read back under it.
* The path leads to the same file in both sessions. An absolute path does, but a relative one is
  looked up in the working directory, at the end of a session as well as at its beginning, and a
  line can change that directory (`interact_elsewhere`).
-/

namespace CommandShell

open CommandShell.Host CommandShell.Pipeline CommandShell.History

namespace Session

variable {σ : Type} {registry : Registry}

/-! ## Clean logs -/

theorem isClean_of_mem_entriesRead {a : StageStart σ} {entry : String}
    (h : entry ∈ a.entriesRead) : IsClean entry.toList := by
  unfold StageStart.entriesRead Stage.entriesRead Standard.entriesRead at h
  split_ifs at h
  · split at h
    · next flag path _ _ =>
      split_ifs at h
      · cases hloadable : HistoryLog.loadable? a.before.shell.machine path with
        | none =>
          rw [hloadable] at h
          cases h
        | some loaded =>
          rw [hloadable] at h
          exact HistoryLog.isClean_of_loadable? hloadable h
      · cases h
    · cases h
  · cases h

/-- A line without a line end leaves a clean log clean. -/
theorem isClean_runLine (E : Engine σ) (hreg : registry.HasStandard) {s : Shell} {line : String}
    (hfeed : '\n' ∉ line.toList) (hreturn : '\r' ∉ line.toList)
    (hclean : ∀ entry ∈ s.history.entries, IsClean entry.toList) :
    ∀ entry ∈ (runLine E registry s line).shell.history.entries, IsClean entry.toList := by
  by_cases hblank : Text.trimString line = ""
  · rw [runLine_blank E registry s hblank]
    exact hclean
  · obtain ⟨started, -, hentries, -⟩ := runText_adds E hreg s (Text.trimString line)
    have hline : IsClean (Text.trimString line).toList := by
      rw [Text.trimString, String.toList_ofList]
      refine isClean_trim (fun hnil ↦ hblank ?_) hfeed hreturn
      rw [Text.trimString, hnil]
    rw [runLine_of_ne E registry s hblank]
    intro entry hentry
    simp only [remember, if_true, record, HistoryLog.entries_append, hentries, List.mem_append,
      List.mem_flatMap, List.mem_singleton] at hentry
    obtain (hold | ⟨a, -, hread⟩) | rfl := hentry
    · exact hclean entry hold
    · exact isClean_of_mem_entriesRead hread
    · exact hline

def HasNoLineEnd : Entry → Prop
  | .line text => '\n' ∉ text.toList ∧ '\r' ∉ text.toList
  | .interrupt => True

theorem hasNoLineEnd_of_mem_streamEntries {text : String} :
    ∀ entry ∈ streamEntries text, HasNoLineEnd entry := by
  intro entry hentry
  obtain ⟨cs, hcs, rfl⟩ := List.mem_map.mp hentry
  have hmem : cs ∈ Text.lines text.toList := by
    split_ifs at hcs
    · exact (List.dropLast_sublist _).subset hcs
    · exact hcs
  rw [HasNoLineEnd, String.toList_ofList]
  exact Text.notMem_of_mem_lines hmem

/-- A session that begins with a clean log ends with one, and with the settings that it began
with. -/
theorem Ran.isClean {E : Engine σ} (hreg : registry.HasStandard) (hkeeps : registry.KeepsSettings)
    {f : Frontend} {entries : List Entry} (hentries : ∀ entry ∈ entries, HasNoLineEnd entry)
    {s loaded last : Shell} {result : Except Fault Unit}
    (h : Ran E registry f entries s loaded last result)
    (hclean : ∀ entry ∈ s.history.entries, IsClean entry.toList) :
    (∀ entry ∈ last.history.entries, IsClean entry.toList) ∧ last.settings = s.settings := by
  have hloaded : (∀ entry ∈ loaded.history.entries, IsClean entry.toList) ∧
      loaded.settings = s.settings := by
    obtain rfl | ⟨message, rfl⟩ | ⟨path, found, log, hfound, hlog, rfl⟩ := loaded_cases h.load_eq
    · exact ⟨hclean, rfl⟩
    · exact ⟨hclean, rfl⟩
    · refine ⟨?_, rfl⟩
      intro entry hentry
      dsimp only at hentry
      rw [hlog, List.mem_append] at hentry
      rcases hentry with hentry | hentry
      · exact hclean entry hentry
      · exact HistoryLog.isClean_of_loadable? hfound hentry
  have hlast := loop_invariant (f := f)
    (P := fun t ↦ (∀ entry ∈ t.history.entries, IsClean entry.toList) ∧ t.settings = s.settings)
    (fun _ _ ht ↦ ht) (fun _ _ ht ↦ ht)
    (fun t text (htext : HasNoLineEnd (.line text)) ht ↦
      ⟨isClean_runLine E hreg htext.1 htext.2 ht.1,
        (settings_runLine E hkeeps t text).trans ht.2⟩)
    hloaded
    (eachLine_of_forall E registry f (fun text htext _ ↦ hentries _ htext) loaded)
  rw [h.loop_eq] at hlast
  exact hlast

/-! ## Loading what was written -/

/-- A log that was written is loaded again, wherever the path leads to the same file. -/
theorem loadHistory_of_save {log after : HistoryLog} {m m' : Machine} {path : String}
    (hsave : log.save m path = (.ok after, m'))
    (hclean : ∀ entry ∈ log.entries, IsClean entry.toList)
    (htidy : Path.normalise path = path) (hordinary : m.IsOrdinary path) {t : Shell}
    (hpath : t.settings.historyFile = some path) (hfiles : t.machine.files = m'.files)
    (hsame : m'.files.find t.machine.cwd path = m'.files.find m.cwd path) :
    loadHistory t = .ok { t with history := {
      entries := t.history.entries ++ log.entries
      persisted := (t.history.entries ++ log.entries).length } } := by
  have hnul : Path.hasNul path = false := by
    unfold HistoryLog.save at hsave
    split_ifs at hsave with hnul
    · cases hsave
    · exact (Bool.not_eq_true _).mp hnul
  obtain ⟨-, hwrite⟩ := HistoryLog.of_save hsave
  rw [htidy] at hwrite
  have hread := Machine.read_of_writeFile hordinary hwrite
  refine loadHistory_of_read hpath htidy hnul ?_ (decodeFile_encodeFile hclean)
  rw [hfiles, FileSystem.read, hsame, ← Machine.cwd_writeFile hwrite, ← FileSystem.read, hread]
  simp

/-- **The history of a session is the history that the next one begins with**, where the history
file is an ordinary one and the path leads to it from where the next session begins as it does from
where this one ends. An absolute path does so in any case, and a relative one if the session ends
in the directory in which it began. -/
theorem interact_persists (E : Engine σ) (hreg : registry.HasStandard)
    (hkeeps : registry.KeepsSettings) {f : Frontend} {s loaded last : Shell} {text path : String}
    (hfresh : s.history = {}) (htidy : s.settings.IsTidy)
    (hpath : s.settings.historyFile = some path)
    (hran : Ran E registry f (streamEntries text) s loaded last (.ok ()))
    {log : HistoryLog} {m : Machine} (hflush : last.history.save last.machine path = (.ok log, m))
    (hordinary : last.machine.IsOrdinary path)
    (hsame : Path.isAbsolute path = true ∨
      m.files.find s.machine.cwd path = m.files.find last.machine.cwd path) :
    interact E registry f s (streamEntries text) =
        (.ok last.exitStatus, { last with history := log, machine := m }) ∧
      ∀ next : Shell, next.settings = s.settings → next.history = {} →
        next.machine.files = m.files → next.machine.cwd = s.machine.cwd →
        loadHistory next = .ok { next with history := {
          entries := last.history.entries
          persisted := last.history.entries.length } } := by
  obtain ⟨hclean, hsettings⟩ := hran.isClean hreg hkeeps hasNoLineEnd_of_mem_streamEntries
    (by rw [hfresh]; exact List.forall_mem_nil _)
  constructor
  · have hfinal := flushHistory_of_save (hsettings ▸ hpath) hflush
    rw [hran.interact_eq]
    simp only [hfinal]
    rfl
  · intro next hnext hempty hfiles hcwd
    have hfind : m.files.find next.machine.cwd path = m.files.find last.machine.cwd path := by
      rcases hsame with habsolute | hsame
      · exact FileSystem.find_of_isAbsolute habsolute _ _
      · rw [hcwd, hsame]
    rw [loadHistory_of_save hflush hclean (htidy path hpath) hordinary (hnext ▸ hpath) hfiles hfind,
      hempty]
    rfl

/-! ### Two sessions with a relative path -/

/-- A shell with one directory below its own, whose history file is named by a relative path and is
not there yet. -/
def keeping : Shell where
  machine := { files := { nodes := #[.directory 0 [("sub", 1)], .directory 0 []] } }
  settings := { historyFile := some "h" }

/-- The next session: the same settings, and the same directory, with the files that were left. -/
def restarted (files : FileSystem) : Shell :=
  { keeping with machine := { keeping.machine with files } }

/-- The shell at the end of a loop over a text. -/
def keptUntil (text : String) : Shell :=
  (loop noPrograms Standard.registry plain keeping (streamEntries text)).2

theorem isTidy_keeping : keeping.settings.IsTidy := by
  intro path hpath
  obtain rfl := Option.some.inj hpath
  decide +kernel

theorem locate_vacant {fs : FileSystem} {cwd : NodeId}
    (hchild : fs.child cwd "h" = .ok (.vacant cwd "h")) :
    fs.locate cwd "h" = .ok (.vacant cwd "h") := by
  have hnames : Path.components "h" = ["h"] := by decide
  have hrelative : Path.isAbsolute "h" = false := by decide
  rw [FileSystem.locate, hnames, hrelative, if_neg (by decide), if_neg (by decide),
    if_neg Bool.false_ne_true, FileSystem.walk, hchild]
  rfl

theorem find_vacant {fs : FileSystem} {cwd : NodeId}
    (hchild : fs.child cwd "h" = .ok (.vacant cwd "h")) : fs.find cwd "h" = .error .noEntry := by
  rw [FileSystem.find, locate_vacant hchild]

/-- A shell like it whose history file is not there begins with no history. -/
theorem loadHistory_restarted {files : FileSystem}
    (hchild : files.child FileSystem.root "h" = .ok (.vacant FileSystem.root "h")) :
    loadHistory (restarted files) = .ok (restarted files) := by
  have hnul : Path.hasNul "h" = false := by decide
  have hexists : historyFileExists (restarted files).machine "h" = .ok false := by
    rw [historyFileExists, hnul, if_neg Bool.false_ne_true]
    simp only [restarted, keeping, find_vacant hchild]
  have hpath : (restarted files).settings.historyFile = some "h" := rfl
  rw [loadHistory, hpath]
  simp only [hexists]

/-- The shell after a line that says something. -/
def stayed : Shell :=
  { keeping with
    machine := { keeping.machine with output := "$ on\n$ ".toUTF8 }
    history := { entries := ["echo on"] } }

theorem loop_stayed :
    loop noPrograms Standard.registry plain keeping (streamEntries "echo on\n") =
      (.ok (), stayed) := by
  have hentries : streamEntries "echo on\n" = [.line "echo on"] := by decide +kernel
  have hparse : Line.parse "echo on" =
      .ok { raw := "echo on", commands := [⟨"echo", ["on"]⟩] } := by decide +kernel
  have hget : Standard.registry.get? "echo" = some Standard.registry.builtins[0] := rfl
  have hcall (s : Shell) : Standard.echo ⟨["on"], false, Standard.registry.registered⟩ s =
      (.returned 0 "on\n" "", s) := rfl
  obtain ⟨houtcome, hshell⟩ := runLine_plain_call noPrograms hparse hget
    (returned?_of_handler hget (hcall (showPrompt plain keeping))) true
  have htrim : Text.trimString "echo on" = "echo on" := by decide +kernel
  rw [remember, htrim] at hshell
  rw [hentries, loop_of_runLine noPrograms rfl houtcome hshell rfl]
  rfl

/-- The shell after a line that moves to another directory. -/
def moved : Shell :=
  { keeping with
    machine := { keeping.machine with cwd := 1, output := "$ $ ".toUTF8 }
    history := { entries := ["cd sub"] } }

theorem loop_moved :
    loop noPrograms Standard.registry plain keeping (streamEntries "cd sub\n") =
      (.ok (), moved) := by
  have hentries : streamEntries "cd sub\n" = [.line "cd sub"] := by decide +kernel
  have hparse : Line.parse "cd sub" =
      .ok { raw := "cd sub", commands := [⟨"cd", ["sub"]⟩] } := by decide +kernel
  have hget : Standard.registry.get? "cd" = some Standard.registry.builtins[1] := rfl
  have hcall : Standard.cd ⟨["sub"], false, Standard.registry.registered⟩
      (showPrompt plain keeping) =
        (.returned 0 "" "", { showPrompt plain keeping with
          machine := { (showPrompt plain keeping).machine with cwd := 1 } }) := by
    have hpath : Standard.changeTarget (showPrompt plain keeping).machine "sub" = .ok "sub" := by
      decide +kernel
    have hfind : (showPrompt plain keeping).machine.files.find
        (showPrompt plain keeping).machine.cwd "sub" = .ok 1 :=
      FileSystem.find_of_leads 0 ["sub"] ⟨by decide, by decide, rfl, by decide⟩
        (.node rfl nofun (.nil 1)) (by decide)
    have hmove : (showPrompt plain keeping).machine.changeDirectory "sub" =
        .ok { (showPrompt plain keeping).machine with cwd := 1 } := by
      rw [Machine.changeDirectory, FileSystem.lookUp, hfind]
      rfl
    rw [Standard.cd]
    simp only [hpath, hmove]
    rfl
  obtain ⟨houtcome, hshell⟩ := runLine_plain_call noPrograms hparse hget
    (returned?_of_handler hget hcall) true
  have htrim : Text.trimString "cd sub" = "cd sub" := by decide +kernel
  rw [remember, htrim] at hshell
  rw [hentries, loop_of_runLine noPrograms rfl houtcome hshell rfl]
  rfl

/-- A session that stays where it is has its history loaded again. -/
theorem interact_persists_keeping :
    Standard.registry.HasStandard ∧ Standard.registry.KeepsSettings ∧ keeping.settings.IsTidy ∧
    Ran noPrograms Standard.registry plain (streamEntries "echo on\n") keeping keeping
      (keptUntil "echo on\n") (.ok ()) ∧
    (keptUntil "echo on\n").machine.IsOrdinary "h" ∧
    ∃ log m,
      (keptUntil "echo on\n").history.save (keptUntil "echo on\n").machine "h" = (.ok log, m) ∧
      interact noPrograms Standard.registry plain keeping (streamEntries "echo on\n") =
        (.ok 0, { keptUntil "echo on\n" with history := log, machine := m }) ∧
      loadHistory (restarted m.files) = .ok { restarted m.files with
        history := { entries := ["echo on"], persisted := 1 } } := by
  have hlast : keptUntil "echo on\n" = stayed := congrArg Prod.snd loop_stayed
  have hvacant : stayed.machine.files.child stayed.machine.cwd "h" =
      .ok (.vacant stayed.machine.cwd "h") := rfl
  have hran : Ran noPrograms Standard.registry plain (streamEntries "echo on\n") keeping
      keeping stayed (.ok ()) :=
    ⟨loadHistory_restarted hvacant, loop_stayed⟩
  have hordinary : stayed.machine.IsOrdinary "h" := by
    intro id n hleads
    rw [find_vacant hvacant] at hleads
    cases hleads
  have hbytes : stayed.machine.HasBytes (Path.normalise "h") ByteArray.empty :=
    (Machine.LeadsTo.vacant (HistoryLog.normalise_h ▸ locate_vacant hvacant)).hasBytes
  have hflush : stayed.history.save stayed.machine "h" =
      (.ok { entries := ["echo on"], persisted := 1 }, _) :=
    Prod.ext (HistoryLog.save_ok (by decide) hbytes nofun stayed.history) rfl
  obtain ⟨hinteract, hnext⟩ := interact_persists noPrograms hasStandard_standard
    keepsSettings_standard rfl isTidy_keeping rfl hran hflush hordinary (.inr rfl)
  rw [hlast]
  exact ⟨hasStandard_standard, keepsSettings_standard, isTidy_keeping, hran, hordinary, _, _,
    hflush, hinteract, hnext (restarted _) rfl rfl rfl rfl⟩

/-- The files after the history was written in the other directory. -/
def movedFiles : FileSystem where
  nodes := #[.directory 0 [("sub", 1)], .directory 0 [("h", 2)], .file 0o644 "cd sub\n".toUTF8]

theorem save_moved :
    ∃ log after, moved.history.save moved.machine "h" = (.ok log, after) ∧
      log.entries = ["cd sub"] ∧
      after.files.child FileSystem.root "h" = .ok (.vacant FileSystem.root "h") := by
  have hlocate : moved.machine.files.locate moved.machine.cwd (Path.normalise "h") =
      .ok (.vacant 1 "h") := HistoryLog.normalise_h ▸ locate_vacant rfl
  rcases hwrite : moved.machine.writeFile (Path.normalise "h") false
      (encodeFile moved.history.entries) with ⟨answer, after⟩
  have hwritten : answer = .ok () ∧ after.files.nodes = movedFiles.nodes := by
    simp only [Machine.writeFile, Machine.openOutlet,
      Machine.descriptorNamed?_of_vacant hlocate, FileSystem.openFile, hlocate] at hwrite
    cases hwrite
    exact ⟨rfl, rfl⟩
  obtain ⟨rfl, hnodes⟩ := hwritten
  have hnul : Path.hasNul "h" = false := by decide
  refine ⟨{ entries := ["cd sub"], persisted := 1 }, after, ?_, rfl, ?_⟩
  · simp only [HistoryLog.save, hnul, hwrite, Bool.false_eq_true, if_false]
    rfl
  · rw [(FileSystem.sameTree_of_nodes_eq hnodes).child_eq]
    rfl

/-- A session that ends elsewhere has not: the file was written in the other directory. -/
theorem interact_elsewhere :
    keeping.machine.files.find keeping.machine.cwd "h" = .error .noEntry ∧
    (interact noPrograms Standard.registry plain keeping (streamEntries "cd sub\n")).1 = .ok 0 ∧
    ((keptUntil "cd sub\n").history.save (keptUntil "cd sub\n").machine "h").1.isOk ∧
    (interact noPrograms Standard.registry plain keeping
      (streamEntries "cd sub\n")).2.history.entries = ["cd sub"] ∧
    (loadHistory (restarted (interact noPrograms Standard.registry plain keeping
      (streamEntries "cd sub\n")).2.machine.files)).map (·.history.entries) = .ok [] := by
  obtain ⟨log, after, hsave, hentries, hchild⟩ := save_moved
  have hvacant : keeping.machine.files.child FileSystem.root "h" =
      .ok (.vacant FileSystem.root "h") := rfl
  have hlast : keptUntil "cd sub\n" = moved := congrArg Prod.snd loop_moved
  have hran : Ran noPrograms Standard.registry plain (streamEntries "cd sub\n") keeping
      keeping moved (.ok ()) :=
    ⟨loadHistory_restarted hvacant, loop_moved⟩
  have hinteract : interact noPrograms Standard.registry plain keeping
      (streamEntries "cd sub\n") = (.ok 0, { moved with history := log, machine := after }) := by
    rw [hran.interact_eq]
    simp only [flushHistory_of_save rfl hsave]
    rfl
  rw [hinteract, hlast, hsave, loadHistory_restarted hchild]
  exact ⟨find_vacant hvacant, rfl, rfl, hentries, rfl⟩

end Session

end CommandShell

import CommandShell.Proofs.History.Faithful
import CommandShell.Proofs.Host.Leading
import CommandShell.Proofs.Host.Paths
import CommandShell.Proofs.Session.Calls
import CommandShell.Proofs.Session.Invariants

/-!
# A history file that cannot be read

A session whose history file cannot be read says so and begins with no history; the file is left as
it is. At its end the session writes its log over whatever the path of the history file leads to
then, and it does not remember that it has read nothing there. So the file keeps its bytes to the
end of the loop, as long as no line changes them, and loses them if it is opened for the log, even
if the system then takes only a part of it (`interact_overwrites`).

What a path leads a writer to decides about all of this, so nothing need be known of the lines but
that each leaves the bytes alone.
-/

namespace CommandShell

open CommandShell.Host CommandShell.Pipeline CommandShell.History

namespace Session

variable {σ : Type} {registry : Registry}

/-! ## Files that cannot be read -/

/-- The history file of a session is there, and what it holds cannot be read as a history. -/
structure Unreadable (s : Shell) (path : String) (file : NodeId) : Prop where
  historyFile_eq : s.settings.historyFile = some path
  leads : ∃ n, s.machine.files.lookUp s.machine.cwd path = .ok (file, n)
  load_eq : s.history.load s.machine path true = .error (.history (.cannotRead path))

namespace Unreadable

variable {s : Shell} {path : String} {file : NodeId}

theorem find_eq (h : Unreadable s path file) :
    s.machine.files.find s.machine.cwd path = .ok file := by
  obtain ⟨n, hn⟩ := h.leads
  unfold FileSystem.lookUp at hn
  split at hn
  · cases hn
  · next hfind =>
    split at hn
    · cases hn
      exact hfind
    · cases hn

theorem contents_ne_noEntry (h : Unreadable s path file) :
    s.machine.files.contents file ≠ .error .noEntry := by
  obtain ⟨n, hn⟩ := h.leads
  rw [Ne, FileSystem.contents_eq_noEntry_iff]
  intro hnone
  rw [FileSystem.lookUp, h.find_eq] at hn
  simp only [hnone] at hn
  cases hn

theorem loadable?_eq_none (h : Unreadable s path file) :
    Path.hasNul path = false ∧ HistoryLog.loadable? s.machine path = none := by
  have hload := h.load_eq
  rw [HistoryLog.load_eq] at hload
  split at hload
  · cases hload
  · next hnone =>
    split_ifs at hload with hnul
    · cases hload
    · exact ⟨(Bool.not_eq_true _).mp hnul, hnone⟩

theorem contents_ne_empty (h : Unreadable s path file) (htidy : s.settings.IsTidy) :
    s.machine.files.contents file ≠ .ok ByteArray.empty := by
  obtain ⟨hnul, hnone⟩ := h.loadable?_eq_none
  intro hempty
  simp only [HistoryLog.loadable?, hnul, htidy path h.historyFile_eq, FileSystem.read, h.find_eq,
    hempty, Bool.false_eq_true, if_false, Except.toOption, Option.bind_some] at hnone
  rw [← encodeFile_nil, decodeFile_encodeFile (List.forall_mem_nil _)] at hnone
  cases hnone

theorem loadHistory_eq (h : Unreadable s path file) :
    loadHistory s = .ok (s.report (HistoryFault.cannotRead path).message) := by
  obtain ⟨hnul, -⟩ := h.loadable?_eq_none
  rw [loadHistory, h.historyFile_eq]
  simp only [historyFileExists_of_find hnul h.find_eq, h.load_eq]
  rfl

end Unreadable

/-! ## What is left of them -/

/-- A log that is written to a path goes over a file: the path can be opened to be written to, and
leads there. -/
structure GoesOver (m : Machine) (path : String) (file : NodeId) : Prop where
  no_nul : Path.hasNul path = false
  opens : (m.openOutlet (Path.normalise path) false).isOk = true
  target_eq : m.target? (Path.normalise path) = some file

section Save

variable {log : HistoryLog} {m : Machine} {path : String} {file : NodeId}

theorem save_of_writeFile (hnul : Path.hasNul path = false) {answer : Except Errno Unit}
    {m' : Machine}
    (h : m.writeFile (Path.normalise path) false (encodeFile log.entries) = (answer, m')) :
    ((log.save m path).1.isOk = true → answer = .ok ()) ∧ (log.save m path).2 = m' := by
  rw [HistoryLog.save, hnul, if_neg Bool.false_ne_true, h]
  cases answer with
  | ok _ => exact ⟨fun _ ↦ rfl, rfl⟩
  | error e => exact ⟨fun hok ↦ absurd hok Bool.false_ne_true, rfl⟩

/-- A log does no harm to a file that it does not go over. -/
theorem contents_save_of_not_goesOver (hthere : m.files.contents file ≠ .error .noEntry)
    (h : ¬ GoesOver m path file) :
    (log.save m path).2.files.contents file = m.files.contents file := by
  cases hnul : Path.hasNul path with
  | true => simp only [HistoryLog.save, hnul, if_true]
  | false =>
    rcases hwrite : m.writeFile (Path.normalise path) false (encodeFile log.entries) with
      ⟨answer, m'⟩
    rw [(save_of_writeFile hnul hwrite).2]
    by_cases htarget : m.target? (Path.normalise path) = some file
    · -- it was not opened, so nothing was written
      have hclosed : (m.openOutlet (Path.normalise path) false).isOk = false := by
        rw [← Bool.not_eq_true]
        exact fun hopens ↦ h ⟨hnul, hopens, htarget⟩
      unfold Machine.writeFile at hwrite
      split at hwrite
      · cases hwrite
        rfl
      · next hopen =>
        rw [hopen] at hclosed
        cases hclosed
    · obtain ⟨n, hn⟩ :=
        Option.ne_none_iff_exists'.mp (mt FileSystem.contents_eq_noEntry_iff.mpr hthere)
      exact Machine.contents_writeFile_of_ne hwrite hn htarget

/-- A file that it goes over has a beginning of the log in place of its bytes, and all of it if
nothing was refused. -/
theorem contents_save_of_goesOver (hfull : m.files.contents file ≠ .ok ByteArray.empty)
    (h : GoesOver m path file) :
    ∃ taken rest, (log.save m path).2.files.contents file = .ok taken ∧
      taken ++ rest = encodeFile log.entries ∧
      ((log.save m path).1.isOk = true → taken = encodeFile log.entries) := by
  rcases hwrite : m.writeFile (Path.normalise path) false (encodeFile log.entries) with
    ⟨answer, m'⟩
  obtain ⟨hok, hleft⟩ := save_of_writeFile h.no_nul hwrite
  obtain ⟨mode, data, taken, -, ⟨⟨rest, hrest⟩, hall⟩, hcontents⟩ | ⟨kind, hkind, hnode⟩ :=
    Machine.contents_writeFile_self hwrite h.opens h.target_eq
  · refine ⟨taken, rest, ?_, hrest, fun hsaved ↦ hall (hok hsaved)⟩
    rw [hleft, hcontents]
    simp
  · -- a device keeps no bytes
    refine absurd ?_ hfull
    rw [FileSystem.contents, hnode]
    cases kind <;> first | rfl | exact absurd rfl hkind

end Save

/-- At its end a session writes its log to a path that leads to a file. -/
def FlushReaches (last : Shell) (path : String) (file : NodeId) : Prop :=
  last.settings.historyFile = some path ∧ GoesOver last.machine path file

/-- The files after a session: as the save has left them if there is a path to save to, and else as
the loop has. -/
theorem files_interact {E : Engine σ} {f : Frontend} {entries : List Entry} {s loaded last : Shell}
    (hran : Ran E registry f entries s loaded last (.ok ())) :
    (∃ path, last.settings.historyFile = some path ∧
      (interact E registry f s entries).2.machine.files =
        (last.history.save last.machine path).2.files) ∨
      (∀ path, last.settings.historyFile = some path → Path.hasNul path = true) ∧
        (interact E registry f s entries).2.machine.files = last.machine.files := by
  rw [hran.interact_eq]
  cases hpath : last.settings.historyFile with
  | none =>
    refine .inr ⟨nofun, ?_⟩
    simp only [flushHistory, hpath]
  | some path =>
    cases hnul : Path.hasNul path with
    | true =>
      refine .inr ⟨fun path' hpath' ↦ Option.some.inj hpath' ▸ hnul, ?_⟩
      simp only [flushHistory, hpath, HistoryLog.save, hnul, if_true, Except.map, afterFileUse]
    | false =>
      obtain ⟨t, hflush, hfiles⟩ := exists_flushHistory hpath hnul
      refine .inl ⟨path, rfl, ?_⟩
      simp only [hflush, hfiles]

/-- **A history file that cannot be read keeps its bytes until the history is written**, if no line
changes them, and after it as well unless it is opened for the log then. In that case it has a
beginning of the log in place of its bytes: all of it, if the log could be written. -/
theorem interact_overwrites (E : Engine σ) (registry : Registry) {f : Frontend}
    {entries : List Entry} {s loaded last : Shell} {result : Except Fault Unit} {path : String}
    {file : NodeId} (htidy : s.settings.IsTidy) (hunreadable : Unreadable s path file)
    (hran : Ran E registry f entries s loaded last result)
    (hlines : EachLine E registry f
      (fun t text ↦ (runLine E registry t text).shell.machine.files.contents file =
        t.machine.files.contents file) loaded entries) :
    loaded = s.report (HistoryFault.cannotRead path).message ∧
    last.machine.files.contents file = s.machine.files.contents file ∧
    (∀ path', result = .ok () → FlushReaches last path' file →
      ∃ taken rest, (interact E registry f s entries).2.machine.files.contents file = .ok taken ∧
        taken ++ rest = encodeFile last.history.entries ∧
        ((last.history.save last.machine path').1.isOk = true →
          taken = encodeFile last.history.entries)) ∧
    ((∀ path', ¬ (result = .ok () ∧ FlushReaches last path' file)) →
      (interact E registry f s entries).2.machine.files.contents file =
        s.machine.files.contents file) := by
  have hloaded : loaded = s.report (HistoryFault.cannotRead path).message :=
    Except.ok.inj (hran.load_eq.symm.trans hunreadable.loadHistory_eq)
  have hlast : last.machine.files.contents file = s.machine.files.contents file := by
    have hloop := loop_invariant
      (P := fun t ↦ t.machine.files.contents file = s.machine.files.contents file)
      (fun _ _ ht ↦ ht) (fun _ _ ht ↦ ht) (fun _ _ hline ht ↦ hline.trans ht)
      (by rw [hloaded]; rfl) hlines
    rwa [hran.loop_eq] at hloop
  have hthere := hlast ▸ hunreadable.contents_ne_noEntry
  have hfull := hlast ▸ hunreadable.contents_ne_empty htidy
  refine ⟨hloaded, hlast, ?_⟩
  cases result with
  | error fault =>
    rw [hran.interact_eq]
    exact ⟨nofun, fun _ ↦ hlast⟩
  | ok done =>
    obtain ⟨path', hpath', hfiles⟩ | ⟨hnul, hfiles⟩ := files_interact hran
    · rw [hfiles]
      constructor
      · rintro path'' - ⟨hpath'', hover⟩
        obtain rfl := Option.some.inj (hpath'.symm.trans hpath'')
        exact contents_save_of_goesOver hfull hover
      · intro hnot
        have hnever : ¬ GoesOver last.machine path' file :=
          fun hover ↦ hnot path' ⟨rfl, hpath', hover⟩
        rw [contents_save_of_not_goesOver hthere hnever, hlast]
    · rw [hfiles]
      refine ⟨?_, fun _ ↦ hlast⟩
      rintro path' - ⟨hpath', hover⟩
      cases (hnul path' hpath').symm.trans hover.no_nul

/-! ### A history file that is no text -/

/-- A shell whose history file holds two bytes that are no text; `errors` is what it has said. -/
def spoiled (errors : ByteArray) : Shell where
  machine := {
    files := { nodes := #[.directory 0 [("h", 1)], .file 0o644 ⟨#[0xff, 0x0a]⟩] }
    errors }
  settings := { historyFile := some "h" }

/-- What it says about the file. -/
def complaint : ByteArray :=
  ByteArray.empty ++ ((HistoryFault.cannotRead "h").message ++ "\n").toUTF8

theorem find_spoiled (errors : ByteArray) :
    (spoiled errors).machine.files.find (spoiled errors).machine.cwd (Path.normalise "h") =
      .ok 1 :=
  HistoryLog.find_h rfl nofun

theorem unreadable_spoiled : Unreadable (spoiled ByteArray.empty) "h" 1 where
  historyFile_eq := rfl
  leads := by
    refine ⟨.file 0o644 ⟨#[0xff, 0x0a]⟩, ?_⟩
    rw [FileSystem.lookUp, ← HistoryLog.normalise_h, find_spoiled]
    rfl
  load_eq := by
    rw [HistoryLog.load, if_neg (by decide), FileSystem.read, find_spoiled]
    rfl

theorem loadHistory_spoiled :
    loadHistory (spoiled ByteArray.empty) = .ok (spoiled complaint) :=
  unreadable_spoiled.loadHistory_eq

/-- The shell once it was told to write something, whatever it has said before. -/
def spoiledUntil (errors : ByteArray) : Shell :=
  (loop noPrograms Standard.registry plain (spoiled errors) [.line "echo on"]).2

/-- The shell once it was told to write something, with all that stands on its standard output. -/
def answered (output errors : ByteArray) : Shell :=
  { spoiled errors with
    machine := { (spoiled errors).machine with output }
    history := { entries := ["echo on"] } }

theorem runLine_spoiled (errors : ByteArray) :
    let done := runLine noPrograms Standard.registry (showPrompt plain (spoiled errors))
      "echo on"
    done.outcome = .ok 0 ∧ done.shell = answered "$ on\n".toUTF8 errors := by
  have hparse : Line.parse "echo on" =
      .ok { raw := "echo on", commands := [⟨"echo", ["on"]⟩] } := by decide +kernel
  have hget : Standard.registry.get? "echo" = some Standard.registry.builtins[0] := rfl
  have hreply (s : Shell) : returned? Standard.registry false ⟨"echo", ["on"]⟩ s =
      some { status := 0, output := "on\n", errors := "", shell := s } := rfl
  obtain ⟨houtcome, hshell⟩ := runLine_plain_call noPrograms hparse hget
    (hreply (showPrompt plain (spoiled errors))) true
  refine ⟨houtcome, ?_⟩
  have htrim : Text.trimString "echo on" = "echo on" := by decide +kernel
  rw [hshell, remember, htrim, Shell.printError_empty]
  rfl

theorem contents_runLine_spoiled (errors : ByteArray) :
    (runLine noPrograms Standard.registry (showPrompt plain (spoiled errors))
      "echo on").shell.machine.files.contents 1 = .ok ⟨#[0xff, 0x0a]⟩ := by
  rw [(runLine_spoiled errors).2]
  rfl

theorem loop_spoiled (errors : ByteArray) :
    loop noPrograms Standard.registry plain (spoiled errors) [.line "echo on"] =
      (.ok (), answered ("$ on\n".toUTF8 ++ "$ ".toUTF8) errors) := by
  obtain ⟨houtcome, hshell⟩ := runLine_spoiled errors
  exact loop_of_runLine noPrograms rfl houtcome hshell rfl

theorem spoiledUntil_eq (errors : ByteArray) :
    spoiledUntil errors = answered ("$ on\n".toUTF8 ++ "$ ".toUTF8) errors :=
  congrArg Prod.snd (loop_spoiled errors)

theorem ran_spoiled :
    Ran noPrograms Standard.registry plain [.line "echo on"] (spoiled ByteArray.empty)
      (spoiled complaint) (spoiledUntil complaint) (.ok ()) := by
  refine ⟨loadHistory_spoiled, ?_⟩
  rw [spoiledUntil_eq]
  exact loop_spoiled complaint

theorem flushReaches_spoiled (errors : ByteArray) :
    FlushReaches (spoiledUntil errors) "h" 1 ∧
      ((spoiledUntil errors).history.save (spoiledUntil errors).machine "h").1.isOk = true := by
  rw [spoiledUntil_eq]
  let m := (answered ("$ on\n".toUTF8 ++ "$ ".toUTF8) errors).machine
  have hfind : m.files.find m.cwd (Path.normalise "h") = .ok 1 := find_spoiled errors
  have htarget : m.target? (Path.normalise "h") = some 1 := by
    rw [(Machine.IsOrdinary.of_find hfind rfl rfl).target?_eq, hfind]
    rfl
  have hleads := Machine.LeadsTo.file htarget rfl
  refine ⟨⟨rfl, by decide, hleads.isOk_openOutlet false, htarget⟩, ?_⟩
  rw [HistoryLog.save_ok (by decide) hleads.hasBytes nofun]
  rfl

theorem entries_spoiled (errors : ByteArray) :
    (spoiledUntil errors).history.entries = ["echo on"] := by
  rw [spoiledUntil_eq, answered]

/-- The file is as it was to the end of the loop, and is lost then. -/
theorem interact_overwrites_spoiled :
    (spoiled ByteArray.empty).settings.IsTidy ∧ Unreadable (spoiled ByteArray.empty) "h" 1 ∧
    Ran noPrograms Standard.registry plain [.line "echo on"] (spoiled ByteArray.empty)
      (spoiled complaint) (spoiledUntil complaint) (.ok ()) ∧
    EachLine noPrograms Standard.registry plain
      (fun t text ↦ (runLine noPrograms Standard.registry t text).shell.machine.files.contents 1 =
        t.machine.files.contents 1) (spoiled complaint) [.line "echo on"] ∧
    FlushReaches (spoiledUntil complaint) "h" 1 ∧
    (spoiledUntil complaint).machine.files.contents 1 = .ok ⟨#[0xff, 0x0a]⟩ ∧
    (interact noPrograms Standard.registry plain (spoiled ByteArray.empty)
      [.line "echo on"]).2.machine.files.contents 1 = .ok (encodeFile ["echo on"]) := by
  have htidy : (spoiled ByteArray.empty).settings.IsTidy := by
    intro path hpath
    obtain rfl := Option.some.inj hpath
    decide +kernel
  have hlines : EachLine noPrograms Standard.registry plain
      (fun t text ↦ (runLine noPrograms Standard.registry t text).shell.machine.files.contents 1 =
        t.machine.files.contents 1) (spoiled complaint) [.line "echo on"] := by
    intro _
    constructor
    · rintro text heq
      obtain rfl := Entry.line.inj heq
      rw [contents_runLine_spoiled]
      rfl
    · exact fun _ _ ↦ trivial
  obtain ⟨hreaches, hsaved⟩ := flushReaches_spoiled complaint
  obtain ⟨-, hkept, hlost, -⟩ :=
    interact_overwrites noPrograms Standard.registry htidy unreadable_spoiled ran_spoiled hlines
  refine ⟨htidy, unreadable_spoiled, ran_spoiled, hlines, hreaches, hkept, ?_⟩
  obtain ⟨taken, rest, hcontents, -, hall⟩ := hlost "h" rfl hreaches
  rw [hcontents, hall hsaved, entries_spoiled]

/-- So a history file that could not be read is destroyed by a session in which no line writes
it. -/
theorem interact_destroys :
    loadHistory (spoiled ByteArray.empty) =
      .ok ((spoiled ByteArray.empty).report (HistoryFault.cannotRead "h").message) ∧
    (spoiled ByteArray.empty).machine.files.contents 1 = .ok ⟨#[0xff, 0x0a]⟩ ∧
    (runLine noPrograms Standard.registry (showPrompt plain (spoiled complaint))
      "echo on").shell.machine.files.contents 1 = .ok ⟨#[0xff, 0x0a]⟩ ∧
    (interact noPrograms Standard.registry plain (spoiled ByteArray.empty)
      [.line "echo on"]).2.machine.files.contents 1 = .ok "echo on\n".toUTF8 := by
  refine ⟨loadHistory_spoiled, rfl, contents_runLine_spoiled complaint, ?_⟩
  obtain ⟨⟨hpath, hover⟩, hsaved⟩ := flushReaches_spoiled complaint
  have hfull : (spoiledUntil complaint).machine.files.contents 1 ≠ .ok ByteArray.empty := by
    rw [spoiledUntil_eq]
    nofun
  obtain ⟨path, hpath', hfiles⟩ | ⟨hnul, -⟩ := files_interact ran_spoiled
  · obtain rfl := Option.some.inj (hpath.symm.trans hpath')
    obtain ⟨taken, rest, hcontents, -, hall⟩ := contents_save_of_goesOver hfull hover
    rw [hfiles, hcontents, hall hsaved, entries_spoiled]
    rfl
  · exact absurd hover.no_nul (by rw [hnul "h" hpath]; decide)

end Session

end CommandShell

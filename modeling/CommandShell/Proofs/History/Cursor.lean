import CommandShell.Proofs.History.Log
import CommandShell.Proofs.Host.Leading
import CommandShell.Proofs.Host.RegularFiles

/-!
# The cursor of a log

A log and a file belong together if the log is only ever written to that file. Then the cursor of
the log says how much of the log the file holds: behind what was in the file before, or, once the
whole log was written over it, from the beginning on. `Reaches` are all states that the two can come
to; `Tracks.perform` is the step that keeps them together, one case for each use.

A use that fails leaves the log as it was. It leaves the file as it was as well unless it had opened
it to write: then the file holds a beginning of what was to be written, and the cursor says nothing
about it until the whole log is written over it (`CutShort`).
-/

namespace CommandShell.HistoryLog

open CommandShell.Host CommandShell.History

/-! ## Uses of a log -/

/-- What can be done with a log that has one file to be written to. -/
inductive Use
  | append (entry : String)
  /-- A file is read, this one or another, and the cursor stays. -/
  | load (path : String)
  | save
  | appendUnsaved
  deriving DecidableEq, Repr

def perform (file : String) (log : HistoryLog) (m : Machine) :
    Use → Except Fault Unit × HistoryLog × Machine
  | .append entry => (.ok (), log.append entry, m)
  | .load path =>
    match log.load m path with
    | .ok (loaded, _) => (.ok (), loaded, m)
    | .error fault => (.error fault, log, m)
  | .save =>
    match log.save m file with
    | (.ok saved, written) => (.ok (), saved, written)
    | (.error fault, left) => (.error fault, log, left)
  | .appendUnsaved =>
    match log.appendUnsaved m file with
    | (.ok saved, written) => (.ok (), saved, written)
    | (.error fault, left) => (.error fault, log, left)

/-- What comes before the entries in the file after a use: nothing, once the whole log was written
over it. Nobody knows, once a use that failed has changed the file. -/
def baseAfter (file : String) (log : HistoryLog) (m : Machine) (base : Option ByteArray)
    (use : Use) : Option ByteArray :=
  match (perform file log m use).1 with
  | .ok () => if use = .save then some ByteArray.empty else base
  | .error _ =>
    if ((perform file log m use).2.2.bytesAt (Path.normalise file)).data =
      (m.bytesAt (Path.normalise file)).data then base else none

/-- The states that a log and its file come to, from a log and a machine to begin with, and what
comes before the entries in the file. What others do in between may be anything, as long as the path
of the file stays ordinary and the same bytes are read there. -/
inductive Reaches (file : String) (start : HistoryLog) (before : Machine) :
    Option ByteArray → HistoryLog → Machine → Prop
  | begin : Reaches file start before (some (before.bytesAt (Path.normalise file))) start before
  | use {base : Option ByteArray} {log : HistoryLog} {m : Machine}
      (h : Reaches file start before base log m) (use : Use) :
      Reaches file start before (baseAfter file log m base use)
        (perform file log m use).2.1 (perform file log m use).2.2
  | elsewhere {base : Option ByteArray} {log : HistoryLog} {m : Machine}
      (h : Reaches file start before base log m) {after : Machine}
      (ordinary : after.IsOrdinary (Path.normalise file))
      (unwritten : after.bytesAt (Path.normalise file) = m.bytesAt (Path.normalise file)) :
      Reaches file start before base log after

theorem Reaches.of_perform {file : String} {start log log' : HistoryLog} {before m m' : Machine}
    {base : Option ByteArray} (h : Reaches file start before base log m) {use : Use}
    (hperform : perform file log m use = (.ok (), log', m')) (hkeeps : use ≠ .save) :
    Reaches file start before base log' m' := by
  have hnext := h.use use
  simpa only [baseAfter, hperform, if_neg hkeeps] using hnext

theorem perform_of_appendUnsaved {file : String} {log log' : HistoryLog} {m m' : Machine}
    (h : log.appendUnsaved m file = (.ok log', m')) :
    perform file log m .appendUnsaved = (.ok (), log', m') := by
  simp only [perform, h]

/-! ## Uses that fail -/

def CutShort (file : String) (log : HistoryLog) (m left : Machine) : Use → Prop
  | .save =>
    (m.openOutlet (Path.normalise file) false).isOk = true ∧
      ∃ rest, left.bytesAt (Path.normalise file) ++ rest = encodeFile log.entries
  | .appendUnsaved =>
    (m.openOutlet (Path.normalise file) true).isOk = true ∧
      ∃ taken rest,
        left.bytesAt (Path.normalise file) = m.bytesAt (Path.normalise file) ++ taken ∧
          taken ++ rest = encodeFile log.pending
  | _ => False

/-- **A use that fails leaves the log alone**, and the machine too, unless it was cut short. -/
theorem perform_error {file : String} {log : HistoryLog} {m : Machine}
    (hpath : m.IsOrdinary (Path.normalise file)) {use : Use} {fault : Fault}
    (h : (perform file log m use).1 = .error fault) :
    (perform file log m use).2.1 = log ∧
      (perform file log m use).2.2.IsOrdinary (Path.normalise file) ∧
      ((perform file log m use).2.2 = m ∨
        CutShort file log m (perform file log m use).2.2 use) := by
  cases use with
  | append entry => cases h
  | load path =>
    simp only [perform] at h ⊢
    split at h
    · cases h
    · exact ⟨rfl, hpath, .inl rfl⟩
  | save =>
    simp only [perform] at h ⊢
    split at h
    · cases h
    · next left hsave =>
      obtain rfl | ⟨e, hwrite⟩ := of_save_error hsave
      · exact ⟨rfl, hpath, .inl rfl⟩
      · obtain ⟨hordinary, ⟨-, rfl⟩ | ⟨hopen, taken, ⟨⟨rest, hrest⟩, -⟩, hread⟩⟩ :=
          Machine.writeFile_reads hpath hwrite
        · exact ⟨rfl, hordinary, .inl rfl⟩
        · refine ⟨rfl, hordinary, .inr ⟨hopen, rest, ?_⟩⟩
          rw [Machine.bytesAt, hread, if_neg Bool.false_ne_true, ByteArray.empty_append, hrest]
  | appendUnsaved =>
    simp only [perform] at h ⊢
    split at h
    · cases h
    · next left hsave =>
      obtain rfl | ⟨e, hwrite⟩ := of_appendUnsaved_error hsave
      · exact ⟨rfl, hpath, .inl rfl⟩
      · obtain ⟨hordinary, ⟨-, rfl⟩ | ⟨hopen, taken, ⟨⟨rest, hrest⟩, -⟩, hread⟩⟩ :=
          Machine.writeFile_reads hpath hwrite
        · exact ⟨rfl, hordinary, .inl rfl⟩
        · refine ⟨rfl, hordinary, .inr ⟨hopen, taken, rest, ?_, hrest⟩⟩
          rw [Machine.bytesAt, hread, if_pos rfl]

/-! ## The cursor and the file -/

/-- The file holds the entries up to the cursor, each with a line feed, and before them what is
known to be there. -/
structure Tracks (file : String) (base : Option ByteArray) (log : HistoryLog) (m : Machine) :
    Prop where
  persisted_le : log.persisted ≤ log.entries.length
  isOrdinary : m.IsOrdinary (Path.normalise file)
  bytesAt_eq : ∀ held, base = some held → m.bytesAt (Path.normalise file) =
    held ++ encodeFile (log.entries.take log.persisted)

namespace Tracks

variable {file : String} {base : Option ByteArray} {log : HistoryLog} {m : Machine}

theorem append (h : Tracks file base log m) (more : List String) :
    Tracks file base { log with entries := log.entries ++ more } m where
  persisted_le := by
    rw [List.length_append]
    exact Nat.le_add_right_of_le h.persisted_le
  isOrdinary := h.isOrdinary
  bytesAt_eq held hheld := by
    rw [h.bytesAt_eq held hheld, List.take_append_of_le_length h.persisted_le]

theorem of_writeFile {keep : Bool} {entries : List String} {m' : Machine}
    (hpath : m.IsOrdinary (Path.normalise file))
    (hwrite : m.writeFile (Path.normalise file) keep (encodeFile entries) = (.ok (), m'))
    (hbytes : ∀ held, base = some held →
      (if keep then m.bytesAt (Path.normalise file) else ByteArray.empty) ++ encodeFile entries =
        held ++ encodeFile log.entries) :
    Tracks file base { log with persisted := log.entries.length } m' := by
  refine ⟨Nat.le_refl _, (Machine.writeFile_reads hpath hwrite).1, ?_⟩
  intro held hheld
  rw [List.take_length, ← hbytes held hheld, Machine.bytesAt,
    Machine.read_of_writeFile hpath hwrite]

theorem append_pending (h : Tracks file base log m) (held : ByteArray) (hheld : base = some held) :
    m.bytesAt (Path.normalise file) ++ encodeFile log.pending = held ++ encodeFile log.entries := by
  rw [h.bytesAt_eq held hheld, ByteArray.append_assoc, ← encodeFile_append, pending,
    List.take_append_drop]

/-- **Any use keeps log and file together**, as far as it is known what comes before the entries. -/
theorem perform (h : Tracks file base log m) (use : Use) :
    Tracks file (baseAfter file log m base use)
      (perform file log m use).2.1 (perform file log m use).2.2 := by
  cases hresult : (HistoryLog.perform file log m use).1 with
  | error fault =>
    obtain ⟨hlog, hordinary, -⟩ := perform_error h.isOrdinary hresult
    simp only [baseAfter, hresult, hlog]
    refine ⟨h.persisted_le, hordinary, ?_⟩
    -- what is known is known of bytes that have not changed
    intro held hheld
    split_ifs at hheld with hsame
    rw [ByteArray.ext hsame, h.bytesAt_eq held hheld]
  | ok done =>
    simp only [baseAfter, hresult]
    cases use with
    | append entry => exact h.append [entry]
    | load path =>
      simp only [HistoryLog.perform, load_eq] at hresult ⊢
      cases hloadable : loadable? m path with
      | none =>
        rw [hloadable] at hresult
        cases hresult
      | some loaded => exact h.append loaded
    | save =>
      simp only [HistoryLog.perform] at hresult ⊢
      split at hresult
      · next hsave =>
        obtain ⟨rfl, hwrite⟩ := of_save hsave
        refine of_writeFile h.isOrdinary hwrite ?_
        rintro held hheld
        rw [← Option.some.inj hheld]
        rfl
      · cases hresult
    | appendUnsaved =>
      simp only [HistoryLog.perform] at hresult ⊢
      split at hresult
      · next hsave =>
        obtain ⟨-, rfl, rfl⟩ | ⟨rfl, hwrite⟩ := of_appendUnsaved hsave
        · exact h
        · exact of_writeFile h.isOrdinary hwrite h.append_pending
      · cases hresult

end Tracks

theorem tracks_of_reaches {file : String} {start log : HistoryLog} {before m : Machine}
    {base : Option ByteArray} (hcursor : start.persisted = 0)
    (hpath : before.IsOrdinary (Path.normalise file))
    (h : Reaches file start before base log m) : Tracks file base log m := by
  induction h with
  | begin =>
    refine ⟨by rw [hcursor]; exact Nat.zero_le _, hpath, ?_⟩
    intro held hheld
    rw [hcursor, List.take_zero, encodeFile_nil, ByteArray.append_empty, Option.some.inj hheld]
  | use h use ih => exact ih.perform use
  | elsewhere h ordinary unwritten ih =>
    exact ⟨ih.persisted_le, ordinary, fun held hheld ↦ unwritten.trans (ih.bytesAt_eq held hheld)⟩

/-- **No entry is written twice and none is skipped.** Whatever was done with a log and its file,
and whatever of it failed, the file holds the entries up to the cursor, each ended by a line feed:
behind what it held at the beginning until the whole log is written over it, and with nothing before
them from then on. Only a use that was cut short puts an end to this, until the whole log is written
over the file again. A use that fails at any such point leaves the log as it is, and the machine as
well unless it is cut short. -/
theorem file_eq_written {file : String} {start log : HistoryLog} {before m : Machine}
    {base : Option ByteArray} (hcursor : start.persisted = 0)
    (hpath : before.IsOrdinary (Path.normalise file))
    (h : Reaches file start before base log m) :
    log.persisted ≤ log.entries.length ∧
    (∀ held, base = some held → m.bytesAt (Path.normalise file) =
      held ++ encodeFile (log.entries.take log.persisted)) ∧
    ∀ use fault, (perform file log m use).1 = .error fault →
      (perform file log m use).2.1 = log ∧
        ((perform file log m use).2.2 = m ∨
          CutShort file log m (perform file log m use).2.2 use) := by
  have htracks := tracks_of_reaches hcursor hpath h
  refine ⟨htracks.persisted_le, htracks.bytesAt_eq, ?_⟩
  intro use fault hfail
  obtain ⟨hlog, -, hleft⟩ := perform_error htracks.isOrdinary hfail
  exact ⟨hlog, hleft⟩

/-! ### A log that is appended twice -/

/-- A machine with a file that holds a line. -/
def notes : Machine where
  files := { nodes := #[.directory 0 [("h", 1)], .file 0o644 "x\n".toUTF8] }

theorem normalise_h : Path.normalise "h" = "h" := by
  decide

theorem find_h {fs : FileSystem} (hchild : fs.child FileSystem.root "h" = .ok (.node 1))
    (hnode : ∀ target, fs.node? 1 ≠ some (.link target)) :
    fs.find FileSystem.root (Path.normalise "h") = .ok 1 := by
  rw [normalise_h]
  exact FileSystem.find_of_leads 0 ["h"] ⟨by decide, by decide, rfl, by decide⟩
    (.node hchild hnode (.nil 1)) (by decide)

theorem find_notes : notes.files.find notes.cwd (Path.normalise "h") = .ok 1 :=
  find_h rfl nofun

theorem isOrdinary_notes : notes.IsOrdinary (Path.normalise "h") :=
  .of_find find_notes rfl rfl

theorem read_notes : notes.files.read notes.cwd (Path.normalise "h") = .ok "x\n".toUTF8 := by
  rw [FileSystem.read, find_notes]
  rfl

theorem bytesAt_notes : notes.bytesAt (Path.normalise "h") = "x\n".toUTF8 :=
  Machine.bytesAt_of_find find_notes rfl

theorem hasBytes_notes : notes.HasBytes (Path.normalise "h") "x\n".toUTF8 :=
  (Machine.LeadsTo.of_find find_notes rfl).hasBytes

/-- What was appended the first time is not appended again. -/
theorem file_eq_written_notes :
    ({ entries := ["a"] } : HistoryLog).persisted = 0 ∧
    notes.IsOrdinary (Path.normalise "h") ∧
    ∃ m, Reaches "h" { entries := ["a"] } notes (some "x\n".toUTF8)
        { entries := ["a", "b"], persisted := 2 } m ∧
      m.bytesAt (Path.normalise "h") = "x\na\nb\n".toUTF8 := by
  have hbegin : Reaches "h" { entries := ["a"] } notes (some "x\n".toUTF8)
      { entries := ["a"] } notes := by
    rw [← bytesAt_notes]
    exact .begin
  have hnul : Path.hasNul "h" = false := by decide
  obtain ⟨between, hfirst, hbetween, htakes⟩ :=
    exists_appendUnsaved hnul hasBytes_notes nofun { entries := ["a"] } nofun
  obtain ⟨last, hsecond, -, -⟩ :=
    exists_appendUnsaved hnul hbetween htakes { entries := ["a", "b"], persisted := 1 } nofun
  have hadded := (hbegin.of_perform (perform_of_appendUnsaved hfirst) nofun).use (.append "b")
  have hreaches := hadded.of_perform (perform_of_appendUnsaved hsecond) nofun
  refine ⟨rfl, isOrdinary_notes, _, hreaches, ?_⟩
  obtain ⟨-, hbytes, -⟩ := file_eq_written rfl isOrdinary_notes hreaches
  rw [hbytes _ rfl]
  decide +kernel

/-! ### Files that do not hold what was written -/

/-- A machine with the same file, which takes one byte more and then has no room left. -/
def crowded : Machine where
  files := { notes.files with refusals := [some ⟨1, .noSpace⟩] }

/-- A machine with a device that swallows what is written to it. -/
def swallowing : Machine where
  files := { nodes := #[.directory 0 [("dev", 1)], .directory 0 [("null", 2)], .device .null] }

/-- Its files once a save of a log was cut short. -/
def shortened : FileSystem where
  nodes := #[.directory 0 [("h", 1)], .file 0o644 "a".toUTF8]

theorem find_shortened : shortened.find FileSystem.root (Path.normalise "h") = .ok 1 :=
  find_h rfl nofun

theorem find_crowded : crowded.files.find crowded.cwd (Path.normalise "h") = .ok 1 :=
  find_h rfl nofun

/-- The file is emptied before the system refuses all but the first byte. -/
theorem save_crowded :
    ∃ after, ({ entries := ["a"] } : HistoryLog).save crowded "h" =
        (.error (.history (.cannotWrite "h")), after) ∧
      after.bytesAt (Path.normalise "h") = "a".toUTF8 := by
  have hlocate := FileSystem.find_eq_ok_iff_locate.mp find_crowded
  rcases hwrite : crowded.writeFile (Path.normalise "h") false (encodeFile ["a"]) with
    ⟨answer, after⟩
  have hwritten : answer = .error .noSpace ∧ after.cwd = FileSystem.root ∧
      after.files.nodes = shortened.nodes := by
    simp only [Machine.writeFile, Machine.openOutlet, FileSystem.descriptorNamed?,
      FileSystem.lookUp, find_crowded, FileSystem.openFile, hlocate] at hwrite
    cases hwrite
    exact ⟨rfl, rfl, rfl⟩
  obtain ⟨rfl, hcwd, hnodes⟩ := hwritten
  refine ⟨after, ?_, ?_⟩
  · have hnul : Path.hasNul "h" = false := by decide
    rw [save, hnul, hwrite]
    rfl
  · have hfind : after.files.find after.cwd (Path.normalise "h") = .ok 1 := by
      rw [hcwd, (FileSystem.sameTree_of_nodes_eq hnodes).find_eq, find_shortened]
    have hnode : after.files.node? 1 = some (.file 0o644 "a".toUTF8) := by
      rw [FileSystem.node?, hnodes]
      rfl
    exact Machine.bytesAt_of_find hfind hnode

theorem locate_null {fs : FileSystem} (hnodes : fs.nodes = swallowing.files.nodes) :
    fs.locate FileSystem.root "/dev/null" = .ok (.node 2) := by
  rw [(FileSystem.sameTree_of_nodes_eq hnodes).locate_eq, ← FileSystem.find_eq_ok_iff_locate]
  exact FileSystem.find_of_leads 0 ["dev", "null"] (by decide +kernel)
    (.node rfl nofun (.node rfl nofun (.nil 2))) (by decide)

/-- The device takes every log, and nothing is read from it then. -/
theorem save_swallowing (log : HistoryLog) :
    ∃ after, log.save swallowing "/dev/null" =
        (.ok { log with persisted := log.entries.length }, after) ∧
      after.files.read after.cwd (Path.normalise "/dev/null") = .ok ByteArray.empty := by
  have hnul : Path.hasNul "/dev/null" = false := by decide +kernel
  have hnormal : Path.normalise "/dev/null" = "/dev/null" := by decide +kernel
  have hlocate : swallowing.files.locate swallowing.cwd "/dev/null" = .ok (.node 2) :=
    locate_null rfl
  rcases hwrite : swallowing.writeFile "/dev/null" false (encodeFile log.entries) with
    ⟨answer, after⟩
  have hwritten : answer = .ok () ∧ after.cwd = FileSystem.root ∧
      after.files.nodes = swallowing.files.nodes := by
    simp only [Machine.writeFile, Machine.openOutlet, FileSystem.descriptorNamed?,
      FileSystem.lookUp, FileSystem.find, FileSystem.openFile, hlocate] at hwrite
    cases hwrite
    exact ⟨rfl, rfl, rfl⟩
  obtain ⟨rfl, hcwd, hnodes⟩ := hwritten
  refine ⟨after, ?_, ?_⟩
  · simp only [save, hnul, hnormal, hwrite, Bool.false_eq_true, if_false]
  · rw [hnormal, hcwd, FileSystem.read, FileSystem.find, locate_null hnodes]
    simp only [FileSystem.contents, FileSystem.node?, hnodes]
    rfl

/-- A device does not hold what was written to it, and a file is not what it was after a use of it
failed. -/
theorem file_ne_written :
    (∃ after, perform "/dev/null" { entries := ["a"] } swallowing .save =
        (.ok (), { entries := ["a"], persisted := 1 }, after) ∧
      after.bytesAt (Path.normalise "/dev/null") = ByteArray.empty) ∧
    encodeFile (["a"].take 1) ≠ ByteArray.empty ∧
    crowded.bytesAt (Path.normalise "h") = "x\n".toUTF8 ∧
    (perform "h" { entries := ["a"] } crowded .save).1 = .error (.history (.cannotWrite "h")) ∧
    (perform "h" { entries := ["a"] } crowded .save).2.2.bytesAt (Path.normalise "h") =
      "a".toUTF8 := by
  refine ⟨?_, by decide +kernel, Machine.bytesAt_of_find find_crowded rfl, ?_⟩
  · obtain ⟨after, hsave, hread⟩ := save_swallowing { entries := ["a"] }
    refine ⟨after, ?_, ?_⟩
    · rw [perform, hsave]
      rfl
    · rw [Machine.bytesAt, hread]
  · obtain ⟨after, hsave, hbytes⟩ := save_crowded
    simp only [perform, hsave]
    exact ⟨trivial, hbytes⟩

end CommandShell.HistoryLog

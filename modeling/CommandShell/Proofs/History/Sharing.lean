import CommandShell.Proofs.History.Appending
import Mathlib.Logic.Function.Basic

/-!
# Logs that share a file

Several logs can have one file to be written to. Each has a cursor of its own, which says nothing
about the file and nothing about the other logs, so what a log has written is what its cursor has
passed, wherever that stands in the file by now. As long as all of them only append, a batch goes
behind all that the file has, whoever wrote it, and no batch is lost (`sharing_keeps`).

`Sharing.Reaches` are all states that such logs come to, in any order of their uses.
-/

namespace CommandShell.HistoryLog

open CommandShell.Host CommandShell.History

/-- What a use that does not write over the file writes to it. -/
def batch (file : String) (log : HistoryLog) (m : Machine) : Use → List String
  | .appendUnsaved => if (log.appendUnsaved m file).1.isOk then log.pending else []
  | _ => []

def InOnePiece (file : String) (log : HistoryLog) (m : Machine) (use : Use) : Prop :=
  ∀ fault, (log.perform file m use).1 = .error fault →
    (log.perform file m use).2.2.bytesAt (Path.normalise file) = m.bytesAt (Path.normalise file)

theorem InOnePiece.of_ok {file : String} {log : HistoryLog} {m : Machine} {use : Use}
    (h : (log.perform file m use).1 = .ok ()) : InOnePiece file log m use := by
  intro fault hfault
  rw [h] at hfault
  cases hfault

/-- Logs that share a file, each empty to begin with. -/
structure Sharing (ι : Type) where
  logs : ι → HistoryLog := fun _ ↦ {}
  machine : Machine
  /-- Which log was used, and what it wrote to the file, in the order of the uses. -/
  batches : List (ι × List String) := []

namespace Sharing

variable {ι : Type} [DecidableEq ι]

def written (s : Sharing ι) : List String :=
  s.batches.flatMap (·.2)

/-- What one of the logs has written to the file. -/
def writtenBy (s : Sharing ι) (i : ι) : List String :=
  (s.batches.filter fun b ↦ b.1 = i).flatMap (·.2)

/-- One of the logs is used. -/
def perform (file : String) (s : Sharing ι) (i : ι) (use : Use) : Sharing ι where
  logs := Function.update s.logs i ((s.logs i).perform file s.machine use).2.1
  machine := ((s.logs i).perform file s.machine use).2.2
  batches := s.batches ++ [(i, (s.logs i).batch file s.machine use)]

/-- The states that logs come to which share a file, do not write over it and write in one piece.
Nobody else writes to the file, but what happens to the machine otherwise may be anything. -/
inductive Reaches (file : String) (before : Machine) : Sharing ι → Prop
  | begin : Reaches file before { machine := before }
  | use {s : Sharing ι} (h : Reaches file before s) (i : ι) (use : Use) (keeps : use ≠ .save)
      (whole : InOnePiece file (s.logs i) s.machine use) :
      Reaches file before (s.perform file i use)
  | elsewhere {s : Sharing ι} (h : Reaches file before s) {after : Machine}
      (ordinary : after.IsOrdinary (Path.normalise file))
      (unwritten : after.bytesAt (Path.normalise file) = s.machine.bytesAt (Path.normalise file)) :
      Reaches file before { s with machine := after }

end Sharing

/-! ## One use -/

/-- What one use of a log does to the log and to the file: the batch goes to the end of the file,
and it is what comes between the old cursor and the new one. -/
structure Batched (file : String) (log after : HistoryLog) (m m' : Machine)
    (batch : List String) : Prop where
  isOrdinary : m'.IsOrdinary (Path.normalise file)
  bytesAt_eq : m'.bytesAt (Path.normalise file) =
    m.bytesAt (Path.normalise file) ++ encodeFile batch
  persisted_le : after.persisted ≤ after.entries.length
  take_eq : after.entries.take after.persisted = log.entries.take log.persisted ++ batch

namespace Batched

variable {file : String} {log : HistoryLog} {m m' : Machine}

theorem of_nothing (hpath : m'.IsOrdinary (Path.normalise file))
    (hsame : m'.bytesAt (Path.normalise file) = m.bytesAt (Path.normalise file))
    (hle : log.persisted ≤ log.entries.length) (more : List String) :
    Batched file log { log with entries := log.entries ++ more } m m' [] where
  isOrdinary := hpath
  bytesAt_eq := by rw [hsame, encodeFile_nil, ByteArray.append_empty]
  persisted_le := by
    rw [List.length_append]
    exact Nat.le_add_right_of_le hle
  take_eq := by rw [List.take_append_of_le_length hle, List.append_nil]

theorem of_writeFile (hpath : m.IsOrdinary (Path.normalise file))
    (hwrite : m.writeFile (Path.normalise file) true (encodeFile log.pending) = (.ok (), m')) :
    Batched file log { log with persisted := log.entries.length } m m' log.pending := by
  refine ⟨(Machine.writeFile_reads hpath hwrite).1, ?_, Nat.le_refl _, ?_⟩
  · rw [Machine.bytesAt, Machine.read_of_writeFile hpath hwrite, if_pos rfl]
  · rw [List.take_length, pending, List.take_append_drop]

end Batched

/-- **Any use but a save writes one batch**, the empty one if it fails or is no use of the file. -/
theorem perform_batched {file : String} {log : HistoryLog} {m : Machine}
    (hpath : m.IsOrdinary (Path.normalise file)) (hle : log.persisted ≤ log.entries.length)
    {use : Use} (hkeeps : use ≠ .save) (hwhole : InOnePiece file log m use) :
    Batched file log (log.perform file m use).2.1 m (log.perform file m use).2.2
      (log.batch file m use) := by
  have hstays : ∀ {m' : Machine}, m'.IsOrdinary (Path.normalise file) →
      m'.bytesAt (Path.normalise file) = m.bytesAt (Path.normalise file) →
        Batched file log log m m' [] := by
    intro m' hordinary hsame
    have h := Batched.of_nothing hordinary hsame hle []
    rwa [List.append_nil] at h
  cases use with
  | append entry => exact Batched.of_nothing hpath rfl hle [entry]
  | load path =>
    simp only [perform, batch, load_eq]
    cases loadable? m path with
    | none => exact hstays hpath rfl
    | some loaded => exact Batched.of_nothing hpath rfl hle loaded
  | save => exact absurd rfl hkeeps
  | appendUnsaved =>
    rcases happend : log.appendUnsaved m file with ⟨answer, written⟩
    cases answer with
    | error fault =>
      have hresult : log.perform file m .appendUnsaved = (.error fault, log, written) := by
        simp only [perform, happend]
      obtain ⟨-, hordinary, -⟩ := perform_error hpath (congrArg Prod.fst hresult)
      have hsame := hwhole fault (congrArg Prod.fst hresult)
      rw [hresult] at hordinary hsame
      simp only [hresult, batch, happend]
      exact hstays hordinary hsame
    | ok saved =>
      simp only [perform, batch, happend]
      obtain ⟨hpending, rfl, rfl⟩ | ⟨rfl, hwrite⟩ := of_appendUnsaved happend
      · rw [hpending]
        exact hstays hpath rfl
      · exact Batched.of_writeFile hpath hwrite

/-! ## Any order of uses -/

namespace Sharing

variable {ι : Type} [DecidableEq ι]

theorem written_perform (file : String) (s : Sharing ι) (i : ι) (use : Use) :
    (s.perform file i use).written = s.written ++ (s.logs i).batch file s.machine use := by
  rw [written, perform, List.flatMap_append, List.flatMap_singleton, written]

theorem writtenBy_perform (file : String) (s : Sharing ι) (i j : ι) (use : Use) :
    (s.perform file i use).writtenBy j =
      s.writtenBy j ++ if i = j then (s.logs i).batch file s.machine use else [] := by
  rw [writtenBy, perform, List.filter_append, List.flatMap_append, writtenBy]
  split_ifs with hij
  · rw [List.filter_cons_of_pos (by simpa using hij), List.filter_nil, List.flatMap_singleton]
  · rw [List.filter_cons_of_neg (by simpa using hij), List.filter_nil, List.flatMap_nil]

theorem logs_perform_self (file : String) (s : Sharing ι) (i : ι) (use : Use) :
    (s.perform file i use).logs i = ((s.logs i).perform file s.machine use).2.1 :=
  Function.update_self i _ s.logs

theorem logs_perform_of_ne (file : String) (s : Sharing ι) {i j : ι} (hij : i ≠ j) (use : Use) :
    (s.perform file i use).logs j = s.logs j :=
  Function.update_of_ne hij.symm _ s.logs

/-- What is pending of one of the logs goes to a regular file where the system refuses nothing. -/
theorem Reaches.exists_appended {file : String} {before : Machine} {s : Sharing ι}
    {data : ByteArray} (h : Reaches file before s) (hnul : Path.hasNul file = false)
    (hbytes : s.machine.HasBytes (Path.normalise file) data) (htakes : s.machine.files.TakesAll)
    (i : ι) (hpending : (s.logs i).pending ≠ []) :
    ∃ m',
      Reaches file before {
        logs := Function.update s.logs i
          { s.logs i with persisted := (s.logs i).entries.length }
        machine := m'
        batches := s.batches ++ [(i, (s.logs i).pending)] } ∧
      m'.HasBytes (Path.normalise file) (data ++ encodeFile (s.logs i).pending) ∧
      m'.files.TakesAll := by
  obtain ⟨m', happend, hafter⟩ := exists_appendUnsaved hnul hbytes htakes (s.logs i) hpending
  have hperform := perform_of_appendUnsaved happend
  have hnext := h.use i .appendUnsaved nofun (.of_ok (congrArg Prod.fst hperform))
  refine ⟨m', ?_, hafter⟩
  simpa only [perform, hperform, batch, happend, Except.isOk, Except.toBool, if_true] using hnext

/-- The file holds all batches behind what it held before, and each log has written what comes
before its cursor. -/
structure Tracks (file : String) (base : ByteArray) (s : Sharing ι) : Prop where
  isOrdinary : s.machine.IsOrdinary (Path.normalise file)
  bytesAt_eq : s.machine.bytesAt (Path.normalise file) = base ++ encodeFile s.written
  persisted_le : ∀ i, (s.logs i).persisted ≤ (s.logs i).entries.length
  writtenBy_eq : ∀ i, s.writtenBy i = (s.logs i).entries.take (s.logs i).persisted

theorem Tracks.perform {file : String} {base : ByteArray} {s : Sharing ι} (h : Tracks file base s)
    (i : ι) {use : Use} (hkeeps : use ≠ .save)
    (hwhole : InOnePiece file (s.logs i) s.machine use) :
    Tracks file base (s.perform file i use) := by
  have hbatched := perform_batched h.isOrdinary (h.persisted_le i) hkeeps hwhole
  -- the file has one batch more, which is of log `i`, and the other logs have not moved
  refine ⟨hbatched.isOrdinary, ?_, ?_, ?_⟩
  · rw [written_perform, encodeFile_append, ← ByteArray.append_assoc, ← h.bytesAt_eq]
    exact hbatched.bytesAt_eq
  · intro j
    by_cases hij : i = j
    · subst hij
      rw [logs_perform_self]
      exact hbatched.persisted_le
    · rw [logs_perform_of_ne file s hij]
      exact h.persisted_le j
  · intro j
    rw [writtenBy_perform, h.writtenBy_eq]
    by_cases hij : i = j
    · subst hij
      rw [if_pos rfl, logs_perform_self]
      exact hbatched.take_eq.symm
    · rw [if_neg hij, List.append_nil, logs_perform_of_ne file s hij]

theorem Reaches.tracks {file : String} {before : Machine} {s : Sharing ι}
    (hpath : before.IsOrdinary (Path.normalise file)) (h : Reaches file before s) :
    Tracks file (before.bytesAt (Path.normalise file)) s := by
  induction h with
  | begin => exact ⟨hpath, ByteArray.append_empty.symm, fun _ ↦ Nat.le_refl 0, fun _ ↦ rfl⟩
  | use _ i use keeps whole ih => exact ih.perform i keeps whole
  | elsewhere _ ordinary unwritten ih =>
    exact ⟨ordinary, unwritten.trans ih.bytesAt_eq, ih.persisted_le, ih.writtenBy_eq⟩

end Sharing

/-- **Logs that share a file lose nothing as long as they only append.** In whatever order they are
used, and whichever uses fail as long as each of them writes in one piece, the file holds what it
held before and then the batches in the order in which they were written. What each of the logs has
written is what comes before its own cursor, each entry once and in order. If the text before was
empty or ended with a line feed, all of its entries are read again, and the written ones after them
if they are clean. -/
theorem sharing_keeps {ι : Type} [DecidableEq ι] {file : String} {before : Machine} {s : Sharing ι}
    (hpath : before.IsOrdinary (Path.normalise file)) (h : s.Reaches file before) :
    s.machine.bytesAt (Path.normalise file) =
      before.bytesAt (Path.normalise file) ++ encodeFile s.written ∧
    (∀ i, (s.logs i).persisted ≤ (s.logs i).entries.length ∧
      s.writtenBy i = (s.logs i).entries.take (s.logs i).persisted) ∧
    ∀ text : String, before.bytesAt (Path.normalise file) = text.toUTF8 →
      (text.toList = [] ∨ text.toList.getLast? = some '\n') →
      (∀ entry ∈ s.written, IsClean entry.toList) →
      ∃ old, decodeFile (before.bytesAt (Path.normalise file)) = some old ∧
        decodeFile (s.machine.bytesAt (Path.normalise file)) = some (old ++ s.written) := by
  have htracks := h.tracks hpath
  refine ⟨htracks.bytesAt_eq, fun i ↦ ⟨htracks.persisted_le i, htracks.writtenBy_eq i⟩, ?_⟩
  intro text htext hended hclean
  have hopen : Text.trim (openLine text.toList) = [] := by
    rw [openLine_eq_nil hended]
    rfl
  rw [htracks.bytesAt_eq, htext]
  exact ⟨_, decodeFile_toUTF8 text,
    (decodeFile_append_encodeFile_iff text (decodeFile_toUTF8 text) hclean).mpr (.inr hopen)⟩

/-- Two logs take turns with the file of `notes`. -/
theorem sharing_keeps_notes :
    notes.IsOrdinary (Path.normalise "h") ∧
    ∃ s : Sharing Bool, s.Reaches "h" notes ∧
      s.logs true = { entries := ["a", "c"], persisted := 2 } ∧
      s.logs false = { entries := ["b", "d"], persisted := 1 } ∧
      s.machine.bytesAt (Path.normalise "h") = "x\na\nb\nc\n".toUTF8 := by
  have hbegin : Sharing.Reaches "h" notes ({ machine := notes } : Sharing Bool) := .begin
  have hadded := (hbegin.use true (.append "a") nofun (.of_ok rfl)).use false (.append "b") nofun
    (.of_ok rfl)
  have hnul : Path.hasNul "h" = false := by decide
  obtain ⟨m, hfirst, hbytes, htakes⟩ :=
    hadded.exists_appended hnul hasBytes_notes nofun true nofun
  obtain ⟨m, hsecond, hbytes, htakes⟩ := hfirst.exists_appended hnul hbytes htakes false nofun
  have hmore := (hsecond.use true (.append "c") nofun (.of_ok rfl)).use false (.append "d") nofun
    (.of_ok rfl)
  obtain ⟨m, hreaches, -⟩ := hmore.exists_appended hnul hbytes htakes true nofun
  obtain ⟨hheld, -, -⟩ := sharing_keeps isOrdinary_notes hreaches
  refine ⟨isOrdinary_notes, _, hreaches, rfl, rfl, ?_⟩
  rw [hheld, bytesAt_notes]
  rfl

end CommandShell.HistoryLog

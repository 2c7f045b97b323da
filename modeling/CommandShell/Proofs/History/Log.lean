import CommandShell.History.Log
import CommandShell.Proofs.History.Format
import CommandShell.Proofs.Host.RegularFiles
import Mathlib.Tactic.SplitIfs

/-!
# What a log does with files

Each of the three uses of a file said once: what is read goes to the end of the log, what is written
is the whole log or what is pending of it, and afterwards the cursor is at the end. Where the system
refuses nothing, a regular file takes both.
-/

namespace CommandShell.HistoryLog

open CommandShell.Host CommandShell.History

/-- The entries that can be read from a file, if it can be read at all. -/
def loadable? (m : Machine) (path : String) : Option (List String) :=
  if Path.hasNul path then none
  else (m.files.read m.cwd (Path.normalise path)).toOption.bind decodeFile

variable {log after : HistoryLog} {m m' : Machine} {path : String}

/-- What can be read joins the log, and the cursor stays or goes to the end; what cannot be read is
a fault. -/
theorem load_eq (log : HistoryLog) (m : Machine) (path : String) (mark : Bool) :
    log.load m path mark =
      match loadable? m path with
      | some loaded =>
        .ok ({ entries := log.entries ++ loaded
               persisted := if mark then (log.entries ++ loaded).length else log.persisted },
          loaded.length)
      | none =>
        .error (if Path.hasNul path then .embeddedNul else .history (.cannotRead path)) := by
  unfold load loadable?
  by_cases hnul : Path.hasNul path = true
  · simp only [if_pos hnul]
  · simp only [if_neg hnul]
    cases m.files.read m.cwd (Path.normalise path) with
    | error e => rfl
    | ok bytes =>
      simp only [Except.toOption, Option.bind_some]
      cases decodeFile bytes <;> rfl

theorem isClean_of_loadable? {loaded : List String} (h : loadable? m path = some loaded)
    {entry : String} (hentry : entry ∈ loaded) : IsClean entry.toList := by
  unfold loadable? at h
  split_ifs at h
  obtain ⟨bytes, -, hdecode⟩ := Option.bind_eq_some_iff.mp h
  exact isClean_of_mem_decodeFile hdecode hentry

theorem of_save (h : log.save m path = (.ok after, m')) :
    after = { log with persisted := log.entries.length } ∧
      m.writeFile (Path.normalise path) false (encodeFile log.entries) = (.ok (), m') := by
  unfold save at h
  split_ifs at h
  · cases h
  · split at h
    · cases h
    · next written hwrite =>
      cases h
      exact ⟨rfl, hwrite⟩

theorem entries_of_save (h : (log.save m path).1 = .ok after) : after.entries = log.entries := by
  rw [(of_save (Prod.ext h rfl)).1]

theorem of_save_error {fault : Fault} (h : log.save m path = (.error fault, m')) :
    m' = m ∨ ∃ e, m.writeFile (Path.normalise path) false (encodeFile log.entries) =
      (.error e, m') := by
  unfold save at h
  split_ifs at h
  · cases h
    exact .inl rfl
  · split at h
    · next e written hwrite =>
      cases h
      exact .inr ⟨e, hwrite⟩
    · cases h

/-- Appending writes nothing if nothing is pending, and all that is pending otherwise. -/
theorem of_appendUnsaved (h : log.appendUnsaved m path = (.ok after, m')) :
    (log.pending = [] ∧ after = log ∧ m' = m) ∨
      (after = { log with persisted := log.entries.length } ∧
        m.writeFile (Path.normalise path) true (encodeFile log.pending) = (.ok (), m')) := by
  unfold appendUnsaved at h
  split_ifs at h with hpending
  · cases h
    exact .inl ⟨List.isEmpty_iff.mp hpending, rfl, rfl⟩
  · cases h
  · split at h
    · cases h
    · next written hwrite =>
      cases h
      exact .inr ⟨rfl, hwrite⟩

theorem entries_of_appendUnsaved (h : (log.appendUnsaved m path).1 = .ok after) :
    after.entries = log.entries := by
  obtain ⟨-, rfl, -⟩ | ⟨rfl, -⟩ := of_appendUnsaved (Prod.ext h rfl) <;> rfl

theorem of_appendUnsaved_error {fault : Fault}
    (h : log.appendUnsaved m path = (.error fault, m')) :
    m' = m ∨ ∃ e, m.writeFile (Path.normalise path) true (encodeFile log.pending) =
      (.error e, m') := by
  unfold appendUnsaved at h
  split_ifs at h
  · cases h
  · cases h
    exact .inl rfl
  · split at h
    · next e written hwrite =>
      cases h
      exact .inr ⟨e, hwrite⟩
    · cases h

/-! ## Regular files -/

variable {data : ByteArray}

/-- After a log was saved to a regular file, the file has its entries, and can be written again. -/
theorem hasBytes_of_save (hbytes : m.HasBytes (Path.normalise path) data)
    (h : log.save m path = (.ok after, m')) :
    m'.HasBytes (Path.normalise path) (encodeFile log.entries) ∧
      m'.target? (Path.normalise path) ≠ none ∧
      m'.files.descriptorNamed? m'.cwd (Path.normalise path) =
        m.files.descriptorNamed? m.cwd (Path.normalise path) := by
  obtain ⟨-, hwrite⟩ := of_save h
  obtain ⟨-, hafter, hthere, hstream⟩ := hbytes.of_writeFile hwrite
  rw [if_neg Bool.false_ne_true, ByteArray.empty_append] at hafter
  exact ⟨hafter, hthere, hstream⟩

/-- Where the system refuses nothing, every log can be saved to a regular file. -/
theorem save_ok (hnul : Path.hasNul path = false) (hbytes : m.HasBytes (Path.normalise path) data)
    (htakes : m.files.TakesAll) (log : HistoryLog) :
    (log.save m path).1 = .ok { log with persisted := log.entries.length } := by
  have hok := hbytes.writeFile_ok htakes false (encodeFile log.entries)
  rcases hwrite : m.writeFile (Path.normalise path) false (encodeFile log.entries) with
    ⟨answer, m'⟩
  rw [hwrite] at hok
  obtain rfl : answer = .ok () := hok
  rw [save, hnul, hwrite]
  rfl

/-- What is pending can be appended there as well, and then more. -/
theorem exists_appendUnsaved (hnul : Path.hasNul path = false)
    (hbytes : m.HasBytes (Path.normalise path) data) (htakes : m.files.TakesAll)
    (log : HistoryLog) (hpending : log.pending ≠ []) :
    ∃ m', log.appendUnsaved m path =
        (.ok { log with persisted := log.entries.length }, m') ∧
      m'.HasBytes (Path.normalise path) (data ++ encodeFile log.pending) ∧ m'.files.TakesAll := by
  have hok := hbytes.writeFile_ok htakes true (encodeFile log.pending)
  rcases hwrite : m.writeFile (Path.normalise path) true (encodeFile log.pending) with ⟨answer, m'⟩
  rw [hwrite] at hok
  obtain rfl : answer = .ok () := hok
  obtain ⟨-, hafter, -, -⟩ := hbytes.of_writeFile hwrite
  refine ⟨m', ?_, hafter, Machine.takesAll_writeFile hwrite htakes⟩
  rw [appendUnsaved, List.isEmpty_eq_false_iff.mpr hpending, hnul, hwrite]
  rfl

end CommandShell.HistoryLog

import CommandShell.Proofs.History.Cursor
import CommandShell.Proofs.Host.Leading
import CommandShell.Proofs.Host.RegularFiles

/-!
# What a history file gives back

Writing and reading a history file are no inverse functions. Reading takes every line end for one,
trims what is between them and drops what is blank then, so that nothing but clean entries is ever
read; writing ends every entry with a line feed and looks no further. A log comes back from its file
exactly if all of its entries are clean (`decodeFile_encodeFile_iff`), and what was read from a file
is the same however often it is written and read again.

The path has to lead to a regular file for this. A device takes what is written to it and gives
nothing back (`save_device`), and neither does a stream of the shell.
-/

namespace CommandShell

open CommandShell.Host CommandShell.History

/-- **The format is faithful to clean entries and to no others.** -/
theorem History.decodeFile_encodeFile_iff (entries : List String) :
    decodeFile (encodeFile entries) = some entries ↔ ∀ entry ∈ entries, IsClean entry.toList := by
  constructor
  · intro h entry hentry
    exact isClean_of_mem_decodeFile h hentry
  · exact decodeFile_encodeFile

namespace HistoryLog

/-- Where a history file can be: the path can be opened for writing, and what is open then is a
regular file and no stream of the shell. -/
structure IsFile (m : Machine) (path : String) : Prop where
  no_nul : Path.hasNul path = false
  regular : ∃ data, m.HasBytes (Path.normalise path) data
  no_stream : m.files.descriptorNamed? m.cwd (Path.normalise path) = none

/-- The entries that an empty log has once a file was loaded into it. -/
def loadedFrom (m : Machine) (path : String) : Except Fault (List String) :=
  (({} : HistoryLog).load m path).map (·.1.entries)

variable {m : Machine} {path : String}

theorem loadedFrom_eq_ok_iff {entries : List String} :
    loadedFrom m path = .ok entries ↔ loadable? m path = some entries := by
  rw [loadedFrom, load_eq]
  cases loadable? m path with
  | none =>
    refine iff_of_false ?_ ?_
    · rintro ⟨⟩
    · rintro ⟨⟩
  | some loaded =>
    constructor
    · intro h
      cases h
      rfl
    · intro h
      cases h
      rfl

theorem exists_loadable?_of_load {log after : HistoryLog} {mark : Bool} {n : Nat}
    (h : log.load m path mark = .ok (after, n)) :
    ∃ read, loadable? m path = some read ∧ after.entries = log.entries ++ read ∧
      ∀ entry ∈ read, IsClean entry.toList := by
  rw [load_eq] at h
  cases hread : loadable? m path with
  | none =>
    rw [hread] at h
    cases h
  | some read =>
    rw [hread] at h
    cases h
    exact ⟨read, rfl, rfl, fun entry hentry ↦ isClean_of_loadable? hread hentry⟩

/-- A history file that a log was saved to has its entries, and nothing about the path keeps it from
being written again. -/
theorem IsFile.of_save (h : IsFile m path) {log saved : HistoryLog} {after : Machine}
    (hsave : log.save m path = (.ok saved, after)) :
    IsFile after path ∧
      after.files.read after.cwd (Path.normalise path) = .ok (encodeFile log.entries) := by
  obtain ⟨data, hdata⟩ := h.regular
  obtain ⟨hbytes, hthere, hstream⟩ := hasBytes_of_save hdata hsave
  have hstill := hstream.trans h.no_stream
  exact ⟨⟨h.no_nul, ⟨_, hbytes⟩, hstill⟩, hbytes.read_eq hstill hthere⟩

theorem loadedFrom_iff_of_read (hnul : Path.hasNul path = false) {bytes : ByteArray}
    (hread : m.files.read m.cwd (Path.normalise path) = .ok bytes) {entries : List String} :
    loadedFrom m path = .ok entries ↔ decodeFile bytes = some entries := by
  have hloadable : loadable? m path = decodeFile bytes := by
    rw [loadable?, hnul, hread]
    rfl
  rw [loadedFrom_eq_ok_iff, hloadable]

theorem IsFile.loadedFrom_iff (h : IsFile m path) {entries : List String}
    (hread : m.files.read m.cwd (Path.normalise path) = .ok (encodeFile entries)) :
    loadedFrom m path = .ok entries ↔ ∀ entry ∈ entries, IsClean entry.toList := by
  rw [loadedFrom_iff_of_read h.no_nul hread, decodeFile_encodeFile_iff]

/-- **A history file is faithful exactly to clean entries.** Where a history file can be, a log can be
saved unless the system refuses the write, and nothing then keeps the next one from being saved.
Loading gives the same entries if and only if all of them are clean. All that is ever read from a
file is clean, so whoever has read it and saves it can load the same entries, and to save these again
leaves the bytes of the file as they are. -/
theorem save_faithful (hfile : IsFile m path) :
    (m.files.TakesAll → ∀ log : HistoryLog, ∃ saved after,
      log.save m path = (.ok saved, after)) ∧
    (∀ (log saved : HistoryLog) (after : Machine), log.save m path = (.ok saved, after) →
      IsFile after path ∧ (m.files.TakesAll → after.files.TakesAll) ∧
        (loadedFrom after path = .ok log.entries ↔
          ∀ entry ∈ log.entries, IsClean entry.toList)) ∧
    ∀ (m' : Machine) (source : String) (log loaded : HistoryLog) (mark : Bool) (n : Nat),
      log.load m' source mark = .ok (loaded, n) →
        ∃ read, loaded.entries = log.entries ++ read ∧ (∀ entry ∈ read, IsClean entry.toList) ∧
          ∀ (reader saved : HistoryLog) (after : Machine), reader.entries = read →
            reader.save m path = (.ok saved, after) →
              loadedFrom after path = .ok read ∧
              ∀ (again saved' : HistoryLog) (after' : Machine), again.entries = read →
                again.save after path = (.ok saved', after') →
                  after'.bytesAt (Path.normalise path) = after.bytesAt (Path.normalise path) := by
  refine ⟨?_, ?_, ?_⟩
  · intro htakes log
    obtain ⟨data, hdata⟩ := hfile.regular
    exact ⟨_, _, Prod.ext (save_ok hfile.no_nul hdata htakes log) rfl⟩
  · intro log saved after hsave
    obtain ⟨hafter, hread⟩ := hfile.of_save hsave
    obtain ⟨-, hwrite⟩ := of_save hsave
    exact ⟨hafter, Machine.takesAll_writeFile hwrite, hafter.loadedFrom_iff hread⟩
  · intro m' source log loaded mark n hload
    -- what was read is clean, so it is read back when it is saved
    obtain ⟨read, -, hentries, hclean⟩ := exists_loadable?_of_load hload
    refine ⟨read, hentries, hclean, ?_⟩
    rintro reader saved after rfl hsave
    obtain ⟨hafter, hread⟩ := hfile.of_save hsave
    refine ⟨(hafter.loadedFrom_iff hread).mpr hclean, ?_⟩
    intro again saved' after' hagain hsave'
    obtain ⟨-, hread'⟩ := hafter.of_save hsave'
    rw [Machine.bytesAt, Machine.bytesAt, hread, hread', hagain]

theorem isFile_notes : IsFile notes "h" where
  no_nul := by decide +kernel
  regular := ⟨_, hasBytes_notes⟩
  no_stream := isOrdinary_notes.descriptorNamed?_eq

/-- An entry that has a blank at its end does not come back as it was. -/
theorem save_faithful_notes :
    IsFile notes "h" ∧
    (∃ saved after, ({ entries := ["a", "b c"] } : HistoryLog).save notes "h" = (.ok saved, after) ∧
      loadedFrom after "h" = .ok ["a", "b c"]) ∧
    ∃ saved after, ({ entries := ["a", "b "] } : HistoryLog).save notes "h" = (.ok saved, after) ∧
      loadedFrom after "h" ≠ .ok ["a", "b "] := by
  obtain ⟨hsaves, hfaithful, -⟩ := save_faithful isFile_notes
  obtain ⟨saved, after, hsave⟩ := hsaves nofun { entries := ["a", "b c"] }
  obtain ⟨saved', after', hsave'⟩ := hsaves nofun { entries := ["a", "b "] }
  obtain ⟨-, -, hiff⟩ := hfaithful _ saved after hsave
  obtain ⟨-, -, hiff'⟩ := hfaithful _ saved' after' hsave'
  refine ⟨isFile_notes, ⟨saved, after, hsave, hiff.mpr (by decide +kernel)⟩, saved', after', hsave',
    ?_⟩
  intro hloaded
  exact absurd (hiff'.mp hloaded) (by decide +kernel)

/-! ### A device -/

/-- A device takes a clean entry without a complaint and does not give it back. -/
theorem save_device :
    (∀ entry ∈ ["a"], IsClean entry.toList) ∧
    ∃ saved after,
      ({ entries := ["a"] } : HistoryLog).save swallowing "/dev/null" = (.ok saved, after) ∧
        loadedFrom after "/dev/null" = .ok [] := by
  obtain ⟨after, hsave, hread⟩ := save_swallowing { entries := ["a"] }
  refine ⟨by decide +kernel, _, after, hsave, loadedFrom_eq_ok_iff.mpr ?_⟩
  rw [loadable?, if_neg (by decide +kernel), hread]
  rfl

end HistoryLog

end CommandShell

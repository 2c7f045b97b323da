import CommandShell.Proofs.History.Faithful
import CommandShell.Proofs.Line.Cutting

/-!
# Appending to a history file

Appending writes what is pending behind what the file has, and does not look at how that ends. Every
entry is written with a line feed behind it, so entries that were written are always apart. The text
that was there before may leave its last line open, though, and then this line and the first new
entry are one line to whoever reads the file.

So a text is seen as the entries of its ended lines and an open line (`entriesOf_eq`), and the first
new entry joins the open line (`entriesOf_append_textOf`). Nothing is lost by that exactly if the
open line is blank. A text that ends with a line feed, as all do that were written by a log, has an
empty one (`openLine_eq_nil`).
-/

namespace CommandShell

open CommandShell.Host CommandShell.Text

namespace History

/-! ## The open line of a text -/

/-- What comes after the last line end of a text. -/
def openLine (text : List Char) : List Char :=
  (lines text).getLastD []

def endedEntries (text : List Char) : List (List Char) :=
  ((lines text).dropLast.map trim).filter fun entry ↦ !entry.isEmpty

theorem lines_eq (text : List Char) : lines text = (lines text).dropLast ++ [openLine text] := by
  have hne : lines text ≠ [] := splitAt_ne_nil '\n' _
  rw [openLine, List.getLastD_eq_getLast?, List.getLast?_eq_some_getLast hne, Option.getD_some,
    List.dropLast_concat_getLast hne]

theorem openLine_eq_nil {text : List Char} (h : text = [] ∨ text.getLast? = some '\n') :
    openLine text = [] := by
  obtain rfl | hfeed := h
  · rfl
  · obtain ⟨front, hfront⟩ := List.getLast?_eq_some_iff.mp (getLast?_unifyLineEnds hfeed)
    have hne : splitAt '\n' front ≠ [] := splitAt_ne_nil '\n' front
    have hcut : splitAt '\n' (front ++ ['\n']) = _ :=
      splitAt_append (List.dropLast_concat_getLast hne).symm rfl
    rw [openLine, lines, hfront, hcut, List.getLastD_eq_getLast?, List.getLast?_append]
    rfl

theorem entriesOf_eq (text : List Char) :
    entriesOf text = endedEntries text ++
      if trim (openLine text) = [] then [] else [trim (openLine text)] := by
  have hopen : (if trim (openLine text) = [] then [] else [trim (openLine text)]) =
      [trim (openLine text)].filter fun entry ↦ !entry.isEmpty := by
    split_ifs with hblank
    · rw [hblank]
      rfl
    · rw [List.filter_eq_self.mpr]
      simpa using hblank
  rw [hopen, endedEntries, ← List.filter_append, ← List.map_singleton, ← List.map_append,
    ← lines_eq, entriesOf]

/-- **The first entry that is written behind a text joins its open line.** -/
theorem entriesOf_append_textOf (text : List Char) {first : List Char} {rest : List (List Char)}
    (h : ∀ entry ∈ first :: rest, IsClean entry) :
    entriesOf (text ++ textOf (first :: rest)) =
      endedEntries text ++ trim (openLine text ++ first) :: rest := by
  obtain ⟨hfirst, hrest⟩ := List.forall_mem_cons.mp h
  obtain ⟨c, cs, rfl⟩ := List.exists_cons_of_ne_nil hfirst.1
  have hfeed : (textOf ((c :: cs) :: rest)).head? ≠ some '\n' := by
    rw [textOf_cons, List.cons_append, List.head?_cons, ne_eq, Option.some.injEq]
    rintro rfl
    exact hfirst.2.2.1 List.mem_cons_self
  have hlines : lines (text ++ textOf ((c :: cs) :: rest)) =
      (lines text).dropLast ++ (openLine text ++ c :: cs) :: (rest ++ [[]]) := by
    have hreturn := notMem_textOf fun entry hentry ↦ (h entry hentry).2.2.2
    have hwritten := splitAt_textOf fun entry hentry ↦ (h entry hentry).2.2.1
    rw [lines, unifyLineEnds_append hreturn hfeed]
    exact splitAt_append (lines_eq text) hwritten
  -- the joined line is not blank, since the entry is not
  have hjoined : trim (openLine text ++ c :: cs) ≠ [] := by
    intro hnil
    rw [trim_eq_nil_iff] at hnil
    have hblank := trim_eq_nil_iff.mpr fun d hd ↦ hnil d (List.mem_append_right _ hd)
    rw [hfirst.2.1] at hblank
    cases hblank
  have hwhole : ((rest ++ [[]]).map trim).filter (fun entry ↦ !entry.isEmpty) = rest := by
    have hread := entriesOf_textOf hrest
    rwa [entriesOf, lines, unifyLineEnds_of_notMem (notMem_textOf fun e he ↦ (hrest e he).2.2.2),
      splitAt_textOf fun e he ↦ (hrest e he).2.2.1] at hread
  rw [entriesOf, hlines, List.map_append, List.filter_append, List.map_cons, List.filter_cons,
    if_pos (by simpa using hjoined), hwhole, endedEntries]

/-- Entries that are written behind a text are read after those of the text exactly if the open line
is blank. -/
theorem entriesOf_append_textOf_iff (text : List Char) {entries : List (List Char)}
    (h : ∀ entry ∈ entries, IsClean entry) :
    entriesOf (text ++ textOf entries) = entriesOf text ++ entries ↔
      entries = [] ∨ trim (openLine text) = [] := by
  cases entries with
  | nil => simp
  | cons first rest =>
    rw [entriesOf_append_textOf text h, entriesOf_eq, List.append_assoc, List.append_cancel_left_eq]
    constructor
    · intro heq
      refine .inr ?_
      by_contra hopen
      -- one entry is missing
      have hlength := congrArg List.length heq
      rw [if_neg hopen] at hlength
      simp at hlength
    · rintro (hnil | hblank)
      · cases hnil
      · rw [if_pos hblank, trim_blanks_append (trim_eq_nil_iff.mp hblank),
          (h first List.mem_cons_self).2.1]
        rfl

/-! ## Files -/

theorem decodeFile_append_encodeFile (text : String) (entries : List String) :
    decodeFile (text.toUTF8 ++ encodeFile entries) =
      some ((entriesOf (text.toList ++ textOf (entries.map String.toList))).map String.ofList) := by
  have hbytes : text.toUTF8 ++ encodeFile entries =
      (text ++ String.ofList (textOf (entries.map String.toList))).toUTF8 := by
    simp [encodeFile, String.toUTF8_eq_toByteArray]
  rw [hbytes, decodeFile, decode?_toUTF8, Option.map_some, String.toList_append,
    String.toList_ofList]

theorem decodeFile_toUTF8 (text : String) :
    decodeFile text.toUTF8 = some ((entriesOf text.toList).map String.ofList) := by
  rw [decodeFile, decode?_toUTF8, Option.map_some]

theorem decodeFile_append_encodeFile_iff (text : String) {old entries : List String}
    (hold : decodeFile text.toUTF8 = some old) (hclean : ∀ entry ∈ entries, IsClean entry.toList) :
    decodeFile (text.toUTF8 ++ encodeFile entries) = some (old ++ entries) ↔
      entries = [] ∨ trim (openLine text.toList) = [] := by
  have hback : (entries.map String.toList).map String.ofList = entries := by simp
  rw [decodeFile_toUTF8, Option.some.injEq] at hold
  subst hold
  rw [decodeFile_append_encodeFile, Option.some.injEq]
  nth_rewrite 2 [← hback]
  rw [← List.map_append, Line.map_ofList_inj,
    entriesOf_append_textOf_iff _ (List.forall_mem_map.mpr hclean), List.map_eq_nil_iff]

end History

namespace HistoryLog

open CommandShell.History

variable {m : Machine} {path : String}

/-- Where a history file can be read, its bytes are those that it is appended to with. -/
theorem IsFile.hasBytes (h : IsFile m path) {data : ByteArray}
    (hread : m.files.read m.cwd (Path.normalise path) = .ok data) :
    m.HasBytes (Path.normalise path) data ∧ m.target? (Path.normalise path) ≠ none := by
  obtain ⟨there, hthere⟩ := h.regular
  have htarget : m.target? (Path.normalise path) ≠ none := by
    cases hfind : m.files.find m.cwd (Path.normalise path) with
    | error fault =>
      rw [FileSystem.read, hfind] at hread
      cases hread
    | ok id =>
      simp only [Machine.target?, h.no_stream, hfind]
      exact Option.some_ne_none _
  have hsame := hthere.read_eq h.no_stream htarget
  obtain rfl := Except.ok.inj (hsame.symm.trans hread)
  exact ⟨hthere, htarget⟩

/-- What was pending is behind what the file had, once it was appended. -/
theorem IsFile.of_appendUnsaved (h : IsFile m path) {data : ByteArray}
    (hread : m.files.read m.cwd (Path.normalise path) = .ok data) {log saved : HistoryLog}
    {after : Machine} (happend : log.appendUnsaved m path = (.ok saved, after)) :
    after.files.read after.cwd (Path.normalise path) = .ok (data ++ encodeFile log.pending) := by
  obtain ⟨hpending, -, rfl⟩ | ⟨-, hwrite⟩ := HistoryLog.of_appendUnsaved happend
  · rw [hpending, encodeFile_nil, ByteArray.append_empty, hread]
  · obtain ⟨hbytes, -⟩ := h.hasBytes hread
    obtain ⟨-, hafter, hthere, hstream⟩ := hbytes.of_writeFile hwrite
    rw [hafter.read_eq (hstream.trans h.no_stream) hthere, if_pos rfl]

/-- Where the system refuses nothing, it can always be appended. -/
theorem IsFile.exists_appendUnsaved (h : IsFile m path) (htakes : m.files.TakesAll)
    (log : HistoryLog) : ∃ saved after, log.appendUnsaved m path = (.ok saved, after) := by
  by_cases hpending : log.pending = []
  · refine ⟨log, m, ?_⟩
    rw [HistoryLog.appendUnsaved, hpending]
    rfl
  · obtain ⟨data, hdata⟩ := h.regular
    obtain ⟨after, happend, -⟩ :=
      HistoryLog.exists_appendUnsaved h.no_nul hdata htakes log hpending
    exact ⟨_, after, happend⟩

/-- **Appending keeps what a file holds exactly if the file leaves no line open.** What is pending
of a log can be appended to every history file that has a text, unless the system refuses the write.
If nothing is pending or the open line of the text is blank, the file then gives the entries that it
gave before and after them those that were pending. Otherwise the last of the old entries and the
first of the new ones are gone, and one entry made of both stands in their place. -/
theorem appendUnsaved_keeps_iff (hfile : IsFile m path) {text : String}
    (hread : m.files.read m.cwd (Path.normalise path) = .ok text.toUTF8) {log : HistoryLog}
    (hclean : ∀ entry ∈ log.pending, IsClean entry.toList) :
    (m.files.TakesAll → ∃ saved after, log.appendUnsaved m path = (.ok saved, after)) ∧
    ∃ before, loadedFrom m path = .ok before ∧
      ∀ saved after, log.appendUnsaved m path = (.ok saved, after) →
        (loadedFrom after path = .ok (before ++ log.pending) ↔
          log.pending = [] ∨ trim (openLine text.toList) = []) ∧
        ∀ first rest, log.pending = first :: rest →
          loadedFrom after path = .ok ((endedEntries text.toList).map String.ofList ++
            String.ofList (trim (openLine text.toList ++ first.toList)) :: rest) := by
  have hbefore := (loadedFrom_iff_of_read hfile.no_nul hread).mpr (decodeFile_toUTF8 text)
  refine ⟨fun htakes ↦ hfile.exists_appendUnsaved htakes log, _, hbefore, ?_⟩
  intro saved after happend
  have hafter := hfile.of_appendUnsaved hread happend
  constructor
  · rw [loadedFrom_iff_of_read hfile.no_nul hafter]
    exact decodeFile_append_encodeFile_iff text (decodeFile_toUTF8 text) hclean
  · intro first rest hpending
    have hentries := List.forall_mem_map.mpr hclean
    rw [hpending, List.map_cons] at hentries
    rw [loadedFrom_iff_of_read hfile.no_nul hafter, decodeFile_append_encodeFile, hpending,
      List.map_cons, entriesOf_append_textOf _ hentries, List.map_append, List.map_cons]
    simp

/-- The file of `notes` ends its only line, so the new entries come after it. -/
theorem appendUnsaved_keeps_iff_notes :
    IsFile notes "h" ∧
    notes.files.read notes.cwd (Path.normalise "h") = .ok "x\n".toUTF8 ∧
    (∀ entry ∈ ({ entries := ["a", "b"] } : HistoryLog).pending, IsClean entry.toList) ∧
    ∃ saved after,
      ({ entries := ["a", "b"] } : HistoryLog).appendUnsaved notes "h" = (.ok saved, after) ∧
        loadedFrom after "h" = .ok ["x", "a", "b"] := by
  have hclean : ∀ entry ∈ ({ entries := ["a", "b"] } : HistoryLog).pending,
      IsClean entry.toList := by decide +kernel
  obtain ⟨happends, before, hbefore, hkeeps⟩ :=
    appendUnsaved_keeps_iff isFile_notes read_notes hclean
  have hx : loadedFrom notes "h" = .ok ["x"] :=
    (loadedFrom_iff_of_read isFile_notes.no_nul read_notes).mpr (by decide +kernel)
  obtain rfl := Except.ok.inj (hbefore.symm.trans hx)
  obtain ⟨saved, after, happend⟩ := happends nofun
  obtain ⟨hiff, -⟩ := hkeeps saved after happend
  exact ⟨isFile_notes, read_notes, hclean, saved, after, happend,
    hiff.mpr (.inr (by decide +kernel))⟩

/-! ### A file that leaves a line open -/

/-- A machine with a file whose only line is not ended. -/
def unended : Machine where
  files := { nodes := #[.directory 0 [("h", 1)], .file 0o644 "x".toUTF8] }

theorem find_unended : unended.files.find unended.cwd (Path.normalise "h") = .ok 1 :=
  find_h rfl nofun

theorem isFile_unended : IsFile unended "h" where
  no_nul := by decide
  regular := ⟨_, (Machine.LeadsTo.of_find find_unended rfl).hasBytes⟩
  no_stream := (Machine.IsOrdinary.of_find find_unended rfl rfl).descriptorNamed?_eq

theorem takesAll_unended : unended.files.TakesAll := nofun

/-- An entry that is appended to it does not come back, and neither does the one that was there. -/
theorem appendUnsaved_unended :
    IsFile unended "h" ∧ loadedFrom unended "h" = .ok ["x"] ∧
    (∀ entry ∈ ({ entries := ["a"] } : HistoryLog).pending, IsClean entry.toList) ∧
    ∃ saved after,
      ({ entries := ["a"] } : HistoryLog).appendUnsaved unended "h" = (.ok saved, after) ∧
        loadedFrom after "h" = .ok ["xa"] := by
  have hread : unended.files.read unended.cwd (Path.normalise "h") = .ok "x".toUTF8 := by
    rw [FileSystem.read, find_unended]
    rfl
  obtain ⟨saved, after, happend⟩ :=
    isFile_unended.exists_appendUnsaved takesAll_unended { entries := ["a"] }
  have hafter := isFile_unended.of_appendUnsaved hread happend
  have hnul := isFile_unended.no_nul
  refine ⟨isFile_unended, ?_, by decide +kernel, saved, after, happend, ?_⟩
  · exact (loadedFrom_iff_of_read hnul hread).mpr (by decide +kernel)
  · exact (loadedFrom_iff_of_read hnul hafter).mpr (by decide +kernel)

end HistoryLog

end CommandShell

import CommandShell.History.Format
import CommandShell.Proofs.Text.Lines

/-!
# Clean entries

Two things become entries of a log: lines of a history file, and command lines. Both are trimmed and
not empty when they do, and neither has a line end in it, so both are clean. A list of clean entries
is what is read back after it was written (`decodeFile_encodeFile`): every one of them is a line of
the file, and no line is blank or has anything to be trimmed.
-/

namespace CommandShell.History

open CommandShell.Text

/-! ## What is clean -/

theorem isClean_trim {cs : List Char} (hne : trim cs ≠ []) (hfeed : '\n' ∉ cs)
    (hreturn : '\r' ∉ cs) : IsClean (trim cs) := by
  refine ⟨hne, trim_trim cs, ?_, ?_⟩
  · intro hmem
    exact hfeed (mem_of_mem_trim hmem)
  · intro hmem
    exact hreturn (mem_of_mem_trim hmem)

theorem isClean_of_mem_entriesOf {text entry : List Char} (h : entry ∈ entriesOf text) :
    IsClean entry := by
  obtain ⟨hmem, hne⟩ := List.mem_filter.mp h
  obtain ⟨line, hline, rfl⟩ := List.mem_map.mp hmem
  obtain ⟨hfeed, hreturn⟩ := notMem_of_mem_lines hline
  exact isClean_trim (by simpa using hne) hfeed hreturn

theorem isClean_of_mem_decodeFile {bytes : ByteArray} {entries : List String}
    (h : decodeFile bytes = some entries) {entry : String} (hentry : entry ∈ entries) :
    IsClean entry.toList := by
  obtain ⟨text, -, rfl⟩ := Option.map_eq_some_iff.mp h
  obtain ⟨cs, hcs, rfl⟩ := List.mem_map.mp hentry
  rw [String.toList_ofList]
  exact isClean_of_mem_entriesOf hcs

/-! ## Writing and reading -/

@[simp] theorem textOf_nil : textOf [] = [] := rfl

theorem textOf_cons (entry : List Char) (entries : List (List Char)) :
    textOf (entry :: entries) = entry ++ '\n' :: textOf entries := by
  simp [textOf]

theorem textOf_append (entries more : List (List Char)) :
    textOf (entries ++ more) = textOf entries ++ textOf more :=
  List.flatMap_append

theorem splitAt_textOf {entries : List (List Char)} (h : ∀ entry ∈ entries, '\n' ∉ entry) :
    splitAt '\n' (textOf entries) = entries ++ [[]] := by
  induction entries with
  | nil => rfl
  | cons entry entries ih =>
    obtain ⟨hentry, hrest⟩ := List.forall_mem_cons.mp h
    rw [textOf_cons, splitAt_append_cons hentry, ih hrest, List.cons_append]

theorem notMem_textOf {entries : List (List Char)} (h : ∀ entry ∈ entries, '\r' ∉ entry) :
    '\r' ∉ textOf entries := by
  intro hmem
  obtain ⟨entry, hentry, hmem⟩ := List.mem_flatMap.mp hmem
  rcases List.mem_append.mp hmem with hmem | hmem
  · exact h entry hentry hmem
  · cases List.mem_singleton.mp hmem

theorem entriesOf_textOf {entries : List (List Char)} (h : ∀ entry ∈ entries, IsClean entry) :
    entriesOf (textOf entries) = entries := by
  have hlines : lines (textOf entries) = entries ++ [[]] := by
    rw [lines, unifyLineEnds_of_notMem (notMem_textOf fun e he ↦ (h e he).2.2.2)]
    exact splitAt_textOf fun e he ↦ (h e he).2.2.1
  have htrim : entries.map trim = entries := by
    rw [List.map_congr_left (g := id) fun e he ↦ (h e he).2.1, List.map_id]
  have hkeep : entries.filter (fun entry ↦ !entry.isEmpty) = entries := by
    refine List.filter_eq_self.mpr fun e he ↦ ?_
    simpa using (h e he).1
  rw [entriesOf, hlines, List.map_append, htrim, List.filter_append, hkeep]
  simp [trim_nil]

/-- **Clean entries survive a file.** What is read is what was written. -/
theorem decodeFile_encodeFile {entries : List String}
    (h : ∀ entry ∈ entries, IsClean entry.toList) :
    decodeFile (encodeFile entries) = some entries := by
  have hclean : ∀ cs ∈ entries.map String.toList, IsClean cs := by
    intro cs hcs
    obtain ⟨entry, hentry, rfl⟩ := List.mem_map.mp hcs
    exact h entry hentry
  rw [decodeFile, encodeFile, decode?_toUTF8, Option.map_some, String.toList_ofList,
    entriesOf_textOf hclean, List.map_map]
  simp

theorem encodeFile_nil : encodeFile [] = ByteArray.empty := rfl

theorem encodeFile_append (entries more : List String) :
    encodeFile (entries ++ more) = encodeFile entries ++ encodeFile more := by
  rw [encodeFile, encodeFile, encodeFile, List.map_append, textOf_append, String.ofList_append]
  simp [String.toUTF8_eq_toByteArray]

end CommandShell.History

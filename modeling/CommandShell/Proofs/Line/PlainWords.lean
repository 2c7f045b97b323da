import CommandShell.Proofs.Line.Cutting
import CommandShell.Proofs.Line.Numbers
import CommandShell.Proofs.Line.SyntaxErrors

/-!
# Texts that name themselves

A line can be a command of one word in many ways, since quotes and backslashes stand for something
else than themselves. If the word is to be the line itself, there is one way only: all its
characters are plain (`parse_self_iff`).

That plain characters are enough was seen before (`stands_of_isPlain`). That they are needed is a
matter of counting. No character of a text puts more than one into its words (`Scan.size_step_le`),
and a blank, a quote or a backslash outside quotes puts none (`Scan.size_step_of_bare`). So the
first of them that is met leaves fewer characters in the words than there are in the text.
-/

namespace CommandShell.Line

open CommandShell.Text

/-! ## How much is in the words -/

namespace Scan

/-- How many characters are in the words so far. -/
def written (s : Scan) : Nat :=
  s.done.flatten.length + (s.word.getD []).length

/-- How many characters there are in the words if the text ends here; a backslash that waits inside
double quotes will be one of them. -/
def size (s : Scan) : Nat :=
  s.written + if s.mode = .doubleEscaped then 1 else 0

@[simp] theorem written_touch (s : Scan) : s.touch.written = s.written := rfl

@[simp] theorem written_push (s : Scan) (c : Char) : (s.push c).written = s.written + 1 := rfl

@[simp] theorem written_close (s : Scan) : s.close.written = s.written := by
  obtain ⟨mode, word, done⟩ := s
  cases word with
  | none => rfl
  | some w => simp [close, written, Nat.add_comm]

theorem length_flatten_finish (s : Scan) : s.finish.flatten.length = s.size := by
  have hclosed (t : Scan) : t.close.done.reverse.flatten.length = t.written := by
    rw [← written_close, written, (List.reverse_perm _).flatten.length_eq]
    cases hword : t.word <;> simp [close, hword]
  rw [finish, hclosed, size]
  split_ifs
  · exact written_push s _
  · rfl

theorem written_take_le (s : Scan) (c : Char) :
    (s.take c).written + (if s.mode.next c = .doubleEscaped then 1 else 0) ≤ s.size + 1 := by
  cases hmode : s.mode with
  | bare =>
    simp only [take, hmode, size, Mode.next]
    split_ifs <;> simp_all
  | escaped =>
    simp [take, hmode, size, Mode.next]
  | single =>
    simp only [take, hmode, size, Mode.next]
    split_ifs <;> simp_all
  | double =>
    simp only [take, takeDouble, hmode, size, Mode.next, Mode.inDouble]
    split_ifs <;> simp_all [isEscapable]
  | doubleEscaped =>
    -- a backslash that escapes nothing is written with the character after it
    simp only [take, takeDouble, hmode, size, Mode.next, Mode.inDouble]
    split_ifs <;> simp_all [isEscapable]

/-- **A character puts at most one character into the words.** -/
theorem size_step_le (s : Scan) (c : Char) : (s.step c).size ≤ s.size + 1 :=
  s.written_take_le c

theorem size_foldl_le (s : Scan) (cs : List Char) :
    (cs.foldl step s).size ≤ s.size + cs.length := by
  induction cs generalizing s with
  | nil => exact Nat.le_refl _
  | cons c cs ih =>
    have hstep := s.size_step_le c
    have hrest := ih (s.step c)
    rw [List.foldl_cons, List.length_cons]
    omega

/-- A blank, a quote or a backslash outside quotes puts nothing into the words. -/
theorem size_step_of_bare {s : Scan} (hs : s.mode = .bare) {c : Char}
    (hc : isBlank c = true ∨ c ∈ ['\\', '\'', '"']) : (s.step c).size = s.size := by
  have hnext : s.mode.next c ≠ .doubleEscaped := by
    simp only [hs, Mode.next]
    split_ifs <;> simp
  have htake : (s.take c).written = s.written := by
    simp only [take, hs]
    split_ifs <;> simp_all
  calc (s.step c).size
      = (s.take c).written + (if s.mode.next c = .doubleEscaped then 1 else 0) := rfl
    _ = s.written + 0 := by rw [htake, if_neg hnext]
    _ = s.size := by rw [size, hs, if_neg (by simp)]

end Scan

theorem length_flatten_words_le (cs : List Char) : (words cs).flatten.length ≤ cs.length := by
  have hle := Scan.size_foldl_le {} cs
  rw [show ({} : Scan).size = 0 from rfl, Nat.zero_add] at hle
  rwa [words, Scan.length_flatten_finish]

theorem length_flatten_words_lt {before : List Char} {c : Char} (after : List Char)
    (hbare : Mode.bare.after before = .bare) (hc : isBlank c = true ∨ c ∈ ['\\', '\'', '"']) :
    (words (before ++ c :: after)).flatten.length < (before ++ c :: after).length := by
  have hbefore := length_flatten_words_le before
  rw [words, Scan.length_flatten_finish] at hbefore
  have hstep : ((Scan.of before).step c).size = (Scan.of before).size :=
    Scan.size_step_of_bare (by rw [Scan.mode_of, hbare]) hc
  have hafter := ((Scan.of before).step c).size_foldl_le after
  rw [words, Scan.length_flatten_finish, Scan.of_append, List.foldl_cons, List.length_append,
    List.length_cons]
  omega

/-! ## Texts that are read as themselves -/

theorem isPlain_iff {c : Char} : IsPlain c ↔ isBlank c = false ∧ c ∉ ['\\', '\'', '"', '|'] :=
  ⟨fun h ↦ ⟨h.not_blank, h.not_special⟩, fun ⟨hblank, hspecial⟩ ↦ ⟨hblank, hspecial⟩⟩

instance (c : Char) : Decidable (IsPlain c) :=
  decidable_of_iff' _ isPlain_iff

theorem cases_of_not_isPlain {c : Char} (h : ¬IsPlain c) :
    c = '|' ∨ isBlank c = true ∨ c ∈ ['\\', '\'', '"'] := by
  rw [isPlain_iff] at h
  simp only [List.mem_cons, List.not_mem_nil, or_false] at h ⊢
  grind

theorem exists_first_not_isPlain {cs : List Char} (h : ¬∀ c ∈ cs, IsPlain c) :
    ∃ before c after, cs = before ++ c :: after ∧ (∀ b ∈ before, IsPlain b) ∧ ¬IsPlain c := by
  cases hfind : cs.find? fun c ↦ decide ¬IsPlain c with
  | none =>
    refine absurd (fun c hc ↦ ?_) h
    simpa using List.find?_eq_none.mp hfind c hc
  | some c =>
    obtain ⟨hc, before, after, hsplit, hbefore⟩ := List.find?_eq_some_iff_append.mp hfind
    exact ⟨before, c, after, hsplit, fun b hb ↦ by simpa using hbefore b hb, by simpa using hc⟩

/-- **A text in one segment is its own only word exactly if it is plain.** -/
theorem words_eq_self_iff {cs : List Char} (hne : cs ≠ []) :
    ¬HasPipe cs ∧ words cs = [cs] ↔ ∀ c ∈ cs, IsPlain c := by
  constructor
  · rintro ⟨hpipe, hwords⟩
    by_contra hnot
    obtain ⟨before, c, after, rfl, hbefore, hc⟩ := exists_first_not_isPlain hnot
    -- nothing is open behind plain characters
    have hbare := (whole_of_isPlain hbefore).closed
    obtain rfl | hspecial := cases_of_not_isPlain hc
    · exact hpipe ⟨before, after, rfl, hbare⟩
    · have hlt := length_flatten_words_lt after hbare hspecial
      rw [hwords, List.flatten_singleton] at hlt
      exact absurd hlt (Nat.lt_irrefl _)
  · intro h
    exact ⟨(segments_eq_singleton_iff cs).mp (whole_of_isPlain h).segments,
      (stands_of_isPlain hne h).words⟩

/-! ## Lines that name themselves -/

/-- Words from which no redirection is taken out are all left. -/
theorem extract_fst_of_empty {ws : List String} (h : (extract ws).2 = {}) :
    (extract ws).1 = ws := by
  induction ws using extract.induct with
  | case1 => rfl
  | case2 word => rfl
  | case3 word next rest op hop ih =>
    rw [extract_operator hop] at h
    have hempty := congrArg Redirection.isEmpty h
    rw [Redirection.isEmpty_merge, Redirection.isEmpty_set] at hempty
    cases hempty
  | case4 word next rest hop ih =>
    rw [extract_cons_of_plain hop] at h ⊢
    exact congrArg (word :: ·) (ih h)

theorem parse_eq_of_trim_eq {line line' : String} (h : trim line.toList = trim line'.toList) :
    parse line = parse line' := by
  rw [parse, parse, h]

/-- What is known of a text that is parsed to one word: it is in one segment, and there is no other
word in it. -/
theorem words_of_parse {line name : String} {parsed : ParsedLine} (h : parse line = .ok parsed)
    (hcommands : parsed.commands = [⟨name, []⟩]) (hredirection : parsed.redirection = {}) :
    trim line.toList ≠ [] ∧ ¬HasPipe (trim line.toList) ∧
      words (trim line.toList) = [name.toList] := by
  have hne : trim line.toList ≠ [] := by
    intro hblank
    rw [parse, hblank] at h
    cases h
    cases hcommands
  obtain ⟨-, hargv, hmerged⟩ := wordsLeft_of_parse h hne
  have hpipe : ¬HasPipe (trim line.toList) := by
    rw [← length_segments_eq_one_iff, ← List.length_map wordsLeft, ← hargv, hcommands]
    rfl
  rw [hcommands, segments_of_not_hasPipe hpipe] at hargv
  rw [hredirection, segments_of_not_hasPipe hpipe] at hmerged
  have hempty : redirected (trim line.toList) = {} :=
    (Redirection.merge_empty _).symm.trans hmerged.symm
  have hleft : wordsLeft (trim line.toList) = [name] := (List.singleton_inj.mp hargv).symm
  rw [wordsLeft, extract_fst_of_empty hempty] at hleft
  obtain ⟨word, hword, rfl⟩ := List.map_eq_singleton_iff.mp hleft
  exact ⟨hne, hpipe, by rw [hword, String.toList_ofList]⟩

/-- **A name with blanks behind it is parsed to itself exactly if it is plain.** -/
theorem parse_self_iff {name trail : String} (htrail : ∀ c ∈ trail.toList, isBlank c = true) :
    (∃ parsed, parse (name ++ trail) = .ok parsed ∧ parsed.commands = [⟨name, []⟩] ∧
        parsed.redirection = {}) ↔
      name ≠ "" ∧ ∀ c ∈ name.toList, IsPlain c := by
  have htrim : trim (name ++ trail).toList = trim name.toList := by
    rw [String.toList_append, trim_append_blanks _ htrail]
  constructor
  · rintro ⟨parsed, hparse, hcommands, hredirection⟩
    obtain ⟨hne, hpipe, hwords⟩ := words_of_parse hparse hcommands hredirection
    rw [htrim] at hne hpipe hwords
    -- as many characters as the name has are in the trimmed name, so nothing was trimmed away
    have hle := length_flatten_words_le (trim name.toList)
    rw [hwords, List.flatten_singleton] at hle
    have hself : trim name.toList = name.toList := (isInfix_trim _).eq_of_length_le hle
    rw [hself] at hne hpipe hwords
    exact ⟨mt String.toList_eq_nil_iff.mpr hne, (words_eq_self_iff hne).mp ⟨hpipe, hwords⟩⟩
  · rintro ⟨hname, hplain⟩
    have hstands := stands_of_isPlain (mt String.toList_eq_nil_iff.mp hname) hplain
    have hparse : parse name = .ok { raw := name, commands := [⟨name, []⟩] } := by
      have htokens : tokenize name = [name] := by
        rw [tokenize, hstands.words, List.map_singleton, String.ofList_toList]
      rw [parse_of_whole hstands.tight hstands.whole, htokens]
      rfl
    exact ⟨_, (parse_eq_of_trim_eq htrim).trans hparse, rfl, rfl⟩

end CommandShell.Line

import CommandShell.Proofs.Line.RoundTrip
import CommandShell.Proofs.Text.Lines

/-!
# Syntax errors

A line is refused if one of its segments has no word left once its redirections are taken out.
There are two such errors, told apart by whether the line has a pipe: a pipe with nothing to one
side of it is unexpected, and a line that consists of redirections lacks its command.

The parser does not look for the pipe. It goes by the number of segments and by whether anything is
redirected, and these two do not cover every line: a backslash alone is one segment, it redirects
nothing, and as the word that it begins never comes it stands for no word at all. That line is
refused for a pipe that it does not have, and it is the only one. For this we need to know which
texts have no word (`words_cons_eq_nil_iff`), which words are all taken out
(`extract_fst_eq_nil_iff`), and which texts are one segment (`length_segments_eq_one_iff`).
-/

namespace CommandShell.Line

open CommandShell.Text

/-! ## Texts without a word -/

namespace Scan

/-- A word is finished or open. -/
def Begun (s : Scan) : Prop :=
  s.word ≠ none ∨ s.done ≠ []

theorem begun_push (s : Scan) (c : Char) : (s.push c).Begun :=
  .inl (Option.some_ne_none _)

theorem Begun.close {s : Scan} (h : s.Begun) : s.close.Begun := by
  obtain ⟨mode, word, done⟩ := s
  cases word with
  | none => exact h
  | some w => exact .inr (List.cons_ne_nil _ _)

theorem Begun.takeDouble {s : Scan} (h : s.Begun) (c : Char) : (s.takeDouble c).Begun := by
  rw [Scan.takeDouble]
  split_ifs
  · exact h
  · exact begun_push s c

theorem Begun.take {s : Scan} (h : s.Begun) (c : Char) : (s.take c).Begun := by
  rw [Scan.take]
  split
  · split_ifs
    · exact h
    · exact .inl (Option.some_ne_none _)
    · exact h.close
    · exact begun_push s c
  · exact begun_push s c
  · split_ifs
    · exact h
    · exact begun_push s c
  · exact h.takeDouble c
  · split_ifs
    · exact begun_push s c
    · exact (begun_push s '\\').takeDouble c

theorem Begun.foldl {s : Scan} (h : s.Begun) (cs : List Char) : (cs.foldl step s).Begun := by
  induction cs generalizing s with
  | nil => exact h
  | cons c cs ih => exact ih (h.take c)

theorem Begun.finish {s : Scan} (h : s.Begun) : s.finish ≠ [] := by
  have hclosed : ∀ t : Scan, t.Begun → t.close.done ≠ [] := by
    intro t ht
    obtain ⟨mode, word, done⟩ := t
    cases word with
    | none => exact ht.resolve_left (· rfl)
    | some w => exact List.cons_ne_nil _ _
  rw [Scan.finish, ne_eq, List.reverse_eq_nil_iff]
  apply hclosed
  split_ifs
  · exact begun_push s '\\'
  · exact h

end Scan

/-- A text that begins with something else than a blank has a word, unless it is a backslash and
nothing more. -/
theorem words_cons_eq_nil_iff {c : Char} (hc : isBlank c = false) (cs : List Char) :
    words (c :: cs) = [] ↔ c = '\\' ∧ cs = [] := by
  constructor
  · intro hnil
    have hnot : ∀ ds es, c :: cs = ds ++ es → ¬(Scan.of ds).Begun := by
      intro ds es hsplit hbegun
      rw [words, hsplit, Scan.of_append] at hnil
      exact (hbegun.foldl es).finish hnil
    by_cases hback : c = '\\'
    · subst hback
      refine ⟨rfl, ?_⟩
      cases cs with
      | nil => rfl
      | cons d ds =>
        -- the character after the backslash is part of a word
        exact absurd (Scan.begun_push _ d) (hnot ['\\', d] ds rfl)
    · refine absurd ?_ (hnot [c] cs rfl)
      have htake : (Scan.take {} c).Begun := by
        by_cases hquote : c = '\'' ∨ c = '"'
        · simp only [Scan.take, if_neg hback, if_pos hquote]
          exact .inl (Option.some_ne_none _)
        · simp only [Scan.take, if_neg hback, if_neg hquote, hc, Bool.false_eq_true, if_false]
          exact Scan.begun_push _ c
      exact htake
  · rintro ⟨rfl, rfl⟩
    rfl

theorem words_trim_eq_nil_iff {cs : List Char} (hne : trim cs ≠ []) :
    words (trim cs) = [] ↔ trim cs = ['\\'] := by
  obtain ⟨c, ds, hcons⟩ := List.exists_cons_of_ne_nil hne
  have hc : isBlank c = false := (tight_trim hne).2.1 c (by rw [hcons]; rfl)
  rw [hcons, words_cons_eq_nil_iff hc, List.cons.injEq]

/-! ## Words that are all taken out -/

/-- Words that are operators, each with its target, and nothing else. -/
inductive OnlyRedirections : List String → Prop
  | nil : OnlyRedirections []
  | cons {word : String} {op : Operator} (spells : Operator.ofWord? word = some op) (path : String)
      {rest : List String} (only : OnlyRedirections rest) : OnlyRedirections (word :: path :: rest)

/-- No word is left exactly of operators with their targets. -/
theorem extract_fst_eq_nil_iff (ws : List String) :
    (extract ws).1 = [] ↔ OnlyRedirections ws := by
  constructor
  · intro hnil
    induction ws using extract.induct with
    | case1 => exact .nil
    | case2 word => cases hnil
    | case3 word next rest op h ih =>
      rw [extract_operator h] at hnil
      exact .cons h next (ih hnil)
    | case4 word next rest h ih =>
      rw [extract_cons_of_plain h] at hnil
      cases hnil
  · intro honly
    induction honly with
    | nil => rfl
    | cons spells path only ih => rw [extract_operator spells, ih]

theorem Redirection.isEmpty_merge (a b : Redirection) :
    (a.merge b).isEmpty = (a.isEmpty && b.isEmpty) := by
  obtain ⟨aOutput, aErrors⟩ := a
  obtain ⟨bOutput, bErrors⟩ := b
  cases bOutput <;> cases bErrors <;> simp [merge, isEmpty]

theorem Redirection.isEmpty_set (r : Redirection) (op : Operator) (path : String) :
    (r.set op path).isEmpty = false := by
  obtain ⟨stream, append⟩ := op
  cases stream <;> simp [set, isEmpty]

theorem OnlyRedirections.isEmpty_extract {ws : List String} (h : OnlyRedirections ws) :
    (extract ws).2.isEmpty = ws.isEmpty := by
  cases h with
  | nil => rfl
  | cons spells path only =>
    rw [extract_operator spells, Redirection.isEmpty_merge, Redirection.isEmpty_set]
    rfl

theorem not_onlyRedirections_of_plain {ws : List String} (hne : ws ≠ [])
    (h : ∀ word ∈ ws, Operator.ofWord? word = none) : ¬OnlyRedirections ws := by
  intro honly
  cases honly with
  | nil => exact hne rfl
  | cons spells path only =>
    rw [h _ List.mem_cons_self] at spells
    cases spells

/-! ## Segments without a word -/

def wordsLeft (segment : List Char) : List String :=
  (extract ((words segment).map String.ofList)).1

def redirected (segment : List Char) : Redirection :=
  (extract ((words segment).map String.ofList)).2

/-- The error of a segment without a word. -/
def errorOf (alone : Bool) (segment : List Char) : ParseError :=
  if alone && !(redirected segment).isEmpty then .missingCommand else .unexpectedPipe

theorem parseSegment_eq (alone : Bool) (segment : List Char) :
    parseSegment alone segment =
      match wordsLeft segment with
      | [] => .error (errorOf alone segment)
      | name :: arguments => .ok (⟨name, arguments⟩, redirected segment) := by
  rw [parseSegment, wordsLeft, errorOf, redirected]
  generalize extract _ = found
  obtain ⟨argv, redirection⟩ := found
  cases argv <;> rfl

theorem parseSegments_eq_ok {texts : List (List Char)} (h : ∀ t ∈ texts, wordsLeft t ≠ []) :
    ∃ commands, (∀ alone, parseSegments alone texts =
        .ok (commands, mergeAll (texts.map redirected))) ∧
      commands.map Command.argv = texts.map wordsLeft := by
  have hrows : ∀ row ∈ texts.map fun t ↦ (words t).map String.ofList, (extract row).1 ≠ [] := by
    intro row hrow
    obtain ⟨t, ht, rfl⟩ := List.mem_map.mp hrow
    exact h t ht
  obtain ⟨commands, hparse, hargv⟩ := parseSegments_of_words hrows rfl
  rw [List.map_map] at hargv hparse
  exact ⟨commands, hparse, hargv⟩

/-- The first segment without a word decides what is wrong. -/
theorem parseSegments_eq_error (alone : Bool) {texts : List (List Char)}
    (h : ∃ t ∈ texts, wordsLeft t = []) :
    ∃ t ∈ texts, wordsLeft t = [] ∧ parseSegments alone texts = .error (errorOf alone t) := by
  induction texts with
  | nil =>
    obtain ⟨t, ht, -⟩ := h
    cases ht
  | cons text texts ih =>
    cases hleft : wordsLeft text with
    | nil =>
      refine ⟨text, List.mem_cons_self, hleft, ?_⟩
      rw [parseSegments, parseSegment_eq, hleft]
    | cons name arguments =>
      have hrest : ∃ t ∈ texts, wordsLeft t = [] := by
        obtain ⟨t, ht, hnil⟩ := h
        rcases List.mem_cons.mp ht with rfl | ht
        · rw [hleft] at hnil
          cases hnil
        · exact ⟨t, ht, hnil⟩
      obtain ⟨t, ht, hnil, hparse⟩ := ih hrest
      refine ⟨t, List.mem_cons_of_mem text ht, hnil, ?_⟩
      rw [parseSegments, parseSegment_eq, hleft]
      simp only [hparse]

theorem parse_of_ne {line : String} (hne : trim line.toList ≠ []) :
    parse line =
      match parseSegments ((segments (trim line.toList)).length == 1)
        (segments (trim line.toList)) with
      | .error e => .error e
      | .ok (commands, redirection) =>
        .ok { raw := trimString line, commands, redirection } := by
  unfold parse trimString
  generalize trim line.toList = text at hne ⊢
  cases text with
  | nil => exact absurd rfl hne
  | cons c cs => rfl

theorem parse_of_wordsLeft {line : String} (hne : trim line.toList ≠ [])
    (h : ∀ t ∈ segments (trim line.toList), wordsLeft t ≠ []) :
    ∃ commands, parse line = .ok {
        raw := trimString line
        commands
        redirection := mergeAll ((segments (trim line.toList)).map redirected) } ∧
      commands.map Command.argv = (segments (trim line.toList)).map wordsLeft := by
  obtain ⟨commands, hparse, hargv⟩ := parseSegments_eq_ok h
  refine ⟨commands, ?_, hargv⟩
  rw [parse_of_ne hne, hparse]

/-- Nothing else comes of a line that is not blank and not refused. -/
theorem wordsLeft_of_parse {line : String} {parsed : ParsedLine}
    (h : parse line = .ok parsed) (hne : trim line.toList ≠ []) :
    (∀ t ∈ segments (trim line.toList), wordsLeft t ≠ []) ∧
      parsed.commands.map Command.argv = (segments (trim line.toList)).map wordsLeft ∧
      parsed.redirection = mergeAll ((segments (trim line.toList)).map redirected) := by
  have hleft : ∀ t ∈ segments (trim line.toList), wordsLeft t ≠ [] := by
    intro t ht hnil
    obtain ⟨u, -, -, herror⟩ := parseSegments_eq_error
      ((segments (trim line.toList)).length == 1) ⟨t, ht, hnil⟩
    rw [parse_of_ne hne, herror] at h
    cases h
  obtain ⟨commands, hok, hargv⟩ := parse_of_wordsLeft hne hleft
  obtain rfl := Except.ok.inj (h.symm.trans hok)
  exact ⟨hleft, hargv, rfl⟩

theorem parse_of_hasPipe {line : String} (hne : trim line.toList ≠ [])
    (hpipe : HasPipe (trim line.toList))
    (h : ∃ t ∈ segments (trim line.toList), wordsLeft t = []) :
    parse line = .error .unexpectedPipe := by
  have halone : ((segments (trim line.toList)).length == 1) = false := by
    rw [beq_eq_false_iff_ne, ne_eq, length_segments_eq_one_iff, not_not]
    exact hpipe
  obtain ⟨t, -, -, hparse⟩ := parseSegments_eq_error false h
  rw [parse_of_ne hne, halone, hparse, errorOf]
  rfl

/-- A line without a pipe that has no word left consists of redirections, unless it is a backslash
that escapes nothing. -/
theorem parse_of_not_hasPipe {line : String} (hne : trim line.toList ≠ [])
    (hpipe : ¬HasPipe (trim line.toList)) (h : wordsLeft (trim line.toList) = []) :
    parse line =
      .error (if trim line.toList = ['\\'] then .unexpectedPipe else .missingCommand) := by
  have hempty : (redirected (trim line.toList)).isEmpty = true ↔ trim line.toList = ['\\'] := by
    have honly := (extract_fst_eq_nil_iff _).mp h
    rw [redirected, honly.isEmpty_extract, List.isEmpty_map, List.isEmpty_iff,
      words_trim_eq_nil_iff hne]
  rw [parse_of_ne hne, segments_of_not_hasPipe hpipe, parseSegments, parseSegment_eq, h]
  by_cases hback : trim line.toList = ['\\']
  · rw [if_pos hback, errorOf, hempty.mpr hback]
    rfl
  · rw [if_neg hback, errorOf, Bool.eq_false_iff.mpr fun h ↦ hback (hempty.mp h)]
    rfl

/-! ## Which lines are refused -/

/-- The two syntax errors of a text, as they are documented. -/
inductive IsSyntaxError (cs : List Char) : ParseError → Prop
  /-- A segment next to a pipe has no word left. -/
  | unexpectedPipe (pipe : HasPipe cs) {segment : List Char} (mem : segment ∈ segments cs)
      (none_left : wordsLeft segment = []) : IsSyntaxError cs .unexpectedPipe
  /-- There is no pipe, and the words are redirections with their targets. -/
  | missingCommand (no_pipe : ¬HasPipe cs) (nonempty : words cs ≠ [])
      (only : OnlyRedirections ((words cs).map String.ofList)) : IsSyntaxError cs .missingCommand

theorem IsSyntaxError.exists_segment {cs : List Char} {e : ParseError} (h : IsSyntaxError cs e) :
    ∃ t ∈ segments cs, wordsLeft t = [] := by
  cases h with
  | unexpectedPipe pipe mem none_left => exact ⟨_, mem, none_left⟩
  | missingCommand no_pipe nonempty only =>
    refine ⟨cs, ?_, (extract_fst_eq_nil_iff _).mpr only⟩
    rw [segments_of_not_hasPipe no_pipe]
    exact List.mem_singleton_self cs

theorem not_isSyntaxError_nil (e : ParseError) : ¬IsSyntaxError [] e := by
  intro h
  cases h with
  | unexpectedPipe pipe mem none_left => exact not_hasPipe_nil pipe
  | missingCommand no_pipe nonempty only => exact nonempty rfl

theorem isSyntaxError_iff_of_hasPipe {cs : List Char} (hpipe : HasPipe cs)
    (h : ∃ t ∈ segments cs, wordsLeft t = []) (e : ParseError) :
    IsSyntaxError cs e ↔ e = .unexpectedPipe := by
  constructor
  · intro herror
    cases herror with
    | unexpectedPipe pipe mem none_left => rfl
    | missingCommand no_pipe nonempty only => exact absurd hpipe no_pipe
  · rintro rfl
    obtain ⟨t, ht, hnil⟩ := h
    exact .unexpectedPipe hpipe ht hnil

theorem isSyntaxError_iff_of_not_hasPipe {cs : List Char} (hpipe : ¬HasPipe cs)
    (h : wordsLeft cs = []) (e : ParseError) :
    IsSyntaxError cs e ↔ words cs ≠ [] ∧ e = .missingCommand := by
  constructor
  · intro herror
    cases herror with
    | unexpectedPipe pipe mem none_left => exact absurd pipe hpipe
    | missingCommand no_pipe nonempty only => exact ⟨nonempty, rfl⟩
  · rintro ⟨hwords, rfl⟩
    exact .missingCommand hpipe hwords ((extract_fst_eq_nil_iff _).mp h)

theorem not_hasPipe_backslash : ¬HasPipe ['\\'] :=
  (length_segments_eq_one_iff ['\\']).mp rfl

/-- What is wrong with a line that is refused: it has one of the two documented errors, or it is a
backslash and nothing more. -/
theorem parse_eq_error_iff (line : String) (e : ParseError) :
    parse line = .error e ↔
      IsSyntaxError (trim line.toList) e ∨
        (trim line.toList = ['\\'] ∧ e = .unexpectedPipe) := by
  by_cases hne : trim line.toList = []
  · -- a blank line is not refused
    rw [parse, hne]
    simp [not_isSyntaxError_nil]
  by_cases hleft : ∃ t ∈ segments (trim line.toList), wordsLeft t = []
  · by_cases hpipe : HasPipe (trim line.toList)
    · have hback : trim line.toList ≠ ['\\'] := by
        intro hback
        rw [hback] at hpipe
        exact not_hasPipe_backslash hpipe
      rw [parse_of_hasPipe hne hpipe hleft, isSyntaxError_iff_of_hasPipe hpipe hleft]
      simp [hback, eq_comm]
    · have hnil : wordsLeft (trim line.toList) = [] := by
        simpa [segments_of_not_hasPipe hpipe] using hleft
      rw [parse_of_not_hasPipe hne hpipe hnil, isSyntaxError_iff_of_not_hasPipe hpipe hnil, ne_eq,
        words_trim_eq_nil_iff hne]
      by_cases hback : trim line.toList = ['\\'] <;> simp [hback, eq_comm]
  · -- every segment is a command
    have hall : ∀ t ∈ segments (trim line.toList), wordsLeft t ≠ [] := by
      intro t ht hnil
      exact hleft ⟨t, ht, hnil⟩
    obtain ⟨commands, hparse, -⟩ := parse_of_wordsLeft hne hall
    rw [hparse]
    refine iff_of_false (fun h ↦ by cases h) ?_
    rintro (h | ⟨hback, -⟩)
    · exact hleft h.exists_segment
    · refine hleft ⟨['\\'], ?_, rfl⟩
      rw [hback]
      exact List.mem_singleton_self _

/-- **A line is refused for one of the two documented errors, or because it is a lone backslash.**
However malformed its quotes are, a line without pipes and operators is no other line that is
refused; and a line that is not refused has one command for each segment, made of the words that are
left of it, unless it has no command at all. -/
theorem parse_refuses (line : String) :
    (∀ e, parse line = .error e ↔
      IsSyntaxError (trim line.toList) e ∨
        (trim line.toList = ['\\'] ∧ e = .unexpectedPipe)) ∧
    (¬HasPipe (trim line.toList) →
      (∀ word ∈ tokenize (trimString line), Operator.ofWord? word = none) →
      trim line.toList ≠ ['\\'] → ∃ parsed, parse line = .ok parsed) ∧
    ∀ parsed, parse line = .ok parsed → parsed.commands ≠ [] →
      parsed.commands.map Command.argv = (segments (trim line.toList)).map wordsLeft := by
  refine ⟨parse_eq_error_iff line, ?_, ?_⟩
  · intro hpipe hplain hback
    cases hparse : parse line with
    | ok parsed => exact ⟨parsed, rfl⟩
    | error e =>
      rcases (parse_eq_error_iff line e).mp hparse with herror | ⟨h, -⟩
      · cases herror with
        | unexpectedPipe pipe mem none_left => exact absurd pipe hpipe
        | missingCommand no_pipe nonempty only =>
          rw [tokenize, trimString, String.toList_ofList] at hplain
          exact absurd only (not_onlyRedirections_of_plain (by simpa using nonempty) hplain)
      · exact absurd h hback
  · intro parsed hparse hcommands
    have hne : trim line.toList ≠ [] := by
      intro hblank
      rw [parse, hblank] at hparse
      cases hparse
      exact hcommands rfl
    exact (wordsLeft_of_parse hparse hne).2.1

/-- A lone backslash is told off for a pipe that it does not have; it redirects nothing, and no word
is left of it because there was none. -/
theorem parse_backslash :
    parse "\\" = .error .unexpectedPipe ∧ tokenize "\\" = [] ∧ ¬HasPipe "\\".toList ∧
      ∀ e, ¬IsSyntaxError (trim "\\".toList) e := by
  have htrim : trim "\\".toList = ['\\'] := by decide
  refine ⟨rfl, rfl, not_hasPipe_backslash, ?_⟩
  intro e herror
  rw [htrim] at herror
  cases herror with
  | unexpectedPipe pipe mem none_left => exact not_hasPipe_backslash pipe
  | missingCommand no_pipe nonempty only => exact nonempty rfl

end CommandShell.Line

import CommandShell.Proofs.Line.SyntaxErrors
import Mathlib.Data.List.TakeWhile

/-!
# What trimming does to a line

A line is trimmed before it is read, and trimming does not look at quotes. At the beginning of a
line nothing is open, so the blanks there would have separated words anyway. At the end something
may be: a blank after a backslash, or in a quotation that is never closed, is part of a word, and
trimming takes it out of that word.

Both ends are followed through the two scans. Blanks in front belong to the first segment and those
behind to the last one (`segments_append_of_whole`, `segments_append_blanks`). In a segment that
leaves nothing open they make no difference to its words, and in any other the last word gets longer
or there is one word more (`grows_words`). Such a change never gets lost in the extraction of
redirections (`extract_of_grows`): the last word is left, or else it is the target of an operator,
which counts as no other comes after it.
-/

namespace CommandShell.Line

open CommandShell.Text

/-! ## The blanks around a text -/

theorem exists_blanks (cs : List Char) :
    ∃ lead trail, (∀ c ∈ lead, isBlank c = true) ∧ (∀ c ∈ trail, isBlank c = true) ∧
      cs = lead ++ (trim cs ++ trail) := by
  refine ⟨cs.takeWhile isBlank, ((cs.dropWhile isBlank).reverse.takeWhile isBlank).reverse,
    ?_, ?_, ?_⟩
  · intro c hc
    exact List.mem_takeWhile_imp hc
  · intro c hc
    exact List.mem_takeWhile_imp (List.mem_reverse.mp hc)
  · rw [trim, trimEnd, ← List.reverse_append, List.takeWhile_append_dropWhile,
      List.reverse_reverse, List.takeWhile_append_dropWhile]

/-- Nothing was taken away at the end exactly if what is left ends where the text did. -/
theorem trim_suffix_iff {cs lead trail : List Char} (hne : trim cs ≠ [])
    (htrail : ∀ c ∈ trail, isBlank c = true) (h : cs = lead ++ (trim cs ++ trail)) :
    trim cs <:+ cs ↔ trail = [] := by
  constructor
  · intro hsuffix
    by_contra hsome
    -- the last character cannot be blank and not blank
    have hlast : cs.getLast? = some (trail.getLast hsome) := by
      rw [h, List.getLast?_append, List.getLast?_append, List.getLast?_eq_some_getLast hsome]
      rfl
    have hsame : cs.getLast? = (trim cs).getLast? := by
      obtain ⟨before, hbefore⟩ := hsuffix
      have hlast' := congrArg List.getLast? hbefore
      rw [List.getLast?_append, List.getLast?_eq_some_getLast hne] at hlast'
      rw [← hlast', List.getLast?_eq_some_getLast hne]
      rfl
    have hblank := htrail _ (List.getLast_mem hsome)
    rw [(tight_trim hne).2.2 _ (hsame ▸ hlast)] at hblank
    cases hblank
  · rintro rfl
    rw [List.append_nil] at h
    exact ⟨lead, h.symm⟩

/-! ## The segments of a text with blanks around it -/

theorem whole_of_isBlank {blanks : List Char} (h : ∀ c ∈ blanks, isBlank c = true) :
    Whole blanks := by
  intro segment done
  induction blanks generalizing segment with
  | nil => rfl
  | cons c blanks ih =>
    obtain ⟨hc, hblanks⟩ := List.forall_mem_cons.mp h
    obtain ⟨h₁, h₂, h₃⟩ := ne_of_isBlank hc
    have hpipe : c ≠ '|' := by
      rintro rfl
      exact absurd hc (by decide)
    have hstep : Cut.step { segment, done } c = { segment := c :: segment, done } := by
      simp [Cut.step, Cut.keep, h₁, h₂, h₃, hpipe]
    rw [List.foldl_cons, hstep, ih hblanks, List.reverse_cons, List.append_assoc]
    rfl

namespace Cut

theorem Opens.unique {s : Cut} {m n : Mode} (hm : s.Opens m) (hn : s.Opens n) : m = n := by
  cases m <;> cases n <;> simp_all [Opens]

end Cut

theorem segments_append_of_whole {lead : List Char} (h : Whole lead) (cs : List Char) :
    ∃ first rest, segments cs = first :: rest ∧
      segments (lead ++ cs) = (lead ++ first) :: rest := by
  obtain ⟨first, rest, hcs, happend⟩ := segments_append h.opens cs
  rw [h.of, List.reverse_reverse] at happend
  exact ⟨first, rest, hcs, happend⟩

/-- Blanks at the end belong to the last segment, in which the same is open as in the whole. -/
theorem segments_append_blanks (cs : List Char) {trail : List Char}
    (h : ∀ c ∈ trail, isBlank c = true) :
    ∃ init last, segments cs = init ++ [last] ∧ segments (cs ++ trail) = init ++ [last ++ trail] ∧
      Mode.bare.after last = Mode.bare.after cs := by
  have hreads := Cut.reads_of cs
  refine ⟨(Cut.of cs).done.reverse, (Cut.of cs).segment.reverse, List.reverse_cons, ?_,
    hreads.opensSegment.unique hreads.opens⟩
  have hfold : ∀ s : Cut, (trail.foldl Cut.step s).segment = trail.reverse ++ s.segment ∧
      (trail.foldl Cut.step s).done = s.done := by
    induction trail with
    | nil => exact fun s ↦ ⟨rfl, rfl⟩
    | cons c trail ih =>
      intro s
      obtain ⟨hc, htrail⟩ := List.forall_mem_cons.mp h
      have hends : ¬s.Ends c := by
        rintro ⟨-, rfl⟩
        exact absurd hc (by decide)
      obtain ⟨hsegment, hdone⟩ := Cut.step_of_not_ends hends
      obtain ⟨hsegment', hdone'⟩ := ih htrail (s.step c)
      rw [List.foldl_cons, hsegment', hdone', hsegment, hdone]
      simp
  obtain ⟨hsegment, hdone⟩ := hfold (Cut.of cs)
  rw [segments, Cut.of, List.foldl_append, ← Cut.of, Cut.finish, hsegment, hdone]
  simp

/-! ## The words of a segment with blanks around it -/

theorem words_blanks_append {lead : List Char} (h : ∀ c ∈ lead, isBlank c = true)
    (cs : List Char) : words (lead ++ cs) = words cs := by
  induction lead with
  | nil => rfl
  | cons c lead ih =>
    obtain ⟨hc, hlead⟩ := List.forall_mem_cons.mp h
    rw [List.cons_append, words_cons_of_isBlank hc, ih hlead]

theorem words_of_isBlank {blanks : List Char} (h : ∀ c ∈ blanks, isBlank c = true) :
    words blanks = [] := by
  have hwords := words_blanks_append h []
  rwa [List.append_nil] at hwords

theorem Scan.finish_foldl_blanks {s : Scan} (hs : s.mode = .bare) {blanks : List Char}
    (h : ∀ c ∈ blanks, isBlank c = true) : (blanks.foldl step s).finish = s.finish := by
  cases blanks with
  | nil => rfl
  | cons c blanks =>
    obtain ⟨hc, hblanks⟩ := List.forall_mem_cons.mp h
    have hnone : (blanks.foldl step {}).finish = [] := words_of_isBlank hblanks
    rw [List.foldl_cons, step_of_isBlank hs hc, foldl_following, finish_following, hnone,
      List.append_nil, List.reverse_reverse]

theorem words_append_blanks {cs trail : List Char} (hbare : Mode.bare.after cs = .bare)
    (h : ∀ c ∈ trail, isBlank c = true) : words (cs ++ trail) = words cs := by
  rw [words, Scan.of_append, Scan.finish_foldl_blanks (by rw [Scan.mode_of, hbare]) h]
  rfl

/-- Words that have become more: the last one is longer, or there is one after it. -/
inductive Grows : List (List Char) → List (List Char) → Prop
  | longer (init : List (List Char)) (word : List Char) {more : List Char} (some_more : more ≠ []) :
      Grows (init ++ [word]) (init ++ [word ++ more])
  | further (init : List (List Char)) (word : List Char) : Grows init (init ++ [word])

namespace Scan

/-- Adds characters to the open word, and opens one if need be. -/
def pushAll (s : Scan) (cs : List Char) : Scan :=
  { s with word := some (cs.reverse ++ s.word.getD []) }

theorem grows_close (s : Scan) {more : List Char} (hne : more ≠ []) :
    Grows s.close.done.reverse (s.pushAll more).close.done.reverse := by
  obtain ⟨mode, word, done⟩ := s
  cases word with
  | none =>
    have hgrows := Grows.further done.reverse more
    simpa [pushAll, close] using hgrows
  | some w =>
    have hgrows := Grows.longer done.reverse w.reverse hne
    simpa [pushAll, close] using hgrows

theorem finish_of_ne {s : Scan} (h : s.mode ≠ .doubleEscaped) :
    s.finish = s.close.done.reverse := by
  rw [finish, if_neg h]

theorem foldl_blanks_of_quoted {mode : Mode} (hmode : mode = .single ∨ mode = .double)
    {blanks : List Char} (h : ∀ c ∈ blanks, isBlank c = true) (w : List Char)
    (done : List (List Char)) :
    blanks.foldl step { mode, word := some w, done } =
      { mode, word := some (blanks.reverse ++ w), done } := by
  induction blanks generalizing w with
  | nil => rfl
  | cons c blanks ih =>
    obtain ⟨hc, hblanks⟩ := List.forall_mem_cons.mp h
    obtain ⟨h₁, h₂, h₃⟩ := ne_of_isBlank hc
    have hstep : step { mode, word := some w, done } c =
        { mode, word := some (c :: w), done } := by
      rcases hmode with rfl | rfl
      · simp [step, take, Mode.next, push, h₂]
      · simp [step, take, takeDouble, isEscapable, Mode.next, Mode.inDouble, push, h₁, h₃]
    rw [List.foldl_cons, hstep, ih hblanks, List.reverse_cons, List.append_assoc]
    rfl

/-- If something is open, the blanks at the end are added to the last word. -/
theorem grows_finish {s : Scan} (hopen : s.mode ≠ .bare) {blanks : List Char} (hne : blanks ≠ [])
    (h : ∀ c ∈ blanks, isBlank c = true) :
    Grows s.finish (blanks.foldl step s).finish := by
  obtain ⟨c, blanks, rfl⟩ := List.exists_cons_of_ne_nil hne
  obtain ⟨hc, hblanks⟩ := List.forall_mem_cons.mp h
  obtain ⟨h₁, h₂, h₃⟩ := ne_of_isBlank hc
  obtain ⟨mode, word, done⟩ := s
  cases mode with
  | bare => exact absurd rfl hopen
  | escaped =>
    -- the backslash takes the first blank, the others are outside quotes
    rw [List.foldl_cons, finish_foldl_blanks rfl hblanks]
    exact grows_close _ (List.cons_ne_nil c [])
  | single =>
    have hstep : step { mode := .single, word, done } c =
        { mode := .single, word := some (c :: word.getD []), done } := by
      simp [step, take, Mode.next, push, h₂]
    rw [List.foldl_cons, hstep, foldl_blanks_of_quoted (.inl rfl) hblanks, finish_of_ne (by simp),
      finish_of_ne (by simp)]
    have hgrows := grows_close { mode := .single, word, done } hne
    simpa [pushAll] using hgrows
  | double =>
    have hstep : step { mode := .double, word, done } c =
        { mode := .double, word := some (c :: word.getD []), done } := by
      simp [step, take, takeDouble, isEscapable, Mode.next, Mode.inDouble, push, h₁, h₃]
    rw [List.foldl_cons, hstep, foldl_blanks_of_quoted (.inr rfl) hblanks, finish_of_ne (by simp),
      finish_of_ne (by simp)]
    have hgrows := grows_close { mode := .double, word, done } hne
    simpa [pushAll] using hgrows
  | doubleEscaped =>
    -- the backslash stands for itself, before a blank as at the end
    have hstep : step { mode := .doubleEscaped, word, done } c =
        { mode := .double, word := some (c :: '\\' :: word.getD []), done } := by
      simp [step, take, takeDouble, isEscapable, Mode.next, Mode.inDouble, push, h₁, h₃]
    rw [List.foldl_cons, hstep, foldl_blanks_of_quoted (.inr rfl) hblanks]
    have hgrows := grows_close (push { mode := .doubleEscaped, word, done } '\\') hne
    simpa [pushAll, push, finish, close] using hgrows

end Scan

theorem grows_words {cs trail : List Char} (hopen : Mode.bare.after cs ≠ .bare)
    (hne : trail ≠ []) (h : ∀ c ∈ trail, isBlank c = true) :
    Grows (words cs) (words (cs ++ trail)) := by
  rw [words, words, Scan.of_append]
  exact Scan.grows_finish (by rwa [Scan.mode_of]) hne h

/-! ## What extraction makes of one word more -/

/-- The operator that waits for its target at the end of the words of a segment. -/
def waiting? : List String → Option Operator
  | [] => none
  | [word] => Operator.ofWord? word
  | word :: next :: rest =>
    match Operator.ofWord? word with
    | some _ => waiting? rest
    | none => waiting? (next :: rest)

theorem extract_concat_of_none {ws : List String} (h : waiting? ws = none) (w : String) :
    extract (ws ++ [w]) = ((extract ws).1 ++ [w], (extract ws).2) := by
  induction ws using extract.induct with
  | case1 => rfl
  | case2 word => exact extract_cons_of_plain h [w]
  | case3 word next rest op hop ih =>
    simp only [waiting?, hop] at h
    rw [List.cons_append, List.cons_append, extract_operator hop, extract_operator hop, ih h]
  | case4 word next rest hop ih =>
    simp only [waiting?, hop] at h
    rw [List.cons_append, extract_cons_of_plain hop, extract_cons_of_plain hop, ih h]
    rfl

/-- If an operator waits, it takes one more word for its target, and is no longer left. -/
theorem extract_concat_of_some {ws : List String} {op : Operator} (h : waiting? ws = some op) :
    ∃ left spelling, (extract ws).1 = left ++ [spelling] ∧
      ∀ w, extract (ws ++ [w]) = (left, (extract ws).2.merge (Redirection.set {} op w)) := by
  induction ws using extract.induct with
  | case1 => cases h
  | case2 word =>
    refine ⟨[], word, rfl, fun w ↦ ?_⟩
    rw [List.singleton_append, extract_operator h]
    simp [extract]
  | case3 word next rest op' hop ih =>
    simp only [waiting?, hop] at h
    obtain ⟨left, spelling, hleft, hmore⟩ := ih h
    refine ⟨left, spelling, by rw [extract_operator hop, hleft], fun w ↦ ?_⟩
    rw [List.cons_append, List.cons_append, extract_operator hop, extract_operator hop, hmore,
      Redirection.merge_assoc]
  | case4 word next rest hop ih =>
    simp only [waiting?, hop] at h
    obtain ⟨left, spelling, hleft, hmore⟩ := ih h
    refine ⟨word :: left, spelling, by rw [extract_cons_of_plain hop, hleft]; rfl, fun w ↦ ?_⟩
    rw [List.cons_append, extract_cons_of_plain hop, extract_cons_of_plain hop, hmore]

/-- When the words grow, different words are left, or the last target is a different one. -/
theorem extract_of_grows {ws ws' : List (List Char)} (h : Grows ws ws') :
    (extract (ws.map String.ofList)).1 ≠ (extract (ws'.map String.ofList)).1 ∨
      ∃ earlier op u v, u ≠ v ∧
        (extract (ws.map String.ofList)).2 = Redirection.merge earlier (Redirection.set {} op u) ∧
        (extract (ws'.map String.ofList)).2 =
          Redirection.merge earlier (Redirection.set {} op v) := by
  cases h with
  | longer init word some_more =>
    rename_i more
    have hne : String.ofList word ≠ String.ofList (word ++ more) := by
      intro heq
      have hlists := String.ofList_injective heq
      exact some_more (List.self_eq_append_right.mp hlists)
    rw [List.map_append, List.map_append, List.map_singleton, List.map_singleton]
    -- the longer word is left over, or it is the target of the operator before it
    cases hwaiting : waiting? (init.map String.ofList) with
    | none =>
      rw [extract_concat_of_none hwaiting, extract_concat_of_none hwaiting]
      refine .inl fun heq ↦ hne ?_
      exact List.head_eq_of_cons_eq (List.append_cancel_left heq)
    | some op =>
      obtain ⟨left, spelling, -, hmore⟩ := extract_concat_of_some hwaiting
      rw [hmore, hmore]
      exact .inr ⟨_, op, _, _, hne, rfl, rfl⟩
  | further init word =>
    rw [List.map_append, List.map_singleton]
    left
    cases hwaiting : waiting? (ws.map String.ofList) with
    | none =>
      rw [extract_concat_of_none hwaiting]
      exact fun heq ↦ absurd (List.self_eq_append_right.mp heq) (List.cons_ne_nil _ _)
    | some op =>
      obtain ⟨left, spelling, hleft, hmore⟩ := extract_concat_of_some hwaiting
      rw [hmore, hleft]
      exact fun heq ↦ absurd (List.append_right_eq_self.mp heq) (List.cons_ne_nil _ _)

/-! ## What a line says -/

theorem mergeAll_concat (rs : List Redirection) (r : Redirection) :
    mergeAll (rs ++ [r]) = (mergeAll rs).merge r := by
  induction rs with
  | nil => simp [mergeAll]
  | cons s rs ih =>
    rw [List.cons_append, mergeAll, List.foldr_cons, ← mergeAll, ih, ← Redirection.merge_assoc]
    rfl

/-- What a text says, segment by segment: the words that are left of every segment that has any,
and all redirections merged in order. -/
def reading (cs : List Char) : List (List String) × Redirection :=
  (((segments cs).map wordsLeft).filter (· ≠ []), mergeAll ((segments cs).map redirected))

def ParsedLine.reading (p : ParsedLine) : List (List String) × Redirection :=
  (p.commands.map Command.argv, p.redirection)

theorem reading_of_parse {line : String} {parsed : ParsedLine} (h : parse line = .ok parsed) :
    parsed.reading = reading (trim line.toList) := by
  by_cases hne : trim line.toList = []
  · rw [parse, hne] at h
    cases h
    rw [hne]
    rfl
  · obtain ⟨hleft, hargv, hredirection⟩ := wordsLeft_of_parse h hne
    have hall : ∀ row ∈ (segments (trim line.toList)).map wordsLeft,
        decide (row ≠ []) = true := by
      intro row hrow
      obtain ⟨t, ht, rfl⟩ := List.mem_map.mp hrow
      exact decide_eq_true (hleft t ht)
    rw [ParsedLine.reading, reading, List.filter_eq_self.mpr hall, hargv, hredirection]

theorem reading_blanks_append {lead : List Char} (h : ∀ c ∈ lead, isBlank c = true)
    (cs : List Char) : reading (lead ++ cs) = reading cs := by
  obtain ⟨first, rest, hsegments, hlead⟩ := segments_append_of_whole (whole_of_isBlank h) cs
  have hwords := words_blanks_append h first
  have hleft : wordsLeft (lead ++ first) = wordsLeft first := by rw [wordsLeft, hwords]; rfl
  have hredirected : redirected (lead ++ first) = redirected first := by
    rw [redirected, hwords]
    rfl
  rw [reading, reading, hsegments, hlead, List.map_cons, List.map_cons, List.map_cons,
    List.map_cons, hleft, hredirected]

theorem reading_append_blanks {cs trail : List Char} (hbare : Mode.bare.after cs = .bare)
    (h : ∀ c ∈ trail, isBlank c = true) : reading (cs ++ trail) = reading cs := by
  obtain ⟨init, last, hsegments, htrail, hmode⟩ := segments_append_blanks cs h
  have hwords := words_append_blanks (hmode.trans hbare) h
  have hleft : wordsLeft (last ++ trail) = wordsLeft last := by rw [wordsLeft, hwords]; rfl
  have hredirected : redirected (last ++ trail) = redirected last := by
    rw [redirected, hwords]
    rfl
  rw [reading, reading, hsegments, htrail, List.map_append, List.map_append, List.map_append,
    List.map_append, List.map_singleton, List.map_singleton, List.map_singleton,
    List.map_singleton, hleft, hredirected]

/-- Blanks behind a text do change what it says, if something is open there and every segment of the
text has words left. -/
theorem reading_append_blanks_ne {cs trail : List Char} (hopen : Mode.bare.after cs ≠ .bare)
    (hne : trail ≠ []) (h : ∀ c ∈ trail, isBlank c = true)
    (hleft : ∀ t ∈ segments cs, wordsLeft t ≠ []) : reading (cs ++ trail) ≠ reading cs := by
  obtain ⟨init, last, hsegments, htrail, hmode⟩ := segments_append_blanks cs h
  have hopen' : Mode.bare.after last ≠ .bare := by rwa [hmode]
  have hgrows := grows_words hopen' hne h
  have hlast : wordsLeft last ≠ [] := hleft last (by simp [hsegments])
  intro heq
  rw [reading, reading, hsegments, htrail, List.map_append, List.map_append, List.map_append,
    List.map_append, List.filter_append, List.filter_append, Prod.mk.injEq] at heq
  obtain ⟨hwords, htargets⟩ := heq
  rcases extract_of_grows hgrows with hne | ⟨earlier, op, u, v, hne, hu, hv⟩
  · -- other words are left of the last segment, if any
    have hsame := List.append_cancel_left hwords
    by_cases hnil : wordsLeft (last ++ trail) = []
    · simp [hnil, hlast] at hsame
    · simp only [List.map_singleton, List.filter_cons, hnil, hlast, ne_eq, not_false_eq_true,
        decide_true, if_true] at hsame
      exact hne (List.head_eq_of_cons_eq hsame).symm
  · -- the last operator of the line has another target
    rw [List.map_singleton, List.map_singleton, mergeAll_concat, mergeAll_concat, redirected, hv,
      redirected, hu] at htargets
    have htarget := congrArg (Redirection.target? · op.stream) htargets
    simp only [Redirection.target?_merge, Redirection.target?_set, if_true, Option.some_or,
      Option.some.injEq, Target.mk.injEq] at htarget
    exact hne htarget.1.symm

/-- **What trimming does to the meaning of a line.** A line that is parsed says what it says without
trimming exactly if nothing is trimmed away at its end, or what is left leaves nothing open there,
so that every blank taken away was one that separates words. -/
theorem parse_reading_iff {line : String} {parsed : ParsedLine} (h : parse line = .ok parsed) :
    parsed.reading = reading line.toList ↔
      trim line.toList <:+ line.toList ∨ Mode.bare.after (trim line.toList) = .bare := by
  obtain ⟨lead, trail, hlead, htrail, hline⟩ := exists_blanks line.toList
  have hfront : reading line.toList = reading (trim line.toList ++ trail) := by
    rw [hline, reading_blanks_append hlead, ← hline]
  rw [reading_of_parse h, hfront]
  by_cases hne : trim line.toList = []
  · rw [hne]
    refine iff_of_true ?_ (.inr rfl)
    exact (reading_append_blanks rfl htrail).symm
  rw [trim_suffix_iff hne htrail hline]
  constructor
  · intro heq
    by_contra hnot
    rw [not_or] at hnot
    exact reading_append_blanks_ne hnot.2 hnot.1 htrail (wordsLeft_of_parse h hne).1 heq.symm
  · rintro (rfl | hbare)
    · rw [List.append_nil]
    · exact (reading_append_blanks hbare htrail).symm

/-- Blanks that separate words can go. -/
theorem parse_reading_padded :
    parse "  cat 'a b' | wc  > f \t" = .ok {
        raw := "cat 'a b' | wc  > f"
        commands := [⟨"cat", ["a b"]⟩, ⟨"wc", []⟩]
        redirection := { output := some ⟨"f", false⟩ } } ∧
      reading "  cat 'a b' | wc  > f \t".toList =
        ([["cat", "a b"], ["wc"]], { output := some ⟨"f", false⟩ }) := by
  have hparse : parse "  cat 'a b' | wc  > f \t" = .ok {
      raw := "cat 'a b' | wc  > f"
      commands := [⟨"cat", ["a b"]⟩, ⟨"wc", []⟩]
      redirection := { output := some ⟨"f", false⟩ } } := by decide +kernel
  exact ⟨hparse, ((parse_reading_iff hparse).mpr (.inr (by decide +kernel))).symm⟩

/-- An escaped space at the end of a line is an argument's last character, and trimming takes it
away. -/
theorem parse_escaped_blank :
    ∃ parsed, parse "echo a\\ " = .ok parsed ∧
      parsed.reading = ([["echo", "a"]], {}) ∧
      reading "echo a\\ ".toList = ([["echo", "a "]], {}) := by
  refine ⟨{ raw := "echo a\\", commands := [⟨"echo", ["a"]⟩] }, ?_, rfl, ?_⟩ <;> decide +kernel

end CommandShell.Line

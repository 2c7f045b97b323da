import CommandShell.Line.Segments
import CommandShell.Line.Words
import CommandShell.Text.Split
import Mathlib.Tactic.SplitIfs

/-!
# The two scans of a line

A line is read twice: once for its pipes, and once, segment by segment, for its words. Each scan
follows the quotes with a state of its own, and the one for pipes looks at less: inside double
quotes it passes over whatever comes after a backslash, while the other one gives a backslash back
unless it escapes something.

Still they agree at every place of every line. `Cut.Opens` says which mode of the scan for words
goes with a state of the scan for pipes, and `Cut.Reads` is what a cut keeps while a line is read:
it goes along with the scan for words on the line as a whole *and* on the segment alone. So each
finished segment ends with nothing open, and a blank in place of the pipe ends a word where the end
of the segment did.
-/

namespace CommandShell.Line

open CommandShell.Text

/-! ## The scan for words -/

theorem ne_of_isBlank {c : Char} (h : isBlank c = true) : c ≠ '\\' ∧ c ≠ '\'' ∧ c ≠ '"' := by
  refine ⟨?_, ?_, ?_⟩ <;> rintro rfl <;> exact absurd h (by decide)

theorem Mode.next_bare_of_isBlank {c : Char} (h : isBlank c = true) :
    Mode.bare.next c = .bare := by
  obtain ⟨h₁, h₂, h₃⟩ := ne_of_isBlank h
  simp [Mode.next, h₁, h₂, h₃]

namespace Scan

theorem of_append (cs ds : List Char) : Scan.of (cs ++ ds) = ds.foldl step (Scan.of cs) :=
  List.foldl_append

theorem mode_foldl (s : Scan) (cs : List Char) : (cs.foldl step s).mode = s.mode.after cs := by
  induction cs generalizing s with
  | nil => rfl
  | cons c cs ih => rw [List.foldl_cons, ih, Mode.after_cons, step]

@[simp] theorem mode_of (cs : List Char) : (Scan.of cs).mode = Mode.bare.after cs :=
  mode_foldl {} cs

/-- The scan with more words finished before it began. -/
def following (s : Scan) (earlier : List (List Char)) : Scan :=
  { s with done := s.done ++ earlier }

theorem close_following (s : Scan) (earlier : List (List Char)) :
    (s.following earlier).close = s.close.following earlier := by
  obtain ⟨mode, word, done⟩ := s
  cases word <;> rfl

theorem take_following (s : Scan) (earlier : List (List Char)) (c : Char) :
    (s.following earlier).take c = (s.take c).following earlier := by
  have hclose := close_following s earlier
  obtain ⟨mode, word, done⟩ := s
  cases mode with
  | bare =>
    simp only [following] at hclose
    simp only [take, following, hclose]
    split_ifs <;> rfl
  | escaped => rfl
  | single => simp only [take, following]; split_ifs <;> rfl
  | double => simp only [take, takeDouble, following]; split_ifs <;> rfl
  | doubleEscaped => simp only [take, takeDouble, following]; split_ifs <;> rfl

theorem step_following (s : Scan) (earlier : List (List Char)) (c : Char) :
    (s.following earlier).step c = (s.step c).following earlier := by
  rw [step, take_following]
  rfl

theorem foldl_following (s : Scan) (earlier : List (List Char)) (cs : List Char) :
    cs.foldl step (s.following earlier) = (cs.foldl step s).following earlier := by
  induction cs generalizing s with
  | nil => rfl
  | cons c cs ih => rw [List.foldl_cons, step_following, ih, List.foldl_cons]

theorem finish_following (s : Scan) (earlier : List (List Char)) :
    (s.following earlier).finish = earlier.reverse ++ s.finish := by
  obtain ⟨mode, word, done⟩ := s
  by_cases h : mode = .doubleEscaped
  · simp [finish, h, following, push, close]
  · cases word <;> simp [finish, h, following, close]

theorem step_of_isBlank {s : Scan} (hs : s.mode = .bare) {c : Char} (hc : isBlank c = true) :
    s.step c = following {} s.finish.reverse := by
  obtain ⟨h₁, h₂, h₃⟩ := ne_of_isBlank hc
  obtain ⟨mode, word, done⟩ := s
  obtain rfl : mode = .bare := hs
  cases word <;>
    simp [step, take, Mode.next_bare_of_isBlank hc, h₁, h₂, h₃, hc, finish, following, close]

end Scan

theorem words_append_cons {cs : List Char} (h : Mode.bare.after cs = .bare) {c : Char}
    (hc : isBlank c = true) (ds : List Char) : words (cs ++ c :: ds) = words cs ++ words ds := by
  have hs : (Scan.of cs).mode = .bare := by rw [Scan.mode_of, h]
  rw [words, Scan.of_append, List.foldl_cons, Scan.step_of_isBlank hs hc, Scan.foldl_following,
    Scan.finish_following, List.reverse_reverse]
  rfl

theorem words_cons_of_isBlank {c : Char} (hc : isBlank c = true) (cs : List Char) :
    words (c :: cs) = words cs := by
  have hnil : Mode.bare.after [] = .bare := rfl
  exact words_append_cons hnil hc cs

/-- The words of texts that leave nothing open, except perhaps the last one, are those of the
texts with blanks between them. -/
theorem words_joinWith {sep : Char} (hsep : isBlank sep = true) (last : List Char) :
    ∀ {before : List (List Char)}, (∀ p ∈ before, Mode.bare.after p = .bare) →
      words (joinWith sep (before ++ [last])) = (before ++ [last]).flatMap words := by
  intro before
  induction before with
  | nil =>
    intro _
    simp [joinWith]
  | cons p before ih =>
    intro h
    rw [List.cons_append, joinWith_cons_of_ne_nil sep p (by simp),
      words_append_cons (h p List.mem_cons_self) hsep,
      ih fun q hq ↦ h q (List.mem_cons_of_mem p hq), List.flatMap_cons]

/-- Texts that leave nothing open leave nothing open with a separator between them that is neither
a quote nor a backslash. -/
theorem Mode.after_joinWith {sep : Char} (hsep : Mode.bare.next sep = .bare) :
    ∀ {ps : List (List Char)}, (∀ p ∈ ps, Mode.bare.after p = .bare) →
      Mode.bare.after (joinWith sep ps) = .bare := by
  intro ps
  induction ps with
  | nil => exact fun _ ↦ rfl
  | cons p ps ih =>
    intro h
    have hp := h p List.mem_cons_self
    by_cases hps : ps = []
    · rw [hps, joinWith, hp]
    · rw [joinWith_cons_of_ne_nil sep p hps, Mode.after_append, hp, Mode.after_cons, hsep,
        ih fun q hq ↦ h q (List.mem_cons_of_mem p hq)]

/-! ## The scan for pipes goes along with it -/

namespace Cut

/-- The scan for pipes has open what the scan for words has open in a mode. -/
def Opens (s : Cut) : Mode → Prop
  | .bare => s.quotation = none ∧ s.skips = false
  | .escaped => s.quotation = none ∧ s.skips = true
  | .single => s.quotation = some .single ∧ s.skips = false
  | .double => s.quotation = some .double ∧ s.skips = false
  | .doubleEscaped => s.quotation = some .double ∧ s.skips = true

def Ends (s : Cut) (c : Char) : Prop :=
  s.Opens .bare ∧ c = '|'

theorem step_of_ends {s : Cut} {c : Char} (h : s.Ends c) : s.step c = s.split := by
  obtain ⟨⟨hq, hs⟩, rfl⟩ := h
  simp [step, hq, hs]

theorem step_of_not_ends {s : Cut} {c : Char} (h : ¬s.Ends c) :
    (s.step c).segment = c :: s.segment ∧ (s.step c).done = s.done := by
  obtain ⟨quotation, skips, segment, done⟩ := s
  cases skips with
  | true => exact ⟨rfl, rfl⟩
  | false =>
    match quotation with
    | some .single => simp only [step, keep]; split_ifs <;> exact ⟨rfl, rfl⟩
    | some .double => simp only [step, keep]; split_ifs <;> exact ⟨rfl, rfl⟩
    | none =>
      have hc : c ≠ '|' := fun hc ↦ h ⟨⟨rfl, rfl⟩, hc⟩
      simp only [step, keep, hc]
      split_ifs <;> exact ⟨rfl, rfl⟩

/-- **One step of the simulation.** The case that differs between the scans is a backslash inside
double quotes before a character that it does not escape: one scan passes over the character, the
other one reads it, and either way the quotation stays open. -/
theorem Opens.step {s : Cut} {m : Mode} (h : s.Opens m) (c : Char) :
    (s.step c).Opens (m.next c) := by
  cases m with
  | bare =>
    obtain ⟨hq, hs⟩ := h
    simp only [Cut.step, hq, hs, Mode.next, Bool.false_eq_true, if_false]
    split_ifs <;> simp_all [Opens, keep, split]
  | escaped =>
    obtain ⟨hq, hs⟩ := h
    simp [Cut.step, hq, hs, Mode.next, Opens, keep]
  | single =>
    obtain ⟨hq, hs⟩ := h
    simp only [Cut.step, hq, hs, Mode.next, Bool.false_eq_true, if_false]
    split_ifs <;> simp_all [Opens, keep]
  | double =>
    obtain ⟨hq, hs⟩ := h
    simp only [Cut.step, hq, hs, Mode.next, Mode.inDouble, Bool.false_eq_true, if_false]
    split_ifs <;> simp_all [Opens, keep]
  | doubleEscaped =>
    obtain ⟨hq, hs⟩ := h
    have hnext : Mode.doubleEscaped.next c = .double := by
      by_cases he : isEscapable c = true
      · simp [Mode.next, he]
      · simp only [isEscapable, Bool.or_eq_true, decide_eq_true_eq, not_or] at he
        simp [Mode.next, isEscapable, Mode.inDouble, he.1, he.2]
    rw [hnext]
    simp [Cut.step, hq, hs, Opens, keep]

theorem Opens.eq_bare {s : Cut} {m : Mode} (h : s.Opens m) (hb : s.Opens .bare) : m = .bare := by
  obtain ⟨hq, hs⟩ := hb
  cases m <;> simp_all [Opens]

theorem finish_split (s : Cut) : s.split.finish = s.finish ++ [[]] := by
  simp [split, finish]

theorem finish_step_of_not_ends {s : Cut} {c : Char} (h : ¬s.Ends c) :
    (s.step c).finish = s.done.reverse ++ [s.segment.reverse ++ [c]] := by
  obtain ⟨hsegment, hdone⟩ := step_of_not_ends h
  rw [finish, hsegment, hdone]
  simp

/-- What a cut knows of the text that it has read. -/
structure Reads (s : Cut) (cs : List Char) : Prop where
  /-- Only the pipes are gone. -/
  joined : joinWith '|' s.finish = cs
  /-- It goes along with the scan for words of the whole text, -/
  opens : s.Opens (Mode.bare.after cs)
  /-- and with that of the segment being read. -/
  opensSegment : s.Opens (Mode.bare.after s.segment.reverse)
  /-- The finished segments leave nothing open. -/
  closed : ∀ p ∈ s.done, Mode.bare.after p = .bare

theorem reads_nil : Reads {} [] where
  joined := rfl
  opens := ⟨rfl, rfl⟩
  opensSegment := ⟨rfl, rfl⟩
  closed := fun _ hp ↦ absurd hp List.not_mem_nil

theorem Reads.step {s : Cut} {cs : List Char} (h : s.Reads cs) (c : Char) :
    (s.step c).Reads (cs ++ [c]) := by
  have hopens : (s.step c).Opens (Mode.bare.after (cs ++ [c])) := by
    rw [Mode.after_append]
    exact h.opens.step c
  by_cases hc : s.Ends c
  · have hstep := step_of_ends hc
    refine ⟨?_, hopens, ?_, ?_⟩
    · rw [hstep, finish_split, joinWith_append '|' (by simp [finish]) (List.cons_ne_nil _ _),
        h.joined, hc.2]
      rfl
    · rw [hstep]
      exact hc.1
    · -- the segment that ends here leaves nothing open, since a pipe could end it
      intro p hp
      rw [hstep, split, List.mem_cons] at hp
      rcases hp with rfl | hp
      · exact h.opensSegment.eq_bare hc.1
      · exact h.closed p hp
  · obtain ⟨hsegment, hdone⟩ := step_of_not_ends hc
    refine ⟨?_, hopens, ?_, ?_⟩
    · rw [finish_step_of_not_ends hc, joinWith_concat_append, ← h.joined, finish,
        List.reverse_cons]
    · rw [hsegment, List.reverse_cons, Mode.after_append]
      exact h.opensSegment.step c
    · rw [hdone]
      exact h.closed

theorem Reads.foldl {s : Cut} {cs : List Char} (h : s.Reads cs) (ds : List Char) :
    (ds.foldl Cut.step s).Reads (cs ++ ds) := by
  induction ds generalizing s cs with
  | nil => rwa [List.append_nil]
  | cons d ds ih =>
    rw [List.foldl_cons, ← List.singleton_append, ← List.append_assoc]
    exact ih (h.step d)

theorem reads_of (cs : List Char) : (Cut.of cs).Reads cs :=
  reads_nil.foldl cs

end Cut

theorem joinWith_segments (cs : List Char) : joinWith '|' (segments cs) = cs :=
  (Cut.reads_of cs).joined

theorem after_eq_bare_of_segments {cs : List Char} {before after : List (List Char)}
    {segment : List Char} (h : segments cs = before ++ segment :: after) (hne : after ≠ []) :
    ∀ p ∈ before ++ [segment], Mode.bare.after p = .bare := by
  intro p hp
  obtain ⟨init, last, rfl⟩ : ∃ init last, after = init ++ [last] :=
    ⟨_, _, (List.dropLast_concat_getLast hne).symm⟩
  rw [segments, Cut.finish, List.reverse_cons, List.append_cons before, ← List.append_assoc] at h
  have hdone := (List.append_inj' h rfl).1
  refine (Cut.reads_of cs).closed p (List.mem_reverse.mp ?_)
  rw [hdone]
  exact List.mem_append_left init hp

theorem flatMap_words_segments (cs : List Char) :
    (segments cs).flatMap words = words (joinWith ' ' (segments cs)) := by
  rw [segments, Cut.finish, List.reverse_cons]
  exact (words_joinWith (by decide) _ fun p hp ↦
    (Cut.reads_of cs).closed p (List.mem_reverse.mp hp)).symm

/-! ## Agreement -/

theorem toList_intercalate_ofList (sep : Char) {s : String} (hs : s.toList = [sep])
    (ps : List (List Char)) :
    (s.intercalate (ps.map String.ofList)).toList = joinWith sep ps := by
  rw [String.toList_intercalate, hs, joinWith_eq_intercalate, List.map_map]
  congr 1
  exact (List.map_congr_left fun p _ ↦ String.toList_ofList).trans ps.map_id

theorem flatMap_tokenize (ps : List (List Char)) :
    (ps.map String.ofList).flatMap tokenize = (ps.flatMap words).map String.ofList := by
  rw [List.flatMap_map, List.map_flatMap]
  simp [tokenize]

/-- **The two scans of a line agree.** At every place of it they have the same quotation or
backslash open. Cutting a line at its pipes and taking the words of each segment gives the words of
the line with a blank in place of the pipes between segments; no such pipe is a quoted or escaped
character for the scan for words, and no segment before one leaves anything open. -/
theorem splitPipeline_agrees_tokenize (line : String) :
    (∀ n, (Cut.of (line.toList.take n)).Opens (Scan.of (line.toList.take n)).mode) ∧
      "|".intercalate (splitPipeline line) = line ∧
      (splitPipeline line).flatMap tokenize = tokenize (" ".intercalate (splitPipeline line)) ∧
      ∀ before segment after, splitPipeline line = before ++ segment :: after → after ≠ [] →
        (Scan.of segment.toList).mode = .bare ∧
          (Scan.of ("|".intercalate (before ++ [segment])).toList).mode = .bare := by
  refine ⟨fun n ↦ ?_, ?_, ?_, ?_⟩
  · rw [Scan.mode_of]
    exact (Cut.reads_of _).opens
  · refine String.toList_injective ?_
    rw [splitPipeline, toList_intercalate_ofList '|' rfl, joinWith_segments]
  · rw [splitPipeline, flatMap_tokenize, flatMap_words_segments, tokenize,
      toList_intercalate_ofList ' ' rfl]
  · intro before segment after h hne
    obtain ⟨before', rest, hsegments, rfl, hrest⟩ := List.map_eq_append_iff.mp h
    obtain ⟨segment', after', rfl, rfl, rfl⟩ := List.map_eq_cons_iff.mp hrest
    have hbare := after_eq_bare_of_segments hsegments (by simpa using hne)
    have hjoin : ("|".intercalate (before'.map String.ofList ++ [String.ofList segment'])).toList
        = joinWith '|' (before' ++ [segment']) := by
      rw [← List.map_singleton, ← List.map_append, toList_intercalate_ofList '|' rfl]
    rw [Scan.mode_of, Scan.mode_of, String.toList_ofList, hjoin]
    exact ⟨hbare segment' (by simp), Mode.after_joinWith (by decide) hbare⟩

end CommandShell.Line

import CommandShell.Proofs.Line.Scanning
import Mathlib.Data.List.Induction

/-!
# Cutting and joining

A line is cut at its pipes that are neither quoted nor escaped, and joining the segments with pipes
gives it back. The other way around, texts that are joined with pipes are not always what the line
is cut into: a text with a pipe of its own is cut there, and one that leaves a quotation or a
backslash open takes the pipe behind it along. Nothing else goes wrong
(`splitPipeline_inverse`).

What the cut makes of the rest of a line depends on what is open, and not on what was read before
(`Cut.exists_finish_foldl`). So where nothing is open the segments of the rest come after those that
there are already (`segments_append`). A line that begins with a text of one segment and a pipe has
that segment and those of the rest (`segments_append_cons`), and joined texts come back one by
one.
-/

namespace CommandShell.Line

open CommandShell.Text

/-! ## Texts that are one segment -/

/-- A text has a pipe that is neither quoted nor escaped. -/
def HasPipe (cs : List Char) : Prop :=
  ∃ before after, cs = before ++ '|' :: after ∧ Mode.bare.after before = .bare

theorem not_hasPipe_nil : ¬HasPipe [] := by
  rintro ⟨before, after, hsplit, -⟩
  exact absurd hsplit.symm (by simp)

theorem hasPipe_concat_iff (cs : List Char) (c : Char) :
    HasPipe (cs ++ [c]) ↔ HasPipe cs ∨ (Mode.bare.after cs = .bare ∧ c = '|') := by
  constructor
  · rintro ⟨before, after, hsplit, hbare⟩
    rcases List.eq_nil_or_concat after with rfl | ⟨init, last, rfl⟩
    · obtain ⟨rfl, hlast⟩ := List.append_inj' hsplit rfl
      exact .inr ⟨hbare, List.head_eq_of_cons_eq hlast⟩
    · rw [List.concat_eq_append, ← List.cons_append, ← List.append_assoc] at hsplit
      exact .inl ⟨before, init, (List.append_inj' hsplit rfl).1, hbare⟩
  · rintro (⟨before, after, rfl, hbare⟩ | ⟨hbare, rfl⟩)
    · exact ⟨before, after ++ [c], by simp, hbare⟩
    · exact ⟨cs, [], rfl, hbare⟩

theorem Cut.opens_bare_of_iff (cs : List Char) :
    (Cut.of cs).Opens .bare ↔ Mode.bare.after cs = .bare := by
  have hopens := (Cut.reads_of cs).opens
  constructor
  · exact hopens.eq_bare
  · intro hbare
    rwa [hbare] at hopens

theorem Cut.ends_of_iff (cs : List Char) (c : Char) :
    (Cut.of cs).Ends c ↔ Mode.bare.after cs = .bare ∧ c = '|' :=
  and_congr_left fun _ ↦ Cut.opens_bare_of_iff cs

theorem done_eq_nil_iff (cs : List Char) : (Cut.of cs).done = [] ↔ ¬HasPipe cs := by
  induction cs using List.reverseRecOn with
  | nil => exact iff_of_true rfl not_hasPipe_nil
  | append_singleton cs c ih =>
    have hof : Cut.of (cs ++ [c]) = (Cut.of cs).step c := List.foldl_append
    rw [hof, hasPipe_concat_iff, not_or, ← Cut.ends_of_iff]
    by_cases hends : (Cut.of cs).Ends c
    · rw [Cut.step_of_ends hends]
      exact iff_of_false (List.cons_ne_nil _ _) fun h ↦ h.2 hends
    · rw [(Cut.step_of_not_ends hends).2, ih]
      exact ⟨fun h ↦ ⟨h, hends⟩, And.left⟩

theorem length_segments_eq_one_iff (cs : List Char) :
    (segments cs).length = 1 ↔ ¬HasPipe cs := by
  rw [← done_eq_nil_iff, segments, Cut.finish, List.length_reverse, List.length_cons,
    Nat.add_eq_right, List.length_eq_zero_iff]

theorem segments_of_not_hasPipe {cs : List Char} (h : ¬HasPipe cs) : segments cs = [cs] := by
  obtain ⟨segment, hsegment⟩ := List.length_eq_one_iff.mp ((length_segments_eq_one_iff cs).mpr h)
  have hjoin := joinWith_segments cs
  rw [hsegment, joinWith] at hjoin
  rw [hsegment, hjoin]

theorem segments_eq_singleton_iff (cs : List Char) : segments cs = [cs] ↔ ¬HasPipe cs := by
  constructor
  · intro h
    rw [← length_segments_eq_one_iff, h, List.length_singleton]
  · exact segments_of_not_hasPipe

theorem not_hasPipe_of_mem_segments {cs p : List Char} (h : p ∈ segments cs) : ¬HasPipe p := by
  induction cs using List.reverseRecOn generalizing p with
  | nil =>
    obtain rfl := List.mem_singleton.mp h
    exact not_hasPipe_nil
  | append_singleton cs c ih =>
    have hstep : segments (cs ++ [c]) = ((Cut.of cs).step c).finish := by
      rw [segments, Cut.of, List.foldl_append]
      rfl
    rw [hstep] at h
    by_cases hends : (Cut.of cs).Ends c
    · rw [Cut.step_of_ends hends, Cut.finish_split, List.mem_append, List.mem_singleton] at h
      rcases h with h | rfl
      · exact ih h
      · exact not_hasPipe_nil
    · rw [Cut.finish_step_of_not_ends hends, List.mem_append, List.mem_singleton] at h
      rcases h with h | rfl
      · exact ih (by simp [segments, Cut.finish, List.mem_reverse.mp h])
      · -- the segment being read gets one character more, and that one is no pipe
        rw [hasPipe_concat_iff, not_or]
        refine ⟨ih (by simp [segments, Cut.finish]), ?_⟩
        rintro ⟨hbare, rfl⟩
        have hopens := (Cut.reads_of cs).opensSegment
        rw [hbare] at hopens
        exact hends ⟨hopens, rfl⟩

/-! ## The rest of a text -/

namespace Cut

/-- What is open after a character depends on what was open, not on what was read. -/
theorem step_same (quotation : Option Quotation) (skips : Bool) (segment : List Char)
    (done : List (List Char)) (c : Char) :
    (step { quotation, skips, segment, done } c).quotation =
        (step { quotation, skips } c).quotation ∧
      (step { quotation, skips, segment, done } c).skips = (step { quotation, skips } c).skips := by
  cases skips with
  | true => exact ⟨rfl, rfl⟩
  | false =>
    match quotation with
    | some .single => simp only [step, keep]; split_ifs <;> exact ⟨rfl, rfl⟩
    | some .double => simp only [step, keep]; split_ifs <;> exact ⟨rfl, rfl⟩
    | none => simp only [step, keep, split]; split_ifs <;> exact ⟨rfl, rfl⟩

/-- What a cut makes of the rest of a text depends on what is open, not on what was read. -/
theorem exists_finish_foldl (quotation : Option Quotation) (skips : Bool) (cs : List Char) :
    ∃ first rest, ∀ segment done,
      (cs.foldl step { quotation, skips, segment, done }).finish =
        done.reverse ++ (segment.reverse ++ first) :: rest := by
  induction cs generalizing quotation skips with
  | nil => exact ⟨[], [], fun segment done ↦ by simp [finish]⟩
  | cons c cs ih =>
    by_cases hends : Ends { quotation, skips } c
    · obtain ⟨first, rest, hrest⟩ := ih quotation skips
      refine ⟨[], first :: rest, fun segment done ↦ ?_⟩
      have hends' : Ends { quotation, skips, segment, done } c := hends
      rw [List.foldl_cons, step_of_ends hends', split, hrest]
      simp
    · -- the character joins the segment, whatever was read before
      obtain ⟨first, rest, hrest⟩ :=
        ih (step { quotation, skips } c).quotation (step { quotation, skips } c).skips
      refine ⟨c :: first, rest, fun segment done ↦ ?_⟩
      have hends' : ¬Ends { quotation, skips, segment, done } c := hends
      obtain ⟨hsegment, hdone⟩ := step_of_not_ends hends'
      have hstep : step { quotation, skips, segment, done } c =
          { quotation := (step { quotation, skips } c).quotation
            skips := (step { quotation, skips } c).skips
            segment := c :: segment
            done } := by
        obtain ⟨hquotation, hskips⟩ := step_same quotation skips segment done c
        generalize step { quotation, skips, segment, done } c = after
          at hsegment hdone hquotation hskips ⊢
        obtain ⟨quotation', skips', segment', done'⟩ := after
        obtain rfl : quotation' = _ := hquotation
        obtain rfl : skips' = _ := hskips
        obtain rfl : segment' = _ := hsegment
        obtain rfl : done' = _ := hdone
        rfl
      rw [List.foldl_cons, hstep, hrest]
      simp

end Cut

/-- A text that leaves nothing open has its segments in front of any other; its last one goes on in
the first one of the other. -/
theorem segments_append {cs : List Char} (h : (Cut.of cs).Opens .bare) (ds : List Char) :
    ∃ first rest, segments ds = first :: rest ∧
      segments (cs ++ ds) =
        (Cut.of cs).done.reverse ++ ((Cut.of cs).segment.reverse ++ first) :: rest := by
  obtain ⟨first, rest, hfinish⟩ := Cut.exists_finish_foldl none false ds
  refine ⟨first, rest, hfinish [] [], ?_⟩
  rw [segments, Cut.of, List.foldl_append, ← Cut.of]
  generalize Cut.of cs = s at h ⊢
  obtain ⟨quotation, skips, segment, done⟩ := s
  obtain ⟨rfl, rfl⟩ : quotation = none ∧ skips = false := h
  exact hfinish segment done

/-- A text that is one segment and leaves nothing open is the first segment of a line in which a
pipe comes after it. -/
theorem segments_append_cons {p : List Char} (hpipe : ¬HasPipe p)
    (hbare : Mode.bare.after p = .bare) (cs : List Char) :
    segments (p ++ '|' :: cs) = p :: segments cs := by
  have hends : (Cut.of p).Ends '|' := (Cut.ends_of_iff p '|').mpr ⟨hbare, rfl⟩
  have hdone := (done_eq_nil_iff p).mpr hpipe
  have hsegment : (Cut.of p).segment.reverse = p := by
    have hself : segments p = [p] := segments_of_not_hasPipe hpipe
    rw [segments, Cut.finish, hdone, List.reverse_singleton] at hself
    exact List.head_eq_of_cons_eq hself
  have hsplit : Cut.of (p ++ ['|']) = (Cut.of p).split := by
    rw [Cut.of, List.foldl_append, ← Cut.of, List.foldl_cons, Cut.step_of_ends hends]
    rfl
  have hopens : (Cut.of (p ++ ['|'])).Opens .bare := by
    rw [hsplit]
    exact hends.1
  obtain ⟨first, rest, hcs, happend⟩ := segments_append hopens cs
  rw [← List.singleton_append, ← List.append_assoc, happend, hsplit, Cut.split, hdone, hsegment,
    hcs]
  rfl

/-! ## Joined texts -/

/-- **Texts that are joined with pipes are the segments of the line** exactly if each of them is one
segment and none before the last leaves anything open. -/
theorem segments_joinWith_iff (ps : List (List Char)) :
    segments (joinWith '|' ps) = ps ↔
      ps ≠ [] ∧ (∀ p ∈ ps, segments p = [p]) ∧ ∀ p ∈ ps.dropLast, Mode.bare.after p = .bare := by
  constructor
  · intro h
    have hne : ps ≠ [] := by
      rintro rfl
      cases h
    refine ⟨hne, ?_, ?_⟩
    · intro p hp
      rw [← h] at hp
      exact segments_of_not_hasPipe (not_hasPipe_of_mem_segments hp)
    · intro p hp
      obtain ⟨before, after, hsplit⟩ := List.append_of_mem hp
      have hps : ps = before ++ p :: (after ++ [ps.getLast hne]) := by
        rw [← List.cons_append, ← List.append_assoc, ← hsplit, List.dropLast_concat_getLast hne]
      exact after_eq_bare_of_segments (h.trans hps) (by simp) p (by simp)
  · rintro ⟨hne, hself, hclosed⟩
    induction ps with
    | nil => exact absurd rfl hne
    | cons p ps ih =>
      obtain ⟨hp, hps⟩ := List.forall_mem_cons.mp hself
      by_cases hlast : ps = []
      · rw [hlast, joinWith, hp]
      · rw [List.dropLast_cons_of_ne_nil hlast, List.forall_mem_cons] at hclosed
        rw [joinWith_cons_of_ne_nil '|' p hlast,
          segments_append_cons ((segments_eq_singleton_iff p).mp hp) hclosed.1,
          ih hlast hps hclosed.2]

theorem splitPipeline_ofList (cs : List Char) :
    splitPipeline (String.ofList cs) = (segments cs).map String.ofList := by
  rw [splitPipeline, String.toList_ofList]

theorem map_ofList_inj {ps qs : List (List Char)} :
    ps.map String.ofList = qs.map String.ofList ↔ ps = qs :=
  List.map_inj_right fun _ _ h ↦ String.ofList_injective h

theorem splitPipeline_eq_singleton_iff (p : String) :
    splitPipeline p = [p] ↔ segments p.toList = [p.toList] := by
  have hp : [p] = [p.toList].map String.ofList := by simp
  rw [splitPipeline, hp, map_ofList_inj]

/-- **Cutting at pipes and joining with pipes are inverse to each other.** Joining the segments of a
line gives the line, and each segment is cut into itself alone. Texts that are joined are the
segments of the line exactly if there are any, each is cut into itself alone, and none before the
last ends in a quotation or with a backslash that waits for the next character. -/
theorem splitPipeline_inverse :
    (∀ line, "|".intercalate (splitPipeline line) = line ∧
      ∀ segment ∈ splitPipeline line, splitPipeline segment = [segment]) ∧
    ∀ texts, splitPipeline ("|".intercalate texts) = texts ↔
      texts ≠ [] ∧ (∀ text ∈ texts, splitPipeline text = [text]) ∧
        ∀ text ∈ texts.dropLast,
          (Cut.of text.toList).quotation = none ∧ (Cut.of text.toList).skips = false := by
  refine ⟨fun line ↦ ⟨?_, ?_⟩, fun texts ↦ ?_⟩
  · refine String.toList_injective ?_
    rw [splitPipeline, toList_intercalate_ofList '|' rfl, joinWith_segments]
  · intro segment hsegment
    obtain ⟨p, hp, rfl⟩ := List.mem_map.mp hsegment
    rw [splitPipeline_ofList, segments_of_not_hasPipe (not_hasPipe_of_mem_segments hp),
      List.map_singleton]
  · obtain ⟨ps, rfl⟩ : ∃ ps, texts = List.map String.ofList ps :=
      ⟨texts.map String.toList, by simp⟩
    rw [splitPipeline, toList_intercalate_ofList '|' rfl, map_ofList_inj, segments_joinWith_iff]
    simp only [ne_eq, List.map_eq_nil_iff, List.forall_mem_map, splitPipeline_eq_singleton_iff,
      String.toList_ofList, ← List.map_dropLast]
    refine and_congr_right fun _ ↦ and_congr_right fun _ ↦ forall₂_congr fun p _ ↦ ?_
    exact (Cut.opens_bare_of_iff p).symm

end CommandShell.Line

import CommandShell.Proofs.Line.Rendering
import CommandShell.Proofs.Text.Sequences
import CommandShell.Text.Lines

/-!
# What trimming and cutting leave

Trimming takes characters away and nothing else, and a second time it takes nothing. Cutting a text
at a separator leaves pieces without the separator, and such pieces are what a cut gives back. For
lines there is one step before the cut, which makes every line end a line feed; it leaves alone what
has no carriage return in it.

Where two texts meet, a line goes on: the last line of the first and the first line of the second
are one line of the whole (`splitAt_append`).
-/

namespace CommandShell.Text

/-! ## Trimming -/

theorem isPrefix_trimEnd (cs : List Char) : trimEnd cs <+: cs := by
  have hsuffix := List.dropWhile_suffix (l := cs.reverse) isBlank
  rw [← List.reverse_prefix, List.reverse_reverse] at hsuffix
  exact hsuffix

theorem head?_trimEnd {cs : List Char} {c : Char} (h : (trimEnd cs).head? = some c) :
    cs.head? = some c := by
  obtain ⟨rest, hrest⟩ := isPrefix_trimEnd cs
  rw [← hrest, List.head?_append, h, Option.some_or]

theorem tight_trim {cs : List Char} (hne : trim cs ≠ []) : Line.Tight (trim cs) := by
  refine ⟨hne, fun c hc ↦ ?_, fun c hc ↦ ?_⟩
  · exact head?_dropWhile isBlank cs c (head?_trimEnd hc)
  · rw [trim, trimEnd, List.getLast?_reverse] at hc
    exact head?_dropWhile isBlank _ c hc

@[simp] theorem trim_trim (cs : List Char) : trim (trim cs) = trim cs := by
  by_cases hne : trim cs = []
  · rw [hne, trim_nil]
  · exact (tight_trim hne).trim

theorem mem_of_mem_trim {cs : List Char} {c : Char} (h : c ∈ trim cs) : c ∈ cs :=
  (List.dropWhile_suffix isBlank).subset ((isPrefix_trimEnd _).subset h)

/-- Nothing is left of a text exactly if all of it is blank. -/
theorem trim_eq_nil_iff {cs : List Char} : trim cs = [] ↔ ∀ c ∈ cs, isBlank c = true := by
  constructor
  · intro h
    have hrest : ∀ c ∈ cs.dropWhile isBlank, isBlank c = true := by
      rw [trim, trimEnd, List.reverse_eq_nil_iff, List.dropWhile_eq_nil_iff] at h
      intro c hc
      exact h c (List.mem_reverse.mpr hc)
    -- what comes after the first blanks would begin with a character that is none
    have hnil : cs.dropWhile isBlank = [] := by
      cases hdrop : cs.dropWhile isBlank with
      | nil => rfl
      | cons c rest =>
        have hhead := head?_dropWhile isBlank cs c (by rw [hdrop]; rfl)
        rw [hrest c (by rw [hdrop]; exact List.mem_cons_self)] at hhead
        cases hhead
    exact List.dropWhile_eq_nil_iff.mp hnil
  · intro h
    rw [trim, List.dropWhile_eq_nil_iff.mpr h]
    rfl

theorem trim_blanks_append {lead : List Char} (h : ∀ c ∈ lead, isBlank c = true) (cs : List Char) :
    trim (lead ++ cs) = trim cs := by
  rw [trim, List.dropWhile_append_of_pos h, trim]

theorem trim_append_blanks (cs : List Char) {trail : List Char}
    (h : ∀ c ∈ trail, isBlank c = true) : trim (cs ++ trail) = trim cs := by
  have hend (ds : List Char) : trimEnd (ds ++ trail) = trimEnd ds := by
    rw [trimEnd, List.reverse_append, List.dropWhile_append_of_pos (by simpa using h), trimEnd]
  rw [trim, List.dropWhile_append, trim]
  split_ifs with hblank
  · rw [List.isEmpty_iff.mp hblank, List.dropWhile_eq_nil_iff.mpr h]
  · exact hend _

theorem isInfix_trim (cs : List Char) : trim cs <:+: cs :=
  (isPrefix_trimEnd _).isInfix.trans (List.dropWhile_suffix isBlank).isInfix

/-! ## Cutting -/

theorem splitAt_of_notMem {sep : Char} {cs : List Char} (h : sep ∉ cs) : splitAt sep cs = [cs] := by
  induction cs with
  | nil => rfl
  | cons c cs ih =>
    rw [List.mem_cons, not_or] at h
    rw [splitAt_cons, ih h.2, splitStep, if_neg (Ne.symm h.1)]
    rfl

theorem splitAt_append_sep (sep : Char) (cs ds : List Char) :
    splitAt sep (cs ++ sep :: ds) = splitAt sep cs ++ splitAt sep ds := by
  induction cs with
  | nil => rw [List.nil_append, splitAt_cons, splitStep, if_pos rfl, splitAt_nil,
      List.singleton_append]
  | cons c cs ih =>
    obtain ⟨p, ps, h⟩ := List.exists_cons_of_ne_nil (splitAt_ne_nil sep cs)
    rw [List.cons_append, splitAt_cons, ih, splitAt_cons, h, splitStep, splitStep]
    split_ifs <;> rfl

theorem splitString_append_sep {sep : Char} {between : String} (h : between.toList = [sep])
    (s t : String) :
    splitString sep (s ++ between ++ t) = splitString sep s ++ splitString sep t := by
  simp only [splitString, String.toList_append, h, List.append_assoc, List.singleton_append,
    splitAt_append_sep, List.map_append]

theorem splitString_of_notMem {sep : Char} {s : String} (h : sep ∉ s.toList) :
    splitString sep s = [s] := by
  rw [splitString, splitAt_of_notMem h, List.map_singleton, String.ofList_toList]

theorem splitAt_append_cons {sep : Char} {p : List Char} (h : sep ∉ p) (cs : List Char) :
    splitAt sep (p ++ sep :: cs) = p :: splitAt sep cs := by
  rw [splitAt_append_sep, splitAt_of_notMem h, List.singleton_append]

theorem splitAt_joinWith {sep : Char} {ps : List (List Char)} (hne : ps ≠ [])
    (h : ∀ p ∈ ps, sep ∉ p) : splitAt sep (joinWith sep ps) = ps := by
  induction ps with
  | nil => exact absurd rfl hne
  | cons p ps ih =>
    obtain ⟨hp, hps⟩ := List.forall_mem_cons.mp h
    by_cases hlast : ps = []
    · rw [hlast]
      exact splitAt_of_notMem hp
    · rw [joinWith_cons_of_ne_nil sep p hlast, splitAt_append_cons hp, ih hlast hps]

/-- The characters of a piece are characters of the text, and none of them is the separator. -/
theorem mem_of_mem_splitAt {sep : Char} {cs p : List Char} (hp : p ∈ splitAt sep cs) {c : Char}
    (hc : c ∈ p) : c ∈ cs ∧ c ≠ sep := by
  induction cs generalizing p with
  | nil =>
    rw [splitAt_nil, List.mem_singleton] at hp
    subst hp
    cases hc
  | cons d cs ih =>
    -- the first piece of the rest grows by one character, unless that is the separator
    obtain ⟨q, qs, hsplit⟩ := List.exists_cons_of_ne_nil (splitAt_ne_nil sep cs)
    rw [hsplit] at ih
    rw [splitAt_cons, splitStep, hsplit] at hp
    split_ifs at hp with hd
    · rcases List.mem_cons.mp hp with rfl | hp
      · cases hc
      · exact (ih hp hc).imp_left (List.mem_cons_of_mem d)
    · rcases List.mem_cons.mp hp with rfl | hp
      · rcases List.mem_cons.mp hc with rfl | hc
        · exact ⟨List.mem_cons_self, hd⟩
        · exact (ih List.mem_cons_self hc).imp_left (List.mem_cons_of_mem d)
      · exact (ih (List.mem_cons_of_mem q hp) hc).imp_left (List.mem_cons_of_mem d)

theorem mem_joinWith {sep c : Char} {ps : List (List Char)} (h : c ∈ joinWith sep ps) :
    c = sep ∨ ∃ p ∈ ps, c ∈ p := by
  induction ps with
  | nil => cases h
  | cons p ps ih =>
    by_cases hlast : ps = []
    · subst hlast
      exact .inr ⟨p, List.mem_cons_self, h⟩
    · rw [joinWith_cons_of_ne_nil sep p hlast] at h
      rcases List.mem_append.mp h with h | h
      · exact .inr ⟨p, List.mem_cons_self, h⟩
      · rcases List.mem_cons.mp h with h | h
        · exact .inl h
        · exact (ih h).imp_right fun ⟨q, hq, hc⟩ ↦ ⟨q, List.mem_cons_of_mem p hq, hc⟩

/-- Where two texts meet, the last piece of the one and the first piece of the other are one. -/
theorem splitAt_append {sep : Char} {cs ds p q : List Char} {ps qs : List (List Char)}
    (hc : splitAt sep cs = ps ++ [p]) (hd : splitAt sep ds = q :: qs) :
    splitAt sep (cs ++ ds) = ps ++ (p ++ q) :: qs := by
  have hjoin : cs ++ ds = joinWith sep (ps ++ (p ++ q) :: qs) := by
    rw [← joinWith_splitAt sep cs, ← joinWith_splitAt sep ds, hc, hd]
    by_cases hqs : qs = []
    · rw [hqs, joinWith_concat_append]
      rfl
    · rw [joinWith_cons_of_ne_nil sep q hqs, ← List.append_assoc, ← joinWith_concat_append,
        List.append_cons ps (p ++ q) qs, joinWith_append sep (by simp) hqs]
  have hpieces : ∀ piece ∈ ps ++ (p ++ q) :: qs, sep ∉ piece := by
    have hcs : ∀ piece ∈ ps ++ [p], sep ∉ piece := by
      intro piece hpiece hmem
      exact (mem_of_mem_splitAt (hc ▸ hpiece) hmem).2 rfl
    have hds : ∀ piece ∈ q :: qs, sep ∉ piece := by
      intro piece hpiece hmem
      exact (mem_of_mem_splitAt (hd ▸ hpiece) hmem).2 rfl
    grind
  rw [hjoin, splitAt_joinWith (by simp) hpieces]

/-! ## Line ends -/

theorem unifyStep_of_ne {c : Char} (h : c ≠ '\r') (rest : List Char × Bool) :
    (unifyStep c rest).1 = c :: rest.1 := by
  unfold unifyStep
  rw [if_neg h]
  split_ifs with hc
  · rw [hc]
  · rfl

theorem unifyLineEnds_of_notMem {cs : List Char} (h : '\r' ∉ cs) : unifyLineEnds cs = cs := by
  induction cs with
  | nil => rfl
  | cons c cs ih =>
    rw [List.mem_cons, not_or] at h
    rw [unifyLineEnds, List.foldr_cons, unifyStep_of_ne (Ne.symm h.1)]
    exact congrArg (c :: ·) (ih h.2)

/-- A character is put in front of the first text alone, unless the second begins with a line feed
that it would join. -/
theorem unifyStep_append (c : Char) (rest : List Char × Bool) (ds : List Char) :
    unifyStep c (rest.1 ++ ds, rest.2) =
      ((unifyStep c rest).1 ++ ds, (unifyStep c rest).2) := by
  obtain ⟨cs, begins⟩ := rest
  unfold unifyStep
  split_ifs
  · cases begins <;> rfl
  · rfl
  · rfl

/-- Line ends do not reach into a text without carriage returns that does not begin with a line
feed. -/
theorem unifyLineEnds_append {ds : List Char} (hreturn : '\r' ∉ ds) (hfeed : ds.head? ≠ some '\n')
    (cs : List Char) : unifyLineEnds (cs ++ ds) = unifyLineEnds cs ++ ds := by
  have hds : ds.foldr unifyStep ([], false) = (ds, false) := by
    refine Prod.ext (unifyLineEnds_of_notMem hreturn) ?_
    cases ds with
    | nil => rfl
    | cons d ds =>
      rw [List.mem_cons, not_or] at hreturn
      have hne : d ≠ '\n' := by simpa using hfeed
      rw [List.foldr_cons]
      unfold unifyStep
      rw [if_neg (Ne.symm hreturn.1), if_neg hne]
  have hcs : cs.foldr unifyStep (ds, false) =
      (unifyLineEnds cs ++ ds, (cs.foldr unifyStep ([], false)).2) := by
    induction cs with
    | nil => rfl
    | cons c cs ih =>
      rw [List.foldr_cons, ih]
      exact unifyStep_append c (cs.foldr unifyStep ([], false)) ds
  rw [unifyLineEnds, List.foldr_append, hds, hcs]

theorem suffix_unifyStep (c : Char) (rest : List Char × Bool) :
    rest.1 <:+ (unifyStep c rest).1 := by
  obtain ⟨cs, begins⟩ := rest
  unfold unifyStep
  split_ifs
  · cases begins with
    | false => exact List.suffix_cons _ _
    | true => exact List.suffix_refl _
  · exact List.suffix_cons _ _
  · exact List.suffix_cons _ _

theorem getLast?_unifyLineEnds {cs : List Char} (h : cs.getLast? = some '\n') :
    (unifyLineEnds cs).getLast? = some '\n' := by
  induction cs with
  | nil => cases h
  | cons c cs ih =>
    cases cs with
    | nil =>
      obtain rfl := Option.some.inj h
      rfl
    | cons d cs =>
      have hrest := ih h
      obtain ⟨front, hfront⟩ := suffix_unifyStep c ((d :: cs).foldr unifyStep ([], false))
      have hwhole : front ++ unifyLineEnds (d :: cs) = unifyLineEnds (c :: d :: cs) := hfront
      rw [← hwhole, List.getLast?_append, hrest, Option.some_or]

theorem notMem_unifyLineEnds (cs : List Char) : '\r' ∉ unifyLineEnds cs := by
  induction cs with
  | nil => exact List.not_mem_nil
  | cons c cs ih =>
    rw [unifyLineEnds] at ih ⊢
    rw [List.foldr_cons]
    generalize cs.foldr unifyStep ([], false) = rest at ih ⊢
    by_cases hc : c = '\r'
    · obtain ⟨rest, begins⟩ := rest
      cases begins <;> simp_all [unifyStep]
    · rw [unifyStep_of_ne hc, List.mem_cons, not_or]
      exact ⟨Ne.symm hc, ih⟩

theorem notMem_of_mem_lines {cs line : List Char} (h : line ∈ lines cs) :
    '\n' ∉ line ∧ '\r' ∉ line := by
  constructor
  · intro hmem
    exact (mem_of_mem_splitAt h hmem).2 rfl
  · intro hmem
    exact notMem_unifyLineEnds cs (mem_of_mem_splitAt h hmem).1

end CommandShell.Text

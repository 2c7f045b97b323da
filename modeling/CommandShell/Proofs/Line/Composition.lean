import CommandShell.Proofs.Line.RoundTrip

/-!
# What extraction keeps, and how it composes

The words of a segment are items, plain words and operators with their targets, and behind them at
most one word more: an operator that is the last word and so has no target (`exists_tokensOf`).
Extraction goes from item to item, and between two items it can be stopped and taken up again
(`extract_tokensOf_append`).

Two statements follow. Nothing gets lost: what is left are the plain words, and what is taken out
are the operators and targets between them. Taking them out brings words together that were apart,
but no word that is left before another one is an operator, so a second extraction finds nothing.
And segments compose: the words of two segments in one list say what the two say one after the
other, unless the first one leaves an operator at its end, which finds its target in the second.

Inside a segment targets are set one after another, and the redirections of segments are merged.
Both are one and the same overlay, since to set a target is to merge with that target alone
(`Redirection.set_eq_merge`).
-/

namespace CommandShell.Line

/-! ## Item by item -/

/-- The words of a segment are those of items, and perhaps one operator at the end. -/
theorem exists_tokensOf (ws : List String) :
    ∃ (items : List Item) (last : Option String), ws = tokensOf items ++ last.toList ∧
      ∀ word ∈ last, Operator.ofWord? word ≠ none := by
  have hnone : ∀ word ∈ (none : Option String), Operator.ofWord? word ≠ none :=
    fun _ hword ↦ absurd hword (Option.not_mem_none _)
  induction ws using extract.induct with
  | case1 => exact ⟨[], none, rfl, hnone⟩
  | case2 word =>
    by_cases h : Operator.ofWord? word = none
    · exact ⟨[.word word h], none, rfl, hnone⟩
    · refine ⟨[], some word, rfl, fun stray hstray ↦ ?_⟩
      rwa [← Option.mem_some.mp hstray]
  | case3 word next rest op h ih =>
    obtain ⟨items, last, hrest, hlast⟩ := ih
    refine ⟨.redirection word op h next :: items, last, ?_, hlast⟩
    rw [hrest, tokensOf_redirection, List.cons_append, List.cons_append]
  | case4 word next rest h ih =>
    obtain ⟨items, last, hrest, hlast⟩ := ih
    refine ⟨.word word h :: items, last, ?_, hlast⟩
    rw [hrest, tokensOf_word, List.cons_append]

theorem extract_tokensOf_append (items : List Item) (rest : List String) :
    extract (tokensOf items ++ rest) =
      (items.filterMap Item.word? ++ (extract rest).1,
        (extract (tokensOf items)).2.merge (extract rest).2) := by
  induction items with
  | nil => exact Prod.ext rfl (Redirection.empty_merge _).symm
  | cons item items ih =>
    cases item with
    | word text plain =>
      rw [tokensOf_word, List.cons_append, extract_cons_of_plain plain, extract_cons_of_plain plain,
        ih]
      rfl
    | redirection spelling op spells path =>
      rw [tokensOf_redirection, List.cons_append, List.cons_append, extract_operator spells,
        extract_operator spells, ih, Redirection.merge_assoc]
      rfl

theorem extract_tokensOf_append_toList (items : List Item) (last : Option String) :
    extract (tokensOf items ++ last.toList) =
      (items.filterMap Item.word? ++ last.toList, (extract (tokensOf items)).2) := by
  have hlast : extract last.toList = (last.toList, {}) := by
    cases last <;> rfl
  rw [extract_tokensOf_append, hlast, Redirection.merge_empty]

theorem ofWord?_of_mem_filterMap {items : List Item} {word : String}
    (h : word ∈ items.filterMap Item.word?) : Operator.ofWord? word = none := by
  obtain ⟨item, -, hitem⟩ := List.mem_filterMap.mp h
  cases item with
  | word text plain =>
    cases hitem
    exact plain
  | redirection => cases hitem

/-! ## Nothing gets lost -/

theorem ofWord?_of_mem_dropLast_extract {ws : List String} :
    ∀ word ∈ (extract ws).1.dropLast, Operator.ofWord? word = none := by
  obtain ⟨items, last, rfl, -⟩ := exists_tokensOf ws
  intro word hword
  rw [extract_tokensOf_append_toList] at hword
  cases last with
  | none =>
    rw [Option.toList_none, List.append_nil] at hword
    exact ofWord?_of_mem_filterMap (List.dropLast_subset _ hword)
  | some stray =>
    rw [Option.toList_some, List.dropLast_concat] at hword
    exact ofWord?_of_mem_filterMap hword

theorem getLast?_eq_of_mem_getLast?_extract {ws : List String} :
    ∀ word ∈ (extract ws).1.getLast?, Operator.ofWord? word ≠ none → ws.getLast? = some word := by
  obtain ⟨items, last, rfl, -⟩ := exists_tokensOf ws
  intro word hword hoperator
  rw [extract_tokensOf_append_toList] at hword
  cases last with
  | none =>
    rw [Option.toList_none, List.append_nil] at hword
    exact absurd (ofWord?_of_mem_filterMap (List.mem_of_getLast? hword)) hoperator
  | some stray =>
    rw [Option.toList_some, List.getLast?_concat] at hword ⊢
    exact hword

/-- **Extraction loses nothing, and a second one changes nothing.** An operator is left only as the
last word of all. The words given are those that are left, in their order, with operators and their
targets between them, and of these targets the last one counts for each stream. -/
theorem extract_loses_nothing (ws : List String) :
    (∀ word ∈ (extract ws).1.dropLast, Operator.ofWord? word = none) ∧
      (∀ word ∈ (extract ws).1.getLast?, Operator.ofWord? word ≠ none →
        ws.getLast? = some word) ∧
      extract (extract ws).1 = ((extract ws).1, {}) ∧
      ∃ (items : List Item) (last : Option String),
        (∀ word ∈ last, Operator.ofWord? word ≠ none) ∧
        ws = tokensOf items ++ last.toList ∧
        (extract ws).1 = items.filterMap Item.word? ++ last.toList ∧
        ∀ stream, (extract ws).2.target? stream = lastTarget stream items := by
  refine ⟨ofWord?_of_mem_dropLast_extract, getLast?_eq_of_mem_getLast?_extract,
    (extract_eq_self_iff _).mpr ofWord?_of_mem_dropLast_extract, ?_⟩
  obtain ⟨items, last, rfl, hlast⟩ := exists_tokensOf ws
  refine ⟨items, last, hlast, rfl, ?_⟩
  rw [extract_tokensOf_append_toList]
  exact ⟨rfl, (extract_tokensOf items).2⟩

/-- Operators follow each other, are targets and come last, and `cmd`, `a` and `>` come together. -/
theorem extract_loses_nothing_crowded :
    extract ["cmd", "2>", ">>", ">", "one", "a", "1>", "two", ">"] =
        (["cmd", "a", ">"], { output := some ⟨"two", false⟩, errors := some ⟨">>", false⟩ }) ∧
      extract ["cmd", "a", ">"] = (["cmd", "a", ">"], {}) ∧
      ∃ (items : List Item) (last : Option String),
        (∀ word ∈ last, Operator.ofWord? word ≠ none) ∧
        ["cmd", "2>", ">>", ">", "one", "a", "1>", "two", ">"] = tokensOf items ++ last.toList ∧
        ["cmd", "a", ">"] = items.filterMap Item.word? ++ last.toList ∧
        lastTarget .output items = some ⟨"two", false⟩ ∧
        lastTarget .errors items = some ⟨">>", false⟩ := by
  have hextract : extract ["cmd", "2>", ">>", ">", "one", "a", "1>", "two", ">"] =
      (["cmd", "a", ">"], { output := some ⟨"two", false⟩, errors := some ⟨">>", false⟩ }) := rfl
  obtain ⟨-, -, hagain, items, last, hlast, hwords, hleft, htarget⟩ :=
    extract_loses_nothing ["cmd", "2>", ">>", ">", "one", "a", "1>", "two", ">"]
  rw [hextract] at hagain hleft htarget
  exact ⟨hextract, hagain, items, last, hlast, hwords, hleft, (htarget .output).symm,
    (htarget .errors).symm⟩

/-! ## One segment behind another -/

/-- What is left of the words does not end in an operator, which would take one word more for its
target. -/
def EndsPlain (ws : List String) : Prop :=
  ∀ word ∈ (extract ws).1.getLast?, Operator.ofWord? word = none

instance : DecidablePred EndsPlain :=
  fun ws ↦ inferInstanceAs (Decidable (∀ word ∈ (extract ws).1.getLast?, _))

theorem EndsPlain.exists_tokensOf {ws : List String} (h : EndsPlain ws) :
    ∃ items : List Item, ws = tokensOf items := by
  obtain ⟨items, last, rfl, hlast⟩ := Line.exists_tokensOf ws
  cases last with
  | none => exact ⟨items, List.append_nil _⟩
  | some stray =>
    -- a stray operator would be left at the end
    rw [EndsPlain, extract_tokensOf_append_toList, Option.toList_some, List.getLast?_concat] at h
    exact absurd (h stray rfl) (hlast stray rfl)

theorem EndsPlain.extract_append {ws : List String} (h : EndsPlain ws) (more : List String) :
    extract (ws ++ more) =
      ((extract ws).1 ++ (extract more).1, (extract ws).2.merge (extract more).2) := by
  obtain ⟨items, rfl⟩ := h.exists_tokensOf
  rw [extract_tokensOf_append, (extract_tokensOf items).1]

theorem extract_flatten {rows : List (List String)} (h : ∀ row ∈ rows.dropLast, EndsPlain row) :
    extract rows.flatten =
      (rows.flatMap fun row ↦ (extract row).1, mergeAll (rows.map fun row ↦ (extract row).2)) := by
  induction rows with
  | nil => rfl
  | cons row rows ih =>
    cases rows with
    | nil =>
      -- the last segment may leave an operator, for nothing comes behind it
      simp [mergeAll]
    | cons next rows =>
      rw [List.dropLast_cons_cons, List.forall_mem_cons] at h
      rw [List.flatten_cons, h.1.extract_append, ih h.2]
      rfl

/-! ## Targets laid over targets -/

theorem Redirection.set_eq_merge (r : Redirection) (op : Operator) (path : String) :
    r.set op path = r.merge (Redirection.set {} op path) := by
  refine Redirection.ext_target? fun stream ↦ ?_
  simp only [target?_set, target?_merge, target?_empty]
  -- for the stream of the operator the new target counts, for the other one the old
  split_ifs <;> rfl

def extractOn (found : List String × Redirection) : List String → List String × Redirection
  | [] => found
  | [word] => (found.1 ++ [word], found.2)
  | word :: next :: rest =>
    match Operator.ofWord? word with
    | some op => extractOn (found.1, found.2.set op next) rest
    | none => extractOn (found.1 ++ [word], found.2) (next :: rest)

theorem extractOn_eq (found : List String × Redirection) (ws : List String) :
    extractOn found ws = (found.1 ++ (extract ws).1, found.2.merge (extract ws).2) := by
  induction ws using extract.induct generalizing found with
  | case1 => simp [extractOn, extract]
  | case2 word => simp [extractOn, extract]
  | case3 word next rest op h ih =>
    simp only [extractOn, h]
    rw [ih, extract_operator h, Redirection.set_eq_merge, Redirection.merge_assoc]
  | case4 word next rest h ih =>
    simp only [extractOn, h]
    rw [ih, extract_cons_of_plain h, List.append_assoc, List.singleton_append]

theorem foldl_merge (r : Redirection) (rs : List Redirection) :
    rs.foldl Redirection.merge r = r.merge (mergeAll rs) := by
  induction rs generalizing r with
  | nil => exact (Redirection.merge_empty r).symm
  | cons s rs ih => rw [List.foldl_cons, ih, Redirection.merge_assoc]; rfl

/-- **Extraction composes.** Behind words that leave no operator at the end it makes no difference
whether extraction goes on, setting one target after another, or begins anew and the two results are
merged. So segments of which none but the last leaves an operator at the end redirect, merged in
order, what their words redirect in one list. -/
theorem extract_composes :
    (∀ ws more : List String, EndsPlain ws →
        extract (ws ++ more) =
            ((extract ws).1 ++ (extract more).1, (extract ws).2.merge (extract more).2) ∧
          extract (ws ++ more) = extractOn (extract ws) more) ∧
      ∀ rows : List (List String), (∀ row ∈ rows.dropLast, EndsPlain row) →
        (rows.map fun row ↦ (extract row).2).foldl Redirection.merge {} =
          (extract rows.flatten).2 := by
  constructor
  · intro ws more hplain
    refine ⟨hplain.extract_append more, ?_⟩
    rw [hplain.extract_append, extractOn_eq]
  · intro rows hplain
    rw [foldl_merge, Redirection.empty_merge, extract_flatten hplain]

/-- Three segments with operators for targets, the last one with an operator at its end. -/
theorem extract_composes_threeSegments :
    EndsPlain ["cmd", "2>", ">>", "a"] ∧ EndsPlain [">", "one", "1>>", ">"] ∧
      extract ["cmd", "2>", ">>", "a", ">", "one", "1>>", ">"] =
        (["cmd", "a"], { output := some ⟨">", true⟩, errors := some ⟨">>", false⟩ }) ∧
      ¬EndsPlain ["b", "2>>", "log", ">"] ∧
      (extract ["cmd", "2>", ">>", "a", ">", "one", "1>>", ">", "b", "2>>", "log", ">"]).2 =
        { output := some ⟨">", true⟩, errors := some ⟨"log", true⟩ } := by
  have hfirst : EndsPlain ["cmd", "2>", ">>", "a"] := by decide
  have hsecond : EndsPlain [">", "one", "1>>", ">"] := by decide
  have htwo := (extract_composes.1 _ [">", "one", "1>>", ">"] hfirst).1
  have hthree := extract_composes.2
    [["cmd", "2>", ">>", "a"], [">", "one", "1>>", ">"], ["b", "2>>", "log", ">"]]
    (List.forall_mem_cons.mpr ⟨hfirst, List.forall_mem_singleton.mpr hsecond⟩)
  exact ⟨hfirst, hsecond, htwo, by decide, hthree.symm⟩

end CommandShell.Line

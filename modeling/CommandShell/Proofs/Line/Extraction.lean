import CommandShell.Line.Redirection

/-!
# Extraction of redirections

`extract` goes over the words of a segment from left to right and takes out every operator that has
a word after it, together with that word. What it leaves is shorter by two words for each operator
taken out, so the words come through untouched exactly if no operator has a word after it.

For each stream the target that counts is the last one, and the two ways in which targets meet,
`Redirection.set` inside a segment and `Redirection.merge` across segments, are both the choice of
the later one.
-/

namespace CommandShell.Line

namespace Redirection

def target? (r : Redirection) : Stream → Option Target
  | .output => r.output
  | .errors => r.errors

theorem ext_target? {a b : Redirection} (h : ∀ stream, a.target? stream = b.target? stream) :
    a = b := by
  obtain ⟨aOutput, aErrors⟩ := a
  obtain ⟨bOutput, bErrors⟩ := b
  obtain rfl : aOutput = bOutput := h .output
  obtain rfl : aErrors = bErrors := h .errors
  rfl

@[simp] theorem target?_empty (stream : Stream) : target? {} stream = none := by
  cases stream <;> rfl

@[simp] theorem target?_merge (a b : Redirection) (stream : Stream) :
    (a.merge b).target? stream = (b.target? stream).or (a.target? stream) := by
  cases stream <;> exact Option.orElse_eq_or ..

@[simp] theorem target?_set (r : Redirection) (op : Operator) (path : String) (stream : Stream) :
    (r.set op path).target? stream =
      if op.stream = stream then some ⟨path, op.append⟩ else r.target? stream := by
  obtain ⟨opStream, append⟩ := op
  cases opStream <;> cases stream <;> rfl

end Redirection

/-! ## One word of a segment -/

theorem extract_cons_of_plain {word : String} (h : Operator.ofWord? word = none)
    (rest : List String) :
    extract (word :: rest) = (word :: (extract rest).1, (extract rest).2) := by
  cases rest with
  | nil => rfl
  | cons next rest => simp only [extract, h]

theorem extract_operator {word : String} {op : Operator} (h : Operator.ofWord? word = some op)
    (path : String) (rest : List String) :
    extract (word :: path :: rest) =
      ((extract rest).1, (Redirection.set {} op path).merge (extract rest).2) := by
  simp only [extract, h]

theorem extract_append_of_plain {words : List String}
    (h : ∀ word ∈ words, Operator.ofWord? word = none) (rest : List String) :
    extract (words ++ rest) = (words ++ (extract rest).1, (extract rest).2) := by
  induction words with
  | nil => rfl
  | cons word words ih =>
    obtain ⟨hword, hwords⟩ := List.forall_mem_cons.mp h
    rw [List.cons_append, extract_cons_of_plain hword, ih hwords, List.cons_append]

/-! ## Words that come through untouched -/

theorem length_extract_le (words : List String) : (extract words).1.length ≤ words.length := by
  induction words using extract.induct with
  | case1 => exact Nat.le_refl _
  | case2 word => exact Nat.le_refl _
  | case3 word next rest op h ih =>
    rw [extract_operator h, List.length_cons, List.length_cons]
    exact Nat.le_add_right_of_le (Nat.le_add_right_of_le ih)
  | case4 word next rest h ih =>
    rw [extract_cons_of_plain h, List.length_cons, List.length_cons]
    exact Nat.succ_le_succ ih

/-- **Nothing is taken out exactly if no operator has a word after it.** -/
theorem extract_eq_self_iff (words : List String) :
    extract words = (words, {}) ↔ ∀ word ∈ words.dropLast, Operator.ofWord? word = none := by
  induction words using extract.induct with
  | case1 => simp [extract]
  | case2 word => simp [extract]
  | case3 word next rest op h ih =>
    rw [extract_operator h]
    constructor
    · -- an operator with a target makes the words fewer
      intro heq
      have hwords := congrArg List.length (congrArg Prod.fst heq)
      have hle := length_extract_le rest
      simp only [List.length_cons] at hwords
      omega
    · intro hplain
      have hword := hplain word (by simp [List.dropLast])
      rw [h] at hword
      cases hword
  | case4 word next rest h ih =>
    rw [extract_cons_of_plain h, List.dropLast_cons_cons, List.forall_mem_cons, ← ih]
    simp [h, Prod.ext_iff]

end CommandShell.Line

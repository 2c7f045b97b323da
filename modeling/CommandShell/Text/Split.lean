/-!
# Cutting a text at a separator

`splitAt` cuts at every occurrence of a separator, so a text with `n` separators has `n + 1`
pieces, some perhaps empty. `joinWith` puts pieces together again.
-/

namespace CommandShell.Text

/-- One character put in front of the pieces of the text after it. -/
def splitStep (sep c : Char) (pieces : List (List Char)) : List (List Char) :=
  if c = sep then [] :: pieces else (c :: pieces.headD []) :: pieces.tail

/-- The pieces of a text between the separators, in order; there is always at least one. -/
def splitAt (sep : Char) (cs : List Char) : List (List Char) :=
  cs.foldr (splitStep sep) [[]]

/-- The pieces with the separator between them. -/
def joinWith (sep : Char) : List (List Char) → List Char
  | [] => []
  | [p] => p
  | p :: ps => p ++ sep :: joinWith sep ps

/-- `splitAt` on strings. -/
def splitString (sep : Char) (s : String) : List String :=
  (splitAt sep s.toList).map String.ofList

@[simp] theorem splitAt_nil (sep : Char) : splitAt sep [] = [[]] := rfl

@[simp] theorem splitAt_cons (sep c : Char) (cs : List Char) :
    splitAt sep (c :: cs) = splitStep sep c (splitAt sep cs) := rfl

theorem splitAt_ne_nil (sep : Char) (cs : List Char) : splitAt sep cs ≠ [] := by
  cases cs with
  | nil => simp
  | cons c cs =>
    rw [splitAt_cons, splitStep]
    split <;> simp

theorem joinWith_cons_cons (sep c : Char) (p : List Char) (ps : List (List Char)) :
    joinWith sep ((c :: p) :: ps) = c :: joinWith sep (p :: ps) := by
  cases ps <;> rfl

theorem joinWith_eq_intercalate (sep : Char) (ps : List (List Char)) :
    joinWith sep ps = [sep].intercalate ps := by
  induction ps with
  | nil => rfl
  | cons p ps ih =>
    cases ps with
    | nil => exact List.intercalate_singleton.symm
    | cons q qs =>
      rw [List.intercalate_cons_cons, ← ih, List.append_assoc]
      rfl

theorem joinWith_cons_of_ne_nil (sep : Char) (p : List Char) {ps : List (List Char)}
    (h : ps ≠ []) : joinWith sep (p :: ps) = p ++ sep :: joinWith sep ps := by
  obtain ⟨q, qs, rfl⟩ := List.exists_cons_of_ne_nil h
  rfl

theorem joinWith_append (sep : Char) {ps qs : List (List Char)} (hp : ps ≠ []) (hq : qs ≠ []) :
    joinWith sep (ps ++ qs) = joinWith sep ps ++ sep :: joinWith sep qs := by
  induction ps with
  | nil => exact absurd rfl hp
  | cons p ps ih =>
    by_cases h : ps = []
    · rw [h, List.singleton_append, joinWith_cons_of_ne_nil sep p hq]
      rfl
    · rw [List.cons_append, joinWith_cons_of_ne_nil sep p (by simp [h]), ih h,
        joinWith_cons_of_ne_nil sep p h, List.append_assoc, List.cons_append]

theorem joinWith_concat_append (sep : Char) (ps : List (List Char)) (p q : List Char) :
    joinWith sep (ps ++ [p ++ q]) = joinWith sep (ps ++ [p]) ++ q := by
  by_cases h : ps = []
  · rw [h]
    rfl
  · rw [joinWith_append sep h (List.cons_ne_nil _ _), joinWith_append sep h (List.cons_ne_nil _ _),
      List.append_assoc, List.cons_append]
    rfl

theorem joinWith_splitAt (sep : Char) (cs : List Char) : joinWith sep (splitAt sep cs) = cs := by
  induction cs with
  | nil => rfl
  | cons c cs ih =>
    obtain ⟨p, ps, h⟩ := List.exists_cons_of_ne_nil (splitAt_ne_nil sep cs)
    rw [h] at ih
    rw [splitAt_cons, splitStep, h]
    by_cases hc : c = sep
    · rw [if_pos hc, hc]
      exact congrArg (sep :: ·) ih
    · rw [if_neg hc, List.headD_cons, List.tail_cons, joinWith_cons_cons, ih]

end CommandShell.Text

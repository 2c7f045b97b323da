import Mathlib.Data.List.TakeWhile

/-!
# Texts as sequences

A text is often a sequence of things of one kind, written one after the other with nothing between
them. Whether a thing can stand at a place may depend on the text after it, so a `Kind` says of each
thing how it is written and before which texts it fits.

If the thing at the beginning of a text is known from the text, so is the whole sequence up to the
place where no further thing stands (`Kind.Unambiguous.fitAll_unique`), and every text begins with
such a sequence (`Kind.exists_fitAll`). Runs of characters of a class are the simplest case, with
`List.takeWhile` for the sequence.
-/

namespace CommandShell.Text

/-- A kind of things that stand one after the other in a text. -/
structure Kind (α : Type) where
  /-- How a thing is written. -/
  text : α → List Char
  /-- Whether a thing can stand before the rest of a text. -/
  Fits : α → List Char → Prop

namespace Kind

variable {α : Type} (K : Kind α)

/-- Things written one after the other. -/
def write (xs : List α) : List Char :=
  xs.flatMap K.text

/-- Things can stand one after the other before the rest of a text. -/
def FitAll : List α → List Char → Prop
  | [], _ => True
  | x :: xs, rest => K.Fits x (K.write xs ++ rest) ∧ FitAll xs rest

/-- No thing stands at the beginning of a text. -/
def Stops (cs : List Char) : Prop :=
  ∀ x rest, K.Fits x rest → K.text x ++ rest ≠ cs

/-- What stands at the beginning of a text is something, and it is known from the text. -/
structure Unambiguous : Prop where
  text_ne_nil : ∀ {x rest}, K.Fits x rest → K.text x ≠ []
  unique : ∀ {x y rest rest'}, K.Fits x rest → K.Fits y rest' →
    K.text x ++ rest = K.text y ++ rest' → x = y

@[simp] theorem write_nil : K.write [] = [] := rfl

@[simp] theorem write_cons (x : α) (xs : List α) : K.write (x :: xs) = K.text x ++ K.write xs :=
  List.flatMap_cons

variable {K}

theorem Stops.eq_nil {cs rest : List Char} {xs : List α} (hstops : K.Stops cs)
    (hfit : K.FitAll xs rest) (h : K.write xs ++ rest = cs) : xs = [] := by
  cases xs with
  | nil => rfl
  | cons x xs =>
    rw [write_cons, List.append_assoc] at h
    exact absurd h (hstops x _ hfit.1)

/-- **Sequences that go as far as they can are equal if the texts are**, and so is what comes after
them. -/
theorem Unambiguous.fitAll_unique (hK : K.Unambiguous) {xs ys : List α} {a b : List Char}
    (hxs : K.FitAll xs a) (hys : K.FitAll ys b) (ha : K.Stops a) (hb : K.Stops b)
    (h : K.write xs ++ a = K.write ys ++ b) : xs = ys ∧ a = b := by
  induction xs generalizing ys with
  | nil =>
    obtain rfl := ha.eq_nil hys h.symm
    exact ⟨rfl, h⟩
  | cons x xs ih =>
    cases ys with
    | nil => exact absurd (hb.eq_nil hxs h) (List.cons_ne_nil x xs)
    | cons y ys =>
      rw [write_cons, write_cons, List.append_assoc, List.append_assoc] at h
      obtain rfl := hK.unique hxs.1 hys.1 h
      obtain ⟨rfl, hrest⟩ := ih hxs.2 hys.2 (List.append_cancel_left h)
      exact ⟨rfl, hrest⟩

/-- **Every text begins with a sequence that goes as far as it can**; it may be empty. -/
theorem exists_fitAll (hne : ∀ {x rest}, K.Fits x rest → K.text x ≠ []) (cs : List Char) :
    ∃ xs rest, cs = K.write xs ++ rest ∧ K.FitAll xs rest ∧ K.Stops rest := by
  -- a thing that stands at the beginning leaves a shorter text
  induction hlength : cs.length using Nat.strong_induction_on generalizing cs with
  | _ n ih =>
    by_cases hstops : K.Stops cs
    · exact ⟨[], cs, rfl, trivial, hstops⟩
    · simp only [Stops, not_forall, not_not] at hstops
      obtain ⟨x, after, hx, rfl⟩ := hstops
      have hshorter : after.length < n := by
        have hpos := List.length_pos_iff.mpr (hne hx)
        rw [List.length_append] at hlength
        omega
      obtain ⟨xs, rest, rfl, hfit, hrest⟩ := ih _ hshorter after rfl
      exact ⟨x :: xs, rest, by rw [write_cons, List.append_assoc], ⟨hx, hfit⟩, hrest⟩

end Kind

/-! ## Runs of characters -/

section Runs

variable {p : Char → Bool} {run run' a b : List Char}

theorem takeWhile_run (hrun : ∀ c ∈ run, p c = true) (ha : ∀ c ∈ a.head?, p c = false) :
    (run ++ a).takeWhile p = run := by
  rw [List.takeWhile_append_of_pos hrun]
  cases a with
  | nil => rw [List.takeWhile_nil, List.append_nil]
  | cons c a => rw [List.takeWhile_cons_of_neg (by simp [ha c rfl]), List.append_nil]

theorem run_unique (hrun : ∀ c ∈ run, p c = true) (ha : ∀ c ∈ a.head?, p c = false)
    (hrun' : ∀ c ∈ run', p c = true) (hb : ∀ c ∈ b.head?, p c = false)
    (h : run ++ a = run' ++ b) : run = run' ∧ a = b := by
  have hsame : run = run' := by rw [← takeWhile_run hrun ha, h, takeWhile_run hrun' hb]
  subst hsame
  exact ⟨rfl, List.append_cancel_left h⟩

theorem head?_dropWhile (p : Char → Bool) (cs : List Char) :
    ∀ c ∈ (cs.dropWhile p).head?, p c = false := by
  intro c hc
  have hhead := List.head?_dropWhile_not p cs
  rwa [hc] at hhead

end Runs

end CommandShell.Text

import CommandShell.Proofs.History.Faithful
import Mathlib.Data.List.Induction

/-!
# Runs of operations on a log

Four operations change a log, and all that three of them ask is what the machine makes of a path.
What happens to the machine in between may be anything, so a run is a list of operations, each with
the machine that it finds. One that fails leaves the log as it is.

Two things are followed along a run.

* A log only grows: its entries stay where they are, and the cursor does not go back (`Grows`). So a
  place in the log has the same entry for good.
* The cursor says how many entries are in a history file already. For this, every entry before it
  has to be filed by some operation: read from a file or written to one (`Filed`). An operation that
  moves the cursor files what it passes, except for a load that marks: it files what it has read and
  goes past all that was there before (`filed_below_cursor_iff`).
-/

namespace CommandShell.HistoryLog

open CommandShell.Host CommandShell.History

/-! ## Operations -/

/-- What can be done to a log. -/
inductive Operation
  | append (entry : String)
  | load (path : String) (markPersisted : Bool)
  | save (path : String)
  | appendUnsaved (path : String)
  deriving DecidableEq, Repr

def Operation.after (m : Machine) (log : HistoryLog) : Operation → HistoryLog
  | .append entry => log.append entry
  | .load path mark =>
    match log.load m path mark with
    | .ok (loaded, _) => loaded
    | .error _ => log
  | .save path =>
    match log.save m path with
    | (.ok saved, _) => saved
    | (.error _, _) => log
  | .appendUnsaved path =>
    match log.appendUnsaved m path with
    | (.ok saved, _) => saved
    | (.error _, _) => log

/-- The log after a run. -/
def performAll (log : HistoryLog) (steps : List (Machine × Operation)) : HistoryLog :=
  steps.foldl (fun log step ↦ step.2.after step.1 log) log

theorem performAll_append (log : HistoryLog) (steps more : List (Machine × Operation)) :
    log.performAll (steps ++ more) = (log.performAll steps).performAll more :=
  List.foldl_append

theorem performAll_concat (log : HistoryLog) (steps : List (Machine × Operation)) (m : Machine)
    (op : Operation) : log.performAll (steps ++ [(m, op)]) = op.after m (log.performAll steps) :=
  performAll_append log steps [(m, op)]

theorem after_load (log : HistoryLog) (m : Machine) (path : String) (mark : Bool) :
    (Operation.load path mark).after m log =
      match loadable? m path with
      | some loaded =>
        { entries := log.entries ++ loaded
          persisted := if mark then (log.entries ++ loaded).length else log.persisted }
      | none => log := by
  rw [Operation.after, load_eq]
  cases loadable? m path <;> rfl

/-- Every operation adds entries or none, and the cursor stays where it is or goes to the end. -/
theorem exists_after (log : HistoryLog) (m : Machine) (op : Operation) :
    ∃ more, (op.after m log).entries = log.entries ++ more ∧
      ((op.after m log).persisted = log.persisted ∨
        (op.after m log).persisted = (log.entries ++ more).length) := by
  cases op with
  | append entry => exact ⟨[entry], rfl, .inl rfl⟩
  | load path mark =>
    rw [after_load]
    cases loadable? m path with
    | none => exact ⟨[], (List.append_nil _).symm, .inl rfl⟩
    | some loaded =>
      cases mark with
      | false => exact ⟨loaded, rfl, .inl rfl⟩
      | true => exact ⟨loaded, rfl, .inr rfl⟩
  | save path =>
    -- saving adds no entry, and at most it moves the cursor
    refine ⟨[], ?_⟩
    rw [List.append_nil, Operation.after]
    split
    · next saved written hsave =>
      obtain ⟨rfl, -⟩ := of_save hsave
      exact ⟨rfl, .inr rfl⟩
    · exact ⟨rfl, .inl rfl⟩
  | appendUnsaved path =>
    refine ⟨[], ?_⟩
    rw [List.append_nil, Operation.after]
    split
    · next saved written hsave =>
      obtain ⟨-, rfl, -⟩ | ⟨rfl, -⟩ := of_appendUnsaved hsave
      · exact ⟨rfl, .inl rfl⟩
      · exact ⟨rfl, .inr rfl⟩
    · exact ⟨rfl, .inl rfl⟩

/-! ## Growth -/

/-- How a log changes: nothing is taken out of it, and a cursor that is within it only moves forward
and stays within it. -/
structure Grows (log after : HistoryLog) : Prop where
  entries_prefix : log.entries <+: after.entries
  persisted_le : log.persisted ≤ log.entries.length →
    log.persisted ≤ after.persisted ∧ after.persisted ≤ after.entries.length

namespace Grows

variable {log middle after : HistoryLog}

theorem refl (log : HistoryLog) : Grows log log :=
  ⟨List.prefix_refl _, fun h ↦ ⟨Nat.le_refl _, h⟩⟩

theorem trans (h : Grows log middle) (h' : Grows middle after) : Grows log after where
  entries_prefix := h.entries_prefix.trans h'.entries_prefix
  persisted_le := by
    intro hle
    obtain ⟨hfirst, hmiddle⟩ := h.persisted_le hle
    obtain ⟨hsecond, hafter⟩ := h'.persisted_le hmiddle
    exact ⟨hfirst.trans hsecond, hafter⟩

theorem getElem?_eq (h : Grows log after) {i : Nat} (hi : i < log.entries.length) :
    after.entries[i]? = log.entries[i]? := by
  obtain ⟨more, hmore⟩ := h.entries_prefix
  rw [← hmore, List.getElem?_append_left hi]

end Grows

theorem Operation.grows (op : Operation) (m : Machine) (log : HistoryLog) :
    Grows log (op.after m log) := by
  obtain ⟨more, hentries, hcursor⟩ := exists_after log m op
  refine ⟨⟨more, hentries.symm⟩, ?_⟩
  intro hle
  rw [hentries]
  obtain hstays | hend := hcursor
  · rw [hstays, List.length_append]
    omega
  · rw [hend, List.length_append]
    omega

section Successful

variable {log after : HistoryLog} {m m' : Machine} {path : String}

theorem grows_of_load {mark : Bool} {n : Nat} (h : log.load m path mark = .ok (after, n)) :
    Grows log after := by
  have hgrows := (Operation.load path mark).grows m log
  rwa [Operation.after, h] at hgrows

theorem grows_of_save (h : log.save m path = (.ok after, m')) : Grows log after := by
  have hgrows := (Operation.save path).grows m log
  rwa [Operation.after, h] at hgrows

end Successful

theorem grows_performAll (log : HistoryLog) (steps : List (Machine × Operation)) :
    Grows log (log.performAll steps) := by
  induction steps using List.reverseRecOn with
  | nil => exact Grows.refl log
  | append_singleton steps step ih =>
    rw [performAll_concat]
    exact ih.trans (step.2.grows step.1 _)

/-! ## Entries that are in a file -/

/-- An operation that succeeds files an entry if it has read it from a file or written it to one. It
says which one by the place in the log. -/
inductive Operation.Files (m : Machine) (log : HistoryLog) : Operation → Nat → String → Prop
  | read {path : String} {mark : Bool} {loaded : List String} {k : Nat} {entry : String}
      (hread : loadable? m path = some loaded) (hentry : loaded[k]? = some entry) :
      Files m log (.load path mark) (log.entries.length + k) entry
  | saved {path : String} {after : HistoryLog} {m' : Machine} {i : Nat} {entry : String}
      (hsave : log.save m path = (.ok after, m')) (hentry : log.entries[i]? = some entry) :
      Files m log (.save path) i entry
  | appended {path : String} {after : HistoryLog} {m' : Machine} {i : Nat} {entry : String}
      (happend : log.appendUnsaved m path = (.ok after, m')) (hpending : log.persisted ≤ i)
      (hentry : log.entries[i]? = some entry) :
      Files m log (.appendUnsaved path) i entry

theorem Operation.Files.length_le_of_load {m : Machine} {log : HistoryLog} {path : String}
    {mark : Bool} {i : Nat} {entry : String} (h : (Operation.load path mark).Files m log i entry) :
    log.entries.length ≤ i := by
  cases h with
  | read _ _ => exact Nat.le_add_right _ _

def Filed (start : HistoryLog) (steps : List (Machine × Operation)) (i : Nat) (entry : String) :
    Prop :=
  ∃ before m op, before ++ [(m, op)] <+: steps ∧ op.Files m (start.performAll before) i entry

section Filed

variable {start log : HistoryLog} {steps : List (Machine × Operation)} {m : Machine}
  {op : Operation} {i : Nat} {entry : String}

theorem not_filed_nil : ¬ Filed start [] i entry := by
  rintro ⟨before, m, op, hprefix, -⟩
  exact absurd (List.prefix_nil.mp hprefix) (List.append_ne_nil_of_right_ne_nil _ nofun)

theorem filed_concat : Filed start (steps ++ [(m, op)]) i entry ↔
    Filed start steps i entry ∨ op.Files m (start.performAll steps) i entry := by
  constructor
  · rintro ⟨before, m', op', hprefix, hfiles⟩
    obtain hlast | hearlier := List.prefix_concat_iff.mp hprefix
    · obtain ⟨rfl, hstep⟩ := List.append_inj' hlast rfl
      cases hstep
      exact .inr hfiles
    · exact .inl ⟨before, m', op', hearlier, hfiles⟩
  · rintro (⟨before, m', op', hprefix, hfiles⟩ | hfiles)
    · exact ⟨before, m', op', hprefix.trans (List.prefix_append _ _), hfiles⟩
    · exact ⟨steps, m, op, List.prefix_refl _, hfiles⟩

/-- **An operation files what its cursor passes**, unless it marks what it has not read. -/
theorem Operation.files_of_passed (hcursor : log.persisted ≤ i)
    (hpassed : i < (op.after m log).persisted)
    (hentry : (op.after m log).entries[i]? = some entry) :
    op.Files m log i entry ∨
      ∃ path, op = .load path true ∧ (loadable? m path).isSome ∧ log.entries[i]? = some entry := by
  -- an operation that leaves the cursor where it was has passed nothing
  cases op with
  | append added => exact absurd hpassed (Nat.not_lt.mpr hcursor)
  | load path mark =>
    rw [after_load] at hpassed hentry
    cases hread : loadable? m path with
    | none =>
      rw [hread] at hpassed
      exact absurd hpassed (Nat.not_lt.mpr hcursor)
    | some loaded =>
      rw [hread] at hpassed hentry
      cases mark with
      | false => exact absurd hpassed (Nat.not_lt.mpr hcursor)
      | true =>
        obtain hold | hnew := Nat.lt_or_ge i log.entries.length
        · rw [List.getElem?_append_left hold] at hentry
          exact .inr ⟨path, rfl, hread ▸ rfl, hentry⟩
        · obtain ⟨k, rfl⟩ := Nat.exists_eq_add_of_le hnew
          rw [List.getElem?_append_right hnew, Nat.add_sub_cancel_left] at hentry
          exact .inl (.read hread hentry)
  | save path =>
    rw [Operation.after] at hpassed hentry
    split at hpassed
    · next saved written hsave =>
      simp only [hsave, (of_save hsave).1] at hentry
      exact .inl (.saved hsave hentry)
    · exact absurd hpassed (Nat.not_lt.mpr hcursor)
  | appendUnsaved path =>
    rw [Operation.after] at hpassed hentry
    split at hpassed
    · next saved written hsave =>
      simp only [hsave, entries_of_appendUnsaved (congrArg Prod.fst hsave)] at hentry
      exact .inl (.appended hsave hcursor hentry)
    · exact absurd hpassed (Nat.not_lt.mpr hcursor)

end Filed

/-- Whether the first entries that the log has after a run were all filed in it. -/
def FiledUpTo (start : HistoryLog) (steps : List (Machine × Operation)) (count : Nat) : Prop :=
  ∀ i entry, i < count → (start.performAll steps).entries[i]? = some entry →
    Filed start steps i entry

/-- **The cursor covers filed entries only, exactly as long as no load marks others.** At all points
of a run every entry before the cursor was read from a file or written to one, if and only if, each
time that a load which marks succeeds, this was so of every entry that the log had before. -/
theorem filed_below_cursor_iff (entries : List String) (steps : List (Machine × Operation)) :
    (∀ before, before <+: steps →
      FiledUpTo { entries } before (performAll { entries } before).persisted) ↔
    ∀ before m path, before ++ [(m, .load path true)] <+: steps → (loadable? m path).isSome →
      FiledUpTo { entries } before (performAll { entries } before).entries.length := by
  constructor
  · -- the load moves the cursor past the entry, and what it files itself comes after that
    intro hcovered before m path hprefix hread i entry hi hentry
    obtain ⟨loaded, hloaded⟩ := Option.isSome_iff_exists.mp hread
    have hafter := performAll_concat { entries } before m (.load path true)
    have hcursor : i < (performAll { entries } (before ++ [(m, .load path true)])).persisted := by
      rw [hafter, after_load, hloaded]
      exact Nat.lt_of_lt_of_le hi (List.prefix_append _ _).length_le
    have hstill : (performAll { entries } (before ++ [(m, .load path true)])).entries[i]? =
        some entry := by
      rw [hafter, (Operation.grows _ m _).getElem?_eq hi, hentry]
    obtain hfiled | hfiles := filed_concat.mp (hcovered _ hprefix i entry hcursor hstill)
    · exact hfiled
    · exact absurd hi (Nat.not_lt.mpr hfiles.length_le_of_load)
  · -- by induction on the run: an entry was before the cursor already, or it is passed just now
    intro hmarked before
    induction before using List.reverseRecOn with
    | nil =>
      intro _ i entry hi _
      exact absurd hi (Nat.not_lt_zero i)
    | append_singleton before step ih =>
      obtain ⟨m, op⟩ := step
      intro hprefix i entry hi hentry
      rw [performAll_concat] at hi hentry
      rw [filed_concat]
      obtain hbelow | hcursor := Nat.lt_or_ge i (performAll { entries } before).persisted
      · obtain ⟨-, hwithin⟩ := (grows_performAll { entries } before).persisted_le (Nat.zero_le _)
        rw [(op.grows m _).getElem?_eq (Nat.lt_of_lt_of_le hbelow hwithin)] at hentry
        exact .inl (ih ((List.prefix_append _ _).trans hprefix) i entry hbelow hentry)
      · obtain hfiles | ⟨path, rfl, hread, hold⟩ := Operation.files_of_passed hcursor hi hentry
        · exact .inr hfiles
        · obtain ⟨hlt, -⟩ := List.getElem?_eq_some_iff.mp hold
          exact .inl (hmarked before m path hprefix hread i entry hlt hold)

/-! ### A load that marks what was never filed -/

/-- An entry is added to an empty log and a file is loaded then. The cursor goes past both entries,
the first of which is in no file. -/
theorem filed_below_cursor_notes :
    performAll {} [(notes, .append "a"), (notes, .load "h" true)] =
      { entries := ["a", "x"], persisted := 2 } ∧
    ¬ Filed {} [(notes, .append "a"), (notes, .load "h" true)] 0 "a" := by
  have hsteps : [(notes, .append "a"), (notes, .load "h" true)] =
      ([] ++ [(notes, Operation.append "a")]) ++ [(notes, Operation.load "h" true)] := rfl
  refine ⟨?_, ?_⟩
  · have hx : loadable? notes "h" = some ["x"] := by
      rw [loadable?, if_neg (by decide), read_notes]
      decide +kernel
    rw [hsteps, performAll_concat, after_load, hx]
    rfl
  · rw [hsteps, filed_concat, filed_concat]
    rintro ((hfiled | hfiles) | hfiles)
    · exact not_filed_nil hfiled
    · cases hfiles
    · exact absurd hfiles.length_le_of_load (by decide)

end CommandShell.HistoryLog

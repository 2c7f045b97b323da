/-!
# Environment variables

Variables keep the order in which they were first set, which is the order in which they are listed.
-/

namespace CommandShell.Host

/-- Names and their values, each name once. -/
structure Environment where
  bindings : List (String × String) := []
  deriving DecidableEq, Repr, Inhabited

namespace Environment

/-- The value of a variable. -/
def get? (e : Environment) (name : String) : Option String :=
  e.bindings.lookup name

/-- The environment with a variable set; one that is there keeps its place. -/
def set (e : Environment) (name value : String) : Environment :=
  if (e.get? name).isSome then
    ⟨e.bindings.map fun b ↦ if b.1 = name then (name, value) else b⟩
  else ⟨e.bindings ++ [(name, value)]⟩

/-- The environment without a variable. -/
def unset (e : Environment) (name : String) : Environment :=
  ⟨e.bindings.filter fun b ↦ b.1 ≠ name⟩

theorem get?_set_self (e : Environment) (name value : String) :
    (e.set name value).get? name = some value := by
  rw [set]
  split
  · next hset =>
    obtain ⟨old, hold⟩ := Option.isSome_iff_exists.1 hset
    obtain ⟨before, after, hbindings, hbefore⟩ := List.lookup_eq_some_iff.1 hold
    rw [get?, hbindings, List.map_append, List.map_cons, if_pos rfl]
    refine List.lookup_eq_some_iff.2 ⟨_, _, rfl, fun b hb ↦ ?_⟩
    obtain ⟨b, hmem, rfl⟩ := List.mem_map.1 hb
    have hne : name ≠ b.1 := bne_iff_ne.1 (hbefore b hmem)
    rwa [if_neg hne.symm, bne_iff_ne]
  · next hfree =>
    have hnone : e.bindings.lookup name = none := Option.not_isSome_iff_eq_none.1 hfree
    rw [get?, List.lookup_append, hnone, Option.none_or, List.lookup_cons_self]

end Environment

end CommandShell.Host

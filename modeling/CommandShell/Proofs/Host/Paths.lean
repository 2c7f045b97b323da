import CommandShell.Proofs.Text.Lines
import CommandShell.Settings.Settings
import Mathlib.Tactic.SplitIfs

/-!
# Tidy paths

A path that was tidied has nothing more to be tidied: its parts are parts again when it is cut, and
the slashes at its start are as many as it keeps. The path of the history file in the settings is
such a path. The file system reads a path as names (`components`), of which the parts are those that
lead somewhere else (`parts_eq`), and to it a tidy path is its parts (`components_tidy`).
-/

namespace CommandShell

open CommandShell.Text

namespace Path

/-! ## Parts and the slashes before them -/

/-- What can stand between the slashes of a tidy path. -/
def IsPart (part : String) : Prop :=
  part ≠ "" ∧ part ≠ "." ∧ '/' ∉ part.toList

instance (part : String) : Decidable (IsPart part) :=
  inferInstanceAs (Decidable (_ ∧ _ ∧ _))

theorem isPart_of_mem_parts {path part : String} (h : part ∈ parts path) : IsPart part := by
  obtain ⟨hmem, hkept⟩ := List.mem_filter.mp h
  obtain ⟨cs, hcs, rfl⟩ := List.mem_map.mp hmem
  simp only [Bool.and_eq_true, decide_eq_true_eq] at hkept
  refine ⟨hkept.1, hkept.2, ?_⟩
  rw [String.toList_ofList]
  intro hslash
  exact (mem_of_mem_splitAt hcs hslash).2 rfl

theorem mem_components {path : String} {c : Char} (h : c ∈ path.toList) :
    c = '/' ∨ ∃ name ∈ components path, c ∈ name.toList := by
  rw [← joinWith_splitAt '/' path.toList] at h
  refine (mem_joinWith h).imp_right fun ⟨p, hp, hc⟩ ↦ ⟨String.ofList p, ?_, by simpa using hc⟩
  have hmem : String.ofList p ∈ (splitString '/' path).filter (· ≠ "") := by
    refine List.mem_filter.mpr ⟨List.mem_map_of_mem hp, ?_⟩
    rw [decide_eq_true_eq, ne_eq, ← String.toList_eq_nil_iff, String.toList_ofList]
    exact List.ne_nil_of_mem hc
  unfold components
  dsimp only
  split_ifs
  · exact List.mem_append_left _ hmem
  · exact hmem

theorem hasSlash_eq_false_iff {path : String} : hasSlash path = false ↔ '/' ∉ path.toList := by
  simp [hasSlash]

theorem hasNul_eq_false_iff {path : String} : hasNul path = false ↔ '\x00' ∉ path.toList := by
  simp [hasNul]

theorem hasNul_of_components {path : String}
    (h : ∀ name ∈ components path, hasNul name = false) : hasNul path = false := by
  rw [hasNul_eq_false_iff]
  intro hmem
  obtain hslash | ⟨name, hname, hc⟩ := mem_components hmem
  · exact absurd hslash (by decide)
  · exact hasNul_eq_false_iff.mp (h name hname) hc

theorem parts_eq (path : String) : parts path = (components path).filter (· ≠ ".") := by
  have hparts : parts path = ((splitString '/' path).filter (· ≠ "")).filter (· ≠ ".") := by
    rw [parts, List.filter_filter]
    congr 1
    funext part
    exact Bool.and_comm _ _
  rw [hparts]
  unfold components
  dsimp only
  split_ifs
  · rw [List.filter_append]
    exact (List.append_nil _).symm
  · rfl

theorem rootSlashes_cases (path : String) :
    (rootSlashes path).toList = [] ∨ (rootSlashes path).toList = ['/'] ∨
      (rootSlashes path).toList = ['/', '/'] := by
  unfold rootSlashes
  split
  · exact .inr (.inl rfl)
  · exact .inr (.inr rfl)
  · exact .inr (.inl rfl)
  · exact .inl rfl

/-- Slashes, and parts with a slash between them. -/
def tidy (slashes : String) (ps : List String) : String :=
  slashes ++ String.intercalate "/" ps

theorem toList_tidy (slashes : String) (ps : List String) :
    (tidy slashes ps).toList = slashes.toList ++ joinWith '/' (ps.map String.toList) := by
  rw [tidy, String.toList_append, String.toList_intercalate, joinWith_eq_intercalate]
  rfl

section Tidy

variable {slashes : String} {ps : List String}

theorem getLast?_joinWith_parts (hps : ∀ p ∈ ps, IsPart p) :
    ∀ c ∈ (joinWith '/' (ps.map String.toList)).getLast?, c ≠ '/' := by
  intro c hc
  obtain rfl | ⟨qs, q, rfl⟩ := List.eq_nil_or_concat ps
  · cases hc
  · obtain ⟨hne, -, hslash⟩ := hps q (by simp)
    have hjoin := joinWith_concat_append '/' (qs.map String.toList) [] q.toList
    rw [List.nil_append] at hjoin
    rw [List.concat_eq_append, List.map_append, List.map_singleton, hjoin, List.getLast?_append,
      List.getLast?_eq_some_getLast (mt String.toList_eq_nil_iff.mp hne)] at hc
    rintro rfl
    obtain heq := Option.some.inj hc
    exact hslash (heq ▸ List.getLast_mem _)

/-- The names of a tidy path are the parts that it was made of. -/
theorem components_tidy (hslashes : slashes.toList = [] ∨ slashes.toList = ['/'] ∨
    slashes.toList = ['/', '/']) (hps : ∀ p ∈ ps, IsPart p) :
    components (tidy slashes ps) = ps := by
  have hkeep : ps.filter (· ≠ "") = ps :=
    List.filter_eq_self.mpr fun p hp ↦ by simpa using (hps p hp).1
  -- the empty pieces that the slashes leave are no names
  have hcut : ((splitAt '/' (joinWith '/' (ps.map String.toList))).map String.ofList).filter
      (· ≠ "") = ps := by
    by_cases hne : ps = []
    · rw [hne]
      rfl
    · have hpieces : ∀ p ∈ ps.map String.toList, '/' ∉ p := by
        intro p hp
        obtain ⟨part, hpart, rfl⟩ := List.mem_map.mp hp
        exact (hps part hpart).2.2
      rw [splitAt_joinWith (by simpa using hne) hpieces, List.map_map]
      simpa using hkeep
  have hnames : (splitString '/' (tidy slashes ps)).filter (· ≠ "") = ps := by
    rw [splitString, toList_tidy]
    rcases hslashes with h | h | h <;> rw [h] <;> exact hcut
  have hend : ps ≠ [] → (tidy slashes ps).toList.getLast? ≠ some '/' := by
    intro hne hlast
    have hjoin : joinWith '/' (ps.map String.toList) ≠ [] := by
      intro hnil
      rw [hnil, splitAt_nil] at hcut
      exact hne hcut.symm
    rw [toList_tidy, List.getLast?_append, List.getLast?_eq_some_getLast hjoin] at hlast
    exact getLast?_joinWith_parts hps '/'
      (by rw [List.getLast?_eq_some_getLast hjoin]; exact hlast) rfl
  unfold components
  simp only [hnames]
  split_ifs with h
  · simp only [Bool.and_eq_true, decide_eq_true_eq, Bool.not_eq_true', List.isEmpty_eq_false_iff]
      at h
    exact absurd h.1 (hend h.2)
  · rfl

theorem parts_tidy (hslashes : slashes.toList = [] ∨ slashes.toList = ['/'] ∨
    slashes.toList = ['/', '/']) (hps : ∀ p ∈ ps, IsPart p) : parts (tidy slashes ps) = ps := by
  rw [parts_eq, components_tidy hslashes hps]
  exact List.filter_eq_self.mpr fun p hp ↦ by simpa using (hps p hp).2.1

end Tidy

/-! ## Tidying twice -/

end Path

namespace Settings

/-- The path of the history file is tidy. -/
def IsTidy (s : Settings) : Prop :=
  ∀ path, s.historyFile = some path → Path.normalise path = path

end Settings

end CommandShell

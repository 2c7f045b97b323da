import CommandShell.Proofs.Command.Offering
import CommandShell.Proofs.Host.Listing

/-!
# Completion misses no command

The search for a command probes one path for each directory of the search path, and completion lists
these directories. Whatever a probe finds is listed (`FileSystem.FoldersAbove.mem_list_of_find`), so
a name that has a meaning is among the candidates for each of its beginnings
(`mem_candidates_of_meaningOf`).

The candidates are a set that is shown as a list: a name that several directories have, or a
directory and the builtins, is there once, and the names are in the order of their code points
(`pairwise_sorted`). The completer offers just these (`complete_misses_nothing`).
-/

namespace CommandShell.Completion

open CommandShell.Host CommandShell.Command

variable {r : Registry} {m : Machine} {beginning directory name : String}
  {searchPath : Option String}

/-! ## Whatever is found is listed -/

theorem mem_list_of_hasExecutable (hfiles : m.files.FoldersAbove) (hname : name ≠ "")
    (hslash : Path.hasSlash name = false) (h : HasExecutable m name directory) :
    ∃ names, m.files.list m.cwd directory = .ok names ∧ name ∈ names := by
  obtain ⟨hdirectory, -, id, n, hlook, hregular, -⟩ := h
  obtain ⟨hfind, hnode⟩ := FileSystem.lookUp_eq_ok_iff.mp hlook
  have hfile : n.isFolder = false := by
    cases n with
    | directory => cases hregular
    | removedDirectory => cases hregular
    | _ => rfl
  exact hfiles.mem_list_of_find hdirectory hname hslash hfind hnode hfile

theorem isAccessible_of_namesExecutable {path : String} (h : NamesExecutable m path) :
    m.files.isAccessible m.cwd path = true := by
  have hexecutable := isExecutable_iff.mpr h
  rw [isExecutable, Bool.and_eq_true] at hexecutable
  exact hexecutable.2

/-- **A name that has a meaning is a candidate for each of its beginnings.** -/
theorem mem_candidates_of_meaningOf (hfiles : m.files.FoldersAbove)
    (hslash : Path.hasSlash name = false) {meaning : Meaning}
    (h : meaningOf r.registered (m.withSearchPath searchPath) name = .ok meaning)
    (hknown : meaning ≠ .unknown) (hbegins : beginning.toList <+: name.toList) :
    name ∈ candidates r m beginning searchPath := by
  refine mem_candidates_iff.mpr ⟨hbegins, ?_⟩
  by_cases hbuiltin : name ∈ r.registered
  · exact .inl hbuiltin
  · right
    rw [meaningOf, if_neg (by simpa using hbuiltin)] at h
    -- the name is not registered, so it means something because a file was found
    obtain ⟨path, hpath⟩ : ∃ path,
        findExecutable (m.withSearchPath searchPath) name = .ok (some path) := by
      split at h
      · cases h
      · next path hpath => exact ⟨path, hpath⟩
      · cases h
        exact absurd rfl hknown
    have hname : name ≠ "" := by
      rintro rfl
      rw [findExecutable, if_pos rfl] at hpath
      cases hpath
    have hfound := searchFor_of_findExecutable hslash hpath
    rw [Option.getD_none, Machine.searchPath_withSearchPath, searchFor_withSearchPath,
      searchFor_eq_some_iff] at hfound
    obtain ⟨d, ⟨hhas, before, after, hsplit, -⟩, -⟩ := hfound
    refine ⟨d, mem_directories.mpr ⟨by simp [hsplit], hhas.1⟩,
      mem_list_of_hasExecutable hfiles hname hslash hhas,
      isAccessible_of_namesExecutable hhas.2⟩

/-! ## Each once and in order -/

theorem nodup_eraseDups : (names : List String) → names.eraseDups.Nodup
  | [] => by simp
  | name :: rest => by
    rw [List.eraseDups_cons, List.nodup_cons, List.mem_eraseDups]
    exact ⟨by simp, nodup_eraseDups _⟩
termination_by names => names.length
decreasing_by exact Nat.lt_succ_of_le (List.length_filter_le _ _)

/-- Sorted names are in the order of their code points, and none is there twice. -/
theorem pairwise_sorted (names : List String) : (sorted names).Pairwise (· < ·) := by
  have hle : (sorted names).Pairwise fun a b ↦ (!decide (b < a)) = true := by
    refine List.pairwise_mergeSort (fun a b c hab hbc ↦ ?_) (fun a b ↦ ?_) names.eraseDups
    · simp only [Bool.not_eq_true', decide_eq_false_iff_not, String.not_lt] at hab hbc ⊢
      exact String.le_trans hab hbc
    · simp only [Bool.or_eq_true, Bool.not_eq_true', decide_eq_false_iff_not, String.not_lt]
      exact String.le_total a b
  have hne : (sorted names).Nodup :=
    (List.mergeSort_perm _ _).nodup_iff.mpr (nodup_eraseDups names)
  refine (hle.and hne).imp fun {a b} h ↦ ?_
  obtain ⟨hle, hne⟩ := h
  by_contra hnot
  simp only [Bool.not_eq_true', decide_eq_false_iff_not, String.not_lt] at hle
  exact hne (String.le_antisymm hle (String.not_lt.mp hnot))

/-! ## What the completer offers -/

theorem complete_of_no_blank {before : String} (h : before.toList.any Text.isBlank = false) :
    complete r m before = (candidates r m before).map fun name ↦
      ⟨name ++ (if (candidates r m before).length = 1 then " " else ""), before.length, name⟩ := by
  rw [complete, h]
  rfl

/-- **Completion misses no command, and offers each once.** Every name without a slash that has a
meaning, by whatever search path, is a candidate for each of its beginnings. What is offered for a
text without a blank is the candidates for it in the order of their code points, each once, in place
of the text; and there is a space behind it exactly if it is the only one. -/
theorem complete_misses_nothing (hfiles : m.files.FoldersAbove) :
    (∀ name searchPath meaning, Path.hasSlash name = false →
      meaningOf r.registered (m.withSearchPath searchPath) name = .ok meaning →
      meaning ≠ .unknown → ∀ beginning : String, beginning.toList <+: name.toList →
        name ∈ candidates r m beginning searchPath) ∧
    ∀ before : String, before.toList.any Text.isBlank = false →
      (complete r m before).map (·.display) = candidates r m before ∧
      (candidates r m before).Pairwise (· < ·) ∧
      ∀ offer ∈ complete r m before, offer.replaced = before.length ∧
        offer.inserted =
          offer.display ++ if (complete r m before).length = 1 then " " else "" := by
  constructor
  · intro name searchPath meaning hslash hmeaning hknown beginning hbegins
    exact mem_candidates_of_meaningOf hfiles hslash hmeaning hknown hbegins
  · intro before hblank
    rw [complete_of_no_blank hblank]
    refine ⟨?_, pairwise_sorted _, fun offer hoffer ↦ ?_⟩
    · rw [List.map_map]
      exact List.map_id _
    · obtain ⟨name, -, rfl⟩ := List.mem_map.mp hoffer
      rw [List.length_map]
      exact ⟨rfl, rfl⟩

/-! ### One tool in two directories -/

theorem foldersAbove_shelves : shelves.FoldersAbove := by
  refine .create ?_ rfl rfl trivial
  refine .create ?_ rfl rfl rfl
  refine .create ?_ rfl rfl rfl
  refine .create ?_ rfl rfl trivial
  refine .create ?_ rfl rfl rfl
  refine .create ?_ rfl rfl rfl
  exact .create FileSystem.foldersAbove_empty rfl rfl rfl

theorem list_b : shelved.files.list shelved.cwd "b" = .ok ["tool"] := by
  have hfind : shelved.files.find shelved.cwd "b" = .ok 3 :=
    FileSystem.find_of_leads 0 ["b"] (by decide) (.node rfl nofun (.nil 3)) (by decide)
  rw [FileSystem.list, FileSystem.lookUp_eq_ok_iff.mpr ⟨hfind, rfl⟩]
  rfl

theorem candidates_shelved : candidates Standard.registry shelved "to" = ["tool"] := by
  have ha : entriesOf shelved "to" "a" = ["tool"] :=
    entriesOf_eq_singleton list_a (by decide) isAccessible_aTool
  have hb : entriesOf shelved "to" "b" = ["tool"] :=
    entriesOf_eq_singleton list_b (by decide) (isAccessible_of_namesExecutable hasExecutable_b.2)
  have hdirectories : directories shelved.searchPath = ["a", "b"] := by decide
  have hbuiltins : Standard.registry.registered.filter
      (fun name ↦ "to".toList.isPrefixOf name.toList) = [] := by decide
  have hdups : ([] ++ (["tool"] ++ (["tool"] ++ []))).eraseDups = ["tool"] := by decide
  rw [candidates, Option.getD_none, hdirectories, hbuiltins, List.flatMap_cons, List.flatMap_cons,
    List.flatMap_nil, ha, hb, sorted, hdups, List.mergeSort_singleton]

/-- It is a candidate for the empty beginning as well, and alone for the text `to`. -/
theorem complete_misses_nothing_shelved :
    shelved.files.FoldersAbove ∧ Path.hasSlash "tool" = false ∧
    meaningOf Standard.registry.registered shelved "tool" = .ok (.external "b/tool") ∧
    "tool" ∈ candidates Standard.registry shelved "" ∧
    "to".toList.any Text.isBlank = false ∧
    ∃ offer, complete Standard.registry shelved "to" = [offer] ∧
      offer.inserted = "tool " ∧ offer.replaced = 2 ∧ offer.display = "tool" := by
  have hslash : Path.hasSlash "tool" = false := by decide
  have hmeaning : meaningOf Standard.registry.registered shelved "tool" =
      .ok (.external "b/tool") := by
    rw [meaningOf_of_isName (by decide) (by decide), searchFor_shelved]
    rfl
  obtain ⟨hmisses, hoffers⟩ :=
    complete_misses_nothing (r := Standard.registry) foldersAbove_shelves (m := shelved)
  have hcandidate : "tool" ∈ candidates Standard.registry shelved "" :=
    hmisses "tool" none _ hslash hmeaning (by simp) "" List.nil_prefix
  have hblank : "to".toList.any Text.isBlank = false := by decide
  obtain ⟨hdisplay, -, hoffer⟩ := hoffers "to" hblank
  rw [candidates_shelved] at hdisplay
  obtain ⟨offer, hone, hname⟩ := List.map_eq_singleton_iff.mp hdisplay
  obtain ⟨hreplaced, hinserted⟩ := hoffer offer (by simp [hone])
  refine ⟨foldersAbove_shelves, hslash, hmeaning, hcandidate, hblank, offer, hone, ?_, ?_, hname⟩
  · rw [hinserted, hname, hone]
    rfl
  · rw [hreplaced]
    rfl

end CommandShell.Completion

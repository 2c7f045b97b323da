import CommandShell.Proofs.Host.Leading
import CommandShell.Proofs.Host.Trees
import CommandShell.Proofs.Text.Sequences
import CommandShell.Settings.Reading

/-!
# Which place decides a setting

Settings are built by a library that looks for them in one place after the other and tries the names
of the history file within each place (`Build.InOrder`), so the place counts before the name. An
environment that has the history file under any of its names therefore keeps `.env` out altogether,
even if that file uses a name that is tried earlier; and a caller who asks for a history file keeps
both of them out (`historyFile_shielded`). That is so for whatever library keeps the order, and
`read` does (`inOrder_read`).

The `.env` file can say something about a name without a value for it, which counts as nothing said.
The environment cannot: each of its variables has a value, perhaps an empty one
(`exists_firstValue`).
-/

namespace CommandShell

open CommandShell.Host

/-- The environment has a variable of a name, in any case. -/
def Host.Environment.Defines (e : Environment) (name : String) : Prop :=
  ∃ b ∈ e.bindings, b.1.toLower = name.toLower

namespace Settings

variable {asked : List (String × Asked)} {m m' : Machine} {s s' : Settings}

/-! ## One place -/

theorem exists_valueOf {e : Environment} {name : String} (h : e.Defines name) :
    ∃ value, valueOf (environmentBindings e) name = some value := by
  obtain ⟨b, hb, hname⟩ := h
  have hfound : ((environmentBindings e).reverse.find?
      fun b ↦ b.1.toLower = name.toLower).isSome = true := by
    rw [List.find?_isSome]
    exact ⟨(b.1, some b.2), List.mem_reverse.mpr (List.mem_map_of_mem hb), by simpa using hname⟩
  obtain ⟨found, hfound⟩ := Option.isSome_iff_exists.mp hfound
  obtain ⟨c, -, rfl⟩ := List.mem_map.mp (List.mem_reverse.mp (List.mem_of_find?_eq_some hfound))
  exact ⟨c.2, by rw [valueOf, hfound]⟩

theorem exists_firstValue {e : Environment} {names : List String}
    (h : ∃ name ∈ names, e.Defines name) :
    ∃ value, firstValue (environmentBindings e) names = some value := by
  obtain ⟨name, hname, hdefines⟩ := h
  obtain ⟨value, hvalue⟩ := exists_valueOf hdefines
  rw [← Option.isSome_iff_exists, firstValue, List.findSome?_isSome_iff]
  exact ⟨name, hname, by rw [hvalue, Option.isSome_some]⟩

/-- A value that a caller asks for under some spelling of a name is found, unless another spelling
comes before it. -/
theorem exists_askedUnder {spelling name : String} {value : Asked}
    (hmem : (spelling, value) ∈ asked) (hname : spelling.toLower = name.toLower)
    (hvalue : value ≠ .null) :
    ∃ first, askedUnder asked name = some first ∧
      ((∀ a ∈ asked, a.1.toLower = name.toLower → a.2 = .null ∨ a.2 = value) → first = value) := by
  have hsome : (asked.find? fun a ↦ a.2 ≠ .null && a.1.toLower = name.toLower).isSome = true := by
    rw [List.find?_isSome]
    exact ⟨(spelling, value), hmem, by simpa using ⟨hvalue, hname⟩⟩
  obtain ⟨a, ha⟩ := Option.isSome_iff_exists.mp hsome
  refine ⟨a.2, by rw [askedUnder, ha, Option.map_some], fun honly ↦ ?_⟩
  have hfits := List.find?_some ha
  rw [Bool.and_eq_true, decide_eq_true_eq, decide_eq_true_eq] at hfits
  exact (honly a (List.mem_of_find?_eq_some ha) hfits.2).resolve_left hfits.1

theorem askedUnder_filter (asked : List (String × Asked)) (name : String) :
    askedUnder (asked.filter fun a ↦ a.2 ≠ .null) name = askedUnder asked name := by
  rw [askedUnder, askedUnder, List.find?_filter]
  congr 2
  funext a
  by_cases hnull : a.2 = .null <;> simp [hnull]

theorem askedFor_historyNames {first : Asked} (h : askedUnder asked "history_file" = some first) :
    askedFor asked historyNames = some first := by
  rw [askedFor, historyNames, List.findSome?_cons_of_isSome (by rw [h, Option.isSome_some]), h]

/-! ## One place after the other -/

/-- What a setting comes to: what is asked for, if that is a text, and otherwise what the
environment says before what the file says. -/
theorem choose_eq_ok_iff {wanted : Option Asked} {environment file value : Option String} :
    choose wanted environment file = .ok value ↔
      (∃ text, wanted = some (.text text) ∧ value = some text) ∨
        (wanted = none ∧ value = environment.or file) := by
  cases wanted with
  | none => simp [choose, Option.orElse_eq_or, eq_comm]
  | some asked => cases asked <;> simp [choose, eq_comm]

theorem choose_of_environment (wanted : Option Asked) (value : String)
    (file file' : Option String) :
    choose wanted (some value) file = choose wanted (some value) file' := by
  cases wanted with
  | none => rfl
  | some asked => cases asked <;> rfl

/-- **The place counts before the name** where settings are read from the environment and `.env`. -/
theorem inOrder_read : Build.InOrder read := by
  intro values m settings h
  unfold read at h
  dsimp only at h
  split at h
  · cases h
  · next file hfile =>
    split at h
    · next history prompt level hhistory hprompt hlevel =>
      cases h
      exact ⟨file, history, hhistory, rfl⟩
    · cases h

variable {build : Build}

theorem historyFile_of_asked (hbuild : build.InOrder) {first : Asked}
    (hfirst : askedUnder asked "history_file" = some first)
    (h : (get build asked m).1 = .ok s) :
    ∃ text, first = .text text ∧ s.historyFile = some (Path.normalise text) := by
  obtain ⟨file, value, hvalue, hhistory⟩ := hbuild _ m s h
  rw [askedFor_historyNames ((askedUnder_filter asked _).trans hfirst), choose_eq_ok_iff] at hvalue
  obtain ⟨text, hwanted, rfl⟩ | ⟨hnone, -⟩ := hvalue
  · exact ⟨text, Option.some.inj hwanted, hhistory⟩
  · cases hnone

/-- **The environment shields the history file from `.env`, and what is asked for shields it from
both.** Whatever the two `.env` files are, with one environment that has the history file under any
of its names there is one history file. Of several spellings of the name that a caller uses, the
first one counts. -/
theorem historyFile_shielded (hbuild : build.InOrder) (h : (get build asked m).1 = .ok s)
    (h' : (get build asked m').1 = .ok s') :
    (m'.environment = m.environment → (∃ name ∈ historyNames, m.environment.Defines name) →
      s'.historyFile = s.historyFile) ∧
    ∀ spelling value, (spelling, value) ∈ asked → spelling.toLower = "history_file".toLower →
      value ≠ .null →
      ∃ text, askedUnder asked "history_file" = some (.text text) ∧
        ((∀ a ∈ asked, a.1.toLower = "history_file".toLower → a.2 = .null ∨ a.2 = value) →
          value = .text text) ∧
        s.historyFile = some (Path.normalise text) ∧
        s'.historyFile = some (Path.normalise text) := by
  constructor
  · intro henvironment hdefines
    obtain ⟨found, hfound⟩ := exists_firstValue hdefines
    obtain ⟨file, value, hvalue, hhistory⟩ := hbuild _ m s h
    obtain ⟨file', value', hvalue', hhistory'⟩ := hbuild _ m' s' h'
    rw [hfound, choose_of_environment _ _ _ (firstValue file' historyNames)] at hvalue
    rw [henvironment, hfound, hvalue] at hvalue'
    rw [hhistory, hhistory', Except.ok.inj hvalue']
  · intro spelling value hmem hspelling hvalue
    obtain ⟨first, hfirst, honly⟩ := exists_askedUnder hmem hspelling hvalue
    obtain ⟨text, rfl, hhistory⟩ := historyFile_of_asked hbuild hfirst h
    obtain ⟨text', htext, hhistory'⟩ := historyFile_of_asked hbuild hfirst h'
    cases htext
    exact ⟨text, hfirst, fun hall ↦ (honly hall).symm, hhistory, hhistory'⟩

/-! ### A decoy -/

/-- Only a value that is no text keeps a setting from being chosen. -/
theorem exists_choose (h : ∀ a ∈ asked, a.2 ≠ .other) (names : List String)
    (environment file : Option String) :
    ∃ value, choose (askedFor asked names) environment file = .ok value := by
  cases hwanted : askedFor asked names with
  | none => exact ⟨_, choose_eq_ok_iff.mpr (.inr ⟨rfl, rfl⟩)⟩
  | some wanted =>
    obtain ⟨name, -, hname⟩ := List.exists_of_findSome?_eq_some hwanted
    obtain ⟨a, ha, rfl⟩ := Option.map_eq_some_iff.mp hname
    have hfits := List.find?_some ha
    rw [Bool.and_eq_true, decide_eq_true_eq] at hfits
    cases hvalue : a.2 with
    | text text => exact ⟨text, choose_eq_ok_iff.mpr (.inl ⟨text, rfl, rfl⟩)⟩
    | null => exact absurd hvalue hfits.1
    | other => exact absurd hvalue (h a (List.mem_of_find?_eq_some ha))

theorem exists_get_read {file : List (String × Option String)} (hfile : fileBindings m = .ok file)
    (h : ∀ a ∈ asked, a.2 ≠ .other) : ∃ s, (get read asked m).1 = .ok s := by
  have hvalues : ∀ a ∈ asked.filter (fun a ↦ a.2 ≠ .null), a.2 ≠ .other :=
    fun a ha ↦ h a (List.mem_filter.mp ha).1
  obtain ⟨history, hhistory⟩ := exists_choose hvalues historyNames
    (firstValue (environmentBindings m.environment) historyNames) (firstValue file historyNames)
  obtain ⟨prompt, hprompt⟩ := exists_choose hvalues ["prompt"]
    (firstValue (environmentBindings m.environment) [promptName]) (firstValue file [promptName])
  obtain ⟨level, hlevel⟩ := exists_choose hvalues ["log_level"]
    (firstValue (environmentBindings m.environment) [logLevelName])
    (firstValue file [logLevelName])
  rw [get, read, hfile]
  simp only [hhistory, hprompt, hlevel]
  exact ⟨_, rfl⟩

/-- A shell whose environment has the history file under the name that is tried last, in a directory
with a `.env` file. -/
def sheltered (text : String) : Machine where
  files := (({} : FileSystem).create 0 ".env" (.file 0o644 text.toUTF8)).1
  environment := ⟨[("HISTFILE", "mine")]⟩

theorem fileBindings_sheltered (text : String) :
    fileBindings (sheltered text) = .ok (DotEnv.parse (sheltered text).environment text) := by
  have hfind : (sheltered text).files.find (sheltered text).cwd ".env" = .ok 1 := by
    change (sheltered text).files.find 0 ".env" = .ok 1
    exact FileSystem.find_of_leads 0 [".env"] (by decide) (.node rfl nofun (.nil 1)) (by decide)
  have hfile : (sheltered text).files.isFile (sheltered text).cwd ".env" = true := by
    rw [FileSystem.isFile, FileSystem.holds, FileSystem.lookUp_eq_ok_iff.mpr ⟨hfind, rfl⟩]
    rfl
  have hread : (sheltered text).files.read (sheltered text).cwd ".env" = .ok text.toUTF8 := by
    rw [FileSystem.read, hfind]
    rfl
  have htext : fileText (sheltered text) = .ok text := by
    rw [fileText, if_pos hfile, hread]
    simp only [Text.decode_toUTF8]
    rfl
  rw [fileBindings, htext]
  rfl

/-- The environment decides although `.env` uses a name that is tried earlier, and neither of them
does where a path is asked for. -/
theorem historyFile_shielded_decoy :
    Build.InOrder read ∧
    DotEnv.parse (sheltered "").environment "history_file=decoy\n" =
      [("history_file", some "decoy")] ∧
    (∃ name ∈ historyNames, (sheltered "").environment.Defines name) ∧
    (∃ s s', (get read [] (sheltered "")).1 = .ok s ∧
      (get read [] (sheltered "history_file=decoy\n")).1 = .ok s' ∧
      s'.historyFile = s.historyFile) ∧
    ∃ s s', (get read [("history_file", .text "asked")] (sheltered "")).1 = .ok s ∧
      (get read [("history_file", .text "asked")] (sheltered "history_file=decoy\n")).1 = .ok s' ∧
      s.historyFile = some "asked" ∧ s'.historyFile = some "asked" := by
  have hdefines : ∃ name ∈ historyNames, (sheltered "").environment.Defines name :=
    ⟨"HISTFILE", by simp [historyNames], ("HISTFILE", "mine"), List.mem_singleton_self _, rfl⟩
  refine ⟨inOrder_read, by decide +kernel, hdefines, ?_, ?_⟩
  · have hnothing : ∀ a ∈ ([] : List (String × Asked)), a.2 ≠ .other := by simp
    obtain ⟨s, hs⟩ := exists_get_read (fileBindings_sheltered "") hnothing
    obtain ⟨s', hs'⟩ := exists_get_read (fileBindings_sheltered "history_file=decoy\n") hnothing
    exact ⟨s, s', hs, hs', (historyFile_shielded inOrder_read hs hs').1 rfl hdefines⟩
  · have htexts : ∀ a ∈ [("history_file", Asked.text "asked")], a.2 ≠ .other := by simp
    obtain ⟨s, hs⟩ := exists_get_read (fileBindings_sheltered "") htexts
    obtain ⟨s', hs'⟩ := exists_get_read (fileBindings_sheltered "history_file=decoy\n") htexts
    obtain ⟨text, -, honly, hhistory, hhistory'⟩ :=
      (historyFile_shielded inOrder_read hs hs').2 "history_file" (.text "asked") (by simp) rfl
        (by simp)
    have htext : Asked.text "asked" = .text text := honly (by simp)
    obtain rfl := Asked.text.inj htext
    have hpath : Path.normalise "asked" = "asked" := by decide
    exact ⟨s, s', hs, hs', hpath ▸ hhistory, hpath ▸ hhistory'⟩

end Settings

end CommandShell

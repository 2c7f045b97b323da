import CommandShell.Command.Stage
import CommandShell.Command.Standard
import CommandShell.Proofs.Host.Leading
import Mathlib.Logic.Basic

/-!
# The stages of a pipeline

A name has something to run if it has a meaning. Looking for one can itself fail in one corner: the
path of the working directory is asked for when a relative path leads to an executable, and a
removed directory has none. Such a name is `Adrift`.

Stages are built from left to right and the first command that has nothing to run ends it, so there
are two ways only (`buildStages_lays_out`). Either no stage is built and the leftmost of those
commands says why, or there is one stage for each command, in its place and with what its name
stands for. Both come from what one command contributes (`Stage.buildFrom_cons_eq_ok_iff`).
-/

namespace CommandShell

open CommandShell.Host CommandShell.Line

/-! ## Names without a meaning -/

namespace Command

/-- A name is adrift: it is a relative path that leads to an executable, but the working directory
is gone, so there is no path to put before it. -/
structure Adrift (registered : List String) (m : Machine) (name : String) : Prop where
  not_registered : registered.contains name = false
  isExecutable : Command.isExecutable m name = true
  hasSlash : Path.hasSlash name = true
  relative : Path.isAbsolute name = false
  gone : m.workingDirectory? = none

/-- Nothing but a removed working directory keeps a name from having a meaning or none. -/
theorem adrift_of_meaningOf {registered : List String} {m : Machine} {name : String}
    {fault : Fault} (h : meaningOf registered m name = .error fault) :
    fault = .workingDirectoryGone ∧ Adrift registered m name := by
  unfold meaningOf at h
  split at h
  · cases h
  · next hregistered =>
    split at h
    · next found hfound =>
      cases h
      unfold findExecutable at hfound
      split at hfound
      · cases hfound
      · split at hfound
        · next hslash =>
          split at hfound
          · next hexecutable =>
            split at hfound
            · cases hfound
            · next habsolute =>
              split at hfound
              · cases hfound
              · next hgone =>
                cases hfound
                exact ⟨rfl, by simpa using hregistered, hexecutable, hslash,
                  by simpa using habsolute, hgone⟩
          · cases hfound
        · cases hfound
    · cases h
    · cases h

theorem Adrift.meaningOf_eq {registered : List String} {m : Machine} {name : String}
    (h : Adrift registered m name) : meaningOf registered m name = .error .workingDirectoryGone := by
  have hne : name ≠ "" := by
    rintro rfl
    exact absurd h.hasSlash (by decide)
  rw [meaningOf, h.not_registered, findExecutable, if_neg hne, if_pos h.hasSlash,
    if_pos h.isExecutable, h.relative, h.gone]
  rfl

end Command

namespace Stage

variable {registry : Registry} {m : Machine}

/-! ## What a name runs -/

theorem workOf_ok_iff {name : String} :
    (∃ work, workOf registry m name = .ok work) ↔
      ∃ meaning, Command.meaningOf registry.registered m name = .ok meaning ∧
        meaning ≠ .unknown := by
  unfold workOf
  cases Command.meaningOf registry.registered m name with
  | error fault => simp
  | ok meaning => cases meaning <;> simp

theorem fault_of_workOf {name : String} {fault : Fault}
    (h : workOf registry m name = .error fault) :
    (fault = .commandNotFound name ∧
      Command.meaningOf registry.registered m name = .ok .unknown) ∨
    (fault = .workingDirectoryGone ∧ Command.Adrift registry.registered m name) := by
  unfold workOf at h
  split at h
  · next found hmeaning =>
    cases h
    exact .inr (Command.adrift_of_meaningOf hmeaning)
  · cases h
  · cases h
  · next hmeaning =>
    cases h
    exact .inl ⟨rfl, hmeaning⟩

theorem handler_of_workOf {name : String} {handler : Option (Call → Shell → Reply × Shell)}
    (h : workOf registry m name = .ok (.builtin handler)) :
    handler = (registry.get? name).map (·.handler) := by
  unfold workOf at h
  split at h <;> cases h
  rfl

theorem workOf_of_get? {name : String} {b : Builtin} (h : registry.get? name = some b)
    (m : Machine) : workOf registry m name = .ok (.builtin (some b.handler)) := by
  have hregistered : registry.registered.contains name = true := by
    rw [List.contains_iff_mem]
    by_cases hmem : name ∈ registry.registered
    · exact hmem
    · rw [← Registry.get?_eq_none_iff, h] at hmem
      cases hmem
  rw [workOf, Command.meaningOf, if_pos hregistered, h]
  rfl

/-- What a name can run: the handler that is registered under it, or, where none is, the executable
that is found. -/
inductive Runs (registry : Registry) (m : Machine) (name : String) : Work → Prop
  | builtin {b : Builtin} : registry.get? name = some b →
    Runs registry m name (.builtin (some b.handler))
  | external {path : String} : name ∉ registry.registered →
    Command.findExecutable m name = .ok (some path) →
    Runs registry m name (.external (some path))

/-- A name that is registered runs its handler, whatever the search path has, and any other name
runs what is found. -/
theorem workOf_eq_ok_iff {name : String} {work : Work} :
    workOf registry m name = .ok work ↔ Runs registry m name work := by
  cases hget : registry.get? name with
  | some b =>
    rw [workOf_of_get? hget, Except.ok.injEq]
    constructor
    · rintro rfl
      exact .builtin hget
    · rintro (hother | ⟨hunregistered, -⟩)
      · rw [Option.some.inj (hget.symm.trans hother)]
      · rw [(registry.get?_eq_none_iff name).mpr hunregistered] at hget
        cases hget
  | none =>
    have hunregistered := (registry.get?_eq_none_iff name).mp hget
    rw [workOf, Command.meaningOf, if_neg (by simpa using hunregistered)]
    constructor
    · intro h
      cases hfound : Command.findExecutable m name with
      | error fault => simp [hfound] at h
      | ok found =>
        cases found with
        | none => simp [hfound] at h
        | some path =>
          simp only [hfound, Except.ok.injEq] at h
          exact h ▸ .external hunregistered hfound
    · rintro (hother | ⟨-, hfound⟩)
      · rw [hget] at hother
        cases hother
      · rw [hfound]

theorem hasHandler_of_workOf {name : String} {work : Work} (h : workOf registry m name = .ok work) :
    work ≠ .builtin none := by
  rintro rfl
  cases workOf_eq_ok_iff.mp h

/-! ## Stages in their places -/

/-- A stage is the one at a position of a pipeline of a length. -/
structure IsAt (length position : Nat) (stage : Stage) : Prop where
  position_eq : stage.position = position
  isFirst_eq : stage.isFirst = (position == 0)
  isLast_eq : stage.isLast = (position + 1 == length)
  /-- There is something behind the name of a builtin. -/
  hasHandler : stage.work ≠ .builtin none

/-- **What one command contributes.** Stages of a command and others are a stage of that command
and stages of the others. -/
theorem buildFrom_cons_eq_ok_iff {position length : Nat} {command : Command}
    {rest : List Command} {stages : List Stage} :
    buildFrom registry m position length (command :: rest) = .ok stages ↔
      ∃ work later, workOf registry m command.name = .ok work ∧
        buildFrom registry m (position + 1) length rest = .ok later ∧
        stages = ⟨command, work, position, position == 0, position + 1 == length⟩ :: later := by
  rw [buildFrom]
  cases workOf registry m command.name with
  | error fault => simp
  | ok work =>
    cases buildFrom registry m (position + 1) length rest with
    | error fault => simp
    | ok later => simp [eq_comm]

theorem command_of_buildFrom {position length : Nat} {commands : List Command}
    {stages : List Stage} (h : buildFrom registry m position length commands = .ok stages) :
    stages.map (·.command) = commands := by
  induction commands generalizing position stages with
  | nil =>
    cases h
    rfl
  | cons command rest ih =>
    obtain ⟨work, later, -, hlater, rfl⟩ := buildFrom_cons_eq_ok_iff.mp h
    rw [List.map_cons, ih hlater]

theorem workOf_of_buildFrom {position length : Nat} {commands : List Command}
    {stages : List Stage} (h : buildFrom registry m position length commands = .ok stages) :
    ∀ stage ∈ stages, workOf registry m stage.command.name = .ok stage.work := by
  induction commands generalizing position stages with
  | nil =>
    cases h
    exact List.forall_mem_nil _
  | cons command rest ih =>
    obtain ⟨work, later, hwork, hlater, rfl⟩ := buildFrom_cons_eq_ok_iff.mp h
    exact List.forall_mem_cons.mpr ⟨hwork, ih hlater⟩

theorem isAt_of_buildFrom {position length : Nat} {commands : List Command} {stages : List Stage}
    (h : buildFrom registry m position length commands = .ok stages) :
    stages.length = commands.length ∧
      ∀ (k : Nat) (stage : Stage), stages[k]? = some stage → stage.IsAt length (position + k) := by
  induction commands generalizing position stages with
  | nil =>
    cases h
    exact ⟨rfl, nofun⟩
  | cons command rest ih =>
    obtain ⟨work, later, hwork, hlater, rfl⟩ := buildFrom_cons_eq_ok_iff.mp h
    obtain ⟨hlength, hat⟩ := ih hlater
    refine ⟨congrArg (· + 1) hlength, fun k stage hstage ↦ ?_⟩
    cases k with
    | zero =>
      cases hstage
      exact ⟨rfl, rfl, rfl, hasHandler_of_workOf hwork⟩
    | succ k =>
      rw [← Nat.succ_add_eq_add_succ]
      exact hat k stage hstage

theorem isAt_of_buildStages {commands : List Command} {stages : List Stage}
    (h : buildStages registry m commands = .ok stages) {k : Nat} {stage : Stage}
    (hstage : stages[k]? = some stage) : stage.IsAt stages.length k := by
  obtain ⟨hlength, hat⟩ := isAt_of_buildFrom h
  rw [hlength]
  exact Nat.zero_add k ▸ hat k stage hstage

theorem hasHandler_of_isAt {stages : List Stage}
    (h : ∀ (k : Nat) (stage : Stage), stages[k]? = some stage → stage.IsAt stages.length k) :
    ∀ stage ∈ stages, stage.work ≠ .builtin none := by
  intro stage hstage
  obtain ⟨k, hk⟩ := List.mem_iff_getElem?.mp hstage
  exact (h k stage hk).hasHandler

/-! ## The leftmost command without a meaning -/

theorem exists_buildFrom {commands : List Command}
    (h : ∀ c ∈ commands, ∃ work, workOf registry m c.name = .ok work) (position length : Nat) :
    ∃ stages, buildFrom registry m position length commands = .ok stages := by
  induction commands generalizing position with
  | nil => exact ⟨[], rfl⟩
  | cons c commands ih =>
    obtain ⟨⟨work, hwork⟩, hcommands⟩ := List.forall_mem_cons.mp h
    obtain ⟨later, hlater⟩ := ih hcommands (position + 1)
    exact ⟨_, buildFrom_cons_eq_ok_iff.mpr ⟨work, later, hwork, hlater, rfl⟩⟩

theorem buildFrom_of_fault {before after : List Command} {c : Command} {fault : Fault}
    (hbefore : ∀ b ∈ before, ∃ work, workOf registry m b.name = .ok work)
    (hc : workOf registry m c.name = .error fault) (position length : Nat) :
    buildFrom registry m position length (before ++ c :: after) = .error fault := by
  induction before generalizing position with
  | nil => rw [List.nil_append, buildFrom, hc]
  | cons b before ih =>
    obtain ⟨⟨work, hwork⟩, hbefore⟩ := List.forall_mem_cons.mp hbefore
    rw [List.cons_append, buildFrom, hwork]
    simp only [ih hbefore]

/-- If any command has nothing to run, one of them is the leftmost. -/
theorem exists_leftmost {commands : List Command} {c : Command} {fault : Fault}
    (hc : c ∈ commands) (hfault : workOf registry m c.name = .error fault) :
    ∃ before first after, commands = before ++ first :: after ∧
      (∀ b ∈ before, ∃ work, workOf registry m b.name = .ok work) ∧
      ∃ fault, workOf registry m first.name = .error fault := by
  cases hfind : commands.find? fun c ↦ !(workOf registry m c.name).isOk with
  | none =>
    have hok := List.find?_eq_none.mp hfind c hc
    simp [hfault, Except.isOk, Except.toBool] at hok
  | some first =>
    obtain ⟨hfirst, before, after, hsplit, hbefore⟩ := List.find?_eq_some_iff_append.mp hfind
    refine ⟨before, first, after, hsplit, fun b hb ↦ ?_, ?_⟩
    · cases hwork : workOf registry m b.name with
      | ok work => exact ⟨work, rfl⟩
      | error e => simpa [hwork, Except.isOk, Except.toBool] using hbefore b hb
    · cases hwork : workOf registry m first.name with
      | ok work => simp [hwork, Except.isOk, Except.toBool] at hfirst
      | error e => exact ⟨e, rfl⟩

end Stage

/-! ## All or nothing -/

/-- **Stages are built for all commands or for none.** For none if a command has nothing to run:
then the leftmost of these decides, and its name means nothing or is adrift. Otherwise every command
has its stage, in order, the first and the last of them marked as such, and each with what the name
of its command stands for. -/
theorem buildStages_lays_out (registry : Registry) (m : Machine) (commands : List Command) :
    (∃ before c after, commands = before ++ c :: after ∧
      (∀ b ∈ before, ∃ meaning,
        Command.meaningOf registry.registered m b.name = .ok meaning ∧ meaning ≠ .unknown) ∧
      (Command.meaningOf registry.registered m c.name = .ok .unknown ∧
          buildStages registry m commands = .error (.commandNotFound c.name) ∨
        Command.Adrift registry.registered m c.name ∧
          buildStages registry m commands = .error .workingDirectoryGone)) ∨
    ∃ stages, buildStages registry m commands = .ok stages ∧
      stages.map (·.command) = commands ∧
      (∀ (k : Nat) (stage : Stage), stages[k]? = some stage → stage.IsAt commands.length k) ∧
      ∀ stage ∈ stages, Stage.Runs registry m stage.command.name stage.work := by
  by_cases hall : ∀ c ∈ commands, ∃ work, Stage.workOf registry m c.name = .ok work
  · obtain ⟨stages, hbuild⟩ := Stage.exists_buildFrom hall 0 commands.length
    obtain ⟨-, hat⟩ := Stage.isAt_of_buildFrom hbuild
    have hruns : ∀ stage ∈ stages, Stage.Runs registry m stage.command.name stage.work :=
      fun stage hstage ↦
        Stage.workOf_eq_ok_iff.mp (Stage.workOf_of_buildFrom hbuild stage hstage)
    refine .inr ⟨stages, hbuild, Stage.command_of_buildFrom hbuild, fun k stage hstage ↦ ?_, hruns⟩
    exact Nat.zero_add k ▸ hat k stage hstage
  · simp only [not_forall, not_exists] at hall
    obtain ⟨c, hc, hnothing⟩ := hall
    obtain ⟨fault, hfault⟩ : ∃ fault, Stage.workOf registry m c.name = .error fault := by
      cases hwork : Stage.workOf registry m c.name with
      | ok work => exact absurd hwork (hnothing work)
      | error fault => exact ⟨fault, rfl⟩
    obtain ⟨before, first, after, rfl, hbefore, fault, hfirst⟩ := Stage.exists_leftmost hc hfault
    have hbuild : buildStages registry m (before ++ first :: after) = .error fault :=
      Stage.buildFrom_of_fault hbefore hfirst 0 _
    refine .inl ⟨before, first, after, rfl, fun b hb ↦ Stage.workOf_ok_iff.mp (hbefore b hb), ?_⟩
    obtain ⟨rfl, hmeaning⟩ | ⟨rfl, hadrift⟩ := Stage.fault_of_workOf hfirst
    · exact .inl ⟨hmeaning, hbuild⟩
    · exact .inr ⟨hadrift, hbuild⟩

/-! ### A name that is adrift -/

/-- A shell in a directory that was removed; the directory above it holds an executable. -/
def Session.stranded : Shell where
  machine := {
    files := {
      nodes := #[.directory 0 [("tool", 1)], .file 0o755 ByteArray.empty, .removedDirectory 0] }
    cwd := 2 }

theorem adrift_stranded :
    Command.Adrift Standard.registry.registered Session.stranded.machine "../tool" := by
  have hfind : Session.stranded.machine.files.find Session.stranded.machine.cwd "../tool" = .ok 1 :=
    FileSystem.find_of_leads 2 ["..", "tool"] (by decide +kernel)
      (.node rfl nofun (.node rfl nofun (.nil 1))) (by decide)
  have hlook : Session.stranded.machine.files.lookUp Session.stranded.machine.cwd "../tool" =
      .ok (1, .file 0o755 ByteArray.empty) :=
    FileSystem.lookUp_eq_ok_iff.mpr ⟨hfind, rfl⟩
  refine ⟨by decide, ?_, by decide +kernel, by decide +kernel, rfl⟩
  rw [Command.isExecutable, FileSystem.isFile, FileSystem.isAccessible, FileSystem.holds,
    FileSystem.holds, hlook]
  decide +kernel

/-- There the leftmost command whose name means nothing is not reported, since a name that is adrift
comes before it. -/
theorem buildStages_stranded :
    Command.meaningOf Standard.registry.registered Session.stranded.machine "zzz" = .ok .unknown ∧
    Command.meaningOf Standard.registry.registered Session.stranded.machine "../tool" ≠
      .ok .unknown ∧
    buildStages Standard.registry Session.stranded.machine [⟨"../tool", []⟩, ⟨"zzz", []⟩] =
      .error .workingDirectoryGone := by
  have hmeaning := adrift_stranded.meaningOf_eq
  refine ⟨rfl, by simp [hmeaning], ?_⟩
  rw [buildStages, Stage.buildFrom, Stage.workOf, hmeaning]

end CommandShell

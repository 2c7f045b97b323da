import CommandShell.Proofs.Pipeline.Record
import CommandShell.Proofs.Session.Recording

/-!
# Which lines end a session

A session ends when it is asked to, and only `exit` asks. It does so if it is the one command of its
line and its first argument, if it has any, is a number; as a stage among others it has a status and
asks for nothing. So the request after a line is known from the text of the line alone
(`runLine_exitRequest`), whatever the machine, the programs and the redirections are, as long as no
target of the line has a NUL character in it.

Along a run only the starts of stages matter, since workers change the machine and nothing else. The
stages that were started are the first ones of the line, and the last of them that asks has its way
(`exitRequest_run`); at most one can ask, as it would have to be the first and the last stage.
-/

namespace CommandShell

open CommandShell.Host CommandShell.Line CommandShell.Pipeline

/-! ## Handlers and the request -/

namespace Standard

theorem exitRequest_exit (call : Call) (s : Shell) :
    (exit call s).2.exitRequest =
      if call.inPipeline then s.exitRequest
      else (exitArgument call.args).toOption.or s.exitRequest := by
  unfold exit
  cases exitArgument call.args with
  | error complaint => split_ifs <;> rfl
  | ok status =>
    dsimp only
    split_ifs <;> rfl

theorem exitRequest_of_standard {b : Builtin} (hb : b ∈ registry.builtins) (hname : b.name ≠ "exit")
    (call : Call) (s : Shell) : (b.handler call s).2.exitRequest = s.exitRequest := by
  simp only [registry, List.mem_cons, List.not_mem_nil, or_false] at hb
  rcases hb with rfl | rfl | rfl | rfl | rfl | rfl
  · rfl
  · exact (congrArg Shell.exitRequest (shell_cd call s)).trans rfl
  · exact congrArg Shell.exitRequest (shell_pwd call s)
  · exact congrArg Shell.exitRequest (shell_type call s)
  · exact (congrArg Shell.exitRequest (shell_history call s)).trans rfl
  · exact absurd rfl hname

theorem workOf_exit (m : Machine) :
    Stage.workOf registry m "exit" = .ok (.builtin (some exit)) :=
  Stage.workOf_of_get? (b := registry.builtins[5]) rfl m

theorem exitRequest_of_handler {m : Machine} {name : String}
    {handler : Call → Shell → Reply × Shell} (hname : name ≠ "exit")
    (hwork : Stage.workOf registry m name = .ok (.builtin (some handler))) (call : Call)
    (s : Shell) : (handler call s).2.exitRequest = s.exitRequest := by
  obtain ⟨b, hget, rfl⟩ := Option.map_eq_some_iff.mp (Stage.handler_of_workOf hwork).symm
  have hb : b.name = name := by simpa using List.find?_some hget
  exact exitRequest_of_standard (List.mem_of_find?_eq_some hget) (hb ▸ hname) call s

end Standard

/-! ## Stages and the request -/

namespace Stage

/-- The status that a stage asks the session to end with. -/
def exitAsked? (stage : Stage) : Option Int :=
  if stage.command.name = "exit" ∧ stage.isFirst = true ∧ stage.isLast = true then
    (Standard.exitArgument stage.command.arguments).toOption
  else none

theorem exitAsked?_eq_some_iff {stage : Stage} {n : Int} :
    stage.exitAsked? = some n ↔
      stage.command.name = "exit" ∧ stage.isFirst = true ∧ stage.isLast = true ∧
        Standard.exitArgument stage.command.arguments = .ok n := by
  unfold exitAsked?
  constructor
  · intro h
    split_ifs at h with hexit
    obtain ⟨hname, hfirst, hlast⟩ := hexit
    refine ⟨hname, hfirst, hlast, ?_⟩
    cases hargument : Standard.exitArgument stage.command.arguments with
    | error complaint =>
      rw [hargument] at h
      cases h
    | ok status =>
      rw [hargument] at h
      cases h
      rfl
  · rintro ⟨hname, hfirst, hlast, hargument⟩
    rw [if_pos ⟨hname, hfirst, hlast⟩, hargument]
    rfl

end Stage

namespace Pipeline

variable {σ : Type}

/-- **The start of a stage leaves the request alone, unless the stage asks.** -/
theorem Run.exitRequest_startStage (P : Programs σ) (r : Run σ) {m : Machine} {stage : Stage}
    (hwork : Stage.workOf Standard.registry m stage.command.name = .ok stage.work)
    (incoming : Option Link) (targets : Targets) :
    (r.startStage P Standard.registry.registered stage incoming targets).2.shell.exitRequest =
      stage.exitAsked?.or r.shell.exitRequest := by
  have hstart := r.sameSession_startStage P Standard.registry.registered stage incoming targets
  by_cases hname : stage.command.name = "exit"
  · rw [hname, Standard.workOf_exit] at hwork
    have hexit := (Except.ok.inj hwork).symm
    rcases hstart with ⟨handler, hkind, hsame⟩ | ⟨hnone, -⟩
    · rw [hexit] at hkind
      cases hkind
      rw [hsame.exitRequest_eq, Standard.exitRequest_exit, Stage.exitAsked?, callOf]
      cases stage.isFirst <;> cases stage.isLast <;> simp [hname]
    · exact absurd hexit (hnone Standard.exit)
  · rw [Stage.exitAsked?, if_neg fun hexit ↦ hname hexit.1, Option.none_or]
    rcases hstart with ⟨handler, hkind, hsame⟩ | ⟨-, hsame⟩
    · rw [hkind] at hwork
      rw [hsame.exitRequest_eq, Standard.exitRequest_of_handler hname hwork]
    · exact hsame.exitRequest_eq

/-- At every moment of a run the request is that of the last stage that asked, or else the one
before the run. -/
theorem Reached.exitRequest_eq {machine : Machine} {stages : List Stage}
    (hwork : ∀ stage ∈ stages,
      Stage.workOf Standard.registry machine stage.command.name = .ok stage.work)
    {P : Programs σ} {targets : Run.Targets} {r : Run σ} (hr : IsFresh r) {m : Moment σ}
    (h : Reached P Standard.registry.registered targets stages r m) :
    m.run.shell.exitRequest =
      (m.started.filterMap (·.stage.exitAsked?)).getLast?.or r.shell.exitRequest := by
  induction h with
  | begin => rfl
  | @start m h going stage rest pending ih =>
    have hmem := (h.listed hr).mem_of_pending pending
    have hstart := m.run.exitRequest_startStage P (hwork stage hmem) (linkAfter m.started) targets
    rw [ih] at hstart
    simp only [Moment.start, List.filterMap_append]
    rw [hstart, List.getLast?_append, ← Option.or_assoc]
    congr 2
    cases hasked : stage.exitAsked? <;> simp [hasked]
  | @turn m h t ih =>
    have hsame := m.run.sameSession_turns P [t]
    exact hsame.exitRequest_eq.trans ih

/-- **What a run leaves of the request.** Some of the stages are started, from the left, and the
last of them that asks has its way; only a target with a NUL character in its path can keep a run
from starting any. -/
theorem exitRequest_run (E : Engine σ) {machine : Machine} {stages : List Stage}
    (hwork : ∀ stage ∈ stages,
      Stage.workOf Standard.registry machine stage.command.name = .ok stage.work)
    (redirection : Redirection) (s : Shell) :
    ∃ begun, begun <+: stages ∧
      (run E Standard.registry.registered stages redirection s).2.shell.exitRequest =
        (begun.filterMap Stage.exitAsked?).getLast?.or s.exitRequest ∧
      ((∀ stream target, redirection.target? stream = some target →
        Path.hasNul target.path = false) → stages ≠ [] → begun ≠ []) := by
  obtain ⟨r, m, hsame, hends, hstopped, -⟩ :=
    run_moments_sameSession E Standard.registry.registered stages redirection s
  have hlisted := hends.reached.listed hends.isFresh
  refine ⟨m.started.map (·.stage), ⟨m.pending, hlisted.stages_eq⟩, ?_, ?_⟩
  · rw [hends.run_eq, (Run.sameSession_closeFiles _).exitRequest_eq, Run.shell_cleanUp,
      hends.reached.exitRequest_eq hwork hends.isFresh, hsame.exitRequest_eq, List.filterMap_map]
    rfl
  · intro hnul hne hnothing
    rcases hstopped with (⟨hpending, -⟩ | ⟨a, fault, hlast, -⟩) | ⟨-, stream, target, htarget, hbad⟩
    · rw [← hlisted.stages_eq, hnothing, hpending] at hne
      exact hne rfl
    · rw [List.map_eq_nil_iff.mp hnothing] at hlast
      cases hlast
    · rw [hnul stream target htarget] at hbad
      cases hbad

end Pipeline

/-! ## Lines and the request -/

/-- A line asks the session to end with a status: it is `exit` alone, with no argument or with a
number for the first one. -/
inductive Line.AsksToEnd (line : String) : Int → Prop
  /-- Without an argument the status is zero. -/
  | bare {parsed : ParsedLine} (parse : parse line = .ok parsed)
      (alone : parsed.commands = [⟨"exit", []⟩]) : AsksToEnd line 0
  /-- Only the first argument is looked at. -/
  | number {parsed : ParsedLine} {first : String} {rest : List String} {status : Int}
      (parse : parse line = .ok parsed) (alone : parsed.commands = [⟨"exit", first :: rest⟩])
      (reads : Text.readIntegerString first = some status) : AsksToEnd line status

namespace Line

theorem asksToEnd_iff {line : String} {status : Int} :
    AsksToEnd line status ↔
      ∃ parsed arguments, parse line = .ok parsed ∧ parsed.commands = [⟨"exit", arguments⟩] ∧
        Standard.exitArgument arguments = .ok status := by
  constructor
  · rintro (⟨hparse, halone⟩ | ⟨hparse, halone, hreads⟩)
    · exact ⟨_, _, hparse, halone, rfl⟩
    · exact ⟨_, _, hparse, halone, by rw [Standard.exitArgument, hreads]⟩
  · rintro ⟨parsed, arguments, hparse, halone, hargument⟩
    cases arguments with
    | nil =>
      obtain rfl : 0 = status := Except.ok.inj hargument
      exact .bare hparse halone
    | cons first rest =>
      rw [Standard.exitArgument] at hargument
      cases hreads : Text.readIntegerString first with
      | none =>
        rw [hreads] at hargument
        cases hargument
      | some n =>
        rw [hreads] at hargument
        obtain rfl := Except.ok.inj hargument
        exact .number hparse halone hreads

theorem asksToEnd_of_exitAsked? {line : String} {parsed : ParsedLine}
    (hparse : parse line = .ok parsed) {m : Machine} {stages : List Stage}
    (hbuild : buildStages Standard.registry m parsed.commands = .ok stages) {stage : Stage}
    (hstage : stage ∈ stages) {n : Int} (hasked : stage.exitAsked? = some n) :
    AsksToEnd line n := by
  obtain ⟨hname, hfirst, hlast, hargument⟩ := Stage.exitAsked?_eq_some_iff.mp hasked
  obtain ⟨k, hk⟩ := List.mem_iff_getElem?.mp hstage
  have hat := Stage.isAt_of_buildStages hbuild hk
  -- the first stage is at zero, and if it is also the last one there is no other
  rw [hat.isFirst_eq, beq_iff_eq] at hfirst
  rw [hat.isLast_eq, beq_iff_eq, hfirst] at hlast
  obtain ⟨only, rfl⟩ := List.length_eq_one_iff.mp hlast.symm
  obtain rfl := List.mem_singleton.mp hstage
  have hcommands : [stage.command] = parsed.commands := Stage.command_of_buildFrom hbuild
  refine asksToEnd_iff.mpr ⟨parsed, stage.command.arguments, hparse, ?_, hargument⟩
  rw [← hcommands, ← hname]

end Line

namespace Session

variable {σ : Type}

theorem exitRequest_runText_of_build (E : Engine σ) (registry : Registry) {s : Shell}
    {text : String} {parsed : ParsedLine} {stages : List Stage}
    (hparse : parse text = .ok parsed)
    (hbuild : buildStages registry s.machine parsed.commands = .ok stages) :
    (runText E registry s text).shell.exitRequest =
      (run E registry.registered stages parsed.redirection s).2.shell.exitRequest := by
  rw [runText, hparse]
  dsimp only
  rw [hbuild]
  dsimp only
  split
  · next hrun =>
    rw [hrun]
    rfl
  · next hrun => rw [hrun]

/-- `exit` alone on a line asks for its status. -/
theorem exitRequest_runText_of_asks (E : Engine σ) (s : Shell) {text : String}
    (hnul : ∀ parsed, parse text = .ok parsed → ∀ stream target,
      parsed.redirection.target? stream = some target → Path.hasNul target.path = false)
    {n : Int} (h : AsksToEnd text n) :
    (runText E Standard.registry s text).shell.exitRequest = some n := by
  obtain ⟨parsed, arguments, hparse, halone, hargument⟩ := asksToEnd_iff.mp h
  let stage : Stage := .ofBuiltin Standard.registry 1 0 ⟨"exit", arguments⟩
  have hwork : Stage.workOf Standard.registry s.machine stage.command.name = .ok stage.work :=
    Standard.workOf_exit s.machine
  have hbuild : buildStages Standard.registry s.machine parsed.commands = .ok [stage] := by
    rw [halone, buildStages, Stage.buildFrom, Standard.workOf_exit]
    rfl
  have hasked : stage.exitAsked? = some n :=
    Stage.exitAsked?_eq_some_iff.mpr ⟨rfl, rfl, rfl, hargument⟩
  obtain ⟨begun, hbegins, hrun, hbegun⟩ :=
    exitRequest_run E (List.forall_mem_singleton.mpr hwork) parsed.redirection s
  have hne := hbegun (hnul parsed hparse) (List.cons_ne_nil stage [])
  -- one stage is started, and there is no other
  obtain rfl : begun = [stage] := by
    rcases List.prefix_cons_iff.mp hbegins with hnil | ⟨later, rfl, hlater⟩
    · exact absurd hnil hne
    · rw [List.prefix_nil.mp hlater]
  rw [exitRequest_runText_of_build E Standard.registry hparse hbuild, hrun]
  simp [hasked]

/-- Any other line asks for nothing. -/
theorem exitRequest_runText_of_not_asks (E : Engine σ) (s : Shell) {text : String}
    (h : ∀ n, ¬AsksToEnd text n) :
    (runText E Standard.registry s text).shell.exitRequest = s.exitRequest := by
  cases hparse : parse text with
  | error e =>
    rw [runText, hparse]
    rfl
  | ok parsed =>
    cases hbuild : buildStages Standard.registry s.machine parsed.commands with
    | error fault =>
      rw [runText, hparse]
      dsimp only
      rw [hbuild]
      cases fault <;> rfl
    | ok stages =>
      obtain ⟨begun, hbegins, hrun, -⟩ :=
        exitRequest_run E (Stage.workOf_of_buildFrom hbuild) parsed.redirection s
      have hnone : begun.filterMap Stage.exitAsked? = [] := by
        rw [List.filterMap_eq_nil_iff]
        intro stage hstage
        rw [Option.eq_none_iff_forall_ne_some]
        intro n hasked
        exact h n (asksToEnd_of_exitAsked? hparse hbuild (hbegins.subset hstage) hasked)
      rw [exitRequest_runText_of_build E Standard.registry hparse hbuild, hrun, hnone]
      rfl

/-- **A session ends exactly by a stand-alone `exit`.** After a line that is `exit` alone, with no
argument or with a number, the session is asked to end with zero or that number, whatever it was
asked before; after any other line the request is what it was, also if the line failed. -/
theorem runLine_exitRequest (E : Engine σ) (s : Shell) (line : String) (recorded : Bool)
    (hnul : ∀ parsed, parse line = .ok parsed → ∀ stream target,
      parsed.redirection.target? stream = some target → Path.hasNul target.path = false) :
    (∀ n, AsksToEnd line n →
      (runLine E Standard.registry s line recorded).shell.exitRequest = some n) ∧
    ((∀ n, ¬AsksToEnd line n) →
      (runLine E Standard.registry s line recorded).shell.exitRequest = s.exitRequest) := by
  have hasks : ∀ n, AsksToEnd (Text.trimString line) n ↔ AsksToEnd line n := by
    intro n
    rw [asksToEnd_iff, asksToEnd_iff, parse_trimString]
  by_cases hblank : Text.trimString line = ""
  · rw [runLine_blank E _ s hblank]
    refine ⟨?_, fun _ ↦ rfl⟩
    intro n hn
    obtain ⟨parsed, arguments, hparse, halone, -⟩ := asksToEnd_iff.mp hn
    exact absurd hblank (trimString_ne_of_parse hparse (halone ▸ List.mem_cons_self))
  · rw [runLine_of_ne E _ s hblank, exitRequest_remember]
    refine ⟨?_, ?_⟩
    · intro n hn
      refine exitRequest_runText_of_asks E s ?_ ((hasks n).mpr hn)
      rwa [parse_trimString]
    · intro hnot
      exact exitRequest_runText_of_not_asks E s fun n hn ↦ hnot n ((hasks n).mp hn)

/-- Quotes and redirections do not matter, nor do further arguments. -/
theorem runLine_exitRequest_quoted :
    (∀ parsed, parse "'exit' > /out -3 now" = .ok parsed → ∀ stream target,
      parsed.redirection.target? stream = some target → Path.hasNul target.path = false) ∧
    AsksToEnd "'exit' > /out -3 now" (-3) ∧
    (runLine noPrograms Standard.registry {} "'exit' > /out -3 now").shell.exitRequest =
      some (-3) := by
  have hparse : parse "'exit' > /out -3 now" = .ok {
      raw := "'exit' > /out -3 now"
      commands := [⟨"exit", ["-3", "now"]⟩]
      redirection := { output := some ⟨"/out", false⟩ } } := by decide +kernel
  have hasks : AsksToEnd "'exit' > /out -3 now" (-3) := .number hparse rfl (by decide +kernel)
  have hnul : ∀ parsed, parse "'exit' > /out -3 now" = .ok parsed → ∀ stream target,
      parsed.redirection.target? stream = some target → Path.hasNul target.path = false := by
    intro parsed h stream target htarget
    obtain rfl := Except.ok.inj (hparse.symm.trans h)
    cases stream with
    | output =>
      obtain rfl := Option.some.inj htarget
      decide +kernel
    | errors => cases htarget
  exact ⟨hnul, hasks,
    (runLine_exitRequest noPrograms {} "'exit' > /out -3 now" true hnul).1 (-3) hasks⟩

end Session

end CommandShell

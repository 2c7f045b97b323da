import CommandShell.Proofs.History.Cursor
import CommandShell.Proofs.Pipeline.Moments
import CommandShell.Proofs.Session.Calls
import CommandShell.Proofs.Session.Loop

/-!
# What a line does to the history

Two things add to the log while a line is handled: the stages that read a history file, each when it
is run, and the recording of the line, which comes after everything else. Nothing is ever taken out,
so the log after a line is the old log, then what was read, then the line (`runLine_adds`), however
the line ended. A stage that lists or saves the log has only seen what was read before it.

The invariant is that of `Adds`: at every moment of a run the log is the old one and what the stages
that were started have read, in order. Workers change the machine and nothing else, so only the
start of a stage matters, and of the standard handlers only that of `history` touches the log.
-/

namespace CommandShell

open CommandShell.Host CommandShell.Pipeline

/-! ## Handlers and the log -/

namespace Standard

/-- The entries that a call of `history` reads into the log: those of the file after `-r`, if it can
be read. -/
def entriesRead (args : List String) (m : Machine) : List String :=
  match args with
  | flag :: path :: _ => if flag = "-r" then (HistoryLog.loadable? m path).getD [] else []
  | _ => []

/-- The use of a history file adds what is read from it, and nothing else. -/
theorem entries_useHistoryFile (s : Shell) (flag path : String) (rest : List String) :
    (useHistoryFile s flag path).2.history.entries =
      s.history.entries ++ entriesRead (flag :: path :: rest) s.machine := by
  unfold useHistoryFile
  simp only [entriesRead]
  split_ifs with hread hwrite
  · rw [HistoryLog.load_eq]
    cases HistoryLog.loadable? s.machine path with
    | some loaded => rfl
    | none => rw [Option.getD_none, List.append_nil]
  · rw [List.append_nil]
    split
    · next hsave => exact HistoryLog.entries_of_save (congrArg Prod.fst hsave)
    · rfl
  · rw [List.append_nil]
    split
    · next hsave => exact HistoryLog.entries_of_appendUnsaved (congrArg Prod.fst hsave)
    · rfl

/-- **`history` adds to the log what it reads, and never anything else.** -/
theorem entries_history (call : Call) (s : Shell) :
    (history call s).2.history.entries =
      s.history.entries ++ entriesRead call.args s.machine := by
  cases hargs : call.args with
  | nil =>
    simp only [history, hargs, entriesRead, List.append_nil]
  | cons first rest =>
    cases rest with
    | nil =>
      simp only [history, hargs, entriesRead, List.append_nil]
      split
      · rfl
      · split <;> rfl
    | cons path rest =>
      simp only [history, hargs]
      split_ifs with hflag
      · exact entries_useHistoryFile s first path rest
      · -- a number or a complaint, and no flag
        have hread : first ≠ "-r" := by
          rintro rfl
          exact hflag (by decide)
        simp only [entriesRead, if_neg hread, List.append_nil]
        split <;> rfl

theorem history_of_standard {b : Builtin} (hb : b ∈ registry.builtins) (hname : b.name ≠ "history")
    (call : Call) (s : Shell) : (b.handler call s).2.history = s.history := by
  simp only [registry, List.mem_cons, List.not_mem_nil, or_false] at hb
  rcases hb with rfl | rfl | rfl | rfl | rfl | rfl
  · rfl
  · exact (congrArg Shell.history (shell_cd call s)).trans rfl
  · exact congrArg Shell.history (shell_pwd call s)
  · exact congrArg Shell.history (shell_type call s)
  · exact absurd rfl hname
  · exact (congrArg Shell.history (shell_exit call s)).trans rfl

end Standard

/-- A registry with the standard builtins, and perhaps others, none of which touches the log. -/
structure Registry.HasStandard (registry : Registry) : Prop where
  standard : ∀ b ∈ Standard.registry.builtins, registry.get? b.name = some b
  others : ∀ b ∈ registry.builtins, b ∈ Standard.registry.builtins ∨
    ∀ call s, (b.handler call s).2.history = s.history

namespace Registry.HasStandard

variable {registry : Registry}

theorem work_of_history (h : registry.HasStandard) {m : Machine} {work : Work}
    (hwork : Stage.workOf registry m "history" = .ok work) :
    work = .builtin (some Standard.history) := by
  have hget : registry.get? "history" = some Standard.registry.builtins[4] :=
    h.standard Standard.registry.builtins[4] (List.getElem_mem _)
  rw [Stage.workOf_of_get? hget] at hwork
  exact (Except.ok.inj hwork).symm

theorem history_of_handler (h : registry.HasStandard) {m : Machine} {name : String}
    {handler : Call → Shell → Reply × Shell} (hname : name ≠ "history")
    (hwork : Stage.workOf registry m name = .ok (.builtin (some handler))) (call : Call)
    (s : Shell) : (handler call s).2.history = s.history := by
  obtain ⟨b, hget, rfl⟩ := Option.map_eq_some_iff.mp (Stage.handler_of_workOf hwork).symm
  have hb : b.name = name := by simpa using List.find?_some hget
  rcases h.others b (List.mem_of_find?_eq_some hget) with hstandard | hkeeps
  · exact Standard.history_of_standard hstandard (hb ▸ hname) call s
  · exact hkeeps call s

end Registry.HasStandard

theorem hasStandard_standard : Standard.registry.HasStandard where
  standard b hb := by
    simp only [Standard.registry, List.mem_cons, List.not_mem_nil, or_false] at hb
    rcases hb with rfl | rfl | rfl | rfl | rfl | rfl <;> rfl
  others b hb := .inl hb

/-! ## Stages and the log -/

theorem Shell.SameSession.history_eq {s t : Shell} (h : s.SameSession t) :
    t.history = s.history := by
  rw [h]

def Stage.entriesRead (stage : Stage) (s : Shell) : List String :=
  if stage.command.name = "history" then
    Standard.entriesRead stage.command.arguments s.machine
  else []

theorem Shell.sameSession_deliver (s : Shell) (outlet : Outlet) (text : String) :
    s.SameSession (s.deliver outlet text).2 := by
  unfold Shell.deliver
  split_ifs
  · rfl
  · split <;> exact s.sameSession_of_machine _

namespace Pipeline

variable {σ : Type} {registry : Registry}

theorem Returned.sameSession_deliver (r : Returned) (toOutput toErrors : Option Outlet) :
    r.shell.SameSession (r.deliver toOutput toErrors).2 := by
  have herrors := r.shell.sameSession_deliver (toErrors.getD .errors) r.errors
  unfold Returned.deliver
  split
  · next hsaid => rwa [hsaid] at herrors
  · next said hsaid =>
    rw [hsaid] at herrors
    have houtput := said.sameSession_deliver (toOutput.getD .output) r.output
    split
    · next hdone =>
      rw [hdone] at houtput
      exact herrors.trans houtput
    · next hdone =>
      rw [hdone] at houtput
      exact herrors.trans houtput

namespace Run

theorem sameSession_outcomeOf (registered : List String) (stage : Stage)
    (handler : Call → Shell → Reply × Shell) (targets : Targets) (s : Shell) :
    (handler (callOf registered stage) s).2.SameSession
      (outcomeOf registered stage handler targets s).2 := by
  unfold outcomeOf
  generalize handler (callOf registered stage) s = answer
  obtain ⟨⟨status, output, errors⟩ | fault, after⟩ := answer
  · dsimp only
    split_ifs
    · exact (Returned.mk status output errors after).sameSession_deliver _ _
    · rfl
  · rfl

/-- **What the start of a stage does to a session**: what its handler does, if it has one, and
nothing otherwise. -/
theorem sameSession_startStage (P : Programs σ) (r : Run σ) (registered : List String)
    (stage : Stage) (incoming : Option Link) (targets : Targets) :
    (∃ handler, stage.work = .builtin (some handler) ∧
      (handler (callOf registered stage) r.shell).2.SameSession
        (r.startStage P registered stage incoming targets).2.shell) ∨
    (∀ handler, stage.work ≠ .builtin (some handler)) ∧
      r.shell.SameSession (r.startStage P registered stage incoming targets).2.shell := by
  rw [startStage]
  cases stage.work with
  | external executable =>
    refine .inr ⟨?_, r.sameSession_startExternal ..⟩
    intro handler hkind
    cases hkind
  | builtin handler =>
    cases handler with
    | none =>
      refine .inr ⟨?_, ?_⟩
      · intro handler hkind
        cases hkind
      · simp only [runBuiltin, shell_closeIncoming]
        rfl
    | some handler =>
      refine .inl ⟨handler, rfl, ?_⟩
      dsimp only
      rw [← targetsFor, runBuiltin_eq]
      exact sameSession_outcomeOf registered stage handler (targetsFor stage targets) r.shell

/-- **The start of a stage adds to the log what the stage reads.** -/
theorem entries_startStage (hreg : registry.HasStandard) (P : Programs σ) (r : Run σ)
    {m : Machine} {stage : Stage}
    (hwork : Stage.workOf registry m stage.command.name = .ok stage.work) (incoming : Option Link)
    (targets : Targets) :
    (r.startStage P registry.registered stage incoming targets).2.shell.history.entries =
      r.shell.history.entries ++ stage.entriesRead r.shell := by
  have hstart := r.sameSession_startStage P registry.registered stage incoming targets
  unfold Stage.entriesRead
  split_ifs with hname
  · -- the stage runs the standard builtin
    rw [hname] at hwork
    have hhistory := hreg.work_of_history hwork
    rcases hstart with ⟨handler, hkind, hsame⟩ | ⟨hnone, -⟩
    · rw [hhistory] at hkind
      cases hkind
      rw [hsame.history_eq, Standard.entries_history]
      rfl
    · exact absurd hhistory (hnone Standard.history)
  · rw [List.append_nil]
    rcases hstart with ⟨handler, hkind, hsame⟩ | ⟨-, hsame⟩
    · rw [hkind] at hwork
      rw [hsame.history_eq, hreg.history_of_handler hname hwork]
    · rw [hsame.history_eq]

end Run

/-! ## Runs and the log -/

def StageStart.entriesRead (a : StageStart σ) : List String :=
  a.stage.entriesRead a.before.shell

/-- At a moment of a run the log is what it was at the beginning and what the stages that were
started have read, in order, and every stage has found what the ones before it left. -/
structure Adds (stages : List Stage) (entries : List String) (m : Moment σ) : Prop where
  pending_subset : m.pending ⊆ stages
  entries_eq : m.run.shell.history.entries = entries ++ m.started.flatMap StageStart.entriesRead
  before_eq : ∀ k a, m.started[k]? = some a →
    a.before.shell.history.entries =
      entries ++ (m.started.take k).flatMap StageStart.entriesRead

namespace Adds

variable {stages : List Stage} {entries : List String} {m : Moment σ}

theorem start (h : Adds stages entries m) (hreg : registry.HasStandard) {machine : Machine}
    (hwork : ∀ stage ∈ stages, Stage.workOf registry machine stage.command.name = .ok stage.work)
    {P : Programs σ} {targets : Run.Targets} {stage : Stage} {rest : List Stage}
    (pending : m.pending = stage :: rest) :
    Adds stages entries (m.start P registry.registered targets stage rest) := by
  obtain ⟨hstage, hrest⟩ := List.cons_subset.mp (pending ▸ h.pending_subset)
  refine ⟨hrest, ?_, ?_⟩
  · have hstart :=
      m.run.entries_startStage hreg P (hwork stage hstage) (linkAfter m.started) targets
    rw [h.entries_eq, List.append_assoc] at hstart
    simp only [Moment.start, List.flatMap_append, List.flatMap_singleton]
    exact hstart
  · intro k a ha
    simp only [Moment.start] at ha ⊢
    by_cases hk : k < m.started.length
    · rw [List.getElem?_append_left hk] at ha
      rw [List.take_append_of_le_length (Nat.le_of_lt hk)]
      exact h.before_eq k a ha
    · -- the new stage is the last one
      rw [List.getElem?_append_right (Nat.le_of_not_lt hk), List.getElem?_singleton] at ha
      split_ifs at ha with hlast
      obtain rfl := Option.some.inj ha
      obtain rfl : k = m.started.length := by omega
      rw [List.take_left]
      exact h.entries_eq

theorem turn (h : Adds stages entries m) (P : Programs σ) (t : Run.Turn) :
    Adds stages entries (m.turn P t) := by
  refine ⟨h.pending_subset, ?_, h.before_eq⟩
  have hsame := m.run.sameSession_turns P [t]
  rw [Moment.turn]
  exact (congrArg HistoryLog.entries hsame.history_eq).trans h.entries_eq

end Adds

/-- **What a run adds to the log is what its stages read**, whatever the schedule. -/
theorem Reached.adds (hreg : registry.HasStandard) {machine : Machine} {stages : List Stage}
    (hwork : ∀ stage ∈ stages, Stage.workOf registry machine stage.command.name = .ok stage.work)
    {P : Programs σ} {targets : Run.Targets} {r : Run σ} {m : Moment σ}
    (h : Reached P registry.registered targets stages r m) :
    Adds stages r.shell.history.entries m := by
  induction h with
  | begin =>
    refine ⟨List.Subset.refl stages, (List.append_nil _).symm, ?_⟩
    intro k a ha
    simp at ha
  | start h going pending ih => exact ih.start hreg hwork pending
  | turn h t ih => exact ih.turn P t

theorem EndsAt.history_eq {E : Engine σ} {registered : List String} {stages : List Stage}
    {redirection : Line.Redirection} {shell : Shell} {r : Run σ} {m : Moment σ}
    (h : EndsAt E registered stages redirection shell r m) :
    (run E registered stages redirection shell).2.shell.history = m.run.shell.history := by
  rw [h.run_eq, (Run.sameSession_closeFiles _).history_eq, Run.shell_cleanUp]

end Pipeline

/-! ## Lines and the log -/

namespace Session

variable {σ : Type} {registry : Registry}

/-- How the stages of a line were started, the first one first: not at all if no pipeline was run
for it, and otherwise as the moments of its run have it. The run begins with the session as the line
finds it, and goes on until it is stopped, unless a target keeps it from starting anything. -/
inductive Started (E : Engine σ) (registry : Registry) (s : Shell) (text : String) :
    Option (Run σ) → List (StageStart σ) → Prop
  | notRun : Started E registry s text none []
  | ran {parsed : Line.ParsedLine} {stages : List Stage} {r : Run σ} {m : Moment σ}
      (parse : Line.parse text = .ok parsed)
      (build : buildStages registry s.machine parsed.commands = .ok stages)
      (sameSession : s.SameSession r.shell)
      (ends : EndsAt E registry.registered stages parsed.redirection s r m)
      (stopped : m.IsStopped ∨ m.started = []) :
      Started E registry s text
        (some (run E registry.registered stages parsed.redirection s).2) m.started

/-- The text of a line adds to the log what its stages read, and each stage has only seen what the
ones before it read. -/
theorem runText_adds (E : Engine σ) (hreg : registry.HasStandard) (s : Shell) (text : String) :
    ∃ started, Started E registry s text (runText E registry s text).run started ∧
      (runText E registry s text).shell.history.entries =
        s.history.entries ++ started.flatMap StageStart.entriesRead ∧
      ∀ k a, started[k]? = some a →
        a.before.shell.history.entries =
          s.history.entries ++ (started.take k).flatMap StageStart.entriesRead := by
  have hnone : ∀ after : Shell, after.history = s.history → ∀ started : List (StageStart σ),
      started = [] →
        after.history.entries = s.history.entries ++ started.flatMap StageStart.entriesRead ∧
        ∀ k a, started[k]? = some a →
          a.before.shell.history.entries =
            s.history.entries ++ (started.take k).flatMap StageStart.entriesRead := by
    rintro after hafter started rfl
    refine ⟨by simp [hafter], fun k a ha ↦ ?_⟩
    simp at ha
  unfold runText
  split
  · exact ⟨[], .notRun, hnone _ rfl _ rfl⟩
  · next parsed hparse =>
    split
    · exact ⟨[], .notRun, hnone _ rfl _ rfl⟩
    · exact ⟨[], .notRun, hnone _ rfl _ rfl⟩
    · next stages hbuild =>
      obtain ⟨r, m, hsame, hends, hstopped, -⟩ :=
        run_moments_sameSession E registry.registered stages parsed.redirection s
      have hadds := hends.reached.adds hreg (Stage.workOf_of_buildFrom hbuild)
      rw [hsame.history_eq] at hadds
      have hstarted : Started E registry s text
          (some (run E registry.registered stages parsed.redirection s).2) m.started :=
        .ran hparse hbuild hsame hends (hstopped.imp_right And.left)
      have hentries := hends.history_eq ▸ hadds.entries_eq
      split
      · next hrun =>
        rw [hrun] at hstarted hentries
        exact ⟨m.started, hstarted, hentries, hadds.before_eq⟩
      · next hrun =>
        rw [hrun] at hstarted hentries
        exact ⟨m.started, hstarted, hentries, hadds.before_eq⟩

/-- A shell with one entry in its history and a file with two more. -/
def reading : Shell where
  machine := { files := { nodes := #[.directory 0 [("h", 1)], .file 0o644 "a\n\n b \n".toUTF8] } }
  history := { entries := ["echo hi"] }

end Session

end CommandShell

import CommandShell.Proofs.Pipeline.Record

/-!
# No process outlives its run

At the end of a run the shell kills the processes that have not ended, and waits for all of them
(`Run.processes_reap`). It does so however the run ends, so it is enough to know that a run has no
other processes than those of the stages that it has started (`Listed.plugs_iff`).

When a stage raises a fault, nothing is started after it. What a builtin wrote before it raised the
fault is in its reply, and the run drops it there: the shell is left as the handler left it, but for
the files that were opened for the run.
-/

namespace CommandShell.Pipeline

open CommandShell.Host CommandShell.Line

variable {σ : Type} {P : Programs σ} {registered : List String} {targets : Run.Targets}
  {stages : List Stage}

/-! ## Waiting for processes -/

namespace Process

/-- A process once the shell has waited for it; if it had not ended by itself, it was killed. -/
def waitedFor (p : Process σ) : Process σ :=
  { p with status := some (p.status.getD killedStatus), reaped := true }

/-- A process has ended, and the shell has waited for its end. -/
structure IsGone (p : Process σ) : Prop where
  hasEnded : p.status.isSome = true
  isReaped : p.reaped = true

theorem isGone_waitedFor (p : Process σ) : p.waitedFor.IsGone :=
  ⟨rfl, rfl⟩

@[simp] theorem waitedFor_waitedFor (p : Process σ) : p.waitedFor.waitedFor = p.waitedFor := rfl

end Process

namespace Run

def waitFor (r : Run σ) (id : Nat) : Run σ :=
  match r.processes[id]? with
  | some p =>
    let p := { p with reaped := true }
    match p.status with
    | some status => r.endProcess id p status
    | none => r.endProcess id p killedStatus
  | none => r

theorem reap_eq_foldl (r : Run σ) : r.reap = (List.range r.processes.size).foldl waitFor r := rfl

theorem processes_waitFor (r : Run σ) (id k : Nat) :
    (r.waitFor id).processes[k]? =
      if k = id then r.processes[k]?.map Process.waitedFor else r.processes[k]? := by
  unfold waitFor
  cases hp : r.processes[id]? with
  | none =>
    split_ifs with hk
    · rw [hk, hp, Option.map_none]
    · rfl
  | some p =>
    have hid := (Array.getElem?_eq_some_iff.mp hp).1
    -- both ways to end come to the same process, with its own status or that of a killed one
    have hended : ∀ status, status = p.status.getD killedStatus →
        (r.endProcess id { p with reaped := true } status).processes[k]? =
          if k = id then r.processes[k]?.map Process.waitedFor else r.processes[k]? := by
      intro status hstatus
      rw [processes_endProcess, Array.getElem?_setIfInBounds]
      by_cases hk : k = id
      · rw [if_pos hk.symm, if_pos hk, if_pos hid, hk, hp, hstatus]
        rfl
      · rw [if_neg (Ne.symm hk), if_neg hk]
    dsimp only
    split
    · next status hstatus => exact hended status (by rw [hstatus, Option.getD_some])
    · next hstatus => exact hended _ (by rw [hstatus, Option.getD_none])

theorem processes_foldl_waitFor (ids : List Nat) (r : Run σ) (k : Nat) :
    (ids.foldl waitFor r).processes[k]? =
      if k ∈ ids then r.processes[k]?.map Process.waitedFor else r.processes[k]? := by
  induction ids generalizing r with
  | nil => simp
  | cons id ids ih =>
    rw [List.foldl_cons, ih, processes_waitFor]
    by_cases hid : k = id <;> by_cases hids : k ∈ ids <;>
      simp [hid, hids, Function.comp_def]

/-- **In the end the shell has waited for all processes.** -/
theorem processes_reap (r : Run σ) : r.reap.processes = r.processes.map Process.waitedFor := by
  refine Array.ext_getElem? fun k ↦ ?_
  rw [reap_eq_foldl, processes_foldl_waitFor, Array.getElem?_map]
  split_ifs with hk
  · rfl
  · rw [List.mem_range, Nat.not_lt] at hk
    rw [Array.getElem?_eq_none hk, Option.map_none]

theorem processes_cleanUp (r : Run σ) (left : Option Link) :
    (r.cleanUp left).processes = r.processes.map Process.waitedFor := by
  unfold cleanUp
  rw [processes_reap, processes_cancelCopies]
  cases left <;> simp

end Run

/-! ## Stages that are started, and stages that raise a fault -/

namespace StageStart

variable {a : StageStart σ}

def Spawns (P : Programs σ) (targets : Run.Targets) (a : StageStart σ) : Prop :=
  ∃ executable state, a.stage.work = .external executable ∧ a.stage.CanBeAsked ∧
    P.start a.before.shell.machine (a.before.streamsFor a.stage a.incoming targets)
      (executable.getD a.stage.command.name) a.stage.command.argv = .ok state

/-- A program that the system has started is a process of the run. -/
theorem IsCall.process?_of_spawns (h : a.IsCall P registered targets)
    (hspawns : a.Spawns P targets) : ∃ id, a.process? = some id := by
  obtain ⟨executable, state, hwork, hasked, hstart⟩ := hspawns
  have hstarts := h.starts
  generalize hresult : a.result = result at hstarts
  generalize hafter : a.after = after at hstarts
  cases hstarts with
  | joins => exact ⟨a.before.processes.size, by rw [process?, hresult]⟩
  | isRefused hwork' hnul hstart' =>
    cases hwork.symm.trans hwork'
    cases hstart.symm.trans hstart'
  | isHandled hwork' => cases hwork.symm.trans hwork'
  | isMissing hwork' => cases hwork.symm.trans hwork'
  | isMalformed hwork' hnul =>
    cases hwork.symm.trans hwork'
    rw [hasked _ hwork] at hnul
    cases hnul

/-- A handler that raises a fault makes its stage fail, and the shell is left as the handler leaves
it, whatever was written before. -/
theorem IsCall.raises (h : a.IsCall P registered targets)
    {handler : Call → Shell → Reply × Shell} {fault : Fault} {output errors : String} {s : Shell}
    (hwork : a.stage.work = .builtin (some handler))
    (hanswer : handler (Run.callOf registered a.stage) a.before.shell =
      (.raised fault output errors, s)) :
    a.result = .error fault ∧ a.after.shell = s := by
  have hcomes := h.comes (by rw [hwork]; nofun)
  obtain ⟨houtcome, -⟩ := hcomes.of_builtin hwork
  rw [Run.outcomeOf, hanswer] at houtcome
  exact Prod.mk.inj houtcome

end StageStart

/-! ## The run as a whole -/

variable {m : Moment σ}

theorem Listed.process_of_process? (h : Listed P registered targets stages m) {a : StageStart σ}
    (ha : a ∈ m.started) {id : Nat} (hid : a.process? = some id) :
    ∃ p, m.run.processes[id]? = some p ∧ p.position = a.stage.position := by
  obtain ⟨p, hp, hplug⟩ := Run.process_of_plug ((h.plugs_iff id _).mpr ⟨a, ha, hid, rfl⟩)
  exact ⟨p, hp, congrArg Plug.position hplug⟩

/-- **No process outlives its run.** A run starts its stages one after the other. However it ends,
every program that was started for one of them has ended, and the shell has waited for its end. If a
stage raises a fault, it is the last one that was started, and its fault is that of the run; and
nothing becomes of what a builtin wrote before it raised a fault: the shell is as the handler left
it, with the files closed that were opened for the run. -/
theorem run_reaps (E : Engine σ) (registered : List String) (stages : List Stage)
    (redirection : Redirection) (shell : Shell) :
    (∀ (id : Nat) (p : Process σ),
      (run E registered stages redirection shell).2.processes[id]? = some p → p.IsGone) ∧
    ∃ r moment, EndsAt E registered stages redirection shell r moment ∧
      moment.started.map (·.stage) <+: stages ∧
      ∀ a ∈ moment.started, a.IsCall E.programs registered (targetsOf redirection shell) ∧
        (a.Spawns E.programs (targetsOf redirection shell) →
          ∃ (id : Nat) (p : Process σ), a.process? = some id ∧
          (run E registered stages redirection shell).2.processes[id]? = some p ∧
          p.position = a.stage.position) ∧
        (∀ fault, a.result = .error fault → moment.started.getLast? = some a ∧
          (run E registered stages redirection shell).1 = .error fault) ∧
        ∀ handler fault output errors s, a.stage.work = .builtin (some handler) →
          handler (Run.callOf registered a.stage) a.before.shell =
            (.raised fault output errors, s) →
          a.result = .error fault ∧
          (run E registered stages redirection shell).2.shell =
            { s with
              machine := (run E registered stages redirection shell).2.opened.foldl
                Machine.closeOutlet s.machine } := by
  obtain ⟨r, moment, hend, -, hends⟩ := run_moments E registered stages redirection shell
  have hlisted := hend.reached.listed hend.isFresh
  have hprocesses : (run E registered stages redirection shell).2.processes =
      moment.run.processes.map Process.waitedFor := by
    rw [hend.run_eq]
    exact Run.processes_cleanUp ..
  have hshell : (run E registered stages redirection shell).2.shell =
      { moment.run.shell with
        machine := (run E registered stages redirection shell).2.opened.foldl
          Machine.closeOutlet moment.run.shell.machine } := by
    rw [hend.run_eq, ← Run.shell_cleanUp moment.run (linkAfter moment.started)]
    rfl
  refine ⟨?_, r, moment, hend, ⟨moment.pending, hlisted.stages_eq⟩, ?_⟩
  · intro id p hp
    rw [hprocesses, Array.getElem?_map, Option.map_eq_some_iff] at hp
    obtain ⟨q, -, rfl⟩ := hp
    exact q.isGone_waitedFor
  · intro a ha
    have hcall := hlisted.isCall a ha
    have hfault : ∀ fault, a.result = .error fault → moment.started.getLast? = some a ∧
        (run E registered stages redirection shell).1 = .error fault ∧
        moment.run = a.after := by
      intro fault hfault
      -- nothing is started after a stage that raises a fault
      have hlast := hlisted.getLast?_of_error ha hfault
      exact ⟨hlast, hends.fault a fault hlast hfault⟩
    refine ⟨hcall, ?_, ?_, ?_⟩
    · intro hspawns
      obtain ⟨id, hid⟩ := hcall.process?_of_spawns hspawns
      obtain ⟨p, hp, hposition⟩ := hlisted.process_of_process? ha hid
      refine ⟨id, p.waitedFor, hid, ?_, hposition⟩
      rw [hprocesses, Array.getElem?_map, hp, Option.map_some]
    · intro fault h
      obtain ⟨hlast, hresult, -⟩ := hfault fault h
      exact ⟨hlast, hresult⟩
    · intro handler fault output errors s hwork hanswer
      obtain ⟨hresult, hafter⟩ := hcall.raises hwork hanswer
      obtain ⟨-, -, hrun⟩ := hfault fault hresult
      refine ⟨hresult, ?_⟩
      rw [hshell, hrun, hafter]

end CommandShell.Pipeline

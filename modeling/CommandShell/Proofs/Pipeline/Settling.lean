import CommandShell.Proofs.Pipeline.Filters

/-!
# How a run comes to its end

When all stages are started, everybody gets a turn, round after round, until all is done or the
engine has lost its patience. It is up to the programs whether their processes come to an end. But
once they have, so do the copies: nothing more is to come, and each round brings every copy nearer
to its end (`Reached.exists_settle_isDone`).

The patience of an engine is no part of what it runs. `Launches` tells what an engine makes of a
pipeline with every patience at once: up to the last start nothing depends on it, and then the
result is a function of what settling comes to.
-/

namespace CommandShell.Pipeline

open CommandShell.Host CommandShell.Line

variable {σ : Type} {P : Programs σ} {registered : List String} {targets : Run.Targets}
  {stages : List Stage} {r : Run σ} {m : Moment σ}

namespace Run

/-! ## Patience -/

theorem settle_add (P : Programs σ) (n k : Nat) (r : Run σ) :
    settle P (n + k) r = settle P k (settle P n r) := by
  induction n generalizing r with
  | zero => rw [Nat.zero_add, settle]
  | succ n ih =>
    rw [Nat.succ_add, settle, settle]
    split_ifs with hdone
    · exact (settle_of_isDone P k hdone).symm
    · exact ih _

theorem settle_of_le {n k : Nat} (h : (settle P n r).isDone = true) (hle : n ≤ k) :
    settle P k r = settle P n r := by
  obtain ⟨more, rfl⟩ := Nat.exists_eq_add_of_le hle
  rw [settle_add, settle_of_isDone P more h]

/-! ## Rounds -/

theorem round_eq_of_layout {r' : Run σ} (h : r'.layout = r.layout) : r'.round = r.round := by
  have hcopies : r'.copies.size = r.copies.size := by
    simpa [layout] using congrArg (·.feeds.size) h
  have hprocesses : r'.processes.size = r.processes.size := by
    simpa [layout] using congrArg (·.plugs.size) h
  rw [round, round, hcopies, hprocesses]

def rounds (r : Run σ) (n : Nat) : List Turn :=
  (List.replicate n r.round).flatten

theorem isDone_or_settle_eq (P : Programs σ) (n : Nat) (r : Run σ) :
    (settle P n r).isDone = true ∨ settle P n r = r.turns P (r.rounds n) := by
  induction n generalizing r with
  | zero => exact .inr rfl
  | succ n ih =>
    rw [settle]
    split_ifs with hdone
    · exact .inl hdone
    · refine (ih (r.turns P r.round)).imp_right fun hturns ↦ ?_
      rw [hturns, rounds, round_eq_of_layout (layout_turns P r r.round), ← turns_append, rounds,
        List.replicate_succ, List.flatten_cons]

theorem le_countP_rounds {j : Nat} (hj : j < r.copies.size) (n : Nat) :
    n ≤ (r.rounds n).countP (·.isOf j) := by
  have hround : 0 < r.round.countP (·.isOf j) := by
    refine List.countP_pos_iff.mpr ⟨.copy j chunk, ?_, beq_self_eq_true j⟩
    exact List.mem_append_left _ (List.mem_map_of_mem (List.mem_range.mpr hj))
  rw [rounds, List.countP_flatten, List.map_replicate, List.sum_replicate_nat]
  exact Nat.le_mul_of_pos_right n hround

/-! ## Processes that have ended -/

def AllEnded (r : Run σ) : Prop :=
  ∀ (id : Nat) (p : Process σ), r.processes[id]? = some p → p.status.isSome = true

theorem isDone_iff : r.isDone = true ↔
    r.AllEnded ∧ ∀ (j : Nat) (c : Copy), r.copies[j]? = some c → c.finished = true := by
  rw [isDone, Bool.and_eq_true, Array.all_eq_true_iff_forall_mem,
    Array.all_eq_true_iff_forall_mem]
  simp only [Array.mem_iff_getElem?, forall_exists_index, AllEnded]
  constructor
  · rintro ⟨hended, hfinished⟩
    exact ⟨fun id p ↦ hended p id, fun j c ↦ hfinished c j⟩
  · rintro ⟨hended, hfinished⟩
    exact ⟨fun p id ↦ hended id p, fun c j ↦ hfinished j c⟩

theorem AllEnded.processes_turns (h : r.AllEnded) (ts : List Turn) :
    (r.turns P ts).processes = r.processes := by
  induction ts generalizing r with
  | nil => rfl
  | cons t ts ih =>
    have hturn : (r.turn P t).processes = r.processes := by
      cases t with
      | process id most => rw [turn, stepProcess_eq_self P most (h id)]
      | copy id most => exact r.processes_stepCopy id most
    rw [turns_cons, ih (by rwa [AllEnded, hturn]), hturn]

end Run

/-- **Once the processes have ended, all comes to an end.** Nothing keeps a copy from its end then,
so enough patience settles everything. -/
theorem Reached.exists_settle_isDone (hr : IsFresh r)
    (hplaces : ∀ (k : Nat) (stage : Stage), stages[k]? = some stage → stage.IsAt stages.length k)
    (hm : Reached P registered targets stages r m) (hended : m.run.AllEnded) :
    ∃ n, (m.run.settle P n).isDone = true := by
  have hstages := Stage.hasHandler_of_isAt hplaces
  have hdry (j : Nat) (c : Copy) (hc : m.run.copies[j]? = some c) : c.IsDry m.run := by
    obtain ⟨_, a, _, _, -, -, -, hconveys⟩ :=
      ((hm.recorded hr hstages).carried (hm.sound hr hstages) hplaces).every j c hc
    exact hconveys.dry fun id p _ ↦ hended id p
  obtain ⟨n, hn⟩ : ∃ n, ∀ k ∈ m.run.copies.toList.map fun c ↦ c.remaining m.run, k ≤ n := by
    cases hmax : (m.run.copies.toList.map fun c ↦ c.remaining m.run).max? with
    | none => exact ⟨0, by simp [List.max?_eq_none_iff.mp hmax]⟩
    | some n => exact ⟨n, (List.max?_le_iff hmax).mp (Nat.le_refl n)⟩
  refine ⟨n, ?_⟩
  rcases Run.isDone_or_settle_eq P n m.run with hdone | hturns
  · exact hdone
  · rw [hturns, Run.isDone_iff]
    have hprocesses := hended.processes_turns (P := P) (m.run.rounds n)
    refine ⟨by rwa [Run.AllEnded, hprocesses], fun j c' hc' ↦ ?_⟩
    -- no turn adds a copy
    have hfeed : m.run.layout.feeds[j]? = some c'.feed := by
      rw [← Run.layout_turns P m.run (m.run.rounds n)]
      exact Run.feed_of_copy hc'
    obtain ⟨c, hc, -⟩ := Run.copy_of_feed hfeed
    have hremaining : c.remaining m.run ≤ n := by
      refine hn _ (List.mem_map_of_mem ?_)
      exact Array.mem_toList_iff.mpr (Array.mem_of_getElem? hc)
    obtain ⟨c'', hc'', hfinished⟩ := hm.finishes hr hstages hc (hdry j c hc) (m.run.rounds n)
      (Nat.le_trans hremaining
        (Run.le_countP_rounds (Array.getElem?_eq_some_iff.mp hc).1 n))
    rwa [Option.some.inj (hc'.symm.trans hc'')]

/-! ## Engines with any patience -/

def Engine.within (E : Engine σ) (patience : Nat) : Engine σ :=
  { E with patience }

@[simp] theorem Run.startAll_within (E : Engine σ) (n : Nat) (incoming : Option Link) :
    startAll (E.within n) registered targets stages incoming r =
      startAll E registered targets stages incoming r := by
  induction stages generalizing incoming r with
  | nil => rfl
  | cons stage rest ih =>
    simp only [startAll, ih]
    rfl

/-- What a run comes to whose last stage has a certain status. -/
def Run.resultOf (r : Run σ) (st : StageStatus) : Except Fault Int :=
  if r.isDone then
    match r.resolve st with
    | some status => .ok status
    | none => .error .stalled
  else .error .stalled

theorem Run.lastStatus_eq_resultOf {statuses : List StageStatus} {st : StageStatus}
    (h : statuses.getLast? = some st) (r : Run σ) :
    (if r.isDone then r.lastStatus statuses else .error .stalled) = r.resultOf st := by
  rw [lastStatus, h]
  rfl

/-- Stages are started up to a moment that does not depend on patience. If the stage that was
started last has raised a fault, the run ends there; otherwise it settles. -/
theorem runStages_launches (E : Engine σ) (registered : List String) (stages : List Stage)
    (targets : Run.Targets) (r : Run σ) :
    ∃ m, Reached E.programs registered targets stages r m ∧ m.IsStopped ∧
      ∀ a n, m.started.getLast? = some a →
        runStages (E.within n) registered stages targets r =
          match a.result with
          | .error fault => (.error fault, m.run.cleanUp (linkAfter m.started))
          | .ok (_, st) =>
            ((m.run.settle E.programs n).resultOf st,
              (m.run.settle E.programs n).cleanUp (linkAfter m.started)) := by
  obtain ⟨m, hm, hcases⟩ := startAll_moments E registered stages targets r
  obtain ⟨fault, a, hstart, hlast, ha, -⟩ |
    ⟨statuses, hstart, hpending, hgoing, hstatuses⟩ := hcases
  · refine ⟨m, hm, .inr ⟨a, fault, hlast, ha⟩, fun b n hb ↦ ?_⟩
    obtain rfl := Option.some.inj (hlast.symm.trans hb)
    simp only [runStages, Run.startAll_within, hstart, ha]
  · refine ⟨m, hm, .inl ⟨hpending, hgoing⟩, fun a n hlast ↦ ?_⟩
    cases hresult : a.result with
    | error fault =>
      have hok := hgoing a (List.mem_of_getLast? hlast)
      rw [hresult] at hok
      cases hok
    | ok answer =>
      obtain ⟨link, st⟩ := answer
      have hst : statuses.getLast? = some st := by
        have hmap := congrArg List.getLast? hstatuses
        rw [List.getLast?_map, List.getLast?_map, hlast, Option.map_some, StageStart.status?,
          hresult, eq_comm, Option.map_eq_some_iff] at hmap
        obtain ⟨st', hst', heq⟩ := hmap
        rw [hst', heq]
        rfl
      simp only [runStages, Run.startAll_within, hstart]
      rw [← Run.lastStatus_eq_resultOf hst]
      rfl

/-- A run begins at `r`, where nothing was started yet, and at `m` everything was started that will
be. What comes after that, with any patience, is to settle and to clean up. -/
structure Launches (E : Engine σ) (registered : List String) (stages : List Stage)
    (redirection : Redirection) (shell : Shell) (r : Run σ) (m : Moment σ) : Prop where
  isFresh : IsFresh r
  reached : Reached E.programs registered (targetsOf redirection shell) stages r m
  isStopped : m.IsStopped
  run_eq : ∀ a n, m.started.getLast? = some a →
    run (E.within n) registered stages redirection shell =
      match a.result with
      | .error fault => (.error fault, (m.run.cleanUp (linkAfter m.started)).closeFiles)
      | .ok (_, st) =>
        ((m.run.settle E.programs n).resultOf st,
          ((m.run.settle E.programs n).cleanUp (linkAfter m.started)).closeFiles)

/-- A run starts its stages unless there is a NUL character in the path of a target. -/
theorem exists_launches (E : Engine σ) (registered : List String) (stages : List Stage)
    {redirection : Redirection}
    (hnul : ∀ stream target, redirection.target? stream = some target →
      Path.hasNul target.path = false) (shell : Shell) :
    ∃ r m, Launches E registered stages redirection shell r m := by
  have hrest : Run.AtRest ({ shell } : Run σ) shell [] := ⟨rfl, rfl, rfl, rfl⟩
  have hfresh : IsFresh ({ shell } : Run σ) := ⟨rfl, rfl, rfl, nofun, nofun⟩
  obtain ⟨between, r, houtput, herrors, -⟩ := hrest.openTargets hnul
  have hbetween := hfresh.openTarget redirection.output
  rw [houtput] at hbetween
  have hopened := hbetween.openTarget redirection.errors
  rw [herrors] at hopened
  obtain ⟨m, hm, hstopped, hrun⟩ :=
    runStages_launches E registered stages (targetsOf redirection shell) r
  refine ⟨r, m, hopened, hm, hstopped, fun a n hlast ↦ ?_⟩
  have hstages : run (E.within n) registered stages redirection shell =
      ((runStages (E.within n) registered stages (targetsOf redirection shell) r).1,
        (runStages (E.within n) registered stages
          (targetsOf redirection shell) r).2.closeFiles) := by
    simp only [run, houtput, herrors]
    rfl
  rw [hstages, hrun a n hlast]
  cases a.result <;> rfl

end CommandShell.Pipeline

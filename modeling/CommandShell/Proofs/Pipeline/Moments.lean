import CommandShell.Proofs.Pipeline.Starting
import Mathlib.Logic.Function.Basic

/-!
# The moments of a run

Every run goes through moments: some stages were started, the others are pending, and the workers
that there are have had some turns. `Reached` are all the moments that any schedule leads to: at any
time either the next stage is started or some worker gets a turn, and a turn may take any number of
bytes. An engine is one way among these (`run_moments`), so what holds at every moment holds for
every engine.

A moment also remembers what the run forgets: how each stage was started (`StageStart`), and what
each process did with its input and its output (`Exchange`).
-/

namespace CommandShell.Pipeline

open CommandShell.Host CommandShell.Line

variable {σ : Type}

/-! ## Starts -/

/-- How one stage was started: the link into it, the run before, what came of it, the run after. -/
structure StageStart (σ : Type) where
  stage : Stage
  incoming : Option Link
  before : Run σ
  result : Except Fault Run.Started
  after : Run σ

namespace StageStart

/-- The link that is there once the stage was started. A stage that raised a fault leaves the one
into it. -/
def outgoing (a : StageStart σ) : Option Link :=
  match a.result with
  | .ok (link, _) => link
  | .error _ => a.incoming

theorem outgoing_of_ok {a : StageStart σ} {answer : Option Link × StageStatus}
    (h : a.result = .ok answer) : a.outgoing = answer.1 := by
  rw [outgoing, h]

theorem outgoing_of_error {a : StageStart σ} {fault : Fault} (h : a.result = .error fault) :
    a.outgoing = a.incoming := by
  rw [outgoing, h]

/-- The status of the stage as far as it is known. -/
def status? (a : StageStart σ) : Option StageStatus :=
  a.result.toOption.map (·.2)

def process? (a : StageStart σ) : Option Nat :=
  match a.result with
  | .ok (_, .ofProcess id) => some id
  | _ => none

end StageStart

/-- The link that the stages started so far leave to the next one. -/
def linkAfter (started : List (StageStart σ)) : Option Link :=
  started.getLast?.bind (·.outgoing)

@[simp] theorem linkAfter_nil : linkAfter ([] : List (StageStart σ)) = none := rfl

@[simp] theorem linkAfter_concat (started : List (StageStart σ)) (a : StageStart σ) :
    linkAfter (started ++ [a]) = a.outgoing := by
  simp [linkAfter]

/-! ## Exchanges -/

/-- What a process did with its standard input and its standard output so far. -/
structure Exchange where
  /-- All that it read. -/
  received : ByteArray := ByteArray.empty
  /-- It asked for more, and the input was at its end. -/
  metEnd : Bool := false
  /-- It gave up its input, or ended, while the shell could still have had more for it. -/
  quitEarly : Bool := false
  /-- All that it wrote, of which nothing was refused. -/
  sent : ByteArray := ByteArray.empty
  /-- It wrote something that was not taken as a whole. -/
  refused : Bool := false

/-- Whether the shell can still have more for a process. -/
def Run.hasMoreFor (r : Run σ) (p : Process σ) : Bool :=
  match p.streams.input with
  | .shellInput => false
  | .pipe i => (r.pipe i).shellWrites

def Exchange.after (P : Programs σ) (r : Run σ) (p : Process σ) (most : Nat) (x : Exchange) :
    Exchange :=
  match P.act p.state with
  | .exit _ => { x with quitEarly := x.quitEarly || r.hasMoreFor p }
  | .closeInput _ => { x with quitEarly := x.quitEarly || r.hasMoreFor p }
  | .read wanted _ _ =>
    match r.takeFor p (min wanted (max most 1)) with
    | none => x
    | some (bytes, _) =>
      { x with
        received := x.received ++ bytes
        metEnd := x.metEnd || (p.inputOpen && decide (0 < wanted) && bytes.isEmpty) }
  | .write .output bytes _ _ =>
    match (r.write p.streams.output bytes).1 with
    | .ok () => { x with sent := x.sent ++ bytes }
    | .error _ => { x with refused := true }
  | .write .errors _ _ _ => x
  | .files _ => x

/-! ## Moments -/

/-- A moment of a run. -/
structure Moment (σ : Type) where
  /-- The stages that were started, the first one first. -/
  started : List (StageStart σ) := []
  pending : List Stage
  run : Run σ
  /-- What each process did so far. -/
  exchanges : Nat → Exchange := fun _ ↦ {}

namespace Moment

/-- No stage has raised a fault. -/
def IsGoing (m : Moment σ) : Prop :=
  ∀ a ∈ m.started, a.result.isOk = true

def start (P : Programs σ) (registered : List String) (targets : Run.Targets) (m : Moment σ)
    (stage : Stage) (rest : List Stage) : Moment σ :=
  let answer := m.run.startStage P registered stage (linkAfter m.started) targets
  { started := m.started ++ [{
      stage, incoming := linkAfter m.started, before := m.run
      result := answer.1, after := answer.2 }]
    pending := rest
    run := answer.2
    exchanges := m.exchanges }

/-- What every process did so far, after one more turn. -/
def exchangesAfter (P : Programs σ) (m : Moment σ) : Run.Turn → Nat → Exchange
  | .copy _ _ => m.exchanges
  | .process id most =>
    match m.run.processes[id]? with
    | none => m.exchanges
    | some p =>
      if p.status.isSome then m.exchanges
      else Function.update m.exchanges id ((m.exchanges id).after P m.run p most)

def turn (P : Programs σ) (m : Moment σ) (t : Run.Turn) : Moment σ :=
  { m with run := m.run.turn P t, exchanges := m.exchangesAfter P t }

variable {m : Moment σ} {id : Nat}

theorem turn_eq_self (P : Programs σ) (most : Nat)
    (h : ∀ p, m.run.processes[id]? = some p → p.status.isSome = true) :
    m.turn P (.process id most) = m := by
  have hrun := Run.stepProcess_eq_self P most h
  cases hp : m.run.processes[id]? with
  | none => simp only [turn, Run.turn, exchangesAfter, hp, hrun]
  | some p => simp only [turn, Run.turn, exchangesAfter, hp, hrun, h p hp, if_true]

theorem turn_process (P : Programs σ) (most : Nat) {p : Process σ}
    (hp : m.run.processes[id]? = some p) (hstatus : p.status = none) :
    m.turn P (.process id most) =
      { m with
        run := m.run.stepProcess P id most
        exchanges := Function.update m.exchanges id ((m.exchanges id).after P m.run p most) } := by
  simp only [turn, Run.turn, exchangesAfter, hp, hstatus, Option.isSome_none, Bool.false_eq_true,
    if_false]

end Moment

/-- The moments that a run of stages can come to, whoever gets how many turns in which order. -/
inductive Reached (P : Programs σ) (registered : List String) (targets : Run.Targets)
    (stages : List Stage) (r : Run σ) : Moment σ → Prop
  | begin : Reached P registered targets stages r { pending := stages, run := r }
  | start {m : Moment σ} (h : Reached P registered targets stages r m) (going : m.IsGoing)
      {stage : Stage} {rest : List Stage} (pending : m.pending = stage :: rest) :
      Reached P registered targets stages r (m.start P registered targets stage rest)
  | turn {m : Moment σ} (h : Reached P registered targets stages r m) (t : Run.Turn) :
      Reached P registered targets stages r (m.turn P t)

namespace Reached

variable {P : Programs σ} {registered : List String} {targets : Run.Targets}
  {stages : List Stage} {r : Run σ} {m : Moment σ}

/-! ## Engines go from moment to moment -/

theorem turns (h : Reached P registered targets stages r m) (ts : List Run.Turn) :
    ∃ m', Reached P registered targets stages r m' ∧ m'.started = m.started ∧
      m'.pending = m.pending ∧ m'.run = m.run.turns P ts := by
  induction ts generalizing m with
  | nil => exact ⟨m, h, rfl, rfl, rfl⟩
  | cons t ts ih => exact ih (h.turn t)

theorem settle (h : Reached P registered targets stages r m) (patience : Nat) :
    ∃ m', Reached P registered targets stages r m' ∧ m'.started = m.started ∧
      m'.pending = m.pending ∧ m'.run = m.run.settle P patience := by
  induction patience generalizing m with
  | zero => exact ⟨m, h, rfl, rfl, rfl⟩
  | succ patience ih =>
    rw [Run.settle]
    split
    · exact ⟨m, h, rfl, rfl, rfl⟩
    · obtain ⟨between, hbetween, hstarted, hpending, hrun⟩ := h.turns m.run.round
      obtain ⟨m', hm', hstarted', hpending', hrun'⟩ := ih hbetween
      exact ⟨m', hm', hstarted'.trans hstarted, hpending'.trans hpending, hrun ▸ hrun'⟩

/-- Starting what is pending leads to a moment: either all is started, or the last stage that was
started has just raised a fault. -/
theorem startAll {E : Engine σ} (h : Reached E.programs registered targets stages r m)
    (going : m.IsGoing) :
    ∃ m', Reached E.programs registered targets stages r m' ∧
      (Run.startAll E registered targets m.pending (linkAfter m.started) m.run).2 =
        (linkAfter m'.started, m'.run) ∧
      ((∃ fault a,
          (Run.startAll E registered targets m.pending (linkAfter m.started) m.run).1 =
            .error fault ∧
          m'.started.getLast? = some a ∧ a.result = .error fault ∧ m'.run = a.after) ∨
        (∃ statuses later,
          (Run.startAll E registered targets m.pending (linkAfter m.started) m.run).1 =
            .ok statuses ∧
          m'.pending = [] ∧ m'.IsGoing ∧ m'.started = m.started ++ later ∧
          later.map (·.status?) = statuses.map some)) := by
  generalize hpending : m.pending = pending
  induction pending generalizing m with
  | nil =>
    exact ⟨m, h, rfl, .inr ⟨[], [], rfl, hpending, going, (List.append_nil _).symm, rfl⟩⟩
  | cons stage rest ih =>
    have hstarted := h.start going hpending
    rw [Run.startAll]
    cases hstart : m.run.startStage E.programs registered stage (linkAfter m.started) targets with
    | mk result after =>
      simp only [Moment.start, hstart] at hstarted
      cases result with
      | error fault =>
        refine ⟨_, hstarted, ?_, .inl ⟨fault, _, rfl, List.getLast?_concat, rfl, rfl⟩⟩
        simp only [linkAfter_concat]
        rfl
      | ok answer =>
        obtain ⟨link, status⟩ := answer
        -- before the next stage is started, the engine gives out turns
        obtain ⟨between, hbetween, hsame, hrest, hrun⟩ :=
          hstarted.turns (E.interleaving stage.position)
        have hgoing : between.IsGoing := by
          intro a ha
          rw [hsame] at ha
          rcases List.mem_append.mp ha with ha | ha
          · exact going a ha
          · rw [List.mem_singleton.mp ha]
            rfl
        have hlink : linkAfter between.started = link := by
          rw [hsame, linkAfter_concat]
          rfl
        obtain ⟨m', hm', hend, hcases⟩ := ih hbetween hgoing hrest
        rw [hlink, hrun] at hend hcases
        dsimp only at hend hcases ⊢
        generalize Run.startAll E registered targets rest link
          (after.turns E.programs (E.interleaving stage.position)) = answer at hend hcases ⊢
        obtain ⟨result, left, r'⟩ := answer
        obtain ⟨fault, a, rfl, hlast⟩ |
          ⟨statuses, later, rfl, hpending', hgoing', hlater, hstatuses⟩ := hcases
        · exact ⟨m', hm', hend, .inl ⟨fault, a, rfl, hlast⟩⟩
        · rw [hsame, List.append_assoc, List.singleton_append] at hlater
          refine ⟨m', hm', hend, .inr ⟨status :: statuses, _, rfl, hpending', hgoing', hlater, ?_⟩⟩
          rw [List.map_cons, List.map_cons, hstatuses]
          rfl

end Reached

/-! ## The run as a whole -/

/-- A run in which nothing was started yet. -/
structure IsFresh (r : Run σ) : Prop where
  pipes_eq : r.pipes = #[]
  processes_eq : r.processes = #[]
  copies_eq : r.copies = #[]
  events : ∀ e ∈ r.events, (∃ path outlet, e = .opened path outlet) ∨ ∃ path, e = .refused path
  /-- What was opened will be closed at the end. -/
  booked : ∀ path outlet, .opened path outlet ∈ r.events → outlet ∈ r.opened

namespace IsFresh

variable {r : Run σ}

theorem openTarget (h : IsFresh r) (target : Option Target) : IsFresh (r.openTarget target).2 := by
  unfold Run.openTarget
  split
  · exact h
  · next target =>
    split
    · exact h
    · split
      · next outlet _ =>
        refine ⟨h.pipes_eq, h.processes_eq, h.copies_eq, fun e he ↦ ?_, fun path o ho ↦ ?_⟩
        · rcases List.mem_cons.mp he with rfl | he
          · exact .inl ⟨_, _, rfl⟩
          · exact h.events e he
        · rcases List.mem_cons.mp ho with heq | ho
          · cases heq
            exact List.mem_append_right _ (List.mem_singleton_self _)
          · exact List.mem_append_left _ (h.booked path o ho)
      · refine ⟨h.pipes_eq, h.processes_eq, h.copies_eq, fun e he ↦ ?_, fun path o ho ↦ ?_⟩
        · rcases List.mem_cons.mp he with rfl | he
          · exact .inr ⟨_, rfl⟩
          · exact h.events e he
        · rcases List.mem_cons.mp ho with heq | ho
          · cases heq
          · exact h.booked path o ho

theorem layout_eq (h : IsFresh r) : r.layout = { events := r.events } := by
  simp [Run.layout, h.pipes_eq, h.processes_eq, h.copies_eq]

end IsFresh

namespace Run

theorem openTarget_eq_or (r : Run σ) (target : Option Target) :
    ((r.openTarget target).1 = .ok (r.shell.openTarget target).1 ∧
        (r.openTarget target).2.shell = (r.shell.openTarget target).2) ∨
      ∃ t, target = some t ∧ Path.hasNul t.path = true ∧
        r.openTarget target = (.error .embeddedNul, r) := by
  cases target with
  | none => exact .inl ⟨rfl, rfl⟩
  | some t =>
    simp only [Run.openTarget, Shell.openTarget]
    split_ifs with hnul
    · exact .inr ⟨t, rfl, hnul, rfl⟩
    · cases r.shell.machine.openOutlet t.path t.append <;> exact .inl ⟨rfl, rfl⟩

theorem processes_cancelCopies (r : Run σ) : r.cancelCopies.processes = r.processes := by
  unfold cancelCopies
  induction List.range r.copies.size generalizing r with
  | nil => rfl
  | cons id ids ih =>
    rw [List.foldl_cons, ih]
    split
    · split
      · rfl
      · exact processes_finishCopy ..
    · rfl

theorem resolve_endProcess {r : Run σ} {id : Nat} {p q : Process σ} {status : Int}
    (hp : r.processes[id]? = some p) (hstatus : ∀ s, p.status = some s → status = s)
    {st : StageStatus} {s : Int} (h : r.resolve st = some s) :
    (r.endProcess id q status).resolve st = some s := by
  cases st with
  | known status => exact h
  | ofProcess k =>
    simp only [resolve, processes_endProcess, Array.getElem?_setIfInBounds] at h ⊢
    split_ifs with hk hlt
    · subst hk
      rw [hp] at h
      exact congrArg some (hstatus s h)
    · subst hk
      rw [Array.getElem?_eq_none (Nat.le_of_not_lt hlt)] at hp
      cases hp
    · exact h

/-- Waiting for the processes does not change how they ended. -/
theorem resolve_reap {r : Run σ} {st : StageStatus} {s : Int} (h : r.resolve st = some s) :
    r.reap.resolve st = some s := by
  unfold reap
  induction List.range r.processes.size generalizing r with
  | nil => exact h
  | cons id ids ih =>
    rw [List.foldl_cons]
    refine ih ?_
    split
    · next p hp =>
      dsimp only
      split
      · next status hstatus =>
        refine resolve_endProcess hp (fun s hs ↦ ?_) h
        exact Option.some.inj (hstatus.symm.trans hs)
      · next hstatus =>
        refine resolve_endProcess hp (fun s hs ↦ ?_) h
        cases hstatus.symm.trans hs
    · exact h

theorem resolve_cleanUp {r : Run σ} {st : StageStatus} {s : Int} (h : r.resolve st = some s)
    (left : Option Link) : (r.cleanUp left).resolve st = some s := by
  have key : ∀ r' : Run σ, r'.processes = r.processes →
      r'.cancelCopies.reap.resolve st = some s := by
    intro r' hprocesses
    refine resolve_reap ?_
    unfold resolve at h ⊢
    rwa [processes_cancelCopies, hprocesses]
  unfold cleanUp
  cases left with
  | none => exact key r rfl
  | some link => exact key _ (processes_closeLink r link)

end Run

theorem Run.lastStatus_eq_ok {r : Run σ} {statuses : List StageStatus} {status : Int}
    (h : r.lastStatus statuses = .ok status) :
    (statuses.getLast? = none ∧ status = 0) ∨
      ∃ st, statuses.getLast? = some st ∧ r.resolve st = some status := by
  rw [lastStatus] at h
  split at h
  · next hnone => exact .inl ⟨hnone, (Except.ok.inj h).symm⟩
  · next st hst =>
    split at h
    · next s hs =>
      cases h
      exact .inr ⟨st, hst, hs⟩
    · cases h

/-- How a run of stages is at its end if it has a result: with a status everything was started and
all is done, and the status is that of the last stage. A fault of the last stage that was started is
that of the run, and nothing has happened since. -/
structure EndsWith (m : Moment σ) (result : Except Fault Int) : Prop where
  going : ∀ status, result = .ok status → m.pending = [] ∧ m.IsGoing
  isDone : ∀ status, result = .ok status → m.run.isDone = true
  status : ∀ status, result = .ok status →
    match m.started.getLast? with
    | none => status = 0
    | some a => ∃ st, a.status? = some st ∧ m.run.resolve st = some status
  fault : ∀ a fault, m.started.getLast? = some a → a.result = .error fault →
    result = .error fault ∧ m.run = a.after

theorem EndsWith.of_nothing {m : Moment σ} (h : m.started = []) (fault : Fault) :
    EndsWith m (.error fault) := by
  refine ⟨nofun, nofun, nofun, fun a cause hlast ↦ ?_⟩
  rw [h] at hlast
  cases hlast

theorem EndsWith.of_fault {m : Moment σ} {a : StageStart σ} {fault : Fault}
    (hlast : m.started.getLast? = some a) (ha : a.result = .error fault)
    (hafter : m.run = a.after) : EndsWith m (.error fault) := by
  refine ⟨nofun, nofun, nofun, fun b cause hb hcause ↦ ?_⟩
  cases hlast.symm.trans hb
  cases ha.symm.trans hcause
  exact ⟨rfl, hafter⟩

/-- When everything was started, the status is that of the last stage once all is done. -/
theorem EndsWith.of_going {m : Moment σ} (hpending : m.pending = []) (hgoing : m.IsGoing)
    {statuses : List StageStatus} (hstatuses : m.started.map (·.status?) = statuses.map some) :
    EndsWith m (if m.run.isDone then m.run.lastStatus statuses else .error .stalled) where
  going _ _ := ⟨hpending, hgoing⟩
  isDone status h := by
    by_contra hdone
    rw [if_neg hdone] at h
    cases h
  status status h := by
    have hlast := congrArg List.getLast? hstatuses
    rw [List.getLast?_map, List.getLast?_map] at hlast
    split_ifs at h
    obtain ⟨hnone, rfl⟩ | ⟨st, hst, hresolve⟩ := Run.lastStatus_eq_ok h
    · rw [hnone, Option.map_none, Option.map_eq_none_iff] at hlast
      rw [hlast]
    · rw [hst, Option.map_some, Option.map_eq_some_iff] at hlast
      obtain ⟨a, ha, hstatus⟩ := hlast
      rw [ha]
      exact ⟨st, hstatus, hresolve⟩
  fault a fault hlast hfault := by
    have hok := hgoing a (List.mem_of_getLast? hlast)
    rw [hfault] at hok
    cases hok

/-- Nothing more is started: either there is nothing more, or the stage that was started last has
raised a fault. -/
def Moment.IsStopped (m : Moment σ) : Prop :=
  (m.pending = [] ∧ m.IsGoing) ∨
    ∃ a fault, m.started.getLast? = some a ∧ a.result = .error fault

/-- Starting the stages of a run leads to a moment: all of them are started, or the last one that
was has just raised a fault. -/
theorem startAll_moments (E : Engine σ) (registered : List String) (stages : List Stage)
    (targets : Run.Targets) (r : Run σ) :
    ∃ m, Reached E.programs registered targets stages r m ∧
      ((∃ fault a,
          Run.startAll E registered targets stages none r =
            (.error fault, linkAfter m.started, m.run) ∧
          m.started.getLast? = some a ∧ a.result = .error fault ∧ m.run = a.after) ∨
        (∃ statuses,
          Run.startAll E registered targets stages none r =
            (.ok statuses, linkAfter m.started, m.run) ∧
          m.pending = [] ∧ m.IsGoing ∧ m.started.map (·.status?) = statuses.map some)) := by
  have hbegin : Reached E.programs registered targets stages r { pending := stages, run := r } :=
    .begin
  obtain ⟨m, hm, hend, hcases⟩ := hbegin.startAll (E := E) (fun _ h ↦ nomatch h)
  dsimp only [linkAfter_nil] at hend hcases
  refine ⟨m, hm, ?_⟩
  obtain ⟨fault, a, hfault, hlast⟩ |
    ⟨statuses, later, hok, hpending, hgoing, hstarted, hstatuses⟩ := hcases
  · exact .inl ⟨fault, a, Prod.ext hfault hend, hlast⟩
  · rw [List.nil_append] at hstarted
    exact .inr ⟨statuses, Prod.ext hok hend, hpending, hgoing, hstarted ▸ hstatuses⟩

theorem runStages_moments (E : Engine σ) (registered : List String) (stages : List Stage)
    (targets : Run.Targets) (r : Run σ) :
    ∃ m, Reached E.programs registered targets stages r m ∧ m.IsStopped ∧
      (runStages E registered stages targets r).2 = m.run.cleanUp (linkAfter m.started) ∧
      EndsWith m (runStages E registered stages targets r).1 := by
  obtain ⟨m, hm, hcases⟩ := startAll_moments E registered stages targets r
  obtain ⟨fault, a, hstart, hlast, ha, hafter⟩ |
    ⟨statuses, hstart, hpending, hgoing, hstatuses⟩ := hcases
  · simp only [runStages, hstart]
    exact ⟨m, hm, .inr ⟨a, fault, hlast, ha⟩, rfl, .of_fault hlast ha hafter⟩
  · obtain ⟨m', hm', hstarted, hpending', hrun⟩ := hm.settle E.patience
    have hnone : m'.pending = [] := hpending'.trans hpending
    have hgoing' : m'.IsGoing := fun a ha ↦ hgoing a (hstarted ▸ ha)
    simp only [runStages, hstart, ← hstarted, ← hrun]
    exact ⟨m', hm', .inl ⟨hnone, hgoing'⟩, rfl, .of_going hnone hgoing' (hstarted ▸ hstatuses)⟩

theorem IsFresh.cleanUp {r : Run σ} (h : IsFresh r) : r.cleanUp none = r := by
  simp [Run.cleanUp, Run.cancelCopies, Run.reap, h.copies_eq, h.processes_eq]

/-- What the targets of a redirection are when the first stage is started. -/
def targetsOf (redirection : Redirection) (shell : Shell) : Run.Targets where
  output := (openTargets redirection shell).output
  errors := (openTargets redirection shell).errors

/-- A run begins at `r`, where nothing was started yet, and it ends at a moment that some schedule
leads to from there; all that it does then is to clean up. -/
structure EndsAt (E : Engine σ) (registered : List String) (stages : List Stage)
    (redirection : Redirection) (shell : Shell) (r : Run σ) (m : Moment σ) : Prop where
  isFresh : IsFresh r
  reached : Reached E.programs registered (targetsOf redirection shell) stages r m
  run_eq : (run E registered stages redirection shell).2 =
    (m.run.cleanUp (linkAfter m.started)).closeFiles

/-- A run goes from moment to moment, beginning with the shell that has opened the targets. -/
theorem run_moments_sameSession (E : Engine σ) (registered : List String) (stages : List Stage)
    (redirection : Redirection) (shell : Shell) :
    ∃ r m, shell.SameSession r.shell ∧ EndsAt E registered stages redirection shell r m ∧
      (m.IsStopped ∨ m.started = [] ∧ ∃ stream target, redirection.target? stream = some target ∧
        Path.hasNul target.path = true) ∧
      EndsWith m (run E registered stages redirection shell).1 := by
  have hfresh : IsFresh ({ shell } : Run σ) := ⟨rfl, rfl, rfl, nofun, nofun⟩
  have hfresh₁ := hfresh.openTarget redirection.output
  have houtput := Run.openTarget_eq_or ({ shell } : Run σ) redirection.output
  have hsame₁ := Run.sameSession_openTarget ({ shell } : Run σ) redirection.output
  generalize hfirst : ({ shell } : Run σ).openTarget redirection.output = first
    at houtput hfresh₁ hsame₁
  obtain ⟨output, between⟩ := first
  dsimp only at houtput hfresh₁ hsame₁
  -- a path that cannot be handed to the system ends the run before any stage
  obtain ⟨rfl, hbetween⟩ | ⟨t, ht, hnul, hopened⟩ := houtput
  · have hfresh₂ := hfresh₁.openTarget redirection.errors
    have herrors := between.openTarget_eq_or redirection.errors
    have hsame₂ := hsame₁.trans (between.sameSession_openTarget redirection.errors)
    rw [hbetween] at herrors
    generalize hsecond : between.openTarget redirection.errors = second at herrors hfresh₂ hsame₂
    obtain ⟨errors, r⟩ := second
    dsimp only at herrors hfresh₂ hsame₂
    obtain ⟨rfl, -⟩ | ⟨t, ht, hnul, hopened⟩ := herrors
    · have hrun : run E registered stages redirection shell =
          ((runStages E registered stages (targetsOf redirection shell) r).1,
            (runStages E registered stages (targetsOf redirection shell) r).2.closeFiles) := by
        simp only [run, hfirst, hsecond]
        rfl
      obtain ⟨m, hm, hstopped, hend, hends⟩ :=
        runStages_moments E registered stages (targetsOf redirection shell) r
      rw [hrun]
      exact ⟨r, m, hsame₂, ⟨hfresh₂, hm, by rw [hrun, hend]⟩, .inl hstopped, hends⟩
    · obtain ⟨rfl, rfl⟩ := Prod.mk.inj hopened
      have hrun : run E registered stages redirection shell =
          (.error .embeddedNul, r.closeFiles) := by
        simp only [run, hfirst, hsecond]
      rw [hrun]
      exact ⟨r, _, hsame₂, ⟨hfresh₂, .begin, by rw [hrun, linkAfter_nil, hfresh₂.cleanUp]⟩,
        .inr ⟨rfl, .errors, t, ht, hnul⟩, .of_nothing rfl .embeddedNul⟩
  · obtain ⟨rfl, rfl⟩ := Prod.mk.inj hopened
    have hrun : run E registered stages redirection shell =
        (.error .embeddedNul, Run.closeFiles { shell }) := by
      simp only [run, hfirst]
    rw [hrun]
    exact ⟨_, _, hsame₁, ⟨hfresh₁, .begin, by rw [hrun, linkAfter_nil, hfresh₁.cleanUp]⟩,
      .inr ⟨rfl, .output, t, ht, hnul⟩, .of_nothing rfl .embeddedNul⟩

/-- **A run goes from moment to moment.** Only a target with a NUL character in its path keeps it
from going on until it is stopped. -/
theorem run_moments (E : Engine σ) (registered : List String) (stages : List Stage)
    (redirection : Redirection) (shell : Shell) :
    ∃ r m, EndsAt E registered stages redirection shell r m ∧
      (m.IsStopped ∨ m.started = [] ∧ ∃ stream target, redirection.target? stream = some target ∧
        Path.hasNul target.path = true) ∧
      EndsWith m (run E registered stages redirection shell).1 := by
  obtain ⟨r, m, -, hend, hstopped, hends⟩ :=
    run_moments_sameSession E registered stages redirection shell
  exact ⟨r, m, hend, hstopped, hends⟩

end CommandShell.Pipeline

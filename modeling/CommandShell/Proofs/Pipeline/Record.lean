import CommandShell.Proofs.Command.Staging
import CommandShell.Proofs.Pipeline.Moments

/-!
# What the starts leave in a run

The parts of a run are those that the starts of its stages have added to it: at every moment each
process, each copy and each closed link belongs to one start (`Recorded`). The pipes that a stage is
given are made when it is started, so the numbers of two stages' pipes never meet
(`Recorded.index_eq_of_owns`). All that is to be said of one reader, one writer and one copy comes
from that, and `Layout.Plumbed` puts it in terms of the layout alone.
-/

namespace CommandShell

open CommandShell.Host CommandShell.Line

/-- The words of a stage can be handed to the system: it never sees a NUL character in a text. -/
def Stage.CanBeAsked (stage : Stage) : Prop :=
  ∀ executable, stage.work = .external executable →
    (executable.getD stage.command.name :: stage.command.argv).any Path.hasNul = false

namespace Pipeline

variable {σ : Type} {P : Programs σ} {registered : List String} {targets : Run.Targets}

namespace StageStart

def IsCall (P : Programs σ) (registered : List String) (targets : Run.Targets)
    (a : StageStart σ) : Prop :=
  (a.result, a.after) = a.before.startStage P registered a.stage a.incoming targets

theorem IsCall.starts {a : StageStart σ} (h : a.IsCall P registered targets) :
    Run.Starts P registered a.before a.stage a.incoming targets a.result a.after := by
  have hstarts := a.before.startStage_starts P registered a.stage a.incoming targets
  rwa [← h] at hstarts

end StageStart

namespace Moment

variable (m : Moment σ)

theorem exists_start (P : Programs σ) (registered : List String) (targets : Run.Targets)
    (stage : Stage) (rest : List Stage) :
    ∃ a : StageStart σ, m.start P registered targets stage rest =
        { started := m.started ++ [a], pending := rest, run := a.after,
          exchanges := m.exchanges } ∧
      a.before = m.run ∧ a.incoming = linkAfter m.started ∧ a.stage = stage ∧
      a.IsCall P registered targets :=
  ⟨_, rfl, rfl, rfl, rfl, rfl⟩

theorem layout_turn (P : Programs σ) (t : Run.Turn) : (m.turn P t).run.layout = m.run.layout :=
  Run.layout_turn P m.run t

theorem events_turn (P : Programs σ) (t : Run.Turn) : (m.turn P t).run.events = m.run.events :=
  congrArg Layout.events (m.layout_turn P t)

end Moment

/-! ## What a start adds to the layout -/

namespace StageStart

/-- The process of the stage, if there is one, as a part of the layout. -/
def plug (targets : Run.Targets) (a : StageStart σ) : Plug :=
  ⟨a.stage.position, a.before.streamsFor a.stage a.incoming targets⟩

/-- The copy into the process of the stage; nothing has to be copied into the first one. -/
def feed? (a : StageStart σ) : Option Feed :=
  a.incoming.map fun link ↦ ⟨link, a.before.inputPipe a.stage⟩

/-- The handler of the stage has raised a fault. -/
def HasRaised (registered : List String) (a : StageStart σ) : Prop :=
  ∃ handler fault output errors s, a.stage.work = .builtin (some handler) ∧
    handler (Run.callOf registered a.stage) a.before.shell = (.raised fault output errors, s)

/-- The stage has become a process. -/
structure Joined (targets : Run.Targets) (a : StageStart σ) : Prop where
  result_eq : a.result =
    .ok ((a.before.outputPipe? a.stage).map .stream, .ofProcess a.before.layout.plugs.size)
  plugs_eq : a.after.layout.plugs = a.before.layout.plugs.push (a.plug targets)
  feeds_eq : a.after.layout.feeds =
    match a.feed? with
    | none => a.before.layout.feeds
    | some feed => a.before.layout.feeds.push feed
  pipes_eq : a.after.layout.pipes =
    a.before.inputPipe a.stage + if a.incoming.isSome then 1 else 0
  events_eq : a.after.layout.events =
    .started a.stage.position a.before.layout.plugs.size :: a.before.layout.events

/-- The stage is over at once: it has closed a link, if any, and then something happened. -/
structure Over (a : StageStart σ) (closed : Option Link) (events : List Event) : Prop where
  process?_eq : a.process? = none
  plugs_eq : a.after.layout.plugs = a.before.layout.plugs
  feeds_eq : a.after.layout.feeds = a.before.layout.feeds
  pipes_le : a.before.layout.pipes ≤ a.after.layout.pipes
  events_eq : a.after.layout.events = events ++
    ((closed.map fun _ ↦ Event.closedLink a.stage.position).toList ++ a.before.layout.events)
  closes : ∀ s, closed = some (.stream s) → s < a.before.layout.pipes →
    (a.after.pipe s).shellReads = false

/-- What the start of a stage with a program or a handler comes to. A program whose words cannot be
handed to the system leaves even the link into it alone. -/
inductive Comes (registered : List String) (targets : Run.Targets) (a : StageStart σ) : Prop
  | joined (isExternal : ∃ executable, a.stage.work = .external executable)
      (h : a.Joined targets)
  | notStarted (isExternal : ∃ executable, a.stage.work = .external executable)
      (hasked : a.stage.CanBeAsked) (reason : Errno)
      (hresult : a.result = .ok (if a.stage.isLast then none else some (.ready ByteArray.empty),
        .known notStartedStatus))
      (h : a.Over a.incoming [.notStarted a.stage.position reason])
  | handled (handler : Call → Shell → Reply × Shell)
      (hwork : a.stage.work = .builtin (some handler))
      (houtcome : (a.result, a.after.shell) =
        Run.outcomeOf registered a.stage handler (Run.targetsFor a.stage targets) a.before.shell)
      (h : a.Over a.incoming [.handled a.stage.position])
  | malformed (isExternal : ∃ executable, a.stage.work = .external executable)
      (hwords : ¬ a.stage.CanBeAsked) (hresult : a.result = .error .embeddedNul)
      (h : a.Over none [])

variable {a : StageStart σ}

theorem Joined.process?_eq (h : a.Joined targets) :
    a.process? = some a.before.layout.plugs.size := by
  rw [process?, h.result_eq]

theorem joined_of_joins {state : σ}
    (hresult : a.result = .ok ((a.before.outputPipe? a.stage).map .stream,
      .ofProcess a.before.processes.size))
    (h : Run.Joins a.before a.stage a.incoming (a.before.streamsFor a.stage a.incoming targets)
      state a.after) : a.Joined targets := by
  have hsize : a.before.layout.plugs.size = a.before.processes.size := Array.size_map
  refine ⟨by rw [hsize, hresult], ?_, ?_, h.size_eq, by rw [hsize]; exact h.events_eq⟩
  · simp only [Run.layout, h.processes_eq, Array.map_push]
    rfl
  · simp only [Run.layout, h.copies_eq, feed?]
    cases a.incoming with
    | none => rfl
    | some link => exact Array.map_push

theorem over_of_passes {closed : Option Link} {events : List Event} (hprocess : a.process? = none)
    (h : Run.Passes a.before a.stage closed events a.after) : a.Over closed events := by
  refine ⟨hprocess, ?_, ?_, h.size_le, ?_, fun s hs hlt ↦ ?_⟩
  · simp only [Run.layout, h.processes_eq]
  · simp only [Run.layout, h.copies_eq]
  · simp only [Run.layout, h.events_eq, Run.events_closeIncoming]
  · rw [h.pipe_eq s hlt, hs]
    change ((a.before.closeLink (.stream s)).pipe s).shellReads = false
    rw [Run.pipe_closeLink]
    dsimp only
    rw [if_pos rfl]

/-- A stage whose handler ran leaves what the handler said, and its status is the handler's. -/
theorem returned_of_outcomeOf {stage : Stage} {handler : Call → Shell → Reply × Shell}
    {t : Run.Targets} {s : Shell} {link : Option Link} {st : StageStatus}
    (h : (Run.outcomeOf registered stage handler t s).1 = .ok (link, st)) :
    ∃ status output errors said,
      handler (Run.callOf registered stage) s = (.returned status output errors, said) ∧
        st = .known status ∧
        link = if stage.isLast then none else some (.ready output.toUTF8) := by
  unfold Run.outcomeOf at h
  generalize handler _ s = answer at h ⊢
  obtain ⟨⟨status, output, errors⟩ | _, said⟩ := answer
  · refine ⟨status, output, errors, said, rfl, ?_⟩
    dsimp only at h
    split_ifs at h ⊢
    · unfold Returned.deliver at h
      dsimp only at h
      split at h
      · cases h
      · split at h
        · cases h
        · cases h
          exact ⟨rfl, rfl⟩
    · cases h
      exact ⟨rfl, rfl⟩
  · cases h

theorem outgoing_of_outcomeOf {a : StageStart σ} {handler : Call → Shell → Reply × Shell}
    {t : Run.Targets} {s : Shell}
    (h : a.result = (Run.outcomeOf registered a.stage handler t s).1)
    (hok : a.result.isOk = true) :
    ∃ status output errors said,
      handler (Run.callOf registered a.stage) s = (.returned status output errors, said) ∧
        a.outgoing = if a.stage.isLast then none else some (.ready output.toUTF8) := by
  cases hresult : a.result with
  | error fault =>
    rw [hresult] at hok
    cases hok
  | ok answer =>
    obtain ⟨status, output, errors, said, hreturned, -, hlink⟩ :=
      returned_of_outcomeOf (h.symm.trans hresult)
    exact ⟨status, output, errors, said, hreturned, by rw [outgoing_of_ok hresult, hlink]⟩

theorem process?_of_outcomeOf {handler : Call → Shell → Reply × Shell} {t : Run.Targets} {s : Shell}
    (h : a.result = (Run.outcomeOf registered a.stage handler t s).1) : a.process? = none := by
  unfold process?
  split
  · next hresult =>
    obtain ⟨_, _, _, _, -, hst, -⟩ := returned_of_outcomeOf (h.symm.trans hresult)
    cases hst
  · rfl

theorem IsCall.comes (h : a.IsCall P registered targets)
    (hhandler : a.stage.work ≠ .builtin none) : a.Comes registered targets := by
  have hstarts := h.starts
  generalize hresult : a.result = result at hstarts
  generalize hafter : a.after = after at hstarts
  cases hstarts with
  | joins hwork hstart hjoins => exact .joined ⟨_, hwork⟩ (joined_of_joins hresult (hafter ▸ hjoins))
  | isRefused hwork hnul hstart hpasses =>
    refine .notStarted ⟨_, hwork⟩ (fun _ h ↦ ?_) _ hresult (over_of_passes ?_ (hafter ▸ hpasses))
    · cases hwork.symm.trans h
      exact hnul
    · rw [process?, hresult]
  | isHandled hwork hshell hpasses =>
    refine .handled _ hwork ?_ (over_of_passes (process?_of_outcomeOf hresult) (hafter ▸ hpasses))
    rw [hresult, hafter, hshell]
  | isMissing hwork hpasses => exact absurd hwork hhandler
  | isMalformed hwork hnul hpasses =>
    refine .malformed ⟨_, hwork⟩ (fun hasked ↦ ?_) hresult (over_of_passes ?_ (hafter ▸ hpasses))
    · rw [hasked _ hwork] at hnul
      cases hnul
    · rw [process?, hresult]

end StageStart

/-! ## The parts of a run and the starts of its stages -/

namespace StageStart

/-- The pipes that were made when the stage was started. -/
def Owns (a : StageStart σ) (i : Nat) : Prop :=
  a.before.layout.pipes ≤ i ∧ i < a.after.layout.pipes

/-- What the start of a stage adds to a layout, whatever it comes to. -/
structure Adds (targets : Run.Targets) (a : StageStart σ) : Prop where
  plugs_iff : ∀ id plug, a.after.layout.plugs[id]? = some plug ↔
    a.before.layout.plugs[id]? = some plug ∨ a.process? = some id ∧ a.plug targets = plug
  feeds_iff : ∀ j feed, a.after.layout.feeds[j]? = some feed ↔
    a.before.layout.feeds[j]? = some feed ∨
      a.process?.isSome = true ∧ a.before.layout.feeds.size = j ∧ a.feed? = some feed
  closed_iff : ∀ k, .closedLink k ∈ a.after.layout.events ↔
    .closedLink k ∈ a.before.layout.events ∨
      a.process? = none ∧ a.stage.CanBeAsked ∧ a.incoming.isSome = true ∧ a.stage.position = k
  pipes_le : a.before.layout.pipes ≤ a.after.layout.pipes
  events_suffix : a.before.layout.events <:+ a.after.layout.events

variable {a : StageStart σ}

theorem Joined.adds (h : a.Joined targets) : a.Adds targets where
  plugs_iff id plug := by
    rw [h.plugs_eq, getElem?_push_eq_some, h.process?_eq, Option.some_inj]
  feeds_iff j feed := by
    rw [h.feeds_eq, h.process?_eq]
    cases a.feed? with
    | none => simp
    | some feed => simp [getElem?_push_eq_some]
  closed_iff k := by
    rw [h.events_eq, h.process?_eq]
    simp
  pipes_le := by
    rw [h.pipes_eq, Run.inputPipe, Nat.add_assoc]
    exact Nat.le_add_right ..
  events_suffix := by
    rw [h.events_eq]
    exact List.suffix_cons ..

theorem Over.adds {closed : Option Link} {events : List Event} (h : a.Over closed events)
    (hevents : ∀ k, .closedLink k ∉ events)
    (hclosed : closed.isSome = true ↔ a.stage.CanBeAsked ∧ a.incoming.isSome = true) :
    a.Adds targets where
  plugs_iff id plug := by simp [h.plugs_eq, h.process?_eq]
  feeds_iff j feed := by simp [h.feeds_eq, h.process?_eq]
  closed_iff k := by
    rw [h.events_eq, h.process?_eq, ← and_assoc (b := _ = true), ← hclosed, List.mem_append,
      List.mem_append, or_iff_right (hevents k)]
    cases closed <;> simp [or_comm, eq_comm]
  pipes_le := h.pipes_le
  events_suffix := by
    rw [h.events_eq]
    exact (List.suffix_append ..).trans (List.suffix_append ..)

theorem canBeAsked_of_builtin {handler : Option (Call → Shell → Reply × Shell)}
    (hwork : a.stage.work = .builtin handler) : a.stage.CanBeAsked := by
  intro executable h
  cases hwork.symm.trans h

theorem Comes.adds (h : a.Comes registered targets) : a.Adds targets := by
  cases h with
  | joined _ h => exact h.adds
  | notStarted _ hasked _ _ h => exact h.adds (by simp) (by simp [hasked])
  | handled _ hwork _ h => exact h.adds (by simp) (by simp [canBeAsked_of_builtin hwork])
  | malformed _ hwords _ h => exact h.adds (by simp) (by simp [hwords])

theorem IsCall.plugs_iff (h : a.IsCall P registered targets) (id : Nat) (plug : Plug) :
    a.after.layout.plugs[id]? = some plug ↔
      a.before.layout.plugs[id]? = some plug ∨
        a.process? = some id ∧ a.plug targets = plug := by
  by_cases hhandler : a.stage.work = .builtin none
  · have hstarts := h.starts
    generalize hresult : a.result = result at hstarts
    generalize hafter : a.after = after at hstarts
    -- a stage without a handler is not what the other outcomes come from
    cases hstarts with
    | joins hwork => cases hhandler.symm.trans hwork
    | isRefused hwork => cases hhandler.symm.trans hwork
    | isHandled hwork => cases hhandler.symm.trans hwork
    | isMalformed hwork => cases hhandler.symm.trans hwork
    | isMissing hwork hpasses => simp [Run.layout, hpasses.processes_eq, process?, hresult]
  · exact (h.comes hhandler).adds.plugs_iff id plug

end StageStart

/-- What leads into the stage at a position: nothing into the first one, and into every other one
the link that the stage before it left. -/
def linkInto (started : List (StageStart σ)) : Nat → Option Link
  | 0 => none
  | k + 1 => started[k]?.bind (·.outgoing)

/-- The stages that were started are the first ones, one after the other until one raises a fault,
and all processes are theirs. -/
structure Listed (P : Programs σ) (registered : List String) (targets : Run.Targets)
    (stages : List Stage) (m : Moment σ) : Prop where
  stages_eq : m.started.map (·.stage) ++ m.pending = stages
  isCall : ∀ a ∈ m.started, a.IsCall P registered targets
  isOk : ∀ k a, m.started[k]? = some a → k + 1 < m.started.length → a.result.isOk = true
  incoming_eq : ∀ k a, m.started[k]? = some a → a.incoming = linkInto m.started k
  plugs_iff : ∀ id plug, m.run.layout.plugs[id]? = some plug ↔
    ∃ a ∈ m.started, a.process? = some id ∧ a.plug targets = plug

/-- The parts of a layout are those that the stages started so far have added to it. -/
structure Recorded (P : Programs σ) (registered : List String) (targets : Run.Targets)
    (stages : List Stage) (m : Moment σ) : Prop extends
    Listed P registered targets stages m where
  comes : ∀ a ∈ m.started, a.Comes registered targets
  apart : m.started.Pairwise fun a b ↦ a.after.layout.pipes ≤ b.before.layout.pipes
  pipes_le : ∀ a ∈ m.started, a.after.layout.pipes ≤ m.run.layout.pipes
  feeds_iff : ∀ j feed, m.run.layout.feeds[j]? = some feed ↔
    ∃ a ∈ m.started, a.process?.isSome = true ∧ a.before.layout.feeds.size = j ∧
      a.feed? = some feed
  closed_iff : ∀ k, .closedLink k ∈ m.run.layout.events ↔
    ∃ a ∈ m.started, a.process? = none ∧ a.stage.CanBeAsked ∧ a.incoming.isSome = true ∧
      a.stage.position = k
  events_suffix : ∀ a ∈ m.started, a.after.layout.events <:+ m.run.layout.events

theorem linkInto_length (started : List (StageStart σ)) :
    linkInto started started.length = linkAfter started := by
  unfold linkInto linkAfter
  split
  · next h => rw [List.eq_nil_of_length_eq_zero h, List.getLast?_nil, Option.bind_none]
  · next h =>
    rw [List.getLast?_eq_getElem?, h]
    rfl

theorem linkInto_concat {started : List (StageStart σ)} (a : StageStart σ) {k : Nat}
    (hk : k ≤ started.length) : linkInto (started ++ [a]) k = linkInto started k := by
  cases k with
  | zero => rfl
  | succ k => rw [linkInto, linkInto, List.getElem?_append_left hk]

namespace Listed

variable {stages : List Stage} {m : Moment σ}

theorem begin {r : Run σ} (hr : IsFresh r) :
    Listed P registered targets stages { pending := stages, run := r } where
  stages_eq := rfl
  isCall := List.forall_mem_nil _
  isOk k a ha := by simp at ha
  incoming_eq k a ha := by simp at ha
  plugs_iff := by simp [hr.layout_eq]

theorem start (h : Listed P registered targets stages m) (going : m.IsGoing) {stage : Stage}
    {rest : List Stage} (hpending : m.pending = stage :: rest) :
    Listed P registered targets stages (m.start P registered targets stage rest) := by
  obtain ⟨a, hstart, hbefore, hincoming, hstage, hcall⟩ :=
    m.exists_start P registered targets stage rest
  rw [hstart]
  constructor
  case stages_eq =>
    rw [List.map_append, List.map_singleton, List.append_assoc, hstage, ← h.stages_eq,
      hpending]
    rfl
  case isCall =>
    rw [List.forall_mem_append, List.forall_mem_singleton]
    exact ⟨h.isCall, hcall⟩
  case isOk =>
    intro k b hb hk
    rw [List.length_append, List.length_singleton, Nat.add_lt_add_iff_right] at hk
    rw [List.getElem?_append_left hk] at hb
    exact going b (List.mem_of_getElem? hb)
  case incoming_eq =>
    intro k b hb
    rcases Nat.lt_or_ge k m.started.length with hk | hk
    · rw [List.getElem?_append_left hk] at hb
      rw [linkInto_concat a (Nat.le_of_lt hk), h.incoming_eq k b hb]
    · obtain ⟨rfl, rfl⟩ : k = m.started.length ∧ b = a := by
        rw [List.getElem?_append_right hk, List.getElem?_singleton] at hb
        split_ifs at hb with hzero
        exact ⟨by omega, (Option.some.inj hb).symm⟩
      rw [linkInto_concat b (Nat.le_refl _), linkInto_length, hincoming]
  case plugs_iff =>
    intro id plug
    rw [hcall.plugs_iff, hbefore, h.plugs_iff]
    simp only [List.mem_append, List.mem_singleton, or_and_right, exists_or, exists_eq_left]

theorem turn (h : Listed P registered targets stages m) (t : Run.Turn) :
    Listed P registered targets stages (m.turn P t) := by
  refine ⟨h.stages_eq, h.isCall, h.isOk, h.incoming_eq, fun id plug ↦ ?_⟩
  rw [m.layout_turn]
  exact h.plugs_iff id plug

theorem mem_of_pending (h : Listed P registered targets stages m) {stage : Stage}
    {rest : List Stage} (hpending : m.pending = stage :: rest) : stage ∈ stages := by
  rw [← h.stages_eq, hpending]
  exact List.mem_append_right _ List.mem_cons_self

theorem getLast?_of_error (h : Listed P registered targets stages m) {a : StageStart σ}
    (ha : a ∈ m.started) {fault : Fault} (hfault : a.result = .error fault) :
    m.started.getLast? = some a := by
  obtain ⟨k, hk⟩ := List.mem_iff_getElem?.mp ha
  have hlt := (List.getElem?_eq_some_iff.mp hk).1
  by_cases hlast : k + 1 < m.started.length
  · have hok := h.isOk k a hk hlast
    rw [hfault] at hok
    cases hok
  · rw [List.getLast?_eq_getElem?, ← hk]
    congr 1
    omega

end Listed

theorem Reached.listed {stages : List Stage} {r : Run σ} {m : Moment σ} (hr : IsFresh r)
    (hm : Reached P registered targets stages r m) : Listed P registered targets stages m := by
  induction hm with
  | begin => exact .begin hr
  | start _ going pending ih => exact ih.start going pending
  | turn _ t ih => exact ih.turn t

namespace Recorded

variable {stages : List Stage} {m : Moment σ}

theorem begin {r : Run σ} (hr : IsFresh r) :
    Recorded P registered targets stages { pending := stages, run := r } where
  toListed := .begin hr
  comes := List.forall_mem_nil _
  apart := .nil
  pipes_le := List.forall_mem_nil _
  feeds_iff := by simp [hr.layout_eq]
  closed_iff k := by
    rw [hr.layout_eq]
    refine iff_of_false (fun h ↦ ?_) (by simp)
    obtain ⟨_, _, he⟩ | ⟨_, he⟩ := hr.events _ h <;> cases he
  events_suffix := List.forall_mem_nil _

theorem start (h : Recorded P registered targets stages m) (going : m.IsGoing) {stage : Stage}
    {rest : List Stage} (hpending : m.pending = stage :: rest)
    (hhandler : stage.work ≠ .builtin none) :
    Recorded P registered targets stages (m.start P registered targets stage rest) := by
  have hlisted := h.toListed.start going hpending
  obtain ⟨a, hstart, hbefore, -, hstage, hcall⟩ := m.exists_start P registered targets stage rest
  rw [hstart] at hlisted ⊢
  have hcomes := hcall.comes (hstage ▸ hhandler)
  have hadds := hcomes.adds
  -- the pipes of the new stage come after those of the stages before it
  have hle := hadds.pipes_le
  rw [hbefore] at hle
  have hbefore_layout : a.before.layout = m.run.layout := congrArg Run.layout hbefore
  constructor
  case toListed => exact hlisted
  case comes =>
    rw [List.forall_mem_append, List.forall_mem_singleton]
    exact ⟨h.comes, hcomes⟩
  case apart =>
    rw [List.pairwise_append]
    refine ⟨h.apart, List.pairwise_singleton .., fun b hb c hc ↦ ?_⟩
    rw [List.mem_singleton.mp hc, hbefore_layout]
    exact h.pipes_le b hb
  case pipes_le =>
    rw [List.forall_mem_append, List.forall_mem_singleton]
    exact ⟨fun b hb ↦ Nat.le_trans (h.pipes_le b hb) hle, Nat.le_refl _⟩
  case feeds_iff =>
    intro j feed
    rw [hadds.feeds_iff, hbefore_layout, h.feeds_iff]
    simp only [List.mem_append, List.mem_singleton, or_and_right, exists_or, exists_eq_left,
      hbefore_layout]
  case closed_iff =>
    intro k
    rw [hadds.closed_iff, hbefore_layout, h.closed_iff]
    simp only [List.mem_append, List.mem_singleton, or_and_right, exists_or, exists_eq_left]
  case events_suffix =>
    rw [List.forall_mem_append, List.forall_mem_singleton]
    refine ⟨fun b hb ↦ (h.events_suffix b hb).trans ?_, List.suffix_refl _⟩
    rw [← hbefore_layout]
    exact hadds.events_suffix

end Recorded

theorem Reached.recorded {stages : List Stage} {r : Run σ} {m : Moment σ} (hr : IsFresh r)
    (hstages : ∀ stage ∈ stages, stage.work ≠ .builtin none)
    (hm : Reached P registered targets stages r m) : Recorded P registered targets stages m := by
  induction hm with
  | begin => exact .begin hr
  | @start m hm going stage rest pending ih =>
    exact ih.start going pending (hstages stage (ih.mem_of_pending pending))
  | @turn m hm t ih =>
    constructor
    case toListed => exact ih.toListed.turn t
    case comes => exact ih.comes
    case apart => exact ih.apart
    all_goals rw [m.layout_turn]
    case pipes_le => exact ih.pipes_le
    case feeds_iff => exact ih.feeds_iff
    case closed_iff => exact ih.closed_iff
    case events_suffix => exact ih.events_suffix

namespace StageStart

variable {a : StageStart σ}

theorem Comes.joined_of_process? (h : a.Comes registered targets) {id : Nat}
    (hid : a.process? = some id) : a.Joined targets := by
  cases h with
  | joined _ h => exact h
  | notStarted _ _ _ _ h => cases h.process?_eq.symm.trans hid
  | handled _ _ _ h => cases h.process?_eq.symm.trans hid
  | malformed _ _ _ h => cases h.process?_eq.symm.trans hid

theorem Joined.outgoing_eq (h : a.Joined targets) :
    a.outgoing = (a.before.outputPipe? a.stage).map .stream := by
  rw [outgoing_of_ok h.result_eq]

/-- Only a process leaves a pipe to the next stage: the one that it writes to. -/
theorem Comes.joined_of_stream (h : a.Comes registered targets) (hok : a.result.isOk = true)
    {s : Nat} (hs : a.outgoing = some (.stream s)) :
    a.Joined targets ∧ a.before.outputPipe? a.stage = some s := by
  have hjoined : a.Joined targets := by
    cases h with
    | joined _ h => exact h
    | notStarted _ _ _ hresult =>
      rw [outgoing_of_ok hresult] at hs
      split_ifs at hs
      cases hs
    | malformed _ _ hresult =>
      rw [hresult] at hok
      cases hok
    | handled _ _ houtcome =>
      obtain ⟨_, _, _, _, -, hlink⟩ := outgoing_of_outcomeOf (congrArg Prod.fst houtcome) hok
      rw [hlink] at hs
      split_ifs at hs
      cases hs
  rw [hjoined.outgoing_eq, Option.map_eq_some_iff] at hs
  obtain ⟨o, ho, hs⟩ := hs
  cases hs
  exact ⟨hjoined, ho⟩

theorem Comes.isSome_outgoing (h : a.Comes registered targets) (hok : a.result.isOk = true) :
    a.outgoing.isSome = !a.stage.isLast := by
  cases h with
  | joined _ h =>
    rw [h.outgoing_eq, Option.isSome_map, Run.outputPipe?]
    cases a.stage.isLast <;> rfl
  | notStarted _ _ _ hresult =>
    rw [outgoing_of_ok hresult]
    cases a.stage.isLast <;> rfl
  | malformed _ _ hresult =>
    rw [hresult] at hok
    cases hok
  | handled _ _ houtcome =>
    obtain ⟨_, _, _, _, -, hlink⟩ := outgoing_of_outcomeOf (congrArg Prod.fst houtcome) hok
    rw [hlink]
    cases a.stage.isLast <;> rfl

theorem Comes.closes (h : a.Comes registered targets) (hasked : a.stage.CanBeAsked)
    (hprocess : a.process? = none) {s : Nat} (hs : a.incoming = some (.stream s))
    (hlt : s < a.before.layout.pipes) : (a.after.pipe s).shellReads = false := by
  cases h with
  | joined _ h => cases hprocess.symm.trans h.process?_eq
  | notStarted _ _ _ _ h => exact h.closes s hs hlt
  | handled _ _ _ h => exact h.closes s hs hlt
  | malformed _ hwords => exact absurd hasked hwords

theorem Comes.of_builtin (h : a.Comes registered targets)
    {handler : Call → Shell → Reply × Shell} (hwork : a.stage.work = .builtin (some handler)) :
    (a.result, a.after.shell) =
        Run.outcomeOf registered a.stage handler (Run.targetsFor a.stage targets) a.before.shell ∧
      a.Over a.incoming [.handled a.stage.position] := by
  cases h with
  | joined isExternal =>
    obtain ⟨_, hexternal⟩ := isExternal
    cases hwork.symm.trans hexternal
  | notStarted isExternal =>
    obtain ⟨_, hexternal⟩ := isExternal
    cases hwork.symm.trans hexternal
  | malformed isExternal =>
    obtain ⟨_, hexternal⟩ := isExternal
    cases hwork.symm.trans hexternal
  | handled handler' hwork' houtcome h =>
    cases hwork.symm.trans hwork'
    exact ⟨houtcome, h⟩

/-! ### The pipes of a process -/

theorem input_plug (targets : Run.Targets) (a : StageStart σ) :
    (a.plug targets).streams.input =
      if a.incoming.isSome then .pipe (a.before.inputPipe a.stage) else .shellInput := by
  unfold plug Run.streamsFor
  cases a.incoming <;> rfl

theorem output_plug (targets : Run.Targets) (a : StageStart σ) :
    (a.plug targets).streams.output =
      match a.before.outputPipe? a.stage with
      | some o => .pipe o
      | none => Run.sinkOr (Run.targetsFor a.stage targets).output .output := rfl

theorem errors_plug (targets : Run.Targets) (a : StageStart σ) :
    (a.plug targets).streams.errors =
      Run.sinkOr (Run.targetsFor a.stage targets).errors .errors := rfl

theorem input_plug_eq_pipe {i : Nat} (h : (a.plug targets).streams.input = .pipe i) :
    a.incoming.isSome = true ∧ a.before.inputPipe a.stage = i := by
  rw [input_plug] at h
  split_ifs at h with hincoming
  exact ⟨hincoming, Source.pipe.inj h⟩

theorem output_plug_eq_pipe {o : Nat} (h : (a.plug targets).streams.output = .pipe o) :
    a.before.outputPipe? a.stage = some o := by
  rw [output_plug] at h
  split at h
  · next ho => rw [ho, Sink.pipe.inj h]
  · cases h

theorem Joined.owns_input (h : a.Joined targets) (hincoming : a.incoming.isSome = true) :
    a.Owns (a.before.inputPipe a.stage) := by
  refine ⟨Nat.le_add_right .., ?_⟩
  rw [h.pipes_eq, if_pos hincoming]
  exact Nat.lt_succ_self _

theorem Joined.owns_output (h : a.Joined targets) {o : Nat}
    (ho : a.before.outputPipe? a.stage = some o) : a.Owns o := by
  unfold Run.outputPipe? at ho
  split_ifs at ho with hlast
  cases ho
  refine ⟨Nat.le_refl _, ?_⟩
  rw [h.pipes_eq, Run.inputPipe, if_neg hlast]
  omega

theorem inputPipe_ne {o : Nat} (ho : a.before.outputPipe? a.stage = some o) :
    a.before.inputPipe a.stage ≠ o := by
  unfold Run.outputPipe? at ho
  split_ifs at ho with hlast
  cases ho
  rw [Run.inputPipe, if_neg hlast]
  exact Nat.succ_ne_self _

end StageStart

namespace Recorded

variable {stages : List Stage} {m : Moment σ}

theorem index_eq_of_owns (h : Recorded P registered targets stages m) {a b : StageStart σ}
    {j k : Nat} (ha : m.started[j]? = some a) (hb : m.started[k]? = some b) {i : Nat}
    (hai : a.Owns i) (hbi : b.Owns i) : j = k := by
  obtain ⟨hj, rfl⟩ := List.getElem?_eq_some_iff.mp ha
  obtain ⟨hk, rfl⟩ := List.getElem?_eq_some_iff.mp hb
  have hapart := List.pairwise_iff_getElem.mp h.apart
  obtain ⟨haleft, haright⟩ := hai
  obtain ⟨hbleft, hbright⟩ := hbi
  rcases Nat.lt_trichotomy j k with hlt | rfl | hlt
  · have hle := hapart j k hj hk hlt
    omega
  · rfl
  · have hle := hapart k j hk hj hlt
    omega

theorem eq_of_owns (h : Recorded P registered targets stages m) {a b : StageStart σ}
    (ha : a ∈ m.started) (hb : b ∈ m.started) {i : Nat} (hai : a.Owns i) (hbi : b.Owns i) :
    a = b := by
  obtain ⟨j, hj⟩ := List.mem_iff_getElem?.mp ha
  obtain ⟨k, hk⟩ := List.mem_iff_getElem?.mp hb
  obtain rfl := h.index_eq_of_owns hj hk hai hbi
  exact Option.some.inj (hj.symm.trans hk)

variable (h : Recorded P registered targets stages m)
include h

theorem owner_of_plug {id : Nat} {plug : Plug} (hp : m.run.layout.plugs[id]? = some plug) :
    ∃ a ∈ m.started, a.process? = some id ∧ a.plug targets = plug ∧ a.Joined targets := by
  obtain ⟨a, ha, hid, hplug⟩ := (h.plugs_iff id plug).mp hp
  exact ⟨a, ha, hid, hplug, (h.comes a ha).joined_of_process? hid⟩

theorem owner_of_feed {j : Nat} {feed : Feed} (hf : m.run.layout.feeds[j]? = some feed) :
    ∃ a ∈ m.started, a.Joined targets ∧ a.before.layout.feeds.size = j ∧
      a.incoming = some feed.link ∧ a.before.inputPipe a.stage = feed.pipe := by
  obtain ⟨a, ha, hid, hj, hfeed⟩ := (h.feeds_iff j feed).mp hf
  obtain ⟨id, hid⟩ := Option.isSome_iff_exists.mp hid
  obtain ⟨link, hlink, rfl⟩ := Option.map_eq_some_iff.mp hfeed
  exact ⟨a, ha, (h.comes a ha).joined_of_process? hid, hj, hlink, rfl⟩

/-- A pipe that leads into a stage is the one that the process of the stage before it writes to. -/
theorem producer_of_incoming {a : StageStart σ} (ha : a ∈ m.started) {s : Nat}
    (hs : a.incoming = some (.stream s)) :
    ∃ k b, m.started[k]? = some b ∧ m.started[k + 1]? = some a ∧ b.Joined targets ∧
      b.before.outputPipe? b.stage = some s := by
  obtain ⟨k, hk⟩ := List.mem_iff_getElem?.mp ha
  have hlink := h.incoming_eq k a hk
  rw [hs] at hlink
  cases k with
  | zero => cases hlink
  | succ k =>
    obtain ⟨b, hb, hout⟩ := Option.bind_eq_some_iff.mp hlink.symm
    have hok := h.isOk k b hb (List.getElem?_eq_some_iff.mp hk).1
    obtain ⟨hjoined, ho⟩ := (h.comes b (List.mem_of_getElem? hb)).joined_of_stream hok hout
    exact ⟨k, b, hb, hk, hjoined, ho⟩

end Recorded

/-! ## One reader, one writer, one copy -/

namespace Layout

variable (L : Layout)

/-- A process reads from a pipe. -/
def Reads (id i : Nat) : Prop :=
  ∃ plug, L.plugs[id]? = some plug ∧ plug.streams.input = .pipe i

/-- A process writes to a pipe. -/
def Writes (id i : Nat) : Prop :=
  ∃ plug, L.plugs[id]? = some plug ∧ plug.streams.output = .pipe i

/-- A copy fills a pipe. -/
def Fills (j i : Nat) : Prop :=
  ∃ feed, L.feeds[j]? = some feed ∧ feed.pipe = i

/-- A copy drains a pipe. -/
def Drains (j i : Nat) : Prop :=
  ∃ feed, L.feeds[j]? = some feed ∧ feed.link = .stream i

/-- Each pipe leads from one to one: from a process to a copy, or from a copy to a process. -/
structure Plumbed : Prop where
  reads_inj : ∀ {id id' i : Nat}, L.Reads id i → L.Reads id' i → id = id'
  writes_inj : ∀ {id id' i : Nat}, L.Writes id i → L.Writes id' i → id = id'
  not_writes_of_reads : ∀ {id id' i : Nat}, L.Reads id i → ¬ L.Writes id' i
  lt_of_reads : ∀ {id i : Nat}, L.Reads id i → i < L.pipes
  lt_of_writes : ∀ {id i : Nat}, L.Writes id i → i < L.pipes
  fills_inj : ∀ {j j' i : Nat}, L.Fills j i → L.Fills j' i → j = j'
  drains_inj : ∀ {j j' i : Nat}, L.Drains j i → L.Drains j' i → j = j'
  reads_of_fills : ∀ {j i : Nat}, L.Fills j i → ∃ id, L.Reads id i
  fills_of_reads : ∀ {id i : Nat}, L.Reads id i → ∃ j, L.Fills j i
  writes_of_drains : ∀ {j i : Nat}, L.Drains j i → ∃ id, L.Writes id i
  errors_eq_outlet : ∀ {id : Nat} {plug : Plug}, L.plugs[id]? = some plug →
    ∃ o, plug.streams.errors = .outlet o

end Layout

namespace Recorded

variable {stages : List Stage} {m : Moment σ} (h : Recorded P registered targets stages m)
include h

theorem owner_of_reads {id i : Nat} (hi : m.run.layout.Reads id i) :
    ∃ a ∈ m.started, a.process? = some id ∧ a.Owns i ∧ a.incoming.isSome = true ∧
      a.before.inputPipe a.stage = i := by
  obtain ⟨_, hp, hi⟩ := hi
  obtain ⟨a, ha, hid, rfl, hjoined⟩ := h.owner_of_plug hp
  obtain ⟨hincoming, rfl⟩ := StageStart.input_plug_eq_pipe hi
  exact ⟨a, ha, hid, hjoined.owns_input hincoming, hincoming, rfl⟩

theorem owner_of_writes {id o : Nat} (ho : m.run.layout.Writes id o) :
    ∃ a ∈ m.started, a.process? = some id ∧ a.Owns o ∧ a.before.outputPipe? a.stage = some o := by
  obtain ⟨_, hp, ho⟩ := ho
  obtain ⟨a, ha, hid, rfl, hjoined⟩ := h.owner_of_plug hp
  have hpipe := StageStart.output_plug_eq_pipe ho
  exact ⟨a, ha, hid, hjoined.owns_output hpipe, hpipe⟩

theorem owner_of_fills {j i : Nat} (hi : m.run.layout.Fills j i) :
    ∃ a ∈ m.started, a.process?.isSome = true ∧ a.before.layout.feeds.size = j ∧ a.Owns i ∧
      a.incoming.isSome = true ∧ a.before.inputPipe a.stage = i := by
  obtain ⟨feed, hf, rfl⟩ := hi
  obtain ⟨a, ha, hjoined, hj, hlink, hpipe⟩ := h.owner_of_feed hf
  have hincoming := Option.isSome_iff_exists.mpr ⟨_, hlink⟩
  refine ⟨a, ha, ?_, hj, hpipe ▸ hjoined.owns_input hincoming, hincoming, hpipe⟩
  rw [hjoined.process?_eq, Option.isSome_some]

theorem owner_of_drains {j s : Nat} (hs : m.run.layout.Drains j s) :
    ∃ k b a, m.started[k]? = some b ∧ m.started[k + 1]? = some a ∧
      a.before.layout.feeds.size = j ∧ b.Joined targets ∧ b.before.outputPipe? b.stage = some s := by
  obtain ⟨feed, hf, hs⟩ := hs
  obtain ⟨a, ha, hjoined, hj, hlink, -⟩ := h.owner_of_feed hf
  rw [hs] at hlink
  obtain ⟨k, b, hb, hka, hbjoined, ho⟩ := h.producer_of_incoming ha hlink
  exact ⟨k, b, a, hb, hka, hj, hbjoined, ho⟩

theorem writes_of_joined {b : StageStart σ} (hb : b ∈ m.started) (hjoined : b.Joined targets)
    {o : Nat} (ho : b.before.outputPipe? b.stage = some o) :
    m.run.layout.Writes b.before.layout.plugs.size o := by
  refine ⟨b.plug targets, (h.plugs_iff _ _).mpr ⟨b, hb, hjoined.process?_eq, rfl⟩, ?_⟩
  rw [StageStart.output_plug, ho]

theorem reads_of_joined {a : StageStart σ} (ha : a ∈ m.started) (hjoined : a.Joined targets)
    (hincoming : a.incoming.isSome = true) :
    m.run.layout.Reads a.before.layout.plugs.size (a.before.inputPipe a.stage) := by
  refine ⟨a.plug targets, (h.plugs_iff _ _).mpr ⟨a, ha, hjoined.process?_eq, rfl⟩, ?_⟩
  rw [StageStart.input_plug, if_pos hincoming]

theorem lt_of_owns {a : StageStart σ} (ha : a ∈ m.started) {i : Nat} (hi : a.Owns i) :
    i < m.run.layout.pipes :=
  Nat.lt_of_lt_of_le hi.2 (h.pipes_le a ha)

/-- The stages of one pipe are one stage, so its processes are one process, and its copies are one
copy. -/
theorem plumbed : m.run.layout.Plumbed where
  -- two stages own no pipe together, so two users of one pipe belong to the same stage
  reads_inj {id id' i} hi hi' := by
    obtain ⟨a, ha, hid, howns, -⟩ := h.owner_of_reads hi
    obtain ⟨a', ha', hid', howns', -⟩ := h.owner_of_reads hi'
    obtain rfl := h.eq_of_owns ha ha' howns howns'
    exact Option.some.inj (hid.symm.trans hid')
  writes_inj {id id' i} hi hi' := by
    obtain ⟨a, ha, hid, howns, -⟩ := h.owner_of_writes hi
    obtain ⟨a', ha', hid', howns', -⟩ := h.owner_of_writes hi'
    obtain rfl := h.eq_of_owns ha ha' howns howns'
    exact Option.some.inj (hid.symm.trans hid')
  not_writes_of_reads {id id' i} hi hi' := by
    obtain ⟨a, ha, -, howns, -, hpipe⟩ := h.owner_of_reads hi
    obtain ⟨a', ha', -, howns', hpipe'⟩ := h.owner_of_writes hi'
    obtain rfl := h.eq_of_owns ha ha' howns howns'
    exact StageStart.inputPipe_ne hpipe' hpipe
  lt_of_reads {id i} hi := by
    obtain ⟨a, ha, -, howns, -⟩ := h.owner_of_reads hi
    exact h.lt_of_owns ha howns
  lt_of_writes {id i} hi := by
    obtain ⟨a, ha, -, howns, -⟩ := h.owner_of_writes hi
    exact h.lt_of_owns ha howns
  fills_inj {j j' i} hi hi' := by
    obtain ⟨a, ha, -, hj, howns, -⟩ := h.owner_of_fills hi
    obtain ⟨a', ha', -, hj', howns', -⟩ := h.owner_of_fills hi'
    obtain rfl := h.eq_of_owns ha ha' howns howns'
    exact hj.symm.trans hj'
  drains_inj {j j' i} hi hi' := by
    obtain ⟨k, b, a, hb, ha, hj, hjoined, ho⟩ := h.owner_of_drains hi
    obtain ⟨k', b', a', hb', ha', hj', hjoined', ho'⟩ := h.owner_of_drains hi'
    obtain rfl := h.index_eq_of_owns hb hb' (hjoined.owns_output ho) (hjoined'.owns_output ho')
    rw [← hj, ← hj', Option.some.inj (ha.symm.trans ha')]
  reads_of_fills {j i} hi := by
    obtain ⟨a, ha, hid, -, -, hincoming, rfl⟩ := h.owner_of_fills hi
    obtain ⟨id, hid⟩ := Option.isSome_iff_exists.mp hid
    exact ⟨_, h.reads_of_joined ha ((h.comes a ha).joined_of_process? hid) hincoming⟩
  fills_of_reads {id i} hi := by
    obtain ⟨a, ha, hid, -, hincoming, hpipe⟩ := h.owner_of_reads hi
    obtain ⟨link, hlink⟩ := Option.isSome_iff_exists.mp hincoming
    refine ⟨_, ⟨link, i⟩, (h.feeds_iff _ _).mpr ⟨a, ha, ?_, rfl, ?_⟩, rfl⟩
    · rw [hid, Option.isSome_some]
    · rw [StageStart.feed?, hlink, Option.map_some, hpipe]
  writes_of_drains {j i} hi := by
    obtain ⟨k, b, a, hb, -, -, hjoined, ho⟩ := h.owner_of_drains hi
    exact ⟨_, h.writes_of_joined (List.mem_of_getElem? hb) hjoined ho⟩
  errors_eq_outlet {id plug} hp := by
    obtain ⟨a, -, -, rfl, -⟩ := h.owner_of_plug hp
    exact ⟨_, StageStart.errors_plug ..⟩

end Recorded

/-! ## The places of stages -/

namespace Recorded

variable {stages : List Stage} {m : Moment σ} (h : Recorded P registered targets stages m)
include h

theorem mem_stages {a : StageStart σ} (ha : a ∈ m.started) : a.stage ∈ stages := by
  rw [← h.stages_eq]
  exact List.mem_append_left _ (List.mem_map_of_mem ha)

theorem stage_eq {k : Nat} {a : StageStart σ} (ha : m.started[k]? = some a) :
    stages[k]? = some a.stage := by
  have hk := (List.getElem?_eq_some_iff.mp ha).1
  rw [← h.stages_eq, List.getElem?_append_left (by rwa [List.length_map]), List.getElem?_map, ha]
  rfl

variable (hplaces : ∀ (k : Nat) (stage : Stage), stages[k]? = some stage →
  stage.IsAt stages.length k)
include hplaces

theorem isAt {k : Nat} {a : StageStart σ} (ha : m.started[k]? = some a) :
    a.stage.IsAt stages.length k :=
  hplaces k a.stage (h.stage_eq ha)

theorem getElem?_position {a : StageStart σ} (ha : a ∈ m.started) :
    m.started[a.stage.position]? = some a := by
  obtain ⟨k, hk⟩ := List.mem_iff_getElem?.mp ha
  rwa [(h.isAt hplaces hk).position_eq]

theorem isLast_iff {k : Nat} {a : StageStart σ} (ha : m.started[k]? = some a) :
    a.stage.isLast = true ↔ k + 1 = stages.length := by
  rw [(h.isAt hplaces ha).isLast_eq, beq_iff_eq]

theorem isSome_outgoing {k : Nat} {a : StageStart σ} (ha : m.started[k]? = some a)
    (hok : a.result.isOk = true) : a.outgoing.isSome = true ↔ k + 1 < stages.length := by
  have hlt := (List.getElem?_eq_some_iff.mp (h.stage_eq ha)).1
  rw [(h.comes a (List.mem_of_getElem? ha)).isSome_outgoing hok, Bool.not_eq_true',
    ← Bool.not_eq_true, h.isLast_iff hplaces ha]
  omega

theorem isSome_incoming {k : Nat} {a : StageStart σ} (ha : m.started[k]? = some a) :
    a.incoming.isSome = true ↔ 0 < k := by
  rw [h.incoming_eq k a ha]
  cases k with
  | zero => simp [linkInto]
  | succ k =>
    have hk := (List.getElem?_eq_some_iff.mp ha).1
    have hstage := (List.getElem?_eq_some_iff.mp (h.stage_eq ha)).1
    have hb : m.started[k]? = some m.started[k] := List.getElem?_eq_getElem (Nat.lt_of_succ_lt hk)
    rw [linkInto, hb, Option.bind_some, h.isSome_outgoing hplaces hb (h.isOk k _ hb hk)]
    simp [hstage]

theorem stage_of_plug {id : Nat} {plug : Plug} (hp : m.run.layout.plugs[id]? = some plug) :
    ∃ a, m.started[plug.position]? = some a ∧ a.process? = some id ∧ a.plug targets = plug ∧
      a.Joined targets := by
  obtain ⟨a, ha, hid, rfl, hjoined⟩ := h.owner_of_plug hp
  exact ⟨a, h.getElem?_position hplaces ha, hid, rfl, hjoined⟩

end Recorded

end Pipeline

end CommandShell

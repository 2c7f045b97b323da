import CommandShell.Command.Standard
import CommandShell.Proofs.Pipeline.Builtins
import CommandShell.Proofs.Pipeline.Record

/-!
# The wiring of a pipeline

Each stage takes the link that the stage before it left, and leaves one to the stage after it. A
stage that becomes a process gets a pipe of its own, with a copy that feeds it from that link; every
other stage closes the link unread, a builtin before its handler runs. Only the last stage is given
what the redirection opened.

`Wired` puts together what follows for each stage from the record of the starts, and `run_wired`
says it of a whole run, however its programs are started and whatever its handlers do.
-/

namespace CommandShell.Pipeline

open CommandShell.Host CommandShell.Line

variable {σ : Type} {P : Programs σ} {registered : List String} {targets : Run.Targets}

/-- How a pipeline is wired: what the stages that were started have to do with the layout of the
run. -/
structure Wired (P : Programs σ) (registered : List String) (targets : Run.Targets)
    (stages : List Stage) (started : List (StageStart σ)) (L : Layout) : Prop where
  /-- The stages are started from the left, each of them once. -/
  in_order : started.map (·.stage) <+: stages
  isCall : ∀ a ∈ started, a.IsCall P registered targets
  /-- Into a stage leads what the stage before it left; into the first one nothing. -/
  incoming_eq : ∀ (k : Nat) (a : StageStart σ), started[k]? = some a →
    a.incoming = linkInto started k
  /-- Every stage leaves a link, except the last one. -/
  leaves : ∀ (k : Nat) (a : StageStart σ), started[k]? = some a → a.result.isOk = true →
    (a.outgoing.isSome = true ↔ k + 1 < stages.length)
  /-- The processes are those that the stages at their positions became. -/
  stage_of_plug : ∀ (id : Nat) (plug : Plug), L.plugs[id]? = some plug →
    ∃ a, started[plug.position]? = some a ∧ a.process? = some id
  plug_of_stage : ∀ (k : Nat) (a : StageStart σ) (id : Nat), started[k]? = some a →
    a.process? = some id → ∃ plug, L.plugs[id]? = some plug ∧ plug.position = k
  /-- The first process, and no other one, reads from the shell's own standard input. -/
  shellInput_iff : ∀ (id : Nat) (plug : Plug), L.plugs[id]? = some plug →
    (plug.streams.input = .shellInput ↔ plug.position = 0)
  /-- Every later process reads from a pipe that was made for it. Nobody else reads from the pipe, no
  process writes to it, and the one copy into it carries the link that the stage before it left. -/
  fed : ∀ (id : Nat) (plug : Plug) (k : Nat), L.plugs[id]? = some plug → plug.position = k + 1 →
    ∃ (i j : Nat) (a : StageStart σ) (link : Link),
      plug.streams.input = .pipe i ∧ started[k + 1]? = some a ∧ a.before.layout.pipes ≤ i ∧
      (∀ id' : Nat, L.Reads id' i → id' = id) ∧ (∀ id' : Nat, ¬ L.Writes id' i) ∧
      linkInto started (k + 1) = some link ∧ L.feeds[j]? = some ⟨link, i⟩ ∧
      ∀ j' : Nat, L.Fills j' i → j' = j
  /-- Every copy carries the link of a stage into the process of the next stage. -/
  fed_by_next : ∀ (j : Nat) (feed : Feed), L.feeds[j]? = some feed →
    ∃ (k : Nat) (a b : StageStart σ) (id : Nat), started[k]? = some a ∧
      started[k + 1]? = some b ∧ a.outgoing = some feed.link ∧ b.process? = some id ∧
      L.Reads id feed.pipe
  /-- No pipe is carried on by two copies. -/
  drained_once : ∀ j j' s : Nat, L.Drains j s → L.Drains j' s → j = j'
  /-- The link into a stage is closed by this stage if it is no process, and never otherwise. -/
  closed_iff : ∀ k : Nat, Event.closedLink k ∈ L.events ↔
    ∃ a, started[k]? = some a ∧ 0 < k ∧ a.process? = none
  /-- Once it is closed, the shell does not read from it any more. -/
  closes : ∀ (k : Nat) (a : StageStart σ) (s : Nat), started[k]? = some a → a.process? = none →
    linkInto started k = some (.stream s) → (a.after.pipe s).shellReads = false
  /-- A builtin closes the link into it just before its handler runs. -/
  handled_after_closed : ∀ (k : Nat) (a : StageStart σ)
    (handler : Call → Shell → Reply × Shell), started[k + 1]? = some a →
    a.stage.work = .builtin (some handler) →
      [Event.handled (k + 1), Event.closedLink (k + 1)] <:+: L.events
  /-- A process that is not the last stage writes to the pipe that it leaves to the next stage, and
  its standard error is the shell's. -/
  inner_process : ∀ (id : Nat) (plug : Plug), L.plugs[id]? = some plug →
    plug.position + 1 < stages.length →
      plug.streams.errors = .outlet .errors ∧
        ∃ (o : Nat) (a : StageStart σ), plug.streams.output = .pipe o ∧
          started[plug.position]? = some a ∧ a.outgoing = some (.stream o)
  /-- The process of the last stage is given what the redirection opened. -/
  last_process : ∀ (id : Nat) (plug : Plug), L.plugs[id]? = some plug →
    plug.position + 1 = stages.length →
      plug.streams.output = Run.sinkOr targets.output .output ∧
        plug.streams.errors = Run.sinkOr targets.errors .errors
  /-- What a builtin prints is handed on if another stage follows, and then the shell's own standard
  error takes its errors. -/
  inner_builtin : ∀ (k : Nat) (a : StageStart σ) (handler : Call → Shell → Reply × Shell)
    (status : Int) (output errors : String) (s : Shell), started[k]? = some a →
    k + 1 < stages.length → a.stage.work = .builtin (some handler) →
    handler (Run.callOf registered a.stage) a.before.shell = (.returned status output errors, s) →
      a.result = .ok (some (.ready output.toUTF8), .known status) ∧
        a.after.shell = s.printError errors
  /-- What the last builtin prints goes to what the redirection opened. -/
  last_builtin : ∀ (k : Nat) (a : StageStart σ) (handler : Call → Shell → Reply × Shell)
    (status : Int) (output errors : String) (s : Shell), started[k]? = some a →
    k + 1 = stages.length → a.stage.work = .builtin (some handler) →
    handler (Run.callOf registered a.stage) a.before.shell = (.returned status output errors, s) →
      a.result = ((Returned.mk status output errors s).deliver targets.output targets.errors).1.map
          (fun status ↦ (none, .known status)) ∧
        a.after.shell =
          ((Returned.mk status output errors s).deliver targets.output targets.errors).2
  /-- A program that is not started leaves an empty link. -/
  not_started : ∀ (k : Nat) (a : StageStart σ) (executable : Option String),
    started[k]? = some a → a.stage.work = .external executable → a.process? = none →
      a.result = .ok (if k + 1 = stages.length then none else some (.ready ByteArray.empty),
        .known notStartedStatus)

namespace Recorded

variable {stages : List Stage} {m : Moment σ} (h : Recorded P registered targets stages m)
include h

/-- What a copy carries was left by the stage just before the process it feeds. -/
theorem exists_stages_of_feed {j : Nat} {feed : Feed} (hf : m.run.layout.feeds[j]? = some feed) :
    ∃ (k : Nat) (a b : StageStart σ) (id : Nat), m.started[k]? = some a ∧
      m.started[k + 1]? = some b ∧ a.outgoing = some feed.link ∧ b.process? = some id ∧
      m.run.layout.Reads id feed.pipe := by
  obtain ⟨b, hb, hjoined, -, hlink, hpipe⟩ := h.owner_of_feed hf
  obtain ⟨k, hk⟩ := List.mem_iff_getElem?.mp hb
  have hinto := h.incoming_eq k b hk
  rw [hlink] at hinto
  cases k with
  | zero => cases hinto
  | succ k =>
    obtain ⟨a, ha, hout⟩ := Option.bind_eq_some_iff.mp hinto.symm
    refine ⟨k, a, b, _, ha, hk, hout, hjoined.process?_eq, ?_⟩
    rw [← hpipe]
    exact h.reads_of_joined hb hjoined (Option.isSome_iff_exists.mpr ⟨_, hlink⟩)

theorem shellReads_after (hasked : ∀ stage ∈ stages, stage.CanBeAsked) {k s : Nat}
    {a : StageStart σ} (ha : m.started[k]? = some a) (hprocess : a.process? = none)
    (hs : linkInto m.started k = some (.stream s)) : (a.after.pipe s).shellReads = false := by
  have hmem := List.mem_of_getElem? ha
  rw [← h.incoming_eq k a ha] at hs
  refine (h.comes a hmem).closes (hasked _ (h.mem_stages hmem)) hprocess hs ?_
  -- the pipe is one of the stage before, which was started earlier
  obtain ⟨k, b, hb, ha, hjoined, ho⟩ := h.producer_of_incoming hmem hs
  obtain ⟨hlt, rfl⟩ := List.getElem?_eq_some_iff.mp ha
  obtain ⟨hlt', rfl⟩ := List.getElem?_eq_some_iff.mp hb
  exact Nat.lt_of_lt_of_le (hjoined.owns_output ho).2
    (List.pairwise_iff_getElem.mp h.apart _ _ hlt' hlt (Nat.lt_succ_self _))

variable (hplaces : ∀ (k : Nat) (stage : Stage), stages[k]? = some stage →
  stage.IsAt stages.length k)
include hplaces

/-! ### Processes -/

/-- The first process, and no other one, reads from the shell's own standard input. -/
theorem input_eq_shellInput_iff {id : Nat} {plug : Plug}
    (hp : m.run.layout.plugs[id]? = some plug) :
    plug.streams.input = .shellInput ↔ plug.position = 0 := by
  obtain ⟨a, ha, -, hplug, -⟩ := h.stage_of_plug hplaces hp
  rw [← hplug, StageStart.input_plug]
  split_ifs with hincoming
  · have hpos := (h.isSome_incoming hplaces ha).mp hincoming
    rw [← hplug] at hpos
    exact iff_of_false nofun (Nat.ne_of_gt hpos)
  · have hpos := mt (h.isSome_incoming hplaces ha).mpr hincoming
    rw [← hplug] at hpos
    exact iff_of_true rfl (Nat.eq_zero_of_not_pos hpos)

/-- The pipe of a later process is its own, and so is the copy that fills it. -/
theorem exists_feed_of_plug {id k : Nat} {plug : Plug}
    (hp : m.run.layout.plugs[id]? = some plug) (hk : plug.position = k + 1) :
    ∃ (i j : Nat) (a : StageStart σ) (link : Link),
      plug.streams.input = .pipe i ∧ m.started[k + 1]? = some a ∧ a.before.layout.pipes ≤ i ∧
      (∀ id' : Nat, m.run.layout.Reads id' i → id' = id) ∧
      (∀ id' : Nat, ¬ m.run.layout.Writes id' i) ∧
      linkInto m.started (k + 1) = some link ∧ m.run.layout.feeds[j]? = some ⟨link, i⟩ ∧
      ∀ j' : Nat, m.run.layout.Fills j' i → j' = j := by
  obtain ⟨a, ha, hid, hplug, hjoined⟩ := h.stage_of_plug hplaces hp
  rw [hk] at ha
  have hincoming := (h.isSome_incoming hplaces ha).mpr (Nat.succ_pos k)
  obtain ⟨link, hlink⟩ := Option.isSome_iff_exists.mp hincoming
  have hinput : plug.streams.input = .pipe (a.before.inputPipe a.stage) := by
    rw [← hplug, StageStart.input_plug, if_pos hincoming]
  have hreads : m.run.layout.Reads id (a.before.inputPipe a.stage) := ⟨plug, hp, hinput⟩
  have hfeed : m.run.layout.feeds[a.before.layout.feeds.size]? =
      some ⟨link, a.before.inputPipe a.stage⟩ := by
    refine (h.feeds_iff _ _).mpr ⟨a, List.mem_of_getElem? ha, ?_, rfl, ?_⟩
    · rw [hid, Option.isSome_some]
    · rw [StageStart.feed?, hlink, Option.map_some]
  exact ⟨_, _, a, link, hinput, ha, (hjoined.owns_input hincoming).1,
    fun id' hid' ↦ h.plumbed.reads_inj hid' hreads,
    fun id' ↦ h.plumbed.not_writes_of_reads hreads, h.incoming_eq _ a ha ▸ hlink, hfeed,
    fun j' hj' ↦ h.plumbed.fills_inj hj' ⟨_, hfeed, rfl⟩⟩

/-- A process that other stages follow writes to the pipe it leaves, and its errors go to the
shell's own standard error. -/
theorem streams_of_inner {id : Nat} {plug : Plug}
    (hp : m.run.layout.plugs[id]? = some plug) (hlt : plug.position + 1 < stages.length) :
    plug.streams.errors = .outlet .errors ∧
      ∃ (o : Nat) (a : StageStart σ), plug.streams.output = .pipe o ∧
        m.started[plug.position]? = some a ∧ a.outgoing = some (.stream o) := by
  obtain ⟨a, ha, -, hplug, hjoined⟩ := h.stage_of_plug hplaces hp
  have hlast : a.stage.isLast = false := by
    rw [← Bool.not_eq_true, h.isLast_iff hplaces ha]
    omega
  have hpipe := a.before.outputPipe?_of_not_isLast hlast
  refine ⟨?_, _, a, ?_, ha, by rw [hjoined.outgoing_eq, hpipe, Option.map_some]⟩
  · rw [← hplug, StageStart.errors_plug, Run.targetsFor, if_neg (by simp [hlast])]
    rfl
  · rw [← hplug, StageStart.output_plug, hpipe]

theorem streams_of_last {id : Nat} {plug : Plug}
    (hp : m.run.layout.plugs[id]? = some plug) (hlen : plug.position + 1 = stages.length) :
    plug.streams.output = Run.sinkOr targets.output .output ∧
      plug.streams.errors = Run.sinkOr targets.errors .errors := by
  obtain ⟨a, ha, -, hplug, -⟩ := h.stage_of_plug hplaces hp
  have hlast := (h.isLast_iff hplaces ha).mpr hlen
  rw [← hplug, StageStart.errors_plug, StageStart.output_plug, Run.targetsFor, if_pos hlast,
    a.before.outputPipe?_of_isLast hlast]
  exact ⟨rfl, rfl⟩

/-! ### Links that are closed unread -/

theorem closedLink_mem_iff (hasked : ∀ stage ∈ stages, stage.CanBeAsked) (k : Nat) :
    Event.closedLink k ∈ m.run.layout.events ↔
      ∃ a, m.started[k]? = some a ∧ 0 < k ∧ a.process? = none := by
  rw [h.closed_iff]
  constructor
  · rintro ⟨a, ha, hprocess, -, hincoming, rfl⟩
    have hk := h.getElem?_position hplaces ha
    exact ⟨a, hk, (h.isSome_incoming hplaces hk).mp hincoming, hprocess⟩
  · rintro ⟨a, ha, hpos, hprocess⟩
    have hmem := List.mem_of_getElem? ha
    exact ⟨a, hmem, hprocess, hasked _ (h.mem_stages hmem), (h.isSome_incoming hplaces ha).mpr hpos,
      (h.isAt hplaces ha).position_eq⟩

theorem handled_isInfix_events {k : Nat} {a : StageStart σ}
    {handler : Call → Shell → Reply × Shell} (ha : m.started[k + 1]? = some a)
    (hwork : a.stage.work = .builtin (some handler)) :
    [Event.handled (k + 1), Event.closedLink (k + 1)] <:+: m.run.layout.events := by
  have hmem := List.mem_of_getElem? ha
  obtain ⟨link, hlink⟩ := Option.isSome_iff_exists.mp
    ((h.isSome_incoming hplaces ha).mpr (Nat.succ_pos k))
  have hevents := ((h.comes a hmem).of_builtin hwork).2.events_eq
  rw [hlink, (h.isAt hplaces ha).position_eq] at hevents
  obtain ⟨later, hlater⟩ := h.events_suffix a hmem
  rw [← hlater, hevents]
  exact ⟨later, a.before.layout.events, List.append_assoc ..⟩

/-! ### Stages that are no processes -/

theorem result_of_inner {k : Nat} {a : StageStart σ}
    {handler : Call → Shell → Reply × Shell} {status : Int} {output errors : String} {s : Shell}
    (ha : m.started[k]? = some a)
    (hlt : k + 1 < stages.length) (hwork : a.stage.work = .builtin (some handler))
    (hreturned : handler (Run.callOf registered a.stage) a.before.shell =
      (.returned status output errors, s)) :
    a.result = .ok (some (.ready output.toUTF8), .known status) ∧
      a.after.shell = s.printError errors := by
  have houtcome := ((h.comes a (List.mem_of_getElem? ha)).of_builtin hwork).1
  have hlast : ¬ a.stage.isLast = true := by
    rw [h.isLast_iff hplaces ha]
    omega
  rw [Run.outcomeOf, hreturned] at houtcome
  dsimp only at houtcome
  rw [if_neg hlast] at houtcome
  exact Prod.mk.inj houtcome

/-- What the last builtin prints is delivered to what the redirection opened. -/
theorem result_of_last {k : Nat} {a : StageStart σ}
    {handler : Call → Shell → Reply × Shell} {status : Int} {output errors : String} {s : Shell}
    (ha : m.started[k]? = some a)
    (hlen : k + 1 = stages.length) (hwork : a.stage.work = .builtin (some handler))
    (hreturned : handler (Run.callOf registered a.stage) a.before.shell =
      (.returned status output errors, s)) :
    a.result = ((Returned.mk status output errors s).deliver targets.output targets.errors).1.map
        (fun status ↦ (none, .known status)) ∧
      a.after.shell =
        ((Returned.mk status output errors s).deliver targets.output targets.errors).2 := by
  have houtcome := ((h.comes a (List.mem_of_getElem? ha)).of_builtin hwork).1
  have hlast := (h.isLast_iff hplaces ha).mpr hlen
  rw [Run.outcomeOf, hreturned, Run.targetsFor] at houtcome
  dsimp only at houtcome
  rw [if_pos hlast, if_pos hlast] at houtcome
  exact Prod.mk.inj houtcome

theorem result_of_not_started (hasked : ∀ stage ∈ stages, stage.CanBeAsked) {k : Nat}
    {a : StageStart σ} {executable : Option String} (ha : m.started[k]? = some a)
    (hwork : a.stage.work = .external executable) (hprocess : a.process? = none) :
    a.result = .ok (if k + 1 = stages.length then none else some (.ready ByteArray.empty),
      .known notStartedStatus) := by
  have hmem := List.mem_of_getElem? ha
  cases h.comes a hmem with
  | joined _ h => cases hprocess.symm.trans h.process?_eq
  | notStarted _ _ _ hresult =>
    rw [hresult]
    simp only [h.isLast_iff hplaces ha]
  | handled _ hbuiltin => cases hwork.symm.trans hbuiltin
  | malformed _ hnot => exact absurd (hasked _ (h.mem_stages hmem)) hnot

/-- What the starts of a run have recorded is wired. -/
theorem wired (hasked : ∀ stage ∈ stages, stage.CanBeAsked) :
    Wired P registered targets stages m.started m.run.layout where
  in_order := ⟨m.pending, h.stages_eq⟩
  isCall := h.isCall
  incoming_eq := h.incoming_eq
  leaves _ _ ha hok := h.isSome_outgoing hplaces ha hok
  stage_of_plug _ _ hp :=
    have ⟨a, ha, hid, _⟩ := h.stage_of_plug hplaces hp
    ⟨a, ha, hid⟩
  plug_of_stage _ a _ ha hid :=
    ⟨a.plug targets, (h.plugs_iff _ _).mpr ⟨a, List.mem_of_getElem? ha, hid, rfl⟩,
      (h.isAt hplaces ha).position_eq⟩
  shellInput_iff _ _ hp := h.input_eq_shellInput_iff hplaces hp
  fed _ _ _ hp hk := h.exists_feed_of_plug hplaces hp hk
  fed_by_next _ _ hf := h.exists_stages_of_feed hf
  drained_once _ _ _ := h.plumbed.drains_inj
  closed_iff := h.closedLink_mem_iff hplaces hasked
  closes _ _ _ ha hprocess hs := h.shellReads_after hasked ha hprocess hs
  handled_after_closed _ _ _ ha hwork := h.handled_isInfix_events hplaces ha hwork
  inner_process _ _ hp hlt := h.streams_of_inner hplaces hp hlt
  last_process _ _ hp hlen := h.streams_of_last hplaces hp hlen
  inner_builtin _ _ _ _ _ _ _ ha hlt hwork hreturned :=
    h.result_of_inner hplaces ha hlt hwork hreturned
  last_builtin _ _ _ _ _ _ _ ha hlen hwork hreturned :=
    h.result_of_last hplaces ha hlen hwork hreturned
  not_started _ _ _ ha hwork hprocess := h.result_of_not_started hplaces hasked ha hwork hprocess

end Recorded

/-! ## Whole runs -/

namespace StageStart

/-- The handler of the last stage has returned, and the system refuses what it said. -/
def IsUndelivered (registered : List String) (targets : Run.Targets) (a : StageStart σ)
    (cause : Errno) : Prop :=
  ∃ handler status output errors s, a.stage.work = .builtin (some handler) ∧
    a.stage.isLast = true ∧
    handler (Run.callOf registered a.stage) a.before.shell = (.returned status output errors, s) ∧
    ((Returned.mk status output errors s).deliver targets.output targets.errors).1 =
      .error (.system cause)

/-- A stage whose handler, if it has one, returns only fails if the system refuses what was said. -/
theorem Comes.isUndelivered {a : StageStart σ} (h : a.Comes registered targets)
    (hasked : a.stage.CanBeAsked)
    (hreturns : ¬ a.HasRaised registered) {fault : Fault} (hfault : a.result = .error fault) :
    ∃ cause, fault = .system cause ∧ a.IsUndelivered registered targets cause := by
  cases h with
  | joined _ h => cases hfault.symm.trans h.result_eq
  | notStarted _ _ _ hresult => cases hfault.symm.trans hresult
  | malformed _ hwords => exact absurd hasked hwords
  | handled handler hwork houtcome =>
    have hresult := congrArg Prod.fst houtcome
    dsimp only at hresult
    rw [hfault, Run.outcomeOf] at hresult
    cases hanswer : handler (Run.callOf registered a.stage) a.before.shell with
    | mk reply s =>
      rw [hanswer] at hresult
      cases reply with
      | raised cause output errors =>
        exact absurd ⟨handler, cause, output, errors, s, hwork, hanswer⟩ hreturns
      | returned status output errors =>
        dsimp only at hresult
        split_ifs at hresult with hlast
        rw [Run.targetsFor, if_pos hlast] at hresult
        cases hdeliver : ((Returned.mk status output errors s).deliver targets.output
            targets.errors).1 with
        | ok status =>
          rw [hdeliver] at hresult
          cases hresult
        | error cause =>
          rw [hdeliver] at hresult
          cases hresult
          obtain ⟨cause, rfl⟩ := Returned.exists_of_deliver hdeliver
          exact ⟨cause, rfl, handler, status, output, errors, s, hwork, hlast, hanswer, hdeliver⟩

end StageStart

theorem hasRaised_or_isLast {a : StageStart σ} (h : a.Comes registered targets)
    (hasked : a.stage.CanBeAsked) {fault : Fault} (hfault : a.result = .error fault) :
    a.HasRaised registered ∨ a.stage.isLast = true := by
  by_cases hraised : a.HasRaised registered
  · exact .inl hraised
  · obtain ⟨_, -, _, _, _, _, _, -, hlast, -⟩ := h.isUndelivered hasked hraised hfault
    exact .inr hlast

/-- **Every pipeline is wired.** Its stages are all started unless a handler raises a fault, or a
target of the redirection has a NUL character in its path. If the run has a status, it is the status
of the last stage alone. -/
theorem run_wired (E : Engine σ) (registered : List String) {registry : Registry} {m : Machine}
    {commands : List Command} {stages : List Stage}
    (hbuild : buildStages registry m commands = .ok stages)
    (hasked : ∀ stage ∈ stages, stage.CanBeAsked) (redirection : Redirection) (shell : Shell) :
    ∃ r moment, EndsAt E registered stages redirection shell r moment ∧
      Wired E.programs registered (targetsOf redirection shell) stages moment.started
        (run E registered stages redirection shell).2.layout ∧
      (moment.started.map (·.stage) = stages ∨
        (∃ a, moment.started.getLast? = some a ∧ a.HasRaised registered) ∨
        (moment.started = [] ∧ ∃ stream target, redirection.target? stream = some target ∧
          Path.hasNul target.path = true)) ∧
      ∀ status, (run E registered stages redirection shell).1 = .ok status →
        moment.started.map (·.stage) = stages ∧
          match moment.started.getLast? with
          | none => status = 0
          | some a => ∃ st, a.status? = some st ∧
              (run E registered stages redirection shell).2.resolve st = some status := by
  obtain ⟨r, moment, hend, hstopped, hends⟩ := run_moments E registered stages redirection shell
  have hplaces : ∀ (k : Nat) (stage : Stage), stages[k]? = some stage →
      stage.IsAt stages.length k := fun k stage ↦ Stage.isAt_of_buildStages hbuild
  have hstages := Stage.hasHandler_of_isAt hplaces
  have hrecord := hend.reached.recorded hend.isFresh hstages
  have hlayout : (run E registered stages redirection shell).2.layout = moment.run.layout := by
    rw [hend.run_eq, Run.layout_closeFiles, Run.layout_cleanUp]
  have hall (hpending : moment.pending = []) : moment.started.map (·.stage) = stages := by
    have heq := hrecord.stages_eq
    rwa [hpending, List.append_nil] at heq
  refine ⟨r, moment, hend, hlayout ▸ hrecord.wired hplaces hasked, ?_, fun status hstatus ↦ ?_⟩
  · rcases hstopped with (⟨hpending, -⟩ | ⟨a, fault, hlast, hfault⟩) | ⟨hnone, hnul⟩
    · exact .inl (hall hpending)
    · have hmem := List.mem_of_getLast? hlast
      have hasked := hasked _ (hrecord.mem_stages hmem)
      rcases hasRaised_or_isLast (hrecord.comes a hmem) hasked hfault with hraised | hislast
      · exact .inr (.inl ⟨a, hlast, hraised⟩)
      · -- nothing is pending after the last stage
        refine .inl (hall ?_)
        rw [List.getLast?_eq_getElem?] at hlast
        have hlt := (List.getElem?_eq_some_iff.mp hlast).1
        have hlength := (hrecord.isLast_iff hplaces hlast).mp hislast
        have heq := congrArg List.length hrecord.stages_eq
        rw [List.length_append, List.length_map] at heq
        exact List.eq_nil_of_length_eq_zero (by omega)
    · exact .inr (.inr ⟨hnone, hnul⟩)
  · obtain ⟨hpending, -⟩ := hends.going status hstatus
    have hlast := hends.status status hstatus
    refine ⟨hall hpending, ?_⟩
    cases hgetLast : moment.started.getLast? with
    | none =>
      rw [hgetLast] at hlast
      exact hlast
    | some a =>
      rw [hgetLast] at hlast
      obtain ⟨st, hst, hresolve⟩ := hlast
      refine ⟨st, hst, ?_⟩
      rw [hend.run_eq]
      exact Run.resolve_cleanUp hresolve _

/-! ### A builtin and a program -/

def toolbox : Machine where
  files := { nodes := #[.directory 0 [("tool", 1)], .file 0o755 ByteArray.empty] }

/-- The path of a program that is there names it. -/
theorem workOf_of_lookUp {m : Machine} {id : Nat} {bytes : ByteArray}
    (hlook : m.files.lookUp m.cwd "/tool" = .ok (id, .file 0o755 bytes)) :
    Stage.workOf Standard.registry m "/tool" = .ok (.external (some "/tool")) := by
  have habsolute : Path.isAbsolute "/tool" = true := by decide +kernel
  have hnul : Path.hasNul "/tool" = false := by decide +kernel
  have hexecutable : Command.isExecutable m "/tool" = true := by
    rw [Command.isExecutable, FileSystem.isFile, FileSystem.isAccessible, FileSystem.holds,
      FileSystem.holds, hlook, hnul]
    rfl
  have hpath : Path.absolute "/" "/tool" = "/tool" := by decide +kernel
  have hfound : Command.findExecutable m "/tool" = .ok (some "/tool") := by
    rw [Command.findExecutable, if_neg (by decide), if_pos (by decide +kernel),
      if_pos hexecutable, if_pos habsolute, hpath]
  have hregistered : Standard.registry.registered.contains "/tool" = false := by decide
  rw [Stage.workOf, Command.meaningOf, hregistered, hfound]
  rfl

theorem workOf_tool :
    Stage.workOf Standard.registry toolbox "/tool" = .ok (.external (some "/tool")) := by
  have hfind : toolbox.files.find toolbox.cwd "/tool" = .ok 1 :=
    FileSystem.find_of_leads 0 ["tool"] (by decide +kernel) (.node rfl nofun (.nil 1)) (by decide)
  exact workOf_of_lookUp (FileSystem.lookUp_eq_ok_iff.mpr ⟨hfind, rfl⟩)

/-- The stages of `echo hi | /tool -n`. -/
def echoTool : List Stage :=
  [{ command := ⟨"echo", ["hi"]⟩, work := .builtin (some Standard.echo), position := 0
     isFirst := true, isLast := false },
   { command := ⟨"/tool", ["-n"]⟩, work := .external (some "/tool"), position := 1
     isFirst := false, isLast := true }]

theorem buildStages_echoTool :
    buildStages Standard.registry toolbox [⟨"echo", ["hi"]⟩, ⟨"/tool", ["-n"]⟩] =
      .ok echoTool := by
  have hecho : Stage.workOf Standard.registry toolbox "echo" =
      .ok (.builtin (some Standard.echo)) := rfl
  simp only [buildStages, Stage.buildFrom, hecho, workOf_tool]
  rfl

theorem canBeAsked_echoTool : ∀ stage ∈ echoTool, stage.CanBeAsked := by
  intro stage hstage executable hwork
  simp only [echoTool, List.mem_cons, List.not_mem_nil, or_false] at hstage
  rcases hstage with rfl | rfl
  · cases hwork
  · cases hwork
    decide +kernel

/-- The program is not started, and its status is that of the pipeline. -/
theorem run_wired_echoTool :
    buildStages Standard.registry toolbox [⟨"echo", ["hi"]⟩, ⟨"/tool", ["-n"]⟩] = .ok echoTool ∧
    (∀ stage ∈ echoTool, stage.CanBeAsked) ∧
    (run noPrograms Standard.registry.registered echoTool {} { machine := toolbox }).1 = .ok 126 ∧
    ∃ r moment, EndsAt noPrograms Standard.registry.registered echoTool {} { machine := toolbox } r
        moment ∧
      Wired noPrograms.programs Standard.registry.registered {} echoTool moment.started
        (run noPrograms Standard.registry.registered echoTool {} { machine := toolbox }).2.layout ∧
      moment.started.map (·.stage) = echoTool := by
  have hstatus : (run noPrograms Standard.registry.registered echoTool {}
      { machine := toolbox }).1 = .ok 126 := by
    have hwords : ("/tool" :: (⟨"/tool", ["-n"]⟩ : Command).argv).any Path.hasNul = false := by
      decide +kernel
    obtain ⟨r, hstart, hprocesses, hcopies⟩ : ∃ r, Run.startAll noPrograms
        Standard.registry.registered {} echoTool none { shell := { machine := toolbox } } =
          (.ok [.known 0, .known 126], none, r) ∧ r.processes = #[] ∧ r.copies = #[] := by
      simp only [echoTool, Run.startAll, Run.startStage, Run.runBuiltin, Run.startExternal, hwords,
        Option.getD_some]
      exact ⟨_, rfl, rfl, rfl⟩
    have hdone : r.isDone = true := by
      simp [Run.isDone, hprocesses, hcopies]
    rw [run]
    simp only [Run.openTarget, runStages, hstart, Run.settle_of_isDone _ _ hdone, hdone]
    rfl
  obtain ⟨r, moment, hend, hwired, -, hall⟩ :=
    run_wired noPrograms Standard.registry.registered buildStages_echoTool canBeAsked_echoTool {}
      { machine := toolbox }
  exact ⟨buildStages_echoTool, canBeAsked_echoTool, hstatus, r, moment, hend, hwired,
    (hall 126 hstatus).1⟩

end CommandShell.Pipeline

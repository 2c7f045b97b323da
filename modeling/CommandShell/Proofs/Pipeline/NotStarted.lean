import CommandShell.Proofs.Pipeline.Closing
import CommandShell.Proofs.Pipeline.Reaping
import CommandShell.Proofs.Pipeline.Settling

/-!
# Programs that cannot be started

A program that the system does not start is a matter of its own stage. The stage is over at once: it
leaves a message on the shell's own standard error, whatever was opened for it, and a status of its
own (`IsReported`). To the left the link into it is closed, so that whoever writes there meets a
closed pipe; to the right an empty link is handed on, so that whoever reads there meets the end of
its input (`HasEmptyInput`). All the other stages are started as if nothing had happened.

`LeavesOut` puts this together for all stages at one moment, and it holds at all moments of all
schedules, since it follows from the record of the starts. `run_leaves_out` adds how a run ends.
-/

namespace CommandShell.Pipeline

open CommandShell.Host CommandShell.Line

variable {σ : Type} {P : Programs σ} {registered : List String} {targets : Run.Targets}
  {stages : List Stage} {r : Run σ} {m : Moment σ}

/-! ## The start of one stage -/

/-- A program that is started leaves the shell as it is, and one that is not leaves a message. -/
theorem Run.shell_startExternal (P : Programs σ) (r : Run σ) (stage : Stage)
    {executable : Option String}
    (hnul : (executable.getD stage.command.name :: stage.command.argv).any Path.hasNul = false)
    (incoming : Option Link) (targets : Targets) :
    (r.startExternal P stage executable incoming (targetsFor stage targets)).2.shell =
      match P.start r.shell.machine (r.streamsFor stage incoming targets)
        (executable.getD stage.command.name) stage.command.argv with
      | .ok _ => r.shell
      | .error reason =>
        r.shell.report ("shell: " ++ stage.command.name ++ ": " ++ reason.message) := by
  unfold startExternal
  simp only [addOutputPipe_snd, streamsOf_addOutputPipe, shell_addOutputPipe, hnul,
    Bool.false_eq_true, if_false]
  cases P.start r.shell.machine (r.streamsFor stage incoming targets)
    (executable.getD stage.command.name) stage.command.argv with
  | ok state => simp
  | error reason => cases r.outputPipe? stage <;> simp

def Event.report? : Event → Option (Nat × Errno)
  | .notStarted position reason => some (position, reason)
  | _ => none

namespace StageStart

variable {a : StageStart σ}

def refusal? (P : Programs σ) (targets : Run.Targets) (a : StageStart σ) : Option Errno :=
  match a.stage.work with
  | .builtin _ => none
  | .external executable =>
    match P.start a.before.shell.machine (a.before.streamsFor a.stage a.incoming targets)
        (executable.getD a.stage.command.name) a.stage.command.argv with
    | .ok _ => none
    | .error reason => some reason

def report? (P : Programs σ) (targets : Run.Targets) (a : StageStart σ) : Option (Nat × Errno) :=
  (a.refusal? P targets).map fun reason ↦ (a.stage.position, reason)

theorem refusal?_of_builtin {handler : Option (Call → Shell → Reply × Shell)}
    (hwork : a.stage.work = .builtin handler) : a.refusal? P targets = none := by
  rw [refusal?, hwork]

theorem refusal?_of_external {executable : Option String}
    (hwork : a.stage.work = .external executable) :
    a.refusal? P targets =
      match P.start a.before.shell.machine (a.before.streamsFor a.stage a.incoming targets)
        (executable.getD a.stage.command.name) a.stage.command.argv with
      | .ok _ => none
      | .error reason => some reason := by
  rw [refusal?, hwork]

theorem external_of_refusal? {reason : Errno} (h : a.refusal? P targets = some reason) :
    ∃ executable, a.stage.work = .external executable := by
  cases hwork : a.stage.work with
  | builtin handler =>
    rw [refusal?_of_builtin hwork] at h
    cases h
  | external executable => exact ⟨executable, rfl⟩

/-- The start of a stage has come to a message, and to nothing else: the link into the stage is
closed, and of the pipes that are new the shell holds no end. -/
structure IsReported (a : StageStart σ) (reason : Errno) : Prop where
  result_eq : a.result = .ok (if a.stage.isLast then none else some (.ready ByteArray.empty),
    .known notStartedStatus)
  shell_eq : a.after.shell =
    a.before.shell.report ("shell: " ++ a.stage.command.name ++ ": " ++ reason.message)
  passes : Run.Passes a.before a.stage a.incoming [.notStarted a.stage.position reason] a.after
  holdsNothing : Run.HoldsOfNew a.before a.after none

theorem IsReported.process?_eq {reason : Errno} (h : a.IsReported reason) : a.process? = none := by
  rw [process?, h.result_eq]

variable (h : a.IsCall P registered targets) (hasked : a.stage.CanBeAsked)
include h hasked

theorem IsCall.shell_eq {executable : Option String}
    (hwork : a.stage.work = .external executable) :
    a.after.shell =
      match P.start a.before.shell.machine (a.before.streamsFor a.stage a.incoming targets)
        (executable.getD a.stage.command.name) a.stage.command.argv with
      | .ok _ => a.before.shell
      | .error reason =>
        a.before.shell.report ("shell: " ++ a.stage.command.name ++ ": " ++ reason.message) := by
  rw [← a.before.shell_startExternal P a.stage (hasked executable hwork) a.incoming targets,
    (Prod.mk.inj h).2]
  simp only [hwork, Run.targetsFor]

/-- A program that is not started is reported. -/
theorem IsCall.isReported {reason : Errno} (hrefusal : a.refusal? P targets = some reason) :
    a.IsReported reason := by
  obtain ⟨executable, hwork⟩ := external_of_refusal? hrefusal
  have hshell := h.shell_eq hasked hwork
  rw [refusal?_of_external hwork] at hrefusal
  have hstarts := h.starts
  generalize hresult : a.result = result at hstarts
  generalize hafter : a.after = after at hstarts
  cases hstarts with
  | joins hwork' hstart =>
    cases hwork.symm.trans hwork'
    rw [hstart] at hrefusal
    cases hrefusal
  | isRefused hwork' hnul hstart hpasses hnew =>
    cases hwork.symm.trans hwork'
    rw [hstart] at hrefusal hshell
    cases hrefusal
    exact ⟨hresult, hshell, hafter ▸ hpasses, hafter ▸ hnew⟩
  | isHandled hwork' => cases hwork.symm.trans hwork'
  | isMissing hwork' => cases hwork.symm.trans hwork'
  | isMalformed hwork' hnul =>
    rw [hasked _ hwork'] at hnul
    cases hnul

theorem IsCall.spawns {executable : Option String} (hwork : a.stage.work = .external executable)
    (hrefusal : a.refusal? P targets = none) :
    a.Spawns P targets ∧ a.after.shell = a.before.shell := by
  have hshell := h.shell_eq hasked hwork
  rw [refusal?_of_external hwork] at hrefusal
  cases hstart : P.start a.before.shell.machine
      (a.before.streamsFor a.stage a.incoming targets) (executable.getD a.stage.command.name)
      a.stage.command.argv with
  | error reason =>
    rw [hstart] at hrefusal
    cases hrefusal
  | ok state =>
    rw [hstart] at hshell
    exact ⟨⟨executable, state, hwork, hasked, hstart⟩, hshell⟩

/-- The start of a stage adds the report that is due, and no other one. -/
theorem IsCall.reports_eq :
    a.after.events.filterMap Event.report? =
      (a.report? P targets).toList ++ a.before.events.filterMap Event.report? := by
  -- that a link was closed is an event, but not a report
  have hpasses {closed : Option Link} {events : List Event}
      (hpasses : Run.Passes a.before a.stage closed events a.after) :
      a.after.events.filterMap Event.report? =
        events.filterMap Event.report? ++ a.before.events.filterMap Event.report? := by
    rw [hpasses.events_eq, Run.events_closeIncoming, List.filterMap_append,
      List.filterMap_append]
    cases closed <;> rfl
  have hstarts := h.starts
  generalize hresult : a.result = result at hstarts
  generalize hafter : a.after = after at hstarts hpasses ⊢
  cases hstarts with
  | joins hwork hstart hjoins =>
    rw [hjoins.events_eq, report?, refusal?_of_external hwork, hstart]
    rfl
  | isRefused hwork hnul hstart hafter =>
    rw [hpasses hafter, report?, refusal?_of_external hwork, hstart]
    rfl
  | isHandled hwork hshell hafter =>
    rw [hpasses hafter, report?, refusal?_of_builtin hwork]
    rfl
  | isMissing hwork hafter =>
    rw [hpasses hafter, report?, refusal?_of_builtin hwork]
    rfl
  | isMalformed hwork hnul =>
    rw [hasked _ hwork] at hnul
    cases hnul

end StageStart

/-- **Each program that is not started is reported once**, in the order of the stages, and nothing
else is. -/
theorem Reached.reports_eq (hr : IsFresh r) (hasked : ∀ stage ∈ stages, stage.CanBeAsked)
    (hm : Reached P registered targets stages r m) :
    m.run.events.filterMap Event.report? =
      (m.started.filterMap (·.report? P targets)).reverse := by
  induction hm with
  | begin =>
    refine List.filterMap_eq_nil_iff.mpr fun e he ↦ ?_
    rcases hr.events e he with ⟨path, outlet, rfl⟩ | ⟨path, rfl⟩ <;> rfl
  | @start m hm _ stage rest pending ih =>
    obtain ⟨a, hstart, hbefore, -, hstage, hcall⟩ := m.exists_start P registered targets stage rest
    have hmem := (hm.listed hr).mem_of_pending pending
    rw [hstart, hcall.reports_eq (hstage ▸ hasked stage hmem), hbefore, ih, List.filterMap_append,
      List.reverse_append]
    cases hreport : a.report? P targets <;> simp [hreport]
  | @turn m _ t ih =>
    rw [m.events_turn, ih]
    rfl

/-! ## The stages around it -/

/-- The link into a stage that has become no process is closed for good: nobody reads any more what
the stage before it writes. -/
theorem Reached.hasReader_eq_false (hr : IsFresh r)
    (hplaces : ∀ (k : Nat) (stage : Stage), stages[k]? = some stage → stage.IsAt stages.length k)
    (hasked : ∀ stage ∈ stages, stage.CanBeAsked) (hm : Reached P registered targets stages r m)
    {a : StageStart σ} (ha : a ∈ m.started) (hprocess : a.process? = none)
    (hok : a.result.isOk = true) {s : Nat} (hs : a.incoming = some (.stream s)) :
    (m.run.pipe s).hasReader = false := by
  have hstages := Stage.hasHandler_of_isAt hplaces
  have h := hm.recorded hr hstages
  obtain ⟨k, b, hb, hka, hjoined, ho⟩ := h.producer_of_incoming ha hs
  -- what leads into another stage through this pipe is what leads into this one
  have hsame {c : StageStart σ} (hc : c ∈ m.started) (hincoming : c.incoming = some (.stream s)) :
      c = a := by
    obtain ⟨k', b', hb', hkc, hjoined', ho'⟩ := h.producer_of_incoming hc hincoming
    obtain rfl := h.index_eq_of_owns hb hb' (hjoined.owns_output ho) (hjoined'.owns_output ho')
    exact Option.some.inj (hkc.symm.trans hka)
  have hprogram : (m.run.pipe s).programReads = false := by
    obtain ⟨p, hp, hout⟩ :=
      Run.process_of_writes (h.writes_of_joined (List.mem_of_getElem? hb) hjoined ho)
    exact ((hm.sound hr hstages).written _ p s hp hout).programReads_eq
  have hshell : (m.run.pipe s).shellReads = false := by
    by_contra hreads
    rw [Bool.not_eq_false] at hreads
    rcases (hm.tended hr).reads s hreads with ⟨j, c, hc, -, hlink⟩ | hlink | ⟨c, hc, hstrands⟩
    · obtain ⟨d, hd, hjoined', -, hincoming, -⟩ := h.owner_of_feed (Run.feed_of_copy hc)
      obtain rfl := hsame hd (hincoming.trans (congrArg some hlink))
      cases hprocess.symm.trans hjoined'.process?_eq
    · obtain ⟨c, hlast, hout⟩ := Option.bind_eq_some_iff.mp hlink
      have hc := List.mem_of_getLast? hlast
      cases hresult : c.result with
      | error fault =>
        rw [StageStart.outgoing_of_error hresult] at hout
        obtain rfl := hsame hc hout
        rw [hresult] at hok
        cases hok
      | ok answer =>
        have hanswer : c.result.isOk = true := by rw [hresult]; rfl
        obtain ⟨hjoined', ho'⟩ := (h.comes c hc).joined_of_stream hanswer hout
        rw [List.getLast?_eq_getElem?] at hlast
        have hk := h.index_eq_of_owns hb hlast (hjoined.owns_output ho)
          (hjoined'.owns_output ho')
        have hlt := (List.getElem?_eq_some_iff.mp hka).1
        omega
    · exact hstrands.1 (hasked _ (h.mem_stages hc))
  rw [Pipe.hasReader, hshell, hprogram]
  rfl

theorem Run.takeInput_of_empty {i : Nat} (hdata : (r.pipe i).data = ByteArray.empty)
    (hwriter : (r.pipe i).hasWriter = false) (most : Nat) :
    r.takeInput (.pipe i) most = some (ByteArray.empty, r) := by
  rw [takeInput]
  cases hpipe : r.pipes[i]? with
  | none => rfl
  | some q =>
    rw [pipe_eq_of_getElem? hpipe] at hdata hwriter
    have hwaiting : ¬ 0 < q.waiting := by
      rw [Pipe.waiting, hdata]
      exact Nat.not_lt.mpr (Nat.le_of_eq (Nat.zero_sub _))
    simp [hwaiting, hwriter]

/-- A process reads from a pipe that is empty and stays so: the one copy into it has nothing to
carry. It is finished as soon as it has a turn, and then the process is at the end of its input. -/
structure HasEmptyInput (P : Programs σ) (m : Moment σ) (id j : Nat) (c : Copy) : Prop where
  copy_eq : m.run.copies[j]? = some c
  link_eq : c.link = .ready ByteArray.empty
  reads : m.run.layout.Reads id c.pipe
  filled_once : ∀ j' : Nat, m.run.layout.Fills j' c.pipe → j' = j
  not_written : ∀ id' : Nat, ¬ m.run.layout.Writes id' c.pipe
  data_eq : (m.run.pipe c.pipe).data = ByteArray.empty
  received_eq : (m.exchanges id).received = ByteArray.empty
  finishes : ∀ most, ∃ c', (m.run.turn P (.copy j most)).copies[j]? = some c' ∧
    c'.finished = true
  atEnd : c.finished = true →
    ∀ most, m.run.takeInput (.pipe c.pipe) most = some (ByteArray.empty, m.run)

theorem Begins.eq_empty {a : ByteArray} (h : Begins a ByteArray.empty) : a = ByteArray.empty :=
  ByteArray.size_eq_zero_iff.mp (Nat.le_zero.mp h.size_le)

/-- A stage that leaves an empty link gives the process of the next stage an empty input. -/
theorem Reached.hasEmptyInput (hr : IsFresh r)
    (hplaces : ∀ (k : Nat) (stage : Stage), stages[k]? = some stage → stage.IsAt stages.length k)
    (hm : Reached P registered targets stages r m) {k id : Nat} {a b : StageStart σ}
    (ha : m.started[k]? = some a) (hok : a.result.isOk = true)
    (hout : ∀ link, a.outgoing = some link → link = .ready ByteArray.empty)
    (hb : m.started[k + 1]? = some b) (hid : b.process? = some id) :
    ∃ j c, HasEmptyInput P m id j c := by
  have hstages := Stage.hasHandler_of_isAt hplaces
  have h := hm.recorded hr hstages
  have hsound := hm.sound hr hstages
  obtain ⟨j, c, hc, hconveys⟩ := (h.carried hsound hplaces).fed k a b id ha hb hid
  have hlink := hout c.link hconveys.link_eq
  have hproduced : m.produced registered a = ByteArray.empty := by
    rw [← h.available_eq hsound (List.mem_of_getElem? ha) hok hconveys.link_eq, Copy.available,
      hlink]
  -- what was delivered is a beginning of what was made, which is nothing
  have hdata : (m.run.pipe c.pipe).data = ByteArray.empty :=
    (hproduced ▸ hconveys.delivered).eq_empty
  refine ⟨j, c, hc, hlink, hconveys.reads,
    fun j' hj' ↦ h.plumbed.fills_inj hj' (Run.fills_of_copy hc),
    fun id' ↦ h.plumbed.not_writes_of_reads hconveys.reads, hdata,
    (hdata ▸ hconveys.received).eq_empty, fun most ↦ ?_, fun hfinished ↦ ?_⟩
  · refine hm.finishes hr hstages hc (fun s hs ↦ ?_) [.copy j most] ?_
    · cases hlink.symm.trans hs
    · rw [Copy.remaining, hlink, List.countP_singleton, Run.Turn.isOf, beq_self_eq_true, if_pos rfl]
      split_ifs <;> simp
  · obtain ⟨p, hp, hi⟩ := Run.process_of_reads hconveys.reads
    refine Run.takeInput_of_empty hdata ?_
    rw [Pipe.hasWriter, (hconveys.closed hfinished).2, (hsound.read _ p _ hp hi).programWrites_eq]
    rfl

/-! ## All stages at one moment -/

/-- What has become of the stage at a position whose program was not started. -/
structure LeftOut (P : Programs σ) (m : Moment σ) (k : Nat) (a : StageStart σ) (reason : Errno) :
    Prop extends a.IsReported reason where
  /-- The link into it is closed. -/
  closed : 0 < k → .closedLink k ∈ m.run.events
  /-- Nobody reads what the stage before it writes. -/
  unread : ∀ s, linkInto m.started k = some (.stream s) → (m.run.pipe s).hasReader = false
  /-- There is nothing to read for the stage after it. -/
  fed : ∀ b id, m.started[k + 1]? = some b → b.process? = some id →
    ∃ j c, HasEmptyInput P m id j c

/-- What has become of all stages at a moment: those whose programs cannot be started are left out,
and nothing else is. -/
structure LeavesOut (P : Programs σ) (registered : List String) (targets : Run.Targets)
    (stages : List Stage) (m : Moment σ) : Prop where
  /-- The stages are started from the left, each of them once. -/
  in_order : m.started.map (·.stage) <+: stages
  isCall : ∀ a ∈ m.started, a.IsCall P registered targets
  leftOut : ∀ k a reason, m.started[k]? = some a → a.refusal? P targets = some reason →
    LeftOut P m k a reason
  /-- Each of those is reported once. -/
  reports_eq : m.run.events.filterMap Event.report? =
    (m.started.filterMap (·.report? P targets)).reverse
  /-- Every other program is a process, and starting it says nothing. -/
  spawned : ∀ k a executable, m.started[k]? = some a → a.stage.work = .external executable →
    a.refusal? P targets = none →
      a.after.shell = a.before.shell ∧
        ∃ (id : Nat) (p : Process σ), a.process? = some id ∧ m.run.processes[id]? = some p ∧
          p.position = k
  /-- Every handler has run. -/
  handled : ∀ k a handler, m.started[k]? = some a → a.stage.work = .builtin (some handler) →
    .handled k ∈ m.run.events ∧
      (a.result, a.after.shell) =
        Run.outcomeOf registered a.stage handler (Run.targetsFor a.stage targets) a.before.shell

/-- **A program that cannot be started is left out**, at every moment of every schedule. -/
theorem Reached.leavesOut (hr : IsFresh r)
    (hplaces : ∀ (k : Nat) (stage : Stage), stages[k]? = some stage → stage.IsAt stages.length k)
    (hasked : ∀ stage ∈ stages, stage.CanBeAsked) (hm : Reached P registered targets stages r m) :
    LeavesOut P registered targets stages m := by
  have hstages := Stage.hasHandler_of_isAt hplaces
  have h := hm.recorded hr hstages
  have hwords {k : Nat} {a : StageStart σ} (ha : m.started[k]? = some a) : a.stage.CanBeAsked :=
    hasked _ (h.mem_stages (List.mem_of_getElem? ha))
  have hposition {k : Nat} {a : StageStart σ} (ha : m.started[k]? = some a) :
      a.stage.position = k := (h.isAt hplaces ha).position_eq
  constructor
  case in_order => exact ⟨m.pending, h.stages_eq⟩
  case isCall => exact h.isCall
  case leftOut =>
    intro k a reason ha hrefusal
    have hmem := List.mem_of_getElem? ha
    have hreported := (h.isCall a hmem).isReported (hwords ha) hrefusal
    have hok : a.result.isOk = true := by
      rw [hreported.result_eq]
      rfl
    refine ⟨hreported, fun hpos ↦ ?_, fun s hs ↦ ?_, fun b id hb hid ↦ ?_⟩
    · exact (h.closed_iff k).mpr ⟨a, hmem, hreported.process?_eq, hwords ha,
        (h.isSome_incoming hplaces ha).mpr hpos, hposition ha⟩
    · refine hm.hasReader_eq_false hr hplaces hasked hmem hreported.process?_eq hok ?_
      rw [h.incoming_eq k a ha, hs]
    · refine hm.hasEmptyInput hr hplaces ha hok (fun link hlink ↦ ?_) hb hid
      rw [StageStart.outgoing_of_ok hreported.result_eq] at hlink
      dsimp only at hlink
      split_ifs at hlink
      exact (Option.some.inj hlink).symm
  case reports_eq => exact hm.reports_eq hr hasked
  case spawned =>
    intro k a executable ha hwork hrefusal
    have hmem := List.mem_of_getElem? ha
    have hcall := h.isCall a hmem
    obtain ⟨hspawns, hshell⟩ := hcall.spawns (hwords ha) hwork hrefusal
    obtain ⟨id, hid⟩ := hcall.process?_of_spawns hspawns
    obtain ⟨p, hp, hpos⟩ := h.process_of_process? hmem hid
    exact ⟨hshell, id, p, hid, hp, hpos.trans (hposition ha)⟩
  case handled =>
    intro k a handler ha hwork
    have hmem := List.mem_of_getElem? ha
    obtain ⟨houtcome, hover⟩ := (h.comes a hmem).of_builtin hwork
    refine ⟨(h.events_suffix a hmem).subset ?_, houtcome⟩
    rw [hover.events_eq, hposition ha]
    exact List.mem_append_left _ (List.mem_singleton_self _)

/-! ## How a run ends -/

namespace StageStart

/-- The status that is a stage's own: the one for a program that cannot be started, that of its
process, or the one that its handler returns. -/
def ownStatus? (P : Programs σ) (registered : List String) (targets : Run.Targets) (r : Run σ)
    (a : StageStart σ) : Option Int :=
  match a.stage.work with
  | .external _ =>
    match a.refusal? P targets with
    | some _ => some notStartedStatus
    | none => a.process?.bind fun id ↦ r.resolve (.ofProcess id)
  | .builtin none => none
  | .builtin (some handler) =>
    match handler (Run.callOf registered a.stage) a.before.shell with
    | (.returned status _ _, _) => some status
    | (.raised _ _ _, _) => none

variable {a : StageStart σ}

/-- What a stage leaves as its status is its own. -/
theorem IsCall.ownStatus?_eq (h : a.IsCall P registered targets) (hasked : a.stage.CanBeAsked)
    (hhandler : a.stage.work ≠ .builtin none) {link : Option Link} {st : StageStatus}
    (hresult : a.result = .ok (link, st)) (r : Run σ) :
    a.ownStatus? P registered targets r = r.resolve st := by
  cases h.comes hhandler with
  | joined isExternal hjoined =>
    obtain ⟨executable, hwork⟩ := isExternal
    cases hresult.symm.trans hjoined.result_eq
    rw [ownStatus?, hwork]
    cases hrefusal : a.refusal? P targets with
    | some reason =>
      have hreported := h.isReported hasked hrefusal
      cases hjoined.process?_eq.symm.trans hreported.process?_eq
    | none =>
      dsimp only
      rw [hjoined.process?_eq, Option.bind_some]
  | notStarted isExternal _ _ hnot hover =>
    obtain ⟨executable, hwork⟩ := isExternal
    cases hresult.symm.trans hnot
    rw [ownStatus?, hwork]
    cases hrefusal : a.refusal? P targets with
    | some reason => rfl
    | none =>
      obtain ⟨id, hid⟩ := h.process?_of_spawns (h.spawns hasked hwork hrefusal).1
      cases hover.process?_eq.symm.trans hid
  | handled handler hwork houtcome =>
    obtain ⟨status, output, errors, s, hreturned, rfl, -⟩ :=
      returned_of_outcomeOf ((congrArg Prod.fst houtcome).symm.trans hresult)
    simp only [ownStatus?, hwork, hreturned]
    rfl
  | malformed _ hwords => exact absurd hasked hwords

end StageStart

theorem Listed.exists_resolve (h : Listed P registered targets stages m) {a : StageStart σ}
    (ha : a ∈ m.started) {link : Option Link} {st : StageStatus}
    (hresult : a.result = .ok (link, st)) (hdone : m.run.isDone = true) :
    ∃ status, m.run.resolve st = some status := by
  cases st with
  | known status => exact ⟨status, rfl⟩
  | ofProcess id =>
    have hid : a.process? = some id := by rw [StageStart.process?, hresult]
    obtain ⟨p, hp, -⟩ := h.process_of_process? ha hid
    obtain ⟨status, hstatus⟩ :=
      Option.isSome_iff_exists.mp ((Run.isDone_iff.mp hdone).1 id p hp)
    exact ⟨status, by rw [Run.resolve, hp]; exact hstatus⟩

theorem Reached.started_eq (hr : IsFresh r)
    (hplaces : ∀ (k : Nat) (stage : Stage), stages[k]? = some stage → stage.IsAt stages.length k)
    (hasked : ∀ stage ∈ stages, stage.CanBeAsked) (hm : Reached P registered targets stages r m)
    (hstopped : m.IsStopped) (hreturns : ∀ a ∈ m.started, ¬ a.HasRaised registered) :
    m.started.map (·.stage) = stages := by
  have h := hm.recorded hr (Stage.hasHandler_of_isAt hplaces)
  have hall (hpending : m.pending = []) : m.started.map (·.stage) = stages := by
    have heq := h.stages_eq
    rwa [hpending, List.append_nil] at heq
  rcases hstopped with ⟨hpending, -⟩ | ⟨a, fault, hlast, hfault⟩
  · exact hall hpending
  · have hmem := List.mem_of_getLast? hlast
    obtain ⟨_, -, _, _, _, _, _, -, hislast, -⟩ :=
      (h.comes a hmem).isUndelivered (hasked _ (h.mem_stages hmem)) (hreturns a hmem) hfault
    rw [List.getLast?_eq_getElem?] at hlast
    have hlt := (List.getElem?_eq_some_iff.mp hlast).1
    have hlength := (h.isLast_iff hplaces hlast).mp hislast
    have heq := congrArg List.length h.stages_eq
    rw [List.length_append, List.length_map] at heq
    exact hall (List.eq_nil_of_length_eq_zero (by omega))

/-- **A program that cannot be started is a matter of its own stage.** At every moment of every
schedule, the stages whose programs the system did not start are left out, and nothing else is
(`LeavesOut`). If the handlers return, all stages are started, whatever engine runs them. Then the
result is the status of the last stage alone, and the run has one, with enough patience, if the
processes come to their ends. Only if the system refuses what the last builtin said, this is the
end of the run. -/
theorem run_leaves_out (E : Engine σ) (registered : List String) {registry : Registry}
    {machine : Machine} {commands : List Command} {stages : List Stage}
    (hbuild : buildStages registry machine commands = .ok stages)
    (hasked : ∀ stage ∈ stages, stage.CanBeAsked) {redirection : Redirection}
    (hnul : ∀ stream target, redirection.target? stream = some target →
      Path.hasNul target.path = false) (shell : Shell) :
    ∃ r m, Launches E registered stages redirection shell r m ∧
      (∀ m', Reached E.programs registered (targetsOf redirection shell) stages r m' →
        LeavesOut E.programs registered (targetsOf redirection shell) stages m') ∧
      ((∀ a ∈ m.started, ¬ a.HasRaised registered) →
        m.started.map (·.stage) = stages ∧
        ∀ a, m.started.getLast? = some a →
          (∃ cause, a.IsUndelivered registered (targetsOf redirection shell) cause ∧
            ∀ n, (run (E.within n) registered stages redirection shell).1 =
              .error (.system cause)) ∨
          (∀ n status, (run (E.within n) registered stages redirection shell).1 = .ok status →
            a.ownStatus? E.programs registered (targetsOf redirection shell)
              (run (E.within n) registered stages redirection shell).2 = some status) ∧
          ((∃ n, (m.run.settle E.programs n).AllEnded) →
            ∃ enough status, ∀ n, enough ≤ n →
              (run (E.within n) registered stages redirection shell).1 = .ok status)) := by
  have hplaces : ∀ (k : Nat) (stage : Stage), stages[k]? = some stage →
      stage.IsAt stages.length k := fun k stage ↦ Stage.isAt_of_buildStages hbuild
  have hstages := Stage.hasHandler_of_isAt hplaces
  obtain ⟨r, m, hlaunches⟩ := exists_launches E registered stages hnul shell
  have hr := hlaunches.isFresh
  have hm := hlaunches.reached
  have h := hm.recorded hr hstages
  refine ⟨r, m, hlaunches, fun m' hm' ↦ hm'.leavesOut hr hplaces hasked, fun hreturns ↦ ?_⟩
  refine ⟨hm.started_eq hr hplaces hasked hlaunches.isStopped hreturns, fun a hlast ↦ ?_⟩
  have hmem := List.mem_of_getLast? hlast
  have hwords := hasked _ (h.mem_stages hmem)
  cases hresult : a.result with
  | error fault =>
    obtain ⟨cause, rfl, hundelivered⟩ :=
      (h.comes a hmem).isUndelivered hwords (hreturns a hmem) hresult
    refine .inl ⟨cause, hundelivered, fun n ↦ ?_⟩
    rw [hlaunches.run_eq a n hlast, hresult]
  | ok answer =>
    obtain ⟨link, st⟩ := answer
    have hrun (n : Nat) : run (E.within n) registered stages redirection shell =
        ((m.run.settle E.programs n).resultOf st,
          ((m.run.settle E.programs n).cleanUp (linkAfter m.started)).closeFiles) := by
      rw [hlaunches.run_eq a n hlast, hresult]
    refine .inr ⟨fun n status hstatus ↦ ?_, fun ⟨n, hended⟩ ↦ ?_⟩
    · rw [hrun n] at hstatus ⊢
      rw [(h.isCall a hmem).ownStatus?_eq hwords (hstages _ (h.mem_stages hmem)) hresult]
      dsimp only [Run.resultOf] at hstatus
      split_ifs at hstatus
      split at hstatus
      · next hresolve =>
        cases hstatus
        exact Run.resolve_cleanUp hresolve _
      · cases hstatus
    · -- the copies come to their ends after the processes
      obtain ⟨m₁, hm₁, hstarted, -, hsettled⟩ := hm.settle n
      rw [← hsettled] at hended
      obtain ⟨k, hdone⟩ := hm₁.exists_settle_isDone hr hplaces hended
      rw [hsettled, ← Run.settle_add] at hdone
      obtain ⟨m₂, hm₂, hstarted₂, -, hsettled₂⟩ := hm.settle (n + k)
      rw [← hsettled₂] at hdone
      obtain ⟨status, hstatus⟩ :=
        (hm₂.listed hr).exists_resolve (hstarted₂ ▸ hmem) hresult hdone
      refine ⟨n + k, status, fun n' hle ↦ ?_⟩
      rw [hsettled₂] at hdone hstatus
      rw [hrun n', Run.settle_of_le hdone hle, Run.resultOf, if_pos hdone, hstatus]

/-! ### A program that is found, and one that is not -/

/-- An engine on which no program with an argument is found. The others write their input twice. -/
def picky : Engine Twice where
  programs := {
    start := fun _ _ _ argv ↦
      if argv.length = 1 then .ok (.reading ByteArray.empty) else .error .noEntry
    act := twice.programs.act }
  patience := 20

/-- The stages of `/tool -n | /tool`. -/
def toolTool : List Stage :=
  [{ command := ⟨"/tool", ["-n"]⟩, work := .external (some "/tool"), position := 0
     isFirst := true, isLast := false },
   { command := ⟨"/tool", []⟩, work := .external (some "/tool"), position := 1
     isFirst := false, isLast := true }]

/-- The first program is not started. The second one gets nothing to read, and its status is that of
the pipeline. -/
theorem run_leaves_out_toolTool :
    buildStages Standard.registry toolbox [⟨"/tool", ["-n"]⟩, ⟨"/tool", []⟩] = .ok toolTool ∧
    (∀ stage ∈ toolTool, stage.CanBeAsked) ∧
    (∀ stream target, ({} : Redirection).target? stream = some target →
      Path.hasNul target.path = false) ∧
    (run picky Standard.registry.registered toolTool {}
      { machine := toolbox }).1.toOption = some 0 ∧
    (run picky Standard.registry.registered toolTool {}
      { machine := toolbox }).2.shell.machine.errors =
        "shell: /tool: No such file or directory\n".toUTF8 ∧
    ∃ r m a, Launches picky Standard.registry.registered toolTool {} { machine := toolbox } r m ∧
      m.started[0]? = some a ∧ LeftOut picky.programs m 0 a .noEntry ∧
      ∃ b id j c, m.started[1]? = some b ∧ b.process? = some id ∧
        HasEmptyInput picky.programs m id j c := by
  have hbuild : buildStages Standard.registry toolbox [⟨"/tool", ["-n"]⟩, ⟨"/tool", []⟩] =
      .ok toolTool := by
    simp only [buildStages, Stage.buildFrom, workOf_tool]
    rfl
  have hasked : ∀ stage ∈ toolTool, stage.CanBeAsked := by
    intro stage hstage executable hwork
    simp only [toolTool, List.mem_cons, List.not_mem_nil, or_false] at hstage
    rcases hstage with rfl | rfl <;> cases hwork <;> decide +kernel
  have hnul : ∀ stream target, ({} : Redirection).target? stream = some target →
      Path.hasNul target.path = false := by
    intro stream target htarget
    cases stream <;> cases htarget
  refine ⟨hbuild, hasked, hnul, by decide +kernel, by decide +kernel, ?_⟩
  obtain ⟨r, m, hlaunches, hleaves, hends⟩ :=
    run_leaves_out picky Standard.registry.registered hbuild hasked hnul { machine := toolbox }
  have hnow := hleaves m hlaunches.reached
  have hreturns : ∀ a ∈ m.started, ¬ a.HasRaised Standard.registry.registered := by
    rintro a ha ⟨handler, _, _, _, _, hwork, -⟩
    have hstage := hnow.in_order.subset (List.mem_map_of_mem ha)
    simp only [toolTool, List.mem_cons, List.not_mem_nil, or_false] at hstage
    rcases hstage with hstage | hstage <;> rw [hstage] at hwork <;> cases hwork
  obtain ⟨a, later, hab, ha, hlater⟩ := List.map_eq_cons_iff.mp (hends hreturns).1
  obtain ⟨b, last, rfl, hb, -⟩ := List.map_eq_cons_iff.mp hlater
  have hfirst : m.started[0]? = some a := by rw [hab]; rfl
  have hsecond : m.started[1]? = some b := by rw [hab]; rfl
  have hrefusal : a.refusal? picky.programs (targetsOf {} { machine := toolbox }) =
      some .noEntry := by
    rw [StageStart.refusal?, ha]
    rfl
  have hstarts : b.refusal? picky.programs (targetsOf {} { machine := toolbox }) = none := by
    rw [StageStart.refusal?, hb]
    rfl
  have hleft := hnow.leftOut 0 a .noEntry hfirst hrefusal
  obtain ⟨-, id, -, hid, -⟩ := hnow.spawned 1 b (some "/tool") hsecond (by rw [hb]) hstarts
  obtain ⟨j, c, hempty⟩ := hleft.fed b id hsecond hid
  exact ⟨r, m, a, hlaunches, hfirst, hleft, b, id, j, c, hsecond, hid, hempty⟩

/-- A machine with one program and a device that has no room. -/
def roomlessToolbox : Machine where
  files := { nodes := #[.directory 0 [("dev", 1), ("tool", 3)], .directory 0 [("full", 2)],
    .device .full, .file 0o755 ByteArray.empty] }

/-- The stages of `/tool -n | echo hi`. -/
def unstartedEcho : List Stage :=
  [{ command := ⟨"/tool", ["-n"]⟩, work := .external (some "/tool"), position := 0
     isFirst := true, isLast := false },
   { command := ⟨"echo", ["hi"]⟩, work := .builtin (some Standard.echo), position := 1
     isFirst := false, isLast := true }]

theorem openOutlet_roomlessToolbox : roomlessToolbox.openOutlet "/dev/full" false =
    .ok ({ roomlessToolbox with
      files := (roomlessToolbox.files.addOpen 2 (.writing false)).1 }, .file 0) := by
  have hfind : roomlessToolbox.files.find roomlessToolbox.cwd "/dev/full" = .ok 2 :=
    FileSystem.find_of_leads 0 ["dev", "full"] (by decide +kernel)
      (.node rfl nofun (.node rfl nofun (.nil 2))) (by decide)
  simp only [Machine.openOutlet, FileSystem.descriptorNamed?, FileSystem.lookUp, hfind,
    FileSystem.openFile, FileSystem.find_eq_ok_iff_locate.mp hfind]
  rfl

/-- The result is not always the status of the last stage: what its handler said may be refused. -/
theorem run_unstarted_without_room :
    buildStages Standard.registry roomlessToolbox [⟨"/tool", ["-n"]⟩, ⟨"echo", ["hi"]⟩] =
      .ok unstartedEcho ∧
    (∀ stage ∈ unstartedEcho, stage.CanBeAsked) ∧
    Path.hasNul "/dev/full" = false ∧
    (∀ call s, ∃ output, Standard.echo call s = (.returned 0 output "", s)) ∧
    (run noPrograms Standard.registry.registered unstartedEcho
      { output := some ⟨"/dev/full", false⟩ } { machine := roomlessToolbox }).1 =
        .error (.system .noSpace) := by
  have hbuild : buildStages Standard.registry roomlessToolbox
      [⟨"/tool", ["-n"]⟩, ⟨"echo", ["hi"]⟩] = .ok unstartedEcho := by
    have hfind : roomlessToolbox.files.find roomlessToolbox.cwd "/tool" = .ok 3 :=
      FileSystem.find_of_leads 0 ["tool"] (by decide +kernel) (.node rfl nofun (.nil 3)) (by decide)
    have hlook : roomlessToolbox.files.lookUp roomlessToolbox.cwd "/tool" =
        .ok (3, .file 0o755 ByteArray.empty) := FileSystem.lookUp_eq_ok_iff.mpr ⟨hfind, rfl⟩
    have hecho : Stage.workOf Standard.registry roomlessToolbox "echo" =
        .ok (.builtin (some Standard.echo)) := rfl
    simp only [buildStages, Stage.buildFrom, workOf_of_lookUp hlook, hecho]
    rfl
  have hasked : ∀ stage ∈ unstartedEcho, stage.CanBeAsked := by
    intro stage hstage executable hwork
    simp only [unstartedEcho, List.mem_cons, List.not_mem_nil, or_false] at hstage
    rcases hstage with rfl | rfl
    · cases hwork
      decide +kernel
    · cases hwork
  have hnul : Path.hasNul "/dev/full" = false := by decide +kernel
  have hwords : ("/tool" :: (⟨"/tool", ["-n"]⟩ : Command).argv).any Path.hasNul = false := by
    decide +kernel
  refine ⟨hbuild, hasked, hnul, fun call s ↦ ⟨_, rfl⟩, ?_⟩
  simp only [run, Run.openTarget, hnul, Bool.false_eq_true, if_false, openOutlet_roomlessToolbox,
    runStages, unstartedEcho, Run.startAll, Run.startStage, Run.startExternal, hwords,
    Option.getD_some]
  rfl

end CommandShell.Pipeline

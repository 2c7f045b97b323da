import CommandShell.Proofs.Pipeline.Fold
import CommandShell.Proofs.Pipeline.Frame
import CommandShell.Proofs.Pipeline.Layout

/-!
# What the start of a stage does

A stage either joins the run as a process (`Joins`), or it is over at once and the run goes on
without it (`Passes`): a builtin, or a program that the system does not start. Only a text with a
NUL character keeps a program from being asked for at all. `Starts` is that list of outcomes, and it
says of each of them what the stage leaves behind.

The numbers of the pipes that a process gets are known beforehand: they are the next ones to be
made, first the one for its output, then the one for its input.
-/

namespace CommandShell.Pipeline

open CommandShell.Host CommandShell.Line

variable {σ : Type}

theorem getElem?_push_eq_some {α : Type} {xs : Array α} {x y : α} {i : Nat} :
    (xs.push x)[i]? = some y ↔ xs[i]? = some y ∨ xs.size = i ∧ x = y := by
  rw [Array.getElem?_push]
  split_ifs with h
  · simp [h]
  · simp [Ne.symm h]

namespace Run

/-! ## Changes of a run, pipe by pipe -/

theorem pipe_addPipe (r : Run σ) (q : Pipe) (i : Nat) :
    (r.addPipe q).1.pipe i = if i = r.pipes.size then q else r.pipe i := by
  rw [pipe, addPipe, Array.getElem?_push]
  split <;> rfl

@[simp] theorem pipe_note (r : Run σ) (e : Event) (i : Nat) : (r.note e).pipe i = r.pipe i := rfl

theorem pipe_closeLink (r : Run σ) (link : Link) (i : Nat) :
    (r.closeLink link).pipe i =
      match link with
      | .stream s => if i = s then { r.pipe i with shellReads := false } else r.pipe i
      | .ready _ => r.pipe i := by
  cases link with
  | stream s => exact pipe_changePipe rfl r i s
  | ready bytes => rfl

theorem shellReads_closeLink (r : Run σ) (link : Link) (i : Nat) :
    ((r.closeLink link).pipe i).shellReads = true ↔
      (r.pipe i).shellReads = true ∧ link ≠ .stream i := by
  rw [pipe_closeLink]
  cases link with
  | stream s =>
    by_cases hs : i = s
    · simp [hs]
    · simp [hs, Ne.symm hs]
  | ready bytes => simp

@[simp] theorem shellWrites_closeLink (r : Run σ) (link : Link) (i : Nat) :
    ((r.closeLink link).pipe i).shellWrites = (r.pipe i).shellWrites := by
  rw [pipe_closeLink]
  cases link with
  | stream s => dsimp only; split <;> rfl
  | ready bytes => rfl

theorem shellReads_closeIncoming (r : Run σ) (position : Nat) (incoming : Option Link) (i : Nat) :
    ((r.closeIncoming position incoming).pipe i).shellReads = true ↔
      (r.pipe i).shellReads = true ∧ incoming ≠ some (.stream i) := by
  cases incoming with
  | none => simp [closeIncoming]
  | some link => rw [closeIncoming, pipe_note, shellReads_closeLink, ne_eq, ne_eq, Option.some_inj]

@[simp] theorem shellWrites_closeIncoming (r : Run σ) (position : Nat) (incoming : Option Link)
    (i : Nat) :
    ((r.closeIncoming position incoming).pipe i).shellWrites = (r.pipe i).shellWrites := by
  cases incoming with
  | none => rfl
  | some link => exact shellWrites_closeLink r link i

/-! ## What a stage is given -/

/-- The pipe that a stage writes to if it becomes a process, unless it is the last one. -/
def outputPipe? (r : Run σ) (stage : Stage) : Option Nat :=
  if stage.isLast then none else some r.pipes.size

/-- The pipe that a stage reads from if it becomes a process and a link leads into it. -/
def inputPipe (r : Run σ) (stage : Stage) : Nat :=
  r.pipes.size + if stage.isLast then 0 else 1

/-- Only the last stage is given what the redirection opened. -/
def targetsFor (stage : Stage) (targets : Targets) : Targets :=
  if stage.isLast then targets else {}

/-- The streams that a stage is given if it becomes a process. -/
def streamsFor (r : Run σ) (stage : Stage) (incoming : Option Link) (targets : Targets) :
    Streams where
  input := match incoming with
    | some _ => .pipe (r.inputPipe stage)
    | none => .shellInput
  output := match r.outputPipe? stage with
    | some o => .pipe o
    | none => sinkOr (targetsFor stage targets).output .output
  errors := sinkOr (targetsFor stage targets).errors .errors

@[simp] theorem outputPipe?_of_isLast (r : Run σ) {stage : Stage} (h : stage.isLast = true) :
    r.outputPipe? stage = none := by
  rw [outputPipe?, if_pos h]

@[simp] theorem outputPipe?_of_not_isLast (r : Run σ) {stage : Stage} (h : stage.isLast = false) :
    r.outputPipe? stage = some r.pipes.size := by
  rw [outputPipe?, if_neg (by simp [h])]

theorem ne_of_outputPipe? {r : Run σ} {stage : Stage} {i o : Nat}
    (h : r.outputPipe? stage = some o) (hi : i < r.pipes.size) : i ≠ o := by
  unfold outputPipe? at h
  split at h
  · cases h
  · cases h
    exact Nat.ne_of_lt hi

theorem addOutputPipe_snd (r : Run σ) (stage : Stage) :
    (r.addOutputPipe stage).2 = r.outputPipe? stage := by
  unfold addOutputPipe outputPipe?
  split <;> rfl

theorem size_addOutputPipe (r : Run σ) (stage : Stage) :
    (r.addOutputPipe stage).1.pipes.size = r.inputPipe stage := by
  unfold addOutputPipe inputPipe
  split
  · rfl
  · simp [addPipe]

theorem pipe_addOutputPipe (r : Run σ) (stage : Stage) {i : Nat} (hi : i < r.pipes.size) :
    (r.addOutputPipe stage).1.pipe i = r.pipe i := by
  unfold addOutputPipe
  split
  · rfl
  · rw [pipe_addPipe, if_neg (Nat.ne_of_lt hi)]

theorem pipe_addOutputPipe_of_le (r : Run σ) (stage : Stage) {i : Nat} (hi : r.pipes.size ≤ i) :
    (r.addOutputPipe stage).1.pipe i =
      if r.outputPipe? stage = some i then { shellReads := true, shellWrites := true } else {} := by
  unfold addOutputPipe outputPipe?
  split
  · rw [if_neg (by nofun), pipe_of_le hi]
  · simp only [pipe_addPipe, Option.some_inj, eq_comm (a := i), pipe_of_le hi]

theorem parts_addOutputPipe (r : Run σ) (stage : Stage) :
    (r.addOutputPipe stage).1.shell = r.shell ∧
      (r.addOutputPipe stage).1.processes = r.processes ∧
      (r.addOutputPipe stage).1.copies = r.copies ∧
      (r.addOutputPipe stage).1.events = r.events := by
  unfold addOutputPipe
  split <;> exact ⟨rfl, rfl, rfl, rfl⟩

theorem streamsOf_addOutputPipe (r : Run σ) (stage : Stage) (incoming : Option Link)
    (targets : Targets) :
    (r.addOutputPipe stage).1.streamsOf incoming (r.outputPipe? stage)
      (targetsFor stage targets) = r.streamsFor stage incoming targets := by
  cases incoming <;> cases houtput : r.outputPipe? stage <;>
    simp only [streamsOf, streamsFor, size_addOutputPipe, houtput]

/-- How the handler of a builtin stage is called. -/
def callOf (registered : List String) (stage : Stage) : Call where
  args := stage.command.arguments
  inPipeline := !(stage.isFirst && stage.isLast)
  registered := registered

/-- What comes of a builtin stage, and the shell as it leaves it: what its handler said is delivered
by the last stage, and handed on by any other. -/
def outcomeOf (registered : List String) (stage : Stage)
    (handler : Call → Shell → Reply × Shell) (targets : Targets) (s : Shell) :
    Except Fault Started × Shell :=
  match handler (callOf registered stage) s with
  | (.raised fault _ _, s) => (.error fault, s)
  | (.returned status output errors, s) =>
    if stage.isLast then
      let delivered := (Returned.mk status output errors s).deliver targets.output targets.errors
      (delivered.1.map fun status ↦ (none, .known status), delivered.2)
    else (.ok (some (.ready output.toUTF8), .known status), s.printError errors)

/-! ## Outcomes -/

/-- A stage has joined a run as a process. -/
structure Joins (r : Run σ) (stage : Stage) (incoming : Option Link) (streams : Streams)
    (state : σ) (after : Run σ) : Prop where
  processes_eq : after.processes =
    r.processes.push { position := stage.position, state, streams }
  copies_eq : after.copies =
    match incoming with
    | none => r.copies
    | some link => r.copies.push { link, pipe := r.inputPipe stage }
  size_eq : after.pipes.size = r.inputPipe stage + if incoming.isSome then 1 else 0
  pipe_eq : ∀ i < r.pipes.size, after.pipe i = r.pipe i
  pipe_output : ∀ o, r.outputPipe? stage = some o →
    after.pipe o = { shellReads := true, programWrites := true }
  pipe_input : incoming.isSome = true →
    after.pipe (r.inputPipe stage) = { shellWrites := true, programReads := true }
  events_eq : after.events = .started stage.position r.processes.size :: r.events

namespace Joins

variable {r after : Run σ} {stage : Stage} {incoming : Option Link} {streams : Streams} {state : σ}
  (h : Joins r stage incoming streams state after)
include h

theorem processes_iff (id : Nat) (p : Process σ) :
    after.processes[id]? = some p ↔ r.processes[id]? = some p ∨
      r.processes.size = id ∧ { position := stage.position, state, streams } = p := by
  rw [h.processes_eq, getElem?_push_eq_some]

theorem copies_iff (j : Nat) (c : Copy) :
    after.copies[j]? = some c ↔ r.copies[j]? = some c ∨ r.copies.size = j ∧
      ∃ link, incoming = some link ∧ { link, pipe := r.inputPipe stage } = c := by
  rw [h.copies_eq]
  cases incoming with
  | none => simp
  | some link => simp [getElem?_push_eq_some]

/-- A number that no pipe had is that of the output, or of the input, or still of no pipe. -/
theorem pipe_new {i : Nat} (hi : r.pipes.size ≤ i) :
    r.outputPipe? stage = some i ∨ (incoming.isSome = true ∧ r.inputPipe stage = i) ∨
      after.pipe i = {} := by
  by_cases hout : r.outputPipe? stage = some i
  · exact .inl hout
  · right
    by_cases hlt : i < after.pipes.size
    · left
      have hpast : r.inputPipe stage ≤ i := by
        unfold outputPipe? at hout
        unfold inputPipe
        split_ifs at hout ⊢
        · exact hi
        · exact Nat.lt_of_le_of_ne hi (hout ∘ congrArg some)
      rw [h.size_eq] at hlt
      split_ifs at hlt with hlink
      · exact ⟨hlink, by omega⟩
      · omega
    · exact .inr (pipe_of_le (Nat.not_lt.mp hlt))

end Joins

/-- A stage is over at once, with certain events, and has only closed the link into it. -/
structure Passes (r : Run σ) (stage : Stage) (incoming : Option Link) (events : List Event)
    (after : Run σ) : Prop where
  processes_eq : after.processes = r.processes
  copies_eq : after.copies = r.copies
  size_le : r.pipes.size ≤ after.pipes.size
  pipe_eq : ∀ i < r.pipes.size,
    after.pipe i = (r.closeIncoming stage.position incoming).pipe i
  events_eq : after.events = events ++ (r.closeIncoming stage.position incoming).events

/-- Of the pipes that are new in a run, the shell holds no end to write to, and at most one to read
from. -/
def HoldsOfNew (r after : Run σ) (end? : Option Nat) : Prop :=
  ∀ i, r.pipes.size ≤ i →
    (after.pipe i).shellWrites = false ∧ ((after.pipe i).shellReads = true ↔ end? = some i)

/-- What can come of the start of a stage: the answer, and the run after it. -/
inductive Starts (P : Programs σ) (registered : List String) (r : Run σ) (stage : Stage)
    (incoming : Option Link) (targets : Targets) : Except Fault Started → Run σ → Prop
  | joins {executable : Option String} {state : σ} {after : Run σ}
      (hwork : stage.work = .external executable)
      (hstart : P.start r.shell.machine (r.streamsFor stage incoming targets)
        (executable.getD stage.command.name) stage.command.argv = .ok state)
      (hafter : Joins r stage incoming (r.streamsFor stage incoming targets) state after)
      (hnul : (executable.getD stage.command.name :: stage.command.argv).any Path.hasNul = false) :
      Starts P registered r stage incoming targets
        (.ok ((r.outputPipe? stage).map .stream, .ofProcess r.processes.size)) after
  | isRefused {executable : Option String} {reason : Errno} {after : Run σ}
      (hwork : stage.work = .external executable)
      (hnul : (executable.getD stage.command.name :: stage.command.argv).any Path.hasNul = false)
      (hstart : P.start r.shell.machine (r.streamsFor stage incoming targets)
        (executable.getD stage.command.name) stage.command.argv = .error reason)
      (hafter : Passes r stage incoming [.notStarted stage.position reason] after)
      (hnew : HoldsOfNew r after none) :
      Starts P registered r stage incoming targets
        (.ok (if stage.isLast then none else some (.ready ByteArray.empty),
          .known notStartedStatus)) after
  | isHandled {handler : Call → Shell → Reply × Shell} {after : Run σ}
      (hwork : stage.work = .builtin (some handler))
      (hshell : after.shell =
        (outcomeOf registered stage handler (targetsFor stage targets) r.shell).2)
      (hafter : Passes r stage incoming [.handled stage.position] after)
      (hnew : HoldsOfNew r after none) :
      Starts P registered r stage incoming targets
        (outcomeOf registered stage handler (targetsFor stage targets) r.shell).1 after
  | isMissing {after : Run σ} (hwork : stage.work = .builtin none)
      (hafter : Passes r stage incoming [] after) (hnew : HoldsOfNew r after none) :
      Starts P registered r stage incoming targets (.error (.noHandler stage.command.name)) after
  | isMalformed {executable : Option String} {after : Run σ}
      (hwork : stage.work = .external executable)
      (hnul : (executable.getD stage.command.name :: stage.command.argv).any Path.hasNul = true)
      (hafter : Passes r stage none [] after)
      (hnew : HoldsOfNew r after (r.outputPipe? stage)) :
      Starts P registered r stage incoming targets (.error .embeddedNul) after

/-! ## Starting a program -/

theorem joins_addProcess (r : Run σ) (stage : Stage) (state : σ) (incoming : Option Link)
    (streams : Streams) :
    Joins r stage incoming streams state
      (((r.addOutputPipe stage).1.addProcess stage state incoming (r.outputPipe? stage)
        streams).closeWriteEnd (r.outputPipe? stage)) := by
  cases hlast : stage.isLast <;> cases incoming <;> constructor <;>
    simp [addOutputPipe, hlast, addPipe, addProcess, closeWriteEnd, changePipe, note, outputPipe?,
      inputPipe, pipe, Array.getElem?_modify, Array.getElem?_push, Array.getElem_modify,
      Array.getElem_push]
  -- what is left is that the pipes there were are not the new ones
  all_goals
    intro i hi
    simp [hi, Nat.ne_of_gt hi, Nat.ne_of_lt hi, Nat.ne_of_lt (Nat.lt_succ_of_lt hi)]

/-! ## What passes -/

theorem pipe_closeIncoming_congr {r r' : Run σ} {i : Nat} (h : r'.pipe i = r.pipe i)
    (position : Nat) (incoming : Option Link) :
    (r'.closeIncoming position incoming).pipe i = (r.closeIncoming position incoming).pipe i := by
  cases incoming with
  | none => exact h
  | some link => simp only [closeIncoming, pipe_note, pipe_closeLink, h]

theorem parts_closeIncoming (r : Run σ) (position : Nat) (incoming : Option Link) :
    (r.closeIncoming position incoming).processes = r.processes ∧
      (r.closeIncoming position incoming).copies = r.copies ∧
      (r.closeIncoming position incoming).pipes.size = r.pipes.size := by
  rcases incoming with _ | _ | _
  · exact ⟨rfl, rfl, rfl⟩
  · exact ⟨rfl, rfl, Array.size_modify ..⟩
  · exact ⟨rfl, rfl, rfl⟩

theorem events_closeIncoming (r : Run σ) (position : Nat) (incoming : Option Link) :
    (r.closeIncoming position incoming).events =
      (incoming.map fun _ ↦ Event.closedLink position).toList ++ r.events := by
  rcases incoming with _ | _ | _ <;> rfl

namespace Passes

variable {r after : Run σ} {stage : Stage} {incoming : Option Link} {events : List Event}

theorem closeIncoming {r' : Run σ} (hprocesses : r'.processes = r.processes)
    (hcopies : r'.copies = r.copies) (hsize : r.pipes.size ≤ r'.pipes.size)
    (hpipe : ∀ i < r.pipes.size, r'.pipe i = r.pipe i) (hevents : r'.events = r.events) :
    Passes r stage incoming [] (r'.closeIncoming stage.position incoming) := by
  obtain ⟨hp, hc, hs⟩ := r'.parts_closeIncoming stage.position incoming
  refine ⟨hp.trans hprocesses, hc.trans hcopies, hs ▸ hsize,
    fun i hi ↦ pipe_closeIncoming_congr (hpipe i hi) _ _, ?_⟩
  rw [events_closeIncoming, events_closeIncoming, hevents, List.nil_append]

theorem note (h : Passes r stage incoming events after) (e : Event) :
    Passes r stage incoming (e :: events) (after.note e) :=
  ⟨h.processes_eq, h.copies_eq, h.size_le, h.pipe_eq, congrArg (e :: ·) h.events_eq⟩

theorem forgetReadEnd (h : Passes r stage incoming events after) (pipe : Option Nat) :
    Passes r stage incoming events (after.forgetReadEnd pipe) := by
  cases pipe <;> exact ⟨h.processes_eq, h.copies_eq, h.size_le, h.pipe_eq, h.events_eq⟩

theorem withShell (h : Passes r stage incoming events after) (s : Shell) :
    Passes r stage incoming events { after with shell := s } :=
  ⟨h.processes_eq, h.copies_eq, h.size_le, h.pipe_eq, h.events_eq⟩

theorem changeOutput (h : Passes r stage incoming events after) {o : Nat}
    (ho : r.outputPipe? stage = some o) (f : Pipe → Pipe) :
    Passes r stage incoming events (after.changePipe o f) := by
  refine ⟨h.processes_eq, h.copies_eq, ?_, fun i hi ↦ ?_, h.events_eq⟩
  · rw [changePipe, Array.size_modify]
    exact h.size_le
  · rw [pipe_changePipe_of_ne after f (ne_of_outputPipe? ho hi), h.pipe_eq i hi]

theorem closeWriteEnd (h : Passes r stage incoming events after) :
    Passes r stage incoming events (after.closeWriteEnd (r.outputPipe? stage)) := by
  cases ho : r.outputPipe? stage with
  | none => exact h
  | some o => exact h.changeOutput ho _

end Passes

/-! ## Pipes of stages that pass -/

theorem pipe_closeWriteEnd (r : Run σ) (pipe : Option Nat) (i : Nat) :
    (r.closeWriteEnd pipe).pipe i =
      if pipe = some i then { r.pipe i with shellWrites := false } else r.pipe i := by
  cases pipe with
  | none => rfl
  | some o =>
    rw [closeWriteEnd, pipe_changePipe rfl]
    simp only [Option.some_inj, eq_comm]

@[simp] theorem pipe_forgetReadEnd (r : Run σ) (pipe : Option Nat) (i : Nat) :
    (r.forgetReadEnd pipe).pipe i = r.pipe i := by
  cases pipe <;> rfl

theorem holdsOfNew_closeIncoming (r : Run σ) (position : Nat) (incoming : Option Link) :
    HoldsOfNew r (r.closeIncoming position incoming) none := by
  intro i hi
  rw [pipe_of_le (by rw [(r.parts_closeIncoming position incoming).2.2]; exact hi)]
  exact ⟨rfl, by simp⟩

theorem holdsOfNew_closeWriteEnd (r : Run σ) (stage : Stage) :
    HoldsOfNew r ((r.addOutputPipe stage).1.closeWriteEnd (r.outputPipe? stage))
      (r.outputPipe? stage) := by
  intro i hi
  rw [pipe_closeWriteEnd, pipe_addOutputPipe_of_le r stage hi]
  split_ifs with ho
  · exact ⟨rfl, iff_of_true rfl ho⟩
  · exact ⟨rfl, iff_of_false (by simp) ho⟩

/-- Both ends are closed of the pipe that a program would have written to. -/
theorem holdsOfNew_notStarted (r : Run σ) (stage : Stage) (incoming : Option Link) :
    HoldsOfNew r
      (((match r.outputPipe? stage with
        | some o => (r.addOutputPipe stage).1.closeLink (.stream o)
        | none => (r.addOutputPipe stage).1).closeIncoming stage.position incoming).closeWriteEnd
          (r.outputPipe? stage)) none := by
  intro i hi
  have hnew := r.pipe_addOutputPipe_of_le stage hi
  rw [pipe_closeWriteEnd]
  cases ho : r.outputPipe? stage with
  | none =>
    rw [ho, if_neg (by nofun)] at hnew
    rw [if_neg (by nofun), shellWrites_closeIncoming, shellReads_closeIncoming, hnew]
    simp
  | some o =>
    rw [ho] at hnew
    have hreads : ¬ ((((r.addOutputPipe stage).1.closeLink (.stream o)).closeIncoming stage.position
        incoming).pipe i).shellReads = true := by
      rw [shellReads_closeIncoming, shellReads_closeLink, hnew]
      rintro ⟨⟨hreads, hne⟩, -⟩
      split_ifs at hreads with hoi
      exact hne (congrArg Link.stream (Option.some.inj hoi))
    dsimp only
    split_ifs with hoi
    · exact ⟨rfl, iff_of_false hreads nofun⟩
    · rw [shellWrites_closeIncoming, shellWrites_closeLink, hnew, if_neg hoi]
      exact ⟨rfl, iff_of_false hreads nofun⟩

/-- A program that is not started leaves a report, and a pipe that nobody knows of. -/
theorem startExternal_starts (P : Programs σ) (registered : List String) (r : Run σ) (stage : Stage)
    {executable : Option String} (hwork : stage.work = .external executable)
    (incoming : Option Link) (targets : Targets) :
    Starts P registered r stage incoming targets
      (r.startExternal P stage executable incoming (targetsFor stage targets)).1
      (r.startExternal P stage executable incoming (targetsFor stage targets)).2 := by
  obtain ⟨hshell, hprocesses, hcopies, hevents⟩ := r.parts_addOutputPipe stage
  have hsize : r.pipes.size ≤ (r.addOutputPipe stage).1.pipes.size := by
    rw [size_addOutputPipe, inputPipe]
    exact Nat.le_add_right ..
  have hpipe := fun i (hi : i < r.pipes.size) ↦ r.pipe_addOutputPipe stage hi
  unfold startExternal
  simp only [addOutputPipe_snd, streamsOf_addOutputPipe, hshell, hprocesses]
  split
  · next hnul =>
    refine .isMalformed hwork hnul ?_ fun i hi ↦ ?_
    · exact
        (Passes.closeIncoming hprocesses hcopies hsize hpipe hevents).closeWriteEnd.forgetReadEnd _
    · rw [pipe_forgetReadEnd]
      exact r.holdsOfNew_closeWriteEnd stage i hi
  · next hnul =>
    rw [Bool.not_eq_true] at hnul
    split
    · next state hstart => exact .joins hwork hstart (joins_addProcess ..) hnul
    · next reason hstart =>
      refine .isRefused hwork hnul hstart (((Passes.closeWriteEnd ?_).withShell _).note _)
        fun i hi ↦ ?_
      -- the pipe for the output is given up before the link into the stage is closed
      · cases ho : r.outputPipe? stage with
        | none => exact .closeIncoming hprocesses hcopies hsize hpipe hevents
        | some o =>
          refine .closeIncoming hprocesses hcopies ?_ (fun i hi ↦ ?_) hevents
          · change _ ≤ (changePipe _ o _).pipes.size
            rw [changePipe, Array.size_modify]
            exact hsize
          · rw [pipe_closeLink]
            dsimp only
            rw [if_neg (ne_of_outputPipe? ho hi), hpipe i hi]
      · exact r.holdsOfNew_notStarted stage incoming i hi

/-! ## Running a builtin -/

theorem deliver_outlet (r : Run σ) (o : Outlet) (text : String) :
    r.deliver (.outlet o) text =
      ((r.shell.deliver o text).1, { r with shell := (r.shell.deliver o text).2 }) := by
  unfold deliver Shell.deliver
  split_ifs with htext
  · rfl
  · rw [write]
    rcases r.shell.machine.write o text.toUTF8 with ⟨_ | _, machine⟩ <;> rfl

theorem runBuiltin_eq (r : Run σ) (registered : List String) (stage : Stage)
    (handler : Call → Shell → Reply × Shell) (incoming : Option Link) (targets : Targets) :
    r.runBuiltin registered stage (some handler) incoming (targetsFor stage targets) =
      ((outcomeOf registered stage handler (targetsFor stage targets) r.shell).1,
        { (r.closeIncoming stage.position incoming).note (.handled stage.position) with
          shell := (outcomeOf registered stage handler (targetsFor stage targets) r.shell).2 }) := by
  unfold runBuiltin outcomeOf
  simp only [shell_note, shell_closeIncoming]
  rw [← callOf]
  generalize handler _ r.shell = answer
  obtain ⟨reply, s⟩ := answer
  cases reply with
  | raised fault output errors => rfl
  | returned status output errors =>
    simp only [sinkOr, deliver_outlet]
    cases hlast : stage.isLast with
    | true =>
      simp only [if_true, Returned.deliver]
      rcases s.deliver ((targetsFor stage targets).errors.getD .errors) errors with ⟨_ | _, said⟩
      · rfl
      · dsimp only
        rcases said.deliver ((targetsFor stage targets).output.getD .output) output
          with ⟨_ | _, delivered⟩ <;> rfl
    | false =>
      simp only [targetsFor, hlast, Bool.false_eq_true, if_false, Option.getD_none,
        Shell.deliver_errors]

theorem runBuiltin_starts (P : Programs σ) (registered : List String) (r : Run σ) (stage : Stage)
    {handler : Option (Call → Shell → Reply × Shell)} (hwork : stage.work = .builtin handler)
    (incoming : Option Link) (targets : Targets) :
    Starts P registered r stage incoming targets
      (r.runBuiltin registered stage handler incoming (targetsFor stage targets)).1
      (r.runBuiltin registered stage handler incoming (targetsFor stage targets)).2 := by
  have hpasses : Passes r stage incoming [] (r.closeIncoming stage.position incoming) :=
    .closeIncoming rfl rfl (Nat.le_refl _) (fun _ _ ↦ rfl) rfl
  cases handler with
  | none => exact .isMissing hwork hpasses (r.holdsOfNew_closeIncoming _ _)
  | some handler =>
    rw [runBuiltin_eq]
    exact .isHandled hwork rfl ((hpasses.note _).withShell _) (r.holdsOfNew_closeIncoming _ _)

/-- **What can come of the start of a stage.** -/
theorem startStage_starts (P : Programs σ) (registered : List String) (r : Run σ) (stage : Stage)
    (incoming : Option Link) (targets : Targets) :
    Starts P registered r stage incoming targets
      (r.startStage P registered stage incoming targets).1
      (r.startStage P registered stage incoming targets).2 := by
  unfold startStage
  dsimp only
  split
  · next hwork => exact startExternal_starts P registered r stage hwork incoming targets
  · next hwork => exact runBuiltin_starts P registered r stage hwork incoming targets

end Run

end CommandShell.Pipeline

import CommandShell.Pipeline.Execution

/-!
# The books of a run

A run keeps two books that no stage, process or copy ever looks into: what was opened for it, and
what has happened. They are filled while the targets of the redirection are opened, and the first of
them is read when the files are closed; whatever happens between, happens in the same way if the
books are others (`runStages_rebase`). So two runs of the same stages that differ in nothing but
what has happened before end alike (`Run.Alike.runStages`), and no move changes the book of what was
opened (`Run.opened_eq_of_rebase`).
-/

namespace CommandShell.Pipeline

open CommandShell.Host CommandShell.Line

variable {σ : Type}

namespace Run

/-- The run with another book of what was opened for it, and with more that happened before. -/
def rebase (r : Run σ) (opened : List Outlet) (past : List Event) : Run σ :=
  { r with opened, events := r.events ++ past }

variable (r : Run σ) (opened : List Outlet) (past : List Event)

@[simp] theorem shell_rebase : (r.rebase opened past).shell = r.shell := rfl

@[simp] theorem pipes_rebase : (r.rebase opened past).pipes = r.pipes := rfl

@[simp] theorem processes_rebase : (r.rebase opened past).processes = r.processes := rfl

@[simp] theorem copies_rebase : (r.rebase opened past).copies = r.copies := rfl

@[simp] theorem opened_rebase : (r.rebase opened past).opened = opened := rfl

theorem rebase_opened_nil : r.rebase r.opened [] = r := by
  rw [rebase, List.append_nil]

/-! ## Single moves -/

@[simp] theorem note_rebase (e : Event) :
    (r.rebase opened past).note e = (r.note e).rebase opened past := rfl

@[simp] theorem changePipe_rebase (id : Nat) (f : Pipe → Pipe) :
    (r.rebase opened past).changePipe id f = (r.changePipe id f).rebase opened past := rfl

@[simp] theorem closeLink_rebase (link : Link) :
    (r.rebase opened past).closeLink link = (r.closeLink link).rebase opened past := by
  cases link <;> rfl

@[simp] theorem closeIncoming_rebase (position : Nat) (incoming : Option Link) :
    (r.rebase opened past).closeIncoming position incoming =
      (r.closeIncoming position incoming).rebase opened past := by
  cases incoming <;> simp [closeIncoming]

@[simp] theorem closeInputEnd_rebase (p : Process σ) :
    (r.rebase opened past).closeInputEnd p = (r.closeInputEnd p).rebase opened past := by
  unfold closeInputEnd
  split <;> rfl

@[simp] theorem closeOutputEnd_rebase (p : Process σ) :
    (r.rebase opened past).closeOutputEnd p = (r.closeOutputEnd p).rebase opened past := by
  unfold closeOutputEnd
  split <;> rfl

@[simp] theorem endProcess_rebase (id : Nat) (p : Process σ) (status : Int) :
    (r.rebase opened past).endProcess id p status =
      (r.endProcess id p status).rebase opened past := by
  rw [endProcess, endProcess, ← closeOutputEnd_rebase, ← closeInputEnd_rebase]
  rfl

@[simp] theorem closeInput_rebase (id : Nat) (p : Process σ) (state : σ) :
    (r.rebase opened past).closeInput id p state =
      (r.closeInput id p state).rebase opened past := by
  rw [closeInput, closeInput, ← closeInputEnd_rebase]
  rfl

@[simp] theorem finishCopy_rebase (id : Nat) (c : Copy) :
    (r.rebase opened past).finishCopy id c = (r.finishCopy id c).rebase opened past := by
  rw [finishCopy, finishCopy, ← changePipe_rebase, ← closeLink_rebase]
  rfl

@[simp] theorem write_rebase (sink : Sink) (bytes : ByteArray) :
    (r.rebase opened past).write sink bytes =
      ((r.write sink bytes).1, (r.write sink bytes).2.rebase opened past) := by
  unfold write
  cases sink with
  | outlet o => rfl
  | pipe id =>
    rw [pipes_rebase]
    dsimp only
    split
    · split <;> rfl
    · rfl

@[simp] theorem takeInput_rebase (source : Source) (most : Nat) :
    (r.rebase opened past).takeInput source most =
      (r.takeInput source most).map fun taken ↦ (taken.1, taken.2.rebase opened past) := by
  unfold takeInput
  cases source with
  | shellInput => rfl
  | pipe id =>
    rw [pipes_rebase]
    dsimp only
    split
    · rfl
    · split
      · rfl
      · split <;> rfl

@[simp] theorem takeFor_rebase (p : Process σ) (most : Nat) :
    (r.rebase opened past).takeFor p most =
      (r.takeFor p most).map fun taken ↦ (taken.1, taken.2.rebase opened past) := by
  unfold takeFor
  split
  · exact takeInput_rebase ..
  · rfl

theorem opened_eq_of_rebase {f : Run σ → Run σ}
    (hf : ∀ opened past, f (r.rebase opened past) = (f r).rebase opened past) :
    (f r).opened = r.opened := by
  have hsame := hf r.opened []
  rw [rebase_opened_nil] at hsame
  rw [hsame, opened_rebase]

/-! ## Turns -/

theorem stepProcess_rebase (P : Programs σ) (id most : Nat) :
    (r.rebase opened past).stepProcess P id most =
      (r.stepProcess P id most).rebase opened past := by
  unfold stepProcess
  rw [processes_rebase]
  split
  · rfl
  · next p _ =>
    split
    · rfl
    · split
      · exact endProcess_rebase ..
      · rw [takeFor_rebase]
        cases r.takeFor p _ <;> rfl
      · rw [write_rebase]
        rcases r.write _ _ with ⟨_ | _, after⟩ <;> rfl
      · exact closeInput_rebase ..
      · rfl

theorem stepCopy_rebase (id most : Nat) :
    (r.rebase opened past).stepCopy id most = (r.stepCopy id most).rebase opened past := by
  unfold stepCopy
  rw [copies_rebase]
  split
  · rfl
  · next c _ =>
    split
    · rfl
    · split
      · rw [write_rebase]
        exact finishCopy_rebase ..
      · rw [takeInput_rebase]
        cases r.takeInput _ _ with
        | none => rfl
        | some taken =>
          obtain ⟨bytes, after⟩ := taken
          simp only [Option.map_some, write_rebase]
          split
          · exact finishCopy_rebase ..
          · rcases after.write (.pipe c.pipe) bytes with ⟨_ | _, r⟩
            · exact finishCopy_rebase ..
            · rfl

theorem turn_rebase (P : Programs σ) (t : Turn) :
    (r.rebase opened past).turn P t = (r.turn P t).rebase opened past := by
  cases t with
  | process id most => exact stepProcess_rebase r opened past P id most
  | copy id most => exact stepCopy_rebase r opened past id most

theorem turns_rebase (P : Programs σ) (ts : List Turn) :
    (r.rebase opened past).turns P ts = (r.turns P ts).rebase opened past := by
  induction ts generalizing r with
  | nil => rfl
  | cons t ts ih => rw [turns_cons, turns_cons, turn_rebase, ih]

theorem settle_rebase (P : Programs σ) (patience : Nat) :
    settle P patience (r.rebase opened past) = (settle P patience r).rebase opened past := by
  induction patience generalizing r with
  | zero => rfl
  | succ patience ih =>
    have hdone : (r.rebase opened past).isDone = r.isDone := rfl
    have hround : (r.rebase opened past).round = r.round := rfl
    rw [settle, settle, hdone, hround, turns_rebase, ih]
    split <;> rfl

/-! ## Stages -/

@[simp] theorem closeWriteEnd_rebase (pipe : Option Nat) :
    (r.rebase opened past).closeWriteEnd pipe = (r.closeWriteEnd pipe).rebase opened past := by
  cases pipe <;> rfl

@[simp] theorem forgetReadEnd_rebase (pipe : Option Nat) :
    (r.rebase opened past).forgetReadEnd pipe = (r.forgetReadEnd pipe).rebase opened past := by
  cases pipe <;> rfl

@[simp] theorem addOutputPipe_rebase (stage : Stage) :
    (r.rebase opened past).addOutputPipe stage =
      ((r.addOutputPipe stage).1.rebase opened past, (r.addOutputPipe stage).2) := by
  unfold addOutputPipe
  split <;> rfl

@[simp] theorem addProcess_rebase (stage : Stage) (state : σ) (incoming : Option Link)
    (pipe : Option Nat) (streams : Streams) :
    (r.rebase opened past).addProcess stage state incoming pipe streams =
      (r.addProcess stage state incoming pipe streams).rebase opened past := by
  cases incoming <;> cases pipe <;> rfl

@[simp] theorem streamsOf_rebase (incoming : Option Link) (pipe : Option Nat) (targets : Targets) :
    (r.rebase opened past).streamsOf incoming pipe targets =
      r.streamsOf incoming pipe targets := rfl

theorem startExternal_rebase (P : Programs σ) (stage : Stage) (executable : Option String)
    (incoming : Option Link) (targets : Targets) :
    (r.rebase opened past).startExternal P stage executable incoming targets =
      ((r.startExternal P stage executable incoming targets).1,
        (r.startExternal P stage executable incoming targets).2.rebase opened past) := by
  unfold startExternal
  simp only [addOutputPipe_rebase, streamsOf_rebase, shell_rebase, processes_rebase]
  generalize r.addOutputPipe stage = added
  obtain ⟨between, pipe⟩ := added
  dsimp only
  split
  · simp
  · split
    · simp
    · -- what the start did not need is closed in the same order, whatever is in the books
      cases pipe <;> simp <;> rfl

theorem deliver_rebase (sink : Sink) (text : String) :
    (r.rebase opened past).deliver sink text =
      ((r.deliver sink text).1, (r.deliver sink text).2.rebase opened past) := by
  unfold deliver
  split
  · rfl
  · rw [write_rebase]
    rcases r.write sink text.toUTF8 with ⟨_ | _, after⟩ <;> rfl

theorem runBuiltin_rebase (registered : List String) (stage : Stage)
    (handler : Option (Call → Shell → Reply × Shell)) (incoming : Option Link)
    (targets : Targets) :
    (r.rebase opened past).runBuiltin registered stage handler incoming targets =
      ((r.runBuiltin registered stage handler incoming targets).1,
        (r.runBuiltin registered stage handler incoming targets).2.rebase opened past) := by
  unfold runBuiltin
  simp only [closeIncoming_rebase, note_rebase, shell_rebase]
  generalize r.closeIncoming stage.position incoming = between
  cases handler with
  | none => rfl
  | some handler =>
    dsimp only
    split
    · rfl
    · next status output errors s _ =>
      have hshell :
          { (between.note (.handled stage.position)).rebase opened past with shell := s } =
            Run.rebase { between.note (.handled stage.position) with shell := s } opened past :=
        rfl
      rw [hshell, deliver_rebase]
      generalize Run.deliver { between.note (.handled stage.position) with shell := s }
        (sinkOr targets.errors .errors) errors = said
      obtain ⟨result, after⟩ := said
      cases result with
      | error fault => rfl
      | ok _ =>
        dsimp only
        split
        · rw [deliver_rebase]
          generalize after.deliver (sinkOr targets.output .output) output = said
          obtain ⟨result, last⟩ := said
          cases result <;> rfl
        · rfl

theorem startStage_rebase (P : Programs σ) (registered : List String) (stage : Stage)
    (incoming : Option Link) (targets : Targets) :
    (r.rebase opened past).startStage P registered stage incoming targets =
      ((r.startStage P registered stage incoming targets).1,
        (r.startStage P registered stage incoming targets).2.rebase opened past) := by
  unfold startStage
  dsimp only
  split
  · exact startExternal_rebase ..
  · exact runBuiltin_rebase ..

theorem startAll_rebase (E : Engine σ) (registered : List String) (targets : Targets)
    (stages : List Stage) (incoming : Option Link) :
    startAll E registered targets stages incoming (r.rebase opened past) =
      ((startAll E registered targets stages incoming r).1,
        (startAll E registered targets stages incoming r).2.1,
        (startAll E registered targets stages incoming r).2.2.rebase opened past) := by
  induction stages generalizing incoming r with
  | nil => rfl
  | cons stage rest ih =>
    rw [startAll, startAll, startStage_rebase]
    generalize r.startStage E.programs registered stage incoming targets = started
    obtain ⟨result, after⟩ := started
    cases result with
    | error fault => rfl
    | ok answer =>
      obtain ⟨link, status⟩ := answer
      dsimp only
      rw [turns_rebase, ih]
      generalize startAll E registered targets rest link
        (after.turns E.programs (E.interleaving stage.position)) = later
      obtain ⟨result, left, last⟩ := later
      cases result <;> rfl

/-! ## The end of a run -/

theorem foldl_rebase (f : Run σ → Nat → Run σ)
    (hf : ∀ r id, f (r.rebase opened past) id = (f r id).rebase opened past) (ids : List Nat) :
    ids.foldl f (r.rebase opened past) = (ids.foldl f r).rebase opened past := by
  induction ids generalizing r with
  | nil => rfl
  | cons id ids ih => rw [List.foldl_cons, List.foldl_cons, hf, ih]

@[simp] theorem cancelCopies_rebase :
    (r.rebase opened past).cancelCopies = r.cancelCopies.rebase opened past := by
  refine foldl_rebase r opened past _ (fun r id ↦ ?_) (List.range r.copies.size)
  rw [copies_rebase]
  split
  · split
    · rfl
    · exact finishCopy_rebase ..
  · rfl

@[simp] theorem reap_rebase : (r.rebase opened past).reap = r.reap.rebase opened past := by
  refine foldl_rebase r opened past _ (fun r id ↦ ?_) (List.range r.processes.size)
  dsimp only
  rw [processes_rebase]
  split
  · split <;> exact endProcess_rebase ..
  · rfl

@[simp] theorem cleanUp_rebase (left : Option Link) :
    (r.rebase opened past).cleanUp left = (r.cleanUp left).rebase opened past := by
  unfold cleanUp
  cases left <;> simp

end Run

variable (E : Engine σ) (registered : List String) (stages : List Stage) (targets : Run.Targets)

/-- **Stages run in the same way whatever is in the books.** -/
theorem runStages_rebase (r : Run σ) (opened : List Outlet) (past : List Event) :
    runStages E registered stages targets (r.rebase opened past) =
      ((runStages E registered stages targets r).1,
        (runStages E registered stages targets r).2.rebase opened past) := by
  unfold runStages
  rw [Run.startAll_rebase]
  generalize Run.startAll E registered targets stages none r = answer
  obtain ⟨result, left, after⟩ := answer
  cases result with
  | error fault => simp
  | ok statuses =>
    dsimp only
    rw [Run.settle_rebase, Run.cleanUp_rebase]
    rfl

/-- Two runs differ at most in what has happened before. -/
structure Run.Alike (r r' : Run σ) : Prop where
  exists_events : ∃ events, r' = { r with events }

theorem Run.Alike.runStages {r r' : Run σ} (h : r.Alike r') :
    (runStages E registered stages targets r').1 = (runStages E registered stages targets r).1 ∧
      (runStages E registered stages targets r).2.Alike
        (runStages E registered stages targets r').2 := by
  obtain ⟨events, rfl⟩ := h.exists_events
  -- both are one run without a past, each with a past of its own
  have hr : r = Run.rebase { r with events := [] } r.opened r.events := rfl
  have hr' : { r with events } = Run.rebase { r with events := [] } r.opened events := rfl
  have hsame := runStages_rebase E registered stages targets { r with events := [] } r.opened
  have hleft := hsame r.events
  have hright := hsame events
  rw [← hr] at hleft
  rw [← hr'] at hright
  rw [hleft, hright]
  exact ⟨rfl, _, rfl⟩

end CommandShell.Pipeline

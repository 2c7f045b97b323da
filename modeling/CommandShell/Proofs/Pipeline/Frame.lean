import CommandShell.Pipeline.Execution

/-!
# What a run changes in a shell

Redirections, programs and copies only ever change the machine around a shell: its history, its
settings, its last status and its request to exit are out of their reach. `Shell.SameSession` says
that of two shells. What else becomes of a shell during a run is the work of the handlers of builtin
stages, so a relation that holds along both kinds of change holds along the whole run, whatever its
engine (`Frame.run`).
-/

namespace CommandShell

open CommandShell.Host CommandShell.Line

/-! ## Shells of the same session -/

namespace Shell

/-- Two shells differ at most in the machine around them. -/
def SameSession (s t : Shell) : Prop :=
  t = { s with machine := t.machine }

variable {s t u : Shell}

@[refl, simp] theorem SameSession.refl (s : Shell) : s.SameSession s := rfl

theorem SameSession.trans (h : s.SameSession t) (hu : t.SameSession u) : s.SameSession u := by
  unfold SameSession at *
  rw [hu, h]

theorem sameSession_of_machine (s : Shell) (m : Machine) : s.SameSession { s with machine := m } :=
  rfl

@[simp] theorem sameSession_report (s : Shell) (message : String) :
    s.SameSession (s.report message) := rfl

theorem SameSession.lastStatus_eq (h : s.SameSession t) : t.lastStatus = s.lastStatus := by
  rw [h]

theorem SameSession.exitRequest_eq (h : s.SameSession t) : t.exitRequest = s.exitRequest := by
  rw [h]

end Shell

namespace Pipeline

namespace Run

variable {σ : Type}

/-! ## Moves that do not touch the shell -/

@[simp] theorem shell_note (r : Run σ) (e : Event) : (r.note e).shell = r.shell := rfl

@[simp] theorem shell_changePipe (r : Run σ) (id : Nat) (f : Pipe → Pipe) :
    (r.changePipe id f).shell = r.shell := rfl

@[simp] theorem shell_closeLink (r : Run σ) (link : Link) : (r.closeLink link).shell = r.shell := by
  cases link <;> rfl

@[simp] theorem shell_closeIncoming (r : Run σ) (position : Nat) (incoming : Option Link) :
    (r.closeIncoming position incoming).shell = r.shell := by
  cases incoming <;> simp [closeIncoming]

@[simp] theorem shell_closeInputEnd (r : Run σ) (p : Process σ) :
    (r.closeInputEnd p).shell = r.shell := by
  unfold closeInputEnd
  split <;> rfl

@[simp] theorem shell_closeOutputEnd (r : Run σ) (p : Process σ) :
    (r.closeOutputEnd p).shell = r.shell := by
  unfold closeOutputEnd
  split <;> rfl

@[simp] theorem shell_endProcess (r : Run σ) (id : Nat) (p : Process σ) (status : Int) :
    (r.endProcess id p status).shell = r.shell := by
  simp [endProcess]

@[simp] theorem shell_moveProcess (r : Run σ) (id : Nat) (p : Process σ) (state : σ) :
    (r.moveProcess id p state).shell = r.shell := rfl

@[simp] theorem shell_closeInput (r : Run σ) (id : Nat) (p : Process σ) (state : σ) :
    (r.closeInput id p state).shell = r.shell := by
  simp [closeInput]

@[simp] theorem shell_finishCopy (r : Run σ) (id : Nat) (c : Copy) :
    (r.finishCopy id c).shell = r.shell := by
  simp [finishCopy]

@[simp] theorem shell_closeWriteEnd (r : Run σ) (pipe : Option Nat) :
    (r.closeWriteEnd pipe).shell = r.shell := by
  cases pipe <;> rfl

@[simp] theorem shell_addOutputPipe (r : Run σ) (stage : Stage) :
    (r.addOutputPipe stage).1.shell = r.shell := by
  unfold addOutputPipe
  split <;> rfl

@[simp] theorem shell_addProcess (r : Run σ) (stage : Stage) (state : σ) (incoming : Option Link)
    (pipe : Option Nat) (streams : Streams) :
    (r.addProcess stage state incoming pipe streams).shell = r.shell := by
  cases incoming <;> cases pipe <;> rfl

@[simp] theorem shell_cancelCopies (r : Run σ) : r.cancelCopies.shell = r.shell := by
  unfold cancelCopies
  induction List.range r.copies.size generalizing r with
  | nil => rfl
  | cons id ids ih =>
    rw [List.foldl_cons, ih]
    split
    · split <;> simp
    · rfl

@[simp] theorem shell_reap (r : Run σ) : r.reap.shell = r.shell := by
  unfold reap
  induction List.range r.processes.size generalizing r with
  | nil => rfl
  | cons id ids ih =>
    rw [List.foldl_cons, ih]
    split
    · dsimp only
      split <;> simp
    · rfl

@[simp] theorem shell_cleanUp (r : Run σ) (left : Option Link) :
    (r.cleanUp left).shell = r.shell := by
  unfold cleanUp
  cases left <;> simp

/-! ## Moves that touch the machine -/

theorem sameSession_changeMachine (r : Run σ) (f : Machine → Machine) :
    r.shell.SameSession (r.changeMachine f).shell := rfl

theorem sameSession_write {r after : Run σ} {sink : Sink} {bytes : ByteArray}
    {answer : Except Errno Unit} (h : r.write sink bytes = (answer, after)) :
    r.shell.SameSession after.shell := by
  unfold write at h
  split at h
  · cases h
    exact r.sameSession_changeMachine _
  · split at h
    · split at h <;> cases h <;> rfl
    · cases h
      rfl

theorem sameSession_takeInput {r after : Run σ} {source : Source} {most : Nat} {bytes : ByteArray}
    (h : r.takeInput source most = some (bytes, after)) : r.shell.SameSession after.shell := by
  unfold takeInput at h
  split at h
  · cases h
    exact r.sameSession_changeMachine _
  · split at h
    · cases h
      rfl
    · split at h
      · cases h
        rfl
      · split at h
        · cases h
        · cases h
          rfl

theorem sameSession_takeFor {r after : Run σ} {p : Process σ} {most : Nat} {bytes : ByteArray}
    (h : r.takeFor p most = some (bytes, after)) : r.shell.SameSession after.shell := by
  unfold takeFor at h
  split at h
  · exact sameSession_takeInput h
  · cases h
    rfl

theorem sameSession_stepProcess (P : Programs σ) (r : Run σ) (id most : Nat) :
    r.shell.SameSession (r.stepProcess P id most).shell := by
  unfold stepProcess
  split
  · rfl
  · next p _ =>
    split
    · rfl
    · split
      · simp
      · split
        · simp
        · next htake => simpa using sameSession_takeFor htake
      · split
        · next hwrite => simpa using sameSession_write hwrite
        · next hwrite => simpa using sameSession_write hwrite
      · simp
      · next act _ => exact r.sameSession_changeMachine fun m ↦ { m with files := (act m.files).1 }

theorem sameSession_stepCopy (r : Run σ) (id most : Nat) :
    r.shell.SameSession (r.stepCopy id most).shell := by
  unfold stepCopy
  split
  · rfl
  · split
    · rfl
    · split
      · split
        next hwrite => simpa using sameSession_write hwrite
      · split
        · rfl
        · next htake =>
          have hafter := sameSession_takeInput htake
          split
          · simpa using hafter
          · split
            · next hwrite => exact hafter.trans (sameSession_write hwrite)
            · next hwrite => simpa using hafter.trans (sameSession_write hwrite)

theorem sameSession_turns (P : Programs σ) (r : Run σ) (ts : List Turn) :
    r.shell.SameSession (r.turns P ts).shell := by
  induction ts generalizing r with
  | nil => rfl
  | cons t ts ih =>
    refine Shell.SameSession.trans ?_ (ih (r.turn P t))
    cases t with
    | process id most => exact r.sameSession_stepProcess P id most
    | copy id most => exact r.sameSession_stepCopy id most

theorem sameSession_settle (P : Programs σ) (patience : Nat) (r : Run σ) :
    r.shell.SameSession (settle P patience r).shell := by
  induction patience generalizing r with
  | zero => rfl
  | succ patience ih =>
    rw [settle]
    split
    · rfl
    · exact (r.sameSession_turns P r.round).trans (ih _)

theorem sameSession_openTarget (r : Run σ) (target : Option Target) :
    r.shell.SameSession (r.openTarget target).2.shell := by
  unfold openTarget
  split
  · rfl
  · split
    · rfl
    · split
      · next machine outlet _ => exact r.sameSession_changeMachine fun _ ↦ machine
      · simp

theorem sameSession_closeFiles (r : Run σ) : r.shell.SameSession r.closeFiles.shell :=
  r.sameSession_changeMachine _

theorem sameSession_deliver {r after : Run σ} {sink : Sink} {text : String}
    {result : Except Fault Unit} (h : r.deliver sink text = (result, after)) :
    r.shell.SameSession after.shell := by
  unfold deliver at h
  split at h
  · cases h
    rfl
  · split at h
    · next hwrite =>
      cases h
      exact sameSession_write hwrite
    · next hwrite =>
      cases h
      exact sameSession_write hwrite

theorem sameSession_forgetReadEnd (r : Run σ) (pipe : Option Nat) :
    r.shell.SameSession (r.forgetReadEnd pipe).shell := by
  cases pipe <;> rfl

theorem sameSession_startExternal (P : Programs σ) (r : Run σ) (stage : Stage)
    (executable : Option String) (incoming : Option Link) (targets : Targets) :
    r.shell.SameSession (r.startExternal P stage executable incoming targets).2.shell := by
  unfold startExternal
  dsimp only
  split
  · simpa using sameSession_forgetReadEnd
      ((r.addOutputPipe stage).1.closeWriteEnd (r.addOutputPipe stage).2) (r.addOutputPipe stage).2
  · split
    · simp
    · -- what is left of it in the shell is the report
      cases (r.addOutputPipe stage).2 <;> simp

end Run

/-! ## Relations along a run -/

variable {σ : Type}

/-- A relation between shells that holds along every change of the machine, and along the handlers
of stages. -/
structure Frame (R : Shell → Shell → Prop) (stages : List Stage) : Prop where
  of_sameSession : ∀ {s t : Shell}, s.SameSession t → R s t
  trans : ∀ {s t u : Shell}, R s t → R t u → R s u
  of_handler : ∀ stage ∈ stages, ∀ handler, stage.work = .builtin (some handler) →
    ∀ call s, R s (handler call s).2

namespace Frame

variable {R : Shell → Shell → Prop} {stages : List Stage}

theorem tail {stage : Stage} {rest : List Stage} (h : Frame R (stage :: rest)) : Frame R rest :=
  ⟨h.of_sameSession, h.trans, fun s hs ↦ h.of_handler s (List.mem_cons_of_mem stage hs)⟩

theorem runBuiltin (h : Frame R stages) (r : Run σ) (registered : List String) {stage : Stage}
    (hstage : stage ∈ stages) {handler : Option (Call → Shell → Reply × Shell)}
    (hwork : stage.work = .builtin handler) (incoming : Option Link) (targets : Run.Targets) :
    R r.shell (r.runBuiltin registered stage handler incoming targets).2.shell := by
  unfold Run.runBuiltin
  dsimp only
  split
  · exact h.of_sameSession (by simp)
  · next handler =>
    have hcall := h.of_handler stage hstage handler hwork
      { args := stage.command.arguments, inPipeline := !(stage.isFirst && stage.isLast), registered }
      ((r.closeIncoming stage.position incoming).note (.handled stage.position)).shell
    rw [Run.shell_note, Run.shell_closeIncoming] at hcall ⊢
    split
    · next hreply =>
      rw [hreply] at hcall
      exact hcall
    · next status output errors after hreply =>
      rw [hreply] at hcall
      -- the deliveries come after the handler, and change the machine only
      split
      · next hdeliver => exact h.trans hcall (h.of_sameSession (Run.sameSession_deliver hdeliver))
      · next hdeliver =>
        have hsaid := h.trans hcall (h.of_sameSession (Run.sameSession_deliver hdeliver))
        split
        · split
          · next hdeliver =>
            exact h.trans hsaid (h.of_sameSession (Run.sameSession_deliver hdeliver))
          · next hdeliver =>
            exact h.trans hsaid (h.of_sameSession (Run.sameSession_deliver hdeliver))
        · exact hsaid

theorem startStage (h : Frame R stages) (P : Programs σ) (registered : List String) (r : Run σ)
    {stage : Stage} (hstage : stage ∈ stages) (incoming : Option Link) (targets : Run.Targets) :
    R r.shell (r.startStage P registered stage incoming targets).2.shell := by
  unfold Run.startStage
  dsimp only
  split
  · exact h.of_sameSession (r.sameSession_startExternal ..)
  · next hwork => exact h.runBuiltin r registered hstage hwork incoming _

theorem startAll (h : Frame R stages) (E : Engine σ) (registered : List String)
    (targets : Run.Targets) (incoming : Option Link) (r : Run σ) :
    R r.shell (Run.startAll E registered targets stages incoming r).2.2.shell := by
  induction stages generalizing incoming r with
  | nil => exact h.of_sameSession rfl
  | cons stage rest ih =>
    have hstage := h.startStage E.programs registered r List.mem_cons_self incoming targets
    rw [Run.startAll]
    split
    · next hstart =>
      rw [hstart] at hstage
      exact hstage
    · next link status started hstart =>
      rw [hstart] at hstage
      have hturns := h.of_sameSession
        (started.sameSession_turns E.programs (E.interleaving stage.position))
      have hrest := h.trans (h.trans hstage hturns) (ih h.tail link _)
      dsimp only
      split
      · next hall =>
        rw [hall] at hrest
        exact hrest
      · next hall =>
        rw [hall] at hrest
        exact hrest

theorem runStages (h : Frame R stages) (E : Engine σ) (registered : List String)
    (targets : Run.Targets) (r : Run σ) :
    R r.shell (runStages E registered stages targets r).2.shell := by
  have hstart := h.startAll E registered targets none r
  unfold Pipeline.runStages
  split
  · next hall =>
    rw [hall] at hstart
    rwa [Run.shell_cleanUp]
  · next started hall =>
    rw [hall] at hstart
    dsimp only
    rw [Run.shell_cleanUp]
    exact h.trans hstart (h.of_sameSession (started.sameSession_settle E.programs E.patience))

/-- **A run changes a shell through the machine and through handlers only.** -/
theorem run (h : Frame R stages) (E : Engine σ) (registered : List String)
    (redirection : Redirection) (shell : Shell) :
    R shell (run E registered stages redirection shell).2.shell := by
  have houtput := Run.sameSession_openTarget ({ shell } : Run σ) redirection.output
  unfold Pipeline.run
  split
  · next hopen =>
    rw [hopen] at houtput
    exact h.of_sameSession (houtput.trans (Run.sameSession_closeFiles _))
  · next r hopen =>
    rw [hopen] at houtput
    have herrors := houtput.trans (r.sameSession_openTarget redirection.errors)
    split
    · next hopen =>
      rw [hopen] at herrors
      exact h.of_sameSession (herrors.trans (Run.sameSession_closeFiles _))
    · next errors r hopen =>
      rw [hopen] at herrors
      exact h.trans (h.trans (h.of_sameSession herrors) (h.runStages E registered _ r))
        (h.of_sameSession (Run.sameSession_closeFiles _))

end Frame

end Pipeline

end CommandShell

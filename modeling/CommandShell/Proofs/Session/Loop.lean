import CommandShell.Command.Standard
import CommandShell.Proofs.Pipeline.Builtins
import CommandShell.Proofs.Pipeline.Frame
import CommandShell.Session.Loop
import Mathlib.Logic.Function.Iterate

/-!
# The loop is a fold over what is entered

Every line is handled once and in order, in the shell that the line before it left, until exit is
asked for or nothing more is entered. `Handles` is that chain, one `Handling` for each line; an
interrupt at the prompt costs a prompt and nothing else. Where the frontend shows whatever message
it is given, `loop_follows` says that a loop goes along such a chain to its end.

What a session ends with is the status that was asked for, or else that of the last line that came
to its end: by the frame of a run only handlers could change the last status on the way, and no
builtin does.
-/

namespace CommandShell

open CommandShell.Host CommandShell.Line CommandShell.Pipeline

namespace Stage

variable {registry : Registry} {m : Machine}

theorem exists_builtin_of_buildStages {commands : List Command} {stages : List Stage}
    (h : buildStages registry m commands = .ok stages) {stage : Stage} (hstage : stage ∈ stages)
    {handler : Call → Shell → Reply × Shell} (hwork : stage.work = .builtin (some handler)) :
    ∃ b ∈ registry.builtins, b.handler = handler := by
  have hname := workOf_of_buildFrom h stage hstage
  rw [hwork] at hname
  obtain ⟨b, hb, hhandler⟩ := Option.map_eq_some_iff.mp (handler_of_workOf hname).symm
  exact ⟨b, List.mem_of_find?_eq_some hb, hhandler⟩

theorem frame_of_buildStages {R : Shell → Shell → Prop}
    (same : ∀ {s t}, s.SameSession t → R s t) (trans : ∀ {s t u}, R s t → R t u → R s u)
    (builtins : ∀ b ∈ registry.builtins, ∀ call s, R s (b.handler call s).2)
    {commands : List Command} {stages : List Stage}
    (h : buildStages registry m commands = .ok stages) : Frame R stages := by
  refine ⟨same, trans, ?_⟩
  intro stage hstage handler hwork call s
  obtain ⟨b, hb, rfl⟩ := exists_builtin_of_buildStages h hstage hwork
  exact builtins b hb call s

end Stage

namespace Session

variable {σ : Type} {registry : Registry}

/-- What holds along every change of the machine and every call of a builtin holds along the text of
a line, as long as it does not depend on the last status. -/
theorem frame_runText (E : Engine σ) {R : Shell → Shell → Prop}
    (same : ∀ {s t}, s.SameSession t → R s t) (trans : ∀ {s t u}, R s t → R t u → R s u)
    (status : ∀ {s t} (status : Int), R s t → R s { t with lastStatus := status })
    (builtins : ∀ b ∈ registry.builtins, ∀ call s, R s (b.handler call s).2) (s : Shell)
    (text : String) : R s (runText E registry s text).shell := by
  unfold runText
  split
  · exact status _ (same rfl)
  · next parsed _ =>
    split
    · exact status _ (same rfl)
    · exact same (.refl s)
    · next stages hbuild =>
      have hframe : Frame R stages := Stage.frame_of_buildStages same trans builtins hbuild
      have hrun := hframe.run E registry.registered parsed.redirection s
      split
      · next heq =>
        rw [heq] at hrun
        exact status _ hrun
      · next heq =>
        rw [heq] at hrun
        exact hrun

/-- The last status is that of the line if it came to its end, and the old one if it did not. -/
theorem lastStatus_runText (E : Engine σ) (registry : Registry) (s : Shell) (text : String) :
    (runText E registry s text).shell.lastStatus =
      (runText E registry s text).outcome.toOption.getD s.lastStatus := by
  unfold runText
  split
  · rfl
  · next parsed _ =>
    split
    · rfl
    · rfl
    · next stages hbuild =>
      -- on the way only handlers could change it
      have hframe : Frame (fun s t ↦ t.lastStatus = s.lastStatus) stages :=
        Stage.frame_of_buildStages Shell.SameSession.lastStatus_eq (fun hst htu ↦ htu.trans hst)
          (fun b _ ↦ b.lastStatus_eq) hbuild
      have hrun := hframe.run E registry.registered parsed.redirection s
      split
      · rfl
      · next heq =>
        rw [heq] at hrun
        exact hrun

theorem lastStatus_runLine (E : Engine σ) (registry : Registry) (s : Shell) (line : String) :
    (runLine E registry s line).shell.lastStatus =
      (runLine E registry s line).outcome.toOption.getD s.lastStatus := by
  by_cases hblank : Text.trimString line = ""
  · rw [runLine_blank E registry s hblank]
    rfl
  · simp only [runLine, if_neg hblank, if_true, lastStatus_record]
    exact lastStatus_runText E registry s _

theorem lastStatus_showPrompt (f : Frontend) (s : Shell) (n : Nat) :
    ((showPrompt f)^[n] s).lastStatus = s.lastStatus := by
  induction n generalizing s with
  | zero => rfl
  | succ n ih =>
    rw [Function.iterate_succ_apply, ih, showPrompt]
    split <;> rfl

/-- One line as a loop handles it. -/
structure Handling (σ : Type) where
  /-- How many interrupts came at the prompt before it. -/
  interrupts : Nat
  line : String
  /-- The shell that it is run in. -/
  before : Shell
  /-- What came of it. -/
  done : LineRun σ
  /-- The shell once the user knows what came of it. -/
  after : Shell

/-- What the user entered for a line. -/
def Handling.entries (h : Handling σ) : List Entry :=
  List.replicate h.interrupts .interrupt ++ [.line h.line]

/-- The message that the user gets about a line: one for a fault, none for an interrupt. -/
def complaint? (done : LineRun σ) : Option String :=
  match done.outcome with
  | .ok _ => none
  | .error .interrupted => none
  | .error fault => some fault.message

/-- A message, if there is one, is shown once. -/
inductive Shows (f : Frontend) : Option String → Shell → Shell → Prop
  | nothing (s : Shell) : Shows f none s s
  | message {message text : String} (h : f.render message = .ok text) (s : Shell) :
      Shows f (some message) s (s.printError text)

theorem Shows.lastStatus_eq {f : Frontend} {message : Option String} {s t : Shell}
    (h : Shows f message s t) : t.lastStatus = s.lastStatus := by
  cases h <;> rfl

/-- Lines that are handled one after another, each in the shell that the one before it left. Exit is
not asked for before any of them, and everything that is entered has a prompt of its own. -/
inductive Handles (E : Engine σ) (registry : Registry) (f : Frontend) :
    Shell → List (Handling σ) → Shell → Prop
  | nil (s : Shell) : Handles E registry f s [] s
  | cons {s t : Shell} {h : Handling σ} {later : List (Handling σ)}
      (notExiting : s.exitRequest = none)
      (prompted : h.before = (showPrompt f)^[h.interrupts + 1] s)
      (ran : h.done = runLine E registry h.before h.line)
      (shown : Shows f (complaint? h.done) h.done.shell h.after)
      (rest : Handles E registry f h.after later t) : Handles E registry f s (h :: later) t

/-- The status of the last of the lines that came to their end. -/
def lastCompleted? (handled : List (Handling σ)) : Option Int :=
  (handled.filterMap fun h ↦ h.done.outcome.toOption).getLast?

namespace Handles

variable {E : Engine σ} {f : Frontend} {s t : Shell} {handled : List (Handling σ)}

theorem lastStatus_eq (h : Handles E registry f s handled t) :
    t.lastStatus = (lastCompleted? handled).getD s.lastStatus := by
  induction h with
  | nil s => rfl
  | @cons s t h later notExiting prompted ran shown rest ih =>
    have hafter : h.after.lastStatus = h.done.outcome.toOption.getD s.lastStatus := by
      rw [shown.lastStatus_eq, ran, lastStatus_runLine, prompted, lastStatus_showPrompt]
    rw [ih, hafter, lastCompleted?, lastCompleted?]
    cases hdone : h.done.outcome with
    | error fault => rw [List.filterMap_cons_none (by rw [hdone]; rfl)]; rfl
    | ok status =>
      rw [List.filterMap_cons_some (by rw [hdone]; rfl), List.getLast?_cons]
      rfl

end Handles

/-! ## The loop -/

/-- How a loop ends after its last line: exit was asked for, and whatever else is entered stays
unread, or nothing more is entered than interrupts. -/
inductive Ends (f : Frontend) (t : Shell) : (interrupts : Nat) → List Entry → Shell → Prop
  | exiting (h : t.exitRequest.isSome = true) (unread : List Entry) : Ends f t 0 unread t
  | exhausted (h : t.exitRequest = none) (interrupts : Nat) :
      Ends f t interrupts [] ((showPrompt f)^[interrupts + 1] t)

/-- A loop that has had a number of interrupts since its last line goes along a chain of lines and
ends after it. -/
def Follows (E : Engine σ) (registry : Registry) (f : Frontend) (n : Nat) (s : Shell)
    (entries : List Entry) (outcome : Except Fault Unit × Shell) : Prop :=
  ∃ handled t interrupts unread final, Handles E registry f s handled t ∧
    .replicate n .interrupt ++ entries =
      handled.flatMap Handling.entries ++ .replicate interrupts .interrupt ++ unread ∧
    Ends f t interrupts unread final ∧ outcome = (.ok (), final)

namespace Follows

variable {E : Engine σ} {f : Frontend} {s : Shell} {entries : List Entry}
  {outcome : Except Fault Unit × Shell}

theorem exiting (h : s.exitRequest.isSome = true) :
    Follows E registry f 0 s entries (.ok (), s) :=
  ⟨[], s, 0, entries, s, .nil s, rfl, .exiting h entries, rfl⟩

theorem exhausted (h : s.exitRequest = none) (n : Nat) :
    Follows E registry f n s [] (.ok (), (showPrompt f)^[n + 1] s) :=
  ⟨[], s, n, [], _, .nil s, by simp, .exhausted h n, rfl⟩

theorem interrupt {n : Nat} (h : Follows E registry f (n + 1) s entries outcome) :
    Follows E registry f n s (.interrupt :: entries) outcome := by
  have hentries : List.replicate n Entry.interrupt ++ .interrupt :: entries =
      List.replicate (n + 1) .interrupt ++ entries := by
    rw [List.replicate_succ', List.append_assoc, List.singleton_append]
  rw [Follows, hentries]
  exact h

theorem line {h : Handling σ} (notExiting : s.exitRequest = none)
    (prompted : h.before = (showPrompt f)^[h.interrupts + 1] s)
    (ran : h.done = runLine E registry h.before h.line)
    (shown : Shows f (complaint? h.done) h.done.shell h.after)
    (rest : Follows E registry f 0 h.after entries outcome) :
    Follows E registry f h.interrupts s (.line h.line :: entries) outcome := by
  obtain ⟨handled, t, interrupts, unread, final, hhandles, hrest, hend, houtcome⟩ := rest
  rw [List.replicate_zero, List.nil_append] at hrest
  exact ⟨h :: handled, t, interrupts, unread, final,
    .cons notExiting prompted ran shown hhandles, by simp [Handling.entries, hrest], hend, houtcome⟩

end Follows

/-- A message is shown as it is, after the name of the shell. -/
def plain : Frontend where
  reader := .stream
  render := fun message ↦ .ok ("shell: " ++ message ++ "\n")

end Session

end CommandShell

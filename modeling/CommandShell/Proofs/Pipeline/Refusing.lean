import CommandShell.Proofs.Pipeline.Bookkeeping
import CommandShell.Proofs.Pipeline.Builtins

/-!
# Targets that cannot be opened

A target that the system does not open costs a message on standard error, and nothing else: the run
goes on as if the redirection had never had that target. Whether the message comes before the other
target is opened or after it makes no difference, because opening a target writes nothing to
standard error (`Machine.openOutlet_printError`), and what the run notes down about the refusal makes
none because nobody looks it up (`Run.Alike`).
-/

namespace CommandShell

open CommandShell.Host CommandShell.Line

def Line.Redirection.without (r : Redirection) : Stream → Redirection
  | .output => { r with output := none }
  | .errors => { r with errors := none }

/-- What was printed on standard error does not matter when a target is opened. -/
theorem Host.Machine.openOutlet_printError (m : Machine) (bytes : ByteArray) (path : String)
    (keep : Bool) :
    (m.printError bytes).openOutlet path keep =
      (m.openOutlet path keep).map fun made ↦ (made.1.printError bytes, made.2) := by
  have hfiles : (m.printError bytes).files = m.files := rfl
  have hcwd : (m.printError bytes).cwd = m.cwd := rfl
  have hinput : (m.printError bytes).input = m.input := rfl
  unfold Machine.openOutlet
  rw [hfiles, hcwd, hinput]
  split
  · cases m.files.openFile m.cwd path (.writing keep) <;> rfl
  · cases m.files.open? m.input with
    | none => rfl
    | some f =>
      dsimp only
      cases m.files.openNode f.node (.writing keep) <;> rfl
  · rfl
  · rfl
  · rfl

namespace Pipeline

variable {σ : Type}

/-- The system refuses to open a target. A path with a NUL character is never shown to it. -/
def Refuses (m : Machine) (target : Target) : Prop :=
  Path.hasNul target.path = false ∧ ∃ cause, m.openOutlet target.path target.append = .error cause

/-- The target of a stream is refused when its turn comes. Standard output comes first; after it
comes standard error, unless the target of standard output was refused as well. -/
inductive IsRefused (shell : Shell) (redirection : Redirection) : Stream → Target → Prop
  | output {target : Target} (htarget : redirection.output = some target)
      (hrefuses : Refuses shell.machine target) : IsRefused shell redirection .output target
  | errors {target : Target} (htarget : redirection.errors = some target)
      (houtput : redirection.output = none) (hrefuses : Refuses shell.machine target) :
      IsRefused shell redirection .errors target
  | errorsAfterOutput {target other : Target} {machine : Machine} {outlet : Outlet}
      (htarget : redirection.errors = some target) (houtput : redirection.output = some other)
      (hnul : Path.hasNul other.path = false)
      (hopen : shell.machine.openOutlet other.path other.append = .ok (machine, outlet))
      (hrefuses : Refuses machine target) : IsRefused shell redirection .errors target

namespace Run

variable {r r' : Run σ}

theorem Alike.shell_eq (h : r.Alike r') : r'.shell = r.shell := by
  obtain ⟨events, rfl⟩ := h.exists_events
  rfl

theorem Alike.closeFiles (h : r.Alike r') : r.closeFiles.Alike r'.closeFiles := by
  obtain ⟨events, rfl⟩ := h.exists_events
  exact ⟨events, rfl⟩

theorem Alike.openTarget (h : r.Alike r') (target : Option Target) :
    (r'.openTarget target).1 = (r.openTarget target).1 ∧
      (r.openTarget target).2.Alike (r'.openTarget target).2 := by
  obtain ⟨events, rfl⟩ := h.exists_events
  unfold Run.openTarget
  split
  · exact ⟨rfl, events, rfl⟩
  · split
    · exact ⟨rfl, events, rfl⟩
    · dsimp only
      split
      · exact ⟨rfl, _, rfl⟩
      · exact ⟨rfl, _, rfl⟩

@[simp] theorem openTarget_none (r : Run σ) : r.openTarget none = (.ok none, r) := rfl

theorem openTarget_of_refuses {target : Target} (h : Refuses r.shell.machine target) :
    r.openTarget (some target) =
      (.ok none, note { r with shell := r.shell.report (Fault.redirection target.path).message }
        (.refused target.path)) := by
  obtain ⟨hnul, cause, hopen⟩ := h
  simp only [Run.openTarget, hnul, Bool.false_eq_true, if_false, hopen]

theorem openTarget_of_opens {target : Target} {machine : Machine} {outlet : Outlet}
    (hnul : Path.hasNul target.path = false)
    (hopen : r.shell.machine.openOutlet target.path target.append = .ok (machine, outlet)) :
    r.openTarget (some target) =
      (.ok (some outlet), note { r with
        shell := { r.shell with machine }, opened := r.opened ++ [outlet] }
          (.opened target.path outlet)) := by
  simp only [Run.openTarget, hnul, Bool.false_eq_true, if_false, hopen]
  rfl

def openRest (r : Run σ) (output : Option Outlet) (errors : Option Target) :
    Except Fault Targets × Run σ :=
  match r.openTarget errors with
  | (.error fault, r) => (.error fault, r)
  | (.ok errors, r) => (.ok { output, errors }, r)

def openAll (r : Run σ) (redirection : Redirection) : Except Fault Targets × Run σ :=
  match r.openTarget redirection.output with
  | (.error fault, r) => (.error fault, r)
  | (.ok output, r) => r.openRest output redirection.errors

@[simp] theorem openRest_none (r : Run σ) (output : Option Outlet) :
    r.openRest output none = (.ok { output, errors := none }, r) := rfl

theorem openRest_of_refuses {target : Target} (h : Refuses r.shell.machine target)
    (output : Option Outlet) :
    r.openRest output (some target) =
      (.ok { output, errors := none },
        note { r with shell := r.shell.report (Fault.redirection target.path).message }
          (.refused target.path)) := by
  rw [openRest, openTarget_of_refuses h]

theorem Alike.openRest (h : r.Alike r') (output : Option Outlet) (errors : Option Target) :
    (r'.openRest output errors).1 = (r.openRest output errors).1 ∧
      (r.openRest output errors).2.Alike (r'.openRest output errors).2 := by
  obtain ⟨hsame, halike⟩ := h.openTarget errors
  unfold Run.openRest
  generalize r.openTarget errors = opened at hsame halike ⊢
  generalize r'.openTarget errors = opened' at hsame halike ⊢
  obtain ⟨result, after⟩ := opened
  obtain ⟨result', after'⟩ := opened'
  cases hsame
  cases result <;> exact ⟨rfl, halike⟩

/-- Once a message takes the place of the target that is refused, the same is opened. -/
theorem openAll_refused {shell : Shell} {redirection : Redirection} {stream : Stream}
    {target : Target} (h : IsRefused shell redirection stream target) :
    (openAll ({ shell } : Run σ) redirection).1 =
        (openAll ({ shell := shell.report (Fault.redirection target.path).message } : Run σ)
          (redirection.without stream)).1 ∧
      (openAll ({ shell := shell.report (Fault.redirection target.path).message } : Run σ)
        (redirection.without stream)).2.Alike (openAll ({ shell } : Run σ) redirection).2 := by
  unfold openAll
  cases h with
  | output htarget hrefuses =>
    -- the runs are alike when the turn of standard error comes
    rw [htarget, openTarget_of_refuses hrefuses]
    exact Alike.openRest ⟨[.refused target.path], rfl⟩ none redirection.errors
  | errors htarget houtput hrefuses =>
    rw [Redirection.without, houtput, htarget, openTarget_none, openTarget_none]
    dsimp only
    rw [openRest_of_refuses hrefuses, openRest_none]
    exact ⟨rfl, ⟨_, rfl⟩⟩
  | @errorsAfterOutput _ other machine outlet htarget houtput hnul hopen hrefuses =>
    -- the message is there before the target of standard output is opened, and stays there
    have hopen' := congrArg
      (Except.map fun made ↦ (made.1.printError
        ((Fault.redirection target.path).message ++ "\n").toUTF8, made.2)) hopen
    rw [← Machine.openOutlet_printError] at hopen'
    rw [Redirection.without, houtput, htarget, openTarget_of_opens hnul hopen,
      openTarget_of_opens hnul hopen']
    dsimp only
    rw [openRest_of_refuses (by exact hrefuses), openRest_none]
    exact ⟨rfl, ⟨_, rfl⟩⟩

end Run

/-! ## The run as a whole -/

variable (E : Engine σ) (registered : List String) (stages : List Stage)

theorem run_eq_openAll (redirection : Redirection) (shell : Shell) :
    run E registered stages redirection shell =
      match Run.openAll { shell } redirection with
      | (.error fault, r) => (.error fault, r.closeFiles)
      | (.ok targets, r) =>
        ((runStages E registered stages targets r).1,
          (runStages E registered stages targets r).2.closeFiles) := by
  unfold run Run.openAll
  generalize ({ shell } : Run σ).openTarget redirection.output = opened
  obtain ⟨result, between⟩ := opened
  cases result with
  | error fault => rfl
  | ok output =>
    dsimp only [Run.openRest]
    generalize between.openTarget redirection.errors = opened
    obtain ⟨result, r⟩ := opened
    cases result <;> rfl

/-- **A target that cannot be opened only loses itself.** The run has the same result, and leaves
the same shell, as if the message had been printed first and the redirection had no such target. -/
theorem run_refused {shell : Shell} {redirection : Redirection} {stream : Stream} {target : Target}
    (h : IsRefused shell redirection stream target) :
    (run E registered stages redirection shell).1 =
        (run E registered stages (redirection.without stream)
          (shell.report ("shell: cannot open '" ++ target.path ++ "'"))).1 ∧
      (run E registered stages redirection shell).2.shell =
        (run E registered stages (redirection.without stream)
          (shell.report ("shell: cannot open '" ++ target.path ++ "'"))).2.shell := by
  obtain ⟨hsame, halike⟩ := Run.openAll_refused (σ := σ) h
  have hmessage : (Fault.redirection target.path).message =
      "shell: cannot open '" ++ target.path ++ "'" := rfl
  rw [hmessage] at hsame halike
  rw [run_eq_openAll, run_eq_openAll]
  generalize Run.openAll ({ shell } : Run σ) redirection = opened at hsame halike
  generalize Run.openAll (_ : Run σ) (redirection.without stream) = opened' at hsame halike
  obtain ⟨result, r⟩ := opened
  obtain ⟨result', r'⟩ := opened'
  cases hsame
  cases result with
  | error fault => exact ⟨rfl, halike.closeFiles.shell_eq⟩
  | ok targets =>
    obtain ⟨hresult, hend⟩ := halike.runStages E registered stages targets
    exact ⟨hresult, hend.closeFiles.shell_eq⟩

theorem refuses_empty (m : Machine) (append : Bool) : Refuses m ⟨"", append⟩ := by
  have hlocate : m.files.locate m.cwd "" = .error .noEntry := by
    rw [FileSystem.locate, if_pos rfl]
  have hslash : FileSystem.asksForDirectory "" = false := by decide +kernel
  have hnul : Path.hasNul "" = false := by decide +kernel
  refine ⟨hnul, .noEntry, ?_⟩
  simp only [Machine.openOutlet, FileSystem.descriptorNamed?, FileSystem.lookUp, FileSystem.find,
    FileSystem.openFile, hlocate, hslash, Bool.and_false, Bool.false_and, Bool.false_eq_true,
    if_false, Except.map]

/-- The redirection of the output to a file, and of the errors to no file at all. -/
def toOutAndNowhere : Redirection :=
  { toOut with errors := some ⟨"", false⟩ }

/-- The commands run as if only the output had a target. -/
theorem run_refused_nowhere :
    IsRefused {} toOutAndNowhere .errors ⟨"", false⟩ ∧
    (run noPrograms Standard.registry.registered complaintStages toOutAndNowhere {}).1 =
      (run noPrograms Standard.registry.registered complaintStages toOut
        (({} : Shell).report "shell: cannot open ''")).1 ∧
    (run noPrograms Standard.registry.registered complaintStages toOutAndNowhere {}).2.shell =
      (run noPrograms Standard.registry.registered complaintStages toOut
        (({} : Shell).report "shell: cannot open ''")).2.shell := by
  have hnul : Path.hasNul "/out" = false := by decide +kernel
  have hrefused : IsRefused {} toOutAndNowhere .errors ⟨"", false⟩ :=
    .errorsAfterOutput rfl rfl hnul openOutlet_out (refuses_empty _ _)
  have hmessage : "shell: cannot open '" ++ (⟨"", false⟩ : Target).path ++ "'" =
      "shell: cannot open ''" := by decide +kernel
  have hwithout : toOutAndNowhere.without .errors = toOut := rfl
  have hsame := run_refused noPrograms Standard.registry.registered complaintStages hrefused
  rw [hmessage, hwithout] at hsame
  exact ⟨hrefused, hsame⟩

end Pipeline

end CommandShell

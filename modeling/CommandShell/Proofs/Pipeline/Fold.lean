import CommandShell.Command.Stage
import CommandShell.Proofs.Host.Handles
import CommandShell.Proofs.Line.Extraction
import Mathlib.Tactic.SplitIfs

/-!
# The fold of a pipeline of builtins

A pipeline of builtins needs no pipes, no processes and no copies: it is a fold over the shell. Here
is that fold, written without the state of a running pipeline. `openTargets` opens what the
redirection names, `runInner` runs the handler of a stage that another one follows, and
`Returned.deliver` writes what the last handler had to say. `runInOrder` puts them together.

Each target that is a file gets a handle of its own, so two targets of one name do not share their
place in the file.
-/

namespace CommandShell

open CommandShell.Host CommandShell.Line

/-! ## Moves of the shell -/

namespace Shell

/-- Opens the target of a stream, if it has one; a target that cannot be opened only costs a
message. -/
def openTarget (s : Shell) : Option Target → Option Outlet × Shell
  | none => (none, s)
  | some target =>
    match s.machine.openOutlet target.path target.append with
    | .ok (machine, outlet) => (some outlet, { s with machine })
    | .error _ => (none, s.report (Fault.redirection target.path).message)

/-- Gives up what was opened for a stream. -/
def closeTarget (s : Shell) : Option Outlet → Shell
  | none => s
  | some outlet => { s with machine := s.machine.closeOutlet outlet }

/-- Writes a text whole; an empty one asks nothing of the system. -/
def deliver (s : Shell) (outlet : Outlet) (text : String) : Except Fault Unit × Shell :=
  if text = "" then (.ok (), s)
  else match s.machine.write outlet text.toUTF8 with
    | (.ok (), machine) => (.ok (), { s with machine })
    | (.error cause, machine) => (.error (.system cause), { s with machine })

@[simp] theorem printError_empty (s : Shell) : s.printError "" = s := by
  simp [printError, Machine.printError]

@[simp] theorem print_empty (s : Shell) : s.print "" = s := by
  simp [print, Machine.print]

@[simp] theorem deliver_errors (s : Shell) (text : String) :
    s.deliver .errors text = (.ok (), s.printError text) := by
  unfold deliver
  split_ifs with htext
  · rw [htext, printError_empty]
  · rfl

@[simp] theorem deliver_output (s : Shell) (text : String) :
    s.deliver .output text = (.ok (), s.print text) := by
  unfold deliver
  split_ifs with htext
  · rw [htext, print_empty]
  · rfl

theorem exists_of_deliver {s : Shell} {outlet : Outlet} {text : String} {fault : Fault}
    (h : (s.deliver outlet text).1 = .error fault) : ∃ cause, fault = .system cause := by
  unfold deliver at h
  split at h
  · cases h
  · split at h
    · cases h
    · cases h
      exact ⟨_, rfl⟩

theorem hasOpened_openTarget {s : Shell} {target : Option Target} {id : FileId}
    (h : (s.openTarget target).1 = some (.file id)) :
    ∃ t, target = some t ∧ FileSystem.HasOpened s.machine.files
      (s.openTarget target).2.machine.files (.writing t.append) id := by
  cases target with
  | none => cases h
  | some t =>
    refine ⟨t, rfl, ?_⟩
    cases hopen : s.machine.openOutlet t.path t.append with
    | error cause =>
      simp only [openTarget, hopen] at h
      cases h
    | ok made =>
      simp only [openTarget, hopen, Option.some.injEq] at h ⊢
      obtain ⟨id, hid, hhandle⟩ | ⟨hne, -⟩ := Machine.hasOpened_of_openOutlet hopen
      · obtain rfl := Outlet.file.inj (hid.symm.trans h)
        exact hhandle
      · exact absurd h (hne id)

theorem open?_openTarget {s : Shell} (target : Option Target) {id : FileId} {f : OpenFile}
    (h : s.machine.files.open? id = some f) :
    (s.openTarget target).2.machine.files.open? id = some f := by
  cases target with
  | none => exact h
  | some t =>
    cases hopen : s.machine.openOutlet t.path t.append with
    | error cause =>
      simp only [openTarget, hopen]
      exact h
    | ok made =>
      simp only [openTarget, hopen]
      obtain ⟨id, -, hhandle⟩ | ⟨-, hsame⟩ := Machine.hasOpened_of_openOutlet hopen
      · exact (hhandle.open?_of_open? h).2
      · rwa [hsame]

end Shell

namespace Pipeline

/-- The shell with the targets of a redirection open. -/
structure Opened where
  shell : Shell
  output : Option Outlet
  errors : Option Outlet

def Opened.outlet? (o : Opened) : Stream → Option Outlet
  | .output => o.output
  | .errors => o.errors

/-- Opens the target of standard output, and then that of standard error. -/
def openTargets (redirection : Redirection) (s : Shell) : Opened :=
  let output := s.openTarget redirection.output
  let errors := output.2.openTarget redirection.errors
  { shell := errors.2, output := output.1, errors := errors.1 }

/-- Each file that was opened has a handle of its own: it is open, at its beginning, and in the mode
that its target asks for. -/
structure Opened.HasHandles (o : Opened) (redirection : Redirection) : Prop where
  fresh : ∀ stream target id, redirection.target? stream = some target →
    o.outlet? stream = some (.file id) →
      ∃ node, o.shell.machine.files.open? id = some { node, mode := .writing target.append }
  distinct : ∀ id, o.output = some (.file id) → o.errors ≠ some (.file id)

/-- What a handler leaves when it returns. -/
structure Returned where
  status : Int
  output : String
  errors : String
  shell : Shell

def returned? (registry : Registry) (inPipeline : Bool) (command : Command) (s : Shell) :
    Option Returned :=
  match registry.get? command.name with
  | none => none
  | some builtin =>
    match builtin.handler
        { args := command.arguments, inPipeline, registered := registry.registered } s with
    | (.returned status said complained, shell) =>
      some { status, output := said, errors := complained, shell }
    | (.raised _ _ _, _) => none

/-- The shell after a stage that another one follows: nobody reads its output, and the shell's own
standard error takes its errors. -/
def runInner (registry : Registry) (inPipeline : Bool) (s : Shell) (command : Command) :
    Option Shell :=
  (returned? registry inPipeline command s).map fun r ↦ r.shell.printError r.errors

/-- The end of the last stage: its errors are written, then its output, each to what was opened for
it or else to the shell's own stream, and its status is the result. If the system refuses one of
them, perhaps after a part of it, that is the end. -/
def Returned.deliver (r : Returned) (toOutput toErrors : Option Outlet) :
    Except Fault Int × Shell :=
  match r.shell.deliver (toErrors.getD .errors) r.errors with
  | (.error fault, s) => (.error fault, s)
  | (.ok (), s) =>
    match s.deliver (toOutput.getD .output) r.output with
    | (.error fault, s) => (.error fault, s)
    | (.ok (), s) => (.ok r.status, s)

theorem Returned.exists_of_deliver {r : Returned} {toOutput toErrors : Option Outlet}
    {fault : Fault} (h : (r.deliver toOutput toErrors).1 = .error fault) :
    ∃ cause, fault = .system cause := by
  unfold Returned.deliver at h
  split at h
  · next herrors =>
    cases h
    exact Shell.exists_of_deliver (congrArg Prod.fst herrors)
  · split at h
    · next houtput =>
      cases h
      exact Shell.exists_of_deliver (congrArg Prod.fst houtput)
    · cases h

/-- A pipeline of builtins as a fold from left to right: its result and the shell after it, unless
one of the handlers does not return. -/
def runInOrder (registry : Registry) (commands : List Command) (redirection : Redirection)
    (s : Shell) : Option (Except Fault Int × Shell) := do
  let opened := openTargets redirection s
  let inPipeline := decide (2 ≤ commands.length)
  let reached ← commands.dropLast.foldlM (runInner registry inPipeline) opened.shell
  let last ← commands.getLast?
  let reply ← returned? registry inPipeline last reached
  let (result, after) := reply.deliver opened.output opened.errors
  return (result, (after.closeTarget opened.output).closeTarget opened.errors)

theorem steps_of_runInOrder {registry : Registry} {commands : List Command}
    {redirection : Redirection} {s after : Shell} {result : Except Fault Int}
    (h : runInOrder registry commands redirection s = some (result, after)) :
    ∃ before last reached reply, commands = before ++ [last] ∧
      before.foldlM (runInner registry (decide (2 ≤ commands.length)))
        (openTargets redirection s).shell = some reached ∧
      returned? registry (decide (2 ≤ commands.length)) last reached = some reply ∧
      result = (reply.deliver (openTargets redirection s).output
        (openTargets redirection s).errors).1 ∧
      after = ((reply.deliver (openTargets redirection s).output
        (openTargets redirection s).errors).2.closeTarget
          (openTargets redirection s).output).closeTarget (openTargets redirection s).errors := by
  obtain ⟨reached, hbefore, h⟩ := Option.bind_eq_some_iff.mp h
  obtain ⟨last, hlast, h⟩ := Option.bind_eq_some_iff.mp h
  obtain ⟨reply, hreply, h⟩ := Option.bind_eq_some_iff.mp h
  cases h
  obtain ⟨before, rfl⟩ := List.getLast?_eq_some_iff.mp hlast
  rw [List.dropLast_concat] at hbefore
  exact ⟨before, last, reached, reply, rfl, hbefore, hreply, rfl, rfl⟩

theorem hasHandles_openTargets (redirection : Redirection) (s : Shell) :
    (openTargets redirection s).HasHandles redirection := by
  constructor
  · intro stream target id htarget houtlet
    cases stream with
    | output =>
      obtain ⟨t, ht, hhandle⟩ := Shell.hasOpened_openTarget houtlet
      obtain rfl : t = target := Option.some.inj (ht.symm.trans htarget)
      obtain ⟨node, hnode⟩ := hhandle.open?_self
      exact ⟨node, Shell.open?_openTarget redirection.errors hnode⟩
    | errors =>
      obtain ⟨t, ht, hhandle⟩ := Shell.hasOpened_openTarget houtlet
      obtain rfl : t = target := Option.some.inj (ht.symm.trans htarget)
      exact hhandle.open?_self
  · intro id houtput herrors
    obtain ⟨t, -, hfirst⟩ := Shell.hasOpened_openTarget houtput
    obtain ⟨u, -, hsecond⟩ := Shell.hasOpened_openTarget herrors
    obtain ⟨node, hnode⟩ := hfirst.open?_self
    exact (hsecond.open?_of_open? hnode).1 rfl

theorem handler_of_returned? {registry : Registry} {inPipeline : Bool} {command : Command}
    {s : Shell} {reply : Returned} (h : returned? registry inPipeline command s = some reply) :
    ∃ builtin, registry.get? command.name = some builtin ∧
      builtin.handler
          { args := command.arguments, inPipeline, registered := registry.registered } s =
        (.returned reply.status reply.output reply.errors, reply.shell) := by
  unfold returned? at h
  split at h
  · cases h
  · next builtin hbuiltin =>
    split at h
    · next status said complained shell hcall =>
      cases h
      exact ⟨builtin, hbuiltin, hcall⟩
    · cases h

end Pipeline

end CommandShell

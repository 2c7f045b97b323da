import CommandShell.Pipeline.Execution
import CommandShell.Proofs.Command.Staging
import CommandShell.Proofs.Pipeline.Fold

/-!
# Pipelines of builtins

While a pipeline of builtins runs, nobody else is at work. `Run.AtRest` says so, and which shell the
run has come to. Every move of the run is then a move of that shell, so the run as a whole is the
fold `runInOrder`, whatever schedule the workers would have had.

The result is the status of the last handler unless the system refuses what that handler said: a
device without room takes nothing.
-/

namespace CommandShell

open CommandShell.Host CommandShell.Line

/-! ## The stages of a pipeline of builtins -/

namespace Stage

def ofBuiltin (registry : Registry) (length position : Nat) (command : Command) : Stage where
  command := command
  work := .builtin ((registry.get? command.name).map (·.handler))
  position := position
  isFirst := position == 0
  isLast := position + 1 == length

theorem buildFrom_cons {registry : Registry} {m : Machine} {position length : Nat}
    {command : Command} {rest : List Command} {stages : List Stage}
    (h : buildFrom registry m position length (command :: rest) = .ok stages)
    (hwork : ∀ stage ∈ stages, ∃ handler, stage.work = .builtin handler) :
    ∃ later, stages = ofBuiltin registry length position command :: later ∧
      buildFrom registry m (position + 1) length rest = .ok later ∧
      ∀ stage ∈ later, ∃ handler, stage.work = .builtin handler := by
  obtain ⟨work, later, hname, hlater, rfl⟩ := buildFrom_cons_eq_ok_iff.mp h
  rw [List.forall_mem_cons] at hwork
  obtain ⟨⟨handler, rfl⟩, hwork⟩ := hwork
  obtain rfl := handler_of_workOf hname
  exact ⟨later, rfl, hlater, hwork⟩

end Stage

/-! ## Runs without workers -/

namespace Pipeline

namespace Run

variable {σ : Type} {r : Run σ} {s : Shell} {opened : List Outlet}

/-- A run that has come to a shell, with certain outlets open, and in which nobody is at work. -/
structure AtRest (r : Run σ) (s : Shell) (opened : List Outlet) : Prop where
  shell_eq : r.shell = s
  opened_eq : r.opened = opened
  processes_eq : r.processes = #[]
  copies_eq : r.copies = #[]

namespace AtRest

theorem note (h : r.AtRest s opened) (e : Event) : (r.note e).AtRest s opened :=
  ⟨h.shell_eq, h.opened_eq, h.processes_eq, h.copies_eq⟩

theorem withShell (h : r.AtRest s opened) (after : Shell) :
    Run.AtRest { r with shell := after } after opened :=
  ⟨rfl, h.opened_eq, h.processes_eq, h.copies_eq⟩

theorem closeLink (h : r.AtRest s opened) (link : Link) : (r.closeLink link).AtRest s opened := by
  cases link <;> exact ⟨h.shell_eq, h.opened_eq, h.processes_eq, h.copies_eq⟩

theorem closeIncoming (h : r.AtRest s opened) (position : Nat) (incoming : Option Link) :
    (r.closeIncoming position incoming).AtRest s opened := by
  cases incoming with
  | none => exact h
  | some link => exact (h.closeLink link).note _

theorem turn_eq (h : r.AtRest s opened) (P : Programs σ) (t : Turn) : r.turn P t = r := by
  cases t with
  | process id most => simp [turn, stepProcess, h.processes_eq]
  | copy id most => simp [turn, stepCopy, h.copies_eq]

theorem turns_eq (h : r.AtRest s opened) (P : Programs σ) (ts : List Turn) :
    r.turns P ts = r := by
  induction ts with
  | nil => rfl
  | cons t ts ih => rw [turns_cons, h.turn_eq, ih]

theorem isDone_eq (h : r.AtRest s opened) : r.isDone = true := by
  simp [isDone, h.processes_eq, h.copies_eq]

theorem cleanUp (h : r.AtRest s opened) (left : Option Link) :
    (r.cleanUp left).AtRest s opened := by
  -- there are no copies to cancel and no processes to wait for
  have key : ∀ r : Run σ, r.AtRest s opened → r.cancelCopies.reap = r := by
    intro r h
    simp [cancelCopies, reap, h.processes_eq, h.copies_eq]
  unfold Run.cleanUp
  cases left with
  | none =>
    rw [key r h]
    exact h
  | some link =>
    rw [key _ (h.closeLink link)]
    exact h.closeLink link

/-! ### Targets -/

theorem openTarget (h : r.AtRest s opened) {target : Option Target}
    (hnul : ∀ t, target = some t → Path.hasNul t.path = false) :
    ∃ after : Run σ, r.openTarget target = (.ok (s.openTarget target).1, after) ∧
      after.AtRest (s.openTarget target).2 (opened ++ (s.openTarget target).1.toList) := by
  obtain ⟨rfl, rfl, hprocesses, hcopies⟩ := h
  cases target with
  | none =>
    refine ⟨r, rfl, rfl, ?_, hprocesses, hcopies⟩
    simp [Shell.openTarget]
  | some t =>
    simp only [Run.openTarget, Shell.openTarget, hnul t rfl, Bool.false_eq_true, if_false]
    cases r.shell.machine.openOutlet t.path t.append with
    | ok made => exact ⟨_, rfl, rfl, rfl, hprocesses, hcopies⟩
    | error cause =>
      refine ⟨_, rfl, rfl, ?_, hprocesses, hcopies⟩
      simp [Run.note]

theorem openTargets (h : r.AtRest s opened) {redirection : Redirection}
    (hnul : ∀ stream target, redirection.target? stream = some target →
      Path.hasNul target.path = false) :
    ∃ between after : Run σ,
      r.openTarget redirection.output =
        (.ok (Pipeline.openTargets redirection s).output, between) ∧
      between.openTarget redirection.errors =
        (.ok (Pipeline.openTargets redirection s).errors, after) ∧
      after.AtRest (Pipeline.openTargets redirection s).shell
        (opened ++ (Pipeline.openTargets redirection s).output.toList ++
          (Pipeline.openTargets redirection s).errors.toList) := by
  obtain ⟨between, houtput, hbetween⟩ := h.openTarget (hnul .output)
  obtain ⟨after, herrors, hafter⟩ := hbetween.openTarget (hnul .errors)
  exact ⟨between, after, houtput, herrors, hafter⟩

theorem deliver (h : r.AtRest s opened) (outlet : Outlet) (text : String) :
    ∃ r' : Run σ, r.deliver (.outlet outlet) text = ((s.deliver outlet text).1, r') ∧
      r'.AtRest (s.deliver outlet text).2 opened := by
  unfold Shell.deliver Run.deliver
  split_ifs with htext
  · exact ⟨r, rfl, h⟩
  · rw [Run.write, h.shell_eq]
    rcases s.machine.write outlet text.toUTF8 with ⟨_ | _, machine⟩
    all_goals
      refine ⟨_, rfl, ?_⟩
      rw [← h.shell_eq]
      exact h.withShell _

theorem closeFiles (h : r.AtRest s opened) :
    r.closeFiles.shell = { s with machine := opened.foldl Machine.closeOutlet s.machine } := by
  rw [Run.closeFiles, changeMachine, h.opened_eq, h.shell_eq]

/-! ### Stages -/

/-- A stage that another one follows comes down to its handler; its output is a link that nobody
will read. -/
theorem startStage_inner (h : r.AtRest s opened) (P : Programs σ) {registry : Registry}
    {length position : Nat} {command : Command} (hlast : position + 1 ≠ length) {reply : Returned}
    (hreply : returned? registry true command s = some reply) (incoming : Option Link)
    (targets : Targets) :
    ∃ (link : Option Link) (after : Run σ),
      r.startStage P registry.registered (.ofBuiltin registry length position command) incoming
          targets = (.ok (link, .known reply.status), after) ∧
      after.AtRest (reply.shell.printError reply.errors) opened := by
  obtain ⟨builtin, hbuiltin, hcall⟩ := handler_of_returned? hreply
  have hcalled := (h.closeIncoming position incoming).note (.handled position)
  simp only [startStage, runBuiltin, Stage.ofBuiltin, hbuiltin, Option.map_some,
    hcalled.shell_eq, beq_eq_false_iff_ne.mpr hlast, Bool.and_false, Bool.not_false, hcall,
    Bool.false_eq_true, if_false, sinkOr, Option.getD_none]
  obtain ⟨r', hr', hrest⟩ := (hcalled.withShell reply.shell).deliver .errors reply.errors
  rw [Shell.deliver_errors] at hr' hrest
  rw [hr']
  exact ⟨_, r', rfl, hrest⟩

/-- The last stage comes down to its handler and to what is done with its reply. -/
theorem startStage_last (h : r.AtRest s opened) (P : Programs σ) {registry : Registry}
    {position : Nat} {command : Command} {reply : Returned}
    (hreply : returned? registry (!(position == 0)) command s = some reply)
    (incoming : Option Link) (targets : Targets) :
    ∃ after : Run σ,
      r.startStage P registry.registered (.ofBuiltin registry (position + 1) position command)
          incoming targets =
        ((reply.deliver targets.output targets.errors).1.map fun status ↦ (none, .known status),
          after) ∧
      after.AtRest (reply.deliver targets.output targets.errors).2 opened := by
  obtain ⟨builtin, hbuiltin, hcall⟩ := handler_of_returned? hreply
  have hcalled := (h.closeIncoming position incoming).note (.handled position)
  simp only [startStage, runBuiltin, Stage.ofBuiltin, hbuiltin, Option.map_some,
    hcalled.shell_eq, BEq.rfl, Bool.and_true, hcall, if_true, sinkOr, Returned.deliver]
  -- standard error comes first, and a fault there keeps the output back
  obtain ⟨r', hr', hrest⟩ :=
    (hcalled.withShell reply.shell).deliver (targets.errors.getD .errors) reply.errors
  rcases herrors : reply.shell.deliver (targets.errors.getD .errors) reply.errors with
    ⟨fault | done, said⟩
  · rw [herrors] at hr' hrest
    rw [hr']
    exact ⟨_, rfl, hrest⟩
  · rw [herrors] at hr' hrest
    rw [hr']
    obtain ⟨r'', hr'', hend⟩ := hrest.deliver (targets.output.getD .output) reply.output
    rcases houtput : said.deliver (targets.output.getD .output) reply.output with
      ⟨fault | done, last⟩
    · rw [houtput] at hr'' hend
      simp only [hr'', houtput]
      exact ⟨_, rfl, hend⟩
    · rw [houtput] at hr'' hend
      simp only [hr'', houtput]
      exact ⟨_, rfl, hend⟩

/-- **The stages of a pipeline of builtins are run in order**, whatever place the first of them has:
each handler is called once, on the shell that the one before it left. -/
theorem startAll (E : Engine σ) {registry : Registry} {m : Machine} {length : Nat}
    {targets : Targets} {last : Command} {reached : Shell} {reply : Returned}
    (hreply : returned? registry (decide (2 ≤ length)) last reached = some reply)
    {before : List Command} {position : Nat} {stages : List Stage} (incoming : Option Link)
    (h : r.AtRest s opened) (hlength : position + before.length + 1 = length)
    (hbuild : Stage.buildFrom registry m position length (before ++ [last]) = .ok stages)
    (hwork : ∀ stage ∈ stages, ∃ handler, stage.work = .builtin handler)
    (hbefore : before.foldlM (runInner registry (decide (2 ≤ length))) s = some reached) :
    ∃ (earlier : List StageStatus) (left : Option Link) (after : Run σ),
      Run.startAll E registry.registered targets stages incoming r =
        ((reply.deliver targets.output targets.errors).1.map
          fun status ↦ earlier ++ [.known status], left, after) ∧
      after.AtRest (reply.deliver targets.output targets.errors).2 opened := by
  induction before generalizing position stages r s incoming with
  | nil =>
    obtain ⟨later, rfl, hlater, -⟩ := Stage.buildFrom_cons hbuild hwork
    cases hlater
    cases hbefore
    obtain rfl : position + 1 = length := hlength
    -- the last stage is told of a pipeline exactly if something came before it
    have hfirst : decide (2 ≤ position + 1) = !(position == 0) := by
      cases position <;> simp
    rw [hfirst] at hreply
    obtain ⟨after, hstart, hrest⟩ := h.startStage_last E.programs hreply incoming targets
    rw [Run.startAll, hstart]
    cases (reply.deliver targets.output targets.errors).1 with
    | error fault => exact ⟨[], _, _, rfl, hrest⟩
    | ok status =>
      simp only [Except.map, hrest.turns_eq, Run.startAll]
      exact ⟨[], _, _, rfl, hrest⟩
  | cons command before ih =>
    obtain ⟨later, rfl, hlater, hwork⟩ := Stage.buildFrom_cons hbuild hwork
    rw [List.length_cons] at hlength
    -- a stage that another one follows is never alone
    have hseveral : decide (2 ≤ length) = true := decide_eq_true (by omega)
    rw [List.foldlM_cons] at hbefore
    obtain ⟨next, hnext, hbefore⟩ := Option.bind_eq_some_iff.mp hbefore
    rw [hseveral] at hnext
    obtain ⟨inner, hinner, rfl⟩ := Option.map_eq_some_iff.mp hnext
    obtain ⟨link, r', hstart, hrest⟩ :=
      h.startStage_inner E.programs (by omega : position + 1 ≠ length) hinner incoming targets
    obtain ⟨earlier, left, after, hall, hend⟩ :=
      ih link hrest (by omega) hlater hwork hbefore
    rw [Run.startAll, hstart]
    simp only [hrest.turns_eq, hall]
    refine ⟨.known inner.status :: earlier, left, after, ?_, hend⟩
    cases (reply.deliver targets.output targets.errors).1 <;> rfl

end AtRest

end Run

/-- With all targets open, a pipeline of builtins comes to the end of its last stage. -/
theorem runStages_builtins {σ : Type} (E : Engine σ) {registry : Registry} {m : Machine}
    {before : List Command} {last : Command} {stages : List Stage} (targets : Run.Targets)
    {r : Run σ} {s reached : Shell} {opened : List Outlet} {reply : Returned}
    (h : r.AtRest s opened) (hbuild : buildStages registry m (before ++ [last]) = .ok stages)
    (hwork : ∀ stage ∈ stages, ∃ handler, stage.work = .builtin handler)
    (hbefore : before.foldlM
      (runInner registry (decide (2 ≤ (before ++ [last]).length))) s = some reached)
    (hreply : returned? registry (decide (2 ≤ (before ++ [last]).length)) last reached =
      some reply) :
    ∃ after : Run σ, runStages E registry.registered stages targets r =
        ((reply.deliver targets.output targets.errors).1, after) ∧
      after.AtRest (reply.deliver targets.output targets.errors).2 opened := by
  have hlength : 0 + before.length + 1 = (before ++ [last]).length := by simp
  obtain ⟨earlier, left, after, hall, hrest⟩ :=
    Run.AtRest.startAll E hreply none h hlength hbuild hwork hbefore
  refine ⟨after.cleanUp left, ?_, hrest.cleanUp left⟩
  rw [runStages, hall]
  cases (reply.deliver targets.output targets.errors).1 with
  | error fault => rfl
  | ok status =>
    simp [Except.map, Run.settle_of_isDone _ _ hrest.isDone_eq, hrest.isDone_eq, Run.lastStatus,
      Run.resolve]

/-- From the targets to their end: the result is that of the last stage, and no process was started
for it. -/
theorem exists_run {σ : Type} (E : Engine σ) {registry : Registry} {m : Machine}
    {before : List Command} {last : Command} {stages : List Stage} {redirection : Redirection}
    {shell reached : Shell} {reply : Returned}
    (hbuild : buildStages registry m (before ++ [last]) = .ok stages)
    (hwork : ∀ stage ∈ stages, ∃ handler, stage.work = .builtin handler)
    (hnul : ∀ stream target, redirection.target? stream = some target →
      Path.hasNul target.path = false)
    (hbefore : before.foldlM
      (runInner registry (decide (2 ≤ (before ++ [last]).length)))
        (openTargets redirection shell).shell = some reached)
    (hreply : returned? registry (decide (2 ≤ (before ++ [last]).length)) last reached =
      some reply) :
    let opened := openTargets redirection shell
    let ended := reply.deliver opened.output opened.errors
    ∃ r : Run σ, run E registry.registered stages redirection shell = (ended.1, r) ∧
      r.shell = (ended.2.closeTarget opened.output).closeTarget opened.errors ∧
      r.processes = #[] := by
  intro opened ended
  have hstart : Run.AtRest ({ shell } : Run σ) shell [] := ⟨rfl, rfl, rfl, rfl⟩
  obtain ⟨between, r, houtput, herrors, hr⟩ := hstart.openTargets hnul
  obtain ⟨r', hstages, hr'⟩ := runStages_builtins E ⟨opened.output, opened.errors⟩ hr hbuild hwork
    hbefore hreply
  refine ⟨r'.closeFiles, by simp only [run, houtput, herrors, hstages, opened, ended], ?_,
    hr'.processes_eq⟩
  have hclosed : ∀ (s : Shell) (o e : Option Outlet),
      { s with machine := ([] ++ o.toList ++ e.toList).foldl Machine.closeOutlet s.machine } =
        (s.closeTarget o).closeTarget e := by
    rintro s (_ | o) (_ | e) <;> rfl
  rw [hr'.closeFiles, hclosed]

/-- **A pipeline of builtins is a fold from left to right.** Its result, the shell it leaves and the
handles it writes through are those of `runInOrder`, and no process was started for it. -/
theorem run_eq_runInOrder {σ : Type} (E : Engine σ) {registry : Registry} {m : Machine}
    {commands : List Command} {stages : List Stage} {redirection : Redirection}
    {shell after : Shell} {result : Except Fault Int}
    (hbuild : buildStages registry m commands = .ok stages)
    (hwork : ∀ stage ∈ stages, ∃ handler, stage.work = .builtin handler)
    (hnul : ∀ stream target, redirection.target? stream = some target →
      Path.hasNul target.path = false)
    (hfold : runInOrder registry commands redirection shell = some (result, after)) :
    (run E registry.registered stages redirection shell).1 = result ∧
    (run E registry.registered stages redirection shell).2.shell = after ∧
    (run E registry.registered stages redirection shell).2.processes = #[] ∧
    (openTargets redirection shell).HasHandles redirection := by
  obtain ⟨before, last, reached, reply, rfl, hbefore, hreply, rfl, rfl⟩ :=
    steps_of_runInOrder hfold
  obtain ⟨r, hrun, hshell, hprocesses⟩ := exists_run E hbuild hwork hnul hbefore hreply
  rw [hrun]
  exact ⟨rfl, hshell, hprocesses, hasHandles_openTargets redirection shell⟩

/-- One command that is a builtin is one stage. -/
theorem buildStages_call {registry : Registry} {command : Command} {b : Builtin}
    (hget : registry.get? command.name = some b) (m : Machine) :
    buildStages registry m [command] = .ok [.ofBuiltin registry 1 0 command] := by
  have hwork : Stage.workOf registry m command.name =
      .ok (.builtin ((registry.get? command.name).map (·.handler))) := by
    rw [Stage.workOf_of_get? hget, hget]
    rfl
  rw [buildStages, Stage.buildFrom, hwork]
  rfl

theorem exists_run_call {σ : Type} (E : Engine σ) {registry : Registry} {command : Command}
    {b : Builtin} (hget : registry.get? command.name = some b) {redirection : Redirection}
    (hnul : ∀ stream target, redirection.target? stream = some target →
      Path.hasNul target.path = false)
    {shell : Shell} {reply : Returned}
    (hreply : returned? registry false command (openTargets redirection shell).shell =
      some reply) :
    let opened := openTargets redirection shell
    let ended := reply.deliver opened.output opened.errors
    ∃ r : Run σ,
      run E registry.registered [.ofBuiltin registry 1 0 command] redirection shell =
        (ended.1, r) ∧
      r.shell = (ended.2.closeTarget opened.output).closeTarget opened.errors := by
  have hbuild : buildStages registry shell.machine ([] ++ [command]) =
      .ok [.ofBuiltin registry 1 0 command] := buildStages_call hget shell.machine
  have hwork : ∀ stage ∈ [Stage.ofBuiltin registry 1 0 command],
      ∃ handler, stage.work = .builtin handler :=
    List.forall_mem_singleton.mpr ⟨_, rfl⟩
  obtain ⟨r, hrun, hshell, -⟩ := exists_run E hbuild hwork hnul rfl hreply
  exact ⟨r, hrun, hshell⟩

/-! ### Two runs -/

def noPrograms : Engine Unit where
  programs := { start := fun _ _ _ _ ↦ .error .noEntry, act := fun _ ↦ .exit 0 }

def complaint : List Command :=
  [⟨"history", ["x"]⟩, ⟨"echo", ["hi"]⟩]

def complaintStages : List Stage :=
  complaint.zipIdx.map fun c ↦ .ofBuiltin Standard.registry 2 c.2 c.1

/-- The redirection of the output to a file in the root directory. -/
def toOut : Redirection where
  output := some ⟨"/out", false⟩

/-- What the commands leave when the root directory was empty: the complaint on standard error, and
the output in a file whose handle is closed again. -/
def afterComplaint : Shell where
  machine := {
    files := {
      nodes := #[.directory 0 [("out", 1)], .file 0o644 "hi\n".toUTF8]
      opened := #[{ node := 1, offset := 3, mode := .writing false, isOpen := false }] }
    errors := "history: x: numeric argument required\n".toUTF8 }

theorem locate_out :
    ({} : FileSystem).locate FileSystem.root "/out" = .ok (.vacant 0 "out") := by
  have hnames : Path.components "/out" = ["out"] := by decide +kernel
  rw [FileSystem.locate, hnames, if_neg (by decide), if_neg (by decide), FileSystem.walk]
  rfl

theorem openOutlet_out : ({} : Machine).openOutlet "/out" false =
    .ok ({ files := {
      nodes := #[.directory 0 [("out", 1)], .file 0o644 ByteArray.empty]
      opened := #[{ node := 1, mode := .writing false }] } }, .file 0) := by
  simp only [Machine.openOutlet, FileSystem.descriptorNamed?, FileSystem.lookUp, FileSystem.find,
    FileSystem.openFile, locate_out]
  rfl

theorem run_eq_runInOrder_complaint :
    buildStages Standard.registry {} complaint = .ok complaintStages ∧
    (∀ stage ∈ complaintStages, ∃ handler, stage.work = .builtin handler) ∧
    (∀ stream target, toOut.target? stream = some target → Path.hasNul target.path = false) ∧
    runInOrder Standard.registry complaint toOut {} = some (.ok 0, afterComplaint) ∧
    (run noPrograms Standard.registry.registered complaintStages toOut {}).1 = .ok 0 ∧
    (run noPrograms Standard.registry.registered complaintStages toOut {}).2.shell =
      afterComplaint := by
  have hbuild : buildStages Standard.registry {} complaint = .ok complaintStages := rfl
  have hwork : ∀ stage ∈ complaintStages, ∃ handler, stage.work = .builtin handler := by
    intro stage hstage
    obtain ⟨c, -, rfl⟩ := List.mem_map.mp hstage
    exact ⟨_, rfl⟩
  have hnul : ∀ stream target, toOut.target? stream = some target →
      Path.hasNul target.path = false := by
    intro stream target htarget
    cases stream <;> cases htarget
    decide +kernel
  have hfold : runInOrder Standard.registry complaint toOut {} =
      some (.ok 0, afterComplaint) := by
    simp only [runInOrder, openTargets, Shell.openTarget, toOut, openOutlet_out]
    rfl
  obtain ⟨hresult, hshell, -⟩ := run_eq_runInOrder noPrograms hbuild hwork hnul hfold
  exact ⟨hbuild, hwork, hnul, hfold, hresult, hshell⟩

/-- A shell on a machine with a device that has no room. -/
def roomless : Shell where
  machine := { files := {
    nodes := #[.directory 0 [("dev", 1)], .directory 0 [("full", 2)], .device .full] } }

theorem openOutlet_roomless : roomless.machine.openOutlet "/dev/full" false =
    .ok ({ roomless.machine with
      files := (roomless.machine.files.addOpen 2 (.writing false)).1 }, .file 0) := by
  have hfind : roomless.machine.files.find roomless.machine.cwd "/dev/full" = .ok 2 :=
    FileSystem.find_of_leads 0 ["dev", "full"] (by decide +kernel)
      (.node rfl nofun (.node rfl nofun (.nil 2))) (by decide)
  simp only [Machine.openOutlet, FileSystem.descriptorNamed?, FileSystem.lookUp, hfind,
    FileSystem.openFile, FileSystem.find_eq_ok_iff_locate.mp hfind]
  rfl

/-- The result is not always the status of the last handler: what it said may be refused. -/
theorem run_echo_without_room :
    buildStages Standard.registry roomless.machine [⟨"echo", ["hi"]⟩] =
      .ok [.ofBuiltin Standard.registry 1 0 ⟨"echo", ["hi"]⟩] ∧
    (returned? Standard.registry false ⟨"echo", ["hi"]⟩ roomless).map (·.status) = some 0 ∧
    (run noPrograms Standard.registry.registered
      [.ofBuiltin Standard.registry 1 0 ⟨"echo", ["hi"]⟩]
      { output := some ⟨"/dev/full", false⟩ } roomless).1 = .error (.system .noSpace) := by
  have hnul : Path.hasNul "/dev/full" = false := by decide +kernel
  refine ⟨rfl, rfl, ?_⟩
  simp only [run, Run.openTarget, hnul, Bool.false_eq_true, if_false, openOutlet_roomless]
  rfl

end Pipeline

end CommandShell

import CommandShell.Proofs.Host.Writing
import CommandShell.Proofs.Line.SyntaxErrors
import CommandShell.Proofs.Pipeline.Record
import CommandShell.Proofs.Session.Rejection

/-!
# The targets that count

A line may name many targets, in any of its segments, and of those for one stream only the last one
counts. Two things together make sure that the others are not touched. Extraction and merging leave
one target for each stream, the last one of the whole line (`target?_of_parse`); and nothing else
than these is opened for a run, standard output before standard error, before any stage is started
(`run_opens`).

An attempt to open a target is noted whether it succeeds or not, so what a run has noted is also
what it has tried. What an attempt changes of the file system is what its path leads to: the node
that is opened, or the directory in which a file is made (`spares_of_openOutlet`).
-/

namespace CommandShell

open CommandShell.Host CommandShell.Line CommandShell.Text

namespace Line

/-! ## The targets of a line -/

/-- The operators among the words of a segment, each with the target that it takes. -/
def named : List String → List (Operator × String)
  | [] => []
  | [_] => []
  | word :: next :: rest =>
    match Operator.ofWord? word with
    | some op => (op, next) :: named rest
    | none => named (next :: rest)

/-- The operators of all segments of a text, in order. -/
def namedIn (cs : List Char) : List (Operator × String) :=
  (segments cs).flatMap fun segment ↦ named ((words segment).map String.ofList)

def lastNamed (stream : Stream) (pairs : List (Operator × String)) : Option Target :=
  (pairs.filterMap fun p ↦
    if p.1.stream = stream then some { path := p.2, append := p.1.append } else none).getLast?

theorem lastNamed_append (stream : Stream) (pairs more : List (Operator × String)) :
    lastNamed stream (pairs ++ more) = (lastNamed stream more).or (lastNamed stream pairs) := by
  rw [lastNamed, List.filterMap_append, List.getLast?_append]
  rfl

theorem target?_extract (ws : List String) (stream : Stream) :
    (extract ws).2.target? stream = lastNamed stream (named ws) := by
  induction ws using extract.induct with
  | case1 => exact Redirection.target?_empty stream
  | case2 word => exact Redirection.target?_empty stream
  | case3 word next rest op h ih =>
    have hnamed : named (word :: next :: rest) = [(op, next)] ++ named rest := by
      simp only [named, h, List.singleton_append]
    have hlast : lastNamed stream [(op, next)] =
        if op.stream = stream then some { path := next, append := op.append } else none := by
      simp only [lastNamed, List.filterMap_cons, List.filterMap_nil]
      split_ifs <;> rfl
    rw [extract_operator h, hnamed, lastNamed_append, hlast, Redirection.target?_merge, ih,
      Redirection.target?_set, Redirection.target?_empty]
  | case4 word next rest h ih =>
    have hnamed : named (word :: next :: rest) = named (next :: rest) := by
      simp only [named, h]
    rw [extract_cons_of_plain h, hnamed, ih]

theorem target?_mergeAll_redirected (texts : List (List Char)) (stream : Stream) :
    (mergeAll (texts.map redirected)).target? stream =
      lastNamed stream (texts.flatMap fun t ↦ named ((words t).map String.ofList)) := by
  induction texts with
  | nil => exact Redirection.target?_empty stream
  | cons t texts ih =>
    rw [List.flatMap_cons, lastNamed_append, ← ih, ← target?_extract]
    exact Redirection.target?_merge _ _ _

theorem target?_of_parse {line : String} {parsed : ParsedLine} (h : parse line = .ok parsed)
    (hcommands : parsed.commands ≠ []) (stream : Stream) :
    parsed.redirection.target? stream = lastNamed stream (namedIn (trim line.toList)) := by
  have hne : trim line.toList ≠ [] := by
    intro hblank
    rw [parse, hblank] at h
    cases h
    exact hcommands rfl
  rw [(wordsLeft_of_parse h hne).2.2, target?_mergeAll_redirected]
  rfl

end Line

/-! ## What an attempt leaves alone -/

namespace Host.Machine

open FileSystem

variable {m m' : Machine} {path : String} {keep : Bool} {o : Outlet}

/-- Opening a target leaves alone the bytes of every node that its path does not lead to, and every
free name that its path does not lead to. -/
structure Spares (m m' : Machine) (target : Option Target) : Prop where
  cwd_eq : m'.cwd = m.cwd
  contents_eq : ∀ id n, m.files.node? id = some n →
    (∀ t, target = some t → m.target? t.path ≠ some id) → m'.files.contents id = m.files.contents id
  stays_vacant : ∀ cwd path id name, m.files.locate cwd path = .ok (.vacant id name) →
    (∀ t, target = some t → m.files.locate m.cwd t.path ≠ .ok (.vacant id name)) →
      m'.files.locate cwd path = .ok (.vacant id name)

theorem spares_of_files_eq (hcwd : m'.cwd = m.cwd) (hfiles : m'.files = m.files)
    (target : Option Target) : Spares m m' target where
  cwd_eq := hcwd
  contents_eq := fun _ _ _ _ ↦ by rw [hfiles]
  stays_vacant := fun _ _ _ _ hvacant _ ↦ by rw [hfiles, hvacant]

theorem spares_of_openOutlet {target : Target}
    (h : m.openOutlet target.path target.append = .ok (m', o)) : Spares m m' (some target) := by
  obtain ⟨rfl, -⟩ | ⟨file, -, hm, hopens⟩ := opens_of_openOutlet h
  · exact spares_of_files_eq rfl rfl _
  have hcwd : m'.cwd = m.cwd := by rw [hm]
  cases hopens with
  | @there node leads opens =>
    refine ⟨hcwd, fun id n _ hne ↦ ?_, fun cwd path id name hvacant _ ↦ ?_⟩
    · have hother : id ≠ node := by
        rintro rfl
        exact hne target rfl leads
      exact contents_eq_of_node?_eq (opens.others id hother)
    · rw [opens.sameTree.locate_eq, hvacant]
  | @made directory free vacant opens =>
    obtain ⟨hgains, -⟩ := create_locates (n := .file 0o644 ByteArray.empty) vacant nofun
    refine ⟨hcwd, fun id n hnode _ ↦ ?_, fun cwd path id name hvacant hne ↦ ?_⟩
    · rw [← hgains.contents_eq hnode]
      exact contents_eq_of_node?_eq (opens.others id (hgains.ne_of_node? hnode))
    · rw [opens.sameTree.locate_eq]
      refine hgains.locate_of_vacant nofun hvacant ?_
      rintro ⟨rfl, rfl⟩
      exact hne target rfl vacant

end Host.Machine

namespace Pipeline

variable {σ : Type}

/-- An attempt to open the target of a stream, if it has one: what was opened, the shell after it,
and what is noted of it. -/
inductive Attempt (s : Shell) : Option Target → Option Outlet → Shell → List Event → Prop
  | unnamed : Attempt s none none s []
  | opened {target : Target} {machine : Machine} {outlet : Outlet}
      (opens : s.machine.openOutlet target.path target.append = .ok (machine, outlet)) :
      Attempt s (some target) (some outlet) { s with machine } [.opened target.path outlet]
  | refused {target : Target} {cause : Errno}
      (refuses : s.machine.openOutlet target.path target.append = .error cause) :
      Attempt s (some target) none (s.report (Fault.redirection target.path).message)
        [.refused target.path]

theorem Attempt.spares {s s' : Shell} {target : Option Target} {o : Option Outlet}
    {events : List Event} (h : Attempt s target o s' events) :
    s.machine.Spares s'.machine target := by
  cases h with
  | unnamed => exact Machine.spares_of_files_eq rfl rfl none
  | opened opens => exact Machine.spares_of_openOutlet opens
  | @refused t cause refuses =>
    have hcwd : (s.report (Fault.redirection t.path).message).machine.cwd = s.machine.cwd := rfl
    have hfiles : (s.report (Fault.redirection t.path).message).machine.files =
        s.machine.files := rfl
    exact Machine.spares_of_files_eq hcwd hfiles _

/-! ## What a run attempts -/

def Event.isAttempt : Event → Bool
  | .opened _ _ => true
  | .refused _ => true
  | _ => false

def NotesNoAttempt (before after : List Event) : Prop :=
  ∃ later, after = later ++ before ∧ ∀ e ∈ later, e.isAttempt = false

theorem NotesNoAttempt.refl (events : List Event) : NotesNoAttempt events events :=
  ⟨[], rfl, nofun⟩

theorem NotesNoAttempt.trans {first second third : List Event} (h : NotesNoAttempt first second)
    (h' : NotesNoAttempt second third) : NotesNoAttempt first third := by
  obtain ⟨later, rfl, hlater⟩ := h
  obtain ⟨latest, rfl, hlatest⟩ := h'
  refine ⟨latest ++ later, (List.append_assoc ..).symm, fun e he ↦ ?_⟩
  rcases List.mem_append.mp he with he | he
  · exact hlatest e he
  · exact hlater e he

/-- The start of a stage is no attempt. -/
theorem StageStart.IsCall.notesNoAttempt {P : Programs σ} {registered : List String}
    {targets : Run.Targets} {a : StageStart σ} (h : a.IsCall P registered targets) :
    NotesNoAttempt a.before.events a.after.events := by
  -- a stage that is over at once notes that it closed its link, and nothing else of its own
  have hpasses : ∀ {closed : Option Link} {events : List Event},
      Run.Passes a.before a.stage closed events a.after → (∀ e ∈ events, e.isAttempt = false) →
        NotesNoAttempt a.before.events a.after.events := by
    intro closed events hpasses hevents
    refine ⟨events ++ (closed.map fun _ ↦ Event.closedLink a.stage.position).toList, ?_, ?_⟩
    · rw [hpasses.events_eq, Run.events_closeIncoming, List.append_assoc]
    · intro e he
      rcases List.mem_append.mp he with he | he
      · exact hevents e he
      · cases closed with
        | none => cases he
        | some link =>
          obtain rfl := List.mem_singleton.mp he
          rfl
  have hstarts := h.starts
  generalize hresult : a.result = result at hstarts
  generalize hafter : a.after = after at hstarts
  subst hafter
  cases hstarts with
  | joins hwork hstart hjoins =>
    refine ⟨[.started a.stage.position a.before.processes.size], hjoins.events_eq, fun e he ↦ ?_⟩
    obtain rfl := List.mem_singleton.mp he
    rfl
  | isRefused hwork hnul hstart hafter => exact hpasses hafter (by simp [Event.isAttempt])
  | isHandled hwork hshell hafter => exact hpasses hafter (by simp [Event.isAttempt])
  | isMissing hwork hafter => exact hpasses hafter nofun
  | isMalformed hwork hnul hafter => exact hpasses hafter nofun

theorem Reached.notesNoAttempt {P : Programs σ} {registered : List String} {targets : Run.Targets}
    {stages : List Stage} {r : Run σ} {m : Moment σ}
    (hm : Reached P registered targets stages r m) : NotesNoAttempt r.events m.run.events := by
  induction hm with
  | begin => exact .refl _
  | @start m _ _ stage rest _ ih =>
    obtain ⟨a, hstart, hbefore, -, -, hcall⟩ := m.exists_start P registered targets stage rest
    rw [hstart]
    exact ih.trans (hbefore ▸ hcall.notesNoAttempt)
  | @turn m _ t ih => rwa [m.events_turn]

theorem notesNoAttempt_runStages (E : Engine σ) (registered : List String) (stages : List Stage)
    (targets : Run.Targets) (r : Run σ) :
    NotesNoAttempt r.events (runStages E registered stages targets r).2.events := by
  obtain ⟨m, hm, -, hrun, -⟩ := runStages_moments E registered stages targets r
  have hlayout : (runStages E registered stages targets r).2.layout = m.run.layout := by
    rw [hrun, Run.layout_cleanUp]
  have hevents : (runStages E registered stages targets r).2.events = m.run.events :=
    congrArg Layout.events hlayout
  rw [hevents]
  exact hm.notesNoAttempt

/-- A run opens a target by one attempt, unless there is a NUL character in its path. -/
theorem Run.attempt_openTarget (r : Run σ) {target : Option Target}
    (hnul : ∀ t, target = some t → Path.hasNul t.path = false) :
    ∃ o s' events, Attempt r.shell target o s' events ∧
      r.openTarget target = (.ok o, { r with
        shell := s', opened := r.opened ++ o.toList, events := events ++ r.events }) := by
  cases target with
  | none => exact ⟨none, _, _, .unnamed, by simp [Run.openTarget]⟩
  | some t =>
    cases hopen : r.shell.machine.openOutlet t.path t.append with
    | error cause =>
      refine ⟨none, _, _, .refused hopen, ?_⟩
      simp only [Run.openTarget, hnul t rfl, Bool.false_eq_true, if_false, hopen]
      simp [Run.note]
    | ok opened =>
      obtain ⟨machine, outlet⟩ := opened
      refine ⟨some outlet, _, _, .opened hopen, ?_⟩
      simp only [Run.openTarget, hnul t rfl, Bool.false_eq_true, if_false, hopen]
      rfl

theorem Run.openTarget_of_hasNul (r : Run σ) {t : Target} (h : Path.hasNul t.path = true) :
    r.openTarget (some t) = (.error .embeddedNul, r) := by
  simp only [Run.openTarget, h, if_true]

/-- What a run does before its first stage. Either both targets are attempted, standard output
before standard error, and the stages run after that; or a NUL character in one of the paths ends
the run there. -/
inductive Opens (E : Engine σ) (registered : List String) (stages : List Stage)
    (redirection : Redirection) (s : Shell) : Except Fault Int × Run σ → Prop
  | ready {output errors : Option Outlet} {between s' : Shell} {first second : List Event}
      {result : Except Fault Int} {r : Run σ}
      (outputAttempt : Attempt s redirection.output output between first)
      (errorsAttempt : Attempt between redirection.errors errors s' second)
      (runs : runStages E registered stages { output, errors }
        { shell := s', opened := output.toList ++ errors.toList, events := second ++ first } =
          (result, r))
      (later : NotesNoAttempt (second ++ first) r.events) :
      Opens E registered stages redirection s (result, r.closeFiles)
  | malformedOutput {t : Target} (output : redirection.output = some t)
      (nul : Path.hasNul t.path = true) :
      Opens E registered stages redirection s (.error .embeddedNul, { shell := s })
  | malformedErrors {t : Target} {output : Option Outlet} {between : Shell} {first : List Event}
      (outputAttempt : Attempt s redirection.output output between first)
      (errors : redirection.errors = some t) (nul : Path.hasNul t.path = true) :
      Opens E registered stages redirection s (.error .embeddedNul,
        Run.closeFiles { shell := between, opened := output.toList, events := first })

theorem run_opens (E : Engine σ) (registered : List String) (stages : List Stage)
    (redirection : Redirection) (s : Shell) :
    Opens E registered stages redirection s (run E registered stages redirection s) := by
  have hmalformed : ∀ {target : Option Target},
      (¬∀ t, target = some t → Path.hasNul t.path = false) →
        ∃ t, target = some t ∧ Path.hasNul t.path = true := by
    intro target hnot
    simpa using hnot
  by_cases hnul : ∀ t, redirection.output = some t → Path.hasNul t.path = false
  · obtain ⟨output, between, first, hfirst, hopen⟩ :=
      Run.attempt_openTarget ({ shell := s } : Run σ) hnul
    simp only [List.nil_append, List.append_nil] at hopen
    by_cases hnul' : ∀ t, redirection.errors = some t → Path.hasNul t.path = false
    · obtain ⟨errors, s', second, hsecond, hopen'⟩ := Run.attempt_openTarget
        ({ shell := between, opened := output.toList, events := first } : Run σ) hnul'
      have hlater := notesNoAttempt_runStages E registered stages { output, errors }
        { shell := s', opened := output.toList ++ errors.toList, events := second ++ first }
      simp only [run, hopen, hopen']
      exact .ready hfirst hsecond rfl hlater
    · obtain ⟨t, ht, hnul'⟩ := hmalformed hnul'
      simp only [run, hopen, ht, Run.openTarget_of_hasNul _ hnul']
      exact .malformedErrors hfirst ht hnul'
  · obtain ⟨t, ht, hnul⟩ := hmalformed hnul
    simp only [run, ht, Run.openTarget_of_hasNul _ hnul]
    exact .malformedOutput ht hnul

end Pipeline

/-! ## Lines -/

namespace Session

open CommandShell.Pipeline

variable {σ : Type}

/-- A line whose names all mean something is run, and what comes of it is what comes of the run. -/
theorem exists_run_of_parse (E : Engine σ) {registry : Registry} {s : Shell} {line : String}
    {parsed : ParsedLine} (hparse : parse line = .ok parsed) (hcommands : parsed.commands ≠ [])
    {stages : List Stage} (hbuild : buildStages registry s.machine parsed.commands = .ok stages)
    (recorded : Bool) :
    (runLine E registry s line recorded).outcome =
        (run E registry.registered stages parsed.redirection s).1 ∧
      (runLine E registry s line recorded).run =
        some (run E registry.registered stages parsed.redirection s).2 := by
  obtain ⟨c, hc⟩ := List.exists_mem_of_ne_nil _ hcommands
  rw [runLine_of_ne E registry s (trimString_ne_of_parse hparse hc), runText, parse_trimString,
    hparse]
  simp only [hbuild]
  generalize run E registry.registered stages parsed.redirection s = answer
  obtain ⟨result, r⟩ := answer
  cases result <;> exact ⟨rfl, rfl⟩

/-- **Only the targets that count are opened.** Of all the targets that a line names, in whatever
segment, a run attempts to open the one that is named last for standard output and the one that is
named last for standard error, in this order, in the working directory as the line finds it, and
before any stage is started; after that it attempts nothing. An attempt changes no bytes but those of
the file that its own path leads to, and takes no free name but the one that its own path leads
to. -/
theorem runLine_attempts (E : Engine σ) {registry : Registry} {s : Shell} {line : String}
    {parsed : ParsedLine} (hparse : parse line = .ok parsed) (hcommands : parsed.commands ≠ [])
    (hmeaning : ∀ c ∈ parsed.commands, ∃ meaning,
      Command.meaningOf registry.registered s.machine c.name = .ok meaning ∧ meaning ≠ .unknown)
    (recorded : Bool) :
    ∃ stages result r, buildStages registry s.machine parsed.commands = .ok stages ∧
      (runLine E registry s line recorded).outcome = result ∧
      (runLine E registry s line recorded).run = some r ∧
      Opens E registry.registered stages
        { output := lastNamed .output (namedIn (trim line.toList))
          errors := lastNamed .errors (namedIn (trim line.toList)) } s (result, r) ∧
      ∀ target o before after events, Attempt before target o after events →
        before.machine.Spares after.machine target := by
  obtain ⟨stages, hbuild⟩ := Stage.exists_buildFrom
    (fun c hc ↦ Stage.workOf_ok_iff.mpr (hmeaning c hc)) 0 parsed.commands.length
  obtain ⟨houtcome, hrun⟩ := exists_run_of_parse E hparse hcommands hbuild recorded
  have hredirection : parsed.redirection =
      { output := lastNamed .output (namedIn (trim line.toList))
        errors := lastNamed .errors (namedIn (trim line.toList)) } :=
    Redirection.ext_target? fun stream ↦ by
      rw [target?_of_parse hparse hcommands]
      cases stream <;> simp only [Redirection.target?]
  refine ⟨stages, _, _, hbuild, houtcome, hrun, ?_, fun _ _ _ _ _ h ↦ h.spares⟩
  rw [← hredirection]
  exact run_opens E registry.registered stages parsed.redirection s

/-- A line that names one target in each of its segments. -/
def overriding : String := "echo hi > /x | pwd > /out"

/-- Only the second one is attempted, whatever the programs are. -/
theorem runLine_attempts_overriding :
    parse overriding = .ok {
        raw := overriding
        commands := [⟨"echo", ["hi"]⟩, ⟨"pwd", []⟩]
        redirection := toOut } ∧
      (∀ c ∈ [(⟨"echo", ["hi"]⟩ : Line.Command), ⟨"pwd", []⟩], ∃ meaning,
        Command.meaningOf Standard.registry.registered ({} : Machine) c.name = .ok meaning ∧
          meaning ≠ .unknown) ∧
      (namedIn (trim overriding.toList)).map Prod.snd = ["/x", "/out"] ∧
      ∃ r, (runLine noPrograms Standard.registry {} overriding).run = some r ∧
        NotesNoAttempt [.opened "/out" (.file 0)] r.events := by
  have hparse : parse overriding = .ok {
      raw := overriding
      commands := [⟨"echo", ["hi"]⟩, ⟨"pwd", []⟩]
      redirection := toOut } := rfl
  have hmeaning : ∀ c ∈ [(⟨"echo", ["hi"]⟩ : Line.Command), ⟨"pwd", []⟩], ∃ meaning,
      Command.meaningOf Standard.registry.registered ({} : Machine) c.name = .ok meaning ∧
        meaning ≠ .unknown := by
    intro c hc
    refine ⟨.builtin, ?_, nofun⟩
    rcases List.mem_cons.mp hc with rfl | hc
    · rfl
    · obtain rfl := List.mem_singleton.mp hc
      rfl
  have hlast : lastNamed .output (namedIn (trim overriding.toList)) = some ⟨"/out", false⟩ ∧
      lastNamed .errors (namedIn (trim overriding.toList)) = none := by
    decide +kernel
  obtain ⟨stages, result, r, -, -, hrun, hbegins, -⟩ := runLine_attempts noPrograms (s := {})
    hparse (List.cons_ne_nil _ _) hmeaning true
  refine ⟨hparse, hmeaning, by decide +kernel, r, hrun, ?_⟩
  rw [hlast.1, hlast.2] at hbegins
  cases hbegins with
  | ready outputAttempt errorsAttempt runs later =>
    cases errorsAttempt
    cases outputAttempt with
    | opened opens =>
      cases opens.symm.trans openOutlet_out
      exact later
    | refused refuses => cases refuses.symm.trans openOutlet_out
  | malformedOutput output nul =>
    cases output
    exact absurd nul (by decide +kernel)
  | malformedErrors outputAttempt errors nul => cases errors

end Session

end CommandShell

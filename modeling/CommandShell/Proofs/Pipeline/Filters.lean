import CommandShell.Proofs.Pipeline.Delivery
import CommandShell.Proofs.Pipeline.Wiring

/-!
# Pipelines of filters

A filter is a program that reads its input to the end and whose output is a function of it.
`Behaves` is all that a program can come to by itself, whatever it is given to read and however long
it has to wait for it, so a filter is one whatever becomes of the other programs (`IsFilter`).

In a pipeline of filters no process quits early. So a process that was refused nothing has received
all that the stage before has produced, and that stage was refused nothing either: its output is a
function of the output before, and so on to the left, up to a builtin, which starts afresh.
-/

namespace CommandShell.Pipeline

open CommandShell.Host CommandShell.Line

variable {σ : Type} {P : Programs σ}

/-! ## What a program does -/

/-- What a program that was started in a state can have come to: its state, whether it still has its
input, and what it has done. It is not up to the program what it reads, how often it has to wait,
what is refused to it, and what the files are. -/
inductive Behaves (P : Programs σ) (start : σ) : σ → Bool → Exchange → Prop
  | begin : Behaves P start start true {}
  | reads {state waiting : σ} {inputOpen : Bool} {x : Exchange} {wanted : Nat}
      {next : ByteArray → σ} {bytes : ByteArray} (h : Behaves P start state inputOpen x)
      (hact : P.act state = .read wanted next waiting) (hsize : bytes.size ≤ wanted)
      (hclosed : inputOpen = false → bytes = ByteArray.empty) :
      Behaves P start (next bytes) inputOpen
        { x with
          received := x.received ++ bytes
          metEnd := x.metEnd || (inputOpen && decide (0 < wanted) && bytes.isEmpty) }
  | waits {state waiting : σ} {inputOpen : Bool} {x : Exchange} {wanted : Nat}
      {next : ByteArray → σ} (h : Behaves P start state inputOpen x)
      (hact : P.act state = .read wanted next waiting) : Behaves P start waiting inputOpen x
  | writes {state next : σ} {inputOpen : Bool} {x : Exchange} {bytes : ByteArray}
      {refused : Errno → σ} (h : Behaves P start state inputOpen x)
      (hact : P.act state = .write .output bytes next refused) :
      Behaves P start next inputOpen { x with sent := x.sent ++ bytes }
  | isRefused {state next : σ} {inputOpen : Bool} {x : Exchange} {bytes : ByteArray}
      {refused : Errno → σ} (h : Behaves P start state inputOpen x)
      (hact : P.act state = .write .output bytes next refused) (e : Errno) :
      Behaves P start (refused e) inputOpen { x with refused := true }
  | complains {state next : σ} {inputOpen : Bool} {x : Exchange} {bytes : ByteArray}
      {refused : Errno → σ} (h : Behaves P start state inputOpen x)
      (hact : P.act state = .write .errors bytes next refused) : Behaves P start next inputOpen x
  | cannotComplain {state next : σ} {inputOpen : Bool} {x : Exchange} {bytes : ByteArray}
      {refused : Errno → σ} (h : Behaves P start state inputOpen x)
      (hact : P.act state = .write .errors bytes next refused) (e : Errno) :
      Behaves P start (refused e) inputOpen x
  | closes {state next : σ} {inputOpen : Bool} {x : Exchange}
      (h : Behaves P start state inputOpen x) (hact : P.act state = .closeInput next)
      (early : Bool) : Behaves P start next false { x with quitEarly := early }
  | ends {state : σ} {inputOpen : Bool} {x : Exchange} {status : Int}
      (h : Behaves P start state inputOpen x) (hact : P.act state = .exit status) (early : Bool) :
      Behaves P start state inputOpen { x with quitEarly := early }
  | uses {state : σ} {inputOpen : Bool} {x : Exchange} {act : FileSystem → FileSystem × σ}
      (h : Behaves P start state inputOpen x) (hact : P.act state = .files act)
      (files : FileSystem) : Behaves P start (act files).2 inputOpen x

/-- A program that was started in a state reads its input to the end, and its output is a function
of what it has read, unless something of it is refused. -/
def IsFilter (P : Programs σ) (start : σ) (f : ByteArray → ByteArray) : Prop :=
  ∀ (state : σ) (inputOpen : Bool) (x : Exchange) (status : Int),
    Behaves P start state inputOpen x → P.act state = .exit status → x.refused = false →
      x.metEnd = true ∧ x.sent = f x.received

/-! ## What a process does -/

namespace Run

variable {r r' : Run σ} {p : Process σ} {most : Nat} {bytes : ByteArray}

theorem size_readOpen_le {files files' : FileSystem} {id : FileId}
    (h : files.readOpen id most = .ok (bytes, files')) : bytes.size ≤ most := by
  unfold FileSystem.readOpen at h
  split at h
  · cases h
  · split_ifs at h
    split at h
    · cases h
      simp [ByteArray.size]
    · cases h
      simp [ByteArray.size]
    · split at h
      · cases h
      · cases h
        rw [ByteArray.size_extract]
        omega

/-- A process takes no more than it asks for, and nothing once it has closed its input. -/
theorem takeFor_le (h : r.takeFor p most = some (bytes, r')) :
    bytes.size ≤ most ∧ (p.inputOpen = false → bytes = ByteArray.empty) := by
  unfold takeFor at h
  split_ifs at h with hopen
  · refine ⟨?_, fun hclosed ↦ by rw [hopen] at hclosed; cases hclosed⟩
    cases hinput : p.streams.input with
    | shellInput =>
      rw [hinput, takeInput, Machine.takeInput] at h
      dsimp only at h
      split at h
      · next hread =>
        cases h
        exact size_readOpen_le hread
      · cases h
        exact Nat.zero_le _
    | pipe i =>
      rw [hinput] at h
      obtain ⟨-, rfl, -⟩ | ⟨-, -, rfl, -⟩ := takeInput_pipe h
      · rw [Pipe.next, ByteArray.size_extract]
        omega
      · exact Nat.zero_le _
  · cases h
    exact ⟨Nat.zero_le _, fun _ ↦ rfl⟩

/-- A process does what its program does. -/
theorem stepProcess_behaves {id : Nat} {start : σ} {x : Exchange}
    (h : Behaves P start p.state p.inputOpen x) (hp : r.processes[id]? = some p)
    (hstatus : p.status = none) (most : Nat) :
    ∃ p', (r.stepProcess P id most).processes = r.processes.setIfInBounds id p' ∧
      Behaves P start p'.state p'.inputOpen (x.after P r p most) ∧
      ∀ status, p'.status = some status → P.act p'.state = .exit status := by
  have hgoes (state : σ) (status : Int) (hended : { p with state }.status = some status) :
      P.act state = .exit status := by
    cases hstatus.symm.trans hended
  have hmoves := stepProcess_moves P most hp hstatus
  generalize r.stepProcess P id most = r' at hmoves ⊢
  unfold Exchange.after
  cases hmoves with
  | @ends status hact =>
    simp only [hact]
    refine ⟨_, processes_endProcess .., h.ends hact _, fun status' hended ↦ ?_⟩
    cases hended
    exact hact
  | @waits wanted next waiting hact htake =>
    simp only [hact, htake]
    exact ⟨{ p with state := waiting }, rfl, h.waits hact, hgoes _⟩
  | @reads wanted next waiting bytes r' hact htake =>
    simp only [hact, htake]
    obtain ⟨hsize, hclosed⟩ := takeFor_le htake
    refine ⟨{ p with state := next bytes }, ?_,
      h.reads hact (Nat.le_trans hsize (Nat.min_le_left ..)) hclosed, hgoes _⟩
    rw [moveProcess, (parts_takeFor htake).2.1]
  | @writes channel bytes next refused r' hact hwrite =>
    refine ⟨{ p with state := next }, by rw [moveProcess, (parts_write hwrite).2.1], ?_, hgoes _⟩
    simp only [hact]
    cases channel with
    | output =>
      change r.write p.streams.output bytes = (.ok (), r') at hwrite
      simp only [hwrite]
      exact h.writes hact
    | errors => exact h.complains hact
  | @isRefused channel bytes next refused e r' hact hwrite =>
    refine ⟨{ p with state := refused e }, by rw [moveProcess, (parts_write hwrite).2.1], ?_,
      hgoes _⟩
    simp only [hact]
    cases channel with
    | output =>
      change r.write p.streams.output bytes = (.error e, r') at hwrite
      simp only [hwrite]
      exact h.isRefused hact e
    | errors => exact h.cannotComplain hact e
  | @closes next hact =>
    simp only [hact]
    refine ⟨{ p with state := next, inputOpen := false }, ?_, h.closes hact _, hgoes _⟩
    rw [closeInput, processes_closeInputEnd]
  | @uses act hact =>
    simp only [hact]
    exact ⟨{ p with state := (act r.shell.machine.files).2 }, rfl, h.uses hact _, hgoes _⟩

theorem processes_stepCopy (r : Run σ) (j most : Nat) :
    (r.stepCopy j most).processes = r.processes := by
  cases hc : r.copies[j]? with
  | none => rw [stepCopy_eq_self most (by simp [hc])]
  | some c =>
    cases hfinished : c.finished with
    | true => rw [stepCopy_eq_self most (by simp [hc, hfinished])]
    | false =>
      have hcarries := stepCopy_carries most hc hfinished
      generalize r.stepCopy j most = r' at hcarries ⊢
      cases hcarries with
      | delivers hlink hwrite => rw [processes_finishCopy, (parts_write hwrite).2.1]
      | isRefused hlink hwrite => rw [processes_finishCopy, (parts_write hwrite).2.1]
      | waits hlink => rfl
      | ends hlink htake hbytes => rw [processes_finishCopy, (parts_takeInput htake).2.1]
      | carries hlink htake hbytes hwrite =>
        rw [(parts_write hwrite).2.1, (parts_takeInput htake).2.1]
      | breaks hlink htake hbytes hwrite =>
        rw [processes_finishCopy, (parts_write hwrite).2.1, (parts_takeInput htake).2.1]

end Run

variable {registered : List String} {targets : Run.Targets} {stages : List Stage} {m : Moment σ}

/-- The stage was started as a process in a state. -/
def StageStart.StartsAs (P : Programs σ) (targets : Run.Targets) (a : StageStart σ) (start : σ) :
    Prop :=
  ∃ executable, a.stage.work = .external executable ∧
    P.start a.before.shell.machine (a.before.streamsFor a.stage a.incoming targets)
      (executable.getD a.stage.command.name) a.stage.command.argv = .ok start

/-- Every process does what the program of its stage does, and ends when that does. -/
def Moment.IsFaithful (P : Programs σ) (targets : Run.Targets) (m : Moment σ) : Prop :=
  ∀ (id : Nat) (p : Process σ), m.run.processes[id]? = some p →
    ∃ a ∈ m.started, ∃ start, a.process? = some id ∧ a.StartsAs P targets start ∧
      Behaves P start p.state p.inputOpen (m.exchanges id) ∧
      ∀ status, p.status = some status → P.act p.state = .exit status

/-- The start of a stage adds a process in the state in which its program starts, or none. -/
theorem Run.Starts.processes_eq {r after : Run σ} {stage : Stage} {incoming : Option Link}
    {answer : Except Fault Run.Started}
    (h : Run.Starts P registered r stage incoming targets answer after) :
    after.processes = r.processes ∨
      ∃ executable state link, stage.work = .external executable ∧
        P.start r.shell.machine (r.streamsFor stage incoming targets)
          (executable.getD stage.command.name) stage.command.argv = .ok state ∧
        answer = .ok (link, .ofProcess r.processes.size) ∧
        after.processes = r.processes.push
          { position := stage.position, state, streams := r.streamsFor stage incoming targets } := by
  cases h with
  | joins hwork hstart hjoins => exact .inr ⟨_, _, _, hwork, hstart, rfl, hjoins.processes_eq⟩
  | isRefused hwork hnul hstart hpasses => exact .inl hpasses.processes_eq
  | isHandled hwork hshell hpasses => exact .inl hpasses.processes_eq
  | isMissing hwork hpasses => exact .inl hpasses.processes_eq
  | isMalformed hwork hnul hpasses => exact .inl hpasses.processes_eq

namespace Moment.IsFaithful

theorem start (h : m.IsFaithful P targets) (hsound : Sound m) (stage : Stage)
    (rest : List Stage) : (m.start P registered targets stage rest).IsFaithful P targets := by
  intro id p hp
  change (m.run.startStage P registered stage (linkAfter m.started) targets).2.processes[id]? =
    some p at hp
  have hstarts := m.run.startStage_starts P registered stage (linkAfter m.started) targets
  have hold (hp : m.run.processes[id]? = some p) :
      ∃ a ∈ (m.start P registered targets stage rest).started, ∃ start, a.process? = some id ∧
        a.StartsAs P targets start ∧ Behaves P start p.state p.inputOpen (m.exchanges id) ∧
        ∀ status, p.status = some status → P.act p.state = .exit status := by
    obtain ⟨a, ha, start, hstarted⟩ := h id p hp
    exact ⟨a, List.mem_append_left _ ha, start, hstarted⟩
  -- a start adds one process at most, and that one has not done anything yet
  obtain hsame | ⟨executable, state, link, hwork, hstart, hanswer, hpush⟩ := hstarts.processes_eq
  · rw [hsame] at hp
    exact hold hp
  · rw [hpush, getElem?_push_eq_some] at hp
    obtain hp | ⟨rfl, rfl⟩ := hp
    · exact hold hp
    · refine ⟨_, List.mem_append_right _ (List.mem_singleton_self _), state, ?_,
        ⟨executable, hwork, hstart⟩, ?_, nofun⟩
      · rw [StageStart.process?]
        dsimp only
        rw [hanswer]
      · change Behaves P state state true (m.exchanges m.run.processes.size)
        rw [hsound.unborn _ (Nat.le_refl _)]
        exact .begin

theorem turn (h : m.IsFaithful P targets) (t : Run.Turn) : (m.turn P t).IsFaithful P targets := by
  cases t with
  | copy j most =>
    intro id p hp
    refine h id p ?_
    rw [← m.run.processes_stepCopy j most]
    exact hp
  | process id most =>
    cases hp : m.run.processes[id]? with
    | none => rwa [m.turn_eq_self P most (by simp [hp])]
    | some p =>
      cases hstatus : p.status with
      | some status => rwa [m.turn_eq_self P most (by simp [hp, hstatus])]
      | none =>
        obtain ⟨a, ha, start, hid, hstart, hbehaves, -⟩ := h id p hp
        obtain ⟨p', hprocesses, hbehaves', hended⟩ :=
          Run.stepProcess_behaves hbehaves hp hstatus most
        rw [m.turn_process P most hp hstatus]
        intro id₁ p₁ hp₁
        dsimp only at hp₁ ⊢
        rw [hprocesses] at hp₁
        by_cases hne : id₁ = id
        · subst hne
          rw [Run.getElem?_set_self hp] at hp₁
          cases hp₁
          rw [Function.update_self]
          exact ⟨a, ha, start, hid, hstart, hbehaves', hended⟩
        · rw [Run.getElem?_set_ne hne] at hp₁
          rw [Function.update_of_ne hne]
          exact h id₁ p₁ hp₁

end Moment.IsFaithful

theorem Reached.isFaithful {r : Run σ} (hr : IsFresh r)
    (hstages : ∀ stage ∈ stages, stage.work ≠ .builtin none)
    (hm : Reached P registered targets stages r m) : m.IsFaithful P targets := by
  induction hm with
  | begin =>
    intro id p hp
    simp [hr.processes_eq] at hp
  | start hm going pending ih => exact ih.start (hm.sound hr hstages) _ _
  | turn hm t ih => exact ih.turn t

/-! ## What filters make of a pipeline -/

/-- The programs of the stages are filters, wherever and with whatever streams they are started. -/
def AreFilters (P : Programs σ) (stages : List Stage) (f : Nat → ByteArray → ByteArray) : Prop :=
  ∀ (k : Nat) (stage : Stage) (executable : Option String) (machine : Machine) (streams : Streams)
    (start : σ), stages[k]? = some stage → stage.work = .external executable →
      P.start machine streams (executable.getD stage.command.name) stage.command.argv = .ok start →
        IsFilter P start (f k)

/-- What a stage makes of bytes: if it is a process, what the function of its program makes of them,
and otherwise what it says, whatever they are. -/
def StageStart.through (registered : List String) (f : Nat → ByteArray → ByteArray)
    (a : StageStart σ) (bytes : ByteArray) : ByteArray :=
  if a.process?.isSome then f a.stage.position bytes else a.said registered

/-- What stages make of bytes, one after the other. -/
def composed (registered : List String) (f : Nat → ByteArray → ByteArray)
    (started : List (StageStart σ)) (input : ByteArray) : ByteArray :=
  started.foldl (fun bytes a ↦ a.through registered f bytes) input

/-- What the first stage has read of the shell's own standard input. -/
def Moment.input (m : Moment σ) : ByteArray :=
  match m.started[0]?.bind (·.process?) with
  | some id => (m.exchanges id).received
  | none => ByteArray.empty

theorem composed_take_succ (registered : List String) (f : Nat → ByteArray → ByteArray)
    {started : List (StageStart σ)} {k : Nat} {a : StageStart σ} (ha : started[k]? = some a)
    (input : ByteArray) :
    composed registered f (started.take (k + 1)) input =
      a.through registered f (composed registered f (started.take k) input) := by
  rw [composed, List.take_add_one, ha, Option.toList_some, List.foldl_append]
  rfl

namespace Recorded

variable (h : Recorded P registered targets stages m)
  (hplaces : ∀ (k : Nat) (stage : Stage), stages[k]? = some stage → stage.IsAt stages.length k)
include h hplaces

theorem eq_of_process? {a b : StageStart σ} (ha : a ∈ m.started) (hb : b ∈ m.started) {id : Nat}
    (haid : a.process? = some id) (hbid : b.process? = some id) : a = b := by
  have haplug := (h.plugs_iff id _).mpr ⟨a, ha, haid, rfl⟩
  have hbplug := (h.plugs_iff id _).mpr ⟨b, hb, hbid, rfl⟩
  have hposition : a.stage.position = b.stage.position :=
    congrArg Plug.position (Option.some.inj (haplug.symm.trans hbplug))
  have hka := h.getElem?_position hplaces ha
  rw [hposition] at hka
  exact Option.some.inj (hka.symm.trans (h.getElem?_position hplaces hb))

/-- The process of a filter, once all is done, has read its input to the end and written what the
function makes of it, unless something was refused. -/
theorem filters (hfaithful : m.IsFaithful P targets) {f : Nat → ByteArray → ByteArray}
    (hfilters : AreFilters P stages f) (hdone : m.run.isDone = true) {k id : Nat}
    {a : StageStart σ} (ha : m.started[k]? = some a) (hid : a.process? = some id)
    (hrefused : (m.exchanges id).refused = false) :
    (m.exchanges id).metEnd = true ∧ (m.exchanges id).sent = f k (m.exchanges id).received := by
  have hmem := List.mem_of_getElem? ha
  obtain ⟨p, hp, -⟩ := Run.process_of_plug ((h.plugs_iff id _).mpr ⟨a, hmem, hid, rfl⟩)
  obtain ⟨b, hb, start, hbid, ⟨executable, hwork, hstart⟩, hbehaves, hended⟩ := hfaithful id p hp
  obtain rfl := h.eq_of_process? hplaces hmem hb hid hbid
  rw [Run.isDone, Bool.and_eq_true, Array.all_eq_true_iff_forall_mem] at hdone
  obtain ⟨status, hstatus⟩ := Option.isSome_iff_exists.mp
    (hdone.1 p (Array.mem_of_getElem? hp))
  exact hfilters k a.stage executable _ _ start (h.stage_eq ha) hwork hstart p.state p.inputOpen
    (m.exchanges id) status hbehaves (hended status hstatus) hrefused

/-- **Filters compose.** When all is done, a stage that was refused nothing has produced what the
stages up to it make of the input, whatever the schedule was. -/
theorem produced_eq_composed (hsound : Sound m) (hfaithful : m.IsFaithful P targets)
    {f : Nat → ByteArray → ByteArray} (hfilters : AreFilters P stages f)
    (hdone : m.run.isDone = true) {k : Nat} {a : StageStart σ} (ha : m.started[k]? = some a)
    (hrefused : ∀ id, a.process? = some id → (m.exchanges id).refused = false) :
    m.produced registered a =
      composed registered f (m.started.take (k + 1)) m.input := by
  have hposition := (h.isAt hplaces ha).position_eq
  rw [composed_take_succ registered f ha, StageStart.through, hposition]
  -- the induction goes from a stage to the one before it, whose output it has received
  induction k generalizing a with
  | zero =>
    unfold Moment.produced
    cases hid : a.process? with
    | none => rfl
    | some id =>
      obtain ⟨-, hsent⟩ := h.filters hplaces hfaithful hfilters hdone ha hid (hrefused id hid)
      have hinput : m.input = (m.exchanges id).received := by
        rw [Moment.input, ha, Option.bind_some, hid]
      rw [List.take_zero, hinput]
      exact hsent
  | succ k ih =>
    unfold Moment.produced
    cases hid : a.process? with
    | none => rfl
    | some id =>
      obtain ⟨hmet, hsent⟩ := h.filters hplaces hfaithful hfilters hdone ha hid (hrefused id hid)
      have hk : k < m.started.length := Nat.lt_of_succ_lt (List.getElem?_eq_some_iff.mp ha).1
      have hb : m.started[k]? = some m.started[k] := List.getElem?_eq_getElem hk
      obtain ⟨j, c, hc, hconveys⟩ := (h.carried hsound hplaces).fed k _ a id hb ha hid
      obtain ⟨hstays, hreceived⟩ := hconveys.atEnd hmet
      -- the stage before was refused nothing, since this one has not quit early
      have hbefore (id' : Nat) (hid' : m.started[k].process? = some id') :
          (m.exchanges id').refused = false := by
        have hquits := mt (hconveys.refused id' hid')
        simpa [hstays] using hquits
      have hproduced := ih hb hbefore (h.isAt hplaces hb).position_eq
      rw [composed_take_succ registered f hb, StageStart.through,
        (h.isAt hplaces hb).position_eq, ← hproduced, ← hreceived]
      exact hsent

end Recorded

/-! ## Whole runs -/

/-- **Nothing is lost between two stages, whatever the schedule.** From where a run begins, every
schedule leads only to moments at which what comes to a stage is the beginning of what the stage
before has produced (`Carried`). If the programs are filters and all is done, then what a stage has
produced is what the functions of the stages make of the input, unless the stage was refused
something. A run with a status is done in the end. -/
theorem run_carries (E : Engine σ) (registered : List String) {registry : Registry}
    {machine : Machine} {commands : List Command} {stages : List Stage}
    (hbuild : buildStages registry machine commands = .ok stages) (redirection : Redirection)
    (shell : Shell) :
    ∃ r moment, EndsAt E registered stages redirection shell r moment ∧
      (∀ status, (run E registered stages redirection shell).1 = .ok status →
        moment.started.map (·.stage) = stages ∧ moment.run.isDone = true) ∧
      ∀ m, Reached E.programs registered (targetsOf redirection shell) stages r m →
        Carried registered m ∧
        (∀ (j : Nat) (c : Copy), m.run.copies[j]? = some c → c.IsDry m.run →
          ∀ ts : List Run.Turn, c.remaining m.run ≤ ts.countP (·.isOf j) →
            ∃ c', (m.run.turns E.programs ts).copies[j]? = some c' ∧ c'.finished = true) ∧
        ∀ f, AreFilters E.programs stages f → m.run.isDone = true →
          ∀ (k : Nat) (a : StageStart σ), m.started[k]? = some a →
            (∀ id, a.process? = some id → (m.exchanges id).refused = false) →
              m.produced registered a =
                composed registered f (m.started.take (k + 1)) m.input := by
  obtain ⟨r, moment, hend, -, hends⟩ := run_moments E registered stages redirection shell
  have hplaces : ∀ (k : Nat) (stage : Stage), stages[k]? = some stage →
      stage.IsAt stages.length k := fun k stage ↦ Stage.isAt_of_buildStages hbuild
  have hstages := Stage.hasHandler_of_isAt hplaces
  refine ⟨r, moment, hend, fun status hstatus ↦ ⟨?_, hends.isDone status hstatus⟩,
    fun m hm ↦ ?_⟩
  · have heq := (hend.reached.recorded hend.isFresh hstages).stages_eq
    rwa [(hends.going status hstatus).1, List.append_nil] at heq
  · have hrecord := hm.recorded hend.isFresh hstages
    have hsound := hm.sound hend.isFresh hstages
    have hfaithful := hm.isFaithful hend.isFresh hstages
    refine ⟨hrecord.carried hsound hplaces, fun j c hc hdry ts henough ↦ ?_,
      fun f hfilters hdone k a ha hrefused ↦ ?_⟩
    · exact hm.finishes hend.isFresh hstages hc hdry ts henough
    · exact hrecord.produced_eq_composed hplaces hsound hfaithful hfilters hdone ha hrefused

/-! ### A program that says everything twice -/

/-- The states of a program that reads its input to the end and writes it twice. -/
inductive Twice
  | reading (kept : ByteArray)
  | writing (kept : ByteArray)
  | done

/-- An engine on which every program writes its input twice. It reads three bytes at once. -/
def twice : Engine Twice where
  programs := {
    start := fun _ _ _ _ ↦ .ok (.reading ByteArray.empty)
    act := fun
      | .reading kept =>
        .read 3 (fun bytes ↦ if bytes.isEmpty then .writing kept else .reading (kept ++ bytes))
          (.reading kept)
      | .writing kept => .write .output (kept ++ kept) .done fun _ ↦ .done
      | .done => .exit 0 }
  patience := 20

/-- What the program has done when it is in a state. -/
def Twice.Agrees : Twice → Bool → Exchange → Prop
  | .reading kept, inputOpen, x =>
    inputOpen = true ∧ x.received = kept ∧ x.sent = ByteArray.empty
  | .writing kept, _, x => x.metEnd = true ∧ x.received = kept ∧ x.sent = ByteArray.empty
  | .done, _, x => x.refused = false → x.metEnd = true ∧ x.sent = x.received ++ x.received

theorem Twice.agrees {state : Twice} {inputOpen : Bool} {x : Exchange}
    (h : Behaves twice.programs (.reading ByteArray.empty) state inputOpen x) :
    state.Agrees inputOpen x := by
  induction h with
  | begin => exact ⟨rfl, rfl, rfl⟩
  | @reads state _ inputOpen x _ _ bytes h hact hsize hclosed ih =>
    cases state with
    | reading kept =>
      cases hact
      obtain ⟨rfl, rfl, hsent⟩ := ih
      dsimp only
      -- an empty piece is the end of the input, and no byte of it is lost
      split_ifs with hempty
      · have hnothing : bytes = ByteArray.empty := by
          rw [← ByteArray.size_eq_zero_iff]
          simpa [ByteArray.isEmpty] using hempty
        exact ⟨by simp [hempty], by rw [hnothing, ByteArray.append_empty], hsent⟩
      · exact ⟨rfl, rfl, hsent⟩
    | writing kept => cases hact
    | done => cases hact
  | @waits state _ _ _ _ _ h hact ih =>
    cases state with
    | reading kept =>
      cases hact
      exact ih
    | writing kept => cases hact
    | done => cases hact
  | @writes state _ _ x _ _ h hact ih =>
    cases state with
    | reading kept => cases hact
    | writing kept =>
      cases hact
      obtain ⟨hmet, rfl, hsent⟩ := ih
      intro _
      dsimp only
      exact ⟨hmet, by rw [hsent, ByteArray.empty_append]⟩
    | done => cases hact
  | @isRefused state _ _ _ _ _ h hact e ih =>
    cases state with
    | reading kept => cases hact
    | writing kept =>
      cases hact
      rintro ⟨⟩
    | done => cases hact
  | @complains state _ _ _ _ _ h hact ih => cases state <;> cases hact
  | @cannotComplain state _ _ _ _ _ h hact e ih => cases state <;> cases hact
  | @closes state _ _ _ h hact early ih => cases state <;> cases hact
  | @ends state _ _ _ h hact early ih =>
    cases state with
    | reading kept => cases hact
    | writing kept => cases hact
    | done => exact ih
  | @uses state _ _ _ h hact files ih => cases state <;> cases hact

theorem areFilters_twice (stages : List Stage) :
    AreFilters twice.programs stages fun _ bytes ↦ bytes ++ bytes := by
  intro k stage executable machine streams start hstage hwork hstart
  cases hstart
  intro state inputOpen x status hbehaves hact hrefused
  have hagrees := Twice.agrees hbehaves
  cases state with
  | reading kept => cases hact
  | writing kept => cases hact
  | done => exact hagrees hrefused

theorem exists_process_twice {registered : List String} {targets : Run.Targets}
    {a : StageStart Twice} (hcall : a.IsCall twice.programs registered targets)
    {executable : Option String} (hwork : a.stage.work = .external executable)
    (hnul : (executable.getD a.stage.command.name :: a.stage.command.argv).any Path.hasNul =
      false) :
    ∃ id, a.process? = some id := by
  have hstarts := hcall.starts
  generalize hresult : a.result = result at hstarts
  generalize a.after = after at hstarts
  cases hstarts with
  | joins => exact ⟨_, by rw [StageStart.process?, hresult]⟩
  | isRefused _ _ hstart => cases hstart
  | isHandled hbuiltin => cases hwork.symm.trans hbuiltin
  | isMissing hbuiltin => cases hwork.symm.trans hbuiltin
  | isMalformed hwork' hnul' =>
    cases hwork.symm.trans hwork'
    cases hnul.symm.trans hnul'

theorem status_run_twice :
    (run twice Standard.registry.registered echoTool {} { machine := toolbox }).1 = .ok 0 := by
  have hresult : (run twice Standard.registry.registered echoTool {}
    { machine := toolbox }).1.toOption = some 0 := by decide +kernel
  generalize (run twice Standard.registry.registered echoTool {}
    { machine := toolbox }).1 = result at hresult ⊢
  cases result with
  | error fault => cases hresult
  | ok status => exact congrArg Except.ok (Option.some.inj hresult)

theorem run_carries_echoTwice :
    buildStages Standard.registry toolbox [⟨"echo", ["hi"]⟩, ⟨"/tool", ["-n"]⟩] = .ok echoTool ∧
    (run twice Standard.registry.registered echoTool {} { machine := toolbox }).1 = .ok 0 ∧
    ∃ r moment, EndsAt twice Standard.registry.registered echoTool {} { machine := toolbox } r
        moment ∧
      Carried Standard.registry.registered moment ∧
      ∃ b id, moment.started[1]? = some b ∧ b.process? = some id ∧
        ((moment.exchanges id).refused = false →
          (moment.exchanges id).sent = "hi\nhi\n".toUTF8) := by
  obtain ⟨r, moment, hend, hdone, hall⟩ :=
    run_carries twice Standard.registry.registered buildStages_echoTool {} { machine := toolbox }
  obtain ⟨hstarted, hdone⟩ := hdone 0 status_run_twice
  obtain ⟨hcarried, -, hfilters⟩ := hall moment hend.reached
  have hstages := Stage.hasHandler_of_isAt fun k stage hk ↦
    Stage.isAt_of_buildStages buildStages_echoTool hk
  have hrecord := hend.reached.recorded hend.isFresh hstages
  obtain ⟨a, later, hab, ha, hlater⟩ := List.map_eq_cons_iff.mp hstarted
  obtain ⟨b, last, rfl, hb, hlast⟩ := List.map_eq_cons_iff.mp hlater
  obtain rfl := List.map_eq_nil_iff.mp hlast
  have haprocess : a.process? = none :=
    ((hrecord.comes a (by simp [hab])).of_builtin (by rw [ha])).2.process?_eq
  have hsaid : a.said Standard.registry.registered = "hi\n".toUTF8 := by
    rw [StageStart.said, ha]
    rfl
  have hwork : b.stage.work = .external (some "/tool") := by rw [hb]
  obtain ⟨id, hid⟩ := exists_process_twice (hrecord.isCall b (by simp [hab])) hwork
    (by rw [hb]; decide +kernel)
  refine ⟨buildStages_echoTool, status_run_twice, r, moment, hend, hcarried, b, id,
    by rw [hab]; rfl, hid, fun hrefused ↦ ?_⟩
  have hproduced := hfilters _ (areFilters_twice echoTool) hdone 1 b (by rw [hab]; rfl)
    fun id' hid' ↦ by rwa [← Option.some.inj (hid.symm.trans hid')]
  rw [Moment.produced, hid, hab] at hproduced
  have hmade : composed Standard.registry.registered (fun _ bytes ↦ bytes ++ bytes)
      ([a, b].take 2) moment.input = "hi\n".toUTF8 ++ "hi\n".toUTF8 := by
    simp only [composed, List.take_succ_cons, List.take_nil, List.foldl_cons, List.foldl_nil,
      StageStart.through, haprocess, hid, hsaid]
    rfl
  exact hproduced.trans (hmade.trans (by decide +kernel))

end CommandShell.Pipeline

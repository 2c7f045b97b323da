import CommandShell.Pipeline.Run
import Mathlib.Tactic.SplitIfs

/-!
# What a turn can do

A turn of a process or of a copy does one of a few things, and each of them is told here once:
`Moves` for a process, `Carries` for a copy. Whatever is to be known about all schedules follows by
cases on these two.

Pipes are looked at through `Run.pipe`, which has an answer for every number. A pipe that does not
exist is empty, has no ends and never changes, so closing an end of a pipe needs no side condition.
-/

namespace CommandShell.Pipeline

open CommandShell.Host

namespace Pipe

/-- The bytes that were read from a pipe. -/
def consumed (q : Pipe) : ByteArray :=
  q.data.extract 0 q.taken

theorem waiting_eq_zero_iff {q : Pipe} (h : q.taken ≤ q.data.size) :
    q.waiting = 0 ↔ q.taken = q.data.size := by
  unfold waiting
  omega

theorem consumed_of_waiting {q : Pipe} (h : q.taken ≤ q.data.size) (hwaiting : q.waiting = 0) :
    q.consumed = q.data := by
  rw [consumed, (waiting_eq_zero_iff h).mp hwaiting, ByteArray.extract_zero_size]

theorem consumed_advance {q : Pipe} (h : q.taken ≤ q.data.size) (most : Nat) :
    (q.advance most).consumed = q.consumed ++ q.next most := by
  have hmore : q.taken ≤ min (q.taken + most) q.data.size := by omega
  simp only [consumed, advance, next, ByteArray.extract_append_extract, Nat.zero_min,
    Nat.max_eq_right hmore]

theorem taken_advance_le (q : Pipe) (most : Nat) :
    (q.advance most).taken ≤ (q.advance most).data.size :=
  Nat.min_le_right ..

theorem consumed_add {q : Pipe} (h : q.taken ≤ q.data.size) (bytes : ByteArray) :
    (q.add bytes).consumed = q.consumed := by
  have hnothing : bytes.extract (0 - q.data.size) (q.taken - q.data.size) = ByteArray.empty := by
    rw [ByteArray.extract_eq_empty_iff, Nat.sub_eq_zero_of_le h]
    exact Nat.le_trans (Nat.min_le_left ..) (Nat.zero_le _)
  rw [consumed, add, ByteArray.extract_append, hnothing, ByteArray.append_empty, consumed]

theorem waiting_advance_lt {q : Pipe} (h : 0 < q.waiting) {most : Nat} (hmost : 0 < most) :
    (q.advance most).waiting < q.waiting := by
  unfold waiting at h ⊢
  unfold advance
  dsimp only
  omega

theorem taken_add_le {q : Pipe} (h : q.taken ≤ q.data.size) (bytes : ByteArray) :
    (q.add bytes).taken ≤ (q.add bytes).data.size := by
  rw [add, ByteArray.size_append]
  exact Nat.le_trans h (Nat.le_add_right ..)

theorem isEmpty_next {q : Pipe} {most : Nat} (h : 0 < q.waiting) (hmost : 0 < most) :
    (q.next most).isEmpty = false := by
  have hsize : (q.next most).size ≠ 0 := by
    unfold waiting at h
    rw [next, ByteArray.size_extract]
    omega
  simpa [ByteArray.isEmpty] using hsize

end Pipe

namespace Run

variable {σ : Type}

/-! ## Pipes by number -/

/-- The pipe of a number; one that does not exist is empty and has no ends. -/
def pipe (r : Run σ) (i : Nat) : Pipe :=
  r.pipes[i]?.getD {}

theorem pipe_eq_of_getElem? {r : Run σ} {i : Nat} {q : Pipe} (h : r.pipes[i]? = some q) :
    r.pipe i = q := by
  rw [pipe, h, Option.getD_some]

theorem pipe_of_le {r : Run σ} {i : Nat} (h : r.pipes.size ≤ i) : r.pipe i = {} := by
  rw [pipe, Array.getElem?_eq_none h, Option.getD_none]

theorem pipe_changePipe_of_ne (r : Run σ) {i j : Nat} (f : Pipe → Pipe) (h : i ≠ j) :
    (r.changePipe j f).pipe i = r.pipe i := by
  rw [pipe, changePipe, Array.getElem?_modify, if_neg (Ne.symm h), pipe]

theorem pipe_changePipe_self {r : Run σ} {i : Nat} (f : Pipe → Pipe) (h : i < r.pipes.size) :
    (r.changePipe i f).pipe i = f (r.pipe i) := by
  rw [pipe, changePipe, Array.getElem?_modify, if_pos rfl, pipe, Array.getElem?_eq_getElem h]
  rfl

theorem pipe_changePipe {f : Pipe → Pipe} (hf : f {} = {}) (r : Run σ) (i j : Nat) :
    (r.changePipe j f).pipe i = if i = j then f (r.pipe i) else r.pipe i := by
  split_ifs with h
  · subst h
    rcases Nat.lt_or_ge i r.pipes.size with hlt | hge
    · exact pipe_changePipe_self f hlt
    · rw [pipe_of_le hge, hf, pipe_of_le (by rwa [changePipe, Array.size_modify])]
  · exact pipe_changePipe_of_ne r f h

/-! ## Closing ends -/

@[simp] theorem processes_closeInputEnd (r : Run σ) (p : Process σ) :
    (r.closeInputEnd p).processes = r.processes := by
  unfold closeInputEnd
  split <;> rfl

@[simp] theorem processes_closeOutputEnd (r : Run σ) (p : Process σ) :
    (r.closeOutputEnd p).processes = r.processes := by
  unfold closeOutputEnd
  split <;> rfl

@[simp] theorem copies_closeInputEnd (r : Run σ) (p : Process σ) :
    (r.closeInputEnd p).copies = r.copies := by
  unfold closeInputEnd
  split <;> rfl

@[simp] theorem copies_closeOutputEnd (r : Run σ) (p : Process σ) :
    (r.closeOutputEnd p).copies = r.copies := by
  unfold closeOutputEnd
  split <;> rfl

@[simp] theorem processes_closeLink (r : Run σ) (link : Link) :
    (r.closeLink link).processes = r.processes := by
  cases link <;> rfl

@[simp] theorem copies_closeLink (r : Run σ) (link : Link) :
    (r.closeLink link).copies = r.copies := by
  cases link <;> rfl

@[simp] theorem processes_endProcess (r : Run σ) (id : Nat) (p : Process σ) (status : Int) :
    (r.endProcess id p status).processes =
      r.processes.setIfInBounds id { p with status := some status } := by
  simp [endProcess]

@[simp] theorem copies_endProcess (r : Run σ) (id : Nat) (p : Process σ) (status : Int) :
    (r.endProcess id p status).copies = r.copies := by
  simp [endProcess]

@[simp] theorem processes_finishCopy (r : Run σ) (id : Nat) (c : Copy) :
    (r.finishCopy id c).processes = r.processes := by
  simp [finishCopy, changePipe]

/-! ## Reading and writing -/

/-- Two runs differ at most in the shell. -/
structure SameParts (r r' : Run σ) : Prop where
  pipes_eq : r'.pipes = r.pipes
  processes_eq : r'.processes = r.processes
  copies_eq : r'.copies = r.copies
  events_eq : r'.events = r.events

theorem SameParts.refl (r : Run σ) : SameParts r r :=
  ⟨rfl, rfl, rfl, rfl⟩

theorem SameParts.pipe_eq {r r' : Run σ} (h : SameParts r r') (i : Nat) : r'.pipe i = r.pipe i := by
  rw [pipe, h.pipes_eq, pipe]

/-- Bytes that were taken from a pipe: either some were waiting, or nobody can write any more. -/
theorem takeInput_pipe {r r' : Run σ} {i most : Nat} {bytes : ByteArray}
    (h : r.takeInput (.pipe i) most = some (bytes, r')) :
    (0 < (r.pipe i).waiting ∧ bytes = (r.pipe i).next most ∧
      r' = r.changePipe i fun q ↦ q.advance most) ∨
    ((r.pipe i).waiting = 0 ∧ (r.pipe i).hasWriter = false ∧ bytes = ByteArray.empty ∧ r' = r) := by
  unfold takeInput at h
  dsimp only at h
  cases hpipe : r.pipes[i]? with
  | none =>
    rw [hpipe] at h
    cases h
    rw [pipe, hpipe]
    exact .inr ⟨rfl, rfl, rfl, rfl⟩
  | some q =>
    rw [hpipe] at h
    rw [pipe_eq_of_getElem? hpipe]
    dsimp only at h
    split at h
    · next hwaiting =>
      cases h
      exact .inl ⟨hwaiting, rfl, rfl⟩
    · next hwaiting =>
      split at h
      · cases h
      · next hwriter =>
        cases h
        exact .inr ⟨by omega, by simpa using hwriter, rfl, rfl⟩

theorem takeInput_pipe_none {r : Run σ} {i most : Nat} (h : r.takeInput (.pipe i) most = none) :
    (r.pipe i).waiting = 0 ∧ (r.pipe i).hasWriter = true := by
  unfold takeInput at h
  dsimp only at h
  cases hpipe : r.pipes[i]? with
  | none =>
    rw [hpipe] at h
    cases h
  | some q =>
    rw [hpipe] at h
    rw [pipe_eq_of_getElem? hpipe]
    dsimp only at h
    split_ifs at h with hwaiting hwriter
    exact ⟨Nat.eq_zero_of_not_pos hwaiting, hwriter⟩

theorem sameParts_takeInput_shellInput {r r' : Run σ} {most : Nat} {bytes : ByteArray}
    (h : r.takeInput .shellInput most = some (bytes, r')) : SameParts r r' := by
  cases h
  exact ⟨rfl, rfl, rfl, rfl⟩

theorem write_pipe_ok {r r' : Run σ} {i : Nat} {bytes : ByteArray}
    (h : r.write (.pipe i) bytes = (.ok (), r')) :
    i < r.pipes.size ∧ (r.pipe i).hasReader = true ∧ r' = r.changePipe i fun q ↦ q.add bytes := by
  unfold write at h
  dsimp only at h
  cases hpipe : r.pipes[i]? with
  | none =>
    rw [hpipe] at h
    cases h
  | some q =>
    rw [hpipe] at h
    rw [pipe_eq_of_getElem? hpipe]
    dsimp only at h
    split at h
    · next hreader =>
      cases h
      exact ⟨(Array.getElem?_eq_some_iff.mp hpipe).1, hreader, rfl⟩
    · cases h

/-- One that nobody reads from refuses them as a whole. -/
theorem write_pipe_error {r r' : Run σ} {i : Nat} {bytes : ByteArray} {e : Errno}
    (h : r.write (.pipe i) bytes = (.error e, r')) : r' = r ∧ (r.pipe i).hasReader = false := by
  unfold write at h
  dsimp only at h
  cases hpipe : r.pipes[i]? with
  | none =>
    rw [hpipe] at h
    cases h
    rw [pipe, hpipe]
    exact ⟨rfl, rfl⟩
  | some q =>
    rw [hpipe] at h
    rw [pipe_eq_of_getElem? hpipe]
    dsimp only at h
    split at h
    · cases h
    · next hreader =>
      cases h
      exact ⟨rfl, by simpa using hreader⟩

theorem sameParts_write_outlet {r r' : Run σ} {o : Outlet} {bytes : ByteArray}
    {answer : Except Errno Unit} (h : r.write (.outlet o) bytes = (answer, r')) :
    SameParts r r' := by
  cases h
  exact ⟨rfl, rfl, rfl, rfl⟩

theorem sameParts_of_refused {r r' : Run σ} {sink : Sink} {bytes : ByteArray} {e : Errno}
    (h : r.write sink bytes = (.error e, r')) : SameParts r r' := by
  cases sink with
  | outlet o => exact sameParts_write_outlet h
  | pipe i =>
    obtain ⟨rfl, -⟩ := write_pipe_error h
    exact .refl r'

/-! ## Turns of a process -/

/-- What a turn makes of a run when a process that has not ended gets it. -/
inductive Moves (P : Programs σ) (r : Run σ) (id : Nat) (p : Process σ) (most : Nat) :
    Run σ → Prop
  | ends {status : Int} (hact : P.act p.state = .exit status) :
      Moves P r id p most (r.endProcess id p status)
  | waits {wanted : Nat} {next : ByteArray → σ} {waiting : σ}
      (hact : P.act p.state = .read wanted next waiting)
      (htake : r.takeFor p (min wanted (max most 1)) = none) :
      Moves P r id p most (r.moveProcess id p waiting)
  | reads {wanted : Nat} {next : ByteArray → σ} {waiting : σ} {bytes : ByteArray} {r' : Run σ}
      (hact : P.act p.state = .read wanted next waiting)
      (htake : r.takeFor p (min wanted (max most 1)) = some (bytes, r')) :
      Moves P r id p most (r'.moveProcess id p (next bytes))
  | writes {channel : Channel} {bytes : ByteArray} {next : σ} {refused : Errno → σ} {r' : Run σ}
      (hact : P.act p.state = .write channel bytes next refused)
      (hwrite : r.write (p.streams.sink channel) bytes = (.ok (), r')) :
      Moves P r id p most (r'.moveProcess id p next)
  | isRefused {channel : Channel} {bytes : ByteArray} {next : σ} {refused : Errno → σ} {e : Errno}
      {r' : Run σ} (hact : P.act p.state = .write channel bytes next refused)
      (hwrite : r.write (p.streams.sink channel) bytes = (.error e, r')) :
      Moves P r id p most (r'.moveProcess id p (refused e))
  | closes {next : σ} (hact : P.act p.state = .closeInput next) :
      Moves P r id p most (r.closeInput id p next)
  | uses {act : FileSystem → FileSystem × σ} (hact : P.act p.state = .files act) :
      Moves P r id p most
        ((r.changeMachine fun m ↦ { m with files := (act r.shell.machine.files).1 }).moveProcess id p
          (act r.shell.machine.files).2)

theorem stepProcess_moves (P : Programs σ) {r : Run σ} {id : Nat} {p : Process σ} (most : Nat)
    (hp : r.processes[id]? = some p) (hstatus : p.status = none) :
    Moves P r id p most (r.stepProcess P id most) := by
  unfold stepProcess
  simp only [hp, hstatus, Option.isSome_none, Bool.false_eq_true, if_false]
  split
  · next hact => exact .ends hact
  · next hact =>
    split
    · next htake => exact .waits hact htake
    · next htake => exact .reads hact htake
  · next hact =>
    split
    · next hwrite => exact .writes hact hwrite
    · next hwrite => exact .isRefused hact hwrite
  · next hact => exact .closes hact
  · next hact => exact .uses hact

theorem stepProcess_eq_self (P : Programs σ) {r : Run σ} {id : Nat} (most : Nat)
    (h : ∀ p, r.processes[id]? = some p → p.status.isSome = true) : r.stepProcess P id most = r := by
  unfold stepProcess
  split
  · rfl
  · next p hp => rw [if_pos (h p hp)]

/-! ## Turns of a copy -/

/-- What a turn makes of a run when a copy that is not finished gets it. -/
inductive Carries (r : Run σ) (id : Nat) (c : Copy) (most : Nat) : Run σ → Prop
  | delivers {bytes : ByteArray} {r' : Run σ} (hlink : c.link = .ready bytes)
      (hwrite : r.write (.pipe c.pipe) bytes = (.ok (), r')) :
      Carries r id c most (r'.finishCopy id c)
  | isRefused {bytes : ByteArray} {e : Errno} {r' : Run σ} (hlink : c.link = .ready bytes)
      (hwrite : r.write (.pipe c.pipe) bytes = (.error e, r')) :
      Carries r id c most (r'.finishCopy id c)
  | waits {source : Nat} (hlink : c.link = .stream source)
      (htake : r.takeInput (.pipe source) (max most 1) = none) : Carries r id c most r
  | ends {source : Nat} {bytes : ByteArray} {r' : Run σ} (hlink : c.link = .stream source)
      (htake : r.takeInput (.pipe source) (max most 1) = some (bytes, r'))
      (hbytes : bytes.isEmpty = true) : Carries r id c most (r'.finishCopy id c)
  | carries {source : Nat} {bytes : ByteArray} {r' r'' : Run σ} (hlink : c.link = .stream source)
      (htake : r.takeInput (.pipe source) (max most 1) = some (bytes, r'))
      (hbytes : bytes.isEmpty = false) (hwrite : r'.write (.pipe c.pipe) bytes = (.ok (), r'')) :
      Carries r id c most r''
  | breaks {source : Nat} {bytes : ByteArray} {r' r'' : Run σ} {e : Errno}
      (hlink : c.link = .stream source)
      (htake : r.takeInput (.pipe source) (max most 1) = some (bytes, r'))
      (hbytes : bytes.isEmpty = false)
      (hwrite : r'.write (.pipe c.pipe) bytes = (.error e, r'')) :
      Carries r id c most (r''.finishCopy id c)

theorem stepCopy_carries {r : Run σ} {id : Nat} {c : Copy} (most : Nat)
    (hc : r.copies[id]? = some c) (hfinished : c.finished = false) :
    Carries r id c most (r.stepCopy id most) := by
  unfold stepCopy
  simp only [hc, hfinished, Bool.false_eq_true, if_false]
  split
  · next hlink =>
    cases hanswer : (r.write (.pipe c.pipe) _).1 with
    | ok _ => exact .delivers hlink (Prod.ext hanswer rfl)
    | error e => exact .isRefused hlink (Prod.ext hanswer rfl)
  · next hlink =>
    split
    · next htake => exact .waits hlink htake
    · next htake =>
      split
      · next hbytes => exact .ends hlink htake hbytes
      · next hbytes =>
        rw [Bool.not_eq_true] at hbytes
        split
        · next hwrite => exact .carries hlink htake hbytes hwrite
        · next hwrite => exact .breaks hlink htake hbytes hwrite

theorem stepCopy_eq_self {r : Run σ} {id : Nat} (most : Nat)
    (h : ∀ c, r.copies[id]? = some c → c.finished = true) : r.stepCopy id most = r := by
  unfold stepCopy
  split
  · rfl
  · next c hc => rw [if_pos (h c hc)]

end Run

end CommandShell.Pipeline

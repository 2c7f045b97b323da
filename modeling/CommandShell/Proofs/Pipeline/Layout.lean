import CommandShell.Pipeline.Execution
import CommandShell.Proofs.Pipeline.Turns

/-!
# The layout of a run

How the parts of a run are connected: which streams each process was started with, what each copy
carries from where to where, how many pipes there are, and what happened so far. Only the start of a
stage adds to the layout. Turns do not change it, and neither does the end of the run; they only
change the state of the parts.
-/

namespace CommandShell.Pipeline

/-- A process as a part of the layout: the position of its stage, and its streams. -/
structure Plug where
  position : Nat
  streams : Streams
  deriving DecidableEq, Repr, Inhabited

/-- A copy as a part of the layout: the link that it carries, and the pipe that it feeds. -/
structure Feed where
  link : Link
  pipe : Nat
  deriving Inhabited

/-- How the parts of a run are connected. -/
structure Layout where
  plugs : Array Plug := #[]
  feeds : Array Feed := #[]
  /-- The number of pipes. -/
  pipes : Nat := 0
  events : List Event := []

variable {σ : Type}

def Process.plug (p : Process σ) : Plug := ⟨p.position, p.streams⟩

def Copy.feed (c : Copy) : Feed := ⟨c.link, c.pipe⟩

namespace Run

def layout (r : Run σ) : Layout where
  plugs := r.processes.map Process.plug
  feeds := r.copies.map Copy.feed
  pipes := r.pipes.size
  events := r.events

theorem plug_of_process {r : Run σ} {id : Nat} {p : Process σ} (h : r.processes[id]? = some p) :
    r.layout.plugs[id]? = some p.plug := by
  simp [layout, h]

theorem process_of_plug {r : Run σ} {id : Nat} {plug : Plug}
    (h : r.layout.plugs[id]? = some plug) : ∃ p, r.processes[id]? = some p ∧ p.plug = plug := by
  rw [layout, Array.getElem?_map, Option.map_eq_some_iff] at h
  exact h

theorem feed_of_copy {r : Run σ} {id : Nat} {c : Copy} (h : r.copies[id]? = some c) :
    r.layout.feeds[id]? = some c.feed := by
  simp [layout, h]

theorem copy_of_feed {r : Run σ} {id : Nat} {feed : Feed}
    (h : r.layout.feeds[id]? = some feed) : ∃ c, r.copies[id]? = some c ∧ c.feed = feed := by
  rw [layout, Array.getElem?_map, Option.map_eq_some_iff] at h
  exact h

/-! ## What leaves the layout alone -/

theorem map_setIfInBounds_eq {α β : Type} {f : α → β} {xs : Array α} {i : Nat} {a b : α}
    (h : xs[i]? = some a) (hf : f b = f a) : (xs.setIfInBounds i b).map f = xs.map f := by
  refine Array.ext_getElem? fun j ↦ ?_
  rw [Array.getElem?_map, Array.getElem?_map, Array.getElem?_setIfInBounds]
  split_ifs with hij hlt
  · subst hij
    rw [h, Option.map_some, Option.map_some, hf]
  · subst hij
    rw [Array.getElem?_eq_none (Nat.le_of_not_lt hlt)]
  · rfl

theorem layout_eq_of_sameParts {r r' : Run σ} (h : SameParts r r') : r'.layout = r.layout := by
  rw [layout, layout, h.pipes_eq, h.processes_eq, h.copies_eq, h.events_eq]

@[simp] theorem layout_changePipe (r : Run σ) (i : Nat) (f : Pipe → Pipe) :
    (r.changePipe i f).layout = r.layout := by
  simp [layout, changePipe]

@[simp] theorem layout_closeLink (r : Run σ) (link : Link) :
    (r.closeLink link).layout = r.layout := by
  cases link <;> simp [closeLink]

@[simp] theorem layout_closeInputEnd (r : Run σ) (p : Process σ) :
    (r.closeInputEnd p).layout = r.layout := by
  unfold closeInputEnd
  split <;> simp

@[simp] theorem layout_closeOutputEnd (r : Run σ) (p : Process σ) :
    (r.closeOutputEnd p).layout = r.layout := by
  unfold closeOutputEnd
  split <;> simp

variable {r : Run σ} {id : Nat}

theorem layout_setProcess {p q : Process σ} (hp : r.processes[id]? = some p)
    (hq : q.plug = p.plug) :
    Run.layout { r with processes := r.processes.setIfInBounds id q } = r.layout := by
  simp only [layout, map_setIfInBounds_eq hp hq]

theorem layout_setCopy {c d : Copy} (hc : r.copies[id]? = some c) (hd : d.feed = c.feed) :
    Run.layout { r with copies := r.copies.setIfInBounds id d } = r.layout := by
  simp only [layout, map_setIfInBounds_eq hc hd]

theorem layout_moveProcess {p : Process σ} (hp : r.processes[id]? = some p) (state : σ) :
    (r.moveProcess id p state).layout = r.layout :=
  layout_setProcess hp rfl

theorem layout_endProcess {p q : Process σ} (hp : r.processes[id]? = some p)
    (hq : q.plug = p.plug) (status : Int) : (r.endProcess id q status).layout = r.layout := by
  rw [endProcess, layout_closeOutputEnd, layout_closeInputEnd]
  exact layout_setProcess hp hq

theorem layout_closeInput {p : Process σ} (hp : r.processes[id]? = some p) (state : σ) :
    (r.closeInput id p state).layout = r.layout := by
  rw [closeInput, layout_closeInputEnd]
  exact layout_setProcess hp rfl

theorem layout_finishCopy {c : Copy} (hc : r.copies[id]? = some c) :
    (r.finishCopy id c).layout = r.layout := by
  rw [finishCopy, layout_changePipe, layout_closeLink]
  exact layout_setCopy hc rfl

theorem parts_takeInput {r' : Run σ} {source : Source} {most : Nat} {bytes : ByteArray}
    (h : r.takeInput source most = some (bytes, r')) :
    r'.layout = r.layout ∧ r'.processes = r.processes ∧ r'.copies = r.copies := by
  cases source with
  | shellInput =>
    have hsame := sameParts_takeInput_shellInput h
    exact ⟨layout_eq_of_sameParts hsame, hsame.processes_eq, hsame.copies_eq⟩
  | pipe i =>
    obtain ⟨-, -, rfl⟩ | ⟨-, -, -, rfl⟩ := takeInput_pipe h
    · exact ⟨layout_changePipe .., rfl, rfl⟩
    · exact ⟨rfl, rfl, rfl⟩

theorem parts_takeFor {r' : Run σ} {p : Process σ} {most : Nat} {bytes : ByteArray}
    (h : r.takeFor p most = some (bytes, r')) :
    r'.layout = r.layout ∧ r'.processes = r.processes ∧ r'.copies = r.copies := by
  unfold takeFor at h
  split at h
  · exact parts_takeInput h
  · cases h
    exact ⟨rfl, rfl, rfl⟩

theorem parts_write {r' : Run σ} {sink : Sink} {bytes : ByteArray}
    {answer : Except Host.Errno Unit} (h : r.write sink bytes = (answer, r')) :
    r'.layout = r.layout ∧ r'.processes = r.processes ∧ r'.copies = r.copies := by
  cases sink with
  | outlet o =>
    have hsame := sameParts_write_outlet h
    exact ⟨layout_eq_of_sameParts hsame, hsame.processes_eq, hsame.copies_eq⟩
  | pipe i =>
    cases answer with
    | ok _ =>
      obtain ⟨-, -, rfl⟩ := write_pipe_ok h
      exact ⟨layout_changePipe .., rfl, rfl⟩
    | error e =>
      obtain ⟨rfl, -⟩ := write_pipe_error h
      exact ⟨rfl, rfl, rfl⟩

theorem layout_stepProcess (P : Programs σ) (r : Run σ) (id most : Nat) :
    (r.stepProcess P id most).layout = r.layout := by
  cases hp : r.processes[id]? with
  | none => rw [stepProcess_eq_self P most (by simp [hp])]
  | some p =>
    cases hstatus : p.status with
    | some status => rw [stepProcess_eq_self P most (by simp [hp, hstatus])]
    | none =>
      have hmoves := stepProcess_moves P most hp hstatus
      generalize r.stepProcess P id most = r' at hmoves ⊢
      cases hmoves with
      | ends hact => exact layout_endProcess hp rfl _
      | waits hact htake => exact layout_moveProcess hp _
      | reads hact htake =>
        obtain ⟨hlayout, hprocesses, -⟩ := parts_takeFor htake
        rw [layout_moveProcess (hprocesses ▸ hp), hlayout]
      | writes hact hwrite =>
        obtain ⟨hlayout, hprocesses, -⟩ := parts_write hwrite
        rw [layout_moveProcess (hprocesses ▸ hp), hlayout]
      | isRefused hact hwrite =>
        obtain ⟨hlayout, hprocesses, -⟩ := parts_write hwrite
        rw [layout_moveProcess (hprocesses ▸ hp), hlayout]
      | closes hact => exact layout_closeInput hp _
      | uses hact => exact layout_moveProcess hp _

theorem layout_stepCopy (r : Run σ) (id most : Nat) :
    (r.stepCopy id most).layout = r.layout := by
  cases hc : r.copies[id]? with
  | none => rw [stepCopy_eq_self most (by simp [hc])]
  | some c =>
    cases hfinished : c.finished with
    | true => rw [stepCopy_eq_self most (by simp [hc, hfinished])]
    | false =>
      have hcarries := stepCopy_carries most hc hfinished
      generalize r.stepCopy id most = r' at hcarries ⊢
      cases hcarries with
      | delivers hlink hwrite =>
        obtain ⟨hlayout, -, hcopies⟩ := parts_write hwrite
        rw [layout_finishCopy (hcopies ▸ hc), hlayout]
      | isRefused hlink hwrite =>
        obtain ⟨hlayout, -, hcopies⟩ := parts_write hwrite
        rw [layout_finishCopy (hcopies ▸ hc), hlayout]
      | waits hlink => rfl
      | ends hlink htake hbytes =>
        obtain ⟨hlayout, -, hcopies⟩ := parts_takeInput htake
        rw [layout_finishCopy (hcopies ▸ hc), hlayout]
      | carries hlink htake hbytes hwrite =>
        rw [(parts_write hwrite).1, (parts_takeInput htake).1]
      | breaks hlink htake hbytes hwrite =>
        obtain ⟨hlayout, -, hcopies⟩ := parts_takeInput htake
        obtain ⟨hlayout', -, hcopies'⟩ := parts_write hwrite
        rw [layout_finishCopy (hcopies' ▸ hcopies ▸ hc), hlayout', hlayout]

@[simp] theorem layout_turn (P : Programs σ) (r : Run σ) (t : Turn) :
    (r.turn P t).layout = r.layout := by
  cases t with
  | process id most => exact layout_stepProcess P r id most
  | copy id most => exact layout_stepCopy r id most

@[simp] theorem layout_turns (P : Programs σ) (r : Run σ) (ts : List Turn) :
    (r.turns P ts).layout = r.layout := by
  induction ts generalizing r with
  | nil => rfl
  | cons t ts ih => rw [turns_cons, ih, layout_turn]

/-! ## The end of a run -/

@[simp] theorem layout_cancelCopies (r : Run σ) : r.cancelCopies.layout = r.layout := by
  unfold cancelCopies
  induction List.range r.copies.size generalizing r with
  | nil => rfl
  | cons id ids ih =>
    rw [List.foldl_cons, ih]
    split
    · next c hc =>
      split
      · rfl
      · exact layout_finishCopy hc
    · rfl

@[simp] theorem layout_reap (r : Run σ) : r.reap.layout = r.layout := by
  unfold reap
  induction List.range r.processes.size generalizing r with
  | nil => rfl
  | cons id ids ih =>
    rw [List.foldl_cons, ih]
    split
    · next p hp =>
      dsimp only
      split <;> exact layout_endProcess (q := { p with reaped := true }) hp rfl _
    · rfl

@[simp] theorem layout_cleanUp (r : Run σ) (left : Option Link) :
    (r.cleanUp left).layout = r.layout := by
  unfold cleanUp
  cases left <;> simp

@[simp] theorem layout_closeFiles (r : Run σ) : r.closeFiles.layout = r.layout := rfl

end Run

end CommandShell.Pipeline

import CommandShell.Proofs.Pipeline.Exchange

/-!
# The flow of bytes

What the next stage is given are the bytes that a stage has produced, in order, none of them lost
and none of them twice, whoever gets how many turns. `Sound` is the invariant: every pipe agrees with
the process at its one end and with the copy at its other. A turn of a process or of a copy touches
the pipes at its own ends only (`Run.Acts`, `Run.Tends`), and since no two stages share a pipe, all
the others still agree.
-/

namespace CommandShell.Pipeline

open CommandShell.Host CommandShell.Line

variable {σ : Type} {P : Programs σ} {registered : List String} {targets : Run.Targets}
  {stages : List Stage} {m : Moment σ}

/-- Whoever reads from a pipe has quit early. -/
def Moment.HasQuit (m : Moment σ) (i : Nat) : Prop :=
  ∀ id, m.run.layout.Reads id i → (m.exchanges id).quitEarly = true

theorem Moment.HasQuit.mono {m' : Moment σ} {i : Nat} (hquit : m.HasQuit i)
    (hreads : ∀ id, m'.run.layout.Reads id i → m.run.layout.Reads id i)
    (hkeeps : ∀ id, (m.exchanges id).quitEarly = true → (m'.exchanges id).quitEarly = true) :
    m'.HasQuit i :=
  fun id hid ↦ hkeeps id (hquit id (hreads id hid))

/-- Every pipe agrees with what is at its ends. -/
structure Sound (m : Moment σ) : Prop where
  read : ∀ (id : Nat) (p : Process σ) (i : Nat), m.run.processes[id]? = some p →
    p.streams.input = .pipe i → (m.run.pipe i).ReadBy p (m.exchanges id)
  written : ∀ (id : Nat) (p : Process σ) (o : Nat), m.run.processes[id]? = some p →
    p.streams.output = .pipe o → (m.run.pipe o).WrittenBy p (m.exchanges id)
  agrees : ∀ (j : Nat) (c : Copy), m.run.copies[j]? = some c →
    c.Agrees m.run (m.HasQuit c.pipe)
  /-- A process is refused only what the next one would not have read. -/
  refusal : ∀ (j : Nat) (c : Copy) (s id : Nat), m.run.copies[j]? = some c → c.link = .stream s →
    m.run.layout.Writes id s → (m.exchanges id).refused = true → m.HasQuit c.pipe
  /-- The pipe that no stage has taken yet is open, and nothing was read from it. -/
  untouched : m.IsGoing → ∀ s, linkAfter m.started = some (.stream s) →
    (m.run.pipe s).shellReads = true ∧ (m.run.pipe s).taken = 0
  unborn : ∀ id, m.run.processes.size ≤ id → m.exchanges id = {}

/-! ## Who is at the ends of a pipe -/

namespace Run

variable {r : Run σ}

theorem reads_of_process {id i : Nat} {p : Process σ} (hp : r.processes[id]? = some p)
    (hi : p.streams.input = .pipe i) : r.layout.Reads id i :=
  ⟨p.plug, plug_of_process hp, hi⟩

theorem writes_of_process {id o : Nat} {p : Process σ} (hp : r.processes[id]? = some p)
    (ho : p.streams.output = .pipe o) : r.layout.Writes id o :=
  ⟨p.plug, plug_of_process hp, ho⟩

theorem fills_of_copy {j : Nat} {c : Copy} (hc : r.copies[j]? = some c) : r.layout.Fills j c.pipe :=
  ⟨c.feed, feed_of_copy hc, rfl⟩

theorem drains_of_copy {j s : Nat} {c : Copy} (hc : r.copies[j]? = some c)
    (hs : c.link = .stream s) : r.layout.Drains j s :=
  ⟨c.feed, feed_of_copy hc, hs⟩

theorem process_of_reads {id i : Nat} (h : r.layout.Reads id i) :
    ∃ p, r.processes[id]? = some p ∧ p.streams.input = .pipe i := by
  obtain ⟨_, hplug, hi⟩ := h
  obtain ⟨p, hp, rfl⟩ := process_of_plug hplug
  exact ⟨p, hp, hi⟩

theorem process_of_writes {id o : Nat} (h : r.layout.Writes id o) :
    ∃ p, r.processes[id]? = some p ∧ p.streams.output = .pipe o := by
  obtain ⟨_, hplug, ho⟩ := h
  obtain ⟨p, hp, rfl⟩ := process_of_plug hplug
  exact ⟨p, hp, ho⟩

theorem not_drains_of_reads (hplumbed : r.layout.Plumbed) {j id k : Nat} {c : Copy}
    (hc : r.copies[j]? = some c) (hk : r.layout.Reads id k) : c.link ≠ .stream k := by
  intro hs
  obtain ⟨_, hwrites⟩ := hplumbed.writes_of_drains (drains_of_copy hc hs)
  exact hplumbed.not_writes_of_reads hk hwrites

theorem pipe_ne_of_writes (hplumbed : r.layout.Plumbed) {j id k : Nat} {c : Copy}
    (hc : r.copies[j]? = some c) (hk : r.layout.Writes id k) : k ≠ c.pipe := by
  rintro rfl
  obtain ⟨_, hreads⟩ := hplumbed.reads_of_fills (fills_of_copy hc)
  exact hplumbed.not_writes_of_reads hreads hk

namespace Tends

variable {r' : Run σ} {j : Nat} {c c' : Copy} {early : Prop} (h : r.Tends r' j c c' early)
include h

theorem exists_copy (hc : r.copies[j]? = some c) {j₁ : Nat} {c₁ : Copy}
    (hc₁ : r'.copies[j₁]? = some c₁) : ∃ c₀, r.copies[j₁]? = some c₀ ∧ c₁.feed = c₀.feed := by
  by_cases hj : j₁ = j
  · subst hj
    cases h.copy_eq.symm.trans hc₁
    exact ⟨c, hc, h.feed_eq⟩
  · rw [h.copy_ne j₁ hj] at hc₁
    exact ⟨c₁, hc₁, rfl⟩

variable (hplumbed : r.layout.Plumbed) (hc : r.copies[j]? = some c)
include hplumbed hc

theorem writerMove {id k : Nat} (hk : r.layout.Reads id k) :
    Pipe.WriterMove (r.pipe k) (r'.pipe k) := by
  by_cases hpipe : k = c.pipe
  · subst hpipe
    exact h.dest
  · rw [h.pipe_eq k hpipe (not_drains_of_reads hplumbed hc hk)]
    exact .refl _

theorem readerMove {id k : Nat} (hk : r.layout.Writes id k) :
    Pipe.ReaderMove (r.pipe k) (r'.pipe k) := by
  by_cases hs : c.link = .stream k
  · exact h.source k hs
  · rw [h.pipe_eq k (pipe_ne_of_writes hplumbed hc hk) hs]
    exact .refl _

theorem source_eq {j₁ s : Nat} {c₁ : Copy} (hj : j₁ ≠ j) (hc₁ : r.copies[j₁]? = some c₁)
    (hs : c₁.link = .stream s) : r'.pipe s = r.pipe s := by
  obtain ⟨_, hwrites⟩ := hplumbed.writes_of_drains (drains_of_copy hc₁ hs)
  exact h.pipe_eq s (pipe_ne_of_writes hplumbed hc hwrites) fun hs' ↦
    hj (hplumbed.drains_inj (drains_of_copy hc₁ hs) (drains_of_copy hc hs'))

theorem dest_eq {j₁ : Nat} {c₁ : Copy} (hj : j₁ ≠ j) (hc₁ : r.copies[j₁]? = some c₁) :
    r'.pipe c₁.pipe = r.pipe c₁.pipe := by
  obtain ⟨_, hread⟩ := hplumbed.reads_of_fills (fills_of_copy hc₁)
  refine h.pipe_eq _ (fun hpipe ↦ hj ?_) (not_drains_of_reads hplumbed hc hread)
  exact hplumbed.fills_inj (fills_of_copy hc₁) (hpipe ▸ fills_of_copy hc)

end Tends

end Run

namespace Recorded

variable (h : Recorded P registered targets stages m)
include h

/-- The pipe that no stage has taken yet is the one that the last process writes to, and no copy
drains it. -/
theorem linkAfter_stream (going : m.IsGoing) {s : Nat}
    (hs : linkAfter m.started = some (.stream s)) :
    (∃ id, m.run.layout.Writes id s) ∧ ∀ j, ¬ m.run.layout.Drains j s := by
  obtain ⟨a, hlast, hout⟩ := Option.bind_eq_some_iff.mp hs
  have hmem := List.mem_of_getLast? hlast
  obtain ⟨hjoined, ho⟩ := (h.comes a hmem).joined_of_stream (going a hmem) hout
  refine ⟨⟨_, h.writes_of_joined hmem hjoined ho⟩, fun j hj ↦ ?_⟩
  -- whoever drains a pipe was started after the one who writes to it
  obtain ⟨k, b, c, hb, hc, -, hbjoined, hbo⟩ := h.owner_of_drains hj
  rw [List.getLast?_eq_getElem?] at hlast
  have hk := h.index_eq_of_owns hb hlast (hbjoined.owns_output hbo) (hjoined.owns_output ho)
  have hlt := (List.getElem?_eq_some_iff.mp hc).1
  omega

end Recorded

/-! ## A process has a turn -/

namespace Sound

variable (h : Sound m)
include h

theorem source (hplumbed : m.run.layout.Plumbed) {j s : Nat} {c : Copy}
    (hc : m.run.copies[j]? = some c) (hs : c.link = .stream s) : (m.run.pipe s).LeadsOut := by
  obtain ⟨id, hid⟩ := hplumbed.writes_of_drains (Run.drains_of_copy hc hs)
  obtain ⟨p, hp, ho⟩ := Run.process_of_writes hid
  exact (h.written id p s hp ho).leadsOut

theorem readerMove_of_acts (hplumbed : m.run.layout.Plumbed) {r' : Run σ} {id : Nat}
    {p p' : Process σ} {x' : Exchange} (hp : m.run.processes[id]? = some p)
    (hacts : m.run.Acts r' id p p' (m.exchanges id) x') {k : Nat}
    (hk : ∃ id', m.run.layout.Reads id' k) : Pipe.ReaderMove (m.run.pipe k) (r'.pipe k) := by
  obtain ⟨id', hk⟩ := hk
  have hout : p.streams.output ≠ .pipe k := fun ho ↦
    hplumbed.not_writes_of_reads hk (Run.writes_of_process hp ho)
  by_cases hi : p.streams.input = .pipe k
  · exact (hacts.reads k hi hout (h.read id p k hp hi)).2
  · rw [hacts.pipe_eq k hi hout]
    exact .refl _

theorem writerMove_of_acts (hplumbed : m.run.layout.Plumbed) {r' : Run σ} {id : Nat}
    {p p' : Process σ} {x' : Exchange} (hp : m.run.processes[id]? = some p)
    (hacts : m.run.Acts r' id p p' (m.exchanges id) x') {k : Nat}
    (hk : ∃ id', m.run.layout.Writes id' k) : Pipe.WriterMove (m.run.pipe k) (r'.pipe k) := by
  obtain ⟨id', hk⟩ := hk
  have hin : p.streams.input ≠ .pipe k := fun hi ↦
    hplumbed.not_writes_of_reads (Run.reads_of_process hp hi) hk
  by_cases ho : p.streams.output = .pipe k
  · exact (hacts.writes k ho hin (h.written id p k hp ho)).2
  · rw [hacts.pipe_eq k hin ho]
    exact .refl _

section

variable (hplumbed : m.run.layout.Plumbed) {r' : Run σ} {id : Nat} {p p' : Process σ}
  {x' : Exchange} (hp : m.run.processes[id]? = some p)
  (hacts : m.run.Acts r' id p p' (m.exchanges id) x')
include hplumbed hp hacts

theorem readBy_of_acts {id₁ i : Nat} {p₁ : Process σ} (hp₁ : r'.processes[id₁]? = some p₁)
    (hi : p₁.streams.input = .pipe i) :
    (r'.pipe i).ReadBy p₁ (Function.update m.exchanges id x' id₁) := by
  by_cases hid : id₁ = id
  · subst hid
    cases hacts.process_eq.symm.trans hp₁
    rw [hacts.streams_eq] at hi
    have hout : p.streams.output ≠ .pipe i := fun ho ↦
      hplumbed.not_writes_of_reads (Run.reads_of_process hp hi) (Run.writes_of_process hp ho)
    rw [Function.update_self]
    exact (hacts.reads i hi hout (h.read _ p i hp hi)).1
  · -- no other process is at either end of the pipe
    rw [hacts.process_ne id₁ hid] at hp₁
    have hreads := Run.reads_of_process hp₁ hi
    rw [Function.update_of_ne hid, hacts.pipe_eq i]
    · exact h.read id₁ p₁ i hp₁ hi
    · exact fun hi' ↦ hid (hplumbed.reads_inj hreads (Run.reads_of_process hp hi'))
    · exact fun ho ↦ hplumbed.not_writes_of_reads hreads (Run.writes_of_process hp ho)

theorem writtenBy_of_acts {id₁ o : Nat} {p₁ : Process σ} (hp₁ : r'.processes[id₁]? = some p₁)
    (ho : p₁.streams.output = .pipe o) :
    (r'.pipe o).WrittenBy p₁ (Function.update m.exchanges id x' id₁) := by
  by_cases hid : id₁ = id
  · subst hid
    cases hacts.process_eq.symm.trans hp₁
    rw [hacts.streams_eq] at ho
    have hin : p.streams.input ≠ .pipe o := fun hi ↦
      hplumbed.not_writes_of_reads (Run.reads_of_process hp hi) (Run.writes_of_process hp ho)
    rw [Function.update_self]
    exact (hacts.writes o ho hin (h.written _ p o hp ho)).1
  · rw [hacts.process_ne id₁ hid] at hp₁
    have hwrites := Run.writes_of_process hp₁ ho
    rw [Function.update_of_ne hid, hacts.pipe_eq o]
    · exact h.written id₁ p₁ o hp₁ ho
    · exact fun hi ↦ hplumbed.not_writes_of_reads (Run.reads_of_process hp hi) hwrites
    · exact fun ho' ↦ hid (hplumbed.writes_inj hwrites (Run.writes_of_process hp ho'))

omit h hplumbed hp in
theorem hasQuit_of_acts (hlayout : r'.layout = m.run.layout) {i : Nat} (hquit : m.HasQuit i) :
    Moment.HasQuit { m with run := r', exchanges := Function.update m.exchanges id x' } i := by
  refine hquit.mono (fun _ hreads ↦ hlayout ▸ hreads) fun id' hid' ↦ ?_
  dsimp only
  by_cases hid : id' = id
  · subst hid
    rw [Function.update_self]
    exact hacts.quits hid'
  · rwa [Function.update_of_ne hid]

omit hplumbed in
/-- A process that is refused, and can still write, writes into a copy whose reader has quit. -/
theorem hasQuit_of_refused (hstatus : p.status = none) (hrefused : x'.refused = true) {j s : Nat}
    {c : Copy} (hc : m.run.copies[j]? = some c) (hs : c.link = .stream s)
    (ho : p.streams.output = .pipe s) : m.HasQuit c.pipe := by
  rcases hacts.refuses hrefused with hrefused | hshut
  · exact h.refusal j c s id hc hs (Run.writes_of_process hp ho) hrefused
  · -- the copy is finished although the process can still write
    have hagrees := h.agrees j c hc
    have hshell := (Bool.or_eq_false_iff.mp (hshut s ho)).1
    rw [hagrees.shellReads_eq s hs, Bool.not_eq_false'] at hshell
    obtain ⟨-, hdry⟩ | ⟨hquit, -⟩ := hagrees.ended hshell
    · have hdone := hdry s hs
      rw [(h.written _ p s hp ho).programWrites_eq, hstatus] at hdone
      cases hdone
    · exact hquit

theorem acts (huntaken : m.IsGoing → ∀ s, linkAfter m.started = some (.stream s) →
      ∃ id, m.run.layout.Writes id s)
    (hstatus : p.status = none) (hlayout : r'.layout = m.run.layout) :
    Sound { m with run := r', exchanges := Function.update m.exchanges id x' } where
  read _ _ _ hp₁ hi := h.readBy_of_acts hplumbed hp hacts hp₁ hi
  written _ _ _ hp₁ ho := h.writtenBy_of_acts hplumbed hp hacts hp₁ ho
  agrees j c hc := by
    dsimp only at hc ⊢
    rw [hacts.copies_eq] at hc
    refine (h.agrees j c hc).of_moves (fun s hs ↦ ?_) (fun s hs ↦ h.source hplumbed hc hs)
      (h.readerMove_of_acts hplumbed hp hacts (hplumbed.reads_of_fills (Run.fills_of_copy hc)))
      (hasQuit_of_acts hacts hlayout)
    exact h.writerMove_of_acts hplumbed hp hacts
      (hplumbed.writes_of_drains (Run.drains_of_copy hc hs))
  refusal j c s id₁ hc hs hwrites hrefused := by
    dsimp only at hc hwrites hrefused
    rw [hacts.copies_eq] at hc
    rw [hlayout] at hwrites
    refine hasQuit_of_acts hacts hlayout ?_
    -- only the process that acts can have been refused just now
    by_cases hid : id₁ = id
    · subst hid
      rw [Function.update_self] at hrefused
      obtain ⟨q, hq, ho⟩ := Run.process_of_writes hwrites
      cases hp.symm.trans hq
      exact h.hasQuit_of_refused hp hacts hstatus hrefused hc hs ho
    · rw [Function.update_of_ne hid] at hrefused
      exact h.refusal j c s id₁ hc hs hwrites hrefused
  untouched going s hs := by
    have hmove := h.writerMove_of_acts hplumbed hp hacts (huntaken going s hs)
    obtain ⟨hshell, htaken⟩ := h.untouched going s hs
    exact ⟨hmove.shellReads_eq.trans hshell, hmove.taken_eq.trans htaken⟩
  unborn id' hid' := by
    dsimp only at hid' ⊢
    have hsize : r'.processes.size = m.run.processes.size := by
      have hplugs := congrArg (·.plugs.size) hlayout
      simpa [Run.layout] using hplugs
    have hlt := (Array.getElem?_eq_some_iff.mp hp).1
    rw [Function.update_of_ne (by omega)]
    exact h.unborn id' (hsize ▸ hid')

end

/-! ## A copy has a turn -/

theorem agrees_of_tends (hplumbed : m.run.layout.Plumbed) {r' : Run σ} {j : Nat} {c c' : Copy}
    (hc : m.run.copies[j]? = some c) (htends : m.run.Tends r' j c c' (m.HasQuit c.pipe)) {j₁ : Nat}
    {c₁ : Copy} (hc₁ : r'.copies[j₁]? = some c₁) : c₁.Agrees r' (m.HasQuit c₁.pipe) := by
  by_cases hj : j₁ = j
  · subst hj
    cases htends.copy_eq.symm.trans hc₁
    have hpipe : c'.pipe = c.pipe := congrArg Feed.pipe htends.feed_eq
    rw [hpipe]
    exact htends.agrees
  · rw [htends.copy_ne j₁ hj] at hc₁
    refine (h.agrees j₁ c₁ hc₁).of_moves (fun s hs ↦ ?_) (fun s hs ↦ h.source hplumbed hc₁ hs) ?_ id
    · rw [htends.source_eq hplumbed hc hj hc₁ hs]
      exact .refl _
    · rw [htends.dest_eq hplumbed hc hj hc₁]
      exact .refl _

theorem tends (hplumbed : m.run.layout.Plumbed)
    (huntaken : m.IsGoing → ∀ s, linkAfter m.started = some (.stream s) →
      (∃ id, m.run.layout.Writes id s) ∧ ∀ j, ¬ m.run.layout.Drains j s)
    {r' : Run σ} {j : Nat} {c c' : Copy} (hc : m.run.copies[j]? = some c)
    (hlayout : r'.layout = m.run.layout)
    (htends : m.run.Tends r' j c c' (m.HasQuit c.pipe)) : Sound { m with run := r' } := by
  have hquits {i : Nat} (hquit : m.HasQuit i) : Moment.HasQuit { m with run := r' } i :=
    hquit.mono (fun _ hreads ↦ hlayout ▸ hreads) fun _ ↦ id
  constructor
  case read =>
    intro id p i hp hi
    dsimp only at hp ⊢
    rw [htends.processes_eq] at hp
    exact (h.read id p i hp hi).writerMove
      (htends.writerMove hplumbed hc (Run.reads_of_process hp hi))
  case written =>
    intro id p o hp ho
    dsimp only at hp ⊢
    rw [htends.processes_eq] at hp
    exact (h.written id p o hp ho).readerMove
      (htends.readerMove hplumbed hc (Run.writes_of_process hp ho))
  case agrees =>
    intro j₁ c₁ hc₁
    exact (h.agrees_of_tends hplumbed hc htends hc₁).mono hquits
  case refusal =>
    intro j₁ c₁ s id hc₁ hs hwrites hrefused
    dsimp only at hc₁ hwrites hrefused
    rw [hlayout] at hwrites
    obtain ⟨c₀, hc₀, hfeed⟩ := htends.exists_copy hc hc₁
    have hlink : c₁.link = c₀.link := congrArg Feed.link hfeed
    have hpipe : c₁.pipe = c₀.pipe := congrArg Feed.pipe hfeed
    rw [hpipe]
    exact hquits (h.refusal j₁ c₀ s id hc₀ (hlink ▸ hs) hwrites hrefused)
  case untouched =>
    intro going s hs
    obtain ⟨⟨_, hwrites⟩, hdrains⟩ := huntaken going s hs
    dsimp only
    -- the link that the next stage is to take is at neither end of the copy
    rw [htends.pipe_eq s (Run.pipe_ne_of_writes hplumbed hc hwrites) fun hs' ↦
      hdrains j (Run.drains_of_copy hc hs')]
    exact h.untouched going s hs
  case unborn =>
    intro id hid
    dsimp only at hid ⊢
    rw [htends.processes_eq] at hid
    exact h.unborn id hid

end Sound

/-- What a turn comes to: nothing, or a move of one process or of one copy. -/
inductive Turned (m : Moment σ) : Run.Turn → Moment σ → Prop
  | idle {t : Run.Turn} (hcopy : ∀ (j most : Nat) (c : Copy), t = .copy j most →
      m.run.copies[j]? = some c → c.finished = true) : Turned m t m
  | acts {id most : Nat} {p p' : Process σ} {r' : Run σ} {x' : Exchange}
      (hp : m.run.processes[id]? = some p) (hstatus : p.status = none)
      (hlayout : r'.layout = m.run.layout)
      (hacts : m.run.Acts r' id p p' (m.exchanges id) x') :
      Turned m (.process id most)
        { m with run := r', exchanges := Function.update m.exchanges id x' }
  | tends {j most : Nat} {c c' : Copy} {r' : Run σ} (hc : m.run.copies[j]? = some c)
      (hlayout : r'.layout = m.run.layout)
      (htends : m.run.Tends r' j c c' (m.HasQuit c.pipe)) :
      Turned m (.copy j most) { m with run := r' }

theorem Sound.turned (h : Sound m) (hplumbed : m.run.layout.Plumbed) (P : Programs σ)
    (t : Run.Turn) : Turned m t (m.turn P t) := by
  have hlayout : (m.run.turn P t).layout = m.run.layout := m.layout_turn P t
  cases t with
  | process id most =>
    cases hp : m.run.processes[id]? with
    | none =>
      rw [m.turn_eq_self P most (by simp [hp])]
      exact .idle nofun
    | some p =>
      cases hstatus : p.status with
      | some status =>
        rw [m.turn_eq_self P most (by simp [hp, hstatus])]
        exact .idle nofun
      | none =>
        obtain ⟨p', hacts⟩ := Run.stepProcess_acts (x := m.exchanges id) P most hp hstatus
          (hplumbed.errors_eq_outlet (Run.plug_of_process hp))
        rw [m.turn_process P most hp hstatus]
        exact .acts hp hstatus hlayout hacts
  | copy j most =>
    change Turned m _ { m with run := m.run.stepCopy j most }
    by_cases hfinished : ∀ c, m.run.copies[j]? = some c → c.finished = true
    · rw [Run.stepCopy_eq_self most hfinished]
      refine .idle fun j' most' c hturn hc ↦ ?_
      cases hturn
      exact hfinished c hc
    · obtain ⟨c, hc, hfinished⟩ : ∃ c, m.run.copies[j]? = some c ∧ c.finished = false := by
        simpa using hfinished
      have hagrees := h.agrees j c hc
      have hshell : (m.run.pipe c.pipe).shellWrites = true := by
        rw [hagrees.shellWrites_eq, hfinished, Bool.not_false]
      obtain ⟨_, hread⟩ := hplumbed.reads_of_fills (Run.fills_of_copy hc)
      have hearly (hshut : (m.run.pipe c.pipe).hasReader = false) : m.HasQuit c.pipe := by
        intro id hid
        obtain ⟨p, hp, hi⟩ := Run.process_of_reads hid
        exact (h.read id p _ hp hi).early (Bool.or_eq_false_iff.mp hshut).2 hshell
      obtain ⟨c', htends⟩ := Run.stepCopy_tends most hc hfinished
        (Run.not_drains_of_reads hplumbed hc hread) hagrees
        (fun s hs ↦ h.source hplumbed hc hs) hearly
      exact .tends hc hlayout htends

theorem Sound.turn (h : Sound m) (hrecord : Recorded P registered targets stages m)
    (t : Run.Turn) : Sound (m.turn P t) := by
  have hplumbed := hrecord.plumbed
  have hturned := h.turned hplumbed P t
  generalize m.turn P t = m' at hturned ⊢
  cases hturned with
  | idle => exact h
  | acts hp hstatus hlayout hacts =>
    exact h.acts hplumbed hp hacts (fun going s hs ↦ (hrecord.linkAfter_stream going hs).1) hstatus
      hlayout
  | tends hc hlayout htends =>
    exact h.tends hplumbed (fun going s hs ↦ hrecord.linkAfter_stream going hs) hc hlayout htends

/-! ## A stage is started -/

/-! ### It becomes a process -/

section

variable {a : StageStart σ} (hbefore : a.before = m.run) {state : σ}
  (hjoins : Run.Joins a.before a.stage a.incoming (a.before.streamsFor a.stage a.incoming targets)
    state a.after)
include hbefore hjoins

theorem pipe_of_joins {k : Nat} (hk : k < m.run.layout.pipes) : a.after.pipe k = m.run.pipe k := by
  rw [hjoins.pipe_eq k (hbefore ▸ hk), hbefore]

theorem process_of_joins {id : Nat} {p : Process σ} (hp : a.after.processes[id]? = some p) :
    m.run.processes[id]? = some p ∨ m.run.processes.size = id ∧
      { position := a.stage.position, state, streams := (a.plug targets).streams } = p := by
  rw [hjoins.processes_iff] at hp
  rw [← hbefore]
  exact hp

theorem hasQuit_of_joins (hplumbed : m.run.layout.Plumbed) {j : Nat} {c : Copy}
    (hc : m.run.copies[j]? = some c) (hquit : m.HasQuit c.pipe) (pending : List Stage) :
    Moment.HasQuit
      { started := m.started ++ [a], pending, run := a.after, exchanges := m.exchanges }
      c.pipe := by
  refine hquit.mono (fun id hid ↦ ?_) fun _ ↦ id
  obtain ⟨p, hp, hi⟩ := Run.process_of_reads hid
  obtain hp | ⟨rfl, rfl⟩ := process_of_joins hbefore hjoins hp
  · exact Run.reads_of_process hp hi
  · obtain ⟨_, hread⟩ := hplumbed.reads_of_fills (Run.fills_of_copy hc)
    have hlt := hplumbed.lt_of_reads hread
    obtain ⟨-, hnewest⟩ := StageStart.input_plug_eq_pipe hi
    rw [← hnewest, hbefore] at hlt
    exact absurd hlt (Nat.not_lt_of_le (Nat.le_add_right ..))

end

namespace Sound

section

variable (h : Sound m) (hplumbed : m.run.layout.Plumbed) {a : StageStart σ}
  (hbefore : a.before = m.run) {state : σ}
  (hjoins : Run.Joins a.before a.stage a.incoming (a.before.streamsFor a.stage a.incoming targets)
    state a.after)
include h hplumbed hbefore hjoins

theorem readBy_of_joins {id i : Nat} {p : Process σ} (hp : a.after.processes[id]? = some p)
    (hi : p.streams.input = .pipe i) : (a.after.pipe i).ReadBy p (m.exchanges id) := by
  obtain hp | ⟨rfl, rfl⟩ := process_of_joins hbefore hjoins hp
  · rw [pipe_of_joins hbefore hjoins (hplumbed.lt_of_reads (Run.reads_of_process hp hi))]
    exact h.read id p i hp hi
  · obtain ⟨hsome, rfl⟩ := StageStart.input_plug_eq_pipe hi
    rw [h.unborn _ (Nat.le_refl _), hjoins.pipe_input hsome]
    exact Pipe.readBy_new rfl rfl

theorem writtenBy_of_joins {id o : Nat} {p : Process σ} (hp : a.after.processes[id]? = some p)
    (ho : p.streams.output = .pipe o) : (a.after.pipe o).WrittenBy p (m.exchanges id) := by
  obtain hp | ⟨rfl, rfl⟩ := process_of_joins hbefore hjoins hp
  · rw [pipe_of_joins hbefore hjoins (hplumbed.lt_of_writes (Run.writes_of_process hp ho))]
    exact h.written id p o hp ho
  · rw [h.unborn _ (Nat.le_refl _), hjoins.pipe_output o (StageStart.output_plug_eq_pipe ho)]
    exact Pipe.writtenBy_new rfl

theorem agrees_of_joins {j : Nat} {c : Copy} (hc : m.run.copies[j]? = some c)
    (pending : List Stage) :
    c.Agrees a.after (Moment.HasQuit
      { started := m.started ++ [a], pending, run := a.after, exchanges := m.exchanges }
      c.pipe) := by
  obtain ⟨_, hread⟩ := hplumbed.reads_of_fills (Run.fills_of_copy hc)
  refine (h.agrees j c hc).of_moves (fun s hs ↦ ?_) (fun s hs ↦ h.source hplumbed hc hs) ?_
    fun hquit ↦ hasQuit_of_joins hbefore hjoins hplumbed hc hquit pending
  · obtain ⟨_, hwrite⟩ := hplumbed.writes_of_drains (Run.drains_of_copy hc hs)
    rw [pipe_of_joins hbefore hjoins (hplumbed.lt_of_writes hwrite)]
    exact .refl _
  · rw [pipe_of_joins hbefore hjoins (hplumbed.lt_of_reads hread)]
    exact .refl _

variable (going : m.IsGoing)
  (huntaken : ∀ s, linkAfter m.started = some (.stream s) → ∃ id, m.run.layout.Writes id s)
  (hincoming : a.incoming = linkAfter m.started)
include going huntaken hincoming

theorem agrees_of_joins_new {link : Link} (hlink : a.incoming = some link) {early : Prop} :
    Copy.Agrees { link, pipe := a.before.inputPipe a.stage } a.after early := by
  have hdest := hjoins.pipe_input (by rw [hlink]; rfl)
  have hsource (s : Nat) (hs : link = .stream s) :
      (a.after.pipe s).shellReads = true ∧ (a.after.pipe s).taken = 0 := by
    rw [hs, hincoming] at hlink
    obtain ⟨_, hwrite⟩ := huntaken s hlink
    rw [pipe_of_joins hbefore hjoins (hplumbed.lt_of_writes hwrite)]
    exact h.untouched going s hlink
  refine ⟨fun s hs ↦ (hsource s hs).1, ?_, fun _ ↦ ?_, nofun⟩
  · rw [hdest]
    rfl
  · dsimp only
    rw [hdest, Copy.carried]
    cases link with
    | stream s =>
      dsimp only
      rw [Pipe.consumed, (hsource s rfl).2, ByteArray.extract_same]
    | ready bytes => rfl

/-- A new process agrees with its new pipes, and so does the copy that feeds it. -/
theorem joins (houtgoing : a.outgoing = (a.before.outputPipe? a.stage).map .stream)
    (pending : List Stage) :
    Sound { started := m.started ++ [a], pending, run := a.after, exchanges := m.exchanges } where
  read _ _ _ hp hi := h.readBy_of_joins hplumbed hbefore hjoins hp hi
  written _ _ _ hp ho := h.writtenBy_of_joins hplumbed hbefore hjoins hp ho
  agrees j c hc := by
    obtain hc | ⟨-, link, hlink, rfl⟩ := (hjoins.copies_iff j c).mp hc
    · rw [hbefore] at hc
      exact h.agrees_of_joins hplumbed hbefore hjoins hc pending
    · exact h.agrees_of_joins_new hplumbed hbefore hjoins going huntaken hincoming hlink
  refusal j c s id hc hs hwrites hrefused := by
    obtain ⟨p, hp, ho⟩ := Run.process_of_writes hwrites
    dsimp only at hrefused
    obtain hp | ⟨rfl, -⟩ := process_of_joins hbefore hjoins hp
    · obtain hc | ⟨-, link, hlink, rfl⟩ := (hjoins.copies_iff j c).mp hc
      · rw [hbefore] at hc
        exact hasQuit_of_joins hbefore hjoins hplumbed hc
          (h.refusal j c s id hc hs (Run.writes_of_process hp ho) hrefused) pending
      · -- the shell still reads what the new copy is to carry
        cases hs
        rw [hincoming] at hlink
        have hshell := (h.written id p s hp ho).shut hrefused
        rw [(h.untouched going s hlink).1] at hshell
        cases hshell
    · rw [h.unborn _ (Nat.le_refl _)] at hrefused
      cases hrefused
  untouched _ s hs := by
    dsimp only at hs ⊢
    rw [linkAfter_concat, houtgoing, Option.map_eq_some_iff] at hs
    obtain ⟨o, ho, hs⟩ := hs
    cases hs
    rw [hjoins.pipe_output _ ho]
    exact ⟨rfl, rfl⟩
  unborn id hid := by
    dsimp only at hid ⊢
    rw [hjoins.processes_eq, Array.size_push, hbefore] at hid
    exact h.unborn id (Nat.le_of_succ_le hid)

end

end Sound

/-! ### It is over at once -/

namespace Run.Passes

variable {r after : Run σ} {stage : Stage} {incoming : Option Link} {events : List Event}
  (h : Passes r stage incoming events after)
include h

theorem pipe_eq_or_readerMove {k : Nat} (hk : k < r.pipes.size) :
    after.pipe k = r.pipe k ∨
      incoming = some (.stream k) ∧ Pipe.ReaderMove (r.pipe k) (after.pipe k) := by
  rw [h.pipe_eq k hk]
  cases incoming with
  | none => exact .inl rfl
  | some link =>
    rw [Run.closeIncoming, pipe_note]
    by_cases hlink : link = .stream k
    · rw [pipe_closeLink_self hlink, hlink]
      exact .inr ⟨rfl, rfl, rfl, rfl, id, (absurd · Bool.false_ne_true), id⟩
    · exact .inl (pipe_closeLink_of_ne hlink)

theorem pipe_eq_of_reads (hplumbed : r.layout.Plumbed)
    (hwrites : ∀ s, incoming = some (.stream s) → ∃ id, r.layout.Writes id s) {id k : Nat}
    (hk : r.layout.Reads id k) : after.pipe k = r.pipe k := by
  refine (h.pipe_eq_or_readerMove (hplumbed.lt_of_reads hk)).resolve_right fun ⟨hlink, _⟩ ↦ ?_
  obtain ⟨_, hwrite⟩ := hwrites k hlink
  exact hplumbed.not_writes_of_reads hk hwrite

end Run.Passes

/-- A stage that is over at once has at most closed the link into it. -/
theorem Sound.passes (h : Sound m) (hplumbed : m.run.layout.Plumbed)
    (huntaken : ∀ s, linkAfter m.started = some (.stream s) →
      (∃ id, m.run.layout.Writes id s) ∧ ∀ j, ¬ m.run.layout.Drains j s)
    {a : StageStart σ} {stage : Stage} {incoming : Option Link}
    (hincoming : ∀ s, incoming = some (.stream s) → linkAfter m.started = some (.stream s))
    (houtgoing : a.result.isOk = true → ∀ s, a.outgoing ≠ some (.stream s)) {events : List Event}
    (hpasses : Run.Passes m.run stage incoming events a.after) (pending : List Stage) :
    Sound { started := m.started ++ [a], pending, run := a.after, exchanges := m.exchanges } := by
  have hread {id k : Nat} (hk : m.run.layout.Reads id k) : a.after.pipe k = m.run.pipe k :=
    hpasses.pipe_eq_of_reads hplumbed (fun s hs ↦ (huntaken s (hincoming s hs)).1) hk
  have hquits {i : Nat} (hquit : m.HasQuit i) :
      Moment.HasQuit
        { started := m.started ++ [a], pending, run := a.after, exchanges := m.exchanges } i := by
    refine hquit.mono (fun id hid ↦ ?_) fun _ ↦ id
    obtain ⟨p, hp, hi⟩ := Run.process_of_reads hid
    rw [hpasses.processes_eq] at hp
    exact Run.reads_of_process hp hi
  constructor
  case read =>
    intro id p i hp hi
    dsimp only at hp ⊢
    rw [hpasses.processes_eq] at hp
    rw [hread (Run.reads_of_process hp hi)]
    exact h.read id p i hp hi
  case written =>
    intro id p o hp ho
    dsimp only at hp ⊢
    rw [hpasses.processes_eq] at hp
    have hwritten := h.written id p o hp ho
    have hlt := hplumbed.lt_of_writes (Run.writes_of_process hp ho)
    obtain hsame | ⟨-, hmove⟩ := hpasses.pipe_eq_or_readerMove hlt
    · rwa [hsame]
    · exact hwritten.readerMove hmove
  case agrees =>
    intro j c hc
    dsimp only at hc ⊢
    rw [hpasses.copies_eq] at hc
    refine (h.agrees j c hc).of_moves (fun s hs ↦ ?_) (fun s hs ↦ h.source hplumbed hc hs) ?_
      hquits
    · obtain ⟨_, hwrite⟩ := hplumbed.writes_of_drains (Run.drains_of_copy hc hs)
      obtain hsame | ⟨hs', -⟩ := hpasses.pipe_eq_or_readerMove (hplumbed.lt_of_writes hwrite)
      · rw [hsame]
        exact .refl _
      · -- the only pipe that was closed is one that no copy takes from
        exact absurd (Run.drains_of_copy hc hs) ((huntaken s (hincoming s hs')).2 j)
    · obtain ⟨_, hreads⟩ := hplumbed.reads_of_fills (Run.fills_of_copy hc)
      rw [hread hreads]
      exact .refl _
  case refusal =>
    intro j c s id hc hs hwrites hrefused
    obtain ⟨p, hp, ho⟩ := Run.process_of_writes hwrites
    dsimp only at hc hrefused
    rw [hpasses.copies_eq] at hc
    rw [hpasses.processes_eq] at hp
    exact hquits (h.refusal j c s id hc hs (Run.writes_of_process hp ho) hrefused)
  case untouched =>
    intro going s hs
    dsimp only at hs
    rw [linkAfter_concat] at hs
    exact absurd hs (houtgoing (going a (List.mem_append_right _ (List.mem_singleton_self a))) s)
  case unborn =>
    intro id hid
    dsimp only at hid ⊢
    rw [hpasses.processes_eq] at hid
    exact h.unborn id hid

/-! ### Any of these -/

/-- Everything still agrees after the start of any stage. -/
theorem Sound.start (h : Sound m) (hrecord : Recorded P registered targets stages m)
    (going : m.IsGoing) (stage : Stage) (rest : List Stage) :
    Sound (m.start P registered targets stage rest) := by
  obtain ⟨a, hstart, hbefore, hincoming, -, hcall⟩ :=
    m.exists_start P registered targets stage rest
  rw [hstart]
  have huntaken := fun s hs ↦ hrecord.linkAfter_stream going (s := s) hs
  have hlink (s : Nat) (hs : a.incoming = some (.stream s)) :
      linkAfter m.started = some (.stream s) := hincoming ▸ hs
  have hstarts := hcall.starts
  generalize hresult : a.result = result at hstarts
  generalize hafter : a.after = after at hstarts
  subst hafter
  cases hstarts with
  | joins hwork hstart hjoins =>
    refine h.joins hrecord.plumbed hbefore hjoins going (fun s hs ↦ (huntaken s hs).1) hincoming ?_
      rest
    rw [StageStart.outgoing_of_ok hresult]
  | isRefused hwork hnul hstart hpasses =>
    refine h.passes hrecord.plumbed huntaken hlink (fun _ s hs ↦ ?_) (hbefore ▸ hpasses) rest
    rw [StageStart.outgoing_of_ok hresult] at hs
    dsimp only at hs
    split_ifs at hs
    cases hs
  | @isHandled handler after hwork hshell hpasses =>
    refine h.passes hrecord.plumbed huntaken hlink (fun hok s hs ↦ ?_) (hbefore ▸ hpasses) rest
    obtain ⟨_, _, _, _, -, hready⟩ := StageStart.outgoing_of_outcomeOf hresult hok
    rw [hready] at hs
    split_ifs at hs
    cases hs
  | isMissing hwork hpasses =>
    refine h.passes hrecord.plumbed huntaken hlink (fun hok s hs ↦ ?_) (hbefore ▸ hpasses) rest
    rw [hresult] at hok
    cases hok
  | isMalformed hwork hnul hpasses =>
    -- the fault comes before the link into the stage is closed
    refine h.passes hrecord.plumbed huntaken (fun s hs ↦ ?_) (fun hok s hs ↦ ?_)
      (hbefore ▸ hpasses) rest
    · cases hs
    · rw [hresult] at hok
      cases hok

/-- At every moment, every pipe agrees with what is at its ends. -/
theorem Reached.sound {r : Run σ} (hr : IsFresh r)
    (hstages : ∀ stage ∈ stages, stage.work ≠ .builtin none)
    (hm : Reached P registered targets stages r m) : Sound m := by
  induction hm with
  | begin =>
    constructor
    case read => simp [hr.processes_eq]
    case written => simp [hr.processes_eq]
    case agrees => simp [hr.copies_eq]
    case refusal => simp [hr.copies_eq]
    case untouched => simp
    case unborn => simp
  | start hm going pending ih => exact ih.start (hm.recorded hr hstages) going _ _
  | turn hm t ih => exact ih.turn (hm.recorded hr hstages) t

end CommandShell.Pipeline

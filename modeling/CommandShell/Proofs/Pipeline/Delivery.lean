import CommandShell.Proofs.Pipeline.Flow

/-!
# What comes from one stage to the next

A stage produces what its process has written so far, or else, all at once, what its handler has
said. One copy carries that into the pipe from which the process of the next stage reads, so there
are three places on the way, and what is at each of them is the beginning of what is at the one
before: what was produced, what was delivered, and what was received.

`Conveys` says this of two stages and the copy between them, together with what is known once the
copy is finished, and `Carried` says that there are no other copies.
-/

namespace CommandShell.Pipeline

open CommandShell.Host CommandShell.Line

variable {σ : Type} {P : Programs σ} {registered : List String} {targets : Run.Targets}
  {stages : List Stage} {m : Moment σ}

/-! ## What a stage produces -/

namespace StageStart

/-- What a stage that is no process produces: the output of its handler, or nothing. -/
def said (registered : List String) (a : StageStart σ) : ByteArray :=
  match a.stage.work with
  | .external _ => ByteArray.empty
  | .builtin none => ByteArray.empty
  | .builtin (some handler) =>
    match handler (Run.callOf registered a.stage) a.before.shell with
    | (.returned _ output _, _) => output.toUTF8
    | (.raised _ _ _, _) => ByteArray.empty

variable {a : StageStart σ}

/-- What is ready for the next stage is what was said, and only a process leaves anything else. -/
theorem Comes.ready_eq (h : a.Comes registered targets) (hok : a.result.isOk = true)
    {bytes : ByteArray} (hready : a.outgoing = some (.ready bytes)) :
    a.process? = none ∧ bytes = a.said registered := by
  cases h with
  | joined _ h =>
    rw [h.outgoing_eq, Option.map_eq_some_iff] at hready
    obtain ⟨_, -, hstream⟩ := hready
    cases hstream
  | notStarted isExternal _ _ hresult h =>
    obtain ⟨executable, hwork⟩ := isExternal
    rw [outgoing_of_ok hresult] at hready
    dsimp only at hready
    split_ifs at hready
    cases hready
    exact ⟨h.process?_eq, by rw [said, hwork]⟩
  | handled handler hwork houtcome h =>
    obtain ⟨status, output, errors, s, hreturned, hlink⟩ :=
      outgoing_of_outcomeOf (congrArg Prod.fst houtcome) hok
    rw [hlink] at hready
    split_ifs at hready
    cases hready
    refine ⟨h.process?_eq, ?_⟩
    rw [said, hwork]
    dsimp only
    rw [hreturned]
  | malformed _ _ hresult =>
    rw [hresult] at hok
    cases hok

end StageStart

namespace Moment

/-- What a stage has produced so far: what its process has written, or what it has said. -/
def produced (registered : List String) (m : Moment σ) (a : StageStart σ) : ByteArray :=
  match a.process? with
  | some id => (m.exchanges id).sent
  | none => a.said registered

/-- A stage produces nothing more. -/
def HasEnded (m : Moment σ) (a : StageStart σ) : Prop :=
  ∀ (id : Nat) (p : Process σ), a.process? = some id → m.run.processes[id]? = some p →
    p.status.isSome = true

end Moment

/-! ## From one stage to the next -/

/-- How a copy brings what a stage has produced to the process of the next stage. -/
structure Conveys (registered : List String) (m : Moment σ) (a : StageStart σ) (id : Nat)
    (c : Copy) : Prop where
  /-- It carries the link of the one stage into the pipe that the process of the other reads. -/
  link_eq : a.outgoing = some c.link
  reads : m.run.layout.Reads id c.pipe
  /-- What was delivered is the beginning of what was produced, in order and without a gap. -/
  delivered : Begins (m.run.pipe c.pipe).data (m.produced registered a)
  received : Begins (m.exchanges id).received (m.run.pipe c.pipe).data
  /-- When the copy is finished, the link and the input of the process are closed. -/
  closed : c.finished = true →
    (∀ s, c.link = .stream s → (m.run.pipe s).shellReads = false) ∧
      (m.run.pipe c.pipe).shellWrites = false
  /-- Once the stage has ended, there is nothing more for the copy to carry. -/
  dry : m.HasEnded a → c.IsDry m.run
  /-- When the copy is finished, everything was delivered, and there is nothing more to come, unless
  the process has quit early. -/
  whole : c.finished = true → (m.exchanges id).quitEarly = false →
    (m.run.pipe c.pipe).data = m.produced registered a ∧ m.HasEnded a
  /-- A process that has met the end of its input has not quit early, and it has received
  everything. -/
  atEnd : (m.exchanges id).metEnd = true → (m.exchanges id).quitEarly = false ∧
    (m.exchanges id).received = m.produced registered a
  /-- What is refused to the one process is what the other one has no use for. -/
  refused : ∀ id', a.process? = some id' → (m.exchanges id').refused = true →
    (m.exchanges id).quitEarly = true

namespace Recorded

variable (h : Recorded P registered targets stages m)
include h

theorem available_eq (hsound : Sound m) {a : StageStart σ} (ha : a ∈ m.started)
    (hok : a.result.isOk = true) {c : Copy} (hlink : a.outgoing = some c.link) :
    c.available m.run = m.produced registered a := by
  have hcomes := h.comes a ha
  unfold Copy.available Moment.produced
  cases hc : c.link with
  | stream s =>
    obtain ⟨hjoined, ho⟩ := hcomes.joined_of_stream hok (hc ▸ hlink)
    obtain ⟨p, hp, hs⟩ := Run.process_of_writes (h.writes_of_joined ha hjoined ho)
    rw [hjoined.process?_eq]
    exact (hsound.written _ p s hp hs).sent_eq.symm
  | ready bytes =>
    obtain ⟨hprocess, rfl⟩ := hcomes.ready_eq hok (hc ▸ hlink)
    rw [hprocess]

theorem exists_stream_of_process {a : StageStart σ} (ha : a ∈ m.started) {id : Nat}
    (hid : a.process? = some id) {link : Link} (hlink : a.outgoing = some link) :
    ∃ s, link = .stream s ∧ m.run.layout.Writes id s := by
  have hjoined := (h.comes a ha).joined_of_process? hid
  obtain rfl := Option.some.inj (hid.symm.trans hjoined.process?_eq)
  have hout := hjoined.outgoing_eq
  rw [hlink, eq_comm, Option.map_eq_some_iff] at hout
  obtain ⟨s, ho, hs⟩ := hout
  exact ⟨s, hs.symm, h.writes_of_joined ha hjoined ho⟩

/-- There is nothing more for a copy to carry exactly if the stage before it has ended. -/
theorem isDry_iff_hasEnded (hsound : Sound m) {a : StageStart σ} (ha : a ∈ m.started)
    (hok : a.result.isOk = true) {c : Copy} (hlink : a.outgoing = some c.link) :
    c.IsDry m.run ↔ m.HasEnded a := by
  constructor
  · intro hdry id q hid hq
    obtain ⟨s, hs, hwrites⟩ := h.exists_stream_of_process ha hid hlink
    obtain ⟨q', hq', ho⟩ := Run.process_of_writes hwrites
    cases hq.symm.trans hq'
    have hdone := hdry s hs
    rw [(hsound.written id q s hq ho).programWrites_eq] at hdone
    simpa using hdone
  · intro hended s hs
    obtain ⟨hjoined, ho⟩ := (h.comes a ha).joined_of_stream hok (hs ▸ hlink)
    obtain ⟨q, hq, ho⟩ := Run.process_of_writes (h.writes_of_joined ha hjoined ho)
    rw [(hsound.written _ q s hq ho).programWrites_eq]
    simpa using hended _ q hjoined.process?_eq hq

theorem conveys (hsound : Sound m) {k j : Nat} {a b : StageStart σ} {c : Copy}
    (ha : m.started[k]? = some a) (hb : m.started[k + 1]? = some b) (hjoined : b.Joined targets)
    (hc : m.run.copies[j]? = some c) (hincoming : b.incoming = some c.link)
    (hpipe : b.before.inputPipe b.stage = c.pipe) :
    Conveys registered m a b.before.layout.plugs.size c := by
  have hmem := List.mem_of_getElem? ha
  have hok := h.isOk k a ha (List.getElem?_eq_some_iff.mp hb).1
  have hlink : a.outgoing = some c.link := by
    have hinto := h.incoming_eq (k + 1) b hb
    rw [hincoming, linkInto, ha] at hinto
    exact hinto.symm
  have hreads : m.run.layout.Reads b.before.layout.plugs.size c.pipe := by
    rw [← hpipe]
    exact h.reads_of_joined (List.mem_of_getElem? hb) hjoined
      (Option.isSome_iff_exists.mpr ⟨_, hincoming⟩)
  obtain ⟨p, hp, hi⟩ := Run.process_of_reads hreads
  have hread := hsound.read _ p _ hp hi
  have hagrees := hsound.agrees j c hc
  have havailable := h.available_eq hsound hmem hok hlink
  have hended := h.isDry_iff_hasEnded hsound hmem hok hlink
  have hwhole (hfinished : c.finished = true)
      (hstays : (m.exchanges b.before.layout.plugs.size).quitEarly = false) :
      (m.run.pipe c.pipe).data = m.produced registered a ∧ m.HasEnded a := by
    obtain ⟨hall, hdry⟩ | ⟨hquit, -⟩ := hagrees.ended hfinished
    · exact ⟨hall.trans havailable, hended.mp hdry⟩
    · -- a copy only ends early when its reader has quit
      exact absurd (hquit _ hreads) (by simp [hstays])
  constructor
  case link_eq => exact hlink
  case reads => exact hreads
  case delivered =>
    rw [← havailable]
    exact hagrees.begins fun s hs ↦ hsound.source h.plumbed hc hs
  case received =>
    rw [hread.received_eq]
    exact Pipe.begins_consumed hread.taken_le
  case closed =>
    intro hfinished
    have hsource := hagrees.shellReads_eq
    have hdest := hagrees.shellWrites_eq
    rw [hfinished] at hsource hdest
    exact ⟨hsource, hdest⟩
  case dry => exact hended.mpr
  case whole => exact hwhole
  case atEnd =>
    intro hmet
    obtain ⟨hshell, htaken⟩ := hread.atEnd hmet
    have hstays := hread.whole hmet
    rw [hagrees.shellWrites_eq, Bool.not_eq_false'] at hshell
    refine ⟨hstays, ?_⟩
    rw [hread.received_eq, ← (hwhole hshell hstays).1]
    exact Pipe.consumed_of_waiting hread.taken_le
      ((Pipe.waiting_eq_zero_iff hread.taken_le).mpr htaken)
  case refused =>
    intro id hid hrefused
    obtain ⟨s, hs, hwrites⟩ := h.exists_stream_of_process hmem hid hlink
    exact hsound.refusal j c s id hc hs hwrites hrefused _ hreads

end Recorded

/-! ## Every stage and every copy -/

/-- Into the process of every stage but the first one a copy conveys what the stage before it has
produced, and every copy is one of these. -/
structure Carried (registered : List String) (m : Moment σ) : Prop where
  fed : ∀ (k : Nat) (a b : StageStart σ) (id : Nat), m.started[k]? = some a →
    m.started[k + 1]? = some b → b.process? = some id →
      ∃ (j : Nat) (c : Copy), m.run.copies[j]? = some c ∧ Conveys registered m a id c
  every : ∀ (j : Nat) (c : Copy), m.run.copies[j]? = some c →
    ∃ (k : Nat) (a b : StageStart σ) (id : Nat), m.started[k]? = some a ∧
      m.started[k + 1]? = some b ∧ b.process? = some id ∧ Conveys registered m a id c

/-- **What comes to a stage is what the stage before it has produced**, at every moment. -/
theorem Recorded.carried (h : Recorded P registered targets stages m) (hsound : Sound m)
    (hplaces : ∀ (k : Nat) (stage : Stage), stages[k]? = some stage →
      stage.IsAt stages.length k) : Carried registered m where
  fed k a b id ha hb hid := by
    have hmem := List.mem_of_getElem? hb
    have hjoined := (h.comes b hmem).joined_of_process? hid
    obtain rfl := Option.some.inj (hid.symm.trans hjoined.process?_eq)
    obtain ⟨link, hlink⟩ := Option.isSome_iff_exists.mp
      ((h.isSome_incoming hplaces hb).mpr (Nat.succ_pos k))
    have hfeed : b.feed? = some ⟨link, b.before.inputPipe b.stage⟩ := by
      rw [StageStart.feed?, hlink, Option.map_some]
    obtain ⟨c, hc, hf⟩ := Run.copy_of_feed
      ((h.feeds_iff b.before.layout.feeds.size _).mpr ⟨b, hmem, by rw [hid]; rfl, rfl, hfeed⟩)
    have hcarries : link = c.link := (congrArg Feed.link hf).symm
    have hpipe : b.before.inputPipe b.stage = c.pipe := (congrArg Feed.pipe hf).symm
    exact ⟨_, c, hc, h.conveys hsound ha hb hjoined hc (hcarries ▸ hlink) hpipe⟩
  every j c hc := by
    obtain ⟨b, hmem, hjoined, -, hlink, hpipe⟩ := h.owner_of_feed (Run.feed_of_copy hc)
    obtain ⟨k, hk⟩ := List.mem_iff_getElem?.mp hmem
    have hinto := h.incoming_eq k b hk
    rw [hlink] at hinto
    cases k with
    | zero => cases hinto
    | succ k =>
      obtain ⟨a, ha, -⟩ := Option.bind_eq_some_iff.mp hinto.symm
      exact ⟨k, a, b, _, ha, hk, hjoined.process?_eq, h.conveys hsound ha hk hjoined hc hlink hpipe⟩

/-! ## Copies come to an end -/

/-- Whether it is a certain copy that gets the turn. -/
def Run.Turn.isOf (j : Nat) : Run.Turn → Bool
  | .process _ _ => false
  | .copy id _ => id == j

theorem Copy.remaining_congr {c : Copy} {r r' : Run σ}
    (h : ∀ s, c.link = .stream s → (r'.pipe s).waiting = (r.pipe s).waiting) :
    c.remaining r' = c.remaining r := by
  unfold remaining
  split_ifs with hfinished
  · rfl
  · split
    · next s hs => rw [h s hs]
    · rfl

/-- A turn of a process brings nothing to a copy that there is nothing more for. -/
theorem Sound.isDry_of_acts (h : Sound m) (hplumbed : m.run.layout.Plumbed) {r' : Run σ} {id : Nat}
    {p p' : Process σ} {x' : Exchange} (hp : m.run.processes[id]? = some p)
    (hacts : m.run.Acts r' id p p' (m.exchanges id) x') {j : Nat} {c : Copy}
    (hc : m.run.copies[j]? = some c) (hdry : c.IsDry m.run) :
    c.IsDry r' ∧ c.remaining r' = c.remaining m.run := by
  have hmove (s : Nat) (hs : c.link = .stream s) := h.writerMove_of_acts hplumbed hp hacts
    (hplumbed.writes_of_drains (Run.drains_of_copy hc hs))
  refine ⟨fun s hs ↦ ?_, Copy.remaining_congr fun s hs ↦ ?_⟩
  · have hwrites := mt (hmove s hs).programWrites_le
    simpa [hdry s hs] using hwrites
  · have hwriter : (m.run.pipe s).hasWriter = false := by
      rw [Pipe.hasWriter, (h.source hplumbed hc hs).shellWrites_eq, hdry s hs]
      rfl
    rw [Pipe.waiting, (hmove s hs).data_eq_of_done hwriter, (hmove s hs).taken_eq]
    rfl

theorem Run.Tends.isDry_other {r r' : Run σ} (hplumbed : r.layout.Plumbed) {j₁ : Nat}
    {c₁ c' : Copy} {early : Prop} (h : r.Tends r' j₁ c₁ c' early) (hc₁ : r.copies[j₁]? = some c₁)
    {j : Nat} (hj : j ≠ j₁) {c : Copy} (hc : r.copies[j]? = some c) (hdry : c.IsDry r) :
    c.IsDry r' ∧ c.remaining r' = c.remaining r := by
  have hsame (s : Nat) (hs : c.link = .stream s) := h.source_eq hplumbed hc₁ hj hc hs
  refine ⟨fun s hs ↦ ?_, Copy.remaining_congr fun s hs ↦ by rw [hsame s hs]⟩
  rw [hsame s hs]
  exact hdry s hs

/-- Once there is nothing more to come, every turn of a copy brings it nearer to its end, and no
other turn takes it away from there. -/
theorem Turned.remaining_le {t : Run.Turn} {m' : Moment σ} (hturned : Turned m t m')
    (hsound : Sound m) (hplumbed : m.run.layout.Plumbed) {j : Nat} {c : Copy}
    (hc : m.run.copies[j]? = some c) (hdry : c.IsDry m.run) :
    ∃ c', m'.run.copies[j]? = some c' ∧ c'.IsDry m'.run ∧
      c'.remaining m'.run ≤ c.remaining m.run - if t.isOf j then 1 else 0 := by
  cases hturned with
  | idle hcopy =>
    refine ⟨c, hc, hdry, ?_⟩
    split_ifs with hturn
    · obtain ⟨most, rfl⟩ : ∃ most, t = .copy j most := by
        cases t with
        | process id most => cases hturn
        | copy id most => exact ⟨most, by rw [eq_of_beq hturn]⟩
      -- the turn of a copy is idle only when the copy has come to its end
      have hnone : c.remaining m.run = 0 := c.remaining_of_finished (hcopy j most c rfl hc)
      omega
    · exact Nat.le_refl _
  | acts hp hstatus hlayout hacts =>
    obtain ⟨hdry', hremaining⟩ := hsound.isDry_of_acts hplumbed hp hacts hc hdry
    exact ⟨c, by rw [hacts.copies_eq]; exact hc, hdry', Nat.le_of_eq hremaining⟩
  | @tends j₁ most c₁ c' r' hc₁ hlayout htends =>
    by_cases hj : j = j₁
    · subst hj
      cases hc.symm.trans hc₁
      have hlink : c'.link = c.link := congrArg Feed.link htends.feed_eq
      refine ⟨c', htends.copy_eq, fun s hs ↦ ?_, ?_⟩
      · rw [hlink] at hs
        exact (htends.source s hs).programWrites_eq.trans (hdry s hs)
      · have hprogress := htends.progress hdry
        simp only [Run.Turn.isOf, beq_self_eq_true, if_true]
        omega
    · obtain ⟨hdry', hremaining⟩ := htends.isDry_other hplumbed hc₁ hj hc hdry
      have hother : (Run.Turn.copy j₁ most).isOf j = false := by
        simpa [Run.Turn.isOf] using Ne.symm hj
      refine ⟨c, by rw [htends.copy_ne j hj]; exact hc, hdry', ?_⟩
      rw [hother]
      exact Nat.le_of_eq hremaining

/-- **A copy comes to its end** in every schedule that gives it a turn for each byte that waits for
it, once there is nothing more to come. -/
theorem Reached.finishes {r : Run σ} (hr : IsFresh r)
    (hstages : ∀ stage ∈ stages, stage.work ≠ .builtin none)
    (hm : Reached P registered targets stages r m) {j : Nat} {c : Copy}
    (hc : m.run.copies[j]? = some c) (hdry : c.IsDry m.run) (ts : List Run.Turn)
    (henough : c.remaining m.run ≤ ts.countP (·.isOf j)) :
    ∃ c', (m.run.turns P ts).copies[j]? = some c' ∧ c'.finished = true := by
  induction ts generalizing m c with
  | nil =>
    refine ⟨c, hc, ?_⟩
    by_contra hfinished
    exact absurd henough (Nat.not_le_of_gt (c.remaining_pos (by simpa using hfinished)))
  | cons t ts ih =>
    obtain ⟨c', hc', hdry', hle⟩ := ((hm.sound hr hstages).turned (hm.recorded hr hstages).plumbed
      P t).remaining_le (hm.sound hr hstages) (hm.recorded hr hstages).plumbed hc hdry
    refine ih (hm.turn t) hc' hdry' ?_
    rw [List.countP_cons] at henough
    omega

end CommandShell.Pipeline

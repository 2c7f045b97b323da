import CommandShell.Proofs.Pipeline.Record

/-!
# What the two ends of a pipe know of each other

A pipe that leads into a process is read by the process and written to by the shell, and a pipe that
leads out of one the other way round. `Pipe.ReadBy` and `Pipe.WrittenBy` say how such a pipe agrees
with what the process did, and `Copy.Agrees` how it agrees with the copy at its other end.

Whoever moves, moves at one end: a move of the reader (`Pipe.ReaderMove`) leaves the bytes alone, and
a move of the writer (`Pipe.WriterMove`) leaves alone what was read. So the process at one end need
not know which move the shell made at the other, and the other way round.
-/

namespace CommandShell.Pipeline

open CommandShell.Host

/-! ## Beginnings -/

/-- Bytes with which others begin. -/
def Begins (part whole : ByteArray) : Prop :=
  ∃ rest, whole = part ++ rest

namespace Begins

variable {a b : ByteArray}

theorem refl (a : ByteArray) : Begins a a :=
  ⟨ByteArray.empty, ByteArray.append_empty.symm⟩

theorem of_empty (a : ByteArray) : Begins ByteArray.empty a :=
  ⟨a, ByteArray.empty_append.symm⟩

theorem append (a b : ByteArray) : Begins a (a ++ b) :=
  ⟨b, rfl⟩

theorem size_le (h : Begins a b) : a.size ≤ b.size := by
  obtain ⟨rest, rfl⟩ := h
  rw [ByteArray.size_append]
  exact Nat.le_add_right ..

end Begins

variable {σ : Type} {P : Programs σ}

namespace Pipe

variable {q q' : Pipe}

theorem begins_consumed (h : q.taken ≤ q.data.size) : Begins q.consumed q.data := by
  refine ⟨q.data.extract q.taken q.data.size, ?_⟩
  rw [consumed, ByteArray.extract_append_extract, Nat.zero_min, Nat.max_eq_right h,
    ByteArray.extract_zero_size]

/-! ## Moves at one end -/

/-- The reader of a pipe has moved: it has taken bytes, or given up its end. -/
structure ReaderMove (q q' : Pipe) : Prop where
  data_eq : q'.data = q.data
  shellWrites_eq : q'.shellWrites = q.shellWrites
  programWrites_eq : q'.programWrites = q.programWrites
  taken_le : q.taken ≤ q.data.size → q'.taken ≤ q.data.size
  shellReads_le : q'.shellReads = true → q.shellReads = true
  programReads_le : q'.programReads = true → q.programReads = true

/-- The writer of a pipe has moved: it has written bytes while somebody could read them, or given up
its end. -/
structure WriterMove (q q' : Pipe) : Prop where
  taken_eq : q'.taken = q.taken
  shellReads_eq : q'.shellReads = q.shellReads
  programReads_eq : q'.programReads = q.programReads
  begins : Begins q.data q'.data
  data_eq_of_shut : q.hasReader = false → q'.data = q.data
  data_eq_of_done : q.hasWriter = false → q'.data = q.data
  shellWrites_le : q'.shellWrites = true → q.shellWrites = true
  programWrites_le : q'.programWrites = true → q.programWrites = true

@[simp] theorem advance_empty (most : Nat) : ({} : Pipe).advance most = {} := by
  simp [advance]

theorem ReaderMove.refl (q : Pipe) : ReaderMove q q :=
  ⟨rfl, rfl, rfl, id, id, id⟩

theorem WriterMove.refl (q : Pipe) : WriterMove q q :=
  ⟨rfl, rfl, rfl, .refl _, fun _ ↦ rfl, fun _ ↦ rfl, id, id⟩

theorem ReaderMove.trans {q'' : Pipe} (h : ReaderMove q q') (h' : ReaderMove q' q'') :
    ReaderMove q q'' where
  data_eq := h'.data_eq.trans h.data_eq
  shellWrites_eq := h'.shellWrites_eq.trans h.shellWrites_eq
  programWrites_eq := h'.programWrites_eq.trans h.programWrites_eq
  taken_le hle := h.data_eq ▸ h'.taken_le (h.data_eq.symm ▸ h.taken_le hle)
  shellReads_le := h.shellReads_le ∘ h'.shellReads_le
  programReads_le := h.programReads_le ∘ h'.programReads_le

theorem readerMove_advance (q : Pipe) (most : Nat) : ReaderMove q (q.advance most) :=
  ⟨rfl, rfl, rfl, fun _ ↦ q.taken_advance_le most, id, id⟩

theorem writerMove_add (hreader : q.hasReader = true) (hwriter : q.hasWriter = true)
    (bytes : ByteArray) : WriterMove q (q.add bytes) where
  taken_eq := rfl
  shellReads_eq := rfl
  programReads_eq := rfl
  begins := .append ..
  data_eq_of_shut hshut := by
    rw [hreader] at hshut
    cases hshut
  data_eq_of_done hdone := by
    rw [hwriter] at hdone
    cases hdone
  shellWrites_le := id
  programWrites_le := id

theorem WriterMove.consumed_eq (h : WriterMove q q') (hle : q.taken ≤ q.data.size) :
    q'.consumed = q.consumed := by
  obtain ⟨rest, hrest⟩ := h.begins
  have hadd := consumed_add hle rest
  rw [consumed, h.taken_eq, hrest]
  exact hadd

/-! ## The pipe that a process reads -/

/-- A pipe agrees with what a process read from it so far. -/
structure ReadBy (q : Pipe) (p : Process σ) (x : Exchange) : Prop where
  taken_le : q.taken ≤ q.data.size
  received_eq : x.received = q.consumed
  shellReads_eq : q.shellReads = false
  programReads_eq : q.programReads = (p.inputOpen && p.status.isNone)
  programWrites_eq : q.programWrites = false
  /-- The end of the input is met only when all was read and nobody can write any more. -/
  atEnd : x.metEnd = true → q.shellWrites = false ∧ q.taken = q.data.size
  /-- If the shell can still write in vain, then the process has quit early. -/
  early : q.programReads = false → q.shellWrites = true → x.quitEarly = true
  quit : x.quitEarly = true → q.programReads = false
  /-- A process that has met the end of its input has not quit early. -/
  whole : x.metEnd = true → x.quitEarly = false

namespace ReadBy

variable {p p' : Process σ} {x x' : Exchange} (h : q.ReadBy p x)
include h

/-- What the shell does at its end concerns the process in nothing that it has done so far. -/
theorem writerMove (hmove : WriterMove q q') : q'.ReadBy p x where
  taken_le := by
    rw [hmove.taken_eq]
    exact Nat.le_trans h.taken_le hmove.begins.size_le
  received_eq := by rw [h.received_eq, hmove.consumed_eq h.taken_le]
  shellReads_eq := hmove.shellReads_eq.trans h.shellReads_eq
  programReads_eq := hmove.programReads_eq.trans h.programReads_eq
  programWrites_eq := by
    have hprogram := mt hmove.programWrites_le
    simpa [h.programWrites_eq] using hprogram
  atEnd hmet := by
    -- the shell has closed its end by then, so no bytes are added
    obtain ⟨hshell, htaken⟩ := h.atEnd hmet
    have hdata := hmove.data_eq_of_done (by simp [hasWriter, hshell, h.programWrites_eq])
    refine ⟨?_, by rw [hmove.taken_eq, htaken, hdata]⟩
    have hclosed := mt hmove.shellWrites_le
    simpa [hshell] using hclosed
  early hprogram hshell :=
    h.early (hmove.programReads_eq ▸ hprogram) (hmove.shellWrites_le hshell)
  quit hquit := hmove.programReads_eq.trans (h.quit hquit)
  whole := h.whole

theorem congr (hopen : p'.inputOpen = p.inputOpen) (hstatus : p'.status = p.status)
    (hreceived : x'.received = x.received) (hmet : x'.metEnd = x.metEnd)
    (hquit : x'.quitEarly = x.quitEarly) : q.ReadBy p' x' where
  taken_le := h.taken_le
  received_eq := hreceived.trans h.received_eq
  shellReads_eq := h.shellReads_eq
  programReads_eq := by rw [h.programReads_eq, hopen, hstatus]
  programWrites_eq := h.programWrites_eq
  atEnd := hmet ▸ h.atEnd
  early := hquit ▸ h.early
  quit := hquit ▸ h.quit
  whole := hmet ▸ hquit ▸ h.whole

/-- The process takes bytes that are there. -/
theorem advance {most : Nat} (hopen : p'.inputOpen = p.inputOpen) (hstatus : p'.status = p.status)
    (hwaiting : 0 < q.waiting) (hreceived : x'.received = x.received ++ q.next most)
    (hmet : x'.metEnd = x.metEnd) (hquit : x'.quitEarly = x.quitEarly) :
    (q.advance most).ReadBy p' x' where
  taken_le := q.taken_advance_le most
  received_eq := by rw [hreceived, h.received_eq, consumed_advance h.taken_le]
  shellReads_eq := h.shellReads_eq
  programReads_eq := by rw [hopen, hstatus, ← h.programReads_eq]; rfl
  programWrites_eq := h.programWrites_eq
  atEnd hend := by
    have hnone := (waiting_eq_zero_iff h.taken_le).mpr (h.atEnd (hmet ▸ hend)).2
    omega
  early := hquit ▸ h.early
  quit := hquit ▸ h.quit
  whole := hmet ▸ hquit ▸ h.whole

theorem meetEnd (halive : (p.inputOpen && p.status.isNone) = true)
    (hopen : p'.inputOpen = p.inputOpen) (hstatus : p'.status = p.status)
    (hwaiting : q.waiting = 0) (hwriter : q.hasWriter = false)
    (hreceived : x'.received = x.received) (hquit : x'.quitEarly = x.quitEarly) :
    q.ReadBy p' x' where
  taken_le := h.taken_le
  received_eq := hreceived.trans h.received_eq
  shellReads_eq := h.shellReads_eq
  programReads_eq := by rw [h.programReads_eq, hopen, hstatus]
  programWrites_eq := h.programWrites_eq
  atEnd _ := by
    rw [hasWriter, Bool.or_eq_false_iff] at hwriter
    exact ⟨hwriter.1, (waiting_eq_zero_iff h.taken_le).mp hwaiting⟩
  early := hquit ▸ h.early
  quit := hquit ▸ h.quit
  whole _ := by
    -- whoever still reads has not quit
    have hreads := h.programReads_eq.trans halive
    have hnot := mt h.quit
    rw [hquit]
    simpa [hreads] using hnot

theorem giveUp (hclosed : (p'.inputOpen && p'.status.isNone) = false)
    (hreceived : x'.received = x.received) (hmet : x'.metEnd = x.metEnd)
    (hquit : x'.quitEarly = (x.quitEarly || q.shellWrites)) :
    Pipe.ReadBy { q with programReads := false } p' x' where
  taken_le := h.taken_le
  received_eq := hreceived.trans h.received_eq
  shellReads_eq := h.shellReads_eq
  programReads_eq := hclosed.symm
  programWrites_eq := h.programWrites_eq
  atEnd := hmet ▸ h.atEnd
  early _ hshell := by
    change q.shellWrites = true at hshell
    rw [hquit, hshell, Bool.or_true]
  quit _ := rfl
  whole hend := by
    rw [hmet] at hend
    rw [hquit, h.whole hend, (h.atEnd hend).1, Bool.or_false]

end ReadBy

theorem readBy_new {p : Process σ} (hopen : p.inputOpen = true) (hstatus : p.status = none) :
    Pipe.ReadBy { shellWrites := true, programReads := true } p {} where
  taken_le := Nat.le_refl _
  received_eq := rfl
  shellReads_eq := rfl
  programReads_eq := by rw [hopen, hstatus]; rfl
  programWrites_eq := rfl
  atEnd := nofun
  early := nofun
  quit := nofun
  whole := nofun

theorem readerMove_giveUp (q : Pipe) : ReaderMove q { q with programReads := false } :=
  ⟨rfl, rfl, rfl, id, id, nofun⟩

/-! ## The pipe that a process writes to -/

/-- A pipe agrees with what a process wrote to it so far. -/
structure WrittenBy (q : Pipe) (p : Process σ) (x : Exchange) : Prop where
  taken_le : q.taken ≤ q.data.size
  sent_eq : x.sent = q.data
  programReads_eq : q.programReads = false
  shellWrites_eq : q.shellWrites = false
  programWrites_eq : q.programWrites = p.status.isNone
  /-- Nothing is refused as long as the shell reads. -/
  shut : x.refused = true → q.shellReads = false

namespace WrittenBy

variable {p p' : Process σ} {x x' : Exchange} (h : q.WrittenBy p x)
include h

/-- What the shell does at its end concerns the process in nothing that it has done so far. -/
theorem readerMove (hmove : ReaderMove q q') : q'.WrittenBy p x where
  taken_le := hmove.data_eq ▸ hmove.taken_le h.taken_le
  sent_eq := h.sent_eq.trans hmove.data_eq.symm
  programReads_eq := by
    have hprogram := mt hmove.programReads_le
    simpa [h.programReads_eq] using hprogram
  shellWrites_eq := hmove.shellWrites_eq.trans h.shellWrites_eq
  programWrites_eq := hmove.programWrites_eq.trans h.programWrites_eq
  shut hrefused := by
    have hshell := mt hmove.shellReads_le
    simpa [h.shut hrefused] using hshell

theorem congr (hstatus : p'.status = p.status) (hsent : x'.sent = x.sent)
    (hrefused : x'.refused = x.refused) : q.WrittenBy p' x' where
  taken_le := h.taken_le
  sent_eq := hsent.trans h.sent_eq
  programReads_eq := h.programReads_eq
  shellWrites_eq := h.shellWrites_eq
  programWrites_eq := by rw [h.programWrites_eq, hstatus]
  shut := hrefused ▸ h.shut

theorem add {bytes : ByteArray} (hstatus : p'.status = p.status)
    (hsent : x'.sent = x.sent ++ bytes) (hrefused : x'.refused = x.refused) :
    (q.add bytes).WrittenBy p' x' where
  taken_le := taken_add_le h.taken_le bytes
  sent_eq := by rw [hsent, h.sent_eq]; rfl
  programReads_eq := h.programReads_eq
  shellWrites_eq := h.shellWrites_eq
  programWrites_eq := by rw [hstatus, ← h.programWrites_eq]; rfl
  shut := hrefused ▸ h.shut

theorem refuse (hstatus : p'.status = p.status) (hreader : q.hasReader = false)
    (hsent : x'.sent = x.sent) : q.WrittenBy p' x' where
  taken_le := h.taken_le
  sent_eq := hsent.trans h.sent_eq
  programReads_eq := h.programReads_eq
  shellWrites_eq := h.shellWrites_eq
  programWrites_eq := by rw [h.programWrites_eq, hstatus]
  shut _ := (Bool.or_eq_false_iff.mp hreader).1

theorem giveUp (hstatus : p'.status.isNone = false) (hsent : x'.sent = x.sent)
    (hrefused : x'.refused = x.refused) :
    Pipe.WrittenBy { q with programWrites := false } p' x' where
  taken_le := h.taken_le
  sent_eq := hsent.trans h.sent_eq
  programReads_eq := h.programReads_eq
  shellWrites_eq := h.shellWrites_eq
  programWrites_eq := hstatus.symm
  shut := hrefused ▸ h.shut

end WrittenBy

theorem writtenBy_new {p : Process σ} (hstatus : p.status = none) :
    Pipe.WrittenBy { shellReads := true, programWrites := true } p {} where
  taken_le := Nat.le_refl _
  sent_eq := rfl
  programReads_eq := rfl
  shellWrites_eq := rfl
  programWrites_eq := by rw [hstatus]; rfl
  shut := nofun

/-- A pipe that leads out of a process: only the shell can read from it, and not write to it. -/
structure LeadsOut (q : Pipe) : Prop where
  taken_le : q.taken ≤ q.data.size
  programReads_eq : q.programReads = false
  shellWrites_eq : q.shellWrites = false

theorem WrittenBy.leadsOut {p : Process σ} {x : Exchange} (h : q.WrittenBy p x) : q.LeadsOut :=
  ⟨h.taken_le, h.programReads_eq, h.shellWrites_eq⟩

theorem writerMove_giveUp (q : Pipe) : WriterMove q { q with programWrites := false } :=
  ⟨rfl, rfl, rfl, .refl _, fun _ ↦ rfl, fun _ ↦ rfl, id, nofun⟩

end Pipe

/-! ## Copies -/

namespace Copy

/-- What there is for a copy to carry so far. -/
def available (c : Copy) (r : Run σ) : ByteArray :=
  match c.link with
  | .stream s => (r.pipe s).data
  | .ready bytes => bytes

/-- What a copy that is under way has carried. -/
def carried (c : Copy) (r : Run σ) : ByteArray :=
  match c.link with
  | .stream s => (r.pipe s).consumed
  | .ready _ => ByteArray.empty

/-- There will be nothing more for a copy to carry. -/
def IsDry (c : Copy) (r : Run σ) : Prop :=
  ∀ s, c.link = .stream s → (r.pipe s).programWrites = false

/-- How many turns a copy may still need once there is nothing more to come. -/
def remaining (c : Copy) (r : Run σ) : Nat :=
  if c.finished then 0
  else match c.link with
    | .stream s => (r.pipe s).waiting + 1
    | .ready _ => 1

/-- A copy agrees with the pipes at its ends. When it is finished, both are closed, and it has
carried everything unless the process at its end has quit early. -/
structure Agrees (c : Copy) (r : Run σ) (early : Prop) : Prop where
  shellReads_eq : ∀ s, c.link = .stream s → (r.pipe s).shellReads = !c.finished
  shellWrites_eq : (r.pipe c.pipe).shellWrites = !c.finished
  underway : c.finished = false → (r.pipe c.pipe).data = c.carried r
  ended : c.finished = true →
    ((r.pipe c.pipe).data = c.available r ∧ c.IsDry r) ∨
      (early ∧ Begins (r.pipe c.pipe).data (c.available r))

variable {c : Copy} {r r' : Run σ} {early early' : Prop}

theorem remaining_of_finished (h : c.finished = true) : c.remaining r = 0 := by
  rw [remaining, if_pos h]

theorem remaining_pos (h : c.finished = false) : 0 < c.remaining r := by
  rw [remaining, if_neg (by simp [h])]
  split <;> exact Nat.succ_pos _

theorem begins_carried (hout : ∀ s, c.link = .stream s → (r.pipe s).LeadsOut) :
    Begins (c.carried r) (c.available r) := by
  unfold carried available
  split
  · next s hs => exact Pipe.begins_consumed (hout s hs).taken_le
  · next bytes hbytes => exact .of_empty bytes

theorem Agrees.begins (h : c.Agrees r early)
    (hout : ∀ s, c.link = .stream s → (r.pipe s).LeadsOut) :
    Begins (r.pipe c.pipe).data (c.available r) := by
  cases hfinished : c.finished with
  | false =>
    rw [h.underway hfinished]
    exact begins_carried hout
  | true =>
    obtain ⟨hall, -⟩ | ⟨-, hbegins⟩ := h.ended hfinished
    · rw [hall]
      exact .refl _
    · exact hbegins

theorem Agrees.mono (h : c.Agrees r early) (hearly : early → early') : c.Agrees r early' :=
  { h with ended := fun hfinished ↦ (h.ended hfinished).imp_right (And.imp_left hearly) }

theorem Agrees.hasWriter (h : c.Agrees r early) (hfinished : c.finished = false) :
    (r.pipe c.pipe).hasWriter = true := by
  rw [Pipe.hasWriter, h.shellWrites_eq, hfinished]
  rfl

/-- What programs do at the other ends of the pipes concerns a copy in nothing that it has done. -/
theorem Agrees.of_moves (h : c.Agrees r early)
    (hsource : ∀ s, c.link = .stream s → Pipe.WriterMove (r.pipe s) (r'.pipe s))
    (hout : ∀ s, c.link = .stream s → (r.pipe s).LeadsOut)
    (hdest : Pipe.ReaderMove (r.pipe c.pipe) (r'.pipe c.pipe)) (hearly : early → early') :
    c.Agrees r' early' where
  shellReads_eq s hs := (hsource s hs).shellReads_eq.trans (h.shellReads_eq s hs)
  shellWrites_eq := hdest.shellWrites_eq.trans h.shellWrites_eq
  underway hfinished := by
    rw [hdest.data_eq, h.underway hfinished]
    unfold carried
    split
    · next s hs => exact ((hsource s hs).consumed_eq (hout s hs).taken_le).symm
    · rfl
  ended hfinished := by
    -- a finished copy has closed its link, so nobody adds to what there was
    have hsame : c.available r' = c.available r := by
      unfold available
      split
      · next s hs =>
        have hshell := h.shellReads_eq s hs
        rw [hfinished] at hshell
        exact (hsource s hs).data_eq_of_shut
          (by simp [Pipe.hasReader, hshell, (hout s hs).programReads_eq])
      · rfl
    rw [hdest.data_eq, hsame]
    refine (h.ended hfinished).imp (fun ⟨hall, hdry⟩ ↦ ⟨hall, fun s hs ↦ ?_⟩)
      (fun ⟨hquit, hbegins⟩ ↦ ⟨hearly hquit, hbegins⟩)
    have hprogram := mt (hsource s hs).programWrites_le
    simpa [hdry s hs] using hprogram

end Copy

namespace Run

variable {r r' : Run σ}

/-! ## Turns of a process -/

/-- A process had a turn: what it is now and what it did so far, and what has become of the pipes
that it reads from and writes to. Nothing else has changed. -/
structure Acts (r r' : Run σ) (id : Nat) (p p' : Process σ) (x x' : Exchange) : Prop where
  process_eq : r'.processes[id]? = some p'
  process_ne : ∀ id', id' ≠ id → r'.processes[id']? = r.processes[id']?
  copies_eq : r'.copies = r.copies
  plug_eq : p'.plug = p.plug
  pipe_eq : ∀ k, p.streams.input ≠ .pipe k → p.streams.output ≠ .pipe k → r'.pipe k = r.pipe k
  reads : ∀ i, p.streams.input = .pipe i → p.streams.output ≠ .pipe i →
    (r.pipe i).ReadBy p x → (r'.pipe i).ReadBy p' x' ∧ Pipe.ReaderMove (r.pipe i) (r'.pipe i)
  writes : ∀ o, p.streams.output = .pipe o → p.streams.input ≠ .pipe o →
    (r.pipe o).WrittenBy p x → (r'.pipe o).WrittenBy p' x' ∧ Pipe.WriterMove (r.pipe o) (r'.pipe o)
  quits : x.quitEarly = true → x'.quitEarly = true
  /-- Bytes are refused only where nobody reads any more. -/
  refuses : x'.refused = true →
    x.refused = true ∨ ∀ o, p.streams.output = .pipe o → (r.pipe o).hasReader = false

variable {id : Nat} {p : Process σ} {x : Exchange}

theorem Acts.streams_eq {p' : Process σ} {x' : Exchange} (h : Acts r r' id p p' x x') :
    p'.streams = p.streams :=
  congrArg Plug.streams h.plug_eq

theorem getElem?_set_self {q : Process σ} (hp : r.processes[id]? = some p) :
    (r.processes.setIfInBounds id q)[id]? = some q := by
  have hlt := (Array.getElem?_eq_some_iff.mp hp).1
  rw [Array.getElem?_setIfInBounds, if_pos rfl, if_pos hlt]

theorem getElem?_set_ne {q : Process σ} {id' : Nat} (hne : id' ≠ id) :
    (r.processes.setIfInBounds id q)[id']? = r.processes[id']? := by
  rw [Array.getElem?_setIfInBounds, if_neg (Ne.symm hne)]

/-- A process goes to another state after something was done to the pipes. -/
theorem Acts.of_move (between : Run σ) (hp : r.processes[id]? = some p) (state : σ)
    (hprocesses : between.processes = r.processes) (hcopies : between.copies = r.copies)
    {x' : Exchange}
    (hpipe : ∀ k, p.streams.input ≠ .pipe k → p.streams.output ≠ .pipe k →
      between.pipe k = r.pipe k)
    (hreads : ∀ i, p.streams.input = .pipe i → p.streams.output ≠ .pipe i → (r.pipe i).ReadBy p x →
      (between.pipe i).ReadBy { p with state } x' ∧
        Pipe.ReaderMove (r.pipe i) (between.pipe i))
    (hwrites : ∀ o, p.streams.output = .pipe o → p.streams.input ≠ .pipe o →
      (r.pipe o).WrittenBy p x → (between.pipe o).WrittenBy { p with state } x' ∧
        Pipe.WriterMove (r.pipe o) (between.pipe o))
    (hquits : x'.quitEarly = x.quitEarly)
    (hrefuses : x'.refused = true →
      x.refused = true ∨ ∀ o, p.streams.output = .pipe o → (r.pipe o).hasReader = false) :
    Acts r (between.moveProcess id p state) id p { p with state } x x' where
  process_eq := getElem?_set_self (by rw [hprocesses, hp])
  process_ne id' hne := (getElem?_set_ne hne).trans (by rw [hprocesses])
  copies_eq := hcopies
  plug_eq := rfl
  pipe_eq := hpipe
  reads := hreads
  writes := hwrites
  quits := hquits ▸ fun h ↦ h
  refuses := hrefuses

theorem Acts.of_still {between : Run σ} (hp : r.processes[id]? = some p) (state : σ)
    (hsame : SameParts r between) {x' : Exchange}
    (hreads : ∀ i, p.streams.input = .pipe i → (r.pipe i).ReadBy p x →
      (r.pipe i).ReadBy { p with state } x')
    (hwrites : ∀ o, p.streams.output = .pipe o → (r.pipe o).WrittenBy p x →
      (r.pipe o).WrittenBy { p with state } x')
    (hquits : x'.quitEarly = x.quitEarly)
    (hrefuses : x'.refused = true →
      x.refused = true ∨ ∀ o, p.streams.output = .pipe o → (r.pipe o).hasReader = false) :
    Acts r (between.moveProcess id p state) id p { p with state } x x' := by
  refine .of_move between hp state hsame.processes_eq hsame.copies_eq (fun k _ _ ↦ hsame.pipe_eq k)
    (fun i hi _ h ↦ ?_) (fun o ho _ h ↦ ?_) hquits hrefuses
  · rw [hsame.pipe_eq]
    exact ⟨hreads i hi h, .refl _⟩
  · rw [hsame.pipe_eq]
    exact ⟨hwrites o ho h, .refl _⟩

theorem pipe_closeInputEnd (r : Run σ) (p : Process σ) (k : Nat) :
    (r.closeInputEnd p).pipe k =
      if p.streams.input = .pipe k then { r.pipe k with programReads := false } else r.pipe k := by
  unfold closeInputEnd
  split
  · next i hi =>
    rw [pipe_changePipe rfl, hi]
    simp only [Source.pipe.injEq, eq_comm]
  · next hi => rw [if_neg (by simp [hi])]

theorem pipe_closeOutputEnd (r : Run σ) (p : Process σ) (k : Nat) :
    (r.closeOutputEnd p).pipe k =
      if p.streams.output = .pipe k then { r.pipe k with programWrites := false } else r.pipe k := by
  unfold closeOutputEnd
  split
  · next o ho =>
    rw [pipe_changePipe rfl, ho]
    simp only [Sink.pipe.injEq, eq_comm]
  · next o ho => rw [if_neg (by simp [ho])]

theorem pipe_advance_self (r : Run σ) (i most : Nat) :
    (r.changePipe i fun q ↦ q.advance most).pipe i = (r.pipe i).advance most := by
  rw [pipe_changePipe (Pipe.advance_empty _), if_pos rfl]

theorem hasMoreFor_eq {i : Nat} (hi : p.streams.input = .pipe i) :
    r.hasMoreFor p = (r.pipe i).shellWrites := by
  rw [hasMoreFor, hi]

theorem acts_ends (hp : r.processes[id]? = some p) (status : Int) :
    Acts r (r.endProcess id p status) id p { p with status := some status } x
      { x with quitEarly := x.quitEarly || r.hasMoreFor p } where
  process_eq := by rw [processes_endProcess, getElem?_set_self hp]
  process_ne id' hne := by rw [processes_endProcess, getElem?_set_ne hne]
  copies_eq := copies_endProcess ..
  plug_eq := rfl
  pipe_eq k hi ho := by
    rw [endProcess, pipe_closeOutputEnd, if_neg ho, pipe_closeInputEnd, if_neg hi]
    rfl
  reads i hi ho h := by
    rw [endProcess, pipe_closeOutputEnd, if_neg ho, pipe_closeInputEnd, if_pos hi]
    refine ⟨h.giveUp (Bool.and_false _) rfl rfl ?_, (r.pipe i).readerMove_giveUp⟩
    rw [hasMoreFor_eq hi]
  writes o ho hi h := by
    rw [endProcess, pipe_closeOutputEnd, if_pos ho, pipe_closeInputEnd, if_neg hi]
    exact ⟨h.giveUp rfl rfl rfl, (r.pipe o).writerMove_giveUp⟩
  quits h := by rw [h, Bool.true_or]
  refuses := .inl

theorem acts_closes (hp : r.processes[id]? = some p) (state : σ) :
    Acts r (r.closeInput id p state) id p { p with state, inputOpen := false } x
      { x with quitEarly := x.quitEarly || r.hasMoreFor p } where
  process_eq := by rw [closeInput, processes_closeInputEnd, getElem?_set_self hp]
  process_ne id' hne := by rw [closeInput, processes_closeInputEnd, getElem?_set_ne hne]
  copies_eq := copies_closeInputEnd ..
  plug_eq := rfl
  pipe_eq k hi _ := by
    rw [closeInput, pipe_closeInputEnd, if_neg hi]
    rfl
  reads i hi _ h := by
    rw [closeInput, pipe_closeInputEnd, if_pos hi]
    refine ⟨h.giveUp (Bool.false_and _) rfl rfl ?_, (r.pipe i).readerMove_giveUp⟩
    rw [hasMoreFor_eq hi]
  writes o _ hi h := by
    rw [closeInput, pipe_closeInputEnd, if_neg hi]
    exact ⟨h.congr rfl rfl rfl, .refl _⟩
  quits h := by rw [h, Bool.true_or]
  refuses := .inl

/-- A process takes what is there, if it still has its input. -/
theorem acts_reads (hp : r.processes[id]? = some p) (hstatus : p.status = none)
    {wanted most : Nat} {bytes : ByteArray}
    (htake : r.takeFor p (min wanted (max most 1)) = some (bytes, r')) (state : σ) :
    Acts r (r'.moveProcess id p state) id p { p with state } x
      { x with
        received := x.received ++ bytes
        metEnd := x.metEnd || (p.inputOpen && decide (0 < wanted) && bytes.isEmpty) } := by
  unfold takeFor at htake
  split at htake
  · next hopen =>
    cases hinput : p.streams.input with
    | shellInput =>
      rw [hinput] at htake
      exact .of_still hp state (sameParts_takeInput_shellInput htake)
        (fun i hi ↦ by cases hinput.symm.trans hi) (fun _ _ h ↦ h.congr rfl rfl rfl) rfl .inl
    | pipe i =>
      rw [hinput] at htake
      obtain ⟨hwaiting, rfl, rfl⟩ | ⟨hwaiting, hwriter, rfl, rfl⟩ := takeInput_pipe htake
      · have hne (k : Nat) (hk : p.streams.input ≠ .pipe k) : k ≠ i := by
          rintro rfl
          exact hk hinput
        refine .of_move (r.changePipe i _) hp state rfl rfl
          (fun k hk _ ↦ pipe_changePipe_of_ne r _ (hne k hk)) (fun k hk _ h ↦ ?_)
          (fun o _ ho h ↦ ?_) rfl .inl
        · cases hinput.symm.trans hk
          rw [pipe_advance_self]
          refine ⟨h.advance rfl rfl hwaiting rfl ?_ rfl, Pipe.readerMove_advance ..⟩
          -- what was taken is not nothing, unless nothing was asked for
          have hmore : (decide (0 < wanted) &&
              ((r.pipe i).next (min wanted (max most 1))).isEmpty) = false := by
            by_cases hwanted : 0 < wanted
            · rw [Pipe.isEmpty_next hwaiting (by omega), Bool.and_false]
            · rw [decide_eq_false hwanted, Bool.false_and]
          simp only [Bool.and_assoc, hmore, Bool.and_false, Bool.or_false]
        · rw [pipe_changePipe_of_ne r _ (hne o ho)]
          exact ⟨h.congr rfl rfl rfl, .refl _⟩
      · refine .of_still hp state (.refl r') (fun k hk h ↦ ?_) (fun _ _ h ↦ h.congr rfl rfl rfl) rfl
          .inl
        cases hinput.symm.trans hk
        exact h.meetEnd (by rw [hopen, hstatus]; rfl) rfl rfl hwaiting hwriter
          (ByteArray.append_empty ..) rfl
  · next hopen =>
    cases htake
    refine .of_still hp state (.refl r) (fun i hi h ↦ ?_) (fun _ _ h ↦ h.congr rfl rfl rfl) rfl .inl
    refine h.congr rfl rfl (ByteArray.append_empty ..) ?_ rfl
    simp [hopen]

theorem acts_writes (hp : r.processes[id]? = some p) (hstatus : p.status = none)
    {bytes : ByteArray} (hwrite : r.write p.streams.output bytes = (.ok (), r')) (state : σ) :
    Acts r (r'.moveProcess id p state) id p { p with state } x
      { x with sent := x.sent ++ bytes } := by
  cases houtput : p.streams.output with
  | outlet o =>
    rw [houtput] at hwrite
    exact .of_still hp state (sameParts_write_outlet hwrite)
      (fun _ _ h ↦ h.congr rfl rfl rfl rfl rfl) (fun o ho ↦ by cases houtput.symm.trans ho) rfl .inl
  | pipe o =>
    rw [houtput] at hwrite
    obtain ⟨hlt, hreader, rfl⟩ := write_pipe_ok hwrite
    have hne (k : Nat) (hk : p.streams.output ≠ .pipe k) : k ≠ o := by
      rintro rfl
      exact hk houtput
    -- only the pipe of the output changes, by the bytes at its end
    refine .of_move (r.changePipe o _) hp state rfl rfl
      (fun k _ hk ↦ pipe_changePipe_of_ne r _ (hne k hk)) (fun i _ hi h ↦ ?_)
      (fun k hk _ h ↦ ?_) rfl .inl
    · rw [pipe_changePipe_of_ne r _ (hne i hi)]
      exact ⟨h.congr rfl rfl rfl rfl rfl, .refl _⟩
    · cases houtput.symm.trans hk
      rw [pipe_changePipe_self _ hlt]
      have hwriter : (r.pipe o).hasWriter = true := by
        rw [Pipe.hasWriter, h.programWrites_eq, hstatus, Option.isNone_none, Bool.or_true]
      exact ⟨h.add rfl rfl rfl, Pipe.writerMove_add hreader hwriter bytes⟩

theorem stepProcess_acts (P : Programs σ) (most : Nat) (hp : r.processes[id]? = some p)
    (hstatus : p.status = none) (herrors : ∃ e, p.streams.errors = .outlet e) :
    ∃ p', Acts r (r.stepProcess P id most) id p p' x (x.after P r p most) := by
  have hmoves := stepProcess_moves P most hp hstatus
  generalize r.stepProcess P id most = r' at hmoves ⊢
  unfold Exchange.after
  -- most moves change no pipe, and nothing that a pipe knows of the process
  have hstill {between : Run σ} (hsame : SameParts r between) (state : σ) :
      Acts r (between.moveProcess id p state) id p { p with state } x x :=
    .of_still hp state hsame (fun _ _ h ↦ h.congr rfl rfl rfl rfl rfl)
      (fun _ _ h ↦ h.congr rfl rfl rfl) rfl .inl
  cases hmoves with
  | ends hact =>
    simp only [hact]
    exact ⟨_, acts_ends hp _⟩
  | waits hact htake =>
    simp only [hact, htake]
    exact ⟨_, hstill (.refl r) _⟩
  | reads hact htake =>
    simp only [hact, htake]
    exact ⟨_, acts_reads hp hstatus htake _⟩
  | @writes channel bytes next refused r' hact hwrite =>
    simp only [hact]
    cases channel with
    | output =>
      change r.write p.streams.output bytes = (.ok (), r') at hwrite
      simp only [hwrite]
      exact ⟨_, acts_writes hp hstatus hwrite _⟩
    | errors =>
      obtain ⟨e, he⟩ := herrors
      change r.write p.streams.errors bytes = (.ok (), r') at hwrite
      rw [he] at hwrite
      exact ⟨_, hstill (sameParts_write_outlet hwrite) _⟩
  | @isRefused channel bytes next refused e r' hact hwrite =>
    simp only [hact]
    cases channel with
    | output =>
      change r.write p.streams.output bytes = (.error e, r') at hwrite
      simp only [hwrite]
      have hshut (o : Nat) (ho : p.streams.output = .pipe o) : (r.pipe o).hasReader = false := by
        rw [ho] at hwrite
        exact (write_pipe_error hwrite).2
      -- a pipe takes nothing of what it refuses
      exact ⟨_, .of_still hp _ (sameParts_of_refused hwrite)
        (fun _ _ h ↦ h.congr rfl rfl rfl rfl rfl)
        (fun o ho h ↦ h.refuse rfl (hshut o ho) rfl) rfl fun _ ↦ .inr hshut⟩
    | errors =>
      obtain ⟨e, he⟩ := herrors
      change r.write p.streams.errors bytes = (_, r') at hwrite
      rw [he] at hwrite
      exact ⟨_, hstill (sameParts_write_outlet hwrite) _⟩
  | closes hact =>
    simp only [hact]
    exact ⟨_, acts_closes hp _⟩
  | uses hact =>
    simp only [hact]
    exact ⟨_, hstill (⟨rfl, rfl, rfl, rfl⟩ : SameParts r (r.changeMachine _)) _⟩

/-! ## Turns of a copy -/

/-- A copy had a turn: what it is now, and what has become of the pipes at its ends. Nothing else
has changed. -/
structure Tends (r r' : Run σ) (j : Nat) (c c' : Copy) (early : Prop) : Prop where
  copy_eq : r'.copies[j]? = some c'
  copy_ne : ∀ j', j' ≠ j → r'.copies[j']? = r.copies[j']?
  processes_eq : r'.processes = r.processes
  feed_eq : c'.feed = c.feed
  pipe_eq : ∀ k, k ≠ c.pipe → c.link ≠ .stream k → r'.pipe k = r.pipe k
  source : ∀ s, c.link = .stream s → Pipe.ReaderMove (r.pipe s) (r'.pipe s)
  dest : Pipe.WriterMove (r.pipe c.pipe) (r'.pipe c.pipe)
  agrees : c'.Agrees r' early
  /-- If there is nothing more to come, then the end is nearer. -/
  progress : c.IsDry r → c'.remaining r' < c.remaining r

variable {j : Nat} {c : Copy} {early : Prop}

theorem pipe_closeLink_self {link : Link} {s : Nat} (h : link = .stream s) :
    (r.closeLink link).pipe s = { r.pipe s with shellReads := false } := by
  rw [pipe_closeLink, h]
  exact if_pos rfl

theorem pipe_closeLink_of_ne {link : Link} {k : Nat} (h : link ≠ .stream k) :
    (r.closeLink link).pipe k = r.pipe k := by
  rw [pipe_closeLink]
  split
  · exact if_neg fun hk ↦ h (by rw [hk])
  · rfl

theorem pipe_finishCopy (r : Run σ) (j : Nat) (c : Copy) (k : Nat) :
    (r.finishCopy j c).pipe k =
      if k = c.pipe then { (r.closeLink c.link).pipe k with shellWrites := false }
      else (r.closeLink c.link).pipe k := by
  rw [finishCopy, pipe_changePipe rfl, pipe_closeLink, pipe_closeLink]
  rfl

theorem pipe_finishCopy_dest (j : Nat) (hne : c.link ≠ .stream c.pipe) :
    (r.finishCopy j c).pipe c.pipe = { r.pipe c.pipe with shellWrites := false } := by
  rw [pipe_finishCopy, if_pos rfl, pipe_closeLink_of_ne hne]

theorem pipe_finishCopy_source (j : Nat) (hne : c.link ≠ .stream c.pipe) {s : Nat}
    (hs : c.link = .stream s) :
    (r.finishCopy j c).pipe s = { r.pipe s with shellReads := false } := by
  have hpipe : s ≠ c.pipe := by
    rintro rfl
    exact hne hs
  rw [pipe_finishCopy, if_neg hpipe, pipe_closeLink_self hs]

theorem pipe_finishCopy_of_ne (j : Nat) {k : Nat} (hk : k ≠ c.pipe) (hlink : c.link ≠ .stream k) :
    (r.finishCopy j c).pipe k = r.pipe k := by
  rw [pipe_finishCopy, if_neg hk, pipe_closeLink_of_ne hlink]

theorem available_finishCopy (j : Nat) (hne : c.link ≠ .stream c.pipe) :
    Copy.available { c with finished := true } (r.finishCopy j c) = c.available r := by
  rw [Copy.available, Copy.available]
  dsimp only
  split
  · next s hs => rw [pipe_finishCopy_source j hne hs]
  · rfl

/-- A copy is finished after something was done to the pipes at its ends. -/
theorem Tends.of_finish (between : Run σ) (hc : r.copies[j]? = some c)
    (hfinished : c.finished = false)
    (hne : c.link ≠ .stream c.pipe) (hprocesses : between.processes = r.processes)
    (hcopies : between.copies = r.copies)
    (hpipe : ∀ k, k ≠ c.pipe → c.link ≠ .stream k → between.pipe k = r.pipe k)
    (hsource : ∀ s, c.link = .stream s → Pipe.ReaderMove (r.pipe s) (between.pipe s))
    (hdest : Pipe.WriterMove (r.pipe c.pipe) (between.pipe c.pipe))
    (hended : ((between.pipe c.pipe).data = c.available between ∧ c.IsDry between) ∨
      (early ∧ Begins (between.pipe c.pipe).data (c.available between))) :
    Tends r (between.finishCopy j c) j c { c with finished := true } early where
  copy_eq := by
    have hlt := (Array.getElem?_eq_some_iff.mp hc).1
    simp [finishCopy, changePipe, hcopies, hlt]
  copy_ne j' hj := by
    simp [finishCopy, changePipe, hcopies, Ne.symm hj]
  processes_eq := (processes_finishCopy ..).trans hprocesses
  feed_eq := rfl
  pipe_eq k hk hlink := (pipe_finishCopy_of_ne j hk hlink).trans (hpipe k hk hlink)
  source s hs := by
    rw [pipe_finishCopy_source j hne hs]
    exact (hsource s hs).trans ⟨rfl, rfl, rfl, id, (absurd · Bool.false_ne_true), id⟩
  dest := by
    rw [pipe_finishCopy_dest j hne]
    exact ⟨hdest.taken_eq, hdest.shellReads_eq, hdest.programReads_eq, hdest.begins,
      hdest.data_eq_of_shut, hdest.data_eq_of_done, (absurd · Bool.false_ne_true),
      hdest.programWrites_le⟩
  agrees := by
    refine ⟨fun s hs ↦ ?_, ?_, (absurd ·.symm Bool.false_ne_true), fun _ ↦ ?_⟩
    · rw [pipe_finishCopy_source j hne hs]
      rfl
    · change ((between.finishCopy j c).pipe c.pipe).shellWrites = false
      rw [pipe_finishCopy_dest j hne]
    · rw [available_finishCopy j hne]
      change ((between.finishCopy j c).pipe c.pipe).data = _ ∧ _ ∨
        _ ∧ Begins ((between.finishCopy j c).pipe c.pipe).data _
      rw [pipe_finishCopy_dest j hne]
      refine hended.imp_left (And.imp_right fun hdry s hs ↦ ?_)
      rw [pipe_finishCopy_source j hne hs]
      exact hdry s hs
  progress _ := Copy.remaining_pos hfinished

theorem took_of_not_isEmpty {source most : Nat} {bytes : ByteArray}
    (htake : r.takeInput (.pipe source) most = some (bytes, r')) (hbytes : bytes.isEmpty = false) :
    0 < (r.pipe source).waiting ∧ bytes = (r.pipe source).next most ∧
      r' = r.changePipe source fun q ↦ q.advance most := by
  obtain htook | ⟨-, -, rfl, -⟩ := takeInput_pipe htake
  · exact htook
  · cases hbytes

/-! ### What a turn of a copy does -/

theorem tends_delivers (hc : r.copies[j]? = some c) (hfinished : c.finished = false)
    (hagrees : c.Agrees r early) {bytes : ByteArray} (hlink : c.link = .ready bytes)
    (hwrite : r.write (.pipe c.pipe) bytes = (.ok (), r')) :
    Tends r (r'.finishCopy j c) j c { c with finished := true } early := by
  have hnone (s : Nat) : c.link ≠ .stream s := by
    rw [hlink]
    nofun
  obtain ⟨hlt, hreader, rfl⟩ := write_pipe_ok hwrite
  refine .of_finish (r.changePipe c.pipe _) hc hfinished (hnone _) rfl rfl
    (fun k hk _ ↦ pipe_changePipe_of_ne r _ hk) (fun s hs ↦ absurd hs (hnone s)) ?_
    (.inl ⟨?_, fun s hs ↦ absurd hs (hnone s)⟩)
  · rw [pipe_changePipe_self _ hlt]
    exact Pipe.writerMove_add hreader (hagrees.hasWriter hfinished) bytes
  · rw [pipe_changePipe_self _ hlt, Pipe.add, hagrees.underway hfinished, Copy.carried,
      Copy.available, hlink]
    exact ByteArray.empty_append

theorem tends_refused (hc : r.copies[j]? = some c) (hfinished : c.finished = false)
    (hagrees : c.Agrees r early) (hearly : (r.pipe c.pipe).hasReader = false → early)
    {bytes : ByteArray} {e : Errno} (hlink : c.link = .ready bytes)
    (hwrite : r.write (.pipe c.pipe) bytes = (.error e, r')) :
    Tends r (r'.finishCopy j c) j c { c with finished := true } early := by
  have hnone (s : Nat) : c.link ≠ .stream s := by
    rw [hlink]
    nofun
  obtain ⟨rfl, hshut⟩ := write_pipe_error hwrite
  refine .of_finish r' hc hfinished (hnone _) rfl rfl (fun _ _ _ ↦ rfl)
    (fun s hs ↦ absurd hs (hnone s)) (.refl _) (.inr ⟨hearly hshut, ?_⟩)
  rw [hagrees.underway hfinished, Copy.carried, hlink]
  exact .of_empty _

theorem tends_waits (hc : r.copies[j]? = some c) (hagrees : c.Agrees r early) {source most : Nat}
    (hout : (r.pipe source).LeadsOut) (hlink : c.link = .stream source)
    (htake : r.takeInput (.pipe source) most = none) : Tends r r j c c early := by
  refine ⟨hc, fun _ _ ↦ rfl, rfl, rfl, fun _ _ _ ↦ rfl, fun _ _ ↦ .refl _, .refl _, hagrees,
    fun hdry ↦ ?_⟩
  -- somebody can still write, so there is more to come
  have hmore := (takeInput_pipe_none htake).2
  rw [Pipe.hasWriter, hout.shellWrites_eq, hdry _ hlink] at hmore
  cases hmore

theorem tends_ends (hc : r.copies[j]? = some c) (hfinished : c.finished = false)
    (hne : c.link ≠ .stream c.pipe) (hagrees : c.Agrees r early) {source most : Nat}
    (hmost : 0 < most) {bytes : ByteArray} (hout : (r.pipe source).LeadsOut)
    (hlink : c.link = .stream source)
    (htake : r.takeInput (.pipe source) most = some (bytes, r')) (hbytes : bytes.isEmpty = true) :
    Tends r (r'.finishCopy j c) j c { c with finished := true } early := by
  obtain ⟨hwaiting, rfl, -⟩ | ⟨hwaiting, hdone, -, rfl⟩ := takeInput_pipe htake
  · rw [Pipe.isEmpty_next hwaiting hmost] at hbytes
    cases hbytes
  · refine .of_finish r' hc hfinished hne rfl rfl (fun _ _ _ ↦ rfl) (fun _ _ ↦ .refl _) (.refl _)
      (.inl ⟨?_, fun s hs ↦ ?_⟩)
    · rw [hagrees.underway hfinished, Copy.carried, Copy.available, hlink]
      exact Pipe.consumed_of_waiting hout.taken_le hwaiting
    · cases hlink.symm.trans hs
      exact (Bool.or_eq_false_iff.mp hdone).2

/-- A copy carries bytes from its one end to the other. -/
theorem tends_carries (hc : r.copies[j]? = some c) (hfinished : c.finished = false)
    (hne : c.link ≠ .stream c.pipe) (hagrees : c.Agrees r early) {source most : Nat}
    (hmost : 0 < most) {bytes : ByteArray} {r'' : Run σ} (hout : (r.pipe source).LeadsOut)
    (hlink : c.link = .stream source)
    (htake : r.takeInput (.pipe source) most = some (bytes, r')) (hbytes : bytes.isEmpty = false)
    (hwrite : r'.write (.pipe c.pipe) bytes = (.ok (), r'')) : Tends r r'' j c c early := by
  obtain ⟨hwaiting, rfl, rfl⟩ := took_of_not_isEmpty htake hbytes
  obtain ⟨hlt, hreader, rfl⟩ := write_pipe_ok hwrite
  -- the two ends are different pipes, so that each of them changes once
  have hapart : source ≠ c.pipe := fun h ↦ hne (by rw [hlink, h])
  rw [pipe_changePipe_of_ne r _ (Ne.symm hapart)] at hreader
  have hdest : ((r.changePipe source fun q ↦ q.advance most).changePipe c.pipe
      fun q ↦ q.add ((r.pipe source).next most)).pipe c.pipe =
        (r.pipe c.pipe).add ((r.pipe source).next most) := by
    rw [pipe_changePipe_self _ hlt, pipe_changePipe_of_ne r _ (Ne.symm hapart)]
  have hsource : ((r.changePipe source fun q ↦ q.advance most).changePipe c.pipe
      fun q ↦ q.add ((r.pipe source).next most)).pipe source = (r.pipe source).advance most := by
    rw [pipe_changePipe_of_ne _ _ hapart, pipe_advance_self]
  constructor
  case copy_eq => exact hc
  case copy_ne => exact fun _ _ ↦ rfl
  case processes_eq => rfl
  case feed_eq => rfl
  case pipe_eq =>
    intro k hk hk'
    rw [pipe_changePipe_of_ne _ _ hk, pipe_changePipe_of_ne r _ fun h ↦ hk' (by rw [hlink, h])]
  case source =>
    intro s hs
    cases hlink.symm.trans hs
    rw [hsource]
    exact Pipe.readerMove_advance ..
  case dest =>
    rw [hdest]
    exact Pipe.writerMove_add hreader (hagrees.hasWriter hfinished) _
  case agrees =>
    refine ⟨fun s hs ↦ ?_, ?_, fun _ ↦ ?_, fun h ↦ ?_⟩
    · cases hlink.symm.trans hs
      rw [hsource]
      exact hagrees.shellReads_eq source hlink
    · rw [hdest]
      exact hagrees.shellWrites_eq
    · rw [hdest, Copy.carried, hlink]
      dsimp only
      rw [hsource, Pipe.consumed_advance hout.taken_le, Pipe.add, hagrees.underway hfinished,
        Copy.carried, hlink]
    · rw [hfinished] at h
      cases h
  case progress =>
    intro _
    -- at least one byte was waiting, and it was taken
    simp only [Copy.remaining, hfinished, hlink, hsource]
    exact Nat.succ_lt_succ (Pipe.waiting_advance_lt hwaiting hmost)

/-- Nobody reads the bytes that a copy has taken. -/
theorem tends_breaks (hc : r.copies[j]? = some c) (hfinished : c.finished = false)
    (hne : c.link ≠ .stream c.pipe) (hagrees : c.Agrees r early)
    (hearly : (r.pipe c.pipe).hasReader = false → early) {source most : Nat} {bytes : ByteArray}
    {r'' : Run σ} {e : Errno} (hout : (r.pipe source).LeadsOut) (hlink : c.link = .stream source)
    (htake : r.takeInput (.pipe source) most = some (bytes, r')) (hbytes : bytes.isEmpty = false)
    (hwrite : r'.write (.pipe c.pipe) bytes = (.error e, r'')) :
    Tends r (r''.finishCopy j c) j c { c with finished := true } early := by
  obtain ⟨-, rfl, rfl⟩ := took_of_not_isEmpty htake hbytes
  have hapart : source ≠ c.pipe := fun h ↦ hne (by rw [hlink, h])
  have hdest := pipe_changePipe_of_ne r (fun q ↦ q.advance most) (Ne.symm hapart)
  obtain ⟨rfl, hshut⟩ := write_pipe_error hwrite
  rw [hdest] at hshut
  refine .of_finish (r.changePipe source _) hc hfinished hne rfl rfl
    (fun k _ hk ↦ pipe_changePipe_of_ne r _ fun h ↦ hk (by rw [hlink, h])) (fun s hs ↦ ?_) ?_
    (.inr ⟨hearly hshut, ?_⟩)
  · cases hlink.symm.trans hs
    rw [pipe_advance_self]
    exact Pipe.readerMove_advance ..
  · rw [hdest]
    exact .refl _
  · -- the bytes that were taken just now are lost: delivered is what was carried before
    rw [hdest, hagrees.underway hfinished, Copy.carried, Copy.available, hlink]
    dsimp only
    rw [pipe_advance_self]
    exact Pipe.begins_consumed hout.taken_le

theorem stepCopy_tends (most : Nat) (hc : r.copies[j]? = some c) (hfinished : c.finished = false)
    (hne : c.link ≠ .stream c.pipe) (hagrees : c.Agrees r early)
    (hout : ∀ s, c.link = .stream s → (r.pipe s).LeadsOut)
    (hearly : (r.pipe c.pipe).hasReader = false → early) :
    ∃ c', Tends r (r.stepCopy j most) j c c' early := by
  have hcarries := stepCopy_carries most hc hfinished
  have hmost : 0 < max most 1 := Nat.lt_of_lt_of_le Nat.one_pos (Nat.le_max_right ..)
  generalize r.stepCopy j most = r' at hcarries ⊢
  cases hcarries with
  | delivers hlink hwrite => exact ⟨_, tends_delivers hc hfinished hagrees hlink hwrite⟩
  | isRefused hlink hwrite => exact ⟨_, tends_refused hc hfinished hagrees hearly hlink hwrite⟩
  | waits hlink htake => exact ⟨c, tends_waits hc hagrees (hout _ hlink) hlink htake⟩
  | ends hlink htake hbytes =>
    exact ⟨_, tends_ends hc hfinished hne hagrees hmost (hout _ hlink) hlink htake hbytes⟩
  | carries hlink htake hbytes hwrite =>
    exact ⟨c, tends_carries hc hfinished hne hagrees hmost (hout _ hlink) hlink htake hbytes hwrite⟩
  | breaks hlink htake hbytes hwrite =>
    exact ⟨_, tends_breaks hc hfinished hne hagrees hearly (hout _ hlink) hlink htake hbytes hwrite⟩

end Run

end CommandShell.Pipeline

import CommandShell.Proofs.Pipeline.Bookkeeping
import CommandShell.Proofs.Pipeline.Wiring

/-!
# What a run leaves open

For every end of a pipe that the shell holds there is somebody who will close it. The end to write
to belongs to a copy that is not finished, and the end to read from belongs to such a copy, or to
the stage that comes next (`Tended`). There is one exception: a stage whose words cannot be handed
to the system raises its fault when its output pipe is there already, and nobody knows of that pipe.

At the end of a run the copies are finished and the link that no stage took is closed, so what is
left open is exactly the end of that one pipe (`run_closes`). The files that were opened for a run
are closed after everything else, whatever became of them in between.
-/

namespace CommandShell

open CommandShell.Host CommandShell.Line

/-! ## Files -/

namespace Host

theorem Machine.open?_closeOutlet_of_none {m : Machine} {file : FileId}
    (h : m.files.open? file = none) (o : Outlet) :
    (m.closeOutlet o).files.open? file = none := by
  cases o with
  | file other =>
    rw [Machine.closeOutlet, FileSystem.open?_closeFile]
    split_ifs
    · rfl
    · exact h
  | output => exact h
  | errors => exact h

theorem Machine.open?_foldl_closeOutlet {outlets : List Outlet} {file : FileId}
    (hfile : .file file ∈ outlets) (m : Machine) :
    (outlets.foldl Machine.closeOutlet m).files.open? file = none := by
  have hkeeps : ∀ (later : List Outlet) (m : Machine), m.files.open? file = none →
      (later.foldl Machine.closeOutlet m).files.open? file = none := by
    intro later
    induction later with
    | nil => exact fun _ h ↦ h
    | cons o later ih => exact fun m h ↦ ih _ (m.open?_closeOutlet_of_none h o)
  induction outlets generalizing m with
  | nil => cases hfile
  | cons o later ih =>
    rcases List.mem_cons.mp hfile with rfl | hlater
    · refine hkeeps later _ ?_
      rw [Machine.closeOutlet, FileSystem.open?_closeFile, if_pos rfl]
    · exact ih hlater _

end Host

namespace Pipeline

variable {σ : Type} {P : Programs σ} {registered : List String} {targets : Run.Targets}
  {stages : List Stage}

namespace Run

/-! ## The ends that the shell holds -/

/-- The shell holds the same ends of the same pipes, and the copies are the same. -/
structure SameEnds (r r' : Run σ) : Prop where
  reads_eq : ∀ i, (r'.pipe i).shellReads = (r.pipe i).shellReads
  writes_eq : ∀ i, (r'.pipe i).shellWrites = (r.pipe i).shellWrites
  copies_eq : r'.copies = r.copies
  size_eq : r'.pipes.size = r.pipes.size

namespace SameEnds

variable {r r' r'' : Run σ}

theorem refl (r : Run σ) : SameEnds r r :=
  ⟨fun _ ↦ rfl, fun _ ↦ rfl, rfl, rfl⟩

theorem trans (h : SameEnds r r') (h' : SameEnds r' r'') : SameEnds r r'' :=
  ⟨fun i ↦ (h'.reads_eq i).trans (h.reads_eq i), fun i ↦ (h'.writes_eq i).trans (h.writes_eq i),
    h'.copies_eq.trans h.copies_eq, h'.size_eq.trans h.size_eq⟩

theorem of_sameParts (h : SameParts r r') : SameEnds r r' :=
  ⟨fun i ↦ by rw [h.pipe_eq], fun i ↦ by rw [h.pipe_eq], h.copies_eq, by rw [h.pipes_eq]⟩

/-- Bytes may come and go. -/
theorem changePipe (r : Run σ) (i : Nat) {f : Pipe → Pipe}
    (hreads : ∀ q, (f q).shellReads = q.shellReads)
    (hwrites : ∀ q, (f q).shellWrites = q.shellWrites) : SameEnds r (r.changePipe i f) := by
  have hpipe : ∀ k, (r.changePipe i f).pipe k = f (r.pipe k) ∨
      (r.changePipe i f).pipe k = r.pipe k := by
    intro k
    by_cases hk : k = i
    · subst hk
      rcases Nat.lt_or_ge k r.pipes.size with hlt | hge
      · exact .inl (pipe_changePipe_self f hlt)
      · rw [pipe_of_le hge, pipe_of_le (by rwa [Run.changePipe, Array.size_modify])]
        exact .inr rfl
    · exact .inr (pipe_changePipe_of_ne r f hk)
  refine ⟨fun k ↦ ?_, fun k ↦ ?_, rfl, Array.size_modify ..⟩
  · rcases hpipe k with h | h <;> rw [h]
    exact hreads _
  · rcases hpipe k with h | h <;> rw [h]
    exact hwrites _

theorem takeInput {source : Source} {most : Nat} {bytes : ByteArray}
    (h : r.takeInput source most = some (bytes, r')) : SameEnds r r' := by
  cases source with
  | shellInput => exact of_sameParts (sameParts_takeInput_shellInput h)
  | pipe i =>
    obtain ⟨-, -, rfl⟩ | ⟨-, -, -, rfl⟩ := takeInput_pipe h
    · exact changePipe r i (fun _ ↦ rfl) (fun _ ↦ rfl)
    · exact refl r'

theorem takeFor {p : Process σ} {most : Nat} {bytes : ByteArray}
    (h : r.takeFor p most = some (bytes, r')) : SameEnds r r' := by
  unfold Run.takeFor at h
  split at h
  · exact takeInput h
  · cases h
    exact refl r

theorem write {sink : Sink} {bytes : ByteArray} {answer : Except Host.Errno Unit}
    (h : r.write sink bytes = (answer, r')) : SameEnds r r' := by
  cases answer with
  | error e => exact of_sameParts (sameParts_of_refused h)
  | ok _ =>
    cases sink with
    | outlet o => exact of_sameParts (sameParts_write_outlet h)
    | pipe i =>
      obtain ⟨-, -, rfl⟩ := write_pipe_ok h
      exact changePipe r i (fun _ ↦ rfl) (fun _ ↦ rfl)

theorem closeInputEnd (r : Run σ) (p : Process σ) : SameEnds r (r.closeInputEnd p) := by
  unfold Run.closeInputEnd
  split
  · exact changePipe r _ (fun _ ↦ rfl) (fun _ ↦ rfl)
  · exact refl r

theorem closeOutputEnd (r : Run σ) (p : Process σ) : SameEnds r (r.closeOutputEnd p) := by
  unfold Run.closeOutputEnd
  split
  · exact changePipe r _ (fun _ ↦ rfl) (fun _ ↦ rfl)
  · exact refl r

theorem withProcesses (r : Run σ) (processes : Array (Process σ)) :
    SameEnds r { r with processes } :=
  ⟨fun _ ↦ rfl, fun _ ↦ rfl, rfl, rfl⟩

theorem endProcess (r : Run σ) (id : Nat) (p : Process σ) (status : Int) :
    SameEnds r (r.endProcess id p status) :=
  ((withProcesses r _).trans (closeInputEnd _ p)).trans (closeOutputEnd _ p)

/-- What a process does concerns no end that the shell holds. -/
theorem stepProcess (P : Programs σ) (r : Run σ) (id most : Nat) :
    SameEnds r (r.stepProcess P id most) := by
  cases hp : r.processes[id]? with
  | none =>
    rw [stepProcess_eq_self P most (by simp [hp])]
    exact refl r
  | some p =>
    cases hstatus : p.status with
    | some status =>
      rw [stepProcess_eq_self P most (by simp [hp, hstatus])]
      exact refl r
    | none =>
      have hmoves := stepProcess_moves P most hp hstatus
      generalize r.stepProcess P id most = r' at hmoves ⊢
      cases hmoves with
      | ends hact => exact endProcess r id p _
      | waits hact htake => exact withProcesses r _
      | reads hact htake => exact (takeFor htake).trans (withProcesses _ _)
      | writes hact hwrite => exact (write hwrite).trans (withProcesses _ _)
      | isRefused hact hwrite => exact (write hwrite).trans (withProcesses _ _)
      | closes hact => exact (withProcesses r _).trans (closeInputEnd _ p)
      | uses hact => exact ⟨fun _ ↦ rfl, fun _ ↦ rfl, rfl, rfl⟩

theorem reap (r : Run σ) : SameEnds r r.reap := by
  unfold Run.reap
  induction List.range r.processes.size generalizing r with
  | nil => exact refl r
  | cons id ids ih =>
    rw [List.foldl_cons]
    refine trans ?_ (ih _)
    split
    · dsimp only
      split <;> exact endProcess r id _ _
    · exact refl r

end SameEnds

/-! ## Copies that are finished -/

/-- A copy is still to close the end that the shell reads from. -/
def IsDrained (r : Run σ) (i : Nat) : Prop :=
  ∃ (j : Nat) (c : Copy), r.copies[j]? = some c ∧ c.finished = false ∧ c.link = .stream i

/-- A copy is still to close the end that the shell writes to. -/
def IsFilled (r : Run σ) (i : Nat) : Prop :=
  ∃ (j : Nat) (c : Copy), r.copies[j]? = some c ∧ c.finished = false ∧ c.pipe = i

@[simp] theorem copies_finishCopy (r : Run σ) (id : Nat) (c : Copy) :
    (r.finishCopy id c).copies = r.copies.setIfInBounds id { c with finished := true } := by
  rw [finishCopy]
  exact copies_closeLink ..

theorem shellReads_finishCopy (r : Run σ) (id : Nat) (c : Copy) (i : Nat) :
    ((r.finishCopy id c).pipe i).shellReads = true ↔
      (r.pipe i).shellReads = true ∧ c.link ≠ .stream i := by
  rw [finishCopy, pipe_changePipe rfl]
  have hlink := Run.shellReads_closeLink
    { r with copies := r.copies.setIfInBounds id { c with finished := true } } c.link i
  split_ifs <;> exact hlink

theorem shellWrites_finishCopy (r : Run σ) (id : Nat) (c : Copy) (i : Nat) :
    ((r.finishCopy id c).pipe i).shellWrites = true ↔
      (r.pipe i).shellWrites = true ∧ c.pipe ≠ i := by
  rw [finishCopy, pipe_changePipe rfl]
  split_ifs with h
  · exact iff_of_false not_false fun hne ↦ hne.2 h.symm
  · rw [shellWrites_closeLink]
    exact (and_iff_left (Ne.symm h)).symm

/-- Ends one copy, if it is not finished. -/
def cancelCopy (r : Run σ) (id : Nat) : Run σ :=
  match r.copies[id]? with
  | some c => if c.finished then r else r.finishCopy id c
  | none => r

/-- A copy is not one of certain copies, or it is finished already. -/
def IsSpared (ends : Copy → Prop) (r : Run σ) (j : Nat) : Prop :=
  ∀ c : Copy, r.copies[j]? = some c → c.finished = false → ¬ ends c

theorem isSpared_self {ends : Copy → Prop} {r : Run σ} {id : Nat} {c : Copy}
    (hc : r.copies[id]? = some c) (hrunning : c.finished = false) :
    r.IsSpared ends id ↔ ¬ ends c := by
  constructor
  · intro h
    exact h c hc hrunning
  · intro h c' hc' _
    obtain rfl := Option.some.inj (hc.symm.trans hc')
    exact h

theorem isSpared_finishCopy {ends : Copy → Prop} {r : Run σ} {id : Nat} {c : Copy}
    (hspared : r.IsSpared ends id) (j : Nat) :
    (r.finishCopy id c).IsSpared ends j ↔ r.IsSpared ends j := by
  by_cases hj : j = id
  · subst hj
    refine iff_of_true ?_ hspared
    -- what stands there now is finished
    intro c' hc' hrunning
    rw [copies_finishCopy, Array.getElem?_setIfInBounds, if_pos rfl] at hc'
    split_ifs at hc'
    cases hc'
    cases hrunning
  · unfold IsSpared
    rw [copies_finishCopy, Array.getElem?_setIfInBounds, if_neg (Ne.symm hj)]

section Cancelling

variable (kept : Run σ → Prop) (ends : Copy → Prop)

theorem cancelCopy_iff (hfinish : ∀ r id c, kept (r.finishCopy id c) ↔ kept r ∧ ¬ ends c)
    (r : Run σ) (id : Nat) (ids : List Nat) :
    (kept (r.cancelCopy id) ∧ ∀ j ∈ ids, (r.cancelCopy id).IsSpared ends j) ↔
      kept r ∧ r.IsSpared ends id ∧ ∀ j ∈ ids, r.IsSpared ends j := by
  -- a copy that is not there, or that is finished, is left as it is
  cases hc : r.copies[id]? with
  | none =>
    have hspared : r.IsSpared ends id := fun c hc' ↦ by cases hc.symm.trans hc'
    rw [cancelCopy, hc]
    exact and_congr_right fun _ ↦ (and_iff_right hspared).symm
  | some c =>
    rw [cancelCopy, hc]
    cases hfinished : c.finished with
    | true =>
      have hspared : r.IsSpared ends id := by
        intro c' hc' hrunning
        cases hc.symm.trans hc'
        cases hfinished.symm.trans hrunning
      simp only [hfinished, if_true]
      exact and_congr_right fun _ ↦ (and_iff_right hspared).symm
    | false =>
      simp only [hfinished, Bool.false_eq_true, if_false]
      rw [hfinish, ← isSpared_self hc hfinished, and_assoc]
      exact and_congr_right fun _ ↦ and_congr_right fun hspared ↦
        forall₂_congr fun j _ ↦ isSpared_finishCopy hspared j

/-- Whatever is kept up until one of certain copies is finished, is kept up by the end of all copies
if there was no such copy, and only then. -/
theorem cancelCopies_iff (hfinish : ∀ r id c, kept (r.finishCopy id c) ↔ kept r ∧ ¬ ends c)
    (r : Run σ) : kept r.cancelCopies ↔ kept r ∧ ∀ j, r.IsSpared ends j := by
  have hfold : ∀ (ids : List Nat) (r : Run σ), kept (ids.foldl cancelCopy r) ↔
      kept r ∧ ∀ j ∈ ids, r.IsSpared ends j := by
    intro ids
    induction ids with
    | nil => simp
    | cons id ids ih =>
      intro r
      rw [List.foldl_cons, ih, cancelCopy_iff kept ends hfinish, List.forall_mem_cons]
  refine (hfold (List.range r.copies.size) r).trans (and_congr_right fun _ ↦ ?_)
  constructor
  · intro h j c hc
    exact h j (List.mem_range.mpr (Array.getElem?_eq_some_iff.mp hc).1) c hc
  · intro h j _
    exact h j

end Cancelling

/-- At the end of a run the shell still reads from what nobody was to close. -/
theorem shellReads_cleanUp (r : Run σ) (left : Option Link) (i : Nat) :
    ((r.cleanUp left).pipe i).shellReads = true ↔
      (r.pipe i).shellReads = true ∧ left ≠ some (.stream i) ∧ ¬ r.IsDrained i := by
  have hcopies : ∀ r : Run σ, (r.cancelCopies.reap.pipe i).shellReads = true ↔
      (r.pipe i).shellReads = true ∧ ¬ r.IsDrained i := by
    intro r
    rw [(SameEnds.reap _).reads_eq, cancelCopies_iff (fun r ↦ (r.pipe i).shellReads = true)
      (fun c ↦ c.link = .stream i) (fun r id c ↦ shellReads_finishCopy r id c i)]
    simp [IsSpared, IsDrained]
  unfold cleanUp
  cases left with
  | none => simpa using hcopies r
  | some link =>
    have hdrained : (r.closeLink link).IsDrained i ↔ r.IsDrained i := by
      rw [IsDrained, copies_closeLink, IsDrained]
    rw [hcopies, shellReads_closeLink, hdrained, and_assoc, ne_eq, ne_eq, Option.some_inj]

theorem shellWrites_cleanUp (r : Run σ) (left : Option Link) (i : Nat) :
    ((r.cleanUp left).pipe i).shellWrites = true ↔
      (r.pipe i).shellWrites = true ∧ ¬ r.IsFilled i := by
  have hcopies : ∀ r : Run σ, (r.cancelCopies.reap.pipe i).shellWrites = true ↔
      (r.pipe i).shellWrites = true ∧ ¬ r.IsFilled i := by
    intro r
    rw [(SameEnds.reap _).writes_eq, cancelCopies_iff (fun r ↦ (r.pipe i).shellWrites = true)
      (fun c ↦ c.pipe = i) (fun r id c ↦ shellWrites_finishCopy r id c i)]
    simp [IsSpared, IsFilled]
  unfold cleanUp
  cases left with
  | none => exact hcopies r
  | some link =>
    have hfilled : (r.closeLink link).IsFilled i ↔ r.IsFilled i := by
      rw [IsFilled, copies_closeLink, IsFilled]
    rw [hcopies, shellWrites_closeLink, hfilled]

/-! ## Who closes what -/

/-- Every end that the shell holds is one that a copy is to close, or that of the link to the next
stage, or stranded. -/
structure Tended (r : Run σ) (link? : Option Link) (IsStranded : Nat → Prop) : Prop where
  reads : ∀ i, (r.pipe i).shellReads = true →
    r.IsDrained i ∨ link? = some (.stream i) ∨ IsStranded i
  writes : ∀ i, (r.pipe i).shellWrites = true → r.IsFilled i
  link_lt : ∀ s, link? = some (.stream s) → s < r.pipes.size
  copy_lt : ∀ (j : Nat) (c : Copy) (s : Nat), r.copies[j]? = some c → c.link = .stream s →
    s < r.pipes.size

namespace Tended

variable {r r' : Run σ} {link? : Option Link} {IsStranded : Nat → Prop}

theorem of_sameEnds (h : r.Tended link? IsStranded) (hsame : SameEnds r r') :
    r'.Tended link? IsStranded := by
  constructor
  case reads =>
    intro i hi
    rw [hsame.reads_eq] at hi
    unfold IsDrained
    rw [hsame.copies_eq]
    exact h.reads i hi
  case writes =>
    intro i hi
    rw [hsame.writes_eq] at hi
    unfold IsFilled
    rw [hsame.copies_eq]
    exact h.writes i hi
  case link_lt =>
    rw [hsame.size_eq]
    exact h.link_lt
  case copy_lt =>
    rw [hsame.size_eq, hsame.copies_eq]
    exact h.copy_lt

/-- A copy that is finished has closed its own ends, and no others. -/
theorem finishCopy (h : r.Tended link? IsStranded) {id : Nat} {c : Copy}
    (hc : r.copies[id]? = some c) : (r.finishCopy id c).Tended link? IsStranded := by
  have hsize : (r.finishCopy id c).pipes.size = r.pipes.size :=
    congrArg Layout.pipes (layout_finishCopy hc)
  have hother : ∀ {j : Nat} {d : Copy}, r.copies[j]? = some d → d ≠ c →
      (r.finishCopy id c).copies[j]? = some d := by
    intro j d hd hne
    have hj : id ≠ j := by
      rintro rfl
      exact hne (Option.some.inj (hd.symm.trans hc))
    rw [copies_finishCopy, Array.getElem?_setIfInBounds, if_neg hj, hd]
  constructor
  case reads =>
    intro i hi
    -- a pipe that is still open is not one that the ended copy was holding
    obtain ⟨hi, hne⟩ := (shellReads_finishCopy r id c i).mp hi
    refine (h.reads i hi).imp_left ?_
    rintro ⟨j, d, hd, hrunning, hlink⟩
    refine ⟨j, d, hother hd ?_, hrunning, hlink⟩
    rintro rfl
    exact hne hlink
  case writes =>
    intro i hi
    obtain ⟨hi, hne⟩ := (shellWrites_finishCopy r id c i).mp hi
    obtain ⟨j, d, hd, hrunning, hpipe⟩ := h.writes i hi
    refine ⟨j, d, hother hd ?_, hrunning, hpipe⟩
    rintro rfl
    exact hne hpipe
  case link_lt =>
    rw [hsize]
    exact h.link_lt
  case copy_lt =>
    intro j d s hd hs
    rw [hsize]
    rw [copies_finishCopy, Array.getElem?_setIfInBounds] at hd
    split_ifs at hd
    · cases hd
      exact h.copy_lt id c s hc hs
    · exact h.copy_lt j d s hd hs

theorem mono (h : r.Tended link? IsStranded) {IsStranded' : Nat → Prop}
    (hmore : ∀ i, IsStranded i → IsStranded' i) : r.Tended link? IsStranded' :=
  ⟨fun i hi ↦ (h.reads i hi).imp_right (Or.imp_right (hmore i)), h.writes, h.link_lt, h.copy_lt⟩

/-- Any worker may have a turn. -/
theorem turn (h : r.Tended link? IsStranded) (P : Programs σ) (t : Turn) :
    (r.turn P t).Tended link? IsStranded := by
  cases t with
  | process id most => exact h.of_sameEnds (.stepProcess P r id most)
  | copy id most =>
    change (r.stepCopy id most).Tended link? IsStranded
    cases hc : r.copies[id]? with
    | none => rwa [stepCopy_eq_self most (by simp [hc])]
    | some c =>
      cases hfinished : c.finished with
      | true => rwa [stepCopy_eq_self most (by simp [hc, hfinished])]
      | false =>
        have hcarries := stepCopy_carries most hc hfinished
        generalize r.stepCopy id most = r' at hcarries ⊢
        -- however the copy comes to its end, it closes both its ends
        have hends : ∀ {between : Run σ}, SameEnds r between →
            (between.finishCopy id c).Tended link? IsStranded := fun hsame ↦
          (h.of_sameEnds hsame).finishCopy (by rw [hsame.copies_eq, hc])
        cases hcarries with
        | delivers hlink hwrite => exact hends (.write hwrite)
        | isRefused hlink hwrite => exact hends (.write hwrite)
        | waits hlink htake => exact h
        | ends hlink htake hbytes => exact hends (.takeInput htake)
        | carries hlink htake hbytes hwrite =>
          exact h.of_sameEnds ((SameEnds.takeInput htake).trans (.write hwrite))
        | breaks hlink htake hbytes hwrite =>
          exact hends ((SameEnds.takeInput htake).trans (.write hwrite))

/-- A stage that joins takes the link into it, and leaves one of its own. -/
theorem joins (h : r.Tended link? IsStranded) {stage : Stage} {streams : Streams} {state : σ}
    (hafter : Joins r stage link? streams state r') :
    r'.Tended ((r.outputPipe? stage).map .stream) IsStranded := by
  have hsize : r.inputPipe stage ≤ r'.pipes.size := by
    rw [hafter.size_eq]
    exact Nat.le_add_right ..
  have hinput : r.pipes.size ≤ r.inputPipe stage := Nat.le_add_right ..
  have hold : ∀ {j : Nat} {c : Copy}, r.copies[j]? = some c → r'.copies[j]? = some c :=
    fun hc ↦ (hafter.copies_iff _ _).mpr (.inl hc)
  have hcopy {link : Link} (hlink : link? = some link) :
      r'.copies[r.copies.size]? = some { link, pipe := r.inputPipe stage } :=
    (hafter.copies_iff _ _).mpr (.inr ⟨rfl, link, hlink, rfl⟩)
  constructor
  case reads =>
    intro i hi
    -- an old pipe has the copy it had, or the new one; a new pipe is the output of the stage
    rcases Nat.lt_or_ge i r.pipes.size with hlt | hge
    · rw [hafter.pipe_eq i hlt] at hi
      obtain ⟨j, c, hc, hrunning, hlink⟩ | hlink | hstranded := h.reads i hi
      · exact .inl ⟨j, c, hold hc, hrunning, hlink⟩
      · exact .inl ⟨r.copies.size, _, hcopy hlink, rfl, rfl⟩
      · exact .inr (.inr hstranded)
    · obtain ho | ⟨hlink, rfl⟩ | hnone := hafter.pipe_new hge
      · exact .inr (.inl (by rw [ho, Option.map_some]))
      · rw [hafter.pipe_input hlink] at hi
        cases hi
      · rw [hnone] at hi
        cases hi
  case writes =>
    intro i hi
    rcases Nat.lt_or_ge i r.pipes.size with hlt | hge
    · rw [hafter.pipe_eq i hlt] at hi
      obtain ⟨j, c, hc, hrunning, hpipe⟩ := h.writes i hi
      exact ⟨j, c, hold hc, hrunning, hpipe⟩
    · -- of the new pipes, the shell only writes to the input, and the new copy does that
      obtain ho | ⟨hlink, rfl⟩ | hnone := hafter.pipe_new hge
      · rw [hafter.pipe_output i ho] at hi
        cases hi
      · obtain ⟨link, hlink⟩ := Option.isSome_iff_exists.mp hlink
        exact ⟨r.copies.size, _, hcopy hlink, rfl, rfl⟩
      · rw [hnone] at hi
        cases hi
  case link_lt =>
    intro s hs
    obtain ⟨o, ho, hs⟩ := Option.map_eq_some_iff.mp hs
    cases hs
    unfold outputPipe? at ho
    unfold inputPipe at hsize
    split_ifs at ho hsize with hlast
    cases ho
    exact hsize
  case copy_lt =>
    intro j c s hc hs
    refine Nat.lt_of_lt_of_le ?_ (Nat.le_trans hinput hsize)
    obtain hc | ⟨-, link, hlink, rfl⟩ := (hafter.copies_iff j c).mp hc
    · exact h.copy_lt j c s hc hs
    · exact h.link_lt s (hlink.trans (congrArg some hs))

/-- A stage that passes has closed the link into it, if it has come that far, and what it leaves in
the pipes that are new is stranded. -/
theorem passes (h : r.Tended link? IsStranded) {stage : Stage} {closed link'? : Option Link}
    {events : List Event} {end? : Option Nat} (hafter : Passes r stage closed events r')
    (hnew : HoldsOfNew r r' end?)
    (hlink : link'? = link? ∨ closed = link? ∧ ∀ s, link'? ≠ some (.stream s)) :
    r'.Tended link'? fun i ↦ IsStranded i ∨ end? = some i := by
  -- of the old pipes, only the link that was closed is not held any more
  have hold : ∀ i, i < r.pipes.size → (r'.pipe i).shellReads = true →
      (r.pipe i).shellReads = true ∧ closed ≠ some (.stream i) := by
    intro i hlt hi
    rw [hafter.pipe_eq i hlt] at hi
    exact (shellReads_closeIncoming r stage.position closed i).mp hi
  constructor
  case reads =>
    intro i hi
    unfold IsDrained
    rw [hafter.copies_eq]
    rcases Nat.lt_or_ge i r.pipes.size with hlt | hge
    · obtain ⟨hi, hclosed⟩ := hold i hlt hi
      obtain hdrained | hstream | hstranded := h.reads i hi
      · exact .inl hdrained
      · obtain hsame | ⟨rfl, -⟩ := hlink
        · exact .inr (.inl (hsame.trans hstream))
        · exact absurd hstream hclosed
      · exact .inr (.inr (.inl hstranded))
    · exact .inr (.inr (.inr ((hnew i hge).2.mp hi)))
  case writes =>
    intro i hi
    unfold IsFilled
    rw [hafter.copies_eq]
    rcases Nat.lt_or_ge i r.pipes.size with hlt | hge
    · rw [hafter.pipe_eq i hlt, shellWrites_closeIncoming] at hi
      exact h.writes i hi
    · rw [(hnew i hge).1] at hi
      cases hi
  case link_lt =>
    intro s hs
    obtain rfl | ⟨-, hready⟩ := hlink
    · exact Nat.lt_of_lt_of_le (h.link_lt s hs) hafter.size_le
    · exact absurd hs (hready s)
  case copy_lt =>
    intro j c s hc hs
    rw [hafter.copies_eq] at hc
    exact Nat.lt_of_lt_of_le (h.copy_lt j c s hc hs) hafter.size_le

end Tended

end Run

/-! ## Stages -/

namespace StageStart

variable {a : StageStart σ}

/-- The words of the stage cannot be handed to the system, and this is the pipe that the stage was
to write to. -/
def Strands (a : StageStart σ) (i : Nat) : Prop :=
  ¬ a.stage.CanBeAsked ∧ a.before.outputPipe? a.stage = some i

/-- A stage whose words cannot be handed to the system raises a fault, and leaves everything as it
was but for its output pipe. -/
theorem IsCall.of_not_canBeAsked (h : a.IsCall P registered targets)
    (hwords : ¬ a.stage.CanBeAsked) :
    a.result = .error .embeddedNul ∧ Run.Passes a.before a.stage none [] a.after ∧
      Run.HoldsOfNew a.before a.after (a.before.outputPipe? a.stage) := by
  have hexternal : ∀ executable, a.stage.work = .external executable →
      (executable.getD a.stage.command.name :: a.stage.command.argv).any Path.hasNul = false →
        a.stage.CanBeAsked := by
    intro executable hwork hnul other hother
    cases hwork.symm.trans hother
    exact hnul
  have hstarts := h.starts
  generalize hresult : a.result = result at hstarts
  generalize hafter : a.after = after at hstarts
  cases hstarts with
  | joins hwork _ _ hnul => exact absurd (hexternal _ hwork hnul) hwords
  | isRefused hwork hnul => exact absurd (hexternal _ hwork hnul) hwords
  | isHandled hwork => exact absurd (canBeAsked_of_builtin hwork) hwords
  | isMissing hwork => exact absurd (canBeAsked_of_builtin hwork) hwords
  | isMalformed hwork hnul hpasses hnew => exact ⟨rfl, hpasses, hnew⟩

/-- After the start of a stage somebody will close every end, unless the stage has stranded one. -/
theorem IsCall.tended (h : a.IsCall P registered targets) {IsStranded : Nat → Prop}
    (hbefore : a.before.Tended a.incoming IsStranded) :
    a.after.Tended a.outgoing fun i ↦ IsStranded i ∨ a.Strands i := by
  have hstarts := h.starts
  generalize hresult : a.result = result at hstarts
  generalize hafter : a.after = after at hstarts
  cases hstarts with
  | joins hwork hstart hjoins hnul =>
    rw [outgoing_of_ok hresult]
    exact (hbefore.joins hjoins).mono fun _ ↦ .inl
  | isRefused hwork hnul hstart hpasses hnew =>
    refine (hbefore.passes hpasses hnew (.inr ⟨rfl, fun s ↦ ?_⟩)).mono fun i hi ↦ ?_
    · rw [outgoing_of_ok hresult]
      dsimp only
      split_ifs <;> rintro ⟨⟩
    · exact hi.imp_right nofun
  | isHandled hwork hshell hpasses hnew =>
    -- a fault leaves the link where it was, and a reply leaves no stream
    have hlink : a.outgoing = a.incoming ∨ ∀ s, a.outgoing ≠ some (.stream s) := by
      cases hanswer : a.result with
      | error fault => exact .inl (outgoing_of_error hanswer)
      | ok answer =>
        obtain ⟨_, _, _, _, -, hready⟩ := outgoing_of_outcomeOf hresult (by rw [hanswer]; rfl)
        refine .inr fun s ↦ ?_
        rw [hready]
        split_ifs <;> rintro ⟨⟩
    refine (hbefore.passes hpasses hnew (hlink.imp_right (⟨rfl, ·⟩))).mono fun i hi ↦ ?_
    exact hi.imp_right nofun
  | isMissing hwork hpasses hnew =>
    refine (hbefore.passes hpasses hnew (.inl (outgoing_of_error hresult))).mono fun i hi ↦ ?_
    exact hi.imp_right nofun
  | isMalformed hwork hnul hpasses hnew =>
    refine (hbefore.passes hpasses hnew (.inl (outgoing_of_error hresult))).mono fun i hi ↦ ?_
    -- only a stage that cannot be asked comes this far
    refine hi.imp_right fun ho ↦ ⟨fun hasked ↦ ?_, ho⟩
    rw [hasked _ hwork] at hnul
    cases hnul

/-- Only the targets of a redirection are opened for a run. -/
theorem IsCall.opened_mem (h : a.IsCall P registered targets) {path : String} {o : Outlet}
    (ho : .opened path o ∈ a.after.events) : .opened path o ∈ a.before.events := by
  -- closing the link into a stage opens nothing
  have hpasses : ∀ {closed : Option Link} {events : List Event},
      Run.Passes a.before a.stage closed events a.after → .opened path o ∉ events →
        .opened path o ∈ a.before.events := by
    intro closed events hpasses hevents
    rw [hpasses.events_eq, Run.events_closeIncoming, List.mem_append, List.mem_append] at ho
    obtain ho | ho | ho := ho
    · exact absurd ho hevents
    · cases closed <;> simp at ho
    · exact ho
  have hstarts := h.starts
  generalize hresult : a.result = result at hstarts
  generalize hafter : a.after = after at hstarts
  subst hafter
  cases hstarts with
  | joins hwork hstart hjoins =>
    rw [hjoins.events_eq] at ho
    simpa using ho
  | isRefused hwork hnul hstart hafter => exact hpasses hafter (by simp)
  | isHandled hwork hshell hafter => exact hpasses hafter (by simp)
  | isMissing hwork hafter => exact hpasses hafter (by simp)
  | isMalformed hwork hnul hafter => exact hpasses hafter (by simp)

end StageStart

namespace Reached

variable {r : Run σ} {m : Moment σ}

/-- At every moment somebody will close every end, but for those that stages have stranded. -/
theorem tended (hr : IsFresh r) (hm : Reached P registered targets stages r m) :
    m.run.Tended (linkAfter m.started) fun i ↦ ∃ a ∈ m.started, a.Strands i := by
  induction hm with
  | begin =>
    have hpipe : ∀ i, r.pipe i = {} := fun i ↦ Run.pipe_of_le (by simp [hr.pipes_eq])
    exact ⟨fun i hi ↦ by simp [hpipe] at hi, fun i hi ↦ by simp [hpipe] at hi, nofun,
      by simp [hr.copies_eq]⟩
  | @start m _ _ stage rest _ ih =>
    obtain ⟨a, hstart, hbefore, hincoming, -, hcall⟩ :=
      m.exists_start P registered targets stage rest
    rw [← hbefore, ← hincoming] at ih
    rw [hstart]
    dsimp only
    rw [linkAfter_concat]
    refine (hcall.tended ih).mono fun i hi ↦ ?_
    rcases hi with ⟨b, hb, hstrands⟩ | hstrands
    · exact ⟨b, List.mem_append_left _ hb, hstrands⟩
    · exact ⟨a, List.mem_append_right _ (List.mem_singleton_self a), hstrands⟩
  | turn _ t ih => exact ih.turn P t

theorem before (hm : Reached P registered targets stages r m) {a : StageStart σ}
    (ha : a ∈ m.started) :
    ∃ m', Reached P registered targets stages r m' ∧ m'.run = a.before ∧
      linkAfter m'.started = a.incoming := by
  induction hm with
  | begin => cases ha
  | @start m hm _ stage rest _ ih =>
    rcases List.mem_append.mp ha with ha | ha
    · exact ih ha
    · rw [List.mem_singleton.mp ha]
      exact ⟨m, hm, rfl, rfl⟩
  | turn _ _ ih => exact ih ha

theorem opened_eq (hm : Reached P registered targets stages r m) : m.run.opened = r.opened := by
  induction hm with
  | begin => rfl
  | @start m _ _ stage rest _ ih =>
    refine Eq.trans ?_ ih
    refine Run.opened_eq_of_rebase
      (f := fun r ↦ (r.startStage P registered stage (linkAfter m.started) targets).2) m.run ?_
    intro opened past
    rw [Run.startStage_rebase]
  | @turn m _ t ih =>
    refine Eq.trans ?_ ih
    exact Run.opened_eq_of_rebase (f := fun r ↦ r.turn P t) m.run fun opened past ↦
      Run.turn_rebase m.run opened past P t

theorem opened_mem (hm : Reached P registered targets stages r m) {path : String} {o : Outlet}
    (ho : .opened path o ∈ m.run.events) : .opened path o ∈ r.events := by
  induction hm with
  | begin => exact ho
  | @start m _ _ stage rest _ ih =>
    obtain ⟨a, hstart, hbefore, -, -, hcall⟩ := m.exists_start P registered targets stage rest
    rw [hstart] at ho
    exact ih (hbefore ▸ hcall.opened_mem ho)
  | @turn m _ t ih =>
    rw [m.events_turn] at ho
    exact ih ho

/-- An end that the last stage has stranded stays open: no copy and no link leads to it. -/
theorem shellReads_of_strands (hr : IsFresh r) (hm : Reached P registered targets stages r m)
    {a : StageStart σ} {i : Nat} (hstrands : a.Strands i) (hlast : m.started.getLast? = some a)
    (hrun : m.run = a.after) :
    ((m.run.cleanUp (linkAfter m.started)).pipe i).shellReads = true := by
  have ha : a ∈ m.started := List.mem_of_getLast? hlast
  obtain ⟨hwords, ho⟩ := hstrands
  obtain ⟨hresult, hpasses, hnew⟩ := ((hm.listed hr).isCall a ha).of_not_canBeAsked hwords
  -- all that there was before the stage leads to older pipes
  have hge : a.before.pipes.size ≤ i := Nat.not_lt.mp fun hlt ↦ Run.ne_of_outputPipe? ho hlt rfl
  obtain ⟨before, hbefore, hsame, hincoming⟩ := hm.before ha
  have hold := hbefore.tended hr
  rw [hsame, hincoming] at hold
  rw [Run.shellReads_cleanUp, hrun]
  refine ⟨(hnew i hge).2.mpr ho, ?_, ?_⟩
  · intro hlink
    have hout : linkAfter m.started = a.incoming := by
      rw [linkAfter, hlast, Option.bind_some, StageStart.outgoing_of_error hresult]
    exact absurd (hold.link_lt i (hout ▸ hlink)) (Nat.not_lt.mpr hge)
  · rintro ⟨j, c, hc, -, hlink⟩
    rw [hpasses.copies_eq] at hc
    exact absurd (hold.copy_lt j c i hc hlink) (Nat.not_lt.mpr hge)

end Reached

/-! ## The run as a whole -/

/-- **What a run leaves open.** However a run ends, the files that were opened for it are closed,
and the shell holds no end of a pipe to write to. It holds an end to read from exactly if a stage
was started whose words cannot be handed to the system, and that is the end of the pipe that the
stage was to write to. -/
theorem run_closes (E : Engine σ) (registered : List String) (stages : List Stage)
    (redirection : Redirection) (shell : Shell) :
    ∃ r moment, EndsAt E registered stages redirection shell r moment ∧
      (∀ path file, .opened path (.file file) ∈
          (run E registered stages redirection shell).2.events →
        (run E registered stages redirection shell).2.shell.machine.files.open? file = none) ∧
      (∀ i, ((run E registered stages redirection shell).2.pipe i).shellWrites = false) ∧
      ∀ i, ((run E registered stages redirection shell).2.pipe i).shellReads = true ↔
        ∃ a ∈ moment.started, a.Strands i := by
  obtain ⟨r, moment, hend, -, hends⟩ := run_moments E registered stages redirection shell
  have htended := hend.reached.tended hend.isFresh
  have hlayout : (run E registered stages redirection shell).2.layout = moment.run.layout := by
    rw [hend.run_eq, Run.layout_closeFiles, Run.layout_cleanUp]
  have hpipe : ∀ i, (run E registered stages redirection shell).2.pipe i =
      (moment.run.cleanUp (linkAfter moment.started)).pipe i := by
    intro i
    rw [hend.run_eq]
    rfl
  have hopened : (moment.run.cleanUp (linkAfter moment.started)).opened = r.opened := by
    refine Eq.trans ?_ hend.reached.opened_eq
    exact Run.opened_eq_of_rebase (f := fun r ↦ r.cleanUp (linkAfter moment.started)) moment.run
      fun opened past ↦ Run.cleanUp_rebase moment.run opened past _
  refine ⟨r, moment, hend, ?_, ?_, fun i ↦ ⟨?_, ?_⟩⟩
  · intro path file hfile
    have hevents : (run E registered stages redirection shell).2.events = moment.run.events :=
      congrArg Layout.events hlayout
    rw [hevents] at hfile
    have hbooked := hend.isFresh.booked path _ (hend.reached.opened_mem hfile)
    rw [hend.run_eq]
    refine Machine.open?_foldl_closeOutlet ?_ _
    rwa [hopened]
  · intro i
    rw [hpipe, ← Bool.not_eq_true, Run.shellWrites_cleanUp]
    rintro ⟨hwrites, hfilled⟩
    exact hfilled (htended.writes i hwrites)
  · intro hi
    rw [hpipe, Run.shellReads_cleanUp] at hi
    obtain ⟨hreads, hleft, hdrained⟩ := hi
    obtain hdrains | hlink | hstranded := htended.reads i hreads
    · exact absurd hdrains hdrained
    · exact absurd hlink hleft
    · exact hstranded
  · rintro ⟨a, ha, hstrands⟩
    -- the stage is the last one that was started, and nothing has happened since
    have hlisted := hend.reached.listed hend.isFresh
    obtain ⟨hresult, -⟩ := (hlisted.isCall a ha).of_not_canBeAsked hstrands.1
    have hlast := hlisted.getLast?_of_error ha hresult
    obtain ⟨-, hrun⟩ := hends.fault a _ hlast hresult
    rw [hpipe]
    exact hend.reached.shellReads_of_strands hend.isFresh hstrands hlast hrun

/-- The stages of a program with a NUL character as its argument, and of `echo hi`. -/
def toolEcho : List Stage :=
  [{ command := ⟨"/tool", ["\x00"]⟩, work := .external (some "/tool"), position := 0
     isFirst := true, isLast := false },
   { command := ⟨"echo", ["hi"]⟩, work := .builtin (some Standard.echo), position := 1
     isFirst := false, isLast := true }]

/-- Not every end is closed: the program is not started, and the end of its output pipe is open when
the run is over. -/
theorem run_strands_toolEcho :
    buildStages Standard.registry toolbox [⟨"/tool", ["\x00"]⟩, ⟨"echo", ["hi"]⟩] = .ok toolEcho ∧
    (run noPrograms Standard.registry.registered toolEcho {} { machine := toolbox }).1 =
      .error .embeddedNul ∧
    ((run noPrograms Standard.registry.registered toolEcho {}
      { machine := toolbox }).2.pipe 0).shellReads = true := by
  have hecho : Stage.workOf Standard.registry toolbox "echo" =
      .ok (.builtin (some Standard.echo)) := rfl
  have hbuild : buildStages Standard.registry toolbox
      [⟨"/tool", ["\x00"]⟩, ⟨"echo", ["hi"]⟩] = .ok toolEcho := by
    simp only [buildStages, Stage.buildFrom, hecho, workOf_tool]
    rfl
  have hwords : ("/tool" :: (⟨"/tool", ["\x00"]⟩ : Command).argv).any Path.hasNul = true := by
    decide +kernel
  refine ⟨hbuild, ?_, ?_⟩
  · simp only [run, Run.openTarget, runStages, toolEcho, Run.startAll, Run.startStage,
      Run.startExternal, hwords, Option.getD_some, if_true]
  · simp only [run, Run.openTarget, runStages, toolEcho, Run.startAll, Run.startStage,
      Run.startExternal, hwords, Option.getD_some, if_true]
    rfl

end Pipeline

end CommandShell

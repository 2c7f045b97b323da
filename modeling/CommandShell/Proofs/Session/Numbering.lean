import CommandShell.Proofs.History.Operations
import CommandShell.Proofs.Line.Numbers
import CommandShell.Proofs.Session.Calls
import CommandShell.Proofs.Session.Recording

/-!
# The numbers of the history

`history` shows entries with their places in the log, counted from one. The log only grows, whatever
is done in a session: builtins change it by its own operations, and so do the recording of a line,
the loading of the history file and the writing of it (`grows_after`). So a number means the same
entry in every listing, and a later listing shows an entry under the number that it had before
(`Course.agrees`), however far apart the two are.

`Course` is a session seen in this way: one operation after the other, and the calls of `history` on
the way that list, each with the log as it has found it. Within a line that is the log which the
stages before it left, so the logs of a line are followed from one start of a stage to the next.
-/

namespace CommandShell

open CommandShell.Host CommandShell.Pipeline CommandShell.HistoryLog

/-! ## Logs that come one after the other -/

/-- A log on its way from a first to a last one, seen now and then. -/
structure HistoryLog.Passes (first : HistoryLog) (seen : List HistoryLog) (last : HistoryLog) :
    Prop where
  pairwise : seen.Pairwise Grows
  grows : Grows first last
  from_first : ∀ log ∈ seen, Grows first log
  to_last : ∀ log ∈ seen, Grows log last

namespace HistoryLog.Passes

variable {first middle last : HistoryLog} {seen later : List HistoryLog}

theorem of_grows (h : Grows first last) : Passes first [] last :=
  ⟨List.Pairwise.nil, h, nofun, nofun⟩

theorem append (h : Passes first seen middle) (h' : Passes middle later last) :
    Passes first (seen ++ later) last where
  pairwise := by
    refine List.pairwise_append.mpr ⟨h.pairwise, h'.pairwise, ?_⟩
    intro a ha b hb
    exact (h.to_last a ha).trans (h'.from_first b hb)
  grows := h.grows.trans h'.grows
  from_first := by
    intro log hlog
    obtain hlog | hlog := List.mem_append.mp hlog
    · exact h.from_first log hlog
    · exact h.grows.trans (h'.from_first log hlog)
  to_last := by
    intro log hlog
    obtain hlog | hlog := List.mem_append.mp hlog
    · exact (h.to_last log hlog).trans h'.grows
    · exact h'.to_last log hlog

theorem go (h : Passes first seen middle) (h' : Grows middle last) : Passes first seen last := by
  have hboth := h.append (of_grows h')
  rwa [List.append_nil] at hboth

theorem see (h : Passes first seen middle) (h' : Grows middle last) :
    Passes first (seen ++ [middle]) last := by
  refine h.append ⟨List.pairwise_singleton _ _, h', ?_, ?_⟩
  · intro log hlog
    rw [List.mem_singleton.mp hlog]
    exact Grows.refl middle
  · intro log hlog
    rw [List.mem_singleton.mp hlog]
    exact h'

theorem sublist (h : Passes first seen last) (hsub : later.Sublist seen) :
    Passes first later last :=
  ⟨h.pairwise.sublist hsub, h.grows, fun log hlog ↦ h.from_first log (hsub.subset hlog),
    fun log hlog ↦ h.to_last log (hsub.subset hlog)⟩

end HistoryLog.Passes

/-! ## Listings -/

/-- What `history` is asked to list: a log, and how many of its entries. -/
structure Listing where
  log : HistoryLog
  count : Option Int

namespace Listing

/-- The entries of a listing, each with its number. -/
def lines (l : Listing) : List (Nat × String) :=
  l.log.tail l.count

def text (l : Listing) : String :=
  String.join (l.lines.map Standard.listEntry)

/-- The entries that one listing shows have the same numbers in another one: a number that is in
both is that of the same entry, and where the other one begins no later, it shows the entry. -/
def Agrees (l other : Listing) : Prop :=
  ∀ number entry, (number, entry) ∈ l.lines →
    (∀ entry', (number, entry') ∈ other.lines → entry' = entry) ∧
    ∀ first entry', (first, entry') ∈ other.lines → first ≤ number →
      (number, entry) ∈ other.lines

end Listing

theorem HistoryLog.mem_numberedFrom_iff {log : HistoryLog} {start number : Nat} {entry : String} :
    (number, entry) ∈ log.numberedFrom start ↔
      ∃ i, start ≤ i ∧ number = i + 1 ∧ log.entries[i]? = some entry := by
  rw [numberedFrom, List.mem_mapIdx]
  constructor
  · rintro ⟨i, hi, heq⟩
    obtain ⟨rfl, hentry⟩ := Prod.mk.inj heq
    refine ⟨start + i, Nat.le_add_right _ _, rfl, ?_⟩
    rw [← hentry, ← List.getElem?_drop, List.getElem?_eq_getElem hi]
  · rintro ⟨i, hstart, rfl, hentry⟩
    obtain ⟨k, rfl⟩ := Nat.exists_eq_add_of_le hstart
    rw [← List.getElem?_drop] at hentry
    obtain ⟨hk, hentry⟩ := List.getElem?_eq_some_iff.mp hentry
    exact ⟨k, hk, by rw [hentry]⟩

theorem HistoryLog.map_numberedFrom (log : HistoryLog) (start : Nat) :
    (log.numberedFrom start).map Prod.snd = log.entries.drop start ∧
      (log.numberedFrom start).map Prod.fst =
        List.range' (start + 1) (log.entries.length - start) := by
  constructor
  · refine List.ext_getElem (by simp [numberedFrom]) ?_
    intro i _ _
    simp [numberedFrom]
  · refine List.ext_getElem (by simp [numberedFrom]) ?_
    intro i _ _
    simp [numberedFrom]
    omega

theorem Listing.exists_lines_eq (l : Listing) : ∃ start, l.lines = l.log.numberedFrom start := by
  unfold lines tail
  cases l.count with
  | none => exact ⟨0, rfl⟩
  | some n => exact ⟨_, rfl⟩

/-- **Listings of a log that has grown agree with those before.** -/
theorem Listing.agrees_of_grows {l other : Listing} (h : Grows l.log other.log) :
    l.Agrees other := by
  obtain ⟨start, hlines⟩ := l.exists_lines_eq
  obtain ⟨start', hlines'⟩ := other.exists_lines_eq
  intro number entry hmem
  rw [hlines, mem_numberedFrom_iff] at hmem
  obtain ⟨i, -, rfl, hentry⟩ := hmem
  obtain ⟨hi, -⟩ := List.getElem?_eq_some_iff.mp hentry
  -- the entry is at its place still, whatever part of the log the other one shows
  have hstill : other.log.entries[i]? = some entry := (h.getElem?_eq hi).trans hentry
  rw [hlines']
  constructor
  · intro entry' hmem'
    obtain ⟨j, -, hj, hentry'⟩ := mem_numberedFrom_iff.mp hmem'
    obtain rfl := Nat.succ.inj hj
    exact Option.some.inj (hentry'.symm.trans hstill)
  · intro first entry' hmem' hle
    obtain ⟨j, hstart, rfl, -⟩ := mem_numberedFrom_iff.mp hmem'
    exact mem_numberedFrom_iff.mpr ⟨i, by omega, rfl, hstill⟩

/-! ## Builtins -/

namespace Standard

/-- The listing that a call of `history` asks for, if it asks for one. -/
def listing? (args : List String) (log : HistoryLog) : Option Listing :=
  match args with
  | [] => some ⟨log, none⟩
  | first :: _ =>
    if ["-r", "-w", "-a"].contains first then none
    else (Text.readIntegerString first).map fun count ↦ ⟨log, some count⟩

theorem listing?_of_read {first : String} {n : Int} (h : Text.readIntegerString first = some n)
    (rest : List String) (log : HistoryLog) :
    listing? (first :: rest) log = some ⟨log, some n⟩ := by
  have hflag : ["-r", "-w", "-a"].contains first = false := by
    have hflags : ∀ flag ∈ ["-r", "-w", "-a"], Text.readIntegerString flag = none := by
      decide +kernel
    rw [← Bool.not_eq_true, List.contains_iff_mem]
    intro hmem
    rw [hflags first hmem] at h
    cases h
  simp only [listing?, hflag, h, Bool.false_eq_true, if_false, Option.map_some]

theorem history_of_listing? {call : Call} {s : Shell} {l : Listing}
    (h : listing? call.args s.history = some l) :
    history call s = (.returned 0 l.text "", s) := by
  obtain ⟨args, inPipeline, registered⟩ := call
  cases args with
  | nil =>
    obtain rfl := Option.some.inj h
    rfl
  | cons first rest =>
    rw [listing?] at h
    split_ifs at h with hflag
    obtain ⟨count, hcount, rfl⟩ := Option.map_eq_some_iff.mp h
    simp only [history, if_neg hflag, hcount]
    rfl

theorem exists_after_useHistoryFile (s : Shell) (flag path : String) :
    ∃ op : HistoryLog.Operation,
      (useHistoryFile s flag path).2.history = op.after s.machine s.history := by
  unfold useHistoryFile
  split_ifs
  · refine ⟨.load path false, ?_⟩
    rw [HistoryLog.Operation.after]
    cases s.history.load s.machine path <;> rfl
  · refine ⟨.save path, ?_⟩
    rw [HistoryLog.Operation.after]
    rcases s.history.save s.machine path with ⟨_ | _, _⟩ <;> rfl
  · refine ⟨.appendUnsaved path, ?_⟩
    rw [HistoryLog.Operation.after]
    rcases s.history.appendUnsaved s.machine path with ⟨_ | _, _⟩ <;> rfl

/-- **`history` changes the log by one of its operations**, or leaves it alone. -/
theorem exists_performAll_history (call : Call) (s : Shell) :
    ∃ steps, (history call s).2.history = s.history.performAll steps := by
  have hstays : ∃ steps, s.history = s.history.performAll steps := ⟨[], rfl⟩
  unfold history
  dsimp only
  split
  · exact hstays
  · next first rest _ =>
    split_ifs
    · cases rest with
      | nil => exact hstays
      | cons path rest =>
        obtain ⟨op, hop⟩ := exists_after_useHistoryFile s first path
        exact ⟨[(s.machine, op)], hop⟩
    · split <;> exact hstays

end Standard

/-- A registry in which `history` is the standard builtin, and whose builtins change the log by its
own operations only. -/
structure Registry.UsesLog (registry : Registry) : Prop where
  standard : registry.get? "history" = Standard.registry.get? "history"
  operations : ∀ b ∈ registry.builtins, ∀ call s,
    ∃ steps, (b.handler call s).2.history = s.history.performAll steps

/-- The standard builtins are such, and so are others that leave the log alone. -/
theorem Registry.HasStandard.usesLog {registry : Registry} (h : registry.HasStandard) :
    registry.UsesLog := by
  have hget : registry.get? "history" = some Standard.registry.builtins[4] :=
    h.standard Standard.registry.builtins[4] (List.getElem_mem _)
  refine ⟨hget, ?_⟩
  intro b hb call s
  obtain hstandard | hkeeps := h.others b hb
  · by_cases hname : b.name = "history"
    · have hsame := h.standard b hstandard
      rw [hname, hget] at hsame
      obtain rfl := Option.some.inj hsame
      exact Standard.exists_performAll_history call s
    · exact ⟨[], Standard.history_of_standard hstandard hname call s⟩
  · exact ⟨[], hkeeps call s⟩

theorem Registry.UsesLog.grows {registry : Registry} (h : registry.UsesLog) {b : Builtin}
    (hb : b ∈ registry.builtins) (call : Call) (s : Shell) :
    Grows s.history (b.handler call s).2.history := by
  obtain ⟨steps, hsteps⟩ := h.operations b hb call s
  rw [hsteps]
  exact grows_performAll s.history steps

/-! ## Stages and lines -/

def Pipeline.StageStart.listing? {σ : Type} (a : StageStart σ) : Option Listing :=
  if a.stage.command.name = "history" then
    Standard.listing? a.stage.command.arguments a.before.shell.history
  else none

namespace Pipeline

variable {σ : Type} {registry : Registry}

theorem Run.grows_startStage (hreg : registry.UsesLog) (P : Programs σ) (r : Run σ) {m : Machine}
    {stage : Stage} (hwork : Stage.workOf registry m stage.command.name = .ok stage.work)
    (incoming : Option Link) (targets : Run.Targets) :
    Grows r.shell.history
      (r.startStage P registry.registered stage incoming targets).2.shell.history := by
  obtain ⟨handler, hkind, hsame⟩ | ⟨-, hsame⟩ :=
    r.sameSession_startStage P registry.registered stage incoming targets
  · rw [hkind] at hwork
    obtain ⟨b, hget, rfl⟩ := Option.map_eq_some_iff.mp (Stage.handler_of_workOf hwork).symm
    rw [hsame.history_eq]
    exact hreg.grows (List.mem_of_find?_eq_some hget) _ r.shell
  · rw [hsame.history_eq]
    exact Grows.refl _

/-- **The stages of a run see the log on its way**, whatever the schedule. -/
theorem Reached.passes (hreg : registry.UsesLog) {machine : Machine} {stages : List Stage}
    (hwork : ∀ stage ∈ stages, Stage.workOf registry machine stage.command.name = .ok stage.work)
    {P : Programs σ} {targets : Run.Targets} {r : Run σ} {m : Moment σ}
    (h : Reached P registry.registered targets stages r m) :
    m.pending ⊆ stages ∧
      Passes r.shell.history (m.started.map fun a ↦ a.before.shell.history)
        m.run.shell.history := by
  induction h with
  | begin => exact ⟨List.Subset.refl stages, .of_grows (Grows.refl _)⟩
  | @start m h going stage rest pending ih =>
    obtain ⟨hpending, hpasses⟩ := ih
    obtain ⟨hstage, hrest⟩ := List.cons_subset.mp (pending ▸ hpending)
    have hstart := m.run.grows_startStage hreg P (hwork stage hstage) (linkAfter m.started) targets
    refine ⟨hrest, ?_⟩
    -- the stage sees the log as it was before its own start
    have hseen := hpasses.see hstart
    rw [Moment.start, List.map_append]
    exact hseen
  | @turn m h t ih =>
    obtain ⟨hpending, hpasses⟩ := ih
    have hsame := m.run.sameSession_turns P [t]
    refine ⟨hpending, hpasses.go ?_⟩
    rw [Moment.turn]
    exact hsame.history_eq ▸ Grows.refl _

end Pipeline

namespace Session

variable {σ : Type} {registry : Registry}

theorem grows_runText (E : Engine σ) (hreg : registry.UsesLog) (s : Shell) (text : String) :
    Grows s.history (runText E registry s text).shell.history :=
  frame_runText E (R := fun s t ↦ Grows s.history t.history)
    (fun h ↦ h.history_eq ▸ Grows.refl _) Grows.trans (fun _ h ↦ h) (fun _ hb ↦ hreg.grows hb) s
    text

/-- Whatever the text of a line is, there is an account of how its stages are started. -/
theorem exists_started (E : Engine σ) (registry : Registry) (s : Shell) (text : String) :
    ∃ started, Started E registry s text (runText E registry s text).run started := by
  unfold runText
  split
  · exact ⟨[], .notRun⟩
  · next parsed hparse =>
    split
    · exact ⟨[], .notRun⟩
    · exact ⟨[], .notRun⟩
    · next stages hbuild =>
      obtain ⟨r, m, hsame, hends, hstopped, -⟩ :=
        run_moments_sameSession E registry.registered stages parsed.redirection s
      have hstarted : Started E registry s text
          (some (run E registry.registered stages parsed.redirection s).2) m.started :=
        .ran hparse hbuild hsame hends (hstopped.imp_right And.left)
      split <;> next hrun =>
        rw [hrun] at hstarted
        exact ⟨m.started, hstarted⟩

theorem Started.eq_nil {E : Engine σ} {s : Shell} {text : String} {started : List (StageStart σ)}
    (h : Started E registry s text none started) : started = [] := by
  cases h
  rfl

/-- The stages of a line see the log between what it was before the line and what the line made of
it. -/
theorem Started.passes {E : Engine σ} (hreg : registry.UsesLog) {s : Shell} {text : String}
    {started : List (StageStart σ)}
    (h : Started E registry s text (runText E registry s text).run started) :
    Passes s.history (started.map fun a ↦ a.before.shell.history)
      (runText E registry s text).shell.history := by
  generalize hrun : (runText E registry s text).run = run at h
  cases h with
  | notRun => exact .of_grows (grows_runText E hreg s text)
  | @ran parsed stages r m parse build sameSession ends stopped =>
    obtain ⟨-, hpasses⟩ := ends.reached.passes hreg (Stage.workOf_of_buildFrom build)
    have hlast : (runText E registry s text).shell.history = m.run.shell.history := by
      rw [← ends.history_eq, runText, parse]
      simp only [build]
      split
      · next heq =>
        rw [heq]
        rfl
      · next heq => rw [heq]
    rwa [sameSession.history_eq, ← hlast] at hpasses

/-! ## Sessions -/

/-- What can be done in a session. -/
inductive Operation
  | line (text : String) (recorded : Bool)
  | loadHistory
  | flushHistory
  | finish
  /-- The log is used from outside. -/
  | log (op : HistoryLog.Operation)

/-- The shell after an operation. A fault that passes on leaves it as it was, unless it is that of a
line. -/
def Operation.after (E : Engine σ) (registry : Registry) (s : Shell) : Operation → Shell
  | .line text recorded => (runLine E registry s text recorded).shell
  | .loadHistory => (Session.loadHistory s).toOption.getD s
  | .flushHistory => (Session.flushHistory s).toOption.getD s
  | .finish => ((Session.finish s).map (·.2)).toOption.getD s
  | .log op => { s with history := op.after s.machine s.history }

def Operation.Starts (E : Engine σ) (registry : Registry) (s : Shell) :
    Operation → List (StageStart σ) → Prop
  | .line text recorded, started =>
    Started E registry s (Text.trimString text) (runLine E registry s text recorded).run started
  | _, started => started = []

theorem grows_afterFileUse {s left : Shell} {used : Except Fault Shell}
    (hleft : left.history = s.history) (h : ∀ t, used = .ok t → Grows s.history t.history) :
    Grows s.history ((afterFileUse left used).toOption.getD s).history := by
  unfold afterFileUse
  split
  · exact hleft ▸ Grows.refl _
  · cases hused : used with
    | error fault => exact Grows.refl _
    | ok t => exact h t hused

theorem grows_loadHistory (s : Shell) :
    Grows s.history ((loadHistory s).toOption.getD s).history := by
  unfold loadHistory
  split
  · exact Grows.refl _
  · split
    · exact Grows.refl _
    · exact Grows.refl _
    · refine grows_afterFileUse rfl ?_
      intro t ht
      cases hload : s.history.load s.machine _ true with
      | error fault =>
        rw [hload] at ht
        cases ht
      | ok loaded =>
        rw [hload] at ht
        cases ht
        exact grows_of_load hload

theorem grows_flushHistory (s : Shell) :
    Grows s.history ((flushHistory s).toOption.getD s).history := by
  unfold flushHistory
  split
  · exact Grows.refl _
  · refine grows_afterFileUse rfl ?_
    intro t ht
    rcases hsave : s.history.save s.machine _ with ⟨fault | saved, machine⟩
    · rw [hsave] at ht
      cases ht
    · rw [hsave] at ht
      cases ht
      exact grows_of_save hsave

theorem grows_remember (s : Shell) (line : String) (recorded : Bool) :
    Grows s.history (remember s line recorded).history := by
  cases recorded with
  | false => exact Grows.refl _
  | true => exact (HistoryLog.Operation.append (Text.trimString line)).grows s.machine s.history

/-- **The log grows in every operation of a session**, whatever comes of it. -/
theorem grows_after (E : Engine σ) (hreg : registry.UsesLog) (s : Shell) (op : Operation) :
    Grows s.history (op.after E registry s).history := by
  cases op with
  | line text recorded =>
    rw [Operation.after]
    by_cases hblank : Text.trimString text = ""
    · rw [runLine_blank E registry s hblank]
      exact Grows.refl _
    · rw [runLine_of_ne E registry s hblank]
      exact (grows_runText E hreg s _).trans (grows_remember _ text recorded)
  | loadHistory => exact grows_loadHistory s
  | flushHistory => exact grows_flushHistory s
  | finish =>
    have hflush := grows_flushHistory s
    simp only [Operation.after, Session.finish]
    cases hflushed : Session.flushHistory s with
    | error fault => exact Grows.refl _
    | ok t =>
      rw [hflushed] at hflush
      exact hflush
  | log op => exact op.grows s.machine s.history

theorem Operation.exists_starts (E : Engine σ) (registry : Registry) (s : Shell) (op : Operation) :
    ∃ started, op.Starts E registry s started := by
  cases op with
  | line text recorded =>
    simp only [Operation.Starts]
    by_cases hblank : Text.trimString text = ""
    · rw [runLine_blank E registry s hblank]
      exact ⟨[], .notRun⟩
    · rw [runLine_of_ne E registry s hblank]
      dsimp only
      exact exists_started E registry s _
  | loadHistory | flushHistory | finish | log => exact ⟨[], rfl⟩

theorem Operation.passes {E : Engine σ} (hreg : registry.UsesLog) {s : Shell} {op : Operation}
    {started : List (StageStart σ)} (h : op.Starts E registry s started) :
    Passes s.history (started.map fun a ↦ a.before.shell.history)
      (op.after E registry s).history := by
  cases op with
  | line text recorded =>
    simp only [Operation.Starts, Operation.after] at h ⊢
    by_cases hblank : Text.trimString text = ""
    · rw [runLine_blank E registry s hblank] at h ⊢
      obtain rfl := h.eq_nil
      exact .of_grows (Grows.refl _)
    · rw [runLine_of_ne E registry s hblank] at h ⊢
      dsimp only at h ⊢
      exact (Started.passes hreg h).go (grows_remember _ text recorded)
  | loadHistory | flushHistory | finish | log =>
    obtain rfl := h
    exact .of_grows (grows_after E hreg s _)

/-- What happens in a session, one operation after the other, with the listings that its stages ask
for on the way, the first one first. What becomes of the machine between two operations may be
anything. -/
inductive Course (E : Engine σ) (registry : Registry) (start : Shell) :
    Shell → List Listing → Prop
  | begin : Course E registry start start []
  | operation {s : Shell} {listings : List Listing} (h : Course E registry start s listings)
      (op : Operation) {started : List (StageStart σ)} (starts : op.Starts E registry s started) :
      Course E registry start (op.after E registry s)
        (listings ++ started.filterMap StageStart.listing?)
  | elsewhere {s : Shell} {listings : List Listing} (h : Course E registry start s listings)
      (machine : Machine) : Course E registry start { s with machine } listings

theorem log_of_listing? {a : StageStart σ} {l : Listing} (h : a.listing? = some l) :
    l.log = a.before.shell.history := by
  unfold StageStart.listing? Standard.listing? at h
  split_ifs at h
  split at h
  · cases h
    rfl
  · split_ifs at h
    obtain ⟨count, -, rfl⟩ := Option.map_eq_some_iff.mp h
    rfl

theorem sublist_listings (started : List (StageStart σ)) :
    ((started.filterMap StageStart.listing?).map Listing.log).Sublist
      (started.map fun a ↦ a.before.shell.history) := by
  induction started with
  | nil => exact List.Sublist.slnil
  | cons a started ih =>
    rw [List.filterMap_cons, List.map_cons]
    cases hl : a.listing? with
    | none => exact ih.cons _
    | some l =>
      rw [List.map_cons, log_of_listing? hl]
      exact ih.cons_cons _

theorem Course.passes {E : Engine σ} (hreg : registry.UsesLog) {start s : Shell}
    {listings : List Listing} (h : Course E registry start s listings) :
    Passes start.history (listings.map Listing.log) s.history := by
  induction h with
  | begin => exact .of_grows (Grows.refl _)
  | operation h op starts ih =>
    rw [List.map_append]
    exact ih.append ((Operation.passes hreg starts).sublist (sublist_listings _))
  | elsewhere h machine ih => exact ih

theorem Course.agrees {E : Engine σ} (hreg : registry.UsesLog) {start s : Shell}
    {listings : List Listing} (h : Course E registry start s listings) :
    listings.Pairwise Listing.Agrees := by
  have hgrows := List.pairwise_map.mp (h.passes hreg).pairwise
  exact hgrows.imp Listing.agrees_of_grows

/-! ## A line that lists -/

/-- A line that is nothing but a call of `history` prints its listing, on the shell's own standard
output. -/
theorem runLine_listing (E : Engine σ) (hreg : registry.UsesLog) {s : Shell} {line raw : String}
    {args : List String}
    (hparse : Line.parse line = .ok { raw, commands := [⟨"history", args⟩] }) {l : Listing}
    (hlisting : Standard.listing? args s.history = some l) (recorded : Bool) :
    (runLine E registry s line recorded).outcome = .ok 0 ∧
      (runLine E registry s line recorded).shell.machine = s.machine.print l.text.toUTF8 := by
  have hget : registry.get? "history" = some Standard.registry.builtins[4] := hreg.standard
  have hcall : Standard.history ⟨args, false, registry.registered⟩ s = (.returned 0 l.text "", s) :=
    Standard.history_of_listing? hlisting
  obtain ⟨houtcome, hshell⟩ :=
    runLine_plain_call E hparse hget (returned?_of_handler hget hcall) recorded
  refine ⟨houtcome, ?_⟩
  rw [hshell]
  cases recorded <;> exact congrArg Shell.machine (congrArg (Shell.print · l.text)
    (Shell.printError_empty s))

/-- **The history only grows, and its numbers stay.** Whatever is done in a session and whatever
comes of it, the entries before are a prefix of those after, and the cursor does not go back and
does not leave the log; so it is from the start of a session to its end. `history` with an integer
prints as many of the last entries as it says, none for a negative one and all for one that is too
great, in order and with their places in the log. All calls of `history` in a session that list
anything show an entry under one and the same number. -/
theorem history_numbers_stay (E : Engine σ) (hreg : registry.UsesLog) :
    (∀ s op, Grows s.history (Operation.after E registry s op).history ∧
      ∃ started, Operation.Starts E registry s op started) ∧
    (∀ (s : Shell) (n : Int) (recorded : Bool),
      (Nat.toDigits 10 n.natAbs).length ≤ Text.maxDigits →
        ∃ (count : Nat) (lines : List (Nat × String)),
          count = min (max n 0).toNat s.history.entries.length ∧
          lines.map Prod.snd = s.history.entries.drop (s.history.entries.length - count) ∧
          lines.map Prod.fst = List.range' (s.history.entries.length - count + 1) count ∧
          (runLine E registry s ("history" ++ " " ++ toString n) recorded).outcome = .ok 0 ∧
          (runLine E registry s ("history" ++ " " ++ toString n) recorded).shell.machine =
            s.machine.print (String.join (lines.map Standard.listEntry)).toUTF8) ∧
    (∀ start s listings, Course E registry start s listings →
      Grows start.history s.history ∧ listings.Pairwise Listing.Agrees) ∧
    ∀ call s l, Standard.listing? call.args s.history = some l →
      Standard.history call s = (.returned 0 l.text "", s) := by
  refine ⟨fun s op ↦ ⟨grows_after E hreg s op, op.exists_starts E registry s⟩, ?_,
    fun _ _ _ h ↦ ⟨(h.passes hreg).grows, h.agrees hreg⟩,
    fun _ _ _ h ↦ Standard.history_of_listing? h⟩
  intro s n recorded hdigits
  have hhistory : Line.Stands "history".toList "history".toList :=
    ⟨by decide, by decide, fun _ _ ↦ rfl, by decide, by rintro c ⟨⟩; rfl, by rintro c ⟨⟩; rfl⟩
  have hlisting := Standard.listing?_of_read (Text.readIntegerString_toString hdigits) [] s.history
  obtain ⟨houtcome, hmachine⟩ := runLine_listing E hreg
    (Line.parse_two_words hhistory (Text.stands_toString n) (by decide)) hlisting recorded
  -- a log is cut at a place, which is nowhere below zero and nowhere behind its end
  have hlast : s.history.entries.length - min (max n 0).toNat s.history.entries.length =
      s.history.entries.length - n.toNat := by omega
  have hcount : s.history.entries.length - (s.history.entries.length - n.toNat) =
      min (max n 0).toNat s.history.entries.length := by omega
  obtain ⟨hentries, hnumbers⟩ :=
    s.history.map_numberedFrom (s.history.entries.length - n.toNat)
  rw [hcount] at hnumbers
  refine ⟨_, s.history.numberedFrom (s.history.entries.length - n.toNat), rfl, ?_, ?_, houtcome,
    hmachine⟩
  · rw [hlast, hentries]
  · rw [hlast, hnumbers]

/-- A count that is too great shows the only entry, and a negative one shows none. -/
theorem history_numbers_stay_reading :
    Standard.registry.UsesLog ∧
    (runLine noPrograms Standard.registry reading "history 12").shell.machine.output =
      "    1  echo hi\n".toUTF8 ∧
    (runLine noPrograms Standard.registry reading "history -1").shell.machine.output =
      ByteArray.empty := by
  obtain ⟨-, hprints, -, -⟩ := history_numbers_stay noPrograms hasStandard_standard.usesLog
  have hline : "history" ++ " " ++ toString (12 : Int) = "history 12" := by decide +kernel
  have hline' : "history" ++ " " ++ toString (-1 : Int) = "history -1" := by decide +kernel
  refine ⟨hasStandard_standard.usesLog, ?_, ?_⟩
  · obtain ⟨count, lines, rfl, hentries, hnumbers, -, hmachine⟩ :=
      hprints reading 12 true (by decide +kernel)
    have hshown : lines.map Prod.snd = ["echo hi"] := hentries
    obtain ⟨⟨number, entry⟩, rfl, rfl⟩ := List.map_eq_singleton_iff.mp hshown
    have hnumber : [number] = [1] := hnumbers
    obtain rfl := List.head_eq_of_cons_eq hnumber
    rw [← hline, hmachine]
    decide +kernel
  · obtain ⟨count, lines, rfl, hentries, -, -, hmachine⟩ :=
      hprints reading (-1) true (by decide +kernel)
    have hshown : lines.map Prod.snd = [] := hentries
    rw [← hline', hmachine, List.map_eq_nil_iff.mp hshown]
    decide +kernel

end Session

end CommandShell

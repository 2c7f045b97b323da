import CommandShell.Proofs.History.Log
import CommandShell.Proofs.Session.Loop
import CommandShell.Proofs.Session.Rejection

/-!
# From the beginning of a session to its end

Three things happen in a session: the history is loaded, the lines are run, and the history is
written. Each has its lemmas here: loading reads entries or says why it cannot (`loaded_cases`),
what printing and every line keep holds after the last line if it held before the first
(`loop_invariant`), and `Ran.interact_eq` puts the parts together.

`EachLine` says something of the lines that are really run, each in the shell that it is run in: a
line that comes after `exit` is entered and never run.
-/

namespace CommandShell

open CommandShell.Host CommandShell.Pipeline CommandShell.History

/-! ## Settings -/

/-- A standard builtin changes nothing but the machine, the history and the request to exit. -/
theorem Standard.shell_handler {b : Builtin} (hb : b ∈ registry.builtins) (call : Call)
    (s : Shell) :
    (b.handler call s).2 =
      { s with
        machine := (b.handler call s).2.machine
        history := (b.handler call s).2.history
        exitRequest := (b.handler call s).2.exitRequest } := by
  simp only [registry, List.mem_cons, List.not_mem_nil, or_false] at hb
  rcases hb with rfl | rfl | rfl | rfl | rfl | rfl
  · rfl
  · exact (shell_cd call s).trans (by rw [shell_cd])
  · exact (shell_pwd call s).trans (by rw [shell_pwd])
  · exact (shell_type call s).trans (by rw [shell_type])
  · exact (shell_history call s).trans (by rw [shell_history])
  · exact (shell_exit call s).trans (by rw [shell_exit])

/-- No builtin changes the settings. -/
def Registry.KeepsSettings (registry : Registry) : Prop :=
  ∀ b ∈ registry.builtins, ∀ call s, (b.handler call s).2.settings = s.settings

theorem keepsSettings_standard : Standard.registry.KeepsSettings := by
  intro b hb call s
  rw [Standard.shell_handler hb]

namespace Session

variable {σ : Type} {registry : Registry}

theorem settings_runLine (E : Engine σ) (hkeeps : registry.KeepsSettings) (s : Shell)
    (line : String) : (runLine E registry s line).shell.settings = s.settings := by
  have htext (text : String) : (runText E registry s text).shell.settings = s.settings :=
    frame_runText E (R := fun s t ↦ t.settings = s.settings) (fun h ↦ by rw [h])
      (fun hst htu ↦ htu.trans hst) (fun _ h ↦ h) hkeeps s text
  by_cases hblank : Text.trimString line = ""
  · rw [runLine_blank E registry s hblank]
  · rw [runLine_of_ne E registry s hblank]
    simp only [remember, if_true, record]
    exact htext _

/-! ## What every line keeps -/

/-- Something holds of every line that a loop runs and of the shell that it is run in. -/
def EachLine (E : Engine σ) (registry : Registry) (f : Frontend) (R : Shell → String → Prop)
    (s : Shell) : List Entry → Prop
  | [] => True
  | entry :: rest => s.exitRequest = none →
    (∀ text, entry = .line text → R (showPrompt f s) text) ∧
      ∀ after, enter E registry f (showPrompt f s) entry = (.ok (), after) →
        EachLine E registry f R after rest

/-- What holds of all lines that are entered holds of those that are run. -/
theorem eachLine_of_forall (E : Engine σ) (registry : Registry) (f : Frontend)
    {R : Shell → String → Prop} {entries : List Entry}
    (h : ∀ text, Entry.line text ∈ entries → ∀ s, R s text) (s : Shell) :
    EachLine E registry f R s entries := by
  induction entries generalizing s with
  | nil => trivial
  | cons entry rest ih =>
    intro _
    constructor
    · rintro text rfl
      exact h text List.mem_cons_self _
    · intro after _
      exact ih (fun text htext ↦ h text (List.mem_cons_of_mem entry htext)) after

section Invariant

variable {E : Engine σ} {f : Frontend} {R : Shell → String → Prop} {P : Shell → Prop}

theorem invariant_afterLine (herrors : ∀ s text, P s → P (s.printError text)) {done : LineRun σ}
    (h : P done.shell) : P (afterLine f done).2 := by
  unfold afterLine
  split
  · exact h
  · exact h
  · split
    · exact herrors _ _ h
    · exact h

/-- **What printing and every line keep holds at the end of a loop**, if it held at its
beginning. -/
theorem loop_invariant (hprint : ∀ s text, P s → P (s.print text))
    (herrors : ∀ s text, P s → P (s.printError text))
    (hline : ∀ s text, R s text → P s → P (runLine E registry s text).shell)
    {entries : List Entry} {s : Shell} (hs : P s) (h : EachLine E registry f R s entries) :
    P (loop E registry f s entries).2 := by
  have hprompt : ∀ s, P s → P (showPrompt f s) := by
    intro s hs
    unfold showPrompt
    split
    · exact hprint _ _ hs
    · exact hs
  induction entries generalizing s with
  | nil =>
    rw [loop]
    split_ifs
    · exact hs
    · exact hprompt s hs
  | cons entry rest ih =>
    cases hexit : s.exitRequest with
    | some status =>
      rw [loop_of_exitRequest E registry f (by rw [hexit]; rfl)]
      exact hs
    | none =>
      obtain ⟨hentry, hrest⟩ := h hexit
      -- one entry keeps the invariant, whatever comes after it
      have hentered : P (enter E registry f (showPrompt f s) entry).2 := by
        cases entry with
        | interrupt => exact hprompt s hs
        | line text =>
          exact invariant_afterLine herrors (hline _ _ (hentry text rfl) (hprompt s hs))
      rw [loop, hexit]
      simp only [Option.isSome_none, Bool.false_eq_true, if_false]
      split
      · next after hafter =>
        rw [hafter] at hentered
        exact ih hentered (hrest after hafter)
      · next hafter =>
        rw [hafter] at hentered
        exact hentered

end Invariant

/-! ## Loading and writing -/

section HistoryFile

variable {s t : Shell} {path : String}

/-- A history file that there is not adds nothing, one that can be read adds its entries, and one
that cannot be read is reported. -/
theorem loaded_cases (h : loadHistory s = .ok t) :
    t = s ∨ (∃ message, t = s.report message) ∨
      ∃ path loaded log, HistoryLog.loadable? s.machine path = some loaded ∧
        log.entries = s.history.entries ++ loaded ∧ t = { s with history := log } := by
  unfold loadHistory at h
  split at h
  · cases h
    exact .inl rfl
  · next path _ =>
    split at h
    · cases h
    · cases h
      exact .inl rfl
    · rw [HistoryLog.load_eq] at h
      cases hloadable : HistoryLog.loadable? s.machine path with
      | some loaded =>
        rw [hloadable] at h
        cases h
        exact .inr (.inr ⟨path, loaded, _, hloadable, rfl, rfl⟩)
      | none =>
        simp only [hloadable, Except.map] at h
        split_ifs at h
        · cases h
        · cases h
          exact .inr (.inl ⟨_, rfl⟩)

theorem historyFileExists_of_find {m : Machine} (hnul : Path.hasNul path = false) {file : NodeId}
    (hfind : m.files.find m.cwd path = .ok file) : historyFileExists m path = .ok true := by
  simp only [historyFileExists, hnul, hfind, Bool.false_eq_true, if_false]

/-- The file is there and what it holds is a history: the log has all of it, and counts it as
written. -/
theorem loadHistory_of_read (hpath : s.settings.historyFile = some path)
    (htidy : Path.normalise path = path) (hnul : Path.hasNul path = false) {bytes : ByteArray}
    (hread : s.machine.files.read s.machine.cwd path = .ok bytes) {loaded : List String}
    (hdecode : decodeFile bytes = some loaded) :
    loadHistory s = .ok { s with history := {
      entries := s.history.entries ++ loaded
      persisted := (s.history.entries ++ loaded).length } } := by
  have hexists : historyFileExists s.machine path = .ok true := by
    unfold FileSystem.read at hread
    split at hread
    · cases hread
    · next hfind => exact historyFileExists_of_find hnul hfind
  have hloadable : HistoryLog.loadable? s.machine path = some loaded := by
    simp only [HistoryLog.loadable?, hnul, htidy, hread, Bool.false_eq_true, if_false]
    exact hdecode
  rw [loadHistory, hpath]
  simp only [hexists, HistoryLog.load_eq, hloadable]
  rfl

theorem flushHistory_of_save (hpath : s.settings.historyFile = some path) {log : HistoryLog}
    {m : Machine} (h : s.history.save s.machine path = (.ok log, m)) :
    flushHistory s = .ok { s with history := log, machine := m } := by
  rw [flushHistory, hpath]
  simp only [h]
  rfl

/-- Whether the log could be written or not, which is only reported then, the files are as the save
has left them. -/
theorem exists_flushHistory (hpath : s.settings.historyFile = some path)
    (hnul : Path.hasNul path = false) :
    ∃ t, flushHistory s = .ok t ∧
      t.machine.files = (s.history.save s.machine path).2.files := by
  rw [flushHistory, hpath]
  simp only [HistoryLog.save, hnul, Bool.false_eq_true, if_false]
  split
  · exact ⟨_, rfl, rfl⟩
  · exact ⟨_, rfl, rfl⟩

end HistoryFile

/-! ## Whole sessions -/

/-- A session has loaded its history and gone through its loop; what is left is to write the
history, unless a fault has ended the loop. -/
structure Ran (E : Engine σ) (registry : Registry) (f : Frontend) (entries : List Entry)
    (s loaded last : Shell) (result : Except Fault Unit) : Prop where
  load_eq : loadHistory s = .ok loaded
  loop_eq : loop E registry f loaded entries = (result, last)

theorem Ran.interact_eq {E : Engine σ} {f : Frontend} {entries : List Entry}
    {s loaded last : Shell} {result : Except Fault Unit}
    (h : Ran E registry f entries s loaded last result) :
    interact E registry f s entries =
      match result with
      | .error fault => (.error fault, last)
      | .ok () =>
        match flushHistory last with
        | .error fault => (.error fault, last)
        | .ok final => (.ok final.exitStatus, final) := by
  rw [interact, within, h.load_eq]
  simp only [h.loop_eq]
  cases result with
  | error fault => rfl
  | ok _ =>
    simp only [finish]
    cases flushHistory last <;> rfl

end Session

end CommandShell

import CommandShell.Proofs.Host.RegularFiles
import CommandShell.Proofs.Line.RoundTrip
import CommandShell.Proofs.Session.Calls

/-!
# Output that accumulates in a file

A line like `echo 'a' 'b' >> 'f'` is read, taken apart, run and delivered, and in the end a file has
a few bytes more. For a path that can be opened for writing as a regular file nothing on that way
can go wrong but the write, and nothing else comes of it: the line is one write (`runLine_echo`), and
after a write the path is as good for the next line as it was for this one
(`Machine.HasBytes.of_writeFile`).

What the file has after many lines is then a fold over the lines, in which a line that truncates
forgets all before it (`runLines_accumulate`).
-/

namespace CommandShell

open CommandShell.Host CommandShell.Line

namespace Session

open CommandShell.Pipeline

variable {σ : Type}

/-! ## Lines that write to a file -/

/-- What comes of a line that is one write, by the answer to the write. -/
def outcomeOfWrite : Except Errno Unit → Except Fault Int
  | .ok () => .ok 0
  | .error cause => .error (.system cause)

/-- A line that writes words to a file, in place of what is there or after it. -/
structure EchoLine where
  words : List String
  /-- No word is spelled like an operator. -/
  plain : ∀ word ∈ words, Operator.ofWord? word = none
  spelling : String
  op : Operator
  spells : Operator.ofWord? spelling = some op
  toOutput : op.stream = .output
  /-- Whether the line joins the history. -/
  recorded : Bool := true

namespace EchoLine

/-- What comes after the name of the command. -/
def pieces (l : EchoLine) (path : String) : List Piece :=
  l.words.map .text ++ [.operator l.spelling l.op l.spells, .text path]

/-- The line as it is entered: the words and the path between single quotes, the rest bare. -/
def text (l : EchoLine) (path : String) : String :=
  "echo " ++ renderPieces (l.pieces path)

def command (l : EchoLine) : Command :=
  ⟨"echo", l.words⟩

/-- The text that the line writes. -/
def output (l : EchoLine) : String :=
  " ".intercalate l.words ++ "\n"

/-- The bytes that the line writes. -/
def said (l : EchoLine) : ByteArray :=
  l.output.toUTF8

def reply (l : EchoLine) (s : Shell) : Returned :=
  { status := 0, output := l.output, errors := "", shell := s }

/-- What a file with certain bytes has after the line. -/
def update (data : ByteArray) (l : EchoLine) : ByteArray :=
  (if l.op.append then data else ByteArray.empty) ++ l.said

theorem pieces_ne_nil (l : EchoLine) (path : String) : l.pieces path ≠ [] := by
  simp [pieces]

theorem toList_text (l : EchoLine) (path : String) :
    (l.text path).toList = "echo".toList ++ ' ' :: (renderPieces (l.pieces path)).toList := by
  rw [text, String.toList_append]
  rfl

theorem tight_text (l : EchoLine) (path : String) : Tight (l.text path).toList := by
  have hecho : Tight "echo".toList := by
    refine ⟨by decide, ?_, ?_⟩
    · rintro c ⟨⟩
      rfl
    · rintro c ⟨⟩
      rfl
  rw [toList_text]
  exact hecho.append (tight_renderPieces (l.pieces_ne_nil path)) [' ']

theorem whole_text (l : EchoLine) (path : String) : Whole (l.text path).toList := by
  have hecho : Whole "echo".toList := fun _ _ ↦ rfl
  rw [toList_text]
  exact hecho.append (whole_blank.append (whole_renderPieces _))

theorem tokenize_text (l : EchoLine) (path : String) :
    tokenize (l.text path) = "echo" :: (l.words ++ [l.spelling, path]) := by
  have hwords : Line.words "echo".toList = ["echo".toList] := by decide
  have hpieces := tokenize_renderPieces (l.pieces path)
  rw [tokenize] at hpieces ⊢
  rw [toList_text, words_append_cons (by decide) (by decide), hwords, List.singleton_append,
    List.map_cons, hpieces, String.ofList_toList, pieces, List.map_append, List.map_map]
  congr 2
  exact l.words.map_id

theorem parse_text (l : EchoLine) (path : String) :
    parse (l.text path) =
      .ok { raw := l.text path
            commands := [l.command]
            redirection := { output := some ⟨path, l.op.append⟩ } } := by
  have hset : Redirection.set {} l.op path = { output := some ⟨path, l.op.append⟩ } := by
    rw [Redirection.set, l.toOutput]
  have hextract : extract ("echo" :: (l.words ++ [l.spelling, path])) =
      ("echo" :: l.words, { output := some ⟨path, l.op.append⟩ }) := by
    rw [extract_cons_of_plain (by decide), extract_append_of_plain l.plain,
      extract_operator l.spells, hset]
    simp only [extract, List.append_nil, Redirection.merge_empty]
  rw [parse_of_whole (l.tight_text path) (l.whole_text path), tokenize_text, hextract]
  rfl

theorem output_ne_empty (l : EchoLine) : l.output ≠ "" := by
  intro h
  have hlist := congrArg String.toList h
  rw [output, String.toList_append] at hlist
  exact absurd (List.append_eq_nil_iff.mp hlist).2 (by decide)

theorem get?_command {registry : Registry}
    (hecho : registry.get? "echo" = Standard.registry.get? "echo") (l : EchoLine) :
    registry.get? l.command.name = some Standard.registry.builtins[0] :=
  hecho

theorem returned?_command {registry : Registry}
    (hecho : registry.get? "echo" = Standard.registry.get? "echo") (l : EchoLine) (s : Shell) :
    returned? registry false l.command s = some (l.reply s) := by
  rw [returned?, l.get?_command hecho]
  rfl

theorem deliver_reply (l : EchoLine) {s : Shell} {o : Outlet} {answer : Except Errno Unit}
    {written : Machine} (h : s.machine.write o l.said = (answer, written)) :
    (l.reply s).deliver (some o) none =
      (outcomeOfWrite answer, { s with machine := written }) := by
  rw [said] at h
  simp only [Returned.deliver, reply, Option.getD_none, Option.getD_some, Shell.deliver_errors,
    Shell.printError_empty]
  rw [Shell.deliver, if_neg l.output_ne_empty, h]
  cases answer <;> rfl

end EchoLine

/-! ## One line -/

/-- A single `echo` is one write to the path, if that can be opened. -/
theorem runLine_echo (E : Engine σ) {registry : Registry}
    (hecho : registry.get? "echo" = Standard.registry.get? "echo") {s : Shell} {path : String}
    (hnul : Path.hasNul path = false) (l : EchoLine)
    (hopens : (s.machine.openOutlet path l.op.append).isOk = true) {answer : Except Errno Unit}
    {m' : Machine} (hwrite : s.machine.writeFile path l.op.append l.said = (answer, m')) :
    (runLine E registry s (l.text path) l.recorded).outcome = outcomeOfWrite answer ∧
      (runLine E registry s (l.text path) l.recorded).shell.machine = m' := by
  obtain ⟨opened, o, written, hopen, hsaid, rfl⟩ := Machine.steps_of_writeFile hopens hwrite
  have htargets : openTargets { output := some ⟨path, l.op.append⟩ } s =
      { shell := { s with machine := opened }, output := some o, errors := none } := by
    simp only [openTargets, Shell.openTarget, hopen]
  have hdeliver : (l.reply { s with machine := opened }).deliver (some o) none =
      (outcomeOfWrite answer, { s with machine := written }) := l.deliver_reply hsaid
  have hreply := l.returned?_command hecho { s with machine := opened }
  have hnul' : ∀ stream target,
      Redirection.target? { output := some ⟨path, l.op.append⟩ } stream = some target →
        Path.hasNul target.path = false := by
    intro stream target htarget
    cases stream <;> cases htarget
    exact hnul
  -- the line opens the path, writes once and closes, as writing to it does
  obtain ⟨houtcome, hshell⟩ := runLine_call E (l.parse_text path) hnul' (l.get?_command hecho)
    htargets hreply hdeliver l.recorded
  refine ⟨houtcome, ?_⟩
  rw [hshell]
  cases l.recorded <;> rfl

/-! ## Many lines -/

def runLines (E : Engine σ) (registry : Registry) (s : Shell) :
    List (String × Bool) → Except Fault Shell
  | [] => .ok s
  | (line, recorded) :: rest =>
    match (runLine E registry s line recorded).outcome with
    | .error fault => .error fault
    | .ok _ => runLines E registry (runLine E registry s line recorded).shell rest

/-- The bytes that lines write, one after the other. -/
def saidBy (lines : List EchoLine) : ByteArray :=
  lines.foldr (fun l bytes ↦ l.said ++ bytes) ByteArray.empty

theorem foldl_update_of_append {lines : List EchoLine} (h : ∀ l ∈ lines, l.op.append = true)
    (data : ByteArray) : lines.foldl EchoLine.update data = data ++ saidBy lines := by
  induction lines generalizing data with
  | nil => exact (ByteArray.append_empty).symm
  | cons l lines ih =>
    obtain ⟨hl, hlines⟩ := List.forall_mem_cons.mp h
    rw [List.foldl_cons, ih hlines, EchoLine.update, if_pos hl, ByteArray.append_assoc]
    rfl

theorem foldl_update_of_truncates (before : List EchoLine) {l : EchoLine} {later : List EchoLine}
    (hl : l.op.append = false) (hlater : ∀ l' ∈ later, l'.op.append = true) (data : ByteArray) :
    (before ++ l :: later).foldl EchoLine.update data = saidBy (l :: later) := by
  rw [List.foldl_append, List.foldl_cons, foldl_update_of_append hlater, EchoLine.update, hl]
  simp only [Bool.false_eq_true, if_false, ByteArray.empty_append]
  rfl

/-- Lines that write to a path with a regular file and come to their end change the files and nothing
else of the machine, and the file is what the fold over the lines makes of it. -/
theorem machine_of_runLines (E : Engine σ) {registry : Registry}
    (hecho : registry.get? "echo" = Standard.registry.get? "echo") {s after : Shell}
    {path : String} (hnul : Path.hasNul path = false) {data : ByteArray}
    (h : s.machine.HasBytes path data) {lines : List EchoLine}
    (hrun : runLines E registry s (lines.map fun l ↦ (l.text path, l.recorded)) = .ok after) :
    after.machine = { s.machine with files := after.machine.files } ∧
      after.machine.HasBytes path (lines.foldl EchoLine.update data) ∧
      (lines ≠ [] → after.machine.target? path ≠ none) ∧
      after.machine.files.descriptorNamed? after.machine.cwd path =
        s.machine.files.descriptorNamed? s.machine.cwd path := by
  induction lines generalizing s data with
  | nil =>
    cases hrun
    exact ⟨rfl, h, fun hne ↦ absurd rfl hne, rfl⟩
  | cons l lines ih =>
    rcases hwrite : s.machine.writeFile path l.op.append l.said with ⟨answer, m'⟩
    obtain ⟨houtcome, hmachine⟩ :=
      runLine_echo E hecho hnul l (h.leadsTo.isOk_openOutlet l.op.append) hwrite
    rw [List.map_cons, runLines, houtcome] at hrun
    -- a line whose write was refused is the end of them
    cases answer with
    | error cause => cases hrun
    | ok _ =>
      dsimp only [outcomeOfWrite] at hrun
      obtain ⟨hm, hbytes, hthere, hstream⟩ := h.of_writeFile hwrite
      generalize (runLine E registry s (l.text path) l.recorded).shell = next at hmachine hrun
      rw [← hmachine] at hm hbytes hthere hstream
      obtain ⟨hafter, hlast, hsome, hsame⟩ := ih hbytes hrun
      rw [hm] at hafter
      refine ⟨hafter, hlast, fun _ ↦ ?_, hsame.trans hstream⟩
      -- the file is there after the first line, and after the others if there are any
      cases lines with
      | nil =>
        cases hrun
        exact hthere
      | cons second rest => exact hsome (List.cons_ne_nil second rest)

/-- Where the system refuses nothing, all of them come to their end. -/
theorem exists_runLines (E : Engine σ) {registry : Registry}
    (hecho : registry.get? "echo" = Standard.registry.get? "echo") {s : Shell} {path : String}
    (hnul : Path.hasNul path = false) {data : ByteArray} (h : s.machine.HasBytes path data)
    (htakes : s.machine.files.TakesAll) (lines : List EchoLine) :
    ∃ after,
      runLines E registry s (lines.map fun l ↦ (l.text path, l.recorded)) = .ok after := by
  induction lines generalizing s data with
  | nil => exact ⟨s, rfl⟩
  | cons l lines ih =>
    have hok := h.writeFile_ok htakes l.op.append l.said
    rcases hwrite : s.machine.writeFile path l.op.append l.said with ⟨answer, m'⟩
    rw [hwrite] at hok
    obtain rfl : answer = .ok () := hok
    obtain ⟨houtcome, hmachine⟩ :=
      runLine_echo E hecho hnul l (h.leadsTo.isOk_openOutlet l.op.append) hwrite
    obtain ⟨-, hbytes, -⟩ := h.of_writeFile hwrite
    rw [List.map_cons, runLines, houtcome]
    dsimp only [outcomeOfWrite]
    generalize (runLine E registry s (l.text path) l.recorded).shell = next at hmachine
    rw [← hmachine] at hbytes
    exact ih hbytes (hmachine ▸ Machine.takesAll_writeFile hwrite htakes)

/-- **Redirected output accumulates.** Lines that write words to a path that can be opened for
writing as a regular file all come to their end, unless the system refuses a write, and write nothing
to the shell's own streams. If none of them truncates the file, it has its old bytes and after them
all that was written, in order; otherwise it has what was written by the last line that truncates and
by the lines after it. These bytes are what is read under the path, unless the path is a name of
standard input. -/
theorem runLines_accumulate (E : Engine σ) {registry : Registry}
    (hecho : registry.get? "echo" = Standard.registry.get? "echo") {s : Shell} {path : String}
    (hnul : Path.hasNul path = false) {data : ByteArray} (h : s.machine.HasBytes path data)
    (lines : List EchoLine) :
    (s.machine.files.TakesAll → ∃ after,
      runLines E registry s (lines.map fun l ↦ (l.text path, l.recorded)) = .ok after) ∧
    ∀ after,
      runLines E registry s (lines.map fun l ↦ (l.text path, l.recorded)) = .ok after →
      ∃ content,
        after.machine.output = s.machine.output ∧ after.machine.errors = s.machine.errors ∧
        after.machine.HasBytes path content ∧
        (lines ≠ [] → s.machine.files.descriptorNamed? s.machine.cwd path = none →
          after.machine.files.read after.machine.cwd path = .ok content) ∧
        ((∀ l ∈ lines, l.op.append = true) → content = data ++ saidBy lines) ∧
        ∀ before l later, lines = before ++ l :: later → l.op.append = false →
          (∀ l' ∈ later, l'.op.append = true) → content = saidBy (l :: later) := by
  refine ⟨fun htakes ↦ exists_runLines E hecho hnul h htakes lines, ?_⟩
  intro after hrun
  obtain ⟨hafter, hlast, hthere, hstream⟩ := machine_of_runLines E hecho hnul h hrun
  refine ⟨_, ?_, ?_, hlast, ?_, ?_, ?_⟩
  · rw [hafter]
  · rw [hafter]
  · intro hne hnone
    exact hlast.read_eq (hstream.trans hnone) (hthere hne)
  · intro happend
    exact foldl_update_of_append happend data
  · rintro before l later rfl hl hlater
    exact foldl_update_of_truncates before hl hlater data

theorem ofWord?_appendOutput : Operator.ofWord? "1>>" = some ⟨.output, true⟩ := rfl

/-- Three lines, of which the second truncates. -/
def sampleLines : List EchoLine :=
  [{ words := ["one"], plain := by decide
     spelling := ">>", op := ⟨.output, true⟩, spells := rfl, toOutput := rfl },
    { words := ["it's", "a | b"], plain := by decide
      spelling := "1>", op := ⟨.output, false⟩, spells := rfl, toOutput := rfl, recorded := false },
    { words := [], plain := by decide
      spelling := "1>>", op := ⟨.output, true⟩, spells := ofWord?_appendOutput, toOutput := rfl }]

/-- They leave what the second and the third have to say in a file that was not there. -/
theorem runLines_accumulate_sampleLines :
    Path.hasNul "/out" = false ∧ ({} : Machine).HasBytes "/out" ByteArray.empty ∧
    (sampleLines.map fun l ↦ l.text "/out") =
      ["echo 'one' >> '/out'", "echo 'it'\\''s' 'a | b' 1> '/out'", "echo 1>> '/out'"] ∧
    ∃ after, runLines noPrograms Standard.registry {}
        (sampleLines.map fun l ↦ (l.text "/out", l.recorded)) = .ok after ∧
      after.machine.files.read after.machine.cwd "/out" = .ok "it's a | b\n\n".toUTF8 ∧
      after.machine.output = ByteArray.empty ∧ after.machine.errors = ByteArray.empty := by
  have hecho : Standard.registry.get? "echo" = Standard.registry.get? "echo" := rfl
  have hnul : Path.hasNul "/out" = false := by decide +kernel
  have hbytes : ({} : Machine).HasBytes "/out" ByteArray.empty :=
    (Machine.LeadsTo.vacant locate_out).hasBytes
  have hstream : ({} : Machine).files.descriptorNamed? FileSystem.root "/out" = none :=
    Machine.descriptorNamed?_of_vacant (m := {}) locate_out
  obtain ⟨hends, hcontents⟩ :=
    runLines_accumulate noPrograms hecho (s := {}) hnul hbytes sampleLines
  obtain ⟨after, hrun⟩ := hends nofun
  obtain ⟨content, houtput, herrors, -, hread, -, htruncates⟩ := hcontents after hrun
  have hcontent : content = saidBy (sampleLines.drop 1) :=
    htruncates (sampleLines.take 1) sampleLines[1] (sampleLines.drop 2) rfl rfl (by decide)
  have hsaid : saidBy (sampleLines.drop 1) = "it's a | b\n\n".toUTF8 := by decide +kernel
  rw [hcontent, hsaid] at hread
  exact ⟨hnul, hbytes, by decide, after, hrun, hread (by decide) hstream, houtput, herrors⟩

end Session

end CommandShell

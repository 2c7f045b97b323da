import CommandShell.Command.Standard
import CommandShell.Proofs.Pipeline.Builtins
import CommandShell.Proofs.Text.Lines
import CommandShell.Session.Line

/-!
# Lines that are refused

A line is taken apart, and the meaning of every command name is found, before anything is opened,
started or run. So a line that is refused leaves nothing behind but a message, a status and its
place in the history, however much of it could have been run.

Refusal is decided by the leftmost command without a meaning (`Stage.buildFrom_of_fault`). Looking
for a meaning can itself fail in one corner: the path of the working directory is asked for when a
relative path leads to an executable, and a removed directory has none. Such a name is `Adrift`.
The fault then passes on to the caller and nothing at all is reported.
-/

namespace CommandShell

open CommandShell.Host CommandShell.Line

/-! ## Blank lines -/

namespace Line

theorem parse_trimString (line : String) : parse (Text.trimString line) = parse line := by
  rw [parse, parse, Text.trimString, String.toList_ofList, Text.trim_trim]

theorem trimString_ne_of_parse_error {line : String} {e : ParseError}
    (h : parse line = .error e) : Text.trimString line ≠ "" := by
  intro hblank
  rw [← parse_trimString, hblank] at h
  cases h

theorem trimString_ne_of_parse {line : String} {parsed : ParsedLine} {c : Command}
    (h : parse line = .ok parsed) (hc : c ∈ parsed.commands) : Text.trimString line ≠ "" := by
  intro hblank
  rw [← parse_trimString, hblank] at h
  cases h
  cases hc

end Line

/-! ## What is left of a refused line -/

namespace Session

open CommandShell.Pipeline

variable {σ : Type}

def remember (s : Shell) (line : String) (recorded : Bool) : Shell :=
  if recorded then record s (Text.trimString line) else s

@[simp] theorem exitRequest_remember (s : Shell) (line : String) (recorded : Bool) :
    (remember s line recorded).exitRequest = s.exitRequest := by
  cases recorded <;> rfl

/-- What comes of a line that is refused: no pipeline was run, and of the shell as it was when it
had said why, only the last status and the history are different. -/
def refusal (reported : Shell) (status : Int) (line : String) (recorded : Bool) : LineRun σ where
  outcome := .ok status
  shell := remember { reported with lastStatus := status } line recorded

/-- What comes of a line whose fault passes on to the caller before anything is run. -/
def passedOn (fault : Fault) (s : Shell) (line : String) (recorded : Bool) : LineRun σ where
  outcome := .error fault
  shell := remember s line recorded

theorem runLine_of_ne (E : Engine σ) (registry : Registry) (s : Shell) {line : String}
    (h : Text.trimString line ≠ "") (recorded : Bool) :
    runLine E registry s line recorded =
      { runText E registry s (Text.trimString line) with
        shell := remember (runText E registry s (Text.trimString line)).shell line recorded } := by
  simp only [runLine, if_neg h, remember]
  cases recorded <;> simp only [if_true, Bool.false_eq_true, if_false]

/-- **A refused line leaves nothing behind but a message, a status and its place in the history.**
It is refused if it is no pipeline, or if a command name in it means nothing; the leftmost such name
is reported. Only if a name to the left of it is adrift is there no report: the fault of that name
passes on. -/
theorem runLine_refused (E : Engine σ) (registry : Registry) (s : Shell) (line : String)
    (recorded : Bool) :
    (∀ e, parse line = .error e →
      runLine E registry s line recorded =
        refusal (s.report e.message) parseErrorStatus line recorded) ∧
    (∀ parsed, parse line = .ok parsed →
      (∃ c ∈ parsed.commands,
        Command.meaningOf registry.registered s.machine c.name = .ok .unknown) →
      ∃ before c after, parsed.commands = before ++ c :: after ∧
        (∀ b ∈ before, ∃ meaning,
          Command.meaningOf registry.registered s.machine b.name = .ok meaning ∧
            meaning ≠ .unknown) ∧
        (Command.meaningOf registry.registered s.machine c.name = .ok .unknown ∧
            runLine E registry s line recorded =
              refusal (s.print (c.name ++ ": command not found\n")) notFoundStatus line recorded ∨
          Command.Adrift registry.registered s.machine c.name ∧
            runLine E registry s line recorded =
              passedOn .workingDirectoryGone s line recorded)) := by
  constructor
  · intro e hparse
    rw [runLine_of_ne E registry s (trimString_ne_of_parse_error hparse), runText,
      parse_trimString, hparse]
    simp only [settled, refusal]
  · rintro parsed hparse ⟨unknown, hunknown, hmeaning⟩
    have hfault : Stage.workOf registry s.machine unknown.name =
        .error (.commandNotFound unknown.name) := by
      rw [Stage.workOf, hmeaning]
    obtain ⟨before, c, after, hsplit, hbefore, fault, hc⟩ :=
      Stage.exists_leftmost hunknown hfault
    refine ⟨before, c, after, hsplit, fun b hb ↦ Stage.workOf_ok_iff.mp (hbefore b hb), ?_⟩
    -- no stage is built, so the answer is the one for this fault
    have hbuild : buildStages registry s.machine parsed.commands = .error fault := by
      rw [hsplit]
      exact Stage.buildFrom_of_fault hbefore hc 0 _
    rw [runLine_of_ne E registry s (trimString_ne_of_parse hparse hunknown), runText,
      parse_trimString, hparse]
    simp only [hbuild]
    obtain ⟨rfl, hmeaning⟩ | ⟨rfl, hadrift⟩ := Stage.fault_of_workOf hc
    · have hmessage : (Fault.commandNotFound c.name).message ++ "\n" =
          c.name ++ ": command not found\n" :=
        String.append_assoc ..
      exact .inl ⟨hmeaning, by simp only [hmessage, settled, refusal]⟩
    · exact .inr ⟨hadrift, by simp only [passedOn]⟩

/-! ### Two lines that are refused -/

/-- A line that could run in part, and that names a file for its output. -/
def halfKnown : String := "echo hi | zzz > /out"

theorem parse_halfKnown : parse halfKnown = .ok {
    raw := halfKnown
    commands := [⟨"echo", ["hi"]⟩, ⟨"zzz", []⟩]
    redirection := toOut } :=
  rfl

/-- Nothing is run of it and no file is made for it. -/
theorem runLine_refused_halfKnown :
    (∃ c ∈ [(⟨"echo", ["hi"]⟩ : Command), ⟨"zzz", []⟩],
      Command.meaningOf Standard.registry.registered ({} : Machine) c.name = .ok .unknown) ∧
    runLine noPrograms Standard.registry {} halfKnown true =
      refusal (({} : Shell).print "zzz: command not found\n") notFoundStatus halfKnown true := by
  have hzzz : Command.meaningOf Standard.registry.registered ({} : Machine) "zzz" =
      .ok .unknown := rfl
  have hunknown : ∃ c ∈ [(⟨"echo", ["hi"]⟩ : Command), ⟨"zzz", []⟩],
      Command.meaningOf Standard.registry.registered ({} : Machine) c.name = .ok .unknown :=
    ⟨⟨"zzz", []⟩, by simp, hzzz⟩
  refine ⟨hunknown, ?_⟩
  obtain ⟨before, c, after, hsplit, -, hc⟩ :=
    (runLine_refused noPrograms Standard.registry {} halfKnown true).2 _ parse_halfKnown hunknown
  -- `echo` is a builtin, so the name that decides is the other one
  have hecho : c.name ≠ "echo" := by
    intro hname
    rw [hname] at hc
    obtain ⟨hmeaning, -⟩ | ⟨hadrift, -⟩ := hc
    · cases hmeaning
    · exact absurd hadrift.not_registered (by decide)
  have hmem : c ∈ [(⟨"echo", ["hi"]⟩ : Command), ⟨"zzz", []⟩] := by
    have hmem := List.mem_append_right before (List.mem_cons_self (a := c) (l := after))
    rwa [← hsplit] at hmem
  obtain rfl : c = ⟨"zzz", []⟩ := by
    rcases List.mem_cons.mp hmem with rfl | hmem
    · exact absurd rfl hecho
    · exact List.mem_singleton.mp hmem
  obtain ⟨-, hrun⟩ | ⟨hadrift, -⟩ := hc
  · exact hrun
  · exact absurd hadrift.hasSlash (by decide +kernel)

/-- There a line with an unknown command need not be reported: a name that is adrift comes before
it. -/
theorem runLine_stranded :
    (∃ parsed, parse "../tool | zzz" = .ok parsed ∧ ∃ c ∈ parsed.commands,
      Command.meaningOf Standard.registry.registered stranded.machine c.name = .ok .unknown) ∧
    (runLine noPrograms Standard.registry stranded "../tool | zzz").outcome =
      .error .workingDirectoryGone ∧
    (runLine noPrograms Standard.registry stranded "../tool | zzz").shell =
      record stranded "../tool | zzz" := by
  have hparse : parse "../tool | zzz" = .ok {
      raw := "../tool | zzz", commands := [⟨"../tool", []⟩, ⟨"zzz", []⟩] } := rfl
  have hzzz : Command.meaningOf Standard.registry.registered stranded.machine "zzz" =
      .ok .unknown := rfl
  have hfind : stranded.machine.files.find stranded.machine.cwd "../tool" = .ok 1 :=
    FileSystem.find_of_leads 2 ["..", "tool"] (by decide +kernel)
      (.node rfl nofun (.node rfl nofun (.nil 1))) (by decide)
  have hlook : stranded.machine.files.lookUp stranded.machine.cwd "../tool" =
      .ok (1, .file 0o755 ByteArray.empty) := FileSystem.lookUp_eq_ok_iff.mpr ⟨hfind, rfl⟩
  have hexecutable : Command.isExecutable stranded.machine "../tool" = true := by
    rw [Command.isExecutable, FileSystem.isFile, FileSystem.isAccessible, FileSystem.holds,
      FileSystem.holds, hlook]
    decide +kernel
  have hwork : Stage.workOf Standard.registry stranded.machine "../tool" =
      .error .workingDirectoryGone := by
    have hslash : Path.hasSlash "../tool" = true := by decide +kernel
    have hrelative : Path.isAbsolute "../tool" = false := by decide +kernel
    have hfound : Command.findExecutable stranded.machine "../tool" =
        .error .workingDirectoryGone := by
      rw [Command.findExecutable, if_neg (by decide), if_pos hslash, if_pos hexecutable, hrelative]
      rfl
    have hregistered : Standard.registry.registered.contains "../tool" = false := by decide
    rw [Stage.workOf, Command.meaningOf, hregistered, hfound]
    rfl
  have hbuild : buildStages Standard.registry stranded.machine
      [⟨"../tool", []⟩, ⟨"zzz", []⟩] = .error .workingDirectoryGone := by
    rw [buildStages, Stage.buildFrom, hwork]
  have htrim : Text.trimString "../tool | zzz" = "../tool | zzz" := by decide +kernel
  have hrun : runLine noPrograms Standard.registry stranded "../tool | zzz" =
      { outcome := .error .workingDirectoryGone, shell := record stranded "../tool | zzz" } := by
    rw [runLine, htrim, if_neg (by decide), runText, hparse]
    simp only [hbuild, if_true]
  rw [hrun]
  exact ⟨⟨_, hparse, ⟨"zzz", []⟩, by simp, hzzz⟩, rfl, rfl⟩

end Session

end CommandShell

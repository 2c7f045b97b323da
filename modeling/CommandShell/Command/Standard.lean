import CommandShell.Command.Builtin
import CommandShell.Command.Executable
import CommandShell.Text.Integer

/-!
# The standard builtins

`echo`, `cd`, `pwd`, `type`, `history` and `exit`. Most of what they have to say goes to standard
output, complaints included; only `history` and `exit` use standard error.
-/

namespace CommandShell.Standard

open CommandShell.Host CommandShell.Text

/-- The status for a call with wrong arguments. -/
def usageStatus : Int := 2

/-- Where `~` leads when the environment does not say. -/
def fallbackHome : String := "/root"

/-- The directory that `~` stands for: the home directory without slashes at its end. -/
def homeDirectory (m : Machine) : Except Fault String :=
  let named := Path.dropEndSlashes ((m.environment.get? "HOME").getD fallbackHome)
  let home := if named = "" then "/" else named
  if home.toList.head? = some '~' then .error .noHomeDirectory else .ok home

/-- The directory that the argument of `cd` names: `~` at its start, alone or before a slash, is the
home directory. -/
def changeTarget (m : Machine) (raw : String) : Except Fault String :=
  if raw = "~" || "~/".toList.isPrefixOf raw.toList then
    match homeDirectory m with
    | .error fault => .error fault
    | .ok home =>
      .ok (Path.normalise (Path.join home (String.intercalate "/" (Path.parts raw).tail)))
  else .ok (Path.normalise raw)

/-- Writes the arguments with a space between them. -/
def echo (c : Call) (s : Shell) : Reply × Shell :=
  (.returned 0 (String.intercalate " " c.args ++ "\n") "", s)

/-- Changes the working directory. -/
def cd (c : Call) (s : Shell) : Reply × Shell :=
  match c.args with
  | [] => (.returned 1 "cd: missing argument\n" "", s)
  | raw :: _ =>
    match changeTarget s.machine raw with
    | .error fault => (.raised fault, s)
    | .ok path =>
      if Path.hasNul path then (.raised .embeddedNul, s)
      else match s.machine.changeDirectory path with
        | .ok m => (.returned 0 "" "", { s with machine := m })
        | .error _ => (.returned 1 ("cd: " ++ raw ++ ": No such file or directory\n") "", s)

/-- Writes the path of the working directory. -/
def pwd (_ : Call) (s : Shell) : Reply × Shell :=
  match s.machine.workingDirectory? with
  | some path => (.returned 0 (path ++ "\n") "", s)
  | none => (.raised .workingDirectoryGone, s)

/-- What `type` writes about a name, and whether the name means anything. -/
def describe (registered : List String) (m : Machine) (name : String) :
    Except Fault (String × Bool) :=
  match Command.meaningOf registered m name with
  | .error fault => .error fault
  | .ok (.external path) => .ok (name ++ " is " ++ path ++ "\n", true)
  | .ok .builtin => .ok (name ++ " is a shell builtin\n", true)
  | .ok .unknown => .ok (name ++ ": not found\n", false)

/-- What `type` writes about names in order, and whether all of them mean something. A failure comes
with what was written about the names before it. -/
def describeAll (registered : List String) (m : Machine) :
    List String → Except (Fault × String) (String × Bool)
  | [] => .ok ("", true)
  | name :: rest =>
    match describe registered m name with
    | .error fault => .error (fault, "")
    | .ok (text, known) =>
      match describeAll registered m rest with
      | .error (fault, texts) => .error (fault, text ++ texts)
      | .ok (texts, allKnown) => .ok (text ++ texts, known && allKnown)

/-- Says what each argument stands for as a command name. -/
def type (c : Call) (s : Shell) : Reply × Shell :=
  match describeAll c.registered s.machine c.args with
  | .error (fault, text) => (.raised fault text, s)
  | .ok (text, allKnown) => (.returned (if allKnown then 0 else 1) text "", s)

/-- One line of a history listing. -/
def listEntry (e : Nat × String) : String :=
  "    " ++ toString e.1 ++ "  " ++ e.2 ++ "\n"

def replyToFileUse (used : Except Fault Unit) : Reply :=
  match used with
  | .ok () => .returned 0 "" ""
  | .error (.history fault) => .returned 1 "" (fault.message ++ "\n")
  | .error fault => .raised fault

/-- The shell after a history file was read (`-r`), written (`-w`) or appended to (`-a`), and whether
that went well. -/
def useHistoryFile (s : Shell) (flag path : String) : Except Fault Unit × Shell :=
  if flag = "-r" then
    match s.history.load s.machine path with
    | .ok (history, _) => (.ok (), { s with history })
    | .error fault => (.error fault, s)
  else
    match if flag = "-w" then s.history.save s.machine path
      else s.history.appendUnsaved s.machine path with
    | (.ok history, machine) => (.ok (), { s with history, machine })
    | (.error fault, machine) => (.error fault, { s with machine })

/-- Lists the history, or moves it from or to a file. -/
def history (c : Call) (s : Shell) : Reply × Shell :=
  let listing := fun (count : Option Int) ↦
    (Reply.returned 0 (String.join ((s.history.tail count).map listEntry)) "", s)
  match c.args with
  | [] => listing none
  | first :: rest =>
    if ["-r", "-w", "-a"].contains first then
      match rest with
      | [] =>
        (.returned usageStatus "" ("history: " ++ first ++ ": option requires an argument\n"), s)
      | path :: _ =>
        let used := useHistoryFile s first path
        (replyToFileUse used.1, used.2)
    else match readIntegerString first with
      | some count => listing (some count)
      | none =>
        (.returned usageStatus "" ("history: " ++ first ++ ": numeric argument required\n"), s)

/-- The status that the arguments of `exit` ask for. -/
def exitArgument (args : List String) : Except String Int :=
  match args with
  | [] => .ok 0
  | first :: _ =>
    match readIntegerString first with
    | some status => .ok status
    | none => .error ("exit: " ++ first ++ ": numeric argument required\n")

/-- Asks the shell to end. As one stage of several it only answers the status. -/
def exit (c : Call) (s : Shell) : Reply × Shell :=
  match exitArgument c.args with
  | .error complaint => (.returned usageStatus "" complaint, s)
  | .ok status =>
    (.returned status "" "", if c.inPipeline then s else { s with exitRequest := some status })

/-! ## What they change -/

theorem shell_cd (call : Call) (s : Shell) :
    (cd call s).2 = { s with machine := (cd call s).2.machine } := by
  unfold cd
  repeat' split
  all_goals rfl

theorem shell_pwd (call : Call) (s : Shell) : (pwd call s).2 = s := by
  unfold pwd
  split <;> rfl

theorem shell_type (call : Call) (s : Shell) : (type call s).2 = s := by
  unfold type
  split <;> rfl

theorem shell_useHistoryFile (s : Shell) (flag path : String) :
    (useHistoryFile s flag path).2 =
      { s with
        machine := (useHistoryFile s flag path).2.machine
        history := (useHistoryFile s flag path).2.history } := by
  unfold useHistoryFile
  repeat' split
  all_goals rfl

theorem shell_history (call : Call) (s : Shell) :
    (history call s).2 =
      { s with
        machine := (history call s).2.machine
        history := (history call s).2.history } := by
  unfold history
  dsimp only
  repeat' split
  all_goals first | rfl | exact shell_useHistoryFile ..

theorem shell_exit (call : Call) (s : Shell) :
    (exit call s).2 = { s with exitRequest := (exit call s).2.exitRequest } := by
  unfold exit
  split
  · rfl
  · dsimp only
    split <;> rfl

/-! ## The registry -/

/-- The registry of the standard builtins. -/
def registry : Registry :=
  ⟨[⟨"echo", echo, fun _ _ ↦ rfl⟩, ⟨"cd", cd, fun call s ↦ by rw [shell_cd]⟩,
    ⟨"pwd", pwd, fun call s ↦ by rw [shell_pwd]⟩, ⟨"type", type, fun call s ↦ by rw [shell_type]⟩,
    ⟨"history", history, fun call s ↦ by rw [shell_history]⟩,
    ⟨"exit", exit, fun call s ↦ by rw [shell_exit]⟩]⟩

end CommandShell.Standard

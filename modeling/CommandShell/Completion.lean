import CommandShell.Command.Builtin
import CommandShell.Command.Executable
import CommandShell.Text.Blank

/-!
# Completion

What can be offered at the prompt: the names of commands that begin with the text before the cursor,
and the earlier lines of the session. Only the first word of a line is completed, so nothing is
offered once the text has a blank in it.
-/

namespace CommandShell.Completion

open CommandShell.Host

/-- Names in the order of their code points, each once. -/
def sorted (names : List String) : List String :=
  names.eraseDups.mergeSort fun a b ↦ !decide (b < a)

def entriesOf (m : Machine) (beginning directory : String) : List String :=
  match m.files.list m.cwd directory with
  | .error _ => []
  | .ok names => names.filter fun name ↦
      beginning.toList.isPrefixOf name.toList &&
        m.files.isAccessible m.cwd (Path.join directory name)

/-- The names of commands that begin with a text: builtins, and what may be executed in the
directories of a search path. -/
def candidates (r : Registry) (m : Machine) (beginning : String)
    (searchPath : Option String := none) : List String :=
  let builtins := r.registered.filter fun name ↦ beginning.toList.isPrefixOf name.toList
  let found := (Command.directories (searchPath.getD m.searchPath)).flatMap (entriesOf m beginning)
  sorted (builtins ++ found)

/-- One completion that is offered. -/
structure Offer where
  /-- What takes the place of the text before the cursor. -/
  inserted : String
  /-- How many characters before the cursor it replaces. -/
  replaced : Nat
  /-- What the list of offers shows. -/
  display : String
  deriving DecidableEq, Repr, Inhabited

/-- The completions for the text before the cursor; a lone one is followed by a space. -/
def complete (r : Registry) (m : Machine) (before : String) : List Offer :=
  if before.toList.any Text.isBlank then []
  else
    let names := candidates r m before
    let ending := if names.length = 1 then " " else ""
    names.map fun name ↦ ⟨name ++ ending, before.length, name⟩

/-- The lines that can be recalled, newest first. -/
def recalled (log : HistoryLog) : List String :=
  log.entries.reverse

end CommandShell.Completion

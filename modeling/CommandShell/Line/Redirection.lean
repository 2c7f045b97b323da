/-!
# Redirections

A redirection sends the standard output or the standard error of a pipeline's last stage to a file.
Six words of a line act as operators, and each takes the word after it as its target. Of several
operators for one stream the last one counts, within a segment and across segments alike.

Operators are recognised among finished words, after the quotes are gone, so a quoted operator is
an operator too.
-/

namespace CommandShell.Line

/-- The two streams that can be redirected. -/
inductive Stream
  | output
  | errors
  deriving DecidableEq, Repr, Inhabited

/-- A redirection operator: the stream it is for and whether the file is appended to. -/
structure Operator where
  stream : Stream
  append : Bool
  deriving DecidableEq, Repr, Inhabited

def Operator.spellings : List (String × Operator) :=
  [(">", ⟨.output, false⟩), ("1>", ⟨.output, false⟩), (">>", ⟨.output, true⟩),
    ("1>>", ⟨.output, true⟩), ("2>", ⟨.errors, false⟩), ("2>>", ⟨.errors, true⟩)]

def Operator.ofWord? (word : String) : Option Operator :=
  Operator.spellings.lookup word

/-- The file that a stream goes to. -/
structure Target where
  path : String
  /-- Whether the file keeps what it holds. -/
  append : Bool := false
  deriving DecidableEq, Repr, Inhabited

/-- Where the last stage of a pipeline writes; a stream without a target keeps its place. -/
structure Redirection where
  output : Option Target := none
  errors : Option Target := none
  deriving DecidableEq, Repr, Inhabited

namespace Redirection

/-- Whether neither stream has a target. -/
def isEmpty (r : Redirection) : Bool :=
  r.output.isNone && r.errors.isNone

/-- One redirection laid over another: for each stream the later target counts. -/
def merge (earlier later : Redirection) : Redirection where
  output := later.output <|> earlier.output
  errors := later.errors <|> earlier.errors

/-- The redirection with a new target for the operator's stream. -/
def set (r : Redirection) (op : Operator) (path : String) : Redirection :=
  match op.stream with
  | .output => { r with output := some ⟨path, op.append⟩ }
  | .errors => { r with errors := some ⟨path, op.append⟩ }

@[simp] theorem merge_empty (r : Redirection) : r.merge {} = r := by
  cases r; simp [merge]

@[simp] theorem empty_merge (r : Redirection) : Redirection.merge {} r = r := by
  cases r; simp [merge]

theorem merge_assoc (a b c : Redirection) : (a.merge b).merge c = a.merge (b.merge c) := by
  simp [merge, Option.orElse_eq_or, Option.or_assoc]

end Redirection

/-- The words that are no part of a redirection, and what the redirections say in all. An operator
that is the last word has no target and stays a plain word. -/
def extract : List String → List String × Redirection
  | [] => ([], {})
  | [word] => ([word], {})
  | word :: next :: rest =>
    match Operator.ofWord? word with
    | some op =>
      let found := extract rest
      (found.1, (Redirection.set {} op next).merge found.2)
    | none =>
      let found := extract (next :: rest)
      (word :: found.1, found.2)

end CommandShell.Line

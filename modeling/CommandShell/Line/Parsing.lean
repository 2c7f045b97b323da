import CommandShell.Line.Redirection
import CommandShell.Line.Segments
import CommandShell.Line.Words

/-!
# Parsing a line

A line is trimmed, cut at its pipes, and each segment becomes a command: its first word is the
name, the others are the arguments. Redirections of any segment are those of the whole pipeline.

There are two ways to fail, both a segment without a word: a line that is nothing but
redirections lacks its command, and any other empty segment makes the pipe next to it unexpected.
-/

namespace CommandShell.Line

open CommandShell.Text

/-- A command with its redirections removed. -/
structure Command where
  name : String
  arguments : List String := []
  deriving DecidableEq, Repr, Inhabited

/-- The words that a command is run with. -/
def Command.argv (c : Command) : List String :=
  c.name :: c.arguments

/-- A line taken apart. -/
structure ParsedLine where
  /-- The trimmed line. -/
  raw : String
  /-- The commands of the pipeline; none for a blank line. -/
  commands : List Command
  /-- What the redirections of all segments say together. -/
  redirection : Redirection := {}
  deriving DecidableEq, Repr, Inhabited

/-- Whether there is nothing to run. -/
def ParsedLine.isEmpty (p : ParsedLine) : Bool :=
  p.commands.isEmpty

/-- Why a line is no pipeline. -/
inductive ParseError
  /-- The line consists of redirections only. -/
  | missingCommand
  /-- A segment between pipes has no word. -/
  | unexpectedPipe
  deriving DecidableEq, Repr, Inhabited

def ParseError.message : ParseError → String
  | .missingCommand => "shell: syntax error: missing command"
  | .unexpectedPipe => "shell: syntax error near unexpected token '|'"

/-- The command of one segment and its redirections; `alone` says that it is the only segment. -/
def parseSegment (alone : Bool) (segment : List Char) :
    Except ParseError (Command × Redirection) :=
  match extract ((words segment).map String.ofList) with
  | ([], redirection) =>
    .error (if alone && !redirection.isEmpty then .missingCommand else .unexpectedPipe)
  | (name :: arguments, redirection) => .ok (⟨name, arguments⟩, redirection)

def parseSegments (alone : Bool) :
    List (List Char) → Except ParseError (List Command × Redirection)
  | [] => .ok ([], {})
  | segment :: rest =>
    match parseSegment alone segment with
    | .error e => .error e
    | .ok (command, redirection) =>
      match parseSegments alone rest with
      | .error e => .error e
      | .ok (commands, later) => .ok (command :: commands, redirection.merge later)

def parse (line : String) : Except ParseError ParsedLine :=
  match trim line.toList with
  | [] => .ok { raw := "", commands := [] }
  | c :: cs =>
    let pieces := segments (c :: cs)
    match parseSegments (pieces.length == 1) pieces with
    | .error e => .error e
    | .ok (commands, redirection) => .ok { raw := String.ofList (c :: cs), commands, redirection }

end CommandShell.Line

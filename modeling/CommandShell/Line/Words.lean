import CommandShell.Line.Quoting
import CommandShell.Text.Blank

/-!
# Words

Splitting a line into words is one left fold over its characters. `Scan` carries the quoting mode,
the word that is open and the words that are finished; `Scan.step` reads one character and
`Scan.finish` closes what the end of the line leaves open. No line is refused: an open quotation is
closed at the end, and a lone backslash at the end outside quotes stands for nothing.

A word can be open and still empty, which is how a quoted empty text becomes a word.
-/

namespace CommandShell.Line

open CommandShell.Text

/-- The words of a line as far as it has been read. -/
structure Scan where
  /-- What is open at this point. -/
  mode : Mode := .bare
  /-- The open word, last character first; none between words. -/
  word : Option (List Char) := none
  /-- The finished words, last word first. -/
  done : List (List Char) := []
  deriving DecidableEq, Repr, Inhabited

namespace Scan

/-- Opens a word unless one is open. -/
def touch (s : Scan) : Scan :=
  { s with word := some (s.word.getD []) }

/-- Adds a character to the open word, and opens one if need be. -/
def push (s : Scan) (c : Char) : Scan :=
  { s with word := some (c :: s.word.getD []) }

/-- Finishes the open word. -/
def close (s : Scan) : Scan :=
  match s.word with
  | none => s
  | some w => { s with word := none, done := w.reverse :: s.done }

/-- What one character inside double quotes does to the words. -/
def takeDouble (s : Scan) (c : Char) : Scan :=
  if isEscapable c then s else s.push c

/-- What one character does to the words, before the mode moves on. -/
def take (s : Scan) (c : Char) : Scan :=
  match s.mode with
  | .bare =>
    if c = '\\' then s
    else if c = '\'' ∨ c = '"' then s.touch
    else if isBlank c then s.close
    else s.push c
  | .escaped => s.push c
  | .single => if c = '\'' then s else s.push c
  | .double => s.takeDouble c
  | .doubleEscaped => if isEscapable c then s.push c else (s.push '\\').takeDouble c

def step (s : Scan) (c : Char) : Scan :=
  { s.take c with mode := s.mode.next c }

/-- The words when the line ends here. A backslash that waits inside double quotes stands for
itself. -/
def finish (s : Scan) : List (List Char) :=
  let t := if s.mode = .doubleEscaped then s.push '\\' else s
  t.close.done.reverse

end Scan

/-- The scan of a text from its beginning. -/
def Scan.of (cs : List Char) : Scan :=
  cs.foldl Scan.step {}

/-- The words of a text, in order. -/
def words (cs : List Char) : List (List Char) :=
  (Scan.of cs).finish

/-- The words of a line, in order. -/
def tokenize (line : String) : List String :=
  (words line.toList).map String.ofList

end CommandShell.Line

import CommandShell.Text.Lines
import CommandShell.Text.Blank
import CommandShell.Text.Utf8

/-!
# The history file format

A history file is text with one entry a line. Reading it trims every line and drops the blank ones,
whatever ends the lines; writing it ends every entry with a line feed and changes nothing else. So
an entry comes back as it was exactly if it is clean: not empty, trimmed, and without a line end.
-/

namespace CommandShell.History

open CommandShell.Text

def entriesOf (text : List Char) : List (List Char) :=
  ((lines text).map trim).filter fun entry ↦ !entry.isEmpty

def textOf (entries : List (List Char)) : List Char :=
  entries.flatMap fun entry ↦ entry ++ ['\n']

/-- An entry that the format gives back as it is. -/
def IsClean (entry : List Char) : Prop :=
  entry ≠ [] ∧ trim entry = entry ∧ '\n' ∉ entry ∧ '\r' ∉ entry

instance (entry : List Char) : Decidable (IsClean entry) :=
  inferInstanceAs (Decidable (_ ∧ _ ∧ _ ∧ _))

/-- The entries of a history file; none at all if its bytes are no text. -/
def decodeFile (bytes : ByteArray) : Option (List String) :=
  (decode? bytes).map fun text ↦ (entriesOf text.toList).map String.ofList

/-- The bytes of a history file with these entries. -/
def encodeFile (entries : List String) : ByteArray :=
  (String.ofList (textOf (entries.map String.toList))).toUTF8

end CommandShell.History

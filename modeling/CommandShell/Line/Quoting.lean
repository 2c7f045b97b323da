/-!
# Quoting

What the scan for words has open at a place of a line: nothing, a backslash outside quotes, a single
quotation, a double quotation, or a backslash inside a double quotation.

Inside single quotes every character stands for itself. Inside double quotes a backslash takes only
a double quote or another backslash with it; before any other character it stands for itself, and
that character is read as if no backslash were there. A quotation that is still open at the end of
the line ends there.
-/

namespace CommandShell.Line

/-- What the characters read so far leave open. -/
inductive Mode
  /-- No quotation is open. -/
  | bare
  /-- A backslash outside quotes waits for the character it escapes. -/
  | escaped
  /-- Inside single quotes. -/
  | single
  /-- Inside double quotes. -/
  | double
  /-- A backslash inside double quotes waits for the character after it. -/
  | doubleEscaped
  deriving DecidableEq, Repr, Inhabited

/-- The characters that a backslash takes with it inside double quotes. -/
def isEscapable (c : Char) : Bool :=
  c = '"' || c = '\\'

/-- The mode after one more character inside double quotes. -/
def Mode.inDouble (c : Char) : Mode :=
  if c = '"' then .bare
  else if c = '\\' then .doubleEscaped
  else .double

def Mode.next : Mode → Char → Mode
  | .bare, c =>
    if c = '\\' then .escaped
    else if c = '\'' then .single
    else if c = '"' then .double
    else .bare
  | .escaped, _ => .bare
  | .single, c => if c = '\'' then .bare else .single
  | .double, c => Mode.inDouble c
  | .doubleEscaped, c => if isEscapable c then .double else Mode.inDouble c

def Mode.after (m : Mode) (cs : List Char) : Mode :=
  cs.foldl Mode.next m

@[simp] theorem Mode.after_cons (m : Mode) (c : Char) (cs : List Char) :
    m.after (c :: cs) = (m.next c).after cs := rfl

theorem Mode.after_append (m : Mode) (cs ds : List Char) :
    m.after (cs ++ ds) = (m.after cs).after ds :=
  List.foldl_append

end CommandShell.Line

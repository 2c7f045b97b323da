import CommandShell.Host.Environment
import CommandShell.Text.Blank
import CommandShell.Text.Lines

/-!
# Environment files

A `.env` file holds bindings, one statement after the other:

* `NAME=value`, with `export` in front or not, with or without spaces around the equals sign;
* `NAME` alone, which names a variable without giving it a value;
* comments from `#` to the end of the line.

A value in single quotes stands for itself, a value in double quotes may hold the usual backslash
escapes, and both may go over several lines. A backslash always keeps the character after it from
closing the quotes. Any other value ends at the end of its line or before a comment that follows a
blank; the blanks after the equals sign count for that. A statement that cannot be read is skipped
up to the end of its line, and the file's reader hears of it.

After that, `${NAME}` and `${NAME:-text}` in a value stand for the value of another variable. A
byte order mark at the start of the file belongs to no statement.
-/

namespace CommandShell.Settings.DotEnv

open CommandShell.Text CommandShell.Host

/-- A blank that does not end a line. -/
def isInlineBlank (c : Char) : Bool :=
  isBlank c && c != '\n' && c != '\r'

/-- Neither of the characters that end a line. -/
def isInline (c : Char) : Bool :=
  c != '\n' && c != '\r'

/-- What a file says at one place. -/
inductive Statement
  /-- A variable is named, and perhaps given a value. -/
  | binding (name : List Char) (value : Option (List Char))
  /-- There is a comment, or nothing. -/
  | remark
  /-- It cannot be read. -/
  | unreadable
  deriving DecidableEq, Repr, Inhabited

/-- What one kind of quoted value looks like: the quote, and what an escaped character stands
for. -/
structure Quotes where
  quote : Char
  escape : Char → Option Char

def singleQuotes : Quotes where
  quote := '\''
  escape c := if c = '\\' ∨ c = '\'' then some c else none

/-- Double quotes: the backslash escapes of control characters as well. -/
def doubleQuotes : Quotes where
  quote := '"'
  escape
    | '\\' => some '\\'
    | '\'' => some '\''
    | '"' => some '"'
    | 'a' => some '\x07'
    | 'b' => some '\x08'
    | 'f' => some '\x0c'
    | 'n' => some '\n'
    | 'r' => some '\r'
    | 't' => some '\t'
    | 'v' => some '\x0b'
    | _ => none

/-- The text with its escapes replaced; a backslash that escapes nothing stays. -/
def Quotes.unescape (q : Quotes) : List Char → List Char
  | [] => []
  | [c] => [c]
  | c :: d :: rest =>
    if c = '\\' then
      match q.escape d with
      | some e => e :: q.unescape rest
      | none => c :: q.unescape (d :: rest)
    else c :: q.unescape (d :: rest)

/-- The text up to the closing quote and the text after it. A character after a backslash closes
nothing. -/
def Quotes.close (q : Quotes) : List Char → Option (List Char × List Char)
  | [] => none
  | '\\' :: c :: rest => (q.close rest).map fun found ↦ ('\\' :: c :: found.1, found.2)
  | c :: rest =>
    if c = q.quote then some ([], rest)
    else (q.close rest).map fun found ↦ (c :: found.1, found.2)

/-- The value without a comment that follows a blank. -/
def dropComment : List Char → List Char
  | [] => []
  | c :: rest =>
    if isBlank c then
      match rest.dropWhile isBlank with
      | '#' :: _ => []
      | _ => c :: dropComment rest
    else c :: dropComment rest

/-- The value that is written after an equals sign and the text after it; none if a quote is not
closed. -/
def readValue (cs : List Char) : Option (List Char × List Char) :=
  let quoted := fun (q : Quotes) (rest : List Char) ↦
    (q.close rest).map fun found ↦ (q.unescape found.1, found.2)
  match cs.dropWhile isInlineBlank with
  | '\'' :: rest => quoted singleQuotes rest
  | '"' :: rest => quoted doubleQuotes rest
  | _ => some (trim (dropComment (cs.takeWhile isInline)), cs.dropWhile isInline)

/-- The name that begins here and the text after it: no name before a comment, and a refusal where
neither can begin. -/
def readName (cs : List Char) : Option (Option (List Char) × List Char) :=
  match cs with
  | '#' :: _ => some (none, cs)
  | '\'' :: rest =>
    match rest.span (· ≠ '\'') with
    | (c :: name, _ :: after) => some (some (c :: name), after)
    | _ => none
  | _ =>
    match cs.span fun c ↦ c ≠ '=' && c ≠ '#' && !isBlank c with
    | ([], _) => none
    | (name, after) => some (some name, after)

/-- The text after the word `export` and the blanks that follow it. -/
def dropExport (cs : List Char) : List Char :=
  if "export".toList.isPrefixOf cs then
    match cs.drop 6 with
    | c :: rest => if isInlineBlank c then rest.dropWhile isInlineBlank else cs
    | [] => cs
  else cs

/-- The text after the line end that has to come next, perhaps after blanks and a comment. -/
def endStatement (cs : List Char) : Option (List Char) :=
  let afterBlanks := cs.dropWhile isInlineBlank
  let afterComment := match afterBlanks with
    | '#' :: rest => rest.dropWhile isInline
    | _ => afterBlanks
  match afterComment with
  | [] => some []
  | '\r' :: '\n' :: rest => some rest
  | '\n' :: rest => some rest
  | '\r' :: rest => some rest
  | _ => none

/-- The text after the line that is being read. -/
def skipLine (cs : List Char) : List Char :=
  (cs.dropWhile isInline).drop 1

/-- The statement that comes first and the text after it. -/
def readStatement (cs : List Char) : Statement × List Char :=
  match cs.dropWhile isBlank with
  | [] => (.remark, [])
  | c :: more =>
    let text := dropExport (c :: more)
    match readName text with
    | none => (.unreadable, skipLine text)
    | some (name, after) =>
      let here := after.dropWhile isInlineBlank
      let said := fun (value : Option (List Char)) (rest : List Char) ↦
        match endStatement rest, name with
        | some rest, some name => (Statement.binding name value, rest)
        | some rest, none => (.remark, rest)
        | none, _ => (.unreadable, skipLine rest)
      match here with
      | '=' :: given =>
        match readValue given with
        | some (value, after) => said (some value) after
        | none => (.unreadable, skipLine given)
      | _ => said none here

/-- The statements in order, each with the number of the line on which the text before it ends;
`fuel` bounds their number and `line` is where the text begins. -/
def readStatements : (fuel : Nat) → (line : Nat) → List Char → List (Nat × Statement)
  | 0, _, _ => []
  | _, _, [] => []
  | fuel + 1, line, cs =>
    let (statement, rest) := readStatement cs
    let read := cs.take (cs.length - rest.length)
    (line, statement) :: readStatements fuel (line + read.count '\n') rest

/-- The text of a file without a byte order mark, every line end a line feed. -/
def plainText (text : String) : List Char :=
  unifyLineEnds (match text.toList with
    | '\uFEFF' :: rest => rest
    | cs => cs)

/-- The statements of an environment file. -/
def statements (text : String) : List (Nat × Statement) :=
  let cs := plainText text
  readStatements (cs.length + 1) 1 cs

/-- What the bindings of a file say, in order. -/
def rawBindings (text : String) : List (String × Option String) :=
  (statements text).filterMap fun s ↦
    match s.2 with
    | .binding name value => some (String.ofList name, value.map String.ofList)
    | _ => none

/-- The lines that are named for the statements that cannot be read. -/
def unreadableLines (text : String) : List Nat :=
  (statements text).filterMap fun s ↦ if s.2 = .unreadable then some s.1 else none

/-! ## Values of other variables -/

/-- The variable reference that begins after `${`: its name, its text for want of a value, and what
follows it. -/
def readReference (cs : List Char) : Option (List Char × List Char × List Char) :=
  match cs.span fun c ↦ c ≠ '}' && c ≠ ':' with
  | (name, '}' :: rest) => some (name, [], rest)
  | (name, ':' :: '-' :: more) =>
    match more.span (· ≠ '}') with
    | (otherwise, '}' :: rest) => some (name, otherwise, rest)
    | _ => none
  | _ => none

/-- The text with variable references replaced; `value` gives a variable's value, which can be
missing although the variable is there, and `fuel` bounds the length. -/
def expand (value : String → Option (Option String)) : (fuel : Nat) → List Char → List Char
  | 0, cs => cs
  | _, [] => []
  | fuel + 1, '$' :: '{' :: rest =>
    match readReference rest with
    | some (name, otherwise, after) =>
      let meant := match value (String.ofList name) with
        | some v => (v.getD "").toList
        | none => otherwise
      meant ++ expand value fuel after
    | none => '$' :: expand value fuel ('{' :: rest)
  | fuel + 1, c :: rest => c :: expand value fuel rest

/-- The bindings with one more; a name that is there keeps its place. -/
def bind (bindings : List (String × Option String)) (name : String) (value : Option String) :
    List (String × Option String) :=
  if (bindings.lookup name).isSome then
    bindings.map fun b ↦ if b.1 = name then (name, value) else b
  else bindings ++ [(name, value)]

/-- The bindings with the references in their values replaced. A reference sees the bindings before
it, and the environment where they say nothing. -/
def resolve (e : Environment) (raw : List (String × Option String)) :
    List (String × Option String) :=
  raw.foldl (fun seen binding ↦
    let value := fun name ↦ match seen.lookup name with
      | some v => some v
      | none => (e.get? name).map some
    let text := binding.2.map fun v ↦
      String.ofList (expand value (v.length + 1) v.toList)
    bind seen binding.1 text) []

/-- The bindings of an environment file. -/
def parse (e : Environment) (text : String) : List (String × Option String) :=
  resolve e (rawBindings text)

end CommandShell.Settings.DotEnv

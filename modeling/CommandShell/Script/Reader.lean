import CommandShell.Script.Tree

/-!
# Reading characters and tokens

The state of reading a script. What is read comes in layers: an alias puts its value on top of what
is left. A script may not be there as a whole yet; reading past its end is then a problem that more
text can solve, and the command is read again from its start.
-/

namespace CommandShell.Script

/-- The words that mean something where a command begins. -/
inductive Keyword
  | not | case | do | done | elif | else | esac | fi | for | if | in | then | until | while
  | begin | end
  deriving DecidableEq, Repr, Inhabited

namespace Keyword

def table : List (String × Keyword) :=
  [("!", .not), ("case", .case), ("do", .do), ("done", .done), ("elif", .elif), ("else", .else),
    ("esac", .esac), ("fi", .fi), ("for", .for), ("if", .if), ("in", .in), ("then", .then),
    ("until", .until), ("while", .while), ("\x7b", .begin), ("\x7d", .end)]

def spelling (k : Keyword) : String :=
  ((table.find? fun e ↦ e.2 = k).map (·.1)).getD ""

end Keyword

/-- What commands are made of. -/
inductive Token
  | endOfFile | newline | semicolon | ampersand | andIf | orIf | pipe | opening | closing | endCase
  | redirection | word
  | keyword (k : Keyword)
  deriving DecidableEq, Repr, Inhabited

namespace Token

/-- How a token is called in a complaint. -/
def shown : Token → String
  | endOfFile => "end of file"
  | newline => "newline"
  | semicolon => "\";\""
  | ampersand => "\"&\""
  | andIf => "\"&&\""
  | orIf => "\"||\""
  | pipe => "\"|\""
  | opening => "\"(\""
  | closing => "\")\""
  | endCase => "\";;\""
  | redirection => "redirection"
  | word => "word"
  | keyword k => "\"" ++ k.spelling ++ "\""

def endsList : Token → Bool
  | endOfFile | closing | endCase => true
  | keyword k =>
    [Keyword.do, .done, .elif, .else, .esac, .fi, .then, .end].contains k
  | _ => false

end Token

/-- Why a script cannot be read. -/
inductive Problem
  /-- The script is not there as a whole yet. -/
  | needsMore
  | mistake (line : Nat) (message : String)
  deriving DecidableEq, Repr, Inhabited

/-- A text that is being read. -/
structure Layer where
  text : List Char
  /-- The alias that the text comes from. -/
  origin : Option String := none
  /-- Whether the next word may be an alias as well. -/
  passesOn : Bool := false
  deriving Repr, Inhabited

/-- What the next token may be, besides what it looks like. -/
structure Checks where
  /-- Whether line ends before it are skipped. -/
  newlines : Bool := false
  keyword : Bool := false
  aliases : Bool := false
  /-- Whether it is the word that ends a document. -/
  endWord : Bool := false
  deriving DecidableEq, Repr, Inhabited

/-- A document whose text is to come. -/
structure Waiting where
  number : Nat
  endWord : List Char
  stripsTabs : Bool
  expands : Bool
  deriving Repr, Inhabited

/-- A redirection operator. -/
inductive Operator
  | file (kind : FileKind)
  | duplicate (input : Bool)
  | document (stripsTabs : Bool)
  deriving DecidableEq, Repr, Inhabited

/-- The state of reading. -/
structure Reader where
  layers : List Layer
  /-- Whether there is no more to come after the last layer. -/
  complete : Bool := true
  line : Nat := 1
  checks : Checks := {}
  /-- The token that was read last, and whether it is to be read again. -/
  token : Token := .newline
  again : Bool := false
  /-- The last word, and whether something in it was quoted. -/
  word : Word := []
  quoted : Bool := false
  /-- The last redirection operator and its descriptor. -/
  operator : Operator × Nat := default
  waiting : List Waiting := []
  /-- The texts of documents by their numbers, and the number of the next document. -/
  documents : List (Nat × Word) := []
  nextDocument : Nat := 0
  aliases : List (String × String) := []
  /-- The aliases that are being read in texts around this one. -/
  busyAliases : List String := []

abbrev Parse := StateT Reader (Except Problem)

/-- How many steps are taken at most to read a command. -/
def readingLimit : Nat := 1000000000

namespace Parse

/-- Gives up reading. -/
def mistake {α : Type} (message : String) : Parse α := do
  throw (.mistake (← get).line message)

/-- The first character of some layers and what is left; layers without text are given up. -/
def take : List Layer → Option (Char × List Layer) × Bool
  | [] => (none, false)
  | layer :: rest =>
    match layer.text with
    | c :: text => (some (c, { layer with text } :: rest), false)
    | [] =>
      let (found, passed) := take rest
      (found, passed || layer.passesOn)

/-- The next character; none at the end. -/
def next : Parse (Option Char) := do
  let r ← get
  match take r.layers with
  | (some (c, layers), passed) =>
    set { r with layers, checks := { r.checks with aliases := r.checks.aliases || passed } }
    return some c
  | (none, passed) =>
    if r.complete then
      set { r with
        layers := r.layers.getLast?.toList
        checks := { r.checks with aliases := r.checks.aliases || passed } }
      return none
    else throw .needsMore

def back (c : Option Char) : Parse Unit :=
  modify fun r ↦
    match c, r.layers with
    | some c, layer :: rest => { r with layers := { layer with text := c :: layer.text } :: rest }
    | some c, [] => { r with layers := [{ text := [c] }] }
    | none, _ => r

def countLine : Parse Unit :=
  modify fun r ↦ { r with line := r.line + 1 }

/-- The next character after lines were joined that end with a backslash. -/
def nextJoined (fuel : Nat := readingLimit) : Parse (Option Char) := do
  match fuel with
  | 0 => return none
  | fuel + 1 =>
    let c ← next
    if c != some '\\' then return c
    let d ← next
    if d = some '\n' then
      countLine
      nextJoined fuel
    else
      back d
      return c

/-- Sets what the next token may be. -/
def check (checks : Checks) : Parse Unit :=
  modify fun r ↦ { r with checks }

/-- Lets the last token be read again. -/
def again : Parse Unit :=
  modify fun r ↦ { r with again := true }

/-- Notes the token that was read. -/
def yields (token : Token) : Parse Token := do
  modify fun r ↦ { r with token }
  return token

/-- The last token does not belong here. -/
def unexpected {α : Type} (expected : Option Token := none) : Parse α := do
  let found := (← get).token.shown ++ " unexpected"
  mistake (match expected with
    | some t => found ++ " (expecting " ++ t.shown ++ ")"
    | none => found)

/-- Puts the value of an alias on top of what is left. -/
def pushAlias (name value : String) : Parse Unit :=
  modify fun r ↦
    let text := value.toList
    let passesOn := text.getLast?.any fun c ↦ c = ' ' || c = '\t'
    { r with layers := { text, origin := some name, passesOn } :: r.layers }

/-- The value of an alias that is not being read. -/
def aliasValue? (name : String) : Parse (Option String) := do
  let r ← get
  if r.layers.any (·.origin == some name) || r.busyAliases.contains name then return none
  return r.aliases.lookup name

end Parse

end CommandShell.Script

import CommandShell.Script.Reader

/-!
# Reading words

Words are read character by character. What a character means depends on where it stands: outside
of quotes, in double or single quotes, or in an arithmetic expression; a `Level` keeps track of
that, and of the parameters that are open. Where the quotes in a parameter differ from those around
it, a level is put on top of the others.

A document is read in the same way, as one long word that ends with a certain line.
-/

namespace CommandShell.Script

/-- Where a character stands. -/
inductive Mode
  | base | double | single | arithmetic
  deriving DecidableEq, Repr, Inhabited

/-- What is known of the place that is read. -/
structure Level where
  mode : Mode := .base
  /-- Whether a quotation mark inside a parameter is open. -/
  innerQuotes : Bool := false
  /-- Whether the level was put there for a parameter. -/
  forParameter : Bool := false
  /-- Whether the place is in double quotes. -/
  inDouble : Bool := false
  /-- How many parameters are open, and how many of them in double quotes. -/
  parameters : Nat := 0
  quotedParameters : Nat := 0
  /-- How many parentheses are open. -/
  parentheses : Nat := 0
  deriving Repr, Inhabited

/-- Something that is open in a word. -/
inductive Opening
  | parameter (name : String) (form : Form) (orNull : Bool)
  | arithmetic
  deriving Repr, Inhabited

/-- A word that is being read. Pieces are kept latest first. -/
structure Draft where
  level : Level := {}
  levels : List Level := []
  pieces : List Piece := []
  /-- What is open, and the pieces before it. -/
  openings : List (Opening × List Piece) := []
  quoted : Bool := false
  deriving Inhabited

namespace Draft

def add (d : Draft) (p : Piece) : Draft :=
  { d with pieces := p :: d.pieces }

def addChar (d : Draft) (c : Option Char) : Draft :=
  match c with
  | some c => d.add (.plain c)
  | none => d

def change (d : Draft) (f : Level → Level) : Draft :=
  { d with level := f d.level }

/-- The draft with another level on top. -/
def push (d : Draft) (level : Level) : Draft :=
  { d with level, levels := d.level :: d.levels }

/-- The draft without its top level. -/
def pop (d : Draft) : Draft :=
  match d.levels with
  | level :: levels => { d with level, levels }
  | [] => d

def start (d : Draft) (o : Opening) : Draft :=
  { d with openings := (o, d.pieces) :: d.openings, pieces := [] }

/-- The draft with what was opened last closed. -/
def finish (d : Draft) : Draft :=
  match d.openings with
  | [] => d
  | (o, before) :: openings =>
    let inside := d.pieces.reverse
    let piece := match o with
      | .parameter name form orNull => Piece.parameter name form orNull inside
      | .arithmetic => .arithmetic inside
    { d with openings, pieces := piece :: before }

def addParameter (d : Draft) (name : String) : Draft :=
  d.add (.parameter name .value false [])

end Draft

/-! ## Classes of characters -/

/-- What a character does where it stands. -/
inductive Role
  | newline | ordinary | guards | backslash | singleQuote | doubleQuote | endQuote | dollar
  | closesParameter | opensParenthesis | closesParenthesis | backquote | endOfFile
  /-- It ends a word that has nothing open. -/
  | delimiter
  deriving DecidableEq, Repr, Inhabited

def guardedInQuotes : List Char := "!*?[=~:/-]".toList

/-- The characters that end words. -/
def delimiters : List Char := "<>();&| \t".toList

def Mode.role (m : Mode) (c : Option Char) : Role :=
  match c with
  | none => .endOfFile
  | some '\n' => .newline
  | some c =>
    match m with
    | .base =>
      match c with
      | '\\' => .backslash
      | '\'' => .singleQuote
      | '"' => .doubleQuote
      | '\x60' => .backquote
      | '$' => .dollar
      | '\x7d' => .closesParameter
      | c => if delimiters.contains c then .delimiter else .ordinary
    | .double =>
      match c with
      | '\\' => .backslash
      | '"' => .endQuote
      | '\x60' => .backquote
      | '$' => .dollar
      | '\x7d' => .closesParameter
      | c => if guardedInQuotes.contains c then .guards else .ordinary
    | .single =>
      match c with
      | '\'' => .endQuote
      | '\\' => .guards
      | c => if guardedInQuotes.contains c then .guards else .ordinary
    | .arithmetic =>
      match c with
      | '\\' => .backslash
      | '\x60' => .backquote
      | '$' => .dollar
      | '\x7d' => .closesParameter
      | '(' => .opensParenthesis
      | ')' => .closesParenthesis
      | _ => .ordinary

/-- The parameters with one character that is no letter or digit. -/
def isSpecialParameter (c : Char) : Bool :=
  "$?#!-@*".toList.contains c || ('0' ≤ c && c ≤ '9')

/-! ## Parameters -/

namespace Parse

/-- Reads the rest of a name; the character after it comes with it. -/
def restOfName (p : Char → Bool) : (fuel : Nat) → List Char → Option Char →
    Parse (List Char × Option Char)
  | 0, seen, c => return (seen.reverse, c)
  | fuel + 1, seen, c => do
    match c with
    | none => return (seen.reverse, c)
    | some x =>
      if p x then restOfName p fuel (x :: seen) (← nextJoined) else return (seen.reverse, c)

/-- What was found out about a parameter before its form. -/
inductive Start
  | named (name : List Char) (isLength : Bool) (after : Option Char)
  | broken (after : Option Char)

/-- Reads a name, a number or a special character. -/
def nameOrDigits (braced : Bool) (c : Char) : Parse (List Char × Option Char) := do
  if isNameStart c then restOfName isNameChar readingLimit [] (some c)
  else if braced then restOfName (fun c ↦ '0' ≤ c && c ≤ '9') readingLimit [] (some c)
  else return ([c], ← nextJoined)

/-- Reads what a parameter is called. The first character is there already. -/
def parameterStart (braced : Bool) (c : Option Char) : Parse Start := do
  match c with
  | none => return .broken c
  | some x =>
    if isNameStart x || ('0' ≤ x && x ≤ '9') then
      let (name, after) ← nameOrDigits braced x
      return .named name false after
    else if x = '\x7d' then return .broken c
    else
      let after ← nextJoined
      if braced && x = '#' then
        match after with
        | some y =>
          if isNameChar y then
            let (name, after) ← nameOrDigits true y
            return .named name true after
          else
            let further ← nextJoined
            if y = '\x7d' || further != some '\x7d' then
              back further
              return .named ['#'] false after
            else if isSpecialParameter y then return .named [y] true further
            else return .broken further
        | none =>
          let further ← nextJoined
          back further
          return .named ['#'] false none
      else if isSpecialParameter x then return .named [x] false after
      else return .broken after

/-- Reads the form of a parameter in braces, from the character after its name on. The flag tells
whether an empty value counts as none. -/
def parameterForm (c : Option Char) : Parse (Form × Bool) := do
  let simple := fun (c : Option Char) ↦ match c with
    | some '\x7d' => Form.value
    | some '-' => .otherwise
    | some '+' => .instead
    | some '?' => .demand
    | some '=' => .assign
    | _ => .malformed
  match c with
  | some ':' => return (simple (← nextJoined), true)
  | some '%' | some '#' =>
    let after ← nextJoined
    let longest := after = c
    if !longest then back after
    return (if c = some '%' then .trimEnd longest else .trimStart longest, false)
  | c => return (simple c, false)

/-- Puts a parameter with braces into a draft. One that is more than a value stays open. -/
def openParameter (d : Draft) (name : List Char) (form : Form) (orNull : Bool) : Draft :=
  if form = .value && !orNull then d.addParameter (String.ofList name)
  else
    let trims := match form with
      | .trimEnd _ | .trimStart _ => true
      | _ => false
    let mode := if trims then .base
      else if d.level.mode = .arithmetic then .double else d.level.mode
    let d := if mode != d.level.mode || d.level.innerQuotes then
        d.push { mode, forParameter := true, inDouble := mode != .base }
      else d
    let d := d.change fun l ↦
      { l with
        parameters := l.parameters + 1
        quotedParameters := l.quotedParameters + (if l.inDouble then 1 else 0) }
    d.start (.parameter (String.ofList name) form orNull)

/-- Reads a parameter; its first character after the dollar sign is there already. -/
def parameter (d : Draft) (c : Option Char) : Parse Draft := do
  let braced := c = some '\x7b'
  let c ← if braced then nextJoined else pure c
  match ← parameterStart braced c with
  | .broken after =>
    back after
    return openParameter d [] .malformed false
  | .named name isLength after =>
    if !braced then
      back after
      return d.addParameter (String.ofList name)
    else if isLength then
      back after
      let form := if after = some '\x7d' then Form.length else .malformed
      return openParameter d name form false
    else
      let (form, orNull) ← parameterForm after
      return openParameter d name form orNull

/-! ## Old commands in words -/

/-- Reads the text of a command between backquotes. -/
def backquoted (inDouble : Bool) : (fuel : Nat) → List Char → Parse (List Char)
  | 0, seen => return seen.reverse
  | fuel + 1, seen => do
    match ← nextJoined with
    | none => mistake "EOF in backquote substitution"
    | some '\x60' => return seen.reverse
    | some '\\' =>
      match ← next with
      | none => mistake "EOF in backquote substitution"
      | some c =>
        let isFree := c = '\\' || c = '\x60' || c = '$' || (inDouble && c = '"')
        backquoted inDouble fuel (if isFree then c :: seen else c :: '\\' :: seen)
    | some c =>
      if c = '\n' then countLine
      backquoted inDouble fuel (c :: seen)

/-! ## Words -/

/-- What a line of a document must be to end it. -/
structure DocumentEnd where
  mark : List Char
  stripsTabs : Bool
  deriving Repr, Inhabited

def skipTabs : (fuel : Nat) → Option Char → Parse (Option Char)
  | 0, c => return c
  | fuel + 1, c => do
    if c = some '\t' then skipTabs fuel (← next) else return c

/-- Whether some characters and the end of a line come next; if so, they are taken. -/
def takesLine (c : Option Char) : List Char → Parse Bool
  | [] => return c = some '\n' || c = none
  | m :: rest => do
    if c = some m then takesLine (← next) rest else return false

def atLineStart (stop : Option DocumentEnd) (c : Option Char) : Parse (Option Char) := do
  match stop with
  | none => return c
  | some stop =>
    let c ← if stop.stripsTabs then skipTabs readingLimit c else pure c
    let before ← get
    if ← takesLine c stop.mark then
      countLine
      return none
    else
      set before
      return c

def afterBackslash (d : Draft) (isDocument : Bool) : Parse Draft := do
  match ← next with
  | none => return d.add (.guarded '\\')
  | some '\n' =>
    countLine
    return d
  | some c =>
    let l := d.level
    let staysQuoted := l.inDouble && c != '\\' && c != '\x60' && c != '$' &&
      (c != '"' || (isDocument && l.parameters = 0)) && (c != '\x7d' || l.parameters = 0)
    let d := if staysQuoted then d.add (.guarded '\\') else d
    return { d.add (.guarded c) with quoted := true }

def quoteMark (isDocument : Bool) (d : Draft) : Draft :=
  if isDocument then d else d.add .mark

/-- A double quote in a draft, which may be one inside a parameter. -/
def toggleDouble (isDocument : Bool) (d : Draft) : Draft :=
  quoteMark isDocument (d.change fun l ↦
    if 0 < l.parameters then { l with innerQuotes := !l.innerQuotes } else l)

def endQuote (isDocument : Bool) (d : Draft) (c : Char) : Draft :=
  if isDocument && d.level.parameters = 0 then d.add (.plain c)
  else
    let d := if d.level.quotedParameters = 0 then
        d.change fun l ↦ { l with mode := .base, inDouble := false }
      else d
    let d := { d with quoted := true }
    if c = '"' then toggleDouble isDocument d else quoteMark isDocument d

def closeParameter (d : Draft) : Draft :=
  if d.level.innerQuotes || d.level.parameters = 0 then d.add (.plain '\x7d')
  else
    let d := d.change fun l ↦ { l with parameters := l.parameters - 1 }
    let d := if d.level.parameters = 0 && d.level.forParameter then d.pop
      else d.change fun l ↦ { l with quotedParameters := l.quotedParameters - 1 }
    d.finish

/-- Reads a parenthesis that may close an arithmetic expression. -/
def closeParenthesis (d : Draft) : Parse Draft := do
  if 0 < d.level.parentheses then
    return (d.change fun l ↦ { l with parentheses := l.parentheses - 1 }).add (.plain ')')
  let c ← nextJoined
  if c = some ')' then return d.pop.finish
  else
    back c
    return d.add (.plain ')')

/-- The commands in words: those in parentheses are read from the script itself, those between
backquotes from a text of their own. -/
structure CommandReaders where
  inParentheses : Parse (Option Tree)
  inBackquotes : List Char → Parse (Option Tree)

def afterDollar (readers : CommandReaders) (d : Draft) : Parse Draft := do
  let c ← nextJoined
  let starts := c.any fun c ↦ c = '(' || c = '\x7b' || isNameStart c || isSpecialParameter c
  if (← get).checks.endWord || !starts then
    back c
    return d.add (.plain '$')
  if c != some '(' then return ← parameter d c
  let c ← nextJoined
  if c = some '(' then
    return (d.push { mode := .arithmetic, inDouble := true }).start .arithmetic
  back c
  return d.add (.command (← readers.inParentheses))

def nextIn (d : Draft) : Parse (Option Char) :=
  if d.level.mode = .single then next else nextJoined

/-- Reads a word from its first character on; the character after it comes with it. -/
def wordFrom (readers : CommandReaders) (stop : Option DocumentEnd) :
    (fuel : Nat) → Draft → Option Char → Parse (Draft × Option Char)
  | 0, d, c => return (d, c)
  | fuel + 1, d, c => do
    let isDocument := stop.isSome
    let further := fun (d : Draft) ↦ do wordFrom readers stop fuel d (← nextIn d)
    match d.level.mode.role c with
    | .newline =>
      if d.level.mode = .base && d.level.parameters = 0 then return (d, c)
      let d := d.addChar c
      countLine
      wordFrom readers stop fuel d (← atLineStart stop (← nextIn d))
    | .ordinary => further (d.addChar c)
    | .guards =>
      further (if !isDocument || d.level.inDouble then d.add (.guarded (c.getD ' '))
        else d.addChar c)
    | .backslash => further (← afterBackslash d isDocument)
    | .singleQuote => further (quoteMark isDocument (d.change fun l ↦ { l with mode := .single }))
    | .doubleQuote =>
      further (toggleDouble isDocument
        (d.change fun l ↦ { l with mode := .double, inDouble := true }))
    | .endQuote => further (endQuote isDocument d (c.getD '"'))
    | .dollar => further (← afterDollar readers d)
    | .closesParameter => further (closeParameter d)
    | .opensParenthesis =>
      further ((d.change fun l ↦ { l with parentheses := l.parentheses + 1 }).addChar c)
    | .closesParenthesis => further (← closeParenthesis d)
    | .backquote =>
      if (← get).checks.endWord then further { d.addChar c with quoted := true }
      else
        let text ← backquoted d.level.inDouble readingLimit []
        further (d.add (.command (← readers.inBackquotes text)))
    | .endOfFile => return (d, c)
    | .delimiter => if d.level.parameters = 0 then return (d, c) else further (d.addChar c)

/-- Complains about what is open at the end of a word. -/
def checkClosed (d : Draft) (isDocument : Bool) : Parse Unit := do
  if d.level.mode = .arithmetic then mistake "Missing '))'"
  if d.level.mode != .base && !isDocument then mistake "Unterminated quoted string"
  if 0 < d.level.parameters then mistake "Missing '\x7d'"

/-- Reads an operator that begins with an angle bracket. -/
def operator (c : Char) : Parse Operator := do
  let d ← nextJoined
  if c = '>' then
    match d with
    | some '>' => return .file .append
    | some '|' => return .file .clobber
    | some '&' => return .duplicate false
    | d =>
      back d
      return .file .output
  else
    match d with
    | some '<' =>
      let e ← nextJoined
      if e = some '-' then return .document true
      back e
      return .document false
    | some '&' => return .duplicate true
    | some '>' => return .file .both
    | d =>
      back d
      return .file .input

def wordOrOperator (readers : CommandReaders) (c : Option Char) : Parse Token := do
  let (d, c) ← wordFrom readers none readingLimit {} c
  checkClosed d false
  let word := d.pieces.reverse
  let fd? : Option (Option Nat) := match word with
    | [] => some none
    | [.plain x] => if '0' ≤ x && x ≤ '9' then some (some (x.toNat - 48)) else none
    | _ => none
  match c, fd?, d.quoted with
  | some '>', some fd, false =>
    let o ← operator '>'
    modify fun r ↦ { r with operator := (o, fd.getD 1) }
    yields .redirection
  | some '<', some fd, false =>
    let o ← operator '<'
    modify fun r ↦ { r with operator := (o, fd.getD 0) }
    yields .redirection
  | c, _, _ =>
    back c
    modify fun r ↦ { r with word, quoted := d.quoted }
    yields .word

def document (readers : CommandReaders) (w : Waiting) : Parse Unit := do
  let stop : DocumentEnd := { mark := w.endWord, stripsTabs := w.stripsTabs }
  let level : Level := if w.expands then { mode := .double, inDouble := true }
    else { mode := .single }
  let c ← if w.expands then nextJoined else next
  let (d, _) ← wordFrom readers (some stop) readingLimit { level } (← atLineStart (some stop) c)
  checkClosed d true
  modify fun r ↦
    { r with
      documents := (w.number, d.pieces.reverse) :: r.documents
      word := d.pieces.reverse
      quoted := d.quoted
      token := .word }

end Parse

end CommandShell.Script

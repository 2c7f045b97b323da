import CommandShell.Script.WordReading

/-!
# Reading commands

Commands are read by recursive descent, one complete command at a time: up to the end of the line on
which it ends. A document belongs to the line after the one that asks for it.
-/

namespace CommandShell.Script

/-- The builtins whose names no function can have. -/
def specialNames : List String :=
  [".", ":", "break", "continue", "eval", "exec", "exit", "export", "local", "readonly", "return",
    "set", "shift", "times", "trap", "unset"]

namespace Parse

/-! ## Tokens -/

/-- Skips the rest of a line. -/
def skipComment : (fuel : Nat) → Parse Unit
  | 0 => return ()
  | fuel + 1 => do
    let c ← next
    if c = some '\n' || c = none then back c else skipComment fuel

def doubled (c : Char) (twice once : Token) : Parse Token := do
  let d ← nextJoined
  if d = some c then yields twice
  else
    back d
    yields once

def rawToken (readers : CommandReaders) : (fuel : Nat) → Parse Token
  | 0 => yields .endOfFile
  | fuel + 1 => do
    let r ← get
    if r.again then
      set { r with again := false }
      return r.token
    let c ← nextJoined
    match c with
    | some ' ' | some '\t' => rawToken readers fuel
    | some '#' =>
      skipComment readingLimit
      rawToken readers fuel
    | some '\n' =>
      countLine
      yields .newline
    | none => yields .endOfFile
    | some '&' => doubled '&' .andIf .ampersand
    | some '|' => doubled '|' .orIf .pipe
    | some ';' => doubled ';' .endCase .semicolon
    | some '(' => yields .opening
    | some ')' => yields .closing
    | c => wordOrOperator readers c

def documents (readers : CommandReaders) : Parse Unit := do
  let waiting := (← get).waiting
  modify fun r ↦ { r with waiting := [] }
  waiting.forM (document readers)

/-- Skips the ends of lines. -/
def skipNewlines (readers : CommandReaders) : (fuel : Nat) → Token → Parse Token
  | 0, t => return t
  | fuel + 1, t => do
    if t != .newline then return t
    documents readers
    skipNewlines readers fuel (← rawToken readers readingLimit)

/-- Reads a token, with what it may be besides what it looks like. -/
def checkedToken (readers : CommandReaders) : (fuel : Nat) → Checks → Parse Token
  | 0, _ => yields .endOfFile
  | fuel + 1, checks => do
    let t ← rawToken readers readingLimit
    let t ← if checks.newlines then skipNewlines readers readingLimit t else pure t
    let r ← get
    let aliases := checks.aliases || r.checks.aliases
    let keyword := checks.keyword || r.checks.keyword
    set { r with checks := {} }
    if t != .word || r.quoted then return t
    match plainText? r.word with
    | none => return t
    | some text =>
      match if keyword then Keyword.table.lookup text else none with
      | some k => yields (.keyword k)
      | none =>
        if !aliases then return t
        match ← aliasValue? text with
        | none => return t
        | some value =>
          if value != "" then pushAlias text value
          checkedToken readers fuel { checks with aliases, keyword }

def token (readers : CommandReaders) : Parse Token := do
  checkedToken readers readingLimit (← get).checks

def expect (readers : CommandReaders) (t : Token) : Parse Unit := do
  if (← token readers) != t then unexpected (some t)

/-! ## Redirections -/

def redirectionWord (readers : CommandReaders) : Parse Redirection := do
  let (o, fd) := (← get).operator
  if let .document _ := o then check { endWord := true }
  if (← token readers) != .word then unexpected
  let r ← get
  match o with
  | .file kind => return .file fd kind r.word
  | .duplicate input => return .duplicate fd input r.word
  | .document stripsTabs =>
    let number := r.nextDocument
    let due : Waiting :=
      { number, endWord := (quotedText r.word).toList, stripsTabs, expands := !r.quoted }
    set { r with nextDocument := number + 1, waiting := r.waiting ++ [due] }
    return .document fd number (!r.quoted)

def trailingRedirections (readers : CommandReaders) : (fuel : Nat) → Parse (List Redirection)
  | 0 => return []
  | fuel + 1 => do
    if (← token readers) = .redirection then
      let first ← redirectionWord readers
      return first :: (← trailingRedirections readers fuel)
    else
      again
      return []

/-! ## Commands -/

def commandChecks : Checks := { keyword := true, aliases := true }

/-- What is checked where a command begins that may stand on a later line. -/
def laterChecks : Checks := { newlines := true, keyword := true, aliases := true }

/-- The command for something to be done in the background. -/
def inBackground (line : Nat) : Tree → Tree
  | .pipeline _ stages => .pipeline true stages
  | .redirected line body redirections => .background line body redirections
  | t => .background line t []

/-- One command after another one, if there is one. -/
def after (first : Option Tree) (second : Tree) : Tree :=
  match first with
  | none => second
  | some t => .sequence t second

def wordList (readers : CommandReaders) : (fuel : Nat) → Parse (List Word)
  | 0 => return []
  | fuel + 1 => do
    if (← token readers) = .word then
      let word := (← get).word
      return word :: (← wordList readers fuel)
    else return []

/-- Reads the patterns of a branch; the token after them has been read. -/
def patternList (readers : CommandReaders) : (fuel : Nat) → Parse (List Word)
  | 0 => return []
  | fuel + 1 => do
    let word := (← get).word
    if (← token readers) = .pipe then
      let _ ← token readers
      return word :: (← patternList readers fuel)
    else return [word]

/-- A simple command as far as it was read, latest parts first. -/
structure SimpleDraft where
  assignments : List Word := []
  words : List Word := []
  redirections : List Redirection := []
  deriving Inhabited

/-- The words of a command that are put in for a loop without words. -/
def allParameters : Word := [.mark, .parameter "@" .value false [], .mark]

mutual

/-- Reads a list of commands. One that is a line ends with the line; another one may end before its
first command if `mayEnd` says so. -/
def list (readers : CommandReaders) :
    (fuel : Nat) → (isLine mayEnd : Bool) → Option Tree → Parse (Option Tree)
  | 0, _, _, done => return done
  | fuel + 1, isLine, mayEnd, done => do
    check { commandChecks with newlines := !isLine }
    let t ← token readers
    if t = .newline then
      documents readers
      return done
    else if t = .endOfFile then
      documents readers
      atEnd
      return done
    again
    if !isLine && mayEnd && t.endsList then return done
    let first ← andOr readers fuel
    let t ← token readers
    let line := (← get).line
    let command := if t = .ampersand then inBackground line first else first
    let done := some (after done command)
    match t with
    | .endOfFile =>
      documents readers
      atEnd
      return done
    | .newline =>
      again
      list readers fuel isLine true done
    | .ampersand | .semicolon => list readers fuel isLine true done
    | _ =>
      if isLine then unexpected
      again
      return done
where
  /-- The end of the file is the next token. -/
  atEnd : Parse Unit :=
    modify fun r ↦ { r with token := .endOfFile, again := true }

/-- Reads pipelines put together by what becomes of them. -/
def andOr (readers : CommandReaders) : (fuel : Nat) → Parse Tree
  | 0 => unexpected
  | fuel + 1 => do
    andOrRest readers fuel (← pipeline readers fuel)

/-- Reads what is put together with a pipeline. -/
def andOrRest (readers : CommandReaders) : (fuel : Nat) → Tree → Parse Tree
  | 0, first => return first
  | fuel + 1, first => do
    match ← token readers with
    | .andIf =>
      check laterChecks
      andOrRest readers fuel (.and first (← pipeline readers fuel))
    | .orIf =>
      check laterChecks
      andOrRest readers fuel (.or first (← pipeline readers fuel))
    | _ =>
      again
      return first

def pipeline (readers : CommandReaders) : (fuel : Nat) → Parse Tree
  | 0 => unexpected
  | fuel + 1 => do
    let negated := (← token readers) = .keyword .not
    if negated then check commandChecks else again
    let first ← command readers fuel
    let rest ← pipelineRest readers fuel
    let whole := if rest.isEmpty then first else .pipeline false (first :: rest)
    return if negated then .negated whole else whole

def pipelineRest (readers : CommandReaders) : (fuel : Nat) → Parse (List Tree)
  | 0 => return []
  | fuel + 1 => do
    if (← token readers) = .pipe then
      check laterChecks
      let stage ← command readers fuel
      return stage :: (← pipelineRest readers fuel)
    else
      again
      return []

def body (readers : CommandReaders) : (fuel : Nat) → Parse Tree
  | 0 => unexpected
  | fuel + 1 => do
    return (← list readers fuel false false none).getD default

def command (readers : CommandReaders) : (fuel : Nat) → Parse Tree
  | 0 => unexpected
  | fuel + 1 => do
    let line := (← get).line
    let t ← token readers
    match t with
    | .word | .redirection =>
      again
      let line := (← get).line
      return ← simple readers fuel {} line
    | _ => pure ()
    let tree ← match t with
      | .keyword .if =>
        let test ← body readers fuel
        expect readers (.keyword .then)
        let yes ← body readers fuel
        let no ← otherwise readers fuel
        expect readers (.keyword .fi)
        pure (Tree.branch test yes no)
      | .keyword .while | .keyword .until =>
        let test ← body readers fuel
        expect readers (.keyword .do)
        let inner ← body readers fuel
        expect readers (.keyword .done)
        pure (Tree.loop (t = .keyword .until) test inner)
      | .keyword .for => each readers fuel line
      | .keyword .case => choose readers fuel line
      | .opening =>
        let inner ← body readers fuel
        expect readers .closing
        pure (Tree.subshell line inner [])
      | .keyword .begin =>
        let inner ← body readers fuel
        expect readers (.keyword .end)
        pure inner
      | _ => unexpected
    check commandChecks
    let redirections ← trailingRedirections readers fuel
    match redirections, t, tree with
    | [], _, _ => return tree
    | redirections, .opening, .subshell line inner _ => return .subshell line inner redirections
    | redirections, _, _ => return .redirected line tree redirections

/-- Reads the further branches of a condition. -/
def otherwise (readers : CommandReaders) : (fuel : Nat) → Parse (Option Tree)
  | 0 => return none
  | fuel + 1 => do
    match ← token readers with
    | .keyword .elif =>
      let test ← body readers fuel
      expect readers (.keyword .then)
      let yes ← body readers fuel
      return some (.branch test yes (← otherwise readers fuel))
    | .keyword .else => return some (← body readers fuel)
    | _ =>
      again
      return none

def each (readers : CommandReaders) : (fuel : Nat) → (line : Nat) → Parse Tree
  | 0, _ => unexpected
  | fuel + 1, line => do
    let isWord := (← token readers) = .word
    let r ← get
    let name := ((plainText? r.word).filter isName).getD ""
    if !isWord || r.quoted || name = "" then mistake "Bad for loop variable"
    check laterChecks
    let words ← if (← token readers) = .keyword .in then
        let words ← wordList readers readingLimit
        let last := (← get).token
        if last != .newline && last != .semicolon then unexpected
        pure words
      else
        if (← get).token != .semicolon then again
        pure [allParameters]
    check laterChecks
    expect readers (.keyword .do)
    let inner ← body readers fuel
    expect readers (.keyword .done)
    return .each line name words inner

def choose (readers : CommandReaders) : (fuel : Nat) → (line : Nat) → Parse Tree
  | 0, _ => unexpected
  | fuel + 1, line => do
    expect readers .word
    let word := (← get).word
    check laterChecks
    expect readers (.keyword .in)
    check { newlines := true, keyword := true }
    let _ ← token readers
    return .choose line word (← branches readers fuel)

/-- Reads the branches of a choice, of which the first token has been read. -/
def branches (readers : CommandReaders) :
    (fuel : Nat) → Parse (List (List Word × Option Tree))
  | 0 => return []
  | fuel + 1 => do
    let t := (← get).token
    if t = .keyword .esac then return []
    if t = .opening then
      let _ ← token readers
    let patterns ← patternList readers readingLimit
    if (← get).token != .closing then unexpected (some .closing)
    let inner ← list readers fuel false true none
    check { newlines := true, keyword := true }
    match ← token readers with
    | .keyword .esac => return [(patterns, inner)]
    | .endCase =>
      check { newlines := true, keyword := true }
      let _ ← token readers
      return (patterns, inner) :: (← branches readers fuel)
    | _ => unexpected (some .endCase)

/-- Reads a simple command, or the definition of a function; what was read of it is given, latest
first. -/
def simple (readers : CommandReaders) : (fuel : Nat) → SimpleDraft → (line : Nat) → Parse Tree
  | 0, _, _ => unexpected
  | fuel + 1, d, line => do
    check { aliases := d.words.isEmpty }
    match ← token readers with
    | .word =>
      let word := (← get).word
      if d.words.isEmpty && isAssignment word then
        simple readers fuel { d with assignments := word :: d.assignments } line
      else simple readers fuel { d with words := word :: d.words } line
    | .redirection =>
      let r ← redirectionWord readers
      simple readers fuel { d with redirections := r :: d.redirections } line
    | t =>
      match t, d with
      | .opening, ⟨[], [name], []⟩ =>
        expect readers .closing
        let text := ((plainText? name).filter isName).getD ""
        if text = "" || specialNames.contains text then mistake "Bad function name"
        check laterChecks
        return .define text (← command readers fuel)
      | _, _ =>
        again
        return .simple line d.assignments.reverse d.words.reverse d.redirections.reverse

end

/-! ## Commands in words -/

def parenthesized (readers : CommandReaders) : Parse (Option Tree) := do
  let waiting := (← get).waiting
  modify fun r ↦ { r with waiting := [] }
  let tree ← list readers readingLimit false true none
  expect readers .closing
  documents readers
  modify fun r ↦ { r with waiting }
  return tree

def separate (readers : CommandReaders) (text : List Char) : Parse (Option Tree) := do
  let before ← get
  set { before with
    layers := [{ text }], complete := true, line := 1, waiting := []
    busyAliases := before.layers.filterMap Layer.origin ++ before.busyAliases }
  let tree ← list readers readingLimit false true none
  documents readers
  modify fun r ↦
    { r with
      layers := before.layers, complete := before.complete, line := before.line
      waiting := before.waiting, busyAliases := before.busyAliases, again := false }
  return tree

/-- The commands in words, nested so many times at most. -/
def commandReaders : (depth : Nat) → CommandReaders
  | 0 => { inParentheses := unexpected, inBackquotes := fun _ ↦ unexpected }
  | depth + 1 =>
    { inParentheses := fun r ↦ parenthesized (commandReaders depth) r
      inBackquotes := fun text r ↦ separate (commandReaders depth) text r }

/-- What one reading of a script comes to. -/
inductive Found
  /-- A command; the flag tells whether nothing comes after it. -/
  | command (tree : Tree) (isLast : Bool)
  | blank
  | nothing
  deriving Inhabited

def completeCommand : Parse Found := do
  modify fun r ↦ { r with again := false, checks := {}, waiting := [] }
  let tree ← list (commandReaders readingLimit) readingLimit true false none
  let r ← get
  let atEnd := r.again && r.token = .endOfFile
  match tree with
  | some t => return .command t atEnd
  | none => return if atEnd then .nothing else .blank

end Parse

end CommandShell.Script

/-!
# Commands as trees

What a script says, as far as that can be told before anything is run: commands and how they are
put together, and words with the places where something is to be put in. All texts are texts of
octets.
-/

namespace CommandShell.Script

/-- What becomes of the value of a parameter. -/
inductive Form
  | value
  /-- A word stands in for a value that is not there. -/
  | otherwise
  /-- A word stands in for a value that is there. -/
  | instead
  /-- A value that is not there is an error. -/
  | demand
  /-- A value that is not there is set. -/
  | assign
  /-- The end of the value that matches a pattern goes, the longest one or the shortest one. -/
  | trimEnd (longest : Bool)
  /-- The start of the value that matches a pattern goes. -/
  | trimStart (longest : Bool)
  | length
  /-- It cannot be told what was meant. -/
  | malformed
  deriving DecidableEq, Repr, Inhabited

/-- Where a redirection to a file leads, and what becomes of the file. -/
inductive FileKind
  | input
  | output
  /-- The same as output, whatever the options say. -/
  | clobber
  | append
  | both
  deriving DecidableEq, Repr, Inhabited

mutual

/-- A part of a word. -/
inductive Piece
  | plain (c : Char)
  /-- A character that was quoted and therefore stands for itself. -/
  | guarded (c : Char)
  /-- A quotation mark. -/
  | mark
  /-- The value of a parameter; `orNull` tells whether an empty value counts as none. -/
  | parameter (name : String) (form : Form) (orNull : Bool) (word : List Piece)
  /-- The output of a command, if there is a command. -/
  | command (body : Option Tree)
  /-- The value of an expression. -/
  | arithmetic (body : List Piece)

/-- A redirection of a descriptor. -/
inductive Redirection
  | file (fd : Nat) (kind : FileKind) (name : List Piece)
  /-- The descriptor becomes like the one that a word names. -/
  | duplicate (fd : Nat) (input : Bool) (source : List Piece)
  /-- The text that stands in the script further on, by its number; the flag tells whether things
  are put into it. -/
  | document (fd : Nat) (number : Nat) (expands : Bool)

/-- A command. -/
inductive Tree
  | simple (line : Nat) (assignments words : List (List Piece)) (redirections : List Redirection)
  | pipeline (background : Bool) (stages : List Tree)
  | redirected (line : Nat) (body : Tree) (redirections : List Redirection)
  | background (line : Nat) (body : Tree) (redirections : List Redirection)
  | subshell (line : Nat) (body : Tree) (redirections : List Redirection)
  | and (first second : Tree)
  | or (first second : Tree)
  | sequence (first second : Tree)
  | negated (body : Tree)
  | branch (test yes : Tree) (no : Option Tree)
  | loop (isUntil : Bool) (test body : Tree)
  | each (line : Nat) (name : String) (words : List (List Piece)) (body : Tree)
  /-- The branches are patterns and what is done if one of them matches. -/
  | choose (line : Nat) (word : List Piece) (branches : List (List (List Piece) × Option Tree))
  | define (name : String) (body : Tree)

end

instance : Inhabited Piece := ⟨.mark⟩
instance : Inhabited Redirection := ⟨.document 0 0 false⟩
instance : Inhabited Tree := ⟨.simple 0 [] [] []⟩

/-- A word as it stands in a script. -/
abbrev Word := List Piece

def plainStart : Word → List Char
  | .plain c :: rest => c :: plainStart rest
  | _ => []

/-- The text of a word without anything to put in, without its quotation marks. -/
def quotedText : Word → String
  | [] => ""
  | .plain c :: rest => c.toString ++ quotedText rest
  | .guarded c :: rest => c.toString ++ quotedText rest
  | _ :: rest => quotedText rest

/-- The word as an unquoted text, if it is nothing else. -/
def plainText? (w : Word) : Option String :=
  let cs := plainStart w
  if cs.length = w.length then some (String.ofList cs) else none

def isNameStart (c : Char) : Bool :=
  c = '_' || ('a' ≤ c && c ≤ 'z') || ('A' ≤ c && c ≤ 'Z')

def isNameChar (c : Char) : Bool :=
  isNameStart c || ('0' ≤ c && c ≤ '9')

/-- Takes a name off the start of a text. -/
def spanName : List Char → List Char × List Char
  | c :: rest => if isNameStart c then (c :: rest).span isNameChar else ([], c :: rest)
  | [] => ([], [])

def isName (text : String) : Bool :=
  match spanName text.toList with
  | (_ :: _, []) => true
  | _ => false

/-- Whether a word sets a variable. -/
def isAssignment (w : Word) : Bool :=
  match spanName (plainStart w) with
  | (_ :: _, '=' :: _) => true
  | _ => false

end CommandShell.Script

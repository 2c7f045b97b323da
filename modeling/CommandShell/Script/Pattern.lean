import CommandShell.Host.Files
import CommandShell.Text.ByteClass
import CommandShell.Text.Octets

/-!
# Patterns

A pattern is a text in which `*`, `?` and bracketed lists stand for other texts, and a backslash
takes the meaning from the character after it. Patterns are matched against whole texts, and
against the names of files one directory at a time; a dot at the start of a name has to be matched
by a dot.
-/

namespace CommandShell.Script.Pattern

open CommandShell.Host CommandShell.Text

/-- A byte as a number with a sign, by which ranges go. -/
def signed (c : Char) : Int :=
  if c.toNat < 128 then c.toNat else (c.toNat : Int) - 256

/-- The class after an opening bracket in a list, and what follows it. -/
def readClass (cs : List Char) : Option (ByteClass × List Char) :=
  ByteClass.table.findSome? fun k ↦
    let spelling := (":" ++ k.1 ++ ":]").toList
    if spelling.isPrefixOf cs then some (k.2, cs.drop spelling.length) else none

/-- Whether a character is in the list that follows, and what comes after the list; none if the list
has no end. A closing bracket at the start belongs to the list. -/
def inList (chr : Char) : (fuel : Nat) → (isFirst found : Bool) → List Char →
    Option (Bool × List Char)
  | 0, _, _, _ => none
  | _, _, _, [] => none
  | fuel + 1, isFirst, found, c :: rest =>
    let single := fun (c : Char) (rest : List Char) ↦
      match rest with
      | '-' :: ']' :: _ => inList chr fuel false (found || chr = c) rest
      | '-' :: '\\' :: d :: rest =>
        inList chr fuel false (found || (signed c ≤ signed chr && signed chr ≤ signed d)) rest
      | '-' :: d :: rest =>
        inList chr fuel false (found || (signed c ≤ signed chr && signed chr ≤ signed d)) rest
      | rest => inList chr fuel false (found || chr = c) rest
    if c = ']' && !isFirst then some (found, rest)
    else if c = '[' then
      match readClass rest with
      | some (k, rest) => inList chr fuel false (found || k.holds chr) rest
      | none => single c rest
    else if c = '\\' then
      match rest with
      | d :: rest => single d rest
      | [] => none
    else single c rest

def matchesFrom : (fuel : Nat) → List Char → List Char → Bool
  | 0, _, _ => false
  | _, [], text => text.isEmpty
  | fuel + 1, c :: rest, text =>
    let literal := fun (c : Char) (rest : List Char) ↦
      match text with
      | d :: text => c = d && matchesFrom fuel rest text
      | [] => false
    match c with
    | '\\' =>
      match rest with
      | d :: rest => literal d rest
      | [] => literal '\\' []
    | '?' =>
      match text with
      | _ :: text => matchesFrom fuel rest text
      | [] => false
    | '*' => anySuffix fuel rest text
    | '[' =>
      let (inverted, list) := match rest with
        | '!' :: list => (true, list)
        | list => (false, list)
      match text with
      | [] => false
      | d :: text =>
        match inList d (list.length + 1) true false list with
        | none => literal '[' rest
        | some (found, rest) => found != inverted && matchesFrom fuel rest text
    | c => literal c rest
where
  /-- Whether a pattern matches a text from some place on. -/
  anySuffix (fuel : Nat) (pattern : List Char) : List Char → Bool
    | [] => matchesFrom fuel pattern []
    | c :: text => matchesFrom fuel pattern (c :: text) || anySuffix fuel pattern text

def isMatch (pattern text : List Char) : Bool :=
  matchesFrom (pattern.length + 1) pattern text

/-! ## Parts of texts -/

/-- The lengths that a part of a text can have, in the order in which they are tried. -/
def lengths (longest : Bool) (size : Nat) : List Nat :=
  if longest then (List.range (size + 1)).reverse else List.range (size + 1)

/-- A text up to the first NUL, which ends what is matched. -/
def untilNul (text : List Char) : List Char :=
  text.takeWhile (· ≠ '\x00')

def startLength? (longest : Bool) (pattern text : List Char) : Option Nat :=
  (lengths longest text.length).find? fun n ↦ isMatch pattern (untilNul (text.take n))

def endLength? (longest : Bool) (pattern text : List Char) : Option Nat :=
  (lengths longest text.length).find? fun n ↦
    isMatch pattern (untilNul (text.drop (text.length - n)))

/-! ## Names of files -/

/-- Whether a bracketed list begins after an opening bracket. -/
def startsList (cs : List Char) : Bool :=
  let cs := match cs with
    | '!' :: rest => rest
    | cs => cs
  go cs.length cs
where
  /-- Whether the list is closed before a slash. -/
  go : (fuel : Nat) → List Char → Bool
    | 0, _ => false
    | fuel + 1, cs =>
      let cs := match cs with
        | '\\' :: rest => rest
        | cs => cs
      match cs with
      | [] => false
      | '/' :: _ => false
      | _ :: ']' :: _ => true
      | _ :: rest => go fuel rest

/-- Whether a part of a pattern can match other texts than itself. -/
def isWild : List Char → Bool
  | [] => false
  | '\\' :: _ :: rest => isWild rest
  | '*' :: _ => true
  | '?' :: _ => true
  | '[' :: rest => startsList rest || isWild rest
  | _ :: rest => isWild rest

/-- A text without its backslashes. -/
def unescaped : List Char → List Char
  | '\\' :: c :: rest => c :: unescaped rest
  | c :: rest => c :: unescaped rest
  | [] => []

/-- The parts of a pattern between slashes. -/
def parts : List Char → List (List Char)
  | [] => [[]]
  | '\\' :: '/' :: rest => [] :: parts rest
  | '\\' :: c :: rest =>
    match parts rest with
    | first :: more => ('\\' :: c :: first) :: more
    | [] => [['\\', c]]
  | '/' :: rest => [] :: parts rest
  | c :: rest =>
    match parts rest with
    | first :: more => (c :: first) :: more
    | [] => [[c]]

/-- The names in a directory, as texts of octets. -/
def namesIn (fs : FileSystem) (cwd : NodeId) (directory : List Char) : List (List Char) :=
  let path := if directory.isEmpty then "." else Octets.text (String.ofList directory)
  match fs.list cwd path with
  | .ok names => [['.'], ['.', '.']] ++ names.map fun n ↦ (Octets.ofText n).toList
  | .error _ => []

/-- Whether there is something under a path. -/
def isThere (fs : FileSystem) (cwd : NodeId) (path : List Char) : Bool :=
  let name := Octets.text (String.ofList path)
  if path.getLast? = some '/' then fs.isDirectory cwd name
  else (fs.find cwd name false).isOk

/-- The paths that parts of a pattern match, below a directory that is written before them. -/
def pathsFrom (fs : FileSystem) (cwd : NodeId) : (before : List Char) → List (List Char) →
    List (List Char)
  | before, [] => if isThere fs cwd before then [before] else []
  | before, part :: rest =>
    let joint := if rest.isEmpty then [] else ['/']
    if !isWild part then pathsFrom fs cwd (before ++ unescaped part ++ joint) rest
    else
      let showsHidden := match part with
        | '\\' :: '.' :: _ => true
        | '.' :: _ => true
        | _ => false
      let found := (namesIn fs cwd before).filter fun name ↦
        (showsHidden || name.head? != some '.') && isMatch part name
      if rest.isEmpty then found.map (before ++ ·)
      else found.flatMap fun name ↦ pathsFrom fs cwd (before ++ name ++ joint) rest

/-- The paths that a pattern matches, in order. A pattern that can match only itself matches none. -/
def paths (fs : FileSystem) (cwd : NodeId) (pattern : List Char) : List String :=
  let ps := parts pattern
  if !ps.any isWild then []
  else
    ((pathsFrom fs cwd [] ps).map String.ofList).mergeSort fun a b ↦ a ≤ b

end CommandShell.Script.Pattern

import CommandShell.Script.Variables

/-!
# Conditions

What the arguments of `test` say: comparisons of texts and numbers, questions about files, and
their combinations. What an argument means depends on how many there are: an operator that has
nothing to work on is a text.
-/

namespace CommandShell.Script

open CommandShell.Host CommandShell.Process CommandShell.Text

/-- The whole number that a text spells, blanks around it left out. -/
def spelledNumber? (text : String) : Option Int :=
  let isBlank := fun (c : Char) ↦ c = ' ' || ('\t' ≤ c && c ≤ '\r')
  let cs := ((text.toList.dropWhile isBlank).reverse.dropWhile isBlank).reverse
  let (negative, digits) := match cs with
    | '-' :: rest => (true, rest)
    | '+' :: rest => (false, rest)
    | rest => (false, rest)
  (digitsOnly? (String.ofList digits)).bind fun n ↦
    let value : Int := if negative then -(n : Int) else n
    if -0x8000000000000000 ≤ value && value < 0x8000000000000000 then some value else none

namespace Condition

/-- What an argument of a condition is. -/
inductive Symbol
  | operand
  /-- A question about the next argument. -/
  | question (op : String)
  | comparison (op : String)
  | not | and | or | opening | closing
  /-- There is none. -/
  | nothing
  deriving DecidableEq, Repr, Inhabited

def questions : List String :=
  ["-r", "-w", "-x", "-e", "-f", "-d", "-c", "-b", "-p", "-u", "-g", "-k", "-s", "-t", "-z", "-n",
    "-h", "-O", "-G", "-L", "-S"]

def comparisons : List String :=
  ["=", "!=", "<", ">", "-eq", "-ne", "-ge", "-gt", "-le", "-lt", "-nt", "-ot", "-ef"]

/-- Whether an argument has the name of a comparison. -/
def isComparison (arg : Option String) : Bool :=
  arg.any comparisons.contains

/-- What the first of some arguments is. -/
def symbol : List String → Symbol
  | [] => .nothing
  | arg :: rest =>
    match arg with
    | "!" => .not
    | "-a" => .and
    | "-o" => .or
    | "(" => if rest.isEmpty then .operand else .opening
    | ")" => .closing
    | arg =>
      if comparisons.contains arg then .comparison arg
      else if questions.contains arg && !(rest.isEmpty || (1 < rest.length && isComparison rest[0]?))
      then .question arg
      else .operand

/-- Where files are looked for, and where the descriptors lead that paths can name. -/
structure Surroundings where
  files : FileSystem
  cwd : NodeId
  opened : List (Descriptor × Opened) := []

/-- What a question about a file is about. -/
inductive Subject
  | nothing
  | pipe
  | node (n : Node)
  deriving Inhabited

/-- What a path stands for, links followed. -/
def subject (w : Surroundings) (path : String) : Subject :=
  let nodeOf := fun (id : NodeId) ↦ (w.files.node? id).elim Subject.nothing Subject.node
  match w.files.descriptorNamed? w.cwd path with
  | some number =>
    match w.opened.lookup number with
    | some (.file id _ _) => nodeOf id
    | some .pipe => .pipe
    | none => .nothing
  | none =>
    match w.files.find w.cwd path with
    | .ok id => nodeOf id
    | .error _ => .nothing

def isLink (w : Surroundings) (path : String) : Bool :=
  match w.files.lookUp w.cwd path false with
  | .ok (_, .link _) => true
  | .ok (_, .descriptor _) => true
  | _ => false

/-- The answer to a question about a node. -/
def askNode (op : String) (n : Node) : Bool :=
  let hasBit := fun (bit : Nat) ↦ match n with
    | .file mode _ => mode &&& bit != 0
    | _ => false
  match op with
  | "-e" | "-r" | "-w" | "-O" | "-G" => true
  | "-x" => n.mayExecute
  | "-f" => n.isRegular
  | "-d" => n.isFolder
  | "-c" => match n with
    | .device _ => true
    | _ => false
  | "-s" => match n with
    | .file _ data => !data.isEmpty
    | .program _ => true
    | n => n.isFolder
  | "-u" => hasBit 0o4000
  | "-g" => hasBit 0o2000
  | "-k" => hasBit 0o1000
  | _ => false

/-- The answer to a question about a file. -/
def askFile (w : Surroundings) (op path : String) : Bool :=
  let path := Octets.text path
  if op = "-h" || op = "-L" then isLink w path
  else match subject w path with
    | .nothing => false
    | .pipe => ["-e", "-r", "-w", "-O", "-G", "-p"].contains op
    | .node n => askNode op n

def number (text : String) : Except String Int :=
  match spelledNumber? text with
  | some n => .ok n
  | none => .error ("Illegal number: " ++ text)

/-- The answer to a question. -/
def ask (w : Surroundings) (op arg : String) : Except String Bool :=
  match op with
  | "-z" => .ok (arg == "")
  | "-n" => .ok (arg != "")
  | "-t" => (number arg).map fun _ ↦ false
  | op => .ok (askFile w op arg)

def compare (w : Surroundings) (op a b : String) : Except String Bool :=
  match op with
  | "=" => .ok (a == b)
  | "!=" => .ok (a != b)
  | "<" => .ok (a < b)
  | ">" => .ok (b < a)
  | "-nt" | "-ot" => .ok false
  | "-ef" =>
    .ok (match w.files.find w.cwd (Octets.text a), w.files.find w.cwd (Octets.text b) with
      | .ok x, .ok y => x == y
      | _, _ => false)
  | op => do
    let x ← number a
    let y ← number b
    return match op with
      | "-eq" => x == y
      | "-ne" => x != y
      | "-ge" => y ≤ x
      | "-gt" => y < x
      | "-le" => x ≤ y
      | _ => x < y

/-- The complaint about an argument. -/
def objection (arg message : String) : String :=
  if arg = "" then message else arg ++ ": " ++ message

mutual

/-- Conditions joined by `-o`, beginning with a symbol at the first argument. The answer is the
truth and the arguments from the last one on that was looked at. -/
def anyOf (w : Surroundings) : (fuel : Nat) → Symbol → List String →
    Except String (Bool × List String)
  | 0, _, args => .ok (false, args)
  | fuel + 1, s, args => do
    let (a, args) ← allOf w fuel s args
    if symbol args.tail = .or then
      let args := args.drop 2
      let (b, args) ← anyOf w fuel (symbol args) args
      return (a || b, args)
    else return (a, args)

/-- Conditions joined by `-a`. -/
def allOf (w : Surroundings) : (fuel : Nat) → Symbol → List String →
    Except String (Bool × List String)
  | 0, _, args => .ok (false, args)
  | fuel + 1, s, args => do
    let (a, args) ← negation w fuel s args
    if symbol args.tail = .and then
      let args := args.drop 2
      let (b, args) ← allOf w fuel (symbol args) args
      return (a && b, args)
    else return (a, args)

def negation (w : Surroundings) : (fuel : Nat) → Symbol → List String →
    Except String (Bool × List String)
  | 0, _, args => .ok (false, args)
  | fuel + 1, s, args => do
    if s = .not then
      let next := symbol args.tail
      let (a, args) ← negation w fuel next (if next = .nothing then args else args.tail)
      return (!a, args)
    else single w fuel s args

/-- A condition that is not combined. -/
def single (w : Surroundings) : (fuel : Nat) → Symbol → List String →
    Except String (Bool × List String)
  | 0, _, args => .ok (false, args)
  | fuel + 1, s, args => do
    match s, args with
    | .nothing, args => return (false, args)
    | .opening, _ :: rest =>
      let next := symbol rest
      if next = .closing then return (false, rest)
      let (a, rest) ← anyOf w fuel next rest
      if symbol rest.tail = .closing then return (a, rest.tail)
      throw "closing paren expected"
    | .question op, _ :: rest =>
      match rest with
      | [] => throw (objection op "argument expected")
      | arg :: _ => return (← ask w op arg, rest)
    | _, a :: rest =>
      match symbol rest with
      | .comparison op =>
        match rest.tail with
        | [] => throw (objection op "argument expected")
        | b :: _ => return (← compare w op a b, rest.tail)
      | _ => return (a != "", a :: rest)
    | _, [] => return (false, [])

end

/-- Whether arguments are true, beginning with a certain symbol. -/
def evaluate (w : Surroundings) (s : Symbol) (args : List String) : Except String Bool := do
  let (truth, rest) ← anyOf w (4 * args.length + 8) s args
  match rest with
  | arg :: _ :: _ => throw (objection arg "unexpected operator")
  | _ => return truth

/-- Whether arguments are true. Three or four of them have meanings of their own; an exclamation
mark before three and another one before two of them count as one. -/
def holds (w : Surroundings) : (fuel : Nat) → (negated : Bool) → List String → Except String Bool
  | 0, _, _ => .ok false
  | _, _, [] => .ok false
  | fuel + 1, negated, first :: rest =>
    let args := first :: rest
    let inner := args.dropLast.tail
    let answer := fun (s : Symbol) (args : List String) ↦ (evaluate w s args).map (· != negated)
    if args.length = 3 && isComparison args[1]? then answer .operand args
    else if args.length = 3 || args.length = 4 then
      if first = "(" && args.getLast? = some ")" then answer (symbol inner) inner
      else if first = "!" then holds w fuel true rest
      else answer (symbol args) args
    else answer (symbol args) args

end Condition

namespace Sh

/-- Where the descriptors lead that arguments name. -/
def openedAmong (fs : FileSystem) (cwd : NodeId) :
    List String → Sh (List (Descriptor × Opened))
  | [] => return []
  | arg :: rest => do
    let others ← openedAmong fs cwd rest
    match fs.descriptorNamed? cwd (Octets.text arg) with
    | none => return others
    | some number =>
      match ← call (.inspect number) with
      | .ok opened => return (number, opened) :: others
      | .error _ => return others

/-- Finds out whether arguments are true. A name that is an opening bracket needs a closing one. -/
def test (name : String) (args : List String) : Sh Int := do
  let bracketed := name.toList.head? = some '['
  let isClosed := (args.getLast?.bind (·.toList.head?)) = some ']'
  if bracketed && !isClosed then fail "missing ]"
  let args := if bracketed then args.dropLast else args
  let s ← get
  let files ← look
  let opened ← openedAmong files s.cwd args
  let truth := Condition.holds { files, cwd := s.cwd, opened } (args.length + 1) false args
  match truth with
  | .ok true => return 0
  | .ok false => return 1
  | .error message => fail message

end Sh

end CommandShell.Script

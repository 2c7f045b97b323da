import CommandShell.Tool.Streams

/-!
# `wc`

`wc` counts the lines, words and bytes of its sources, and measures the longest line. Several
sources get a line for the sums. All numbers are as wide as the sums can get, as far as that is
known before the sources are read.
-/

namespace CommandShell.Tool

open CommandShell.Host CommandShell.Process CommandShell.Text

/-- What is counted. -/
structure CountChoice where
  lines : Bool := false
  words : Bool := false
  chars : Bool := false
  bytes : Bool := false
  longest : Bool := false
  deriving DecidableEq, Repr, Inhabited

/-- When there is a line for the sums. -/
inductive TotalRule
  | several | always | only | never
  deriving DecidableEq, Repr, Inhabited

/-- What `wc` is to do. -/
structure CountPlan where
  choice : CountChoice := {}
  total : TotalRule := .several
  deriving DecidableEq, Repr, Inhabited

/-- The options of `wc`. -/
def countGrammar : Grammar where
  short := "clmwL".toList.map fun c ↦ (c, .never)
  long := [("bytes", .never, 'c'), ("chars", .never, 'm'), ("lines", .never, 'l'),
    ("words", .never, 'w'), ("max-line-length", .never, 'L'), ("total", .always, 't')]

/-- The names of the rules for sums. -/
def totalRules : List (String × TotalRule) :=
  [("auto", .several), ("always", .always), ("only", .only), ("never", .never)]

def CountPlan.set (i : Invocation) (p : CountPlan) (c : Char) (value : Option String) :
    Job CountPlan :=
  match c with
  | 'c' => pure { p with choice := { p.choice with bytes := true } }
  | 'm' => pure { p with choice := { p.choice with chars := true } }
  | 'l' => pure { p with choice := { p.choice with lines := true } }
  | 'w' => pure { p with choice := { p.choice with words := true } }
  | 'L' => pure { p with choice := { p.choice with longest := true } }
  | _ =>
    let word := value.getD ""
    match totalRules.filter fun r ↦ word.toList.isPrefixOf r.1.toList with
    | [(_, rule)] => pure { p with total := rule }
    | meant =>
      i.refuseUsage ((if meant.isEmpty then "invalid" else "ambiguous") ++ " argument " ++
        quotedWord word ++ " for '--total'\nValid arguments are:" ++
        String.join (totalRules.map fun r ↦ "\n  - " ++ quotedWord r.1))

/-- The choice, or the usual one if nothing was chosen. -/
def CountChoice.orUsual (c : CountChoice) : CountChoice :=
  if c = {} then { lines := true, words := true, bytes := true } else c

/-- Counts, and where the counting is. -/
structure Counts where
  lines : Nat := 0
  words : Nat := 0
  bytes : Nat := 0
  longest : Nat := 0
  column : Nat := 0
  inWord : Bool := false
  deriving DecidableEq, Repr, Inhabited

namespace Counts

/-- The counts after one more byte. Only visible ASCII characters make a word. -/
def count (c : Counts) (b : UInt8) : Counts :=
  let n := b.toNat
  let isVisible := 33 ≤ n && n ≤ 126
  let isBlank := n == 32 || (9 ≤ n && n ≤ 13)
  let column := if n == 9 then c.column + (8 - c.column % 8)
    else if n == 10 || n == 12 || n == 13 then 0
    else if isVisible || n == 32 then c.column + 1
    else c.column
  let inWord := !isBlank && (c.inWord || isVisible)
  { lines := if n == 10 then c.lines + 1 else c.lines
    words := if inWord && !c.inWord then c.words + 1 else c.words
    bytes := c.bytes + 1
    longest := max c.longest column
    column, inWord }

/-- The sums of two counts; of the longest lines, the longer one. -/
def add (a b : Counts) : Counts :=
  { lines := a.lines + b.lines, words := a.words + b.words, bytes := a.bytes + b.bytes
    longest := max a.longest b.longest }

/-- The numbers of a choice, in the order in which they are shown. -/
def shown (c : Counts) (choice : CountChoice) : List Nat :=
  [(choice.lines, c.lines), (choice.words, c.words), (choice.chars, c.bytes),
    (choice.bytes, c.bytes), (choice.longest, c.longest)].filterMap fun n ↦
      if n.1 then some n.2 else none

def line (c : Counts) (choice : CountChoice) (width : Nat) (name : Option String) : String :=
  String.intercalate " " ((c.shown choice).map fun n ↦ padLeft width (toString n)) ++
    (match name with | some n => " " ++ n | none => "") ++ "\n"

end Counts

/-- What is known of a source before it is read: the size of a regular file, or that it is something
else; nothing of what cannot be looked at. -/
def knownSize (i : Invocation) (name : Option String) : Job (Option (Option Nat)) := do
  let fs ← Job.look
  let sizeOf := fun (id : NodeId) ↦ match fs.node? id with
    | some (.file _ data) => some data.size
    | _ => none
  match name with
  | some name =>
    if name != "-" then
      return match fs.find i.cwd (Octets.text name) with
        | .ok id => some (sizeOf id)
        | .error _ => none
  | none => pure ()
  match ← Job.call (.inspect 0) with
  | .ok (.file id _ _) => return some (sizeOf id)
  | .ok .pipe => return some none
  | .error _ => return none

/-- What is known of several sources. -/
def knownSizes (i : Invocation) : List (Option String) → Job (List (Option (Option Nat)))
  | [] => pure []
  | name :: rest => do
    let size ← knownSize i name
    return size :: (← knownSizes i rest)

/-- How wide the numbers are. -/
def countWidth (sizes : List (Option (Option Nat))) : Nat :=
  let total := sizes.foldl (fun n s ↦ n + (s.join.getD 0)) 0
  let least := if sizes.any (· = some none) then 7 else 1
  max least (toString total).length

/-- Writes a line of numbers. A failure at once cannot be told the reason of later. -/
def writeCounts (i : Invocation) (line : String) : Job Unit := do
  if let .error e ← Job.write 1 (Octets.bytes line) then
    i.refuse (if e = .badDescriptor then "write error: " ++ e.message else "write error")

def countSources (i : Invocation) (p : CountPlan) (width : Nat) (sum : Counts)
    (status : Int) : List (Option String) → Job (Counts × Int)
  | [] => pure (sum, status)
  | some "" :: rest => do
    i.complain "invalid zero-length file name"
    countSources i p width sum 1 rest
  | name :: rest => do
    let shown := name.getD "-"
    match ← openSource i shown with
    | .error e =>
      i.complain (shownName shown ++ ": " ++ e.message)
      countSources i p width sum 1 rest
    | .ok fd =>
      let (c, failure) ← eachPiece fd (fun (c : Counts) bytes ↦ pure (bytes.foldl Counts.count c))
        endurance {}
      closeSource fd
      if let some e := failure then
        i.complain ((if name.isNone then "'standard input'" else shownName shown) ++ ": " ++
          e.message)
      if p.total != .only then writeCounts i (c.line p.choice width name)
      countSources i p width (sum.add c) (if failure.isSome then 1 else status) rest

/-- Counts lines, words and bytes. -/
def wc (i : Invocation) : Job Int := do
  let items := countGrammar.read i.args
  let p ← i.settle items 1 (CountPlan.set i) {}
  let p := { p with choice := p.choice.orUsual }
  let operands := Grammar.operands items
  let names := if operands.isEmpty then [none] else operands.map some
  let single := (Counts.shown {} p.choice).length = 1
  let width ← if p.total = .only || (single && names.length = 1) then pure 1
    else do pure (countWidth (← knownSizes i names))
  let (sum, status) ← countSources i p width {} 0 names
  match p.total with
  | .never => pure ()
  | .several => if 1 < names.length then writeCounts i (sum.line p.choice width (some "total"))
  | .always => writeCounts i (sum.line p.choice width (some "total"))
  | .only => writeCounts i (sum.line p.choice width none)
  closeInput i (sourceNames operands) "-" status

end CommandShell.Tool

import CommandShell.Tool.SortKeys

/-!
# `sort`

`sort` writes the lines of all its sources in order. Keys are compared in turn; lines whose keys say
the same are compared as they are, unless that is not wanted. It can also drop lines that say the
same as others, and only check whether there is something to do.
-/

namespace CommandShell.Tool

open CommandShell.Host CommandShell.Process CommandShell.Text

/-! ## Options -/

/-- What `sort` is to do. -/
structure SortPlan where
  keys : List SortKey := []
  /-- The manner for keys that say nothing themselves. -/
  manner : Manner := {}
  separator : Option UInt8 := none
  unique : Bool := false
  stable : Bool := false
  merges : Bool := false
  /-- Whether the order is only checked; the flag says whether in silence. -/
  checks : Option Bool := none
  target : Option String := none
  stop : UInt8 := 10
  deriving Inhabited

/-- The status of a `sort` that fails. -/
def sortFailure : Int := 2

/-- The options of `sort`. -/
def sortGrammar : Grammar where
  short := ("bcCdfghimMnrRsuVz".toList.map fun c ↦ (c, .never)) ++
    ("koStTy".toList.map fun c ↦ (c, .always))
  long := [("ignore-leading-blanks", .never, 'b'), ("check", .perhaps, '\x01'),
    ("dictionary-order", .never, 'd'), ("ignore-case", .never, 'f'),
    ("general-numeric-sort", .never, 'g'), ("human-numeric-sort", .never, 'h'),
    ("ignore-nonprinting", .never, 'i'), ("key", .always, 'k'), ("merge", .never, 'm'),
    ("month-sort", .never, 'M'), ("numeric-sort", .never, 'n'), ("output", .always, 'o'),
    ("random-sort", .never, 'R'), ("reverse", .never, 'r'), ("stable", .never, 's'),
    ("sort", .always, '\x02'), ("buffer-size", .always, 'S'), ("field-separator", .always, 't'),
    ("temporary-directory", .always, 'T'), ("unique", .never, 'u'), ("version-sort", .never, 'V'),
    ("zero-terminated", .never, 'z'), ("parallel", .always, 'y')]

/-- The number of a field at the start of a text, and what follows it. -/
def readFieldCount (i : Invocation) (what : String) (cs : List Char) : Job (Nat × List Char) := do
  let (digits, rest) := cs.span isDigit
  if digits.isEmpty then
    i.refuse ("invalid number " ++ what ++ ": invalid count at start of " ++
      quotedWord (String.ofList cs)) sortFailure
  else return (natOf digits, rest)

/-- The manner with the letters at the start of a text, and what follows them. -/
def readManner (start stop : Bool) (m : Manner) : List Char → Manner × List Char
  | [] => (m, [])
  | c :: rest =>
    match m.set? start stop c with
    | some m => readManner start stop m rest
    | none => (m, c :: rest)

def readKey (i : Invocation) (word : String) : Job SortKey := do
  let bad := fun {α : Type} (text : String) ↦
    (i.refuse (text ++ ": invalid field specification " ++ quotedWord word) sortFailure : Job α)
  let positive := fun (n : Nat) (what : String) ↦
    if n = 0 then bad (what ++ " is zero") else (pure (n - 1) : Job Nat)
  let (field, rest) ← readFieldCount i "at field start" word.toList
  let field ← positive field "field number"
  let (char, rest) ← match rest with
    | '.' :: rest => do
      let (char, rest) ← readFieldCount i "after '.'" rest
      pure ((← positive char "character offset"), rest)
    | rest => pure (0, rest)
  let start := if field = 0 && char = 0 then none else some (field, char)
  let (manner, rest) := readManner true false {} rest
  match rest with
  | [] => return { start, manner }
  | ',' :: rest =>
    let (field, rest) ← readFieldCount i "after ','" rest
    let field ← positive field "field number"
    let (chars, rest) ← match rest with
      | '.' :: rest => readFieldCount i "after '.'" rest
      | rest => pure (0, rest)
    let (manner, rest) := readManner false true manner rest
    if rest.isEmpty then return { start, stop := some (field, chars), manner }
    else bad "stray character in field spec"
  | _ => bad "stray character in field spec"

def readSeparator (i : Invocation) (word : String) : Job UInt8 :=
  match word.toList with
  | [] => i.refuse "empty tab" sortFailure
  | [c] => pure (UInt8.ofNat c.toNat)
  | ['\\', '0'] => pure 0
  | _ => i.refuse ("multi-character tab " ++ quotedWord word) sortFailure

/-- The kinds of order that can be asked for by name. -/
def sortKinds : List (String × Char) :=
  [("general-numeric", 'g'), ("human-numeric", 'h'), ("month", 'M'), ("numeric", 'n'),
    ("random", 'R'), ("version", 'V')]

/-- The one of some names that a word is or begins; a tool refuses any other word. Names that say
the same stand side by side. -/
def choose {α : Type} [BEq α] (i : Invocation) (option : String) (names : List (String × α))
    (word : String) : Job α :=
  let meant := names.filter fun n ↦ word.toList.isPrefixOf n.1.toList
  match names.find? (·.1 == word), meant with
  | some n, _ => pure n.2
  | none, [n] => pure n.2
  | none, others =>
    let kind := if others.isEmpty then "invalid" else "ambiguous"
    i.refuseUsage (kind ++ " argument " ++ quotedWord word ++ " for '--" ++ option ++
      "'\nValid arguments are:" ++
      String.join ((names.splitBy fun a b ↦ a.2 == b.2).map fun same ↦
        "\n  - " ++ String.intercalate ", " (same.map fun n ↦ quotedWord n.1)))

def SortPlan.set (i : Invocation) (p : SortPlan) (c : Char) (value : Option String) :
    Job SortPlan := do
  let word := value.getD ""
  let check := fun (silent : Bool) ↦
    if p.checks = some (!silent) then i.refuse "options '-cC' are incompatible" sortFailure
    else (pure { p with checks := some silent } : Job SortPlan)
  match c with
  | 'c' => check false
  | 'C' => check true
  | '\x01' =>
    if value.isNone then check false
    else check (← choose i "check" [("quiet", true), ("silent", true), ("diagnose-first", false)]
      word)
  | '\x02' =>
    let c ← choose i "sort" sortKinds word
    return { p with manner := (p.manner.set? true true c).getD p.manner }
  | 'k' => return { p with keys := p.keys ++ [← readKey i word] }
  | 'm' => return { p with merges := true }
  | 'o' =>
    if p.target.any (· != word) then i.refuse "multiple output files specified" sortFailure
    else return { p with target := some word }
  | 's' => return { p with stable := true }
  | 't' =>
    let separator ← readSeparator i word
    if p.separator.any (· != separator) then i.refuse "incompatible tabs" sortFailure
    else return { p with separator := some separator }
  | 'u' => return { p with unique := true }
  | 'z' => return { p with stop := 0 }
  | c => return { p with manner := (p.manner.set? true true c).getD p.manner }

/-- The plan with the manner for those keys that say nothing themselves. A manner without keys is
for the whole line. -/
def SortPlan.complete (p : SortPlan) : SortPlan :=
  if p.keys.isEmpty then
    if p.manner.isSilent then p else { p with keys := [{ manner := p.manner }] }
  else
    { p with keys := p.keys.map fun k ↦
        if k.manner.isSilent && !k.manner.reverses then { k with manner := p.manner } else k }

/-! ## Order -/

/-- A line with what its keys say. -/
structure SortLine where
  line : ByteArray
  values : List KeyValue
  deriving Inhabited

namespace SortPlan

/-- A line with what its keys say. -/
def readLine (p : SortPlan) (line : ByteArray) : SortLine where
  line := line
  values := p.keys.map fun k ↦ k.manner.value (k.part p.separator line)

/-- Compares what the keys of lines say. -/
def compareKeys : List SortKey → List KeyValue → List KeyValue → Ordering
  | k :: keys, x :: xs, y :: ys =>
    match x.compare y with
    | .eq => compareKeys keys xs ys
    | o => if k.manner.reverses then o.swap else o
  | _, _, _ => .eq

def compare (p : SortPlan) (a b : SortLine) : Ordering :=
  let last := fun (_ : Unit) ↦
    let o := compareBytes a.line b.line
    if p.manner.reverses then o.swap else o
  if p.keys.isEmpty then last ()
  else match compareKeys p.keys a.values b.values with
    | .eq => if p.unique || p.stable then .eq else last ()
    | o => o

/-- Whether a line may come before another one. -/
def mayPrecede (p : SortPlan) (a b : SortLine) : Bool :=
  p.compare a b != .gt

/-- Without the lines that say the same as the line before them. -/
def dropRepeated (p : SortPlan) : List SortLine → List SortLine
  | [] => []
  | first :: rest => go first rest
where
  /-- The lines from `first` on that differ from those before them. -/
  go (first : SortLine) : List SortLine → List SortLine
    | [] => [first]
    | line :: rest =>
      if p.compare first line = .eq then go first rest else first :: go line rest

/-- The first line that is not where it belongs, and its number. -/
def disorder? (p : SortPlan) (number : Nat) : List SortLine → Option (Nat × ByteArray)
  | a :: b :: rest =>
    match p.compare a b with
    | .gt => some (number + 1, b.line)
    | .eq => if p.unique then some (number + 1, b.line) else p.disorder? (number + 1) (b :: rest)
    | .lt => p.disorder? (number + 1) (b :: rest)
  | _ => none

/-- The lines of all sources in order. -/
def arrange (p : SortPlan) (sources : List (List SortLine)) : List SortLine :=
  let all := if p.merges then sources.foldl (fun done lines ↦ done.merge lines p.mayPrecede) []
    else sources.flatten.mergeSort p.mayPrecede
  if p.unique then p.dropRepeated all else all

/-! ## The tool -/

def linesOf (i : Invocation) (p : SortPlan) (name : String) : Job (List SortLine) := do
  let failed := fun (what : String) (e : Errno) ↦
    (i.refuse (what ++ ": " ++ shownName name ++ ": " ++ e.message) sortFailure :
      Job (List SortLine))
  match ← openSource i name with
  | .error e => failed "open failed" e
  | .ok fd =>
    let (bytes, failure) ← readAll fd
    closeSource fd
    match failure with
    | some e => failed "read failed" e
    | none =>
      return (byteLines p.stop bytes).map fun line ↦
        let size := if line.get! (line.size - 1) == p.stop then line.size - 1 else line.size
        p.readLine (line.extract 0 size)

/-- The lines of several sources. -/
def linesOfAll (i : Invocation) (p : SortPlan) : List String → Job (List (List SortLine))
  | [] => pure []
  | name :: rest => do
    let lines ← p.linesOf i name
    return lines :: (← linesOfAll i p rest)

/-- Refuses to go on if one of the sources cannot be read. -/
def checkSources (i : Invocation) (names : List String) : Job Unit := do
  let fs ← Job.look
  let missing := names.findSome? fun name ↦
    if name = "-" then none
    else match fs.find i.cwd (Octets.text name) with
      | .ok _ => none
      | .error e => some (name, e)
  if let some (name, e) := missing then
    i.refuse ("cannot read: " ++ shownName name ++ ": " ++ e.message) sortFailure

/-- Opens the file that the lines are to be written to. -/
def openTarget (i : Invocation) (name : String) (mode : OpenMode) : Job Descriptor := do
  match ← Job.call (.openFile i.cwd (Octets.text name) mode) with
  | .ok fd => return fd
  | .error e => i.refuse ("open failed: " ++ shownName name ++ ": " ++ e.message) sortFailure

def writeLines (i : Invocation) (p : SortPlan) (lines : List SortLine) : Job Unit := do
  let bytes := lines.foldl (fun out l ↦ (out ++ l.line).push p.stop) ByteArray.empty
  let (fd, shown) ← match p.target with
    | none => pure (1, "'standard output'")
    | some name => do
      pure ((← openTarget i name { writes := true, truncates := true }), shownName name)
  if !bytes.isEmpty then
    if let .error e ← Job.write fd bytes then
      let what := if bytes.size ≤ bufferSize then "fflush failed: " else "write failed: "
      i.complain (what ++ shown ++ ": " ++ e.message)
      if p.target.isNone then i.complain "write error"
      Job.exit sortFailure

def checkOrder (i : Invocation) (p : SortPlan) (silent : Bool) (name : String) : Job Int := do
  match p.disorder? 1 (← p.linesOf i name) with
  | none => return 0
  | some (number, line) =>
    if !silent then
      i.complain (shownName name ++ ":" ++ toString number ++ ": disorder: " ++
        Octets.ofBytes line)
    return 1

end SortPlan

/-- Writes the lines of its sources in order. -/
def sort (i : Invocation) : Job Int := do
  let items := sortGrammar.read i.args
  let p ← i.settle items sortFailure (SortPlan.set i) {}
  let p := p.complete
  let names := sourceNames (Grammar.operands items)
  if let some k := p.keys.find? fun k ↦ !k.manner.isConsistent then
    i.refuse ("options '-" ++ k.manner.letters ++ "' are incompatible") sortFailure
  match p.checks with
  | some silent =>
    let letter := if silent then "C" else "c"
    if let _ :: extra :: _ := names then
      i.refuse ("extra operand " ++ quotedName extra ++ " not allowed with -" ++ letter) sortFailure
    if p.target.isSome then
      i.refuse ("options '-" ++ letter ++ "o' are incompatible") sortFailure
    SortPlan.checkSources i names
    p.checkOrder i silent (names.headD "-")
  | none =>
    SortPlan.checkSources i names
    if names.contains "-" then
      if let .error e ← Job.call (.inspect 0) then
        i.refuse ("stat failed: -: " ++ e.message) sortFailure
    if let some name := p.target then
      closeSource (← SortPlan.openTarget i name { writes := true, creates := true })
    p.writeLines i (p.arrange (← p.linesOfAll i names))
    return 0

end CommandShell.Tool

import CommandShell.Tool.Streams

/-!
# `cat` and `tee`

`cat` copies its sources to standard output, in order and as they come. It can number the lines,
drop blank lines that follow blank lines, and show what is not visible. `tee` copies standard input
to standard output and to files.
-/

namespace CommandShell.Tool

open CommandShell.Host CommandShell.Process CommandShell.Text

/-! ## `cat` -/

/-- What `cat` does to what it copies. -/
structure CatStyle where
  numbers : Bool := false
  /-- Whether blank lines have no number. -/
  skipsBlank : Bool := false
  squeezes : Bool := false
  showsEnds : Bool := false
  showsTabs : Bool := false
  showsHidden : Bool := false
  deriving DecidableEq, Repr, Inhabited

/-- Where `cat` is in what it copies. -/
structure CatState where
  number : Nat := 0
  /-- Whether something was copied since the last end of a line. -/
  inLine : Bool := false
  /-- Whether the last line was blank. -/
  afterBlank : Bool := false
  /-- Whether a carriage return is held back. -/
  heldReturn : Bool := false
  out : ByteArray := ByteArray.empty
  deriving Inhabited

namespace CatState

def put (s : CatState) (text : String) : CatState :=
  { s with out := s.out ++ text.toUTF8 }

/-- The state with a byte copied. -/
def push (s : CatState) (b : UInt8) : CatState :=
  { s with out := s.out.push b }

/-- The state with the number of a new line copied. -/
def putNumber (s : CatState) : CatState :=
  { s with number := s.number + 1 }.put (padLeft 6 (toString (s.number + 1)) ++ "\t")

/-- A byte that is not visible, as visible ones. -/
def hiddenShown (b : UInt8) : String :=
  let low := fun (n : Nat) ↦
    if n < 32 then String.ofList ['^', Char.ofNat (n + 64)]
    else if n = 127 then "^?"
    else String.ofList [Char.ofNat n]
  let n := b.toNat
  if n < 128 then low n else "M-" ++ low (n - 128)

/-- Copies one byte. -/
def copy (style : CatStyle) (s : CatState) (b : UInt8) : CatState :=
  let isEnd := b == 10
  let s := if s.heldReturn then
      let s := { s with heldReturn := false }
      if isEnd then s.put "^M" else s.push 13
    else s
  if isEnd then
    let blank := !s.inLine
    if blank && s.afterBlank && style.squeezes then s
    else
      let s := if blank && style.numbers && !style.skipsBlank then s.putNumber else s
      let s := (if style.showsEnds then s.put "$" else s).push 10
      { s with inLine := false, afterBlank := blank }
  else
    let s := if !s.inLine && style.numbers then s.putNumber else s
    let s := { s with inLine := true }
    if b == 9 then if style.showsTabs then s.put "^I" else s.push b
    else if style.showsHidden then s.put (hiddenShown b)
    else if b == 13 && style.showsEnds then { s with heldReturn := true }
    else s.push b

end CatState

/-- The options of `cat`. -/
def catGrammar : Grammar where
  short := "benstuvAET".toList.map fun c ↦ (c, .never)
  long := [("number-nonblank", .never, 'b'), ("number", .never, 'n'),
    ("squeeze-blank", .never, 's'), ("show-nonprinting", .never, 'v'), ("show-ends", .never, 'E'),
    ("show-tabs", .never, 'T'), ("show-all", .never, 'A')]

def CatStyle.set (style : CatStyle) : Char → CatStyle
  | 'b' => { style with numbers := true, skipsBlank := true }
  | 'e' => { style with showsEnds := true, showsHidden := true }
  | 'n' => { style with numbers := true }
  | 's' => { style with squeezes := true }
  | 't' => { style with showsTabs := true, showsHidden := true }
  | 'v' => { style with showsHidden := true }
  | 'A' => { style with showsHidden := true, showsEnds := true, showsTabs := true }
  | 'E' => { style with showsEnds := true }
  | 'T' => { style with showsTabs := true }
  | _ => style

/-- Whether `cat` would read what it writes: the source is the file that it writes to, and what is
written comes after the place where it reads. -/
def feedsItself (fs : FileSystem) : (source target : Opened) → Bool
  | .file node offset _, .file other place mode =>
    node == other && offset < (if mode.appends then fs.size node else place) &&
      (match fs.node? node with | some (.file _ _) => true | _ => false)
  | _, _ => false

/-- Copies one source. The answer is the state, and whether all went well. -/
def catSource (i : Invocation) (style : CatStyle) (target : Opened) (s : CatState)
    (name : String) : Job (CatState × Bool) := do
  match ← openSource i name with
  | .error e =>
    i.complain (shownName name ++ ": " ++ e.message)
    return (s, false)
  | .ok fd =>
    let feeds ← match ← Job.call (.inspect fd) with
      | .ok source => pure (feedsItself (← Job.look) source target)
      | .error _ => pure false
    if feeds then
      i.complain (shownName name ++ ": input file is output file")
      closeSource fd
      return (s, false)
    let (s, failure) ← eachPiece fd (fun s bytes ↦ do
      if style = {} then
        emit i bytes
        pure s
      else
        let s := bytes.foldl (CatState.copy style) s
        emit i s.out
        pure { s with out := ByteArray.empty }) endurance s
    if let some e := failure then i.complain (shownName name ++ ": " ++ e.message)
    closeSource fd
    return (s, failure.isNone)

/-- Copies sources in order; the answer is the status. -/
def catSources (i : Invocation) (style : CatStyle) (target : Opened) (s : CatState)
    (status : Int) : List String → Job Int
  | [] => do
    if s.heldReturn then emit i ⟨#[13]⟩
    return status
  | name :: rest => do
    let (s, ok) ← catSource i style target s name
    catSources i style target s (if ok then status else 1) rest

/-- Copies its sources to standard output. -/
def cat (i : Invocation) : Job Int := do
  let items := catGrammar.read i.args
  let style ← i.settle items 1 (fun (style : CatStyle) letter _ ↦ pure (style.set letter)) {}
  match ← Job.call (.inspect 1) with
  | .error e => i.refuse ("standard output: " ++ e.message)
  | .ok target =>
    let names := sourceNames (Grammar.operands items)
    let status ← catSources i style target {} 0 names
    closeInput i names "closing standard input" status

/-! ## `tee` -/

/-- The options of `tee`. -/
def teeGrammar : Grammar where
  short := [('a', .never), ('i', .never), ('p', .never)]
  long := [("append", .never, 'a'), ("ignore-interrupts", .never, 'i'),
    ("output-error", .perhaps, 'p')]

/-- Opens files to write to; one that cannot be opened is complained about. -/
def openTargets (i : Invocation) (keep : Bool) :
    List String → Job (List (String × Descriptor) × Int)
  | [] => pure ([], 0)
  | name :: rest => do
    match ← Job.call (.openFile i.cwd (Octets.text name) (.writing keep)) with
    | .ok fd =>
      let (targets, status) ← openTargets i keep rest
      return ((shownName name, fd) :: targets, status)
    | .error e =>
      i.complain (shownName name ++ ": " ++ e.message)
      let (targets, _) ← openTargets i keep rest
      return (targets, 1)

def writeTargets (i : Invocation) (bytes : ByteArray) :
    List (String × Descriptor) → Job (List (String × Descriptor))
  | [] => pure []
  | (name, fd) :: rest => do
    match ← Job.write fd bytes with
    | .ok () => return (name, fd) :: (← writeTargets i bytes rest)
    | .error e =>
      i.complain (name ++ ": " ++ e.message)
      writeTargets i bytes rest

/-- Copies standard input to standard output and to files as it comes. -/
def tee (i : Invocation) : Job Int := do
  let items := teeGrammar.read i.args
  let keep ← i.settle items 1 (fun (keep : Bool) letter _ ↦ pure (keep || letter = 'a')) false
  let (targets, status) ← openTargets i keep (Grammar.operands items)
  let all := ("'standard output'", 1) :: targets
  let (left, failure) ← eachPiece 0 (fun left bytes ↦ writeTargets i bytes left) endurance all
  if let some e := failure then i.complain ("read error: " ++ e.message)
  closeInput i ["-"] "standard input"
    (if left.length < all.length || failure.isSome then 1 else status)

end CommandShell.Tool

import CommandShell.Tool.Streams

/-!
# `head` and `tail`

`head` writes the beginning of its sources and `tail` their end, as so many lines or so many bytes,
or as all but so many at the other end. Several sources get a heading each. `head` reads no more
lines than it has to: what it read too much of a file is given back.
-/

namespace CommandShell.Tool

open CommandShell.Host CommandShell.Process CommandShell.Text

/-! ## How much -/

/-- How much of a source is wanted. -/
structure Extent where
  /-- Whether bytes are counted and not lines. -/
  bytes : Bool := false
  /-- Whether the count says how much is left out at the other end. -/
  allBut : Bool := false
  count : Nat := 10
  /-- The end of a line. -/
  stop : UInt8 := 10
  /-- Whether sources get a heading; if nothing is said, several do. -/
  headings : Option Bool := none
  deriving DecidableEq, Repr, Inhabited

/-- One more than the greatest count. -/
def countBound : Nat := 0x10000000000000000

/-- What a letter after a count stands for. -/
def unit? (thousand : Nat) (c : Char) : Option Nat :=
  let letters := "KMGTPEZYRQ".toList
  (letters.findIdx? (· = if c = 'k' then 'K' else if c = 'm' then 'M' else c)).map fun power ↦
    Nat.pow thousand (power + 1)

/-- What stands after the digits of a count. -/
def multiplier? : List Char → Option Nat
  | [] => some 1
  | ['b'] => some 512
  | [c] => unit? 1024 c
  | [c, 'B'] => unit? 1000 c
  | [c, 'i', 'B'] => unit? 1024 c
  | _ => none

/-- Why a count cannot be used. -/
inductive CountFault
  | malformed
  | tooLarge
  deriving DecidableEq, Repr, Inhabited

/-- The count that a word stands for. A unit alone stands for one of it. -/
def readCount (word : String) : Except CountFault Nat :=
  let cs := word.toList.dropWhile isSpace
  let cs := match cs with
    | '+' :: rest => if (rest.head?.map isDigit).getD false then rest else cs
    | _ => cs
  let (digits, rest) := cs.span isDigit
  match multiplier? rest with
  | none => .error .malformed
  | some unit =>
    if digits.isEmpty && rest.isEmpty then .error .malformed
    else
      let count := (if digits.isEmpty then 1 else natOf digits) * unit
      if countBound ≤ count then .error .tooLarge else .ok count

/-- The count that a word stands for; a tool refuses a word that stands for none. -/
def countFor (i : Invocation) (bytes : Bool) (word : String) : Job Nat := do
  let complaint := "invalid number of " ++ (if bytes then "bytes" else "lines") ++ ": " ++
    quotedWord word
  match readCount word with
  | .ok count => pure count
  | .error .malformed => i.refuse complaint
  | .error .tooLarge => i.refuse (complaint ++ ": Value too large for defined data type")

/-- The options of `head` and `tail`. -/
def partGrammar : Grammar where
  short := [('c', .always), ('n', .always), ('q', .never), ('v', .never), ('z', .never)] ++
    "0123456789".toList.map fun c ↦ (c, .never)
  long := [("bytes", .always, 'c'), ("lines", .always, 'n'), ("quiet", .never, 'q'),
    ("silent", .never, 'q'), ("verbose", .never, 'v'), ("zero-terminated", .never, 'z')]

/-- The extent with an option other than a count. -/
def Extent.set (i : Invocation) (e : Extent) : Char → Job Extent
  | 'q' => pure { e with headings := some false }
  | 'v' => pure { e with headings := some true }
  | 'z' => pure { e with stop := 0 }
  | c => i.refuseUsage ("invalid trailing option -- " ++ c.toString)

/-- The extent with an option of `head`. A dash before a count is for what is left out. -/
def Extent.setHead (i : Invocation) (e : Extent) (c : Char) (value : Option String) :
    Job Extent := do
  if c = 'c' || c = 'n' then
    let word := value.getD ""
    let (allBut, word) := match word.toList with
      | '-' :: rest => (true, String.ofList rest)
      | _ => (false, word)
    let count ← countFor i (c = 'c') word
    return { e with bytes := c = 'c', allBut, count }
  else e.set i c

/-- The extent with an option of `tail`. A plus before a count is for the first line or byte that is
wanted. -/
def Extent.setTail (i : Invocation) (e : Extent) (c : Char) (value : Option String) :
    Job Extent := do
  if c = 'c' || c = 'n' then
    let word := value.getD ""
    match word.toList with
    | '+' :: _ =>
      let count ← countFor i (c = 'c') word
      return { e with bytes := c = 'c', allBut := true, count := count - 1 }
    | '-' :: rest =>
      let count ← countFor i (c = 'c') (String.ofList rest)
      return { e with bytes := c = 'c', allBut := false, count }
    | _ =>
      let count ← countFor i (c = 'c') word
      return { e with bytes := c = 'c', allBut := false, count }
  else e.set i c

/-- The extent with a letter after a count that is an argument of its own. -/
def Extent.setTrailing (i : Invocation) (e : Extent) : List Char → Job Extent
  | [] => pure e
  | c :: rest => do
    let e ← match c with
      | 'c' => pure { e with bytes := true }
      | 'b' => pure { e with bytes := true, count := e.count * 512 }
      | 'k' => pure { e with bytes := true, count := e.count * 1024 }
      | 'm' => pure { e with bytes := true, count := e.count * 1048576 }
      | 'l' => pure { e with bytes := false }
      | c => e.set i c
    e.setTrailing i rest

/-- The extent that the first argument asks for if it is a dash and a count, and the arguments that
are left. -/
def leadingCount (i : Invocation) : Job (Extent × List String) := do
  match i.args with
  | [] => return ({}, [])
  | arg :: rest =>
    match arg.toList with
    | '-' :: c :: cs =>
      if isDigit c then
        let (digits, trailing) := (c :: cs).span isDigit
        let e ← Extent.setTrailing i { count := natOf digits } trailing
        if countBound ≤ e.count then
          let _ ← countFor i e.bytes (String.ofList digits)
        return (e, rest)
      else return ({}, i.args)
    | _ => return ({}, i.args)

/-! ## Headings -/

def eachSource (i : Invocation) (headings : Bool)
    (write : Descriptor → Job (Option Errno)) (isFirst : Bool) (status : Int) :
    List String → Job Int
  | [] => pure status
  | name :: rest => do
    let shown := if name = "-" then "standard input" else name
    match ← openSource i name with
    | .error e =>
      i.complain ("cannot open " ++ quotedName name ++ " for reading: " ++ e.message)
      eachSource i headings write isFirst 1 rest
    | .ok fd =>
      if headings then
        emitText i ((if isFirst then "" else "\n") ++ "==> " ++ shown ++ " <==\n")
      let failure ← write fd
      closeSource fd
      match failure with
      | none => eachSource i headings write false status rest
      | some e =>
        i.complain ("error reading " ++ quotedName shown ++ ": " ++ e.message)
        eachSource i headings write false 1 rest

/-! ## The beginning -/

/-- The place after so many ends of lines, unless there are fewer; then how many there are. -/
def placeAfter (stop : UInt8) (count : Nat) (bytes : ByteArray) : Except Nat Nat :=
  go bytes.size 0 count
where
  /-- The place after `left` more ends of lines. -/
  go : (fuel : Nat) → (place left : Nat) → Except Nat Nat
    | _, place, 0 => .ok place
    | 0, _, left => .error (count - left)
    | fuel + 1, place, left =>
      go fuel (place + 1) (if bytes.get! place == stop then left - 1 else left)

/-- Gives bytes back to a file that they were read from. -/
def giveBack (fd : Descriptor) (count : Nat) : Job Unit := do
  if 0 < count then
    if let .ok (.file _ offset _) ← Job.call (.inspect fd) then
      let _ ← Job.call (.seek fd (offset - count))

def writeLines (i : Invocation) (stop : UInt8) (fd : Descriptor) :
    (fuel : Nat) → (count : Nat) → Job (Option Errno)
  | _, 0 => pure none
  | 0, _ => pure none
  | fuel + 1, count => do
    match ← Job.read fd 8192 with
    | .error e => return some e
    | .ok bytes =>
      if bytes.isEmpty then return none
      match placeAfter stop count bytes with
      | .ok place =>
        giveBack fd (bytes.size - place)
        emitPart i (bytes.extract 0 place)
        return none
      | .error seen =>
        emitPart i bytes
        writeLines i stop fd fuel (count - seen)

def writeBytes (i : Invocation) (fd : Descriptor) :
    (fuel : Nat) → (count : Nat) → Job (Option Errno)
  | _, 0 => pure none
  | 0, _ => pure none
  | fuel + 1, count => do
    match ← Job.read fd (min count 8192) with
    | .error e => return some e
    | .ok bytes =>
      if bytes.isEmpty then return none
      emitPart i bytes
      writeBytes i fd fuel (count - bytes.size)

/-- The bytes without so many lines or bytes at the end. -/
def Extent.withoutLast (e : Extent) (bytes : ByteArray) : ByteArray :=
  if e.bytes then bytes.extract 0 (bytes.size - e.count)
  else
    let lines := byteLines e.stop bytes
    joinBytes (lines.take (lines.length - e.count))

def writeBeginning (i : Invocation) (e : Extent) (fd : Descriptor) : Job (Option Errno) := do
  if e.allBut then
    let (bytes, failure) ← readAll fd
    let part := e.withoutLast bytes
    emitPart i part
    giveBack fd (bytes.size - part.size)
    return failure
  else if e.bytes then writeBytes i fd endurance e.count
  else writeLines i e.stop fd endurance e.count

/-- Writes the beginning of its sources. -/
def head (i : Invocation) : Job Int := do
  let (e, args) ← leadingCount i
  let items := partGrammar.read args
  let e ← i.settle items 1 (Extent.setHead i) e
  let names := sourceNames (Grammar.operands items)
  let headings := e.headings.getD (1 < names.length)
  let status ← eachSource i headings (writeBeginning i e) true 0 names
  closeInput i names "-" status

/-! ## The end -/

/-- The part at the end of some bytes. -/
def Extent.last (e : Extent) (bytes : ByteArray) : ByteArray :=
  if e.bytes then
    bytes.extract (if e.allBut then e.count else bytes.size - e.count) bytes.size
  else
    let lines := byteLines e.stop bytes
    joinBytes (lines.drop (if e.allBut then e.count else lines.length - e.count))

def writeEnd (i : Invocation) (e : Extent) (fd : Descriptor) : Job (Option Errno) := do
  let (bytes, failure) ← readAll fd
  emitPart i (e.last bytes)
  return failure

/-- Writes the end of its sources. -/
def tail (i : Invocation) : Job Int := do
  let (e, args) ← leadingCount i
  let items := partGrammar.read args
  let e ← i.settle items 1 (Extent.setTail i) e
  let names := sourceNames (Grammar.operands items)
  let headings := e.headings.getD (1 < names.length)
  let status ← eachSource i headings (writeEnd i e) true 0 names
  closeInput i names "-" status

end CommandShell.Tool

import CommandShell.Tool.Streams

/-!
# The keys that lines are sorted by

A key is a part of a line, given by fields and characters in them, and a manner of comparing such
parts: byte by byte, perhaps without regard to case or to some characters, or as numbers of some
kind. Each key of a line is read once, as a `KeyValue`.
-/

namespace CommandShell.Tool

/-- How the parts of lines are compared. -/
structure Manner where
  skipsStart : Bool := false
  skipsEnd : Bool := false
  /-- Whether only blanks, letters and digits count. -/
  dictionary : Bool := false
  folds : Bool := false
  general : Bool := false
  human : Bool := false
  /-- Whether only visible characters count. -/
  visible : Bool := false
  month : Bool := false
  numeric : Bool := false
  /-- Whether any order will do that keeps equal parts together. -/
  shuffled : Bool := false
  version : Bool := false
  reverses : Bool := false
  deriving DecidableEq, Repr, Inhabited

namespace Manner

/-- The manner with a letter; some letters may concern one end of a key only. -/
def set? (m : Manner) (start stop : Bool) : Char → Option Manner
  | 'b' => some { m with skipsStart := m.skipsStart || start, skipsEnd := m.skipsEnd || stop }
  | 'd' => some { m with dictionary := true, visible := false }
  | 'f' => some { m with folds := true }
  | 'g' => some { m with general := true }
  | 'h' => some { m with human := true }
  | 'i' => some { m with visible := !m.dictionary }
  | 'M' => some { m with month := true }
  | 'n' => some { m with numeric := true }
  | 'V' => some { m with version := true }
  | 'R' => some { m with shuffled := true }
  | 'r' => some { m with reverses := true }
  | _ => none

/-- Whether nothing is said but perhaps the direction. -/
def isSilent (m : Manner) : Bool :=
  { m with reverses := false } = {}

/-- The letters of a manner that say what parts are. -/
def letters (m : Manner) : String :=
  String.ofList ([(m.dictionary, 'd'), (m.folds, 'f'), (m.general, 'g'), (m.human, 'h'),
    (m.visible, 'i'), (m.month, 'M'), (m.numeric, 'n'), (m.shuffled, 'R'),
    (m.version, 'V')].filterMap fun l ↦ if l.1 then some l.2 else none)

/-- Whether a manner says at most one thing of what parts are. -/
def isConsistent (m : Manner) : Bool :=
  [m.numeric, m.general, m.human, m.month,
    m.version || m.shuffled || m.dictionary || m.visible].count true ≤ 1

end Manner

/-- A part of lines. Fields and characters are counted from 0. -/
structure SortKey where
  /-- Where the part starts, if not with the line. -/
  start : Option (Nat × Nat) := none
  /-- The last field, and how many of its characters belong to the part; 0 is for all. -/
  stop : Option (Nat × Nat) := none
  manner : Manner := {}
  deriving DecidableEq, Repr, Inhabited

/-! ## Parts of lines -/

/-- Whether a byte is a blank between fields. -/
def isFieldBlank (b : UInt8) : Bool :=
  b == 32 || b == 9 || b == 10

/-- The first place from `place` on whose byte has not the property, at most the end. -/
def skipWhile (p : UInt8 → Bool) (bytes : ByteArray) (place : Nat) : Nat :=
  go (bytes.size - place) place
where
  /-- The place after at most `left` bytes. -/
  go : (left : Nat) → Nat → Nat
    | 0, place => place
    | left + 1, place => if p (bytes.get! place) then go left (place + 1) else place

/-- The place after a field: after its separator if `past` says so, where there is one. -/
def skipField (separator : Option UInt8) (past : Bool) (line : ByteArray) (place : Nat) : Nat :=
  match separator with
  | none => skipWhile (!isFieldBlank ·) line (skipWhile isFieldBlank line place)
  | some c =>
    let place := skipWhile (· != c) line place
    if past && place < line.size then place + 1 else place

def skipFields (separator : Option UInt8) (line : ByteArray) (count : Nat) (place : Nat) : Nat :=
  match count with
  | 0 => place
  | count + 1 =>
    if place < line.size then
      skipFields separator line count (skipField separator true line place)
    else place

namespace SortKey

def startIn (k : SortKey) (separator : Option UInt8) (line : ByteArray) : Nat :=
  let (field, char) := k.start.getD (0, 0)
  let place := skipFields separator line field 0
  let place := if k.manner.skipsStart then skipWhile isFieldBlank line place else place
  min line.size (place + char)

def stopIn (k : SortKey) (separator : Option UInt8) (line : ByteArray) : Nat :=
  match k.stop with
  | none => line.size
  | some (field, 0) =>
    let place := skipFields separator line field 0
    if place < line.size then skipField separator false line place else place
  | some (field, chars) =>
    let place := skipFields separator line field 0
    let place := if k.manner.skipsEnd then skipWhile isFieldBlank line place else place
    min line.size (place + chars)

def part (k : SortKey) (separator : Option UInt8) (line : ByteArray) : ByteArray :=
  let start := k.startIn separator line
  line.extract start (max start (k.stopIn separator line))

end SortKey

/-! ## Values of keys -/

/-- A decimal number: the mantissa, and the power of ten that it is to be multiplied by. -/
structure Decimal where
  mantissa : Int := 0
  power : Int := 0
  deriving DecidableEq, Repr, Inhabited

def Decimal.compare (a b : Decimal) : Ordering :=
  let least := min a.power b.power
  compareOfLessAndEq (a.mantissa * Int.pow 10 (a.power - least).toNat)
    (b.mantissa * Int.pow 10 (b.power - least).toNat)

/-- The decimal number at the start of a text after its sign, and what follows it. -/
def readUnsigned (negative : Bool) (cs : List Char) : Decimal × List Char :=
  let (whole, rest) := cs.span isDigit
  let (fraction, rest) := match rest with
    | '.' :: rest => rest.span isDigit
    | rest => ([], rest)
  let size : Int := natOf (whole ++ fraction)
  ({ mantissa := if negative then -size else size, power := -(fraction.length : Int) }, rest)

/-- The decimal number at the start of a text, and what follows it. -/
def readDecimal : List Char → Decimal × List Char
  | '-' :: cs => readUnsigned true cs
  | cs => readUnsigned false cs

/-- What a key says. -/
inductive KeyValue
  | text (bytes : ByteArray)
  | number (order : Int) (value : Decimal)
  | version (text : List Char)
  deriving Inhabited

/-- The months, as they are abbreviated. -/
def monthNames : List String :=
  ["JAN", "FEB", "MAR", "APR", "MAY", "JUN", "JUL", "AUG", "SEP", "OCT", "NOV", "DEC"]

/-- A general number at the start of a text: first what is none, then what says it is none, then
the numbers with the infinite ones at both ends. -/
def generalValue (cs : List Char) : KeyValue :=
  let cs := cs.dropWhile isSpace
  let (negative, body) := match cs with
    | '-' :: rest => (true, rest)
    | '+' :: rest => (false, rest)
    | rest => (false, rest)
  let starts := fun (word : String) ↦ word.toList.isPrefixOf (body.map Char.toLower)
  if starts "inf" then .number (if negative then 2 else 4) {}
  else if starts "nan" then .number 1 {}
  else if (body.dropWhile (· = '.')).head?.any isDigit && !"..".toList.isPrefixOf body then
    let (value, rest) := readUnsigned negative body
    let exponent : Int := match rest with
      | e :: rest =>
        if e = 'e' || e = 'E' then
          let size := fun (digits : List Char) ↦ min (natOf (digits.takeWhile isDigit)) 5000
          match rest with
          | '-' :: digits => -(size digits : Int)
          | '+' :: digits => size digits
          | digits => size digits
        else 0
      | [] => 0
    .number 3 { value with power := value.power + exponent }
  else .number 0 {}

/-- A number with a unit, which counts first. -/
def humanValue (cs : List Char) : KeyValue :=
  let (value, rest) := readDecimal cs
  let order : Int := match rest with
    | [] => 0
    | c :: _ =>
      let units := "KMGTPEZYRQ".toList
      match units.findIdx? (· = if c = 'k' then 'K' else c) with
      | some n => n + 1
      | none => 0
  .number (if value.mantissa = 0 then 0 else if value.mantissa < 0 then -order else order) value

/-- Whether a byte counts when parts are compared in some manner. -/
def Manner.heeds (m : Manner) (b : UInt8) : Bool :=
  let c := Char.ofNat b.toNat
  if m.dictionary then isFieldBlank b || c.isAlphanum
  else if m.visible then ' ' ≤ c && c ≤ '~'
  else true

/-- A byte as it is compared in some manner. -/
def Manner.fold (m : Manner) (b : UInt8) : UInt8 :=
  if m.folds && 97 ≤ b && b ≤ 122 then b - 32 else b

/-- What the key of a line says. -/
def Manner.value (m : Manner) (part : ByteArray) : KeyValue :=
  let text := fun (bytes : ByteArray) ↦ bytes.toList.map fun b ↦ Char.ofNat b.toNat
  let unindented := fun (_ : Unit) ↦ text (part.extract (skipWhile isFieldBlank part 0) part.size)
  if m.numeric then .number 0 (readDecimal (unindented ())).1
  else if m.general then generalValue (text part)
  else if m.human then humanValue (unindented ())
  else if m.month then
    let name := String.ofList (((unindented ()).take 3).map Char.toUpper)
    .number ((monthNames.findIdx? (· = name)).elim 0 fun n ↦ n + 1) {}
  else
    let kept : ByteArray :=
      if m.dictionary || m.visible || m.folds then
        part.foldl (fun kept b ↦ if m.heeds b then kept.push (m.fold b) else kept) ByteArray.empty
      else part
    if m.version then .version (text kept) else .text kept

/-! ## Comparing -/

def compareBytes (a b : ByteArray) : Ordering :=
  go (min a.size b.size) 0
where
  /-- Compares from a place on. -/
  go : (left : Nat) → Nat → Ordering
    | 0, _ => compare a.size b.size
    | left + 1, place =>
      let x := a.get! place
      let y := b.get! place
      if x == y then go left (place + 1) else if x < y then .lt else .gt

/-- The rank of a character in a version: a tilde comes before the end, letters before all else. -/
def versionRank (c : Char) : Nat :=
  if c = '~' then 0 else if c.isAlpha then c.toNat + 2 else c.toNat + 256

/-- Compares the parts of versions in turn, those without digits and the numbers. -/
def compareRuns : (fuel : Nat) → List Char → List Char → Ordering
  | 0, _, _ => .eq
  | _, [], [] => .eq
  | fuel + 1, a, b =>
    let (x, a) := a.span fun c ↦ !isDigit c
    let (y, b) := b.span fun c ↦ !isDigit c
    let ranks := fun (run : List Char) ↦ run.map versionRank ++ [1]
    match compare (ranks x) (ranks y) with
    | .eq =>
      let (m, a) := a.span isDigit
      let (n, b) := b.span isDigit
      match compare (natOf m) (natOf n) with
      | .eq => compareRuns fuel a b
      | o => o
    | o => o

/-- What stands before a dot and so many characters. -/
def stemBefore (cs : List Char) (count : Nat) : Option (List Char) :=
  match cs.reverse.drop count with
  | '.' :: stem => if stem.isEmpty then none else some stem.reverse
  | _ => none

/-- A version without the endings that name a kind of file, of which there are at most `fuel`. -/
def versionStem : (fuel : Nat) → List Char → List Char
  | 0, cs => cs
  | fuel + 1, cs =>
    let ending := (cs.reverse.takeWhile fun c ↦ c.isAlphanum || c = '~').reverse
    match ending, stemBefore cs ending.length with
    | c :: _, some stem => if isDigit c then cs else versionStem fuel stem
    | _, _ => cs

def compareVersions (a b : List Char) : Ordering :=
  let rank := fun (cs : List Char) ↦
    if cs.isEmpty then 0 else if cs = ['.'] then 1 else if cs = ['.', '.'] then 2
    else if cs.head? = some '.' then 3 else 4
  let size := a.length + b.length + 2
  if rank a != rank b then compare (rank a) (rank b)
  else match compareRuns size (versionStem size a) (versionStem size b) with
    | .eq => compareRuns size a b
    | o => o

def KeyValue.compare : KeyValue → KeyValue → Ordering
  | .text a, .text b => compareBytes a b
  | .number m a, .number n b => (compareOfLessAndEq m n).then (a.compare b)
  | .version a, .version b => compareVersions a b
  | _, _ => .eq

end CommandShell.Tool

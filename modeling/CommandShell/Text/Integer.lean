import CommandShell.Text.Blank

/-!
# Reading integers

An integer is written with decimal digits of any script, one optional sign in front, and single
underscores between digits. Blanks around it do not matter, the information separators excepted. A
text with more than `maxDigits` digits is refused, leading zeros counted.

Where a text counts as a number only if it holds nothing but digits, signs such as raised digits
count as well, although no number can be read from them; `readDigitText` tells the cases apart.
-/

namespace CommandShell.Text

/-- The code points of the digit zero in every script that has decimal digits, in increasing
order. The other nine digits follow each of them. -/
def zeroDigits : List Nat :=
  [0x30, 0x660, 0x6F0, 0x7C0, 0x966, 0x9E6, 0xA66, 0xAE6, 0xB66, 0xBE6, 0xC66, 0xCE6, 0xD66, 0xDE6,
    0xE50, 0xED0, 0xF20, 0x1040, 0x1090, 0x17E0, 0x1810, 0x1946, 0x19D0, 0x1A80, 0x1A90, 0x1B50,
    0x1BB0, 0x1C40, 0x1C50, 0xA620, 0xA8D0, 0xA900, 0xA9D0, 0xA9F0, 0xAA50, 0xABF0, 0xFF10, 0x104A0,
    0x10D30, 0x11066, 0x110F0, 0x11136, 0x111D0, 0x112F0, 0x11450, 0x114D0, 0x11650, 0x116C0,
    0x11730, 0x118E0, 0x11950, 0x11C50, 0x11D50, 0x11DA0, 0x16A60, 0x16AC0, 0x16B50, 0x1D7CE,
    0x1D7D8, 0x1D7E2, 0x1D7EC, 0x1D7F6, 0x1E140, 0x1E2F0, 0x1E950, 0x1FBF0]

def digitValue? (c : Char) : Option Nat :=
  (zeroDigits.find? fun z ↦ z ≤ c.toNat && c.toNat < z + 10).map (c.toNat - ·)

/-- The blanks that may surround an integer. -/
def isNumberBlank (c : Char) : Bool :=
  isBlank c && !(0x1C ≤ c.toNat && c.toNat ≤ 0x1F)

/-- The greatest number of digits that is read. -/
def maxDigits : Nat := 4300

/-- The digits of a text of digits with single underscores between them. -/
def readDigits : List Char → Option (List Nat)
  | [] => none
  | [c] => (digitValue? c).map ([·])
  | c :: '_' :: rest =>
    match digitValue? c, readDigits rest with
    | some d, some ds => some (d :: ds)
    | _, _ => none
  | c :: rest =>
    match digitValue? c, readDigits rest with
    | some d, some ds => some (d :: ds)
    | _, _ => none

/-- The number that decimal digits stand for. -/
def ofDigits (ds : List Nat) : Nat :=
  ds.foldl (fun n d ↦ 10 * n + d) 0

/-- The natural number that a text of digits stands for. -/
def readNat (cs : List Char) : Option Nat :=
  match readDigits cs with
  | some ds => if ds.length ≤ maxDigits then some (ofDigits ds) else none
  | none => none

/-- The integer that a text stands for. -/
def readInteger (cs : List Char) : Option Int :=
  let inner := cs.dropWhile isNumberBlank
  match (inner.reverse.dropWhile isNumberBlank).reverse with
  | '-' :: digits => (readNat digits).map fun n ↦ -(n : Int)
  | '+' :: digits => (readNat digits).map Int.ofNat
  | digits => (readNat digits).map Int.ofNat

/-- `readInteger` on strings. -/
def readIntegerString (s : String) : Option Int :=
  readInteger s.toList

/-! ## Texts of nothing but digits -/

/-- Signs that are digits but stand in no number, such as raised and circled ones, as inclusive
ranges of code points in increasing order. -/
def digitSigns : List (Nat × Nat) :=
  [(0xB2, 0xB3), (0xB9, 0xB9), (0x1369, 0x1371), (0x19DA, 0x19DA), (0x2070, 0x2070),
    (0x2074, 0x2079), (0x2080, 0x2089), (0x2460, 0x2468), (0x2474, 0x247C), (0x2488, 0x2490),
    (0x24EA, 0x24EA), (0x24F5, 0x24FD), (0x24FF, 0x24FF), (0x2776, 0x277E), (0x2780, 0x2788),
    (0x278A, 0x2792), (0x10A40, 0x10A43), (0x10E60, 0x10E68), (0x11052, 0x1105A),
    (0x1F100, 0x1F10A)]

def isDigit (c : Char) : Bool :=
  (digitValue? c).isSome || digitSigns.any fun r ↦ r.1 ≤ c.toNat && c.toNat ≤ r.2

/-- Why digits stand for no number. -/
inductive NumberFault
  /-- Not all of them stand in numbers. -/
  | notANumber (text : String)
  | tooManyDigits (count : Nat)
  deriving DecidableEq, Repr, Inhabited

/-- The natural number that a text stands for which holds nothing but digits; none if it is another
text. -/
def readDigitText (s : String) : Except NumberFault (Option Nat) :=
  let cs := s.toList
  if cs.isEmpty || !cs.all isDigit then .ok none
  else match readNat cs with
    | some n => .ok (some n)
    | none =>
      if cs.all fun c ↦ (digitValue? c).isSome then .error (.tooManyDigits cs.length)
      else .error (.notANumber s)

end CommandShell.Text

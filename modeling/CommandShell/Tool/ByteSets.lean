import CommandShell.Text.ByteClass
import CommandShell.Tool.Streams

/-!
# Lists of bytes as `tr` spells them

A list of bytes is spelled by characters that stand for themselves, escapes, ranges, classes in
brackets and repetitions. Reading goes in two steps: escapes first, then the rest, where a character
that was escaped has no special meaning.
-/

namespace CommandShell.Tool

open CommandShell.Text

/-- A byte, and whether it was escaped. -/
structure Mark where
  char : Char
  escaped : Bool := false
  deriving DecidableEq, Repr, Inhabited

def Mark.means (m : Mark) (c : Char) : Bool :=
  m.char = c && !m.escaped

/-- A part of a list of bytes. -/
inductive ByteSpan
  | char (c : Char)
  | range (first last : Char)
  | members (k : ByteClass)
  /-- The bytes that are like one. -/
  | alike (c : Char)
  /-- A byte so many times; without a number, as often as there is room. -/
  | repeated (c : Char) (count : Option Nat)
  deriving DecidableEq, Repr, Inhabited

def ByteSpan.bytes : ByteSpan → List Char
  | .char c => [c]
  | .range first last =>
    (List.range (last.toNat + 1 - first.toNat)).map fun k ↦ Char.ofNat (first.toNat + k)
  | .members k => k.members
  | .alike c => [c]
  | .repeated c count => List.replicate (count.getD 0) c

/-! ## Escapes -/

def octalOf (digits : List Char) : Nat :=
  digits.foldl (fun n c ↦ 8 * n + (c.toNat - 48)) 0

def isOctal (c : Char) : Bool :=
  '0' ≤ c && c ≤ '7'

/-- The bytes that single letters stand for after a backslash. -/
def letterEscapes : List (Char × Char) :=
  [('a', '\x07'), ('b', '\x08'), ('f', '\x0c'), ('n', '\n'), ('r', '\r'), ('t', '\t'),
    ('v', '\x0b')]

/-- Replaces escapes by what they stand for. The warnings come with the answer. -/
def readEscapes : (fuel : Nat) → List Char → List Mark × List String
  | 0, _ => ([], [])
  | _, [] => ([], [])
  | _, ['\\'] =>
    ([⟨'\\', false⟩], ["warning: an unescaped backslash at end of string is not portable"])
  | fuel + 1, '\\' :: c :: rest =>
    let further := fun (c : Char) (rest : List Char) (warnings : List String) ↦
      let (marks, more) := readEscapes fuel rest
      (⟨c, true⟩ :: marks, warnings ++ more)
    if isOctal c then
      let digits := ((c :: rest).take 3).takeWhile isOctal
      let rest := (c :: rest).drop digits.length
      let value := octalOf digits
      if value < 256 then further (Char.ofNat value) rest []
      else
        let shown := String.ofList digits
        let (two, last) := (String.ofList digits.dropLast, (digits.getLast?.map (·.toString)).getD "")
        further (Char.ofNat (octalOf digits.dropLast)) (digits.drop 2 ++ rest)
          ["warning: the ambiguous octal escape \\" ++ shown ++
            " is being\n\tinterpreted as the 2-byte sequence \\0" ++ two ++ ", " ++ last]
    else further ((letterEscapes.lookup c).getD c) rest []
  | fuel + 1, c :: rest =>
    let (marks, warnings) := readEscapes fuel rest
    (⟨c, false⟩ :: marks, warnings)

/-! ## Parts -/

/-- A character in a complaint about a list. -/
def shownMember (c : Char) : String :=
  if isVisible c && c != '\\' then c.toString
  else if c = '\\' then "\\\\"
  else match letterEscapes.find? (·.2 = c) with
    | some (letter, _) => String.ofList ['\\', letter]
    | none => String.ofList ('\\' :: octalDigits c)

/-- Characters in a complaint about a list. -/
def shownMembers (ms : List Mark) : String :=
  String.join (ms.map fun m ↦ shownMember m.char)

/-- What stands before a character and a bracket that close a class, and what follows them. -/
def splitClosing (c : Char) : List Mark → Option (List Mark × List Mark)
  | a :: b :: rest =>
    if a.means c && b.means ']' then some ([], rest)
    else (splitClosing c (b :: rest)).map fun r ↦ (a :: r.1, r.2)
  | _ => none

/-- The repetition after an opening bracket, and what follows it; none if there is no repetition. -/
def readRepeated : List Mark → Option (Except String (ByteSpan × List Mark))
  | c :: star :: rest =>
    let (digits, after) := rest.span fun m ↦ !m.escaped && m.char != ']'
    if !star.means '*' then none
    else match after with
      | close :: after =>
        if !close.means ']' then none
        else
          let cs := digits.map (·.char)
          let value := if cs.head? = some '0' then octalOf cs else natOf cs
          let good := if cs.head? = some '0' then cs.all isOctal else cs.all isDigit
          if cs.isEmpty then some (.ok (.repeated c.char none, after))
          else if good && value < 0x8000000000000000 then
            some (.ok (.repeated c.char (if value = 0 then none else some value), after))
          else some (.error ("invalid repeat count " ++ quotedWord (shownMembers digits) ++
            " in [c*n] construct"))
      | [] => none
  | _ => none

/-- Whether a star, digits and a closing bracket come next. -/
def isRepeatCount : List Mark → Bool
  | star :: rest =>
    star.means '*' &&
      (match rest.dropWhile (isDigit ·.char) with
        | close :: _ => close.means ']'
        | [] => false)
  | [] => false

/-- The class after an opening bracket, and what follows it; none if there is no class. -/
def readClass : List Mark → Option (Except String (ByteSpan × List Mark))
  | kind :: rest =>
    if kind.means ':' then
      match splitClosing ':' rest with
      | none => none
      | some ([], _) => some (.error "missing character class name '[::]'")
      | some (name, after) =>
        match ByteClass.named? (String.ofList (name.map (·.char))) with
        | some k => some (.ok (.members k, after))
        | none =>
          if isRepeatCount rest then none
          else some (.error ("invalid character class " ++ quotedWord (shownMembers name)))
    else if kind.means '=' then
      match splitClosing '=' rest with
      | none => none
      | some ([], _) => some (.error "missing equivalence class character '[==]'")
      | some ([c], after) => some (.ok (.alike c.char, after))
      | some (name, _) =>
        if isRepeatCount rest then none
        else some (.error (shownMembers name ++
          ": equivalence class operand must be a single character"))
    else none
  | [] => none

/-- What a bracket begins, and what follows it; none if it stands for itself. -/
def readBracket (rest : List Mark) : Option (Except String (ByteSpan × List Mark)) :=
  match readClass rest with
  | some r => some r
  | none => readRepeated rest

def readSpans : (fuel : Nat) → List Mark → Except String (List ByteSpan)
  | 0, _ => .ok []
  | fuel + 1, a :: b :: c :: rest =>
    let further := fun (p : ByteSpan) (rest : List Mark) ↦
      (readSpans fuel rest).map (p :: ·)
    match if a.means '[' then readBracket (b :: c :: rest) else none with
    | some (.error message) => .error message
    | some (.ok (p, rest)) => further p rest
    | none =>
      if !b.means '-' then further (.char a.char) (b :: c :: rest)
      else if c.char < a.char then
        .error ("range-endpoints of '" ++ shownMember a.char ++ "-" ++ shownMember c.char ++
          "' are in reverse collating sequence order")
      else further (.range a.char c.char) rest
  | _, rest => .ok (rest.map fun m ↦ .char m.char)

end CommandShell.Tool

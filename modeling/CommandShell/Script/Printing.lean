import CommandShell.Script.Arithmetic
import CommandShell.Text.Field

/-!
# What scripts print

The escapes of `echo` and the formats of `printf`. A format is used again as long as it takes
arguments and some are left; what is missing at the end counts as empty.
-/

namespace CommandShell.Script

open CommandShell.Process CommandShell.Text

namespace Printing

/-! ## Escapes -/

def isOctal (c : Char) : Bool :=
  '0' ≤ c && c ≤ '7'

/-- The characters that letters stand for after a backslash. -/
def letters : List (Char × Char) :=
  [('\\', '\\'), ('a', '\x07'), ('b', '\x08'), ('e', '\x1b'), ('f', '\x0c'), ('n', '\n'),
    ('r', '\r'), ('t', '\t'), ('v', '\x0b')]

/-- The character that an escape stands for, from after its backslash on, and what follows it. A
backslash that begins no escape stands for itself. -/
def readEscape : List Char → Char × List Char
  | [] => ('\\', [])
  | c :: rest =>
    match letters.lookup c with
    | some e => (e, rest)
    | none =>
      if isOctal c then
        let digits := ((c :: rest).take 3).takeWhile isOctal
        (Char.ofNat (Floating.ofDigits 8 digits % 256), (c :: rest).drop digits.length)
      else ('\\', c :: rest)

/-- A text with its escapes replaced. An octal number may have one more zero at its start, and `\c`
ends everything; the flag tells whether that was there. -/
def unescape : (fuel : Nat) → List Char → List Char × Bool
  | 0, cs => (cs, false)
  | _, [] => ([], false)
  | fuel + 1, c :: rest =>
    let further := fun (e : Char × List Char) ↦
      let (text, ends) := unescape fuel e.2
      (e.1 :: text, ends)
    match c, rest with
    | '\\', 'c' :: _ => ([], true)
    | '\\', '0' :: d :: after => further (readEscape (if isOctal d then d :: after else rest))
    | '\\', rest => further (readEscape rest)
    | c, rest => further (c, rest)

/-- A text of octets with its escapes replaced. -/
def unescaped (text : String) : String × Bool :=
  let (cs, ends) := unescape (text.length + 1) text.toList
  (String.ofList cs, ends)

/-- What `echo` prints. -/
def echoed (args : List String) : String :=
  match args with
  | "-n" :: words => go "" words
  | words => go "\n" words
where
  /-- The words with spaces between them and something at the end, unless they end it. -/
  go (last : String) : List String → String
    | [] => last
    | word :: rest =>
      let (text, ends) := unescaped word
      if ends then text
      else text ++ (if rest.isEmpty then last else " " ++ go last rest)

/-! ## Formats -/

/-- What was printed so far. -/
structure Printed where
  text : String := ""
  /-- What there was to complain about. -/
  complaints : List String := []
  status : Int := 0
  args : List String := []
  deriving Repr, Inhabited

/-- Why nothing more is printed. -/
inductive Stop
  | done
  | failure (message : String)
  deriving Repr, Inhabited

abbrev Printer := ExceptT Stop (StateM Printed)

def put (text : String) : Printer Unit :=
  modify fun p ↦ { p with text := p.text ++ text }

/-- Complains about an argument. -/
def complain (message : String) : Printer Unit :=
  modify fun p ↦ { p with complaints := p.complaints ++ [message], status := 1 }

/-- Takes the next argument. -/
def takeArgument : Printer (Option String) := do
  let p ← get
  set { p with args := p.args.tail }
  return p.args.head?

/-- Complains about what is left of an argument that should be a number. -/
def checkRest (arg : String) (rest : List Char) (outOfRange : Bool) : Printer Unit := do
  if !rest.isEmpty then
    if rest.length = arg.length then complain (arg ++ ": expected numeric value")
    else complain (arg ++ ": not completely converted")
  else if outOfRange then complain (arg ++ ": Numerical result out of range")

/-- The number that the character after a quotation mark stands for. -/
def quotedNumber? (arg : String) : Option Nat :=
  match arg.toList with
  | c :: rest => if c = '"' || c = '\'' then some ((rest.map Char.toNat).headD 0) else none
  | [] => none

/-- The whole number of the next argument, between the least and the greatest one. Numbers without a
sign may be written with one. -/
def takeInteger (signed : Bool) : Printer Int := do
  match ← takeArgument with
  | none => return 0
  | some arg =>
    match quotedNumber? arg with
    | some n => return n
    | none =>
      let cs := arg.toList.dropWhile isNumberBlank
      let (negative, body) := match cs with
        | '-' :: rest => (true, rest)
        | '+' :: rest => (false, rest)
        | rest => (false, rest)
      match readNatural body with
      | none =>
        checkRest arg arg.toList false
        return 0
      | some (n, rest) =>
        let value : Int := if negative then -(n : Int) else n
        let beyond := if signed then clamped value != value else 0x10000000000000000 ≤ n
        checkRest arg rest beyond
        return if signed then clamped value else if beyond then 0xffffffffffffffff
          else value % 0x10000000000000000

/-- The floating-point number of the next argument. -/
def takeFloating : Printer Floating := do
  match ← takeArgument with
  | none => return .finite false 0 0
  | some arg =>
    match quotedNumber? arg with
    | some n => return Floating.round Floating.double false n 1
    | none =>
      match Floating.read? Floating.double arg.toList with
      | none =>
        checkRest arg arg.toList false
        return .finite false 0 0
      | some (x, rest) =>
        checkRest arg rest false
        return x

/-- The flags, the width and the precision at the start of a format. -/
structure Spec where
  field : Field := {}
  rest : List Char
  deriving Inhabited

def spanDigits (cs : List Char) : Nat × List Char :=
  let (digits, rest) := cs.span Floating.isDecimal
  (Floating.ofDigits 10 digits, rest)

def readFlags (f : Field) : List Char → Spec
  | '-' :: rest => readFlags { f with left := true } rest
  | '+' :: rest => readFlags { f with plus := true } rest
  | ' ' :: rest => readFlags { f with space := true } rest
  | '#' :: rest => readFlags { f with alternate := true } rest
  | '0' :: rest => readFlags { f with zero := true } rest
  | rest => { field := f, rest }

/-- Reads what stands between a percent sign and the letter of a directive. -/
def readSpec (cs : List Char) : Printer Spec := do
  let s := readFlags {} cs
  let s ← match s.rest with
    | '*' :: rest =>
      let n ← takeInteger true
      let left := s.field.left || n < 0
      pure { field := { s.field with left, width := n.natAbs }, rest : Spec }
    | rest =>
      let (width, rest) := spanDigits rest
      pure { field := { s.field with width }, rest }
  match s.rest with
  | '.' :: '*' :: rest =>
    let n ← takeInteger true
    let precision := if n < 0 then none else some n.toNat
    return { field := { s.field with precision }, rest }
  | '.' :: rest =>
    let (n, rest) := spanDigits rest
    return { field := { s.field with precision := some n }, rest }
  | _ => return s

def putDirective (f : Field) (letter : Char) : Printer Unit := do
  match letter with
  | 's' => put (f.ofText ((← takeArgument).getD ""))
  | 'b' =>
    let (text, ends) := unescaped ((← takeArgument).getD "")
    put (f.ofText text)
    if ends then throw .done
  | 'c' =>
    let arg := (← takeArgument).getD ""
    put (f.pad (if arg = "" then "\x00" else String.ofList (arg.toList.take 1)))
  | 'd' | 'i' => put (f.ofInt (← takeInteger true))
  | 'o' => put (f.ofNat 8 false (← takeInteger false).toNat)
  | 'u' => put (f.ofNat 10 false (← takeInteger false).toNat)
  | 'x' => put (f.ofNat 16 false (← takeInteger false).toNat)
  | _ => put (f.ofNat 16 true (← takeInteger false).toNat)

def putOnce : (fuel : Nat) → List Char → Printer Unit
  | 0, _ => return ()
  | _, [] => return ()
  | fuel + 1, c :: rest => do
    match c, rest with
    | '\\', rest =>
      let (e, rest) := readEscape rest
      put e.toString
      putOnce fuel rest
    | '%', '%' :: rest =>
      put "%"
      putOnce fuel rest
    | '%', rest =>
      let s ← readSpec rest
      match s.rest with
      | [] => throw (.failure "missing format character")
      | letter :: after =>
        if "aAeEfFgG".toList.contains letter then put (s.field.ofFloating letter (← takeFloating))
        else if "sbcdiouxX".toList.contains letter then putDirective s.field letter
        else
          let shown := rest.take (rest.length - after.length)
          throw (.failure ("%" ++ String.ofList shown ++ ": invalid directive"))
        putOnce fuel after
    | c, rest =>
      put c.toString
      putOnce fuel rest

/-- Prints by a format as often as that takes arguments which are left. -/
def putAgain (template : List Char) : (fuel : Nat) → Printer Unit
  | 0 => return ()
  | fuel + 1 => do
    let before := (← get).args.length
    putOnce (template.length + 1) template
    let left := (← get).args.length
    if 0 < left && left < before then putAgain template fuel

end Printing

namespace Sh

/-- Prints its arguments. -/
def echo (args : List String) : Sh Int := do
  print (Printing.echoed args)
  return 0

/-- Prints its arguments by a format. -/
def formatted (template : String) (args : List String) : Sh Int := do
  let (outcome, p) := ((Printing.putAgain template.toList (args.length + 1)).run).run { args }
  p.complaints.forM warn
  print p.text
  match outcome with
  | .error (.failure message) => fail message
  | _ => return p.status

end Sh

end CommandShell.Script

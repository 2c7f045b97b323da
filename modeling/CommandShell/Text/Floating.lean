/-!
# Floating-point numbers

Binary floating-point numbers as a machine has them, with exact integers inside: reading the number
at the start of a text, rounded to so many bits, and the decimal digits of a number, rounded to so
many places. Halves are rounded to even.
-/

namespace CommandShell.Text

/-- A binary floating-point number. -/
inductive Floating
  /-- The number `mantissa * 2 ^ power`, or its negative. -/
  | finite (negative : Bool) (mantissa : Nat) (power : Int)
  | infinite (negative : Bool)
  | notANumber (negative : Bool)
  deriving DecidableEq, Repr, Inhabited

/-- The formats of floating-point numbers. -/
structure FloatingFormat where
  /-- The bits of a mantissa. -/
  bits : Nat
  /-- The least power of two, and the greatest. -/
  least : Int
  greatest : Int
  deriving DecidableEq, Repr, Inhabited

namespace Floating

/-- The numbers of 64 bits. -/
def double : FloatingFormat := ⟨53, -1074, 971⟩

/-- The numbers of 80 bits. -/
def extended : FloatingFormat := ⟨64, -16445, 16320⟩

/-- The quotient that is nearest, and even between two. -/
def divideNearest (n d : Nat) : Nat :=
  let q := n / d
  match compare (2 * (n % d)) d with
  | .lt => q
  | .gt => q + 1
  | .eq => if q % 2 = 0 then q else q + 1

/-- A number times a power, as a fraction. -/
def scale (base : Nat) (n d : Nat) (power : Int) : Nat × Nat :=
  if 0 ≤ power then (n * Nat.pow base power.toNat, d)
  else (n, d * Nat.pow base (-power).toNat)

/-- The floating-point number that is nearest to a fraction. -/
def round (f : FloatingFormat) (negative : Bool) (n d : Nat) : Floating :=
  if n = 0 then .finite negative 0 0
  else
    let estimate : Int := (Nat.log2 n : Int) - Nat.log2 d - f.bits
    let power := max f.least estimate
    let (a, b) := scale 2 n d (-power)
    let mantissa := divideNearest a b
    let (mantissa, power) :=
      if Nat.pow 2 f.bits ≤ mantissa then
        let (a, b) := scale 2 n d (-(power + 1))
        (divideNearest a b, power + 1)
      else (mantissa, power)
    if f.greatest < power then .infinite negative else .finite negative mantissa power

/-- Whether a number is less than zero, or a zero that counts as negative. -/
def isNegative : Floating → Bool
  | .finite negative _ _ => negative
  | .infinite negative => negative
  | .notANumber negative => negative

/-! ## Reading -/

/-- The value of a hexadecimal digit. -/
def hexDigit? (c : Char) : Option Nat :=
  if '0' ≤ c && c ≤ '9' then some (c.toNat - 48)
  else if 'a' ≤ c && c ≤ 'f' then some (c.toNat - 87)
  else if 'A' ≤ c && c ≤ 'F' then some (c.toNat - 55)
  else none

def isDecimal (c : Char) : Bool :=
  '0' ≤ c && c ≤ '9'

/-- The number that digits spell. -/
def ofDigits (base : Nat) (digits : List Char) : Nat :=
  digits.foldl (fun n c ↦ base * n + (hexDigit? c).getD 0) 0

/-- The exponent after one of two letters, and what follows it; without digits there is none. -/
def readExponent (small large : Char) (cs : List Char) : Int × List Char :=
  match cs with
  | c :: rest =>
    if c = small || c = large then
      let (negative, body) := match rest with
        | '-' :: rest => (true, rest)
        | '+' :: rest => (false, rest)
        | rest => (false, rest)
      let (digits, after) := body.span isDecimal
      if digits.isEmpty then (0, cs)
      else
        let size := min (ofDigits 10 digits) 100000
        (if negative then -(size : Int) else size, after)
    else (0, cs)
  | [] => (0, cs)

/-- The number that digits, perhaps with a point among them, and an exponent spell, and what follows
it. -/
def readBody (f : FloatingFormat) (negative : Bool) (base expBase pointBits : Nat)
    (small large : Char) (isDigit : Char → Bool) (cs : List Char) :
    Option (Floating × List Char) :=
  let (whole, rest) := cs.span isDigit
  let (fraction, rest) := match rest with
    | '.' :: after =>
      let (fraction, after) := after.span isDigit
      if whole.isEmpty && fraction.isEmpty then ([], rest) else (fraction, after)
    | rest => ([], rest)
  if whole.isEmpty && fraction.isEmpty then none
  else
    let (exponent, rest) := readExponent small large rest
    let power := exponent - (pointBits * fraction.length : Nat)
    let (n, d) := scale expBase (ofDigits base (whole ++ fraction)) 1 power
    some (round f negative n d, rest)

/-- The number at the start of a text, and what follows it. -/
def read? (f : FloatingFormat) (cs : List Char) : Option (Floating × List Char) :=
  let cs := cs.dropWhile fun c ↦ c = ' ' || ('\t' ≤ c && c ≤ '\r')
  let (negative, body) := match cs with
    | '-' :: rest => (true, rest)
    | '+' :: rest => (false, rest)
    | rest => (false, rest)
  let starts := fun (word : String) ↦ word.toList.isPrefixOf (body.map Char.toLower)
  let hexadecimal := match body with
    | '0' :: x :: rest =>
      if x = 'x' || x = 'X' then
        readBody f negative 16 2 4 'p' 'P' (fun c ↦ (hexDigit? c).isSome) rest
      else none
    | _ => none
  if starts "infinity" then some (.infinite negative, body.drop 8)
  else if starts "inf" then some (.infinite negative, body.drop 3)
  else if starts "nan" then some (.notANumber negative, body.drop 3)
  else match hexadecimal with
    | some r => some r
    | none => readBody f negative 10 10 1 'e' 'E' isDecimal body

/-! ## Digits -/

/-- A number without its sign, as a fraction. -/
def fraction (mantissa : Nat) (power : Int) : Nat × Nat :=
  scale 2 mantissa 1 power

/-- A point, and digits that stand before and after it. -/
def pointed (alternate : Bool) (places : Nat) (digits : String) : String :=
  let cs := digits.toList
  let cs := List.replicate (places + 1 - cs.length) '0' ++ cs
  let whole := String.ofList (cs.take (cs.length - places))
  if places = 0 then (if alternate then whole ++ "." else whole)
  else whole ++ "." ++ String.ofList (cs.drop (cs.length - places))

/-- A number with so many digits after the point. -/
def fixed (alternate : Bool) (places : Nat) (mantissa : Nat) (power : Int) : String :=
  let (n, d) := fraction mantissa power
  pointed alternate places (toString (divideNearest (n * Nat.pow 10 places) d))

/-- The digits of a number with so many after the first, and the power of ten of the first. -/
def leadingDigits (places : Nat) (mantissa : Nat) (power : Int) : Nat × Int :=
  if mantissa = 0 then (0, 0)
  else
    let (n, d) := fraction mantissa power
    let size := fun (k : Nat) ↦ ((toString k).length : Int)
    let guess := size n - size d
    let (a, b) := scale 10 n d (-guess)
    let exponent := if a < b then guess - 1 else guess
    let (a, b) := scale 10 n d (places - exponent)
    let digits := divideNearest a b
    if Nat.pow 10 (places + 1) ≤ digits then (digits / 10, exponent + 1) else (digits, exponent)

/-- An exponent of at least two digits. -/
def shownExponent (exponent : Int) : String :=
  let digits := toString exponent.natAbs
  (if exponent < 0 then "-" else "+") ++ (if digits.length < 2 then "0" else "") ++ digits

/-- A number with one digit before the point and an exponent. -/
def scientific (alternate : Bool) (places : Nat) (mantissa : Nat) (power : Int) : String :=
  let (digits, exponent) := leadingDigits places mantissa power
  pointed alternate places (toString digits) ++ "e" ++ shownExponent exponent

/-- Digits after a point without the zeros at their end. -/
def withoutZeros (text : String) : String :=
  if text.toList.contains '.' then
    let cs := (text.toList.reverse.dropWhile (· = '0'))
    String.ofList (match cs with
      | '.' :: rest => rest.reverse
      | cs => cs.reverse)
  else text

/-- A number with so many digits in all, with an exponent if it is far from one. -/
def general (alternate : Bool) (digits : Nat) (mantissa : Nat) (power : Int) : String :=
  let digits := max digits 1
  let (_, exponent) := leadingDigits (digits - 1) mantissa power
  let trim := fun (text : String) ↦ if alternate then text else withoutZeros text
  if exponent < -4 || (digits : Int) ≤ exponent then
    let (shown, exponent) := leadingDigits (digits - 1) mantissa power
    trim (pointed alternate (digits - 1) (toString shown)) ++ "e" ++ shownExponent exponent
  else trim (fixed alternate ((digits : Int) - 1 - exponent).toNat mantissa power)

/-- A digit of a hexadecimal number. -/
def hexChar (n : Nat) : Char :=
  if n < 10 then Char.ofNat (48 + n) else Char.ofNat (87 + n)

/-- A number of 64 bits by its bits: hexadecimal digits and a power of two. -/
def hexadecimal (alternate : Bool) (places : Option Nat) (mantissa : Nat) (power : Int) : String :=
  let digits := fun (n count : Nat) ↦ String.ofList
    ((List.range count).reverse.map fun k ↦ hexChar (n / Nat.pow 16 k % 16))
  let shown := fun (n count : Nat) (exponent : Int) ↦
    let lead := toString (n / Nat.pow 16 count)
    "0x" ++ (if count = 0 then (if alternate then lead ++ "." else lead)
      else lead ++ "." ++ digits (n % Nat.pow 16 count) count) ++
      "p" ++ (if exponent < 0 then "-" else "+") ++ toString exponent.natAbs
  if mantissa = 0 then shown 0 (places.getD 0) 0
  else
    let size : Int := Nat.log2 mantissa
    let whole := mantissa * Nat.pow 2 (52 - size.toNat)
    match places with
    | some places =>
      if places < 13 then
        shown (divideNearest whole (Nat.pow 16 (13 - places))) places (power + size)
      else shown (whole * Nat.pow 16 (places - 13)) places (power + size)
    | none =>
      let zeros := (List.range 13).takeWhile fun k ↦ whole / Nat.pow 16 k % 16 = 0
      shown (whole / Nat.pow 16 zeros.length) (13 - zeros.length) (power + size)

end Floating

end CommandShell.Text

import CommandShell.Text.Floating

/-!
# Fields

Numbers and texts as they are printed into fields: with a least width, a precision and flags.
-/

namespace CommandShell.Text

/-- How something is printed. -/
structure Field where
  left : Bool := false
  plus : Bool := false
  space : Bool := false
  alternate : Bool := false
  zero : Bool := false
  width : Nat := 0
  precision : Option Nat := none
  deriving DecidableEq, Repr, Inhabited

namespace Field

def pad (f : Field) (text : String) : String :=
  let blanks := String.ofList (List.replicate (f.width - text.length) ' ')
  if f.left then text ++ blanks else blanks ++ text

/-- What stands before a number, and its digits, in a field. Zeros go between them. -/
def padNumber (f : Field) (zeros : Bool) (sign digits : String) : String :=
  if zeros && f.zero && !f.left then
    sign ++ String.ofList (List.replicate (f.width - sign.length - digits.length) '0') ++ digits
  else f.pad (sign ++ digits)

/-- A text, cut to the precision. -/
def ofText (f : Field) (text : String) : String :=
  f.pad (match f.precision with
    | some n => String.ofList (text.toList.take n)
    | none => text)

def sign (f : Field) (negative : Bool) : String :=
  if negative then "-" else if f.plus then "+" else if f.space then " " else ""

/-- Digits of a whole number, at least as many as the precision says; zero has none if that is no
digit at all. -/
def wholeDigits (f : Field) (n : Nat) (digits : String) : String :=
  match f.precision with
  | none => digits
  | some p =>
    if n = 0 && p = 0 then ""
    else String.ofList (List.replicate (p - digits.length) '0') ++ digits

/-- A whole number with a sign. -/
def ofInt (f : Field) (n : Int) : String :=
  f.padNumber f.precision.isNone (f.sign (n < 0))
    (f.wholeDigits n.natAbs (toString n.natAbs))

/-- A whole number without a sign, in base 8, 10 or 16. -/
def ofNat (f : Field) (base : Nat) (upper : Bool) (n : Nat) : String :=
  let digits := String.ofList (Nat.toDigits base n)
  let digits := if upper then String.ofList (digits.toList.map Char.toUpper) else digits
  let shown := f.wholeDigits n digits
  let shown := if base = 8 && f.alternate && shown.toList.head? != some '0' then "0" ++ shown
    else shown
  let mark := if base = 16 && f.alternate && n != 0 then (if upper then "0X" else "0x") else ""
  f.padNumber f.precision.isNone mark shown

/-- A floating-point number, in the form that a letter stands for. -/
def ofFloating (f : Field) (letter : Char) (x : Floating) : String :=
  let body := match x with
    | .infinite _ => "inf"
    | .notANumber _ => "nan"
    | .finite _ mantissa power =>
      let places := f.precision.getD 6
      match letter.toLower with
      | 'e' => Floating.scientific f.alternate places mantissa power
      | 'f' => Floating.fixed f.alternate places mantissa power
      | 'a' => Floating.hexadecimal f.alternate f.precision mantissa power
      | _ => Floating.general f.alternate places mantissa power
  let isFinite := match x with
    | .finite _ _ _ => true
    | _ => false
  let (mark, digits) := if letter.toLower = 'a' && isFinite
    then ("0x", String.ofList (body.toList.drop 2)) else ("", body)
  let text := f.padNumber isFinite (f.sign x.isNegative ++ mark) digits
  if letter.isUpper then String.ofList (text.toList.map Char.toUpper) else text

end Field

end CommandShell.Text

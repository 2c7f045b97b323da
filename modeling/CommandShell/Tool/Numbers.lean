import CommandShell.Text.Field
import CommandShell.Tool.Streams

/-!
# `seq`

`seq` counts from a first number to a last one by a step, with exact decimal numbers. It shows as
many places after the point as the first number and the step have, unless a format is given.
-/

namespace CommandShell.Tool

open CommandShell.Process CommandShell.Text

/-! ## Numbers -/

/-- A number as it was given: `units` times a power of ten, with so many places after the point. -/
structure Given where
  units : Int := 0
  /-- How many of the digits of `units` stand after the point. -/
  scale : Nat := 0
  /-- How many places after the point are shown. -/
  places : Nat := 0
  /-- How wide it is when it is shown. -/
  width : Int := 0
  /-- Whether it is beyond all numbers. -/
  infinite : Bool := false
  deriving DecidableEq, Repr, Inhabited

/-- The number of hexadecimal digits. -/
def hexadecimal? (cs : List Char) : Option Int :=
  let digits := cs.filterMap Floating.hexDigit?
  if cs.isEmpty || digits.length < cs.length then none
  else some (digits.foldl (fun n d ↦ 16 * n + d) 0 : Nat)

/-- How wide a decimal number is when it is shown with its exponent worked in. -/
def shownWidth (size : Int) (point : Bool) (bareStart : Bool) (fraction : Nat)
    (exponent : Option (Int × Nat)) : Int :=
  let width := if point then (if fraction = 0 then size - 1 else if bareStart then size + 1
    else size) else size
  match exponent with
  | none => width
  | some (e, length) =>
    let width := width - length
    if e < 0 then
      let width := if point then (if fraction = 0 then width + 1 else width) else width + 1
      width - e
    else
      let places := (fraction : Int) - min (fraction : Int) e
      let width := if point && places = 0 && fraction != 0 then width - 1 else width
      width + (e - min (fraction : Int) e)

/-- The number that a word spells. -/
def Given.read? (word : String) : Option Given :=
  let cs := word.toList.dropWhile fun c ↦ isSpace c || c = '+'
  let (negative, body) := match cs with
    | '-' :: rest => (true, rest)
    | rest => (false, rest)
  let signed := fun (n : Int) ↦ if negative then -n else n
  match body.map Char.toLower with
  | '0' :: 'x' :: digits => (hexadecimal? digits).map fun n ↦ { units := signed n }
  | lower =>
    if lower = "inf".toList || lower = "infinity".toList then
      some { units := signed 1, infinite := true }
    else
      let (whole, rest) := body.span isDigit
      let (point, fraction, rest) := match rest with
        | '.' :: after =>
          let (fraction, after) := after.span isDigit
          (true, fraction, after)
        | rest => (false, [], rest)
      let exponent : Option (Option (Int × Nat)) := match rest with
        | [] => some none
        | e :: digits =>
          if e != 'e' && e != 'E' then none
          else
            let (minus, ds) := match digits with
              | '-' :: ds => (true, ds)
              | '+' :: ds => (false, ds)
              | ds => (false, ds)
            if ds.isEmpty || !ds.all isDigit || 6 < ds.length then none
            else some (some (if minus then -(natOf ds : Int) else natOf ds, rest.length))
      match exponent with
      | none => none
      | some exponent =>
        if whole.isEmpty && fraction.isEmpty then none
        else
          let e := (exponent.map (·.1)).getD 0
          let digits : Int := natOf (whole ++ fraction)
          let scale := (fraction.length : Int) - e
          some
            { units := signed (if scale < 0 then digits * Int.pow 10 (-scale).toNat else digits)
              scale := scale.toNat
              places := if e < 0 then fraction.length + (-e).toNat
                else fraction.length - min fraction.length e.toNat
              width := shownWidth cs.length point whole.isEmpty fraction.length exponent }

/-- The units of a number at another scale, which is not smaller. -/
def Given.unitsAt (g : Given) (scale : Nat) : Int :=
  g.units * Int.pow 10 (scale - g.scale)

/-! ## How numbers are shown -/

/-- How numbers are shown. -/
inductive SeqStyle
  /-- With so many places, and zeros up to a width. -/
  | plain (places width : Nat)
  | formatted (before : String) (field : Field) (letter : Char) (after : String)
  deriving Inhabited

/-- A number of `units` at a scale. -/
def SeqStyle.show (s : SeqStyle) (scale : Nat) (units : Int) : String :=
  let negative := decide (units < 0)
  match s with
  | .plain places width =>
    let size := Floating.divideNearest (units.natAbs * Nat.pow 10 places) (Nat.pow 10 scale)
    let digits := Floating.pointed false places (toString size)
    Field.padNumber { zero := true, width } true (if negative then "-" else "") digits
  | .formatted before field letter after =>
    let x := Floating.round Floating.extended negative units.natAbs (Nat.pow 10 scale)
    before ++ field.ofFloating letter x ++ after

/-- Text up to a directive, in which `%%` stands for a percent sign, and what follows it. -/
def plainFormat : List Char → List Char × List Char
  | '%' :: '%' :: rest =>
    let (text, rest) := plainFormat rest
    ('%' :: text, rest)
  | '%' :: rest => ([], '%' :: rest)
  | c :: rest =>
    let (text, rest) := plainFormat rest
    (c :: text, rest)
  | [] => ([], [])

def setFlag (f : Field) : Char → Option Field
  | '-' => some { f with left := true }
  | '+' => some { f with plus := true }
  | ' ' => some { f with space := true }
  | '#' => some { f with alternate := true }
  | '0' => some { f with zero := true }
  | '\'' => some f
  | _ => none

/-- The flags at the start of a text, and what follows them. -/
def readFlags (f : Field) : List Char → Field × List Char
  | [] => (f, [])
  | c :: rest =>
    match setFlag f c with
    | some f => readFlags f rest
    | none => (f, c :: rest)

def readFormat (format : String) : Except String SeqStyle :=
  let shown := "format " ++ quotedWord format
  let (before, rest) := plainFormat format.toList
  match rest with
  | [] => .error (shown ++ " has no % directive")
  | _ :: rest =>
    let (f, rest) := readFlags {} rest
    let (width, rest) := rest.span isDigit
    let (precision, rest) := match rest with
      | '.' :: rest => let (digits, rest) := rest.span isDigit; (some (natOf digits), rest)
      | rest => (none, rest)
    let rest := match rest with
      | 'L' :: rest => rest
      | rest => rest
    match rest with
    | [] => .error (shown ++ " ends in %")
    | letter :: rest =>
      if !"efgaEFGA".toList.contains letter then
        .error (shown ++ " has unknown %" ++ letter.toString ++ " directive")
      else
        let (after, rest) := plainFormat rest
        if !rest.isEmpty then .error (shown ++ " has too many % directives")
        else .ok (.formatted (String.ofList before) { f with width := natOf width, precision }
          letter (String.ofList after))

/-! ## The tool -/

/-- What `seq` is to do besides counting. -/
structure SeqPlan where
  separator : String := "\n"
  format : Option String := none
  equalWidth : Bool := false
  deriving DecidableEq, Repr, Inhabited

/-- The options of `seq`. -/
def seqGrammar : Grammar where
  short := [('f', .always), ('s', .always), ('w', .never)]
  long := [("equal-width", .never, 'w'), ("format", .always, 'f'), ("separator", .always, 's')]
  mixed := false

/-- Options, and the operands from the first negative number on. -/
def splitNegative : List String → List String × List String
  | [] => ([], [])
  | arg :: rest =>
    let isNumber := match arg.toList with
      | '-' :: c :: _ => c = '.' || isDigit c
      | _ => false
    if isNumber then ([], arg :: rest)
    else
      let (options, numbers) := splitNegative rest
      (arg :: options, numbers)

/-- Writes numbers from `next` on by a step, as long as they are in range. -/
def writeNumbers (i : Invocation) (show_ : Int → String) (separator : String) (step : Int)
    (inRange : Int → Bool) : (fuel : Nat) → (isFirst : Bool) → (next : Int) → Job Unit
  | 0, _, _ => pure ()
  | fuel + 1, isFirst, next => do
    let count := ((List.range 512).map fun (k : Nat) ↦ next + step * (k : Int)).takeWhile inRange
    let text := String.intercalate separator (count.map show_)
    let ends := count.length < 512 || !inRange (next + step * 512)
    if count.isEmpty then pure ()
    else
      emitText i ((if isFirst then "" else separator) ++ text ++ (if ends then "\n" else ""))
      if ends then pure ()
      else writeNumbers i show_ separator step inRange fuel false (next + step * 512)

def readGiven (i : Invocation) (word : String) : Job Given :=
  match Given.read? word with
  | some g => pure g
  | none =>
    let cs := (word.toList.dropWhile fun c ↦ isSpace c || c = '+' || c = '-').map Char.toLower
    if cs = "nan".toList then i.refuseUsage ("invalid 'not-a-number' argument: " ++ quotedWord word)
    else i.refuseUsage ("invalid floating point argument: " ++ quotedWord word)

def readGivens (i : Invocation) : List String → Job (List Given)
  | [] => pure []
  | word :: rest => do
    let g ← readGiven i word
    return g :: (← readGivens i rest)

/-- The style that numbers are shown in if no format is given. -/
def usualStyle (p : SeqPlan) (first step last : Given) : SeqStyle :=
  let places := max first.places step.places
  if !p.equalWidth then .plain places 0
  else
    let grown := fun (g : Given) ↦
      g.width + ((places : Int) - g.places) + (if g.places = 0 && 0 < places then 1 else 0)
    let lastWidth := if 0 < last.places && places = 0 then grown last - 1 else grown last
    .plain places (max (grown first) lastWidth).toNat

/-- Counts. -/
def seq (i : Invocation) : Job Int := do
  let (options, numbers) := splitNegative i.args
  let items := seqGrammar.read options
  let p ← i.settle items 1 (fun (p : SeqPlan) c value ↦ pure (match c with
    | 'f' => { p with format := value }
    | 's' => { p with separator := value.getD "" }
    | _ => { p with equalWidth := true })) {}
  let operands := Grammar.operands items ++ numbers
  if operands.isEmpty then i.refuseUsage "missing operand"
  if let some extra := operands[3]? then i.refuseUsage ("extra operand " ++ quotedWord extra)
  let format ← match p.format with
    | none => pure none
    | some format => match readFormat format with
      | .ok style => pure (some style)
      | .error message => i.refuse message
  if format.isSome && p.equalWidth then
    i.refuseUsage "format string may not be specified when printing equal width strings"
  let one : Given := { units := 1, width := 1 }
  let (first, step, last) ← match ← readGivens i operands with
    | [last] => pure (one, one, last)
    | [first, last] => pure (first, one, last)
    | first :: step :: last :: _ => pure (first, step, last)
    | [] => pure (one, one, one)
  if step.units = 0 then
    i.refuseUsage ("invalid Zero increment value: " ++ quotedWord (operands[1]?.getD ""))
  let scale := max first.scale (max step.scale last.scale)
  let style := format.getD (usualStyle p first step last)
  let bound := last.unitsAt scale
  let inRange := fun (n : Int) ↦
    if last.infinite then decide (0 < last.units) == decide (0 < step.units)
    else if step.units < 0 then bound ≤ n else n ≤ bound
  writeNumbers i (style.show scale) p.separator (step.unitsAt scale) inRange endurance true
    (first.unitsAt scale)
  return 0

end CommandShell.Tool

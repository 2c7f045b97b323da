import CommandShell.Message.Emoji.Names
import CommandShell.Text.Blank
import CommandShell.Text.Split

/-!
# Pictographs by name

A name between colons stands for a pictograph, in any case of its letters. The name may end in
`-text` or `-emoji`, which asks for the plain or for the colourful form. A name that nothing is
called by stays as it is written, colons and all.

`replaceCodes` reads from left to right: two colons without a blank between them belong together,
whether or not there is a pictograph of that name.
-/

namespace CommandShell.Message.Emoji

open CommandShell.Text

/-! ## The table -/

/-- The value of a hexadecimal digit; letters are capitals. -/
def hexValue (c : Char) : Nat :=
  if c ≤ '9' then c.toNat - '0'.toNat else c.toNat - 'A'.toNat + 10

/-- The character with a hexadecimal code point. -/
def charOfHex (cs : List Char) : Char :=
  Char.ofNat (cs.foldl (fun n c ↦ 16 * n + hexValue c) 0)

/-- An entry of the table: the name and the pictograph. -/
def readEntry (cs : List Char) : String × List Char :=
  match splitAt '=' cs with
  | [name, codes] => (String.ofList name, (splitAt '-' codes).map charOfHex)
  | _ => ("", [])

def pictographs : List (String × List Char) :=
  ((splitAt '\n' nameTable.toList).flatMap (splitAt ' ')).map readEntry

/-! ## Codes -/

/-- A letter in lower case, as far as names have such letters. -/
def lowerLetter (c : Char) : Char :=
  if 'A' ≤ c ∧ c ≤ 'Z' ∨ 'À' ≤ c ∧ c ≤ 'Þ' ∧ c ≠ '×' then Char.ofNat (c.toNat + 32)
  else if c = '\u212A' then 'k'
  else if c = '\u212B' then 'å'
  else c

/-- What asks for the plain form at the end of a name, and what is put after the pictograph. -/
def plainForm : List Char × Char := ("-text".toList, '\uFE0E')

/-- What asks for the colourful form at the end of a name, and what is put after the pictograph. -/
def colourfulForm : List Char × Char := ("-emoji".toList, '\uFE0F')

/-- A name without the end that asks for a form, and what that form puts after the pictograph. -/
def splitForm (name : List Char) : List Char × List Char :=
  match [plainForm, colourfulForm].find? fun form ↦ form.1.isSuffixOf name with
  | some form => (name.take (name.length - form.1.length), [form.2])
  | none => (name, [])

/-- The pictograph that a name between colons stands for. -/
def pictograph? (name : List Char) : Option (List Char) :=
  let (name, selector) := splitForm name
  if name.isEmpty then none
  else (pictographs.lookup (String.ofList (name.map lowerLetter))).map (· ++ selector)

def isNameChar (c : Char) : Bool :=
  c ≠ ':' && !isBlank c

/-- The text with the names between colons replaced. -/
def replaceCodes : List Char → List Char
  | [] => []
  | c :: rest =>
    let name := rest.takeWhile isNameChar
    if c = ':' ∧ rest[name.length]? = some ':' then
      (pictograph? name).getD (':' :: name ++ [':']) ++ replaceCodes (rest.drop (name.length + 1))
    else c :: replaceCodes rest
termination_by cs => cs.length
decreasing_by
  · rw [List.length_drop, List.length_cons]; omega
  · rw [List.length_cons]; omega

end CommandShell.Message.Emoji

import CommandShell.Text.Octets

/-!
# How tools show names

A name in a complaint is written so that a shell would read it back. A name of plain characters
stands for itself. Any other name is quoted: in double quotes if a single quote is its only
peculiarity, else in single quotes, with octets that are no visible ASCII characters as escapes.

Names are texts of octets here.
-/

namespace CommandShell.Tool

/-- Whether an octet is a visible ASCII character or a space. -/
def isVisible (c : Char) : Bool :=
  ' ' ≤ c && c ≤ '~'

/-- Whether a character means the same to every shell, quoted or not. -/
def isPlain (c : Char) : Bool :=
  c.isAlphanum || "%+,-./:]_".toList.contains c

/-- Whether a character makes a name be quoted, at the start of it or further on. -/
def needsQuotes (isFirst : Bool) (c : Char) : Bool :=
  !(isPlain c || "@\x7b\x7d".toList.contains c) && (isFirst || c != '#' && c != '~') || c = ':'

/-- The octal digits of an octet, three of them. -/
def octalDigits (c : Char) : List Char :=
  [64, 8, 1].map fun k ↦ Char.ofNat (48 + c.toNat / k % 8)

def octetEscape (c : Char) : String :=
  match c.toNat with
  | 7 => "\\a"
  | 8 => "\\b"
  | 9 => "\\t"
  | 10 => "\\n"
  | 11 => "\\v"
  | 12 => "\\f"
  | 13 => "\\r"
  | _ => String.ofList ('\\' :: octalDigits c)

/-- Octets within single quotes; `escaping` says that an escape was written last. -/
def quoteOctets : (escaping : Bool) → List Char → String
  | _, [] => "'"
  | escaping, c :: rest =>
    if !isVisible c then
      (if escaping then "" else "'$'") ++ octetEscape c ++ quoteOctets true rest
    else
      let shown := if c = '\'' then "'\\''" else c.toString
      (if escaping then "''" else "") ++ shown ++ quoteOctets false rest

def quotedName (name : String) : String :=
  let cs := name.toList
  if cs.contains '\'' && cs.all fun c ↦ isPlain c || c = '\'' || c = ' ' then "\"" ++ name ++ "\""
  else "'" ++ quoteOctets false cs

def shownName (name : String) : String :=
  match name.toList with
  | [] => quotedName name
  | c :: rest =>
    if needsQuotes true c || rest.any (needsQuotes false) then quotedName name else name

/-- A word between quotation marks, for a complaint about it. -/
def quotedWord (word : String) : String :=
  let shown := word.toList.map fun c ↦
    if c = '\'' || c = '\\' then String.ofList ['\\', c]
    else if isVisible c then c.toString
    else octetEscape c
  "'" ++ String.join shown ++ "'"

end CommandShell.Tool

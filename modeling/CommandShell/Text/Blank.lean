/-!
# Blank characters

The characters that separate words, are trimmed from lines and stop the completion of a command
name. The class is wider than ASCII white space: it holds the four information separators, the
next-line character, the no-break space and every Unicode space.
-/

namespace CommandShell.Text

/-- The blank characters as inclusive ranges of code points, in increasing order. -/
def blankRanges : List (Nat × Nat) :=
  [(0x09, 0x0D), (0x1C, 0x20), (0x85, 0x85), (0xA0, 0xA0), (0x1680, 0x1680), (0x2000, 0x200A),
    (0x2028, 0x2029), (0x202F, 0x202F), (0x205F, 0x205F), (0x3000, 0x3000)]

def isBlank (c : Char) : Bool :=
  blankRanges.any fun r ↦ r.1 ≤ c.toNat && c.toNat ≤ r.2

/-- The text without the blanks at its end. -/
def trimEnd (cs : List Char) : List Char :=
  (cs.reverse.dropWhile isBlank).reverse

/-- The text without the blanks at either end. -/
def trim (cs : List Char) : List Char :=
  trimEnd (cs.dropWhile isBlank)

/-- `trim` on strings. -/
def trimString (s : String) : String :=
  String.ofList (trim s.toList)

theorem trim_nil : trim [] = [] := rfl

end CommandShell.Text

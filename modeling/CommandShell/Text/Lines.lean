import CommandShell.Text.Split

/-!
# Lines

A line ends with a line feed, a carriage return, or the two together. `unifyLineEnds` makes each of
them a line feed, and `lines` cuts the text there.
-/

namespace CommandShell.Text

/-- One character put in front of a text whose line ends are line feeds: a carriage return joins
the line feed after it. -/
def unifyStep (c : Char) (rest : List Char × Bool) : List Char × Bool :=
  -- the flag says that the text begins with a line feed that was one in the first place
  if c = '\r' then
    match rest with
    | (cs, true) => (cs, false)
    | (cs, false) => ('\n' :: cs, false)
  else if c = '\n' then ('\n' :: rest.1, true)
  else (c :: rest.1, false)

/-- The text with every line end made a line feed. -/
def unifyLineEnds (cs : List Char) : List Char :=
  (cs.foldr unifyStep ([], false)).1

/-- The lines of a text; one that ends with a line end has an empty last line. -/
def lines (cs : List Char) : List (List Char) :=
  splitAt '\n' (unifyLineEnds cs)

end CommandShell.Text

/-!
# Pipeline segments

A line is cut at every pipe character that is neither quoted nor escaped. The pipes themselves
belong to no segment, so joining the segments with pipes gives the line back.

The scan for pipes has its own, coarser view of quoting than the scan for words: it does not care
what a quoted character stands for, so a backslash outside quotes and inside double quotes alike
passes over the character after it, whatever that is.
-/

namespace CommandShell.Line

/-- The kinds of quotation. -/
inductive Quotation
  | single
  | double
  deriving DecidableEq, Repr, Inhabited

/-- The segments of a line as far as it has been read. -/
structure Cut where
  /-- The quotation that is open, if one is. -/
  quotation : Option Quotation := none
  /-- Whether the next character is passed over, whatever it is. -/
  skips : Bool := false
  /-- The segment being read, last character first. -/
  segment : List Char := []
  /-- The finished segments, last segment first. -/
  done : List (List Char) := []
  deriving DecidableEq, Repr, Inhabited

namespace Cut

/-- Adds a character to the segment being read. -/
def keep (s : Cut) (c : Char) : Cut :=
  { s with segment := c :: s.segment }

/-- Finishes the segment being read and begins the next one. -/
def split (s : Cut) : Cut :=
  { s with segment := [], done := s.segment.reverse :: s.done }

/-- Reads one character: a pipe outside quotes ends the segment, anything else joins it. -/
def step (s : Cut) (c : Char) : Cut :=
  if s.skips then { s.keep c with skips := false }
  else
    match s.quotation with
    | some .single => if c = '\'' then { s.keep c with quotation := none } else s.keep c
    | some .double =>
      if c = '\\' then { s.keep c with skips := true }
      else if c = '"' then { s.keep c with quotation := none }
      else s.keep c
    | none =>
      if c = '\\' then { s.keep c with skips := true }
      else if c = '\'' then { s.keep c with quotation := some .single }
      else if c = '"' then { s.keep c with quotation := some .double }
      else if c = '|' then s.split
      else s.keep c

/-- The segments when the line ends here. -/
def finish (s : Cut) : List (List Char) :=
  (s.segment.reverse :: s.done).reverse

end Cut

/-- The cut of a text from its beginning. -/
def Cut.of (cs : List Char) : Cut :=
  cs.foldl Cut.step {}

/-- The segments of a text, in order; there is always at least one. -/
def segments (cs : List Char) : List (List Char) :=
  (Cut.of cs).finish

/-- The pipeline segments of a line, in order. -/
def splitPipeline (line : String) : List String :=
  (segments line.toList).map String.ofList

end CommandShell.Line

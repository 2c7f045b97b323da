import CommandShell.Message.Emoji
import CommandShell.Message.Screen
import CommandShell.Text.Columns

/-!
# Laying out messages

How the shell shows a message of its own: on standard error, after its name, wrapped at spaces to
the width of the screen. A word keeps the blanks after it; one that is wider than a line begins on a
line of its own and is cut where lines end, but never inside a glyph.

Brackets that look like style tags are shown as they are. A backslash before any other opening
bracket is taken for an escape and not shown, and a lone backslash at the end is shown twice. Names
of pictographs are replaced, but no name reaches into a tag or out of it.
-/

namespace CommandShell.Message

open CommandShell.Text

/-- The name that the shell puts before its messages. -/
def shellName : List Char := "shell:".toList

def tabStop : Nat := 8

/-! ## Brackets, names and control characters -/

/-- Whether a style tag can begin with a character. -/
def isTagStart (c : Char) : Bool :=
  ('a' ≤ c && c ≤ 'z') || c = '#' || c = '/' || c = '@'

/-- How much of a text belongs to the style tag that a bracket before it opens; none if the bracket
opens no tag. -/
def tagLength? : List Char → Option Nat
  | [] => none
  | c :: rest =>
    let inside := rest.takeWhile fun c ↦ c ≠ '[' && c ≠ ']'
    if isTagStart c && rest[inside.length]? = some ']' then some (inside.length + 2) else none

/-- The backslashes and the style tag that a text begins with: how many characters each has. There
is no tag where the second number is none. -/
def leadingTag (cs : List Char) : Nat × Option Nat :=
  let slashes := (cs.takeWhile (· = '\\')).length
  match cs.drop slashes with
  | '[' :: rest => (slashes, (tagLength? rest).map (· + 1))
  | _ => (slashes, none)

/-- The text without the backslashes that are taken for escapes of brackets. -/
def dropEscapes : List Char → List Char
  | [] => []
  | '\\' :: '[' :: rest => '[' :: dropEscapes rest
  | c :: rest => c :: dropEscapes rest

/-- The parts of a text: what is outside tags, the backslashes before each tag, and the tags.
`before` is what was read of the part outside tags, last character first. -/
def parts (before : List Char) : List Char → List (List Char)
  | [] => [dropEscapes before.reverse]
  | c :: rest =>
    match leadingTag (c :: rest) with
    | (slashes, some tag) =>
      let here := c :: rest
      dropEscapes before.reverse :: here.take slashes :: (here.drop slashes).take tag ::
        parts [] (rest.drop (slashes + tag - 1))
    | (_, none) => parts (c :: before) rest
termination_by cs => cs.length
decreasing_by
  · rw [List.length_drop, List.length_cons]; omega
  · rw [List.length_cons]; omega

/-- The text with a lone backslash at its end doubled. -/
def doubleLastBackslash (cs : List Char) : List Char :=
  match cs.reverse with
  | ['\\'] => ['\\', '\\']
  | '\\' :: c :: _ => if c = '\\' then cs else cs ++ ['\\']
  | _ => cs

/-- Whether a character is never shown. -/
def isSuppressed (c : Char) : Bool :=
  "\x07\x08\x0b\x0c\r".toList.contains c

def shownText (message : String) : List Char :=
  ((parts [] (doubleLastBackslash message.toList)).flatMap Emoji.replaceCodes).filter fun c ↦
    !isSuppressed c

/-! ## Lines -/

/-- The parts of a text with the tabs between them filled up to the next tab stop; `column` is where
the first part begins. A tab takes at least one column. -/
def fillTabs (column : Nat) : List (List Char) → List Char
  | [] => []
  | [part] => part
  | part :: rest =>
    let reached := column + columns (part ++ [' '])
    let gap := (tabStop - reached % tabStop) % tabStop
    part ++ ' ' :: List.replicate gap ' ' ++ fillTabs (reached + gap) rest

/-- The text with its tabs filled up to the next tab stop. -/
def expandTabs (cs : List Char) : List Char :=
  fillTabs 0 (splitAt '\t' cs)

/-- One character put in front of the words of the text after it. Blanks at the start of that text
go to the word of a character that is not blank. -/
def wordStep (c : Char) : List (List Char) → List (List Char)
  | [] => [[c]]
  | word :: rest =>
    if isBlank c || !word.head?.any isBlank then (c :: word) :: rest
    else
      let solid := word.dropWhile isBlank
      (c :: word.takeWhile isBlank) :: (if solid.isEmpty then rest else solid :: rest)

/-- The words of a line, each with the blanks after it; the first one has those before it too. -/
def words (cs : List Char) : List (List Char) :=
  cs.foldr wordStep []

/-- Lines that are being filled: the full ones, last line first, the open one, and the columns that
its words take. -/
structure Filling where
  full : List (List Char) := []
  line : List Char := []
  used : Nat := 0
  deriving Repr, Inhabited

/-- Goes on with a text on a new line, unless there is nothing at all before it. -/
def Filling.goOn (f : Filling) (text : List Char) : Filling :=
  if f.full.isEmpty && f.line.isEmpty then { line := text, used := columns text }
  else { full := f.line :: f.full, line := text, used := columns text }

/-- Adds a word: to the open line if it fits without the blanks after it, else to a new one. A word
that fits on no line is cut, and its pieces take a line each. -/
def Filling.add (width : Nat) (f : Filling) (word : List Char) : Filling :=
  let needed := columns (trimEnd word)
  if f.used + needed ≤ width then
    { f with line := f.line ++ word, used := f.used + columns word }
  else if needed ≤ width then f.goOn word
  else (chop width word).foldl Filling.goOn f

/-- A line without the blanks that stand out at its end, and without anything else that does. -/
def trimLine (width : Nat) (cs : List Char) : Except CropFault (List Char) :=
  let blanks := cs.length - (trimEnd cs).length
  crop width (cs.take (cs.length - min blanks (cs.length - width)))

/-- The lines that a line of a message is shown on. -/
def wrap (width : Nat) (cs : List Char) : Except CropFault (List (List Char)) :=
  let filled := (words (expandTabs cs)).foldl (Filling.add width) {}
  ((filled.line :: filled.full).reverse).mapM (trimLine width)

/-- The lines with the first so many characters standing out. -/
def emphasise (e : Emphasis) : (count : Nat) → List (List Char) → List (List Char)
  | _, [] => []
  | 0, lines => lines
  | count, line :: rest =>
    (e.apply (line.take count) ++ line.drop count) :: emphasise e (count - line.length) rest

def render (screen : Screen) (message : String) : Except CropFault String :=
  if screen.width = 0 then .ok ""
  else
    let text := shellName ++ ' ' :: shownText message
    ((splitAt '\n' text).mapM (wrap screen.width)).map fun lines ↦
      let emphasised := emphasise screen.emphasis shellName.length lines.flatten
      String.ofList (emphasised.flatMap (· ++ ['\n']))

end CommandShell.Message

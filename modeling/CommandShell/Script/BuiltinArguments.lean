import CommandShell.Script.Conditions

/-!
# The arguments of builtins

Options of builtins are letters after a dash; `--` ends them. What a builtin writes to be read again
is quoted.
-/

namespace CommandShell.Script

/-- A text in quotes, so that it can be read again. Single quotes in it stand in double quotes. -/
def quotedForReading (text : String) : String :=
  String.ofList (go (text.length + 1) text.toList)
where
  /-- The quoted text, one run without a single quote and one of single quotes at a time. -/
  go : (fuel : Nat) → List Char → List Char
    | 0, _ => []
    | fuel + 1, cs =>
      let (others, rest) := cs.span (· ≠ '\'')
      let (marks, rest) := rest.span (· = '\'')
      '\'' :: others ++ '\'' ::
        (if marks.isEmpty then []
          else '"' :: marks ++ '"' :: (if rest.isEmpty then [] else go fuel rest))

namespace Sh

/-- The options at the start of some arguments, with their values, and the other arguments. A colon
after a letter tells that it takes a value. -/
def readOptions (letters : String) (args : List String) :
    Sh (List (Char × String) × List String) :=
  words (args.length + 1) args
where
  /-- Reads the options of the first argument and of those after it. -/
  words : (fuel : Nat) → List String → Sh (List (Char × String) × List String)
    | 0, args => return ([], args)
    | _, [] => return ([], [])
    | fuel + 1, arg :: rest => do
      match arg.toList with
      | ['-', '-'] => return ([], rest)
      | '-' :: c :: cs =>
        let (found, rest) ← cluster rest (c :: cs)
        let (more, rest) ← words fuel rest
        return (found ++ more, rest)
      | _ => return ([], arg :: rest)
  /-- Reads the letters after a dash. -/
  cluster (args : List String) : List Char → Sh (List (Char × String) × List String)
    | [] => return ([], args)
    | c :: cs => do
      match letters.toList.dropWhile (· ≠ c) with
      | _ :: ':' :: _ =>
        match cs, args with
        | _ :: _, args => return ([(c, String.ofList cs)], args)
        | [], value :: args => return ([(c, value)], args)
        | [], [] => fail ("No arg for -" ++ c.toString ++ " option")
      | _ :: _ =>
        let (found, args) ← cluster args cs
        return ((c, "") :: found, args)
      | [] => fail ("Illegal option -" ++ c.toString)

/-- Takes arguments without options. -/
def readOperands (args : List String) : Sh (List String) := do
  return (← readOptions "" args).2

/-- Gives up on something that should have been a number. -/
def failNumber {α : Type} (text : String) : Sh α :=
  fail ("Illegal number: " ++ text)

/-- The natural number that an argument spells. -/
def number (text : String) : Sh Nat := do
  match spelledNumber? text with
  | some n => if 0 ≤ n && n < 0x80000000 then return n.toNat else failNumber text
  | none => failNumber text

end Sh

end CommandShell.Script

import CommandShell.Process.Behaviour

/-!
# The arguments of tools

An argument of a tool is an option or an operand. Short options are letters after one dash, several
of them together if they take no value; long options are words after two dashes, which may be cut
short as long as it is clear which is meant. `--` ends the options. What a tool knows is written
down as a `Grammar`, and `Grammar.read` takes arguments apart by it.
-/

namespace CommandShell.Tool

open CommandShell.Process

/-- Whether an option takes a value. -/
inductive Need
  | never
  | always
  /-- Only if the value is joined to the option. -/
  | perhaps
  deriving DecidableEq, Repr, Inhabited

/-- The options that a tool knows. A long option stands for a letter, which need not be a short
option itself. -/
structure Grammar where
  short : List (Char × Need) := []
  long : List (String × Need × Char) := []
  /-- Whether options may come after operands. -/
  mixed : Bool := true
  deriving Repr, Inhabited

/-- What an argument, or a part of one, says. -/
inductive Item
  | option (letter : Char) (value : Option String)
  | operand (text : String)
  /-- Something that the tool does not understand, in words. -/
  | mistake (message : String)
  deriving DecidableEq, Repr, Inhabited

namespace Grammar

/-- The long options that a word may mean: the one that it spells, or all that begin with it. -/
def meant (g : Grammar) (word : String) : List (String × Need × Char) :=
  match g.long.find? fun l ↦ l.1 == word with
  | some l => [l]
  | none => g.long.filter fun l ↦ word.toList.isPrefixOf l.1.toList

/-- What a long option says; the flag tells whether the next argument is its value. -/
def readLong (g : Grammar) (text : List Char) (next : Option String) : Item × Bool :=
  let (name, value) := text.span (· ≠ '=')
  let word := String.ofList name
  let shown := fun (name : String) ↦ "'--" ++ name ++ "'"
  match g.meant word with
  | [] => (.mistake ("unrecognized option " ++ shown word), false)
  | (name, need, letter) :: others =>
    if others.any fun o ↦ o.2 != (need, letter) then
      let options := ((name, need, letter) :: others).map fun o ↦ " " ++ shown o.1
      (.mistake ("option '--" ++ String.ofList text ++ "' is ambiguous; possibilities:" ++
        String.join options), false)
    else match need, value, next with
      | .never, [], _ => (.option letter none, false)
      | .never, _, _ => (.mistake ("option " ++ shown name ++ " doesn't allow an argument"), false)
      | .perhaps, [], _ => (.option letter none, false)
      | .always, [], some value => (.option letter (some value), true)
      | .always, [], none =>
        (.mistake ("option " ++ shown name ++ " requires an argument"), false)
      | _, _ :: value, _ => (.option letter (some (String.ofList value)), false)

/-- What letters after a dash say; the flag tells whether the next argument is a value. -/
def readShort (g : Grammar) (next : Option String) : List Char → List Item × Bool
  | [] => ([], false)
  | c :: rest =>
    let further := fun (item : Item) ↦
      let (items, used) := readShort g next rest
      (item :: items, used)
    match g.short.lookup c, rest, next with
    | none, _, _ => further (.mistake ("invalid option -- '" ++ c.toString ++ "'"))
    | some .never, _, _ => further (.option c none)
    | some .perhaps, [], _ => ([.option c none], false)
    | some .always, [], some value => ([.option c (some value)], true)
    | some .always, [], none =>
      ([.mistake ("option requires an argument -- '" ++ c.toString ++ "'")], false)
    | some _, rest, _ => ([.option c (some (String.ofList rest))], false)

/-- Takes arguments apart. -/
def read (g : Grammar) (args : List String) : List Item :=
  go args
where
  /-- What arguments say from some place on. -/
  go : List String → List Item
    | [] => []
    | arg :: rest =>
      match arg.toList with
      | ['-', '-'] => rest.map .operand
      | '-' :: '-' :: text =>
        match g.readLong text rest.head?, rest with
        | (item, true), _ :: rest => item :: go rest
        | (item, _), rest => item :: go rest
      | '-' :: c :: letters =>
        match g.readShort rest.head? (c :: letters), rest with
        | (items, true), _ :: rest => items ++ go rest
        | (items, _), rest => items ++ go rest
      | _ => if g.mixed then .operand arg :: go rest else (arg :: rest).map .operand

/-- The operands among what arguments say. -/
def operands (items : List Item) : List String :=
  items.filterMap fun
    | .operand text => some text
    | _ => none

end Grammar

end CommandShell.Tool

namespace CommandShell.Process.Invocation

open CommandShell.Tool

variable {α : Type}

/-- Writes a complaint of a tool to standard error. -/
def complain (i : Invocation) (text : String) : Job Unit :=
  Job.complain (i.self ++ ": " ++ text)

/-- The tool refuses to work. -/
def refuse (i : Invocation) (text : String) (status : Int := 1) : Job α := do
  i.complain text
  Job.exit status

/-- The advice that comes after a mistake in the arguments. -/
def hint (i : Invocation) : String :=
  "\nTry '" ++ i.self ++ " --help' for more information."

/-- The tool refuses to work, and gives advice. -/
def refuseUsage (i : Invocation) (text : String) (status : Int := 1) : Job α :=
  i.refuse (text ++ i.hint) status

/-- Goes through the options of a tool, from a setting to a setting. A mistake ends the tool. -/
def settle (i : Invocation) (items : List Item) (status : Int)
    (change : α → Char → Option String → Job α) (setting : α) : Job α :=
  match items with
  | [] => pure setting
  | .operand _ :: rest => i.settle rest status change setting
  | .mistake message :: _ => i.refuseUsage message status
  | .option letter value :: rest => do
    i.settle rest status change (← change setting letter value)

end CommandShell.Process.Invocation

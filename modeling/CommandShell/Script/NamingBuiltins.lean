import CommandShell.Script.BuiltinArguments
import CommandShell.Script.Programs

/-!
# Builtins for the names of commands

Aliases, the places of programs, and what a name stands for.
-/

namespace CommandShell.Script

open CommandShell.Process CommandShell.Text

namespace Sh

/-! ## Aliases -/

def printAlias (entry : String × String) : Sh Unit :=
  print (entry.1 ++ "=" ++ quotedForReading entry.2 ++ "\n")

/-- The name and the value in an argument of `alias`. The name has at least one character. -/
def aliasSetting? (arg : String) : Option (String × String) :=
  match arg.toList with
  | [] => none
  | c :: rest =>
    match rest.span (· ≠ '=') with
    | (name, _ :: value) => some (String.ofList (c :: name), String.ofList value)
    | (_, []) => none

/-- The aliases with one more, in place of one with the same name. -/
def putAlias (entry : String × String) (aliases : List (String × String)) :
    List (String × String) :=
  if (aliases.lookup entry.1).isSome then
    aliases.map fun a ↦ if a.1 == entry.1 then entry else a
  else aliases ++ [entry]

/-- Handles one argument of `alias`: sets an alias or prints one; the answer is the status. -/
def aliasArgument (status : Int) (arg : String) : Sh Int := do
  match aliasSetting? arg with
  | some entry =>
    modify fun s ↦ { s with aliases := putAlias entry s.aliases }
    return status
  | none =>
    match (← get).aliases.lookup arg with
    | some value =>
      printAlias (arg, value)
      return status
    | none =>
      printError ("alias: " ++ arg ++ " not found\n")
      return 1

def setAliases (args : List String) : Sh Int := do
  if args.isEmpty then
    let sorted := (← get).aliases.mergeSort fun a b ↦ State.bucket a.1 ≤ State.bucket b.1
    sorted.forM printAlias
    return 0
  else args.foldlM aliasArgument 0

/-- Takes an alias away; the answer is the status. -/
def unaliasArgument (status : Int) (name : String) : Sh Int := do
  let s ← get
  if (s.aliases.lookup name).isSome then
    set { s with aliases := s.aliases.filter (·.1 != name) }
    return status
  else
    printError ("unalias: " ++ name ++ " not found\n")
    return 1

/-- Takes aliases away. -/
def unalias (args : List String) : Sh Int := do
  let (options, names) ← readOptions "a" args
  if options.isEmpty then names.foldlM unaliasArgument 0
  else
    modify fun s ↦ { s with aliases := [] }
    return 0

/-! ## Places -/

def pathAt (searchPath name : String) (place : Nat) : String :=
  ((State.programPaths searchPath name)[place]?).getD name

/-- Looks for a program again; the answer is the status. -/
def hashArgument (status : Int) (name : String) : Sh Int := do
  modify fun s ↦ s.locate name none
  return if (← findCommand name true none true).isSome then status else 1

/-- Prints where programs were found, or looks for programs. -/
def hash (args : List String) : Sh Int := do
  let (options, names) ← readOptions "r" args
  if !options.isEmpty then modify fun s ↦ { s with located := [] }
  else if names.isEmpty then
    let s ← get
    let bucket := fun (l : String × Nat × Bool) ↦ nameSum l.1 % 0x8000 % 31
    (s.located.mergeSort fun a b ↦ bucket a ≤ bucket b).forM fun (name, place, isOld) ↦
      print (pathAt s.searchPath name place ++ (if isOld then "*" else "") ++ "\n")
  else return ← names.foldlM hashArgument 0
  return 0

/-! ## What a name stands for -/

/-- Says what a name stands for that is no keyword and no alias. -/
def describeMeaning (name : String) (path : Option String) (verbose : Bool) : Sh Int := do
  let s ← get
  let say := fun (words : String) ↦ do
    print (if verbose then name ++ words else name)
    print "\n"
    return (0 : Int)
  let known := if path.isSome then none else s.location? name
  let meaning ← if (s.function? name).isNone && known.isSome then
      pure (known.map fun k ↦ Meaning.program (some k.1))
    else findCommand name true path
  match meaning with
  | some (.function _) => say " is a shell function"
  | some .builtin =>
    say (if specialNames.contains name then " is a special shell builtin"
      else " is a shell builtin")
  | some (.program place) =>
    let file := place.elim name (pathAt (path.getD s.searchPath) name)
    if place.isNone && !(← look).pathExists s.cwd (Octets.text name) then
      if verbose then print (name ++ ": not found\n")
      return 127
    let words := if known.isSome then " is a tracked alias for " else " is "
    print ((if verbose then name ++ words else "") ++ file ++ "\n")
    return 0
  | none =>
    if verbose then print (name ++ ": not found\n")
    return 127

/-- Says what a name stands for. -/
def describe (name : String) (path : Option String) (verbose : Bool) : Sh Int := do
  let s ← get
  if (Keyword.table.lookup name).isSome then
    print (name ++ (if verbose then " is a shell keyword" else "") ++ "\n")
    return 0
  match s.aliases.lookup name with
  | some value =>
    if verbose then print (name ++ " is an alias for " ++ value ++ "\n")
    else
      print "alias "
      printAlias (name, value)
    return 0
  | none => describeMeaning name path verbose

/-- Says what names stand for; the status tells of all of them. -/
def type (args : List String) : Sh Int := do
  args.foldlM (fun status name ↦ do
    let n ← describe name none true
    return if status = 0 then n else status) 0

/-- Says what the name of a command stands for, if options ask for that. -/
def command (args : List String) : Sh Int := do
  let (options, names) ← readOptions "pvV" args
  let has := fun (c : Char) ↦ options.any fun o ↦ o.1 = c
  let path := if has 'p' then some standardPath else none
  match names with
  | name :: _ =>
    if has 'v' || has 'V' then describe name path (has 'V') else return 0
  | [] => return 0

end Sh

end CommandShell.Script

import CommandShell.Script.VariableBuiltins

/-!
# Options of scripts

A script has options that are turned on and off by letters or by names. `set` does that, sets the
positional parameters, and prints the variables.
-/

namespace CommandShell.Script

/-- The options by name, with the letters that they are kept under. A letter that is a digit cannot
be given. -/
def optionTable : List (String × Char) :=
  [("errexit", 'e'), ("noglob", 'f'), ("ignoreeof", 'I'), ("interactive", 'i'), ("monitor", 'm'),
    ("noexec", 'n'), ("stdin", 's'), ("xtrace", 'x'), ("verbose", 'v'), ("vi", 'V'),
    ("emacs", 'E'), ("noclobber", 'C'), ("allexport", 'a'), ("notify", 'b'), ("nounset", 'u'),
    ("privileged", 'p'), ("nolog", '1'), ("debug", '2')]

/-- The options after one of them was turned on or off. Two ways to edit exclude each other. -/
def turnOption (options : List Char) (letter : Char) (on : Bool) : List Char :=
  let others := options.filter (· ≠ letter)
  if !on then others
  else if letter = 'V' then 'V' :: others.filter (· ≠ 'E')
  else if letter = 'E' then 'E' :: others.filter (· ≠ 'V')
  else letter :: others

namespace Sh

/-- Turns an option on or off. -/
def setOption (letter : Char) (on : Bool) : Sh Unit := do
  if letter.isDigit || !optionTable.any fun o ↦ o.2 = letter then
    fail ("Illegal option -" ++ letter.toString)
  modify fun s ↦ { s with options := turnOption s.options letter on }

/-- Turns the option of a name on or off. -/
def setNamedOption (name : String) (on : Bool) : Sh Unit := do
  match optionTable.lookup name with
  | some letter => modify fun s ↦ { s with options := turnOption s.options letter on }
  | none => fail ("Illegal option -o " ++ name)

/-- Prints how the options are set, perhaps to be read again. -/
def printOptions (forReading : Bool) : Sh Unit := do
  let s ← get
  if !forReading then print "Current option settings\n"
  optionTable.forM fun (name, letter) ↦
    let on := s.options.contains letter
    if forReading then print ("set " ++ (if on then "-o " else "+o ") ++ name ++ "\n")
    else
      let blanks := String.ofList (List.replicate (16 - name.length) ' ')
      print (name ++ blanks ++ (if on then "on" else "off") ++ "\n")

/-- Handles the letters of an argument; the answer is the arguments that are left. -/
def optionLetters (on : Bool) (args : List String) : List Char → Sh (List String)
  | [] => return args
  | 'o' :: cs => do
    match args with
    | [] => printOptions (!on)
    | name :: _ => setNamedOption name on
    optionLetters on args.tail cs
  | c :: cs => do
    setOption c on
    optionLetters on args cs

/-- Puts an end to what needs a terminal. -/
def checkMonitor : Sh Unit := do
  if ← hasOption 'm' then
    warn "can't access tty; job control turned off"
    modify fun s ↦ { s with options := turnOption s.options 'm' false }

def setParameters (parameters : List String) : Sh Unit :=
  modify fun s ↦ { s with parameters, nextOption := 1, optionRest := none }

/-- Handles the options at the start of the arguments of `set`; the answer is the parameters, if
there are some to be set. -/
def setArguments : (fuel : Nat) → List String → Sh (Option (List String))
  | 0, _ => return none
  | _, [] => return none
  | fuel + 1, arg :: rest => do
    match arg.toList with
    | ['-'] =>
      modify fun s ↦ { s with options := s.options.filter fun c ↦ c ≠ 'x' && c ≠ 'v' }
      return if rest.isEmpty then none else some rest
    | ['-', '-'] => return some rest
    | '-' :: cs => setArguments fuel (← optionLetters true rest cs)
    | '+' :: cs => setArguments fuel (← optionLetters false rest cs)
    | _ => return some (arg :: rest)

/-- Sets options and parameters, or prints the variables. -/
def setBuiltin (args : List String) : Sh Int := do
  if args.isEmpty then
    printVariables "" ((← get).vars.filter fun v ↦ v.2.value.isSome)
  else
    let parameters ← setArguments (args.length + 1) args
    checkMonitor
    if let some parameters := parameters then setParameters parameters
  return 0

end Sh

end CommandShell.Script

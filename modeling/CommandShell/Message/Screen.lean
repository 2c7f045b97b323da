import CommandShell.Fault
import CommandShell.Host.Environment

/-!
# The screen for messages

How wide messages are and whether the name of the shell stands out in them. The environment decides:
`COLUMNS` gives the width, and the name stands out only where the user says that there is a
terminal, since the shell itself does not look for one.
-/

namespace CommandShell.Message

open CommandShell.Host

/-- How the name of the shell stands out. -/
inductive Emphasis
  | plain
  | bold
  | boldRed
  deriving DecidableEq, Repr, Inhabited

/-- The text with the control sequences around it that make it stand out. -/
def Emphasis.apply (e : Emphasis) (cs : List Char) : List Char :=
  match e with
  | .plain => cs
  | .bold => "\x1b[1m".toList ++ cs ++ "\x1b[0m".toList
  | .boldRed => "\x1b[1;31m".toList ++ cs ++ "\x1b[0m".toList

/-- What messages are shown on. -/
structure Screen where
  /-- The number of columns of a line; without columns nothing is shown. -/
  width : Nat := 80
  emphasis : Emphasis := .plain
  deriving DecidableEq, Repr, Inhabited

namespace Screen

/-- Whether the user says that there is a terminal. -/
def isTerminal (e : Environment) : Bool :=
  match e.get? "TTY_COMPATIBLE", e.get? "FORCE_COLOR" with
  | some "0", _ => false
  | some "1", _ => true
  | _, some forced => forced ≠ ""
  | _, none => false

/-- Whether the terminal is one that cannot do anything. -/
def isDumb (e : Environment) : Bool :=
  isTerminal e && ["dumb", "unknown"].contains ((e.get? "TERM").getD "").toLower

/-- How the name of the shell stands out in an environment. -/
def emphasisOf (e : Environment) : Emphasis :=
  if !isTerminal e || isDumb e then .plain
  else if (e.get? "NO_COLOR").getD "" ≠ "" then .bold
  else .boldRed

/-- The number that a variable gives, if it holds nothing but digits. -/
def numberIn (e : Environment) (name : String) : Except Fault (Option Nat) :=
  match e.get? name with
  | none => .ok none
  | some text => (Text.readDigitText text).mapError Fault.number

/-- The screen that an environment describes. A terminal that cannot do anything has the usual
width, unless both its width and its height are given. -/
def ofEnvironment (e : Environment) : Except Fault Screen :=
  match numberIn e "COLUMNS", numberIn e "LINES" with
  | .error fault, _ => .error fault
  | _, .error fault => .error fault
  | .ok columns, .ok rows =>
    let usual : Screen := { emphasis := emphasisOf e }
    match columns with
    | some width =>
      .ok (if isDumb e && rows.isNone then usual else { usual with width })
    | none => .ok usual

end Screen

end CommandShell.Message

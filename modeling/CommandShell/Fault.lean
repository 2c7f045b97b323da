import CommandShell.Host.Errno
import CommandShell.Line.Parsing
import CommandShell.Text.Columns
import CommandShell.Text.Integer
import CommandShell.Text.Literal
import CommandShell.Text.Utf8

/-!
# Faults

Everything that can keep an operation of the shell from coming to its end, with the message that
goes with it. Some faults are caught close by and reported as a message and a status; the others
pass through the session to whoever runs it.
-/

namespace CommandShell

/-- What can go wrong with a history file. -/
inductive HistoryFault
  | cannotRead (path : String)
  | cannotWrite (path : String)
  | cannotAppend (path : String)
  deriving DecidableEq, Repr, Inhabited

def HistoryFault.message : HistoryFault → String
  | .cannotRead path => "history: cannot read file '" ++ path ++ "'"
  | .cannotWrite path => "history: cannot write to file '" ++ path ++ "'"
  | .cannotAppend path => "history: cannot append to file '" ++ path ++ "'"

/-- The sorts of failure that a builtin can raise on its own account. -/
inductive FailureKind
  | general
  | shell
  | system
  deriving DecidableEq, Repr, Inhabited

/-- Why an operation did not come to its end. -/
inductive Fault
  /-- A system call failed, perhaps on a path. -/
  | system (cause : Host.Errno) (path : Option String := none)
  /-- A file that has to hold text holds other bytes. -/
  | malformedText (place : Text.Malformed)
  /-- Digits stand for no number. -/
  | number (fault : Text.NumberFault)
  /-- A text with a NUL character was handed to the system. -/
  | embeddedNul
  /-- The working directory was removed. -/
  | workingDirectoryGone
  /-- `~` stands for no directory. -/
  | noHomeDirectory
  /-- The line is no pipeline. -/
  | parse (error : Line.ParseError)
  /-- The name is neither a builtin nor an executable file. -/
  | commandNotFound (name : String)
  /-- The target of a redirection cannot be opened. -/
  | redirection (path : String)
  /-- A history file cannot be used. -/
  | history (fault : HistoryFault)
  /-- A builtin stage has nothing to run. -/
  | noHandler (name : String)
  /-- There is no log level of this name. -/
  | unknownLevel (level : String)
  /-- A setting has a value of the wrong type. -/
  | invalidSettings
  /-- A message cannot be laid out. -/
  | layout (fault : Text.CropFault)
  /-- A builtin failed. -/
  | failure (kind : FailureKind) (message : String)
  /-- The user interrupted the shell. -/
  | interrupted
  /-- The programs of a pipeline never came to their end. -/
  | stalled
  deriving DecidableEq, Repr, Inhabited

/-- The words for why bytes are no text. -/
def malformedReasonText : Text.MalformedReason → String
  | .invalidStart => "invalid start byte"
  | .invalidContinuation => "invalid continuation byte"
  | .unexpectedEnd => "unexpected end of data"

/-- The message about bytes that are no text: one byte is shown, of several only the places. -/
def malformedMessage (place : Text.Malformed) : String :=
  let bytes := match place.bytes with
    | [b] => "byte 0x" ++ String.ofList (Text.hexDigits 2 b.toNat) ++ " in position " ++
        toString place.offset
    | bytes => "bytes in position " ++ toString place.offset ++ "-" ++
        toString (place.offset + bytes.length - 1)
  "'utf-8' codec can't decode " ++ bytes ++ ": " ++ malformedReasonText place.reason

def numberMessage : Text.NumberFault → String
  | .notANumber text => "invalid literal for int() with base 10: " ++ Text.literal text
  | .tooManyDigits count =>
    "Exceeds the limit (" ++ toString Text.maxDigits ++
      " digits) for integer string conversion: value has " ++ toString count ++
      " digits; use sys.set_int_max_str_digits() to increase the limit"

/-- The message about a text that cannot be cut to a width. -/
def cropMessage : Text.CropFault → String
  | .noColumns => "division by zero"
  | .outOfGlyphs => "list index out of range"

def Fault.message : Fault → String
  | .system cause path =>
    let about := match path with
      | some path => ": " ++ Text.literal path
      | none => ""
    "[Errno " ++ toString cause.number ++ "] " ++ cause.message ++ about
  | .malformedText place => malformedMessage place
  | .number fault => numberMessage fault
  | .embeddedNul => "embedded null byte"
  | .workingDirectoryGone => "[Errno 2] No such file or directory"
  | .noHomeDirectory => "Could not determine home directory."
  | .parse error => error.message
  | .commandNotFound name => name ++ ": command not found"
  | .redirection path => "shell: cannot open '" ++ path ++ "'"
  | .history fault => fault.message
  | .noHandler name => "shell: " ++ name ++ ": builtin has no handler"
  | .unknownLevel level => "Level '" ++ level ++ "' does not exist"
  | .invalidSettings => "shell: invalid settings"
  | .layout fault => cropMessage fault
  | .failure _ message => message
  | .interrupted => ""
  | .stalled => "shell: the pipeline does not end"

end CommandShell

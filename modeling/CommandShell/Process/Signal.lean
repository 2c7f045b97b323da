/-!
# Signals

The signals of the machine: their numbers, their names, the words for a program that one of them
ended, and what each does to a program that has not said otherwise.
-/

namespace CommandShell.Process

abbrev Signal := Nat

namespace Signal

def interrupt : Signal := 2
def quit : Signal := 3
def kill : Signal := 9
def segment : Signal := 11
def pipe : Signal := 13
def terminate : Signal := 15
def childEnded : Signal := 17
def stop : Signal := 19

/-- One more than the greatest signal. -/
def count : Nat := 65

/-- The names of the signals from 1 to 31, and the words for what they end. A signal without a name
goes by its number. -/
def table : List (String × String) :=
  [("HUP", "Hangup"), ("INT", "Interrupt"), ("QUIT", "Quit"), ("ILL", "Illegal instruction"),
    ("TRAP", "Trace/breakpoint trap"), ("ABRT", "Aborted"), ("BUS", "Bus error"),
    ("FPE", "Floating point exception"), ("KILL", "Killed"), ("USR1", "User defined signal 1"),
    ("SEGV", "Segmentation fault"), ("USR2", "User defined signal 2"), ("PIPE", "Broken pipe"),
    ("ALRM", "Alarm clock"), ("TERM", "Terminated"), ("16", "Stack fault"),
    ("CHLD", "Child exited"), ("CONT", "Continued"), ("STOP", "Stopped (signal)"),
    ("TSTP", "Stopped"), ("TTIN", "Stopped (tty input)"), ("TTOU", "Stopped (tty output)"),
    ("URG", "Urgent I/O condition"), ("XCPU", "CPU time limit exceeded"),
    ("XFSZ", "File size limit exceeded"), ("VTALRM", "Virtual timer expired"),
    ("PROF", "Profiling timer expired"), ("WINCH", "Window changed"), ("IO", "I/O possible"),
    ("PWR", "Power failure"), ("SYS", "Bad system call")]

/-- The first of the signals that programs may use as they like. -/
def firstFree : Signal := 34

/-- The name of a signal, without anything before it. -/
def name (s : Signal) : String :=
  if s = 0 then "EXIT"
  else match table[s - 1]? with
    | some (name, _) => name
    | none =>
      if s < firstFree then toString s
      else if s = firstFree then "RTMIN"
      else if s ≤ 49 then "RTMIN+" ++ toString (s - firstFree)
      else if s = 64 then "RTMAX"
      else "RTMAX-" ++ toString (64 - s)

/-- The words for a program that a signal ended. -/
def description (s : Signal) : String :=
  match if s = 0 then none else table[s - 1]? with
  | some (_, words) => words
  | none =>
    if firstFree ≤ s then "Real-time signal " ++ toString (s - firstFree)
    else "Unknown signal " ++ toString s

/-- Whether a signal does nothing to a program that has not said otherwise. A program that would
only be stopped goes on. -/
def isHarmless (s : Signal) : Bool :=
  [17, 18, 19, 20, 21, 22, 23, 28].contains s

end Signal

/-- What a program wants to be done with a signal. -/
inductive Disposition
  /-- What the machine does with it. -/
  | standard
  | ignored
  /-- The program looks for it itself. -/
  | caught
  deriving DecidableEq, Repr, Inhabited

end CommandShell.Process

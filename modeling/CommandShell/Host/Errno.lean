/-!
# Why a system call fails
-/

namespace CommandShell.Host

/-- The causes of a failing system call. -/
inductive Errno
  | noEntry
  | noSuchProcess
  | interrupted
  | inputOutput
  | noDevice
  | argumentsTooLong
  | execFormat
  | badDescriptor
  | noChild
  | noProcess
  | access
  | exists
  | notDirectory
  | isDirectory
  | invalid
  | textBusy
  | fileTooLarge
  | noSpace
  | illegalSeek
  | brokenPipe
  | nameTooLong
  | loop
  deriving DecidableEq, Repr, Inhabited

/-- The system's words for a cause. -/
def Errno.message : Errno → String
  | .noEntry => "No such file or directory"
  | .noSuchProcess => "No such process"
  | .interrupted => "Interrupted system call"
  | .inputOutput => "Input/output error"
  | .noDevice => "No such device or address"
  | .argumentsTooLong => "Argument list too long"
  | .execFormat => "Exec format error"
  | .badDescriptor => "Bad file descriptor"
  | .noChild => "No child processes"
  | .noProcess => "Resource temporarily unavailable"
  | .access => "Permission denied"
  | .exists => "File exists"
  | .notDirectory => "Not a directory"
  | .isDirectory => "Is a directory"
  | .invalid => "Invalid argument"
  | .textBusy => "Text file busy"
  | .fileTooLarge => "File too large"
  | .noSpace => "No space left on device"
  | .illegalSeek => "Illegal seek"
  | .brokenPipe => "Broken pipe"
  | .nameTooLong => "File name too long"
  | .loop => "Too many levels of symbolic links"

/-- The system's number for a cause. -/
def Errno.number : Errno → Nat
  | .noEntry => 2
  | .noSuchProcess => 3
  | .interrupted => 4
  | .inputOutput => 5
  | .noDevice => 6
  | .argumentsTooLong => 7
  | .execFormat => 8
  | .badDescriptor => 9
  | .noChild => 10
  | .noProcess => 11
  | .access => 13
  | .exists => 17
  | .notDirectory => 20
  | .isDirectory => 21
  | .invalid => 22
  | .textBusy => 26
  | .fileTooLarge => 27
  | .noSpace => 28
  | .illegalSeek => 29
  | .brokenPipe => 32
  | .nameTooLong => 36
  | .loop => 40

end CommandShell.Host

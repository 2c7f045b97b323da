import CommandShell.Host.Machine

/-!
# Programs

All that a pipeline needs to know of a program is what it does next: end, read, write, or use the
files. `Programs σ` gives that for programs whose state is a `σ`, together with how one is started.
Nothing else here depends on what the programs are, so what holds of pipelines holds for all of
them.
-/

namespace CommandShell.Pipeline

open CommandShell.Host

/-- The two streams that a program writes to. -/
inductive Channel
  | output
  | errors
  deriving DecidableEq, Repr, Inhabited

/-- Where a program reads from. -/
inductive Source
  | shellInput
  | pipe (id : Nat)
  deriving DecidableEq, Repr, Inhabited

/-- Where bytes go. -/
inductive Sink
  | outlet (o : Outlet)
  | pipe (id : Nat)
  deriving DecidableEq, Repr, Inhabited

/-- The three streams that a program is started with. -/
structure Streams where
  input : Source := .shellInput
  output : Sink := .outlet .output
  errors : Sink := .outlet .errors
  deriving DecidableEq, Repr, Inhabited

def Streams.sink (s : Streams) : Channel → Sink
  | .output => s.output
  | .errors => s.errors

/-- What a program does next. -/
inductive Action (σ : Type)
  /-- It ends with a status; a signal counts as its negative number. -/
  | exit (status : Int)
  /-- It takes at most `most` bytes from its standard input. No bytes at all mean that the input is
  at its end; `waiting` is how it goes on if nothing is there yet. -/
  | read (most : Nat) (next : ByteArray → σ) (waiting : σ)
  /-- It writes bytes; `refused` is how it goes on if they cannot be written. -/
  | write (channel : Channel) (bytes : ByteArray) (next : σ) (refused : Errno → σ)
  /-- It gives up its standard input: there is nothing more for it to read. -/
  | closeInput (next : σ)
  /-- It looks at the files and changes them. -/
  | files (act : FileSystem → FileSystem × σ)

/-- The programs of a machine. -/
structure Programs (σ : Type) where
  /-- Starts the executable of a path with arguments, the first of which is its own name. -/
  start : Machine → Streams → (executable : String) → (argv : List String) → Except Errno σ
  /-- What a program does next. -/
  act : σ → Action σ

end CommandShell.Pipeline

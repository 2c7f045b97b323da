import CommandShell.Session.Loop

/-!
# Lines from standard input

A session can read its lines from the standard input that its programs have as well. It takes the
bytes in large pieces, so a program that reads finds what comes after the piece that was taken, and
what the program takes is no line any more.

A line ends with a line feed, a carriage return, or both in this order.
-/

namespace CommandShell.Session

open CommandShell.Host CommandShell.Pipeline

/-- How many bytes are taken from standard input at once. -/
def inputPiece : Nat := 8192

/-- The first line of bytes and the bytes after it. A carriage return at their end may be one half
of a line end, so it ends no line unless there is nothing more to come. -/
def firstLine? (held : ByteArray) (isLast : Bool) : Option (ByteArray × ByteArray) :=
  match held.findIdx? fun b ↦ b == 10 || b == 13 with
  | none => if isLast && !held.isEmpty then some (held, ByteArray.empty) else none
  | some i =>
    let rest := fun (start : Nat) ↦ some (held.extract 0 i, held.extract start held.size)
    if held[i]? == some 10 then rest (i + 1)
    else if held[i + 1]? == some 10 then rest (i + 2)
    else if i + 1 < held.size || isLast then rest (i + 1)
    else none

/-- The next line of standard input, if there is one, with the bytes that were taken and not used;
`patience` bounds the number of pieces. -/
def nextLine (m : Machine) : (patience : Nat) → (held : ByteArray) →
    Option String × ByteArray × Machine
  | 0, held => (none, held, m)
  | patience + 1, held =>
    match firstLine? held false with
    | some (line, rest) => (some (Text.decodeLossy line), rest, m)
    | none =>
      match m.takeInput inputPiece with
      | (piece, m) =>
        if piece.isEmpty then
          match firstLine? held true with
          | some (line, rest) => (some (Text.decodeLossy line), rest, m)
          | none => (none, ByteArray.empty, m)
        else nextLine m patience (held ++ piece)

variable {σ : Type}

/-- The shell after all lines of standard input, or after exit is asked for; `patience` bounds their
number. -/
def loopInput (E : Engine σ) (r : Registry) (f : Frontend) :
    (patience : Nat) → (held : ByteArray) → Shell → Except Fault Unit × Shell
  | 0, _, s => (.error .stalled, s)
  | patience + 1, held, s =>
    if s.exitRequest.isSome then (.ok (), s)
    else
      let s := showPrompt f s
      match nextLine s.machine E.patience held with
      | (none, _, machine) => (.ok (), { s with machine })
      | (some line, held, machine) =>
        match enter E r f { s with machine } (.line line) with
        | (.ok (), s) => loopInput E r f patience held s
        | (.error fault, s) => (.error fault, s)

/-- Runs a session whose lines come from standard input. -/
def interactInput (E : Engine σ) (r : Registry) (f : Frontend) (s : Shell) :
    Except Fault Int × Shell :=
  within s fun s ↦ loopInput E r f E.patience ByteArray.empty s

end CommandShell.Session

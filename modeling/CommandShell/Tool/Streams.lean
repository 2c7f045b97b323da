import CommandShell.Tool.Arguments
import CommandShell.Tool.ShownName

/-!
# What tools read and write

A tool reads the files that its operands name, one after the other; `-` stands for standard input,
and so does the lack of operands. Lines end with a line feed, or with a NUL if a tool is told so.
-/

namespace CommandShell.Tool

open CommandShell.Host CommandShell.Process CommandShell.Text

def sourceNames (operands : List String) : List String :=
  if operands.isEmpty then ["-"] else operands

def openSource (i : Invocation) (name : String) : Job (Except Errno Descriptor) :=
  if name = "-" then pure (.ok 0)
  else Job.call (.openFile i.cwd (Octets.text name) .reading)

/-- Closes a source. Standard input stays open. -/
def closeSource (fd : Descriptor) : Job Unit := do
  if fd != 0 then
    let _ ← Job.call (.close fd)

/-- Closes standard input if it is among the sources; the answer is the status of a tool that has
come to one. -/
def closeInput (i : Invocation) (names : List String) (shown : String) (status : Int) :
    Job Int := do
  if names.contains "-" then
    if let .error e ← Job.call (.close 0) then
      i.complain (shown ++ ": " ++ e.message)
      return 1
  return status

/-- The most bytes that are read at once. -/
def pieceSize : Nat := 131072

/-- Handles what a descriptor holds piece by piece, from a setting to a setting. What comes with the
last setting is why no more could be read. -/
def eachPiece {σ : Type} (fd : Descriptor) (f : σ → ByteArray → Job σ) :
    (fuel : Nat) → σ → Job (σ × Option Errno)
  | 0, s => pure (s, none)
  | fuel + 1, s => do
    match ← Job.read fd pieceSize with
    | .error e => return (s, some e)
    | .ok bytes =>
      if bytes.isEmpty then return (s, none) else eachPiece fd f fuel (← f s bytes)

/-- All that a descriptor still holds, and why no more could be read. -/
def readAll (fd : Descriptor) : Job (ByteArray × Option Errno) :=
  eachPiece fd (fun seen bytes ↦ pure (seen ++ bytes)) endurance ByteArray.empty

/-- Writes bytes to standard output. A tool that cannot do that says so and ends. -/
def emit (i : Invocation) (bytes : ByteArray) (status : Int := 1) : Job Unit := do
  if !bytes.isEmpty then
    if let .error e ← Job.write 1 bytes then
      i.refuse ("write error: " ++ e.message) status

/-- Writes a text of octets to standard output. -/
def emitText (i : Invocation) (text : String) : Job Unit :=
  emit i (Octets.bytes text)

/-- The size of what a tool holds back before it writes. -/
def bufferSize : Nat := 4096

/-- Writes bytes to standard output in a tool that tells a failure at once from one at its end. -/
def emitPart (i : Invocation) (bytes : ByteArray) : Job Unit := do
  if !bytes.isEmpty then
    if let .error e ← Job.write 1 bytes then
      if bytes.size ≤ bufferSize then i.refuse ("write error: " ++ e.message)
      else i.refuse ("error writing 'standard output': " ++ e.message)

def byteLines (stop : UInt8) (bytes : ByteArray) : List ByteArray :=
  go bytes.size 0 0 []
where
  /-- The lines from the place `start` on, latest first; the bytes up to `place` hold no end. -/
  go : (fuel : Nat) → (start place : Nat) → List ByteArray → List ByteArray
    | 0, start, _, done => (if start < bytes.size then
        bytes.extract start bytes.size :: done else done).reverse
    | fuel + 1, start, place, done =>
      if bytes.get! place == stop then
        go fuel (place + 1) (place + 1) (bytes.extract start (place + 1) :: done)
      else go fuel start (place + 1) done

def joinBytes (pieces : List ByteArray) : ByteArray :=
  pieces.foldl (· ++ ·) ByteArray.empty

/-- A number at the right end of a field. -/
def padLeft (width : Nat) (text : String) : String :=
  String.ofList (List.replicate (width - text.length) ' ') ++ text

def isDigit (c : Char) : Bool :=
  '0' ≤ c && c ≤ '9'

/-- The natural number that ASCII digits spell. -/
def natOf (digits : List Char) : Nat :=
  digits.foldl (fun n c ↦ 10 * n + (c.toNat - 48)) 0

/-- Whether a character is a blank of the C locale. -/
def isSpace (c : Char) : Bool :=
  c = ' ' || ('\t' ≤ c && c ≤ '\r')

end CommandShell.Tool

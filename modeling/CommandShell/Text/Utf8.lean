/-!
# Bytes as text

Two ways to read bytes as UTF-8. `decode` is strict and says where and why the bytes are no text.
`decodeLossy` always answers: each longest start of a well-formed sequence that breaks off, and each
byte that can start none, becomes one replacement character.

`Lead.ofByte` and `OpenSequence.next?` hold what a well-formed sequence is; both ways rest on them.
-/

namespace CommandShell.Text

/-! ## Well-formed sequences -/

/-- A sequence that has begun: how many bytes are missing, the bounds of the next byte, and the
bits read so far. -/
structure OpenSequence where
  missing : Nat
  least : Nat
  greatest : Nat
  value : Nat
  deriving DecidableEq, Repr, Inhabited

/-- What a byte outside any sequence is. -/
inductive Lead
  /-- A character by itself. -/
  | single
  /-- The start of a longer sequence. -/
  | opens (sequence : OpenSequence)
  /-- No start of anything. -/
  | invalid
  deriving DecidableEq, Repr, Inhabited

/-- What a byte is outside any sequence. -/
def Lead.ofByte (byte : Nat) : Lead :=
  if byte < 0x80 then .single
  else if 0xC2 ≤ byte ∧ byte ≤ 0xDF then .opens ⟨1, 0x80, 0xBF, byte - 0xC0⟩
  else if byte = 0xE0 then .opens ⟨2, 0xA0, 0xBF, 0⟩
  else if byte = 0xED then .opens ⟨2, 0x80, 0x9F, byte - 0xE0⟩
  else if 0xE1 ≤ byte ∧ byte ≤ 0xEF then .opens ⟨2, 0x80, 0xBF, byte - 0xE0⟩
  else if byte = 0xF0 then .opens ⟨3, 0x90, 0xBF, 0⟩
  else if byte = 0xF4 then .opens ⟨3, 0x80, 0x8F, byte - 0xF0⟩
  else if 0xF1 ≤ byte ∧ byte ≤ 0xF3 then .opens ⟨3, 0x80, 0xBF, byte - 0xF0⟩
  else .invalid

/-- The sequence with one more byte, if that byte can come next; none are missing at its end. -/
def OpenSequence.next? (s : OpenSequence) (byte : Nat) : Option OpenSequence :=
  if s.least ≤ byte ∧ byte ≤ s.greatest then
    some ⟨s.missing - 1, 0x80, 0xBF, 64 * s.value + (byte - 0x80)⟩
  else none

/-! ## Strict reading -/

/-- Why bytes are no text. -/
inductive MalformedReason
  | invalidStart
  | invalidContinuation
  | unexpectedEnd
  deriving DecidableEq, Repr, Inhabited

/-- The first place where bytes are no text: its offset, the bytes that belong to it, and the
reason. -/
structure Malformed where
  offset : Nat
  bytes : List UInt8
  reason : MalformedReason
  deriving DecidableEq, Repr, Inhabited

/-- The first place where bytes are no text. `offset` is where the next byte is, and `pending` holds
the bytes of an open sequence, last byte first. -/
def malformedFrom (offset : Nat) (pending : List UInt8) (sequence : Option OpenSequence) :
    List UInt8 → Option Malformed
  | [] => sequence.map fun _ ↦ ⟨offset - pending.length, pending.reverse, .unexpectedEnd⟩
  | b :: rest =>
    match sequence with
    | none =>
      match Lead.ofByte b.toNat with
      | .single => malformedFrom (offset + 1) [] none rest
      | .opens s => malformedFrom (offset + 1) [b] (some s) rest
      | .invalid => some ⟨offset, [b], .invalidStart⟩
    | some s =>
      match s.next? b.toNat with
      | some s =>
        if s.missing = 0 then malformedFrom (offset + 1) [] none rest
        else malformedFrom (offset + 1) (b :: pending) (some s) rest
      | none => some ⟨offset - pending.length, pending.reverse, .invalidContinuation⟩

/-- The first place where bytes are no text, if there is one. -/
def malformed? (bytes : ByteArray) : Option Malformed :=
  malformedFrom 0 [] none bytes.toList

/-- The text that bytes encode, if they are well formed. -/
def decode? (bytes : ByteArray) : Option String :=
  String.fromUTF8? bytes

/-- The text that bytes encode, or the first place where they are no text. -/
def decode (bytes : ByteArray) : Except Malformed String :=
  match decode? bytes with
  | some text => .ok text
  | none => .error ((malformed? bytes).getD default)

@[simp] theorem decode?_toUTF8 (s : String) : decode? s.toUTF8 = some s := by
  simp only [decode?, String.fromUTF8?, String.toUTF8_eq_toByteArray, s.isValidUTF8, dite_true]
  rfl

@[simp] theorem decode_toUTF8 (s : String) : decode s.toUTF8 = .ok s := by
  rw [decode, decode?_toUTF8]

/-! ## Lossy reading -/

/-- Text read so far, last character first, and the sequence that is open. -/
structure LossyText where
  text : List Char := []
  sequence : Option OpenSequence := none
  deriving Repr, Inhabited

namespace LossyText

/-- The character that stands for what cannot be read. -/
def replacement : Char := '\uFFFD'

/-- Reads a byte outside any sequence. -/
def start (t : LossyText) (byte : Nat) : LossyText :=
  match Lead.ofByte byte with
  | .single => { t with text := Char.ofNat byte :: t.text }
  | .opens s => { t with sequence := some s }
  | .invalid => { t with text := replacement :: t.text }

/-- Reads one byte. -/
def step (t : LossyText) (b : UInt8) : LossyText :=
  let byte := b.toNat
  match t.sequence with
  | none => t.start byte
  | some s =>
    match s.next? byte with
    | some s =>
      if s.missing = 0 then { text := Char.ofNat s.value :: t.text }
      else { t with sequence := some s }
    | none => { text := replacement :: t.text : LossyText }.start byte

/-- The text when the bytes end here. -/
def finish (t : LossyText) : String :=
  match t.sequence with
  | none => String.ofList t.text.reverse
  | some _ => String.ofList (replacement :: t.text).reverse

end LossyText

/-- The text that bytes encode, with replacements for what is not well formed. -/
def decodeLossy (bytes : ByteArray) : String :=
  (bytes.foldl LossyText.step {}).finish

end CommandShell.Text

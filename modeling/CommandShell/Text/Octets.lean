import CommandShell.Text.Utf8

/-!
# Texts of octets

Programs of the machine handle bytes and know no character set. Inside them a text is therefore
written with one character for each byte, the one whose code point is the byte; `ofText` and `text`
lead from texts of characters to texts of octets and back.
-/

namespace CommandShell.Text.Octets

/-- The text of octets that bytes are written as. -/
def ofBytes (bytes : ByteArray) : String :=
  bytes.foldl (fun s b ↦ s.push (Char.ofNat b.toNat)) ""

/-- The bytes that a text of octets stands for. -/
def bytes (s : String) : ByteArray :=
  s.foldl (fun bytes c ↦ bytes.push (UInt8.ofNat c.toNat)) ByteArray.empty

/-- The text of octets of a text of characters. -/
def ofText (s : String) : String :=
  ofBytes s.toUTF8

/-- The text of characters that a text of octets encodes. -/
def text (s : String) : String :=
  decodeLossy (bytes s)

end CommandShell.Text.Octets

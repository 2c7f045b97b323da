/-!
# Classes of bytes

The classes of bytes that have names. Bytes are written as the characters with the same numbers.
-/

namespace CommandShell.Text

/-- The classes of bytes that have names. -/
inductive ByteClass
  | alnum | alpha | blank | cntrl | digit | graph | lower | print | punct | space | upper | xdigit
  deriving DecidableEq, Repr, Inhabited

namespace ByteClass

def table : List (String × ByteClass) :=
  [("alnum", alnum), ("alpha", alpha), ("blank", blank), ("cntrl", cntrl), ("digit", digit),
    ("graph", graph), ("lower", lower), ("print", print), ("punct", punct), ("space", space),
    ("upper", upper), ("xdigit", xdigit)]

def named? (name : String) : Option ByteClass :=
  table.lookup name

def holds (k : ByteClass) (c : Char) : Bool :=
  let visible := '!' ≤ c && c ≤ '~'
  match k with
  | alnum => c.isAlphanum
  | alpha => c.isAlpha
  | blank => c = ' ' || c = '\t'
  | cntrl => c < ' ' || c = '\x7f'
  | digit => '0' ≤ c && c ≤ '9'
  | graph => visible
  | lower => c.isLower
  | print => visible || c = ' '
  | punct => visible && !c.isAlphanum
  | space => c = ' ' || ('\t' ≤ c && c ≤ '\r')
  | upper => c.isUpper
  | xdigit => ('0' ≤ c && c ≤ '9') || ('a' ≤ c && c ≤ 'f') || ('A' ≤ c && c ≤ 'F')

/-- The bytes of a class, in order. -/
def members (k : ByteClass) : List Char :=
  ((List.range 256).map Char.ofNat).filter k.holds

/-- Whether a class is one of the two cases. -/
def isCase (k : ByteClass) : Bool :=
  k = upper || k = lower

end ByteClass

end CommandShell.Text

import CommandShell.Script.Variables
import CommandShell.Text.Floating

/-!
# Arithmetic

Expressions over whole numbers of 64 bits, which begin anew where they get too large. Variables in
them are numbers themselves, and can be set. What need not be known, such as the second operand of
`&&` after a false one, is read but neither looked up nor set.
-/

namespace CommandShell.Script

open CommandShell.Text

/-- The number of 64 bits that a whole number wraps around to. -/
def wrapped (n : Int) : Int :=
  (n + 0x8000000000000000) % 0x10000000000000000 - 0x8000000000000000

/-- The nearest number of 64 bits. -/
def clamped (n : Int) : Int :=
  max (-0x8000000000000000) (min 0x7fffffffffffffff n)

/-- The number without a sign at the start of a text: hexadecimal after `0x`, octal after `0`, or
decimal. -/
def readNatural (cs : List Char) : Option (Nat × List Char) :=
  let isOctal := fun (c : Char) ↦ '0' ≤ c && c ≤ '7'
  let isDecimal := fun (c : Char) ↦ '0' ≤ c && c ≤ '9'
  let hex := fun (c : Char) ↦ (Floating.hexDigit? c).isSome
  match cs with
  | '0' :: x :: d :: rest =>
    if (x = 'x' || x = 'X') && hex d then
      let (digits, rest) := (d :: rest).span hex
      some (Floating.ofDigits 16 digits, rest)
    else
      let (digits, rest) := (x :: d :: rest).span isOctal
      some (Floating.ofDigits 8 digits, rest)
  | '0' :: rest =>
    let (digits, rest) := rest.span isOctal
    some (Floating.ofDigits 8 digits, rest)
  | cs =>
    match cs.span isDecimal with
    | ([], _) => none
    | (digits, rest) => some (Floating.ofDigits 10 digits, rest)

def isNumberBlank (c : Char) : Bool :=
  c = ' ' || ('\t' ≤ c && c ≤ '\r')

/-- The number that a text stands for, blanks around it left out; none is 0. -/
def readNumber? (text : String) : Option Int :=
  let cs := text.toList.dropWhile isNumberBlank
  let (negative, body) := match cs with
    | '-' :: rest => (true, rest)
    | '+' :: rest => (false, rest)
    | rest => (false, rest)
  match readNatural body with
  | some (n, rest) =>
    if rest.all isNumberBlank then
      let value := if negative then -(n : Int) else n
      if clamped value = value then some value else none
    else none
  | none => if cs.isEmpty then some 0 else none

/-- The operators with two operands, other than those that need not look at the second one. -/
inductive BinaryOperator
  | times | divided | modulo | plus | minus | shiftLeft | shiftRight | less | lessEqual | greater
  | greaterEqual | equal | unequal | bitAnd | bitXor | bitOr
  deriving DecidableEq, Repr, Inhabited

namespace BinaryOperator

/-- How loosely an operator binds. -/
def rank : BinaryOperator → Nat
  | times | divided | modulo => 0
  | plus | minus => 1
  | shiftLeft | shiftRight => 2
  | less | lessEqual | greater | greaterEqual => 3
  | equal | unequal => 4
  | bitAnd => 5
  | bitXor => 6
  | bitOr => 7

/-- The number of a truth value. -/
def ofBool (b : Bool) : Int :=
  if b then 1 else 0

/-- The value of an operation on the bits of two numbers. -/
def onBits (f : BitVec 64 → BitVec 64 → BitVec 64) (a b : Int) : Int :=
  (f (BitVec.ofInt 64 a) (BitVec.ofInt 64 b)).toInt

/-- The value of an operation; none for a division by zero. -/
def value? (o : BinaryOperator) (a b : Int) : Option Int :=
  let places := (b % 64).toNat
  match o with
  | times => some (wrapped (a * b))
  | divided => if b = 0 then none else some (wrapped (a.tdiv b))
  | modulo => if b = 0 then none else some (a.tmod b)
  | plus => some (wrapped (a + b))
  | minus => some (wrapped (a - b))
  | shiftLeft => some (wrapped (a * Int.pow 2 places))
  | shiftRight => some (a / Int.pow 2 places)
  | less => some (ofBool (a < b))
  | lessEqual => some (ofBool (a ≤ b))
  | greater => some (ofBool (b < a))
  | greaterEqual => some (ofBool (b ≤ a))
  | equal => some (ofBool (a = b))
  | unequal => some (ofBool (a ≠ b))
  | bitAnd => some (onBits (· &&& ·) a b)
  | bitXor => some (onBits (· ^^^ ·) a b)
  | bitOr => some (onBits (· ||| ·) a b)

end BinaryOperator

/-- What expressions are made of. -/
inductive Symbol
  | number (n : Int)
  | name (text : String)
  | binary (o : BinaryOperator)
  /-- It sets a variable, perhaps with the value of an operation. -/
  | assign (o : Option BinaryOperator)
  | not | complement | both | either | question | colon | opening | closing
  /-- Something else. -/
  | unknown
  deriving DecidableEq, Repr, Inhabited

/-- The operators, longer ones before those that they begin with. -/
def operatorTable : List (String × Symbol) :=
  [("<<=", .assign (some .shiftLeft)), (">>=", .assign (some .shiftRight)),
    ("<<", .binary .shiftLeft), (">>", .binary .shiftRight), ("<=", .binary .lessEqual),
    (">=", .binary .greaterEqual), ("==", .binary .equal), ("!=", .binary .unequal),
    ("&&", .both), ("||", .either), ("&=", .assign (some .bitAnd)), ("|=", .assign (some .bitOr)),
    ("^=", .assign (some .bitXor)), ("*=", .assign (some .times)), ("/=", .assign (some .divided)),
    ("%=", .assign (some .modulo)), ("+=", .assign (some .plus)), ("-=", .assign (some .minus)),
    ("<", .binary .less), (">", .binary .greater), ("=", .assign none), ("!", .not),
    ("&", .binary .bitAnd), ("|", .binary .bitOr), ("^", .binary .bitXor), ("~", .complement),
    ("*", .binary .times), ("/", .binary .divided), ("%", .binary .modulo), ("+", .binary .plus),
    ("-", .binary .minus), ("?", .question), (":", .colon), ("(", .opening), (")", .closing)]

def symbols : (fuel : Nat) → List Char → List Symbol
  | 0, _ => []
  | _, [] => []
  | fuel + 1, c :: rest =>
    if c = ' ' || c = '\t' || c = '\n' then symbols fuel rest
    else match readNatural (c :: rest) with
      | some (n, rest) => .number (clamped n) :: symbols fuel rest
      | none =>
        match spanName (c :: rest) with
        | (d :: ds, rest) => .name (String.ofList (d :: ds)) :: symbols fuel rest
        | ([], _) =>
          match operatorTable.find? fun o ↦ o.1.toList.isPrefixOf (c :: rest) with
          | some (text, symbol) => symbol :: symbols fuel ((c :: rest).drop text.length)
          | none => [.unknown]

namespace Sh

/-- Complains about an expression. -/
def failArithmetic {α : Type} (text message : String) : Sh α :=
  fail ("arithmetic expression: " ++ message ++ ": \"" ++ text ++ "\"")

/-- The value of a variable as a number. -/
def numberOf (name : String) : Sh Int := do
  let text := (← value? name).getD ""
  match readNumber? text with
  | some n => return n
  | none => fail ("Illegal number: " ++ text)

def operate (text : String) (o : BinaryOperator) (a b : Int) : Sh Int :=
  match o.value? a b with
  | some n => return n
  | none => failArithmetic text "division by zero"

mutual

/-- The value of an expression that may set a variable, and what follows it. Nothing is looked up or
set if `idle` says so. -/
def assignment (text : String) : (fuel : Nat) → (idle : Bool) → List Symbol →
    Sh (Int × List Symbol)
  | 0, _, _ => failArithmetic text "expecting primary"
  | fuel + 1, idle, symbols => do
    match symbols with
    | .name name :: .assign o :: rest =>
      let (result, rest) ← assignment text fuel idle rest
      if idle then return (result, rest)
      let result ← match o with
        | none => pure result
        | some o => do operate text o (← numberOf name) result
      setVariable name (some (toString result))
      return (result, rest)
    | symbols => conditional text fuel idle symbols

/-- The value of an expression with `?`, and what follows it. -/
def conditional (text : String) : (fuel : Nat) → (idle : Bool) → List Symbol →
    Sh (Int × List Symbol)
  | 0, _, _ => failArithmetic text "expecting primary"
  | fuel + 1, idle, symbols => do
    let (a, rest) ← disjunction text fuel idle symbols
    match rest with
    | .question :: rest =>
      let (b, rest) ← assignment text fuel (idle || a = 0) rest
      match rest with
      | .colon :: rest =>
        let (c, rest) ← conditional text fuel (idle || a ≠ 0) rest
        return (if a ≠ 0 then b else c, rest)
      | _ => failArithmetic text "expecting ':'"
    | rest => return (a, rest)

/-- The value of an expression with `||`, and what follows it. -/
def disjunction (text : String) : (fuel : Nat) → (idle : Bool) → List Symbol →
    Sh (Int × List Symbol)
  | 0, _, _ => failArithmetic text "expecting primary"
  | fuel + 1, idle, symbols => do
    let (a, rest) ← conjunction text fuel idle symbols
    match rest with
    | .either :: rest =>
      let (b, rest) ← disjunction text fuel (idle || a ≠ 0) rest
      return (BinaryOperator.ofBool (a ≠ 0 || b ≠ 0), rest)
    | rest => return (a, rest)

/-- The value of an expression with `&&`, and what follows it. -/
def conjunction (text : String) : (fuel : Nat) → (idle : Bool) → List Symbol →
    Sh (Int × List Symbol)
  | 0, _, _ => failArithmetic text "expecting primary"
  | fuel + 1, idle, symbols => do
    let (a, rest) ← binary text fuel idle symbols
    match rest with
    | .both :: rest =>
      let (b, rest) ← conjunction text fuel (idle || a = 0) rest
      return (BinaryOperator.ofBool (a ≠ 0 && b ≠ 0), rest)
    | rest => return (a, rest)

/-- The value of an expression with operators of two operands, and what follows it. -/
def binary (text : String) : (fuel : Nat) → (idle : Bool) → List Symbol →
    Sh (Int × List Symbol)
  | 0, _, _ => failArithmetic text "expecting primary"
  | fuel + 1, idle, symbols => do
    let (a, rest) ← primary text fuel idle symbols
    binaryRest text fuel idle 8 a rest

/-- The value of an expression that begins with an operand, as far as its operators bind closer than
a rank, and what follows it. -/
def binaryRest (text : String) : (fuel : Nat) → (idle : Bool) → (rank : Nat) → Int →
    List Symbol → Sh (Int × List Symbol)
  | 0, _, _, a, symbols => return (a, symbols)
  | fuel + 1, idle, rank, a, symbols => do
    match symbols with
    | .binary o :: rest =>
      if rank ≤ o.rank then return (a, symbols)
      let (b, rest) ← primary text fuel idle rest
      let (b, rest) ← binaryRest text fuel idle o.rank b rest
      let a ← if idle then pure b else operate text o a b
      binaryRest text fuel idle rank a rest
    | symbols => return (a, symbols)

/-- The value of an operand, and what follows it. -/
def primary (text : String) : (fuel : Nat) → (idle : Bool) → List Symbol →
    Sh (Int × List Symbol)
  | 0, _, _ => failArithmetic text "expecting primary"
  | fuel + 1, idle, symbols => do
    match symbols with
    | .opening :: rest =>
      let (a, rest) ← assignment text fuel idle rest
      match rest with
      | .closing :: rest => return (a, rest)
      | _ => failArithmetic text "expecting ')'"
    | .number n :: rest => return (n, rest)
    | .name name :: rest => return (← if idle then pure 0 else numberOf name, rest)
    | .binary .plus :: rest => primary text fuel idle rest
    | .binary .minus :: rest =>
      let (a, rest) ← primary text fuel idle rest
      return (wrapped (-a), rest)
    | .not :: rest =>
      let (a, rest) ← primary text fuel idle rest
      return (BinaryOperator.ofBool (a = 0), rest)
    | .complement :: rest =>
      let (a, rest) ← primary text fuel idle rest
      return (-a - 1, rest)
    | _ => failArithmetic text "expecting primary"

end

/-- The value of an expression. -/
def arithmetic (text : String) : Sh Int := do
  let all := symbols (text.length + 1) text.toList
  let (a, rest) ← assignment text (32 * all.length + 32) false all
  if !rest.isEmpty then failArithmetic text "expecting EOF"
  return a

end Sh

end CommandShell.Script

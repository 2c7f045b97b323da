import CommandShell.Tool.ByteSets

/-!
# `tr`

`tr` replaces, deletes and squeezes the bytes of standard input. To replace, the bytes of a first
list become those at the same places of a second one, which is made longer by its last byte if need
be. A case in the one list and a case at the same place of the other stand for the letters in that
order.
-/

namespace CommandShell.Tool

open CommandShell.Host CommandShell.Process CommandShell.Text

/-- What `tr` is to do. -/
structure TrStyle where
  complements : Bool := false
  deletes : Bool := false
  squeezes : Bool := false
  /-- Whether the first list is cut to the length of the second one. -/
  truncates : Bool := false
  deriving DecidableEq, Repr, Inhabited

/-- The options of `tr`. -/
def trGrammar : Grammar where
  short := "AcCdst".toList.map fun c ↦ (c, .never)
  long := [("complement", .never, 'c'), ("delete", .never, 'd'), ("squeeze-repeats", .never, 's'),
    ("truncate-set1", .never, 't')]
  mixed := false

def TrStyle.set (s : TrStyle) : Char → TrStyle
  | 'd' => { s with deletes := true }
  | 's' => { s with squeezes := true }
  | 't' => { s with truncates := true }
  | 'A' => s
  | _ => { s with complements := true }

/-- A table from bytes to something. -/
abbrev ByteTable (α : Type) := Array α

def memberTable (cs : List Char) : ByteTable Bool :=
  cs.foldl (fun t c ↦ t.setIfInBounds c.toNat true) (Array.replicate 256 false)

def bytesOf (spans : List ByteSpan) : List Char :=
  spans.flatMap (·.bytes)

/-- The number of bytes that a list has without repetitions that fill it up. -/
def sizeOf (spans : List ByteSpan) : Nat :=
  (bytesOf spans).length

def complementOf (spans : List ByteSpan) : List Char :=
  let table := memberTable (bytesOf spans)
  ((List.range 256).filter fun n ↦ !table.getD n false).map Char.ofNat

/-! ## Matching two lists -/

/-- What one place of the first list becomes. -/
inductive Pairing
  | byte (source target : Char)
  | letters (source target : ByteClass)
  deriving DecidableEq, Repr, Inhabited

/-- Goes through two lists at once; what comes with the pairs is what is left of the first list.
A case in the second list needs a case in the first one. -/
def pairUp : (fuel : Nat) → (first second : List ByteSpan) →
    Except String (List Pairing × List ByteSpan)
  | 0, first, _ => .ok ([], first)
  | _, first, [] => .ok ([], first)
  | fuel + 1, first, s :: second =>
    let misaligned := .error "misaligned [:upper:] and/or [:lower:] construct"
    let isCase := match s with
      | .members k => k.isCase
      | _ => false
    match first, s with
    | [], _ => if isCase then misaligned else .ok ([], [])
    | f :: first, s =>
      if isCase then
        match f, s with
        | .members k, .members l =>
          if k.isCase then
            (pairUp fuel first second).map fun r ↦ (.letters k l :: r.1, r.2)
          else misaligned
        | _, _ => misaligned
      else match f.bytes, s.bytes with
        | [], _ => pairUp fuel first (s :: second)
        | _, [] => pairUp fuel (f :: first) second
        | a :: as, b :: bs =>
          let left := fun (cs : List Char) (spans : List ByteSpan) ↦
            if cs.isEmpty then spans else cs.map .char ++ spans
          (pairUp fuel (left as first) (left bs second)).map fun r ↦ (.byte a b :: r.1, r.2)

/-- The second list with its repetition made as long as there is room for. -/
def fillUp (room : Nat) (spans : List ByteSpan) : List ByteSpan :=
  let size := sizeOf spans
  spans.map fun
    | .repeated c none => .repeated c (some (room - size))
    | p => p

def lastByte (spans : List ByteSpan) : Except String Char :=
  match spans.getLast? with
  | none => .error "when not truncating set1, string2 must be non-empty"
  | some (.members _) => .error ("when translating with string1 longer than string2,\n" ++
      "the latter string must not end with a character class")
  | some (.repeated c _) => .ok c
  | some p => .ok (p.bytes.getLast?.getD ' ')

def Pairing.apply (table : ByteTable Char) : Pairing → ByteTable Char
  | .byte a b => table.setIfInBounds a.toNat b
  | .letters a b =>
    (a.members.zip b.members).foldl (fun t p ↦ t.setIfInBounds p.1.toNat p.2) table

def identityTable : ByteTable Char :=
  ((List.range 256).map Char.ofNat).toArray

/-- What the bytes become, and the bytes of the second list. -/
def translationTable (s : TrStyle) (first second : List ByteSpan) :
    Except String (ByteTable Char × List Char) := do
  let room := if s.complements then (complementOf first).length else sizeOf first
  let second := fillUp room second
  if second.any fun p ↦ match p with | .alike _ => true | _ => false then
    throw "[=c=] expressions may not appear in string2 when translating"
  if second.any fun p ↦ match p with | .members k => !k.isCase | _ => false then
    throw ("when translating, the only character classes that may appear in\n" ++
      "string2 are 'upper' and 'lower'")
  let fuel := 2 * (room + sizeOf first + sizeOf second) + 8
  if s.complements then
    let source := complementOf first
    let target := bytesOf second
    let padding ← if target.length < source.length && !s.truncates then
        (lastByte second).map fun c ↦ List.replicate (source.length - target.length) c
      else pure []
    let target := target ++ padding
    let hasClass := first.any fun p ↦ match p with | .members _ => true | _ => false
    let isConstant := target.length = source.length && target.all (some · = target.head?)
    if hasClass && !isConstant then
      throw ("when translating with complemented character classes,\n" ++
        "string2 must map all characters in the domain to one")
    let pairs := (source.zip target).map fun p ↦ Pairing.byte p.1 p.2
    return (pairs.foldl Pairing.apply identityTable, target)
  else
    let (pairs, left) ← pairUp fuel first second
    let leftBytes := bytesOf left
    let padding ← if !leftBytes.isEmpty && !s.truncates then
        (lastByte second).map fun c ↦ leftBytes.map fun a ↦ Pairing.byte a c
      else pure []
    return ((pairs ++ padding).foldl Pairing.apply identityTable, bytesOf second)

/-! ## The tool -/

/-- Handles standard input byte by byte; the setting says which byte was written last. -/
def mapInput (i : Invocation) (keeps : Char → Bool) (change : Char → Char)
    (squeezes : Char → Bool) : Job Unit := do
  let (_, failure) ← eachPiece 0 (fun (last : Option Char) bytes ↦ do
    let step := fun (acc : ByteArray × Option Char) (b : UInt8) ↦
      let c := Char.ofNat b.toNat
      if !keeps c then acc
      else
        let c := change c
        if acc.2 = some c && squeezes c then acc
        else (acc.1.push (UInt8.ofNat c.toNat), some c)
    let (out, last) := bytes.foldl step (ByteArray.empty, last)
    emit i out
    pure last) endurance none
  if let some e := failure then i.refuse ("read error: " ++ e.message)

def readList (i : Invocation) (word : String) : Job (List ByteSpan) := do
  let (marks, warnings) := readEscapes (word.length + 1) word.toList
  warnings.forM i.complain
  match readSpans (marks.length + 1) marks with
  | .ok spans => return spans
  | .error message => i.refuse message

/-- The numbers of operands that a style takes, the least and the greatest. -/
def TrStyle.operandCounts (s : TrStyle) : Nat × Nat :=
  (if s.deletes = s.squeezes then 2 else 1, if s.deletes && !s.squeezes then 1 else 2)

/-- Refuses a wrong number of operands. -/
def checkOperands (i : Invocation) (s : TrStyle) (operands : List String) : Job Unit := do
  let (least, most) := s.operandCounts
  if operands.length < least then
    match operands.getLast? with
    | none => i.refuseUsage "missing operand"
    | some last =>
      i.refuseUsage ("missing operand after " ++ quotedWord last ++
        "\nTwo strings must be given when " ++
          (if s.squeezes then "both deleting and squeezing repeats." else "translating."))
  if let some extra := operands[most]? then
    i.refuseUsage ("extra operand " ++ quotedWord extra ++
      (if operands.length = 2 then
        "\nOnly one string may be given when deleting without squeezing repeats." else ""))

/-- Replaces, deletes and squeezes the bytes of standard input. -/
def tr (i : Invocation) : Job Int := do
  let items := trGrammar.read i.args
  let s ← i.settle items 1 (fun (s : TrStyle) c _ ↦ pure (s.set c)) {}
  let operands := Grammar.operands items
  checkOperands i s operands
  let first ← readList i (operands.headD "")
  let second ← match operands with
    | [_, word] => do pure (some (← readList i word))
    | _ => pure none
  let endless := fun (p : ByteSpan) ↦ match p with | .repeated _ none => true | _ => false
  if first.any endless then i.refuse "the [c*] repeat construct may not appear in string1"
  if let some second := second then
    if 1 < second.countP endless then
      i.refuse "only one [c*] repeat construct may appear in string2"
    if s.deletes && second.any endless then
      i.refuse "the [c*] construct may appear in string2 only when translating"
  let table := memberTable (if s.complements then complementOf first else bytesOf first)
  let isFirst := fun (c : Char) ↦ table.getD c.toNat false
  match s.deletes, second with
  | true, second =>
    let squeezed := memberTable (bytesOf (second.getD []))
    mapInput i (fun c ↦ !isFirst c) id fun c ↦ squeezed.getD c.toNat false
  | false, none => mapInput i (fun _ ↦ true) id isFirst
  | false, some second =>
    match translationTable s first second with
    | .error message => i.refuse message
    | .ok (targets, bytes) =>
      let squeezed := if s.squeezes then memberTable bytes else #[]
      mapInput i (fun _ ↦ true) (fun c ↦ targets.getD c.toNat c) fun c ↦
        squeezed.getD c.toNat false
  return 0

end CommandShell.Tool

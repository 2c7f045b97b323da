import CommandShell.Script.Pattern

/-!
# Fields

What a word becomes is first written down as atoms: characters, some of which were quoted, and the
quotation marks. Some regions of it are split at separators. A separator that is a blank counts only
between other characters; one that is not makes a field end, even an empty one. A NUL separates
everywhere.
-/

namespace CommandShell.Script

open CommandShell.Host

/-- A part of what a word becomes. -/
inductive Atom
  | plain (c : Char)
  /-- A character that was quoted and means nothing in a pattern. -/
  | guarded (c : Char)
  /-- A quotation mark. -/
  | mark
  deriving DecidableEq, Repr, Inhabited

namespace Atom

def char? : Atom → Option Char
  | plain c => some c
  | guarded c => some c
  | mark => none

def text (atoms : List Atom) : String :=
  String.ofList (atoms.filterMap char?)

/-- The pattern that some atoms are; `escapes` tells whether a guarded character needs a
backslash. -/
def patternFrom : (escapes : Bool) → List Atom → List Char
  | _, [] => []
  | _, mark :: rest => patternFrom true rest
  | _, plain '\\' :: rest => '\\' :: patternFrom false rest
  | _, plain c :: rest => c :: patternFrom true rest
  | escapes, guarded c :: rest =>
    (if escapes then ['\\', c] else [c]) ++ patternFrom true rest

def pattern (atoms : List Atom) : List Char :=
  patternFrom true atoms

end Atom

/-- A part of what a word becomes that is split, from one place up to another one. -/
structure Region where
  start : Nat
  stop : Nat
  /-- Whether nothing but a NUL separates. -/
  nulOnly : Bool := false
  deriving DecidableEq, Repr, Inhabited

/-- Atoms that are being split. -/
structure Splitting where
  /-- Where the fields begin and end that were found, latest first. -/
  found : List (Nat × Nat) := []
  /-- Where the next field begins. -/
  start : Nat := 0
  /-- Whether a separator that is a blank was just passed. -/
  afterBlank : Bool := false
  /-- Where the last field ends if nothing but blanks follows. -/
  cut : Option Nat := none
  /-- How many more fields may begin, if that matters. -/
  left : Option Nat := none
  nulOnly : Bool := false
  deriving Repr, Inhabited

namespace Splitting

def kind (separators : String) (c : Char) : Bool × Bool :=
  let separates := c = '\x00' || separators.toList.contains c
  (separates, separates && "\x00 \t\n".toList.contains c)

/-- A character in the last field. -/
def inLast (k : Splitting) (separates blank : Bool) (place : Nat) : Splitting :=
  if blank then { k with cut := some (k.cut.getD place) }
  else
    { k with cut := if separates && k.afterBlank then k.cut else none, afterBlank := false }

def atSeparator (k : Splitting) (nulOnly blank : Bool) (place : Nat) : Splitting :=
  let afterBlank := if nulOnly then k.afterBlank else blank
  if place = k.start && afterBlank then { k with start := place + 1, afterBlank := false }
  else
    let left := k.left.map (· - 1)
    if left = some 0 then { k with left, afterBlank, cut := some place }
    else
      { k with found := (k.start, place) :: k.found, start := place + 1, left, afterBlank }

def step (separators : String) (nulOnly : Bool) (k : Splitting) (place : Nat) (c : Char) :
    Splitting :=
  let (separates, blank) := kind separators c
  if k.left = some 0 then k.inLast separates blank place
  else if k.afterBlank then
    let k := { k with start := if separates then place + 1 else place }
    if blank then k else { k with afterBlank := false }
  else if separates then k.atSeparator nulOnly blank place
  else { k with afterBlank := false }

def region (separators : String) (atoms : Array Atom) (k : Splitting) (r : Region) : Splitting :=
  let nulOnly := k.nulOnly || r.nulOnly
  let separators := if r.nulOnly then "" else separators
  let places := (List.range (r.stop - r.start)).map (r.start + ·)
  places.foldl (fun k place ↦
    match (atoms[place]?).bind Atom.char? with
    | some c => k.step separators nulOnly place c
    | none => k)
    { k with nulOnly := r.nulOnly, afterBlank := false }

end Splitting

/-- The fields of some atoms. At most so many are made if `most` says so; then the last one holds
all that is left. -/
def splitFields (separators : String) (atoms : Array Atom) (regions : List Region)
    (most : Option Nat := none) : List (List Atom) :=
  let k := regions.foldl (Splitting.region separators atoms) { left := most }
  let slice := fun (r : Nat × Nat) ↦ (atoms.extract r.1 r.2).toList
  let fields := k.found.reverse.map slice
  if k.nulOnly then fields ++ [slice (k.start, atoms.size)]
  else
    let last := slice (k.start, k.cut.getD atoms.size)
    if last.isEmpty then fields else fields ++ [last]

/-- The texts that a field stands for: the paths that it matches, or itself. -/
def globField (fs : FileSystem) (cwd : NodeId) (field : List Atom) : List String :=
  let found := if field.any fun a ↦ "*?[".toList.contains (a.char?.getD ' ')
    then Pattern.paths fs cwd (Atom.pattern field) else []
  if found.isEmpty then [Atom.text field] else found

end CommandShell.Script

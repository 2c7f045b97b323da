import CommandShell.Script.Arithmetic
import CommandShell.Script.Fields
import CommandShell.Script.Tasks

/-!
# Expansion

Putting things into words: the values of parameters and expressions, the output of commands, and the
homes of users. What stands in quotes is never split; what stood elsewhere is split where values
were put in. A part that stands in for a value is looked at only if it is needed.
-/

namespace CommandShell.Script

open CommandShell.Process

/-- The homes of the users that every machine has. -/
def homes : List (String × String) :=
  [("root", "/root"), ("daemon", "/usr/sbin"), ("bin", "/bin"), ("sys", "/dev"), ("sync", "/bin"),
    ("games", "/usr/games"), ("man", "/var/cache/man"), ("lp", "/var/spool/lpd"),
    ("mail", "/var/mail"), ("news", "/var/spool/news"), ("uucp", "/var/spool/uucp"),
    ("proxy", "/bin"), ("www-data", "/var/www"), ("backup", "/var/backups"), ("list", "/var/list"),
    ("irc", "/run/ircd"), ("_apt", "/nonexistent"), ("nobody", "/nonexistent")]

/-- How a word is expanded. -/
structure Way where
  /-- Whether it becomes fields. -/
  full : Bool := false
  /-- Whether it becomes a pattern. -/
  pattern : Bool := false
  /-- Whether a tilde at its start stands for a home. -/
  tilde : Bool := false
  /-- Whether it sets a variable, so that a tilde can also stand after the equals sign, and after
  colons. -/
  sets : Bool := false
  /-- Whether the equals sign was passed. -/
  afterEquals : Bool := false
  /-- Whether it stands in for a value. -/
  standsIn : Bool := false
  /-- Whether it stands in quotes. -/
  quoted : Bool := false
  deriving DecidableEq, Repr, Inhabited

/-- Whether quotes and quoted characters are told from others. -/
def Way.keepsQuotes (w : Way) : Bool :=
  w.full || w.pattern

/-- A word that is being expanded. -/
structure Expanding where
  atoms : Array Atom := #[]
  regions : Array Region := #[]
  deriving Inhabited

abbrev Expand := StateT Expanding Sh

/-- Where in a word the expansion is. -/
structure Place where
  /-- Whether quotes are open. -/
  inQuotes : Bool := false
  /-- Whether a tilde here stands for a home. -/
  tilde : Bool := false
  /-- Where the characters outside of quotes began that end here. -/
  run : Option Nat := none
  /-- How many pieces are done with already. -/
  skips : Nat := 0
  deriving Repr, Inhabited

namespace State

/-- The letters of the options in the order in which they are shown. -/
def shownOptions : List Char :=
  "pubaCEVvxsnmiIfe".toList

/-- The value of a parameter, if it has one. A NUL stands between parameters that become fields of
their own. -/
def parameter? (s : State) (w : Way) (name : String) : Option (List Char) :=
  let all := fun (ownFields : Bool) ↦
    let joint := if ownFields then "\x00" else String.ofList (s.separators.toList.take 1)
    some (String.intercalate joint s.parameters).toList
  match name with
  | "$" => some (toString s.process).toList
  | "?" => some (toString s.status).toList
  | "#" => some (toString s.parameters.length).toList
  | "!" => s.lastBackground.map fun id ↦ (toString id).toList
  | "-" => some (shownOptions.filter s.options.contains)
  | "@" => all w.full
  | "*" => all (w.full && !w.quoted)
  | name =>
    match digitsOnly? name with
    | some 0 => some s.self.toList
    | some (n + 1) => (s.parameters[n]?).map String.toList
    | none => (s.value? name).map String.toList

/-- The home that a name after a tilde means. -/
def home? (s : State) (name : String) : Option String :=
  if name = "" then s.value? "HOME" else homes.lookup name

end State

/-- The name after a tilde, and of how many pieces it is. -/
def tildeName? (sets : Bool) : Word → Option (List Char × Nat)
  | [] => some ([], 0)
  | .plain c :: rest =>
    if c = '/' || (sets && c = ':') then some ([], 0)
    else (tildeName? sets rest).map fun n ↦ (c :: n.1, n.2 + 1)
  | _ => none

/-- Whether a quotation mark before a word and the first two pieces of it are all parameters, each a
field of its own. -/
def isAllParameters : Word → Bool
  | .parameter "@" .value _ _ :: .mark :: _ => true
  | _ => false

namespace Expand

/-- How much of a word there is. -/
def size : Expand Nat :=
  return (← get).atoms.size

def add (a : Atom) : Expand Unit :=
  modify fun e ↦ { e with atoms := e.atoms.push a }

def addText (w : Way) (cs : List Char) : Expand Unit :=
  let guards := w.quoted && w.keepsQuotes
  modify fun e ↦
    { e with
      atoms := e.atoms ++ (cs.map fun c ↦
        if guards && "!*?[=~:/-]\\".toList.contains c then Atom.guarded c else .plain c) }

/-- Notes that the atoms from some place on are split. -/
def split (start : Nat) (nulOnly : Bool := false) : Expand Unit :=
  modify fun e ↦ { e with regions := e.regions.push { start, stop := e.atoms.size, nulOnly } }

/-- Notes that the value of a parameter is split. -/
def splitValue (w : Way) (name : String) (start : Nat) : Expand Unit := do
  if !w.quoted then split start
  else if name = "@" && !(← getThe State).parameters.isEmpty then split start true

/-- Notes that characters outside of quotes are split which end here. -/
def endRun (place : Place) : Expand Unit := do
  if let some start := place.run then split start

/-- What some part of expanding adds, which is taken away again. -/
def aside (body : Expand Unit) : Expand (List Atom) := do
  let before ← get
  set ({} : Expanding)
  body
  let after ← get
  set before
  return after.atoms.toList

/-- The parameter is not set, and that is an error. -/
def missing {α : Type} (name message : String) : Expand α :=
  liftM (Sh.fail (name ++ ": " ++ message) : Sh α)

/-- Takes what matches a pattern from the value that begins at some place. -/
def trim (fromStart longest : Bool) (start : Nat) (pattern : List Char) : Expand Unit :=
  modify fun e ↦
    let value := e.atoms.extract start e.atoms.size
    let text := (Atom.text value.toList).toList
    let rest :=
      if fromStart then
        value.extract ((Pattern.startLength? longest pattern text).getD 0) value.size
      else
        value.extract 0 (value.size - (Pattern.endLength? longest pattern text).getD 0)
    { e with atoms := e.atoms.extract 0 start ++ rest }

def parameterValue (w : Way) (name : String) : Expand Unit := do
  let s ← getThe State
  match s.parameter? w name with
  | some cs =>
    let start ← size
    addText w cs
    splitValue w name start
  | none => if s.options.contains 'u' then missing name "parameter not set"

mutual

def pieces (core : Core) : Way → Place → Word → Expand Unit
  | _, place, [] => endRun place
  | w, place, p :: rest => do
    if 0 < place.skips then pieces core w { place with skips := place.skips - 1 } rest
    else
      let quoted := w.quoted || place.inQuotes
      let here : Place := { inQuotes := place.inQuotes }
      match p with
      | .plain c =>
        let s ← getThe State
        let home := if place.tilde && c = '~' then
            (tildeName? w.sets rest).bind fun n ↦
              (s.home? (String.ofList n.1)).map fun home ↦ (home, n.2)
          else none
        match home with
        | some (home, skips) =>
          endRun place
          addText { w with quoted := true } home.toList
          pieces core w { here with skips } rest
        | none =>
          let start ← size
          let run := if w.standsIn && !quoted then some (place.run.getD start) else none
          add (.plain c)
          let equals := w.sets && c = '=' && !w.afterEquals
          pieces core { w with afterEquals := w.afterEquals || equals }
            { here with run, tilde := equals || (w.sets && c = ':') } rest
      | .guarded c =>
        endRun place
        add (if w.keepsQuotes then .guarded c else .plain c)
        pieces core w here rest
      | .mark =>
        endRun place
        if !place.inQuotes && isAllParameters rest then
          parameterValue { w with quoted := true } "@"
          pieces core w { here with skips := 2 } rest
        else
          if w.keepsQuotes then add .mark
          pieces core w { here with inQuotes := !place.inQuotes } rest
      | p =>
        endRun place
        piece core { w with quoted } p
        pieces core w here rest

/-- Expands a piece that something is put in for. -/
def piece (core : Core) (w : Way) : Piece → Expand Unit
  | .parameter name form orNull word => do
    let start ← size
    let s ← getThe State
    let onlyMeasures := form = .length || form = .instead
    let value := s.parameter? { w with full := w.full && !onlyMeasures } name
    let given := value.filter fun cs ↦ !(orNull && cs.isEmpty)
    let standIn : Way := { w with standsIn := true }
    match form with
    | .malformed => liftM (Sh.fail "Bad substitution" : Sh Unit)
    | .value => parameterValue w name
    | .otherwise =>
      match given with
      | some _ => parameterValue w name
      | none => pieces core standIn { tilde := true } word
    | .instead =>
      match given with
      | some _ => pieces core standIn { tilde := true } word
      | none => splitValue w name start
    | .demand =>
      match given with
      | some _ => parameterValue w name
      | none =>
        let text := Atom.text (← aside (pieces core {} { tilde := true } word))
        let reason := "parameter not set" ++ (if orNull then " or null" else "")
        missing name (if word.isEmpty then reason else text)
    | .assign =>
      if given.isNone then
        let text := Atom.text (← aside (pieces core {} { tilde := true } word))
        liftM (Sh.setNamed name text)
      parameterValue w name
    | .length =>
      if value.isNone && s.options.contains 'u' then missing name "parameter not set"
      addText w (toString (value.getD []).length).toList
      splitValue w name start
    | .trimStart longest =>
      if let some cs := value then
        addText w cs
        let pattern ← aside (pieces core { pattern := true } { tilde := true } word)
        trim true longest start (Atom.pattern pattern)
        splitValue w name start
      else if s.options.contains 'u' then missing name "parameter not set"
    | .trimEnd longest =>
      if let some cs := value then
        addText w cs
        let pattern ← aside (pieces core { pattern := true } { tilde := true } word)
        trim false longest start (Atom.pattern pattern)
        splitValue w name start
      else if s.options.contains 'u' then missing name "parameter not set"
  | .command body => do
    let start ← size
    if let some tree := body then
      let text ← liftM (Sh.outputOf core tree)
      let cs := text.toList.filter (· ≠ '\x00')
      addText w (cs.reverse.dropWhile (· = '\n')).reverse
    if !w.quoted then split start
  | .arithmetic body => do
    let start ← size
    let text := Atom.text (← aside (pieces core {} {} body))
    let n ← liftM (Sh.arithmetic text)
    addText w (toString n).toList
    if !w.quoted then split start
  | _ => pure ()

end

end Expand

namespace Sh

def expanded (core : Core) (w : Way) (word : Word) : Sh Expanding := do
  let (_, e) ← (Expand.pieces core w { tilde := w.tilde } word).run {}
  return e

/-- The text that a word becomes, where it may not become several. -/
def expandText (core : Core) (word : Word) : Sh String := do
  return Atom.text (← expanded core { tilde := true } word).atoms.toList

/-- The text that a word becomes that sets a variable. -/
def expandSetting (core : Core) (word : Word) : Sh String := do
  return Atom.text (← expanded core { sets := true } word).atoms.toList

/-- The text that a document becomes. -/
def expandDocument (core : Core) (word : Word) : Sh String := do
  return Atom.text (← expanded core { quoted := true } word).atoms.toList

def expandPattern (core : Core) (word : Word) : Sh (List Char) := do
  return Atom.pattern (← expanded core { tilde := true, pattern := true } word).atoms.toList

def expandFields (core : Core) (word : Word) : Sh (List String) := do
  let e ← expanded core { tilde := true, full := true } word
  let s ← get
  let fields := splitFields s.separators e.atoms e.regions.toList
  if s.options.contains 'f' then return fields.map Atom.text
  let fs ← look
  return fields.flatMap (globField fs s.cwd)

end Sh

end CommandShell.Script

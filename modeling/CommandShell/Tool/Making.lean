import CommandShell.Process.Launching
import CommandShell.Tool.Streams

/-!
# Small tools

`yes` repeats a line for ever, `echo` writes its arguments, `pwd` writes the working directory, and
`env` runs a program in another environment. `true` and `false` only have a status.
-/

namespace CommandShell.Tool

open CommandShell.Host CommandShell.Process CommandShell.Text

/-! ## `yes` -/

/-- Writes the same bytes again and again, until they cannot be written. -/
def repeatBytes (i : Invocation) (bytes : ByteArray) : (fuel : Nat) → Job Int
  | 0 => pure 0
  | fuel + 1 => do
    match ← Job.write 1 bytes with
    | .ok () => repeatBytes i bytes fuel
    | .error e =>
      i.complain ("standard output: " ++ e.message)
      return 1

/-- Repeats a line for ever. -/
def yes (i : Invocation) : Job Int := do
  let items := ({} : Grammar).read i.args
  i.settle items 1 (fun (u : Unit) _ _ ↦ pure u) ()
  let words := Grammar.operands items
  let line := Octets.bytes ((if words.isEmpty then "y" else String.intercalate " " words) ++ "\n")
  let copies := max 1 (8192 / line.size)
  repeatBytes i (joinBytes (List.replicate copies line)) endurance

/-! ## `echo` -/

/-- A text with its escapes replaced by what they stand for; what follows `\c` is dropped, and then
the flag is set. -/
def expandEscapes : (fuel : Nat) → List Char → List Char × Bool
  | 0, _ => ([], false)
  | _, [] => ([], false)
  | fuel + 1, '\\' :: c :: rest =>
    let further := fun (cs : List Char) (rest : List Char) ↦
      let (text, stops) := expandEscapes fuel rest
      (cs ++ text, stops)
    let isOctal := fun (c : Char) ↦ '0' ≤ c && c ≤ '7'
    let isHex := fun (c : Char) ↦ isDigit c || ('a' ≤ c.toLower && c.toLower ≤ 'f')
    let hex := fun (n : Nat) (c : Char) ↦
      16 * n + (if isDigit c then c.toNat - 48 else c.toLower.toNat - 87)
    let letters := [('a', '\x07'), ('b', '\x08'), ('e', '\x1b'), ('f', '\x0c'), ('n', '\n'),
      ('r', '\r'), ('t', '\t'), ('v', '\x0b'), ('\\', '\\')]
    if c = 'c' then ([], true)
    else match letters.lookup c with
      | some shown => further [shown] rest
      | none =>
        if c = 'x' then
          let digits := (rest.take 2).takeWhile isHex
          if digits.isEmpty then further ['\\', c] rest
          else further [Char.ofNat (digits.foldl hex 0)] (rest.drop digits.length)
        else if isOctal c then
          let rest := if c = '0' then rest else c :: rest
          let digits := (rest.take 3).takeWhile isOctal
          further [Char.ofNat (digits.foldl (fun n d ↦ 8 * n + (d.toNat - 48)) 0 % 256)]
            (rest.drop digits.length)
        else further ['\\', c] rest
  | fuel + 1, c :: rest =>
    let (text, stops) := expandEscapes fuel rest
    (c :: text, stops)

/-- What the options at the start of the arguments of `echo` say, whether a line feed is written
and whether escapes are replaced, and the other arguments. -/
def readEchoOptions (newline escapes : Bool) : List String → Bool × Bool × List String
  | [] => (newline, escapes, [])
  | arg :: rest =>
    match arg.toList with
    | '-' :: c :: cs =>
      if (c :: cs).all "neE".toList.contains then
        let escapes := (c :: cs).foldl (fun (e : Bool) c ↦ if c = 'n' then e else c == 'e') escapes
        readEchoOptions (newline && !(c :: cs).contains 'n') escapes rest
      else (newline, escapes, arg :: rest)
    | _ => (newline, escapes, arg :: rest)

/-- Writes its arguments with a space between them. -/
def echo (i : Invocation) : Job Int := do
  let (newline, escapes, words) := readEchoOptions true false i.args
  let text := String.intercalate " " words
  let (text, stops) := if escapes then
      let (cs, stops) := expandEscapes (text.length + 1) text.toList
      (String.ofList cs, stops)
    else (text, false)
  emitText i (if newline && !stops then text ++ "\n" else text)
  return 0

/-! ## `pwd` -/

/-- Writes the path of its working directory. -/
def pwd (i : Invocation) : Job Int := do
  let grammar : Grammar :=
    { short := [('L', .never), ('P', .never)]
      long := [("logical", .never, 'L'), ("physical", .never, 'P')] }
  let items := grammar.read i.args
  i.settle items 1 (fun (u : Unit) _ _ ↦ pure u) ()
  if !(Grammar.operands items).isEmpty then i.complain "ignoring non-option arguments"
  match (← Job.look).pathOf? i.cwd with
  | some path =>
    emitText i (Octets.ofText path ++ "\n")
    return 0
  | none => i.refuse "couldn't find directory entry in '..' with matching i-node"

/-! ## `env` -/

/-- What `env` is to do to the environment. -/
structure EnvPlan where
  empties : Bool := false
  removes : List String := []
  stop : String := "\n"
  directory : Option String := none
  deriving DecidableEq, Repr, Inhabited

/-- The options of `env`. -/
def envGrammar : Grammar where
  short := [('i', .never), ('u', .always), ('0', .never), ('C', .always), ('v', .never),
    ('S', .always)]
  long := [("ignore-environment", .never, 'i'), ("null", .never, '0'), ("unset", .always, 'u'),
    ("chdir", .always, 'C'), ("debug", .never, 'v'), ("split-string", .always, 'S')]
  mixed := false

/-- The status of an `env` that fails itself. -/
def envFailure : Int := 125

def applySettings (e : Environment) : List String → Environment × List String
  | [] => (e, [])
  | word :: rest =>
    match word.toList.span (· ≠ '=') with
    | (name, _ :: value) =>
      applySettings (e.set (Octets.text (String.ofList name)) (Octets.text (String.ofList value)))
        rest
    | _ => (e, word :: rest)

/-- Runs a program in another environment, or writes the environment. -/
def env (launch : Launcher) (i : Invocation) : Job Int := do
  let items := envGrammar.read i.args
  let p ← i.settle items envFailure (fun (p : EnvPlan) c value ↦ pure (match c with
    | 'i' => { p with empties := true }
    | 'u' => { p with removes := p.removes ++ value.toList }
    | '0' => { p with stop := "\x00" }
    | 'C' => { p with directory := value }
    | _ => p)) {}
  let operands := Grammar.operands items
  let (dash, operands) := match operands with
    | "-" :: rest => (true, rest)
    | operands => (false, operands)
  let base : Environment := if p.empties || dash then {} else i.environment
  let base := p.removes.foldl (fun (e : Environment) name ↦ e.unset (Octets.text name)) base
  let (environment, words) := applySettings base operands
  let fs ← Job.look
  let cwd ← match p.directory with
    | none => pure i.cwd
    | some path =>
      match fs.lookUp i.cwd (Octets.text path) with
      | .ok (id, n) =>
        if n.isFolder then pure id
        else i.refuse ("cannot change directory to " ++ quotedName path ++ ": " ++
          Errno.notDirectory.message) envFailure
      | .error e =>
        i.refuse ("cannot change directory to " ++ quotedName path ++ ": " ++ e.message) envFailure
  match words with
  | [] =>
    emit i (joinBytes (environment.bindings.map fun e ↦
      (e.1 ++ "=" ++ e.2 ++ p.stop).toUTF8)) envFailure
    return 0
  | name :: _ =>
    match launch.search fs { argv := words, environment, cwd } (Octets.text name) with
    | .ok b => Job.become b
    | .error e =>
      let isLack := e = .noEntry
      i.complain (quotedWord name ++ ": " ++ e.message)
      if isLack && name.toList.contains ' ' then
        i.complain "use -[v]S to pass options in shebang lines"
      return if isLack then 127 else 126

end CommandShell.Tool

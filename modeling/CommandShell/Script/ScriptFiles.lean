import CommandShell.Script.Running

/-!
# Scripts in files

A script in a file is read block by block, and only as far as the next command reaches. What its
commands do to the file can therefore change how the rest is read. A NUL in it is passed over.
-/

namespace CommandShell.Script

open CommandShell.Process CommandShell.Text

/-- A text with more at its end. -/
def Source.extend (source : Source) (more : List Char) : Source :=
  { source with
    layers := match source.layers.reverse with
      | last :: above => (above.reverse ++ [{ last with text := last.text ++ more }])
      | [] => [{ text := more }] }

/-- How much is left of a text to be read. -/
def Source.left (source : Source) : Nat :=
  source.layers.foldl (fun size l ↦ size + l.text.length) 0

namespace Sh

/-- The size of the blocks in which scripts are read. -/
def blockSize : Nat := 8192

/-- Reads the next command from a file, of which so many blocks are read at most. With the option
for that, what is read is shown. -/
def readNextFrom (fd : Descriptor) : (fuel : Nat) → Source → Sh (Parse.Found × Source)
  | 0, source => return (.nothing, source)
  | fuel + 1, source => do
    match ← readNext source with
    | some (found, rest) =>
      if ← hasOption 'v' then
        let text := ((source.layers.getLast?).map (·.text)).getD []
        printError (String.ofList (text.take (source.left - rest.left)))
      return (found, rest)
    | none =>
      match ← call (.read fd blockSize) with
      | .ok bytes =>
        if bytes.isEmpty then readNextFrom fd fuel { source with complete := true }
        else
          let cs := (Octets.ofBytes bytes).toList.filter (· ≠ '\x00')
          readNextFrom fd fuel (source.extend cs)
      | .error _ => readNextFrom fd fuel { source with complete := true }

/-- Runs the commands of a file up to its end; the answer is the status of the last one. -/
def runFile (core : Core) (fd : Descriptor) : (fuel : Nat) → Source → (status : Int) → Sh Int
  | 0, _, status => return status
  | fuel + 1, source, status => do
    match ← readNextFrom fd endurance source with
    | (.nothing, _) => return status
    | (found, source) =>
      let status ← runFound core {} status found
      match (← get).skip with
      | .nothing => runFile core fd fuel source status
      | .toReturn | .toPlainReturn =>
        modify fun s ↦ { s with skip := .nothing }
        return status
      | _ => return status

def runScriptFile (core : Core) (fd : Descriptor) : Sh Int := do
  let before := (← get).readLine
  let source : Source := { layers := [{ text := [] }], complete := false }
  andFinally (runFile core fd endurance source 0)
    (modify fun s ↦ { s with readLine := before })

end Sh

end CommandShell.Script

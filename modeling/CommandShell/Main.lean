import CommandShell.Installation.Files
import CommandShell.Installation.Library

/-!
# The program

Runs the shell on a fresh machine, with the arguments and the standard input of the process.
-/

namespace CommandShell

open CommandShell.Host

def freshEnvironment : Environment :=
  ⟨[("PATH", "/usr/bin:/bin"), ("HOME", "/root"), ("LC_ALL", "C")]⟩

def freshMachine (input : ByteArray) : Machine :=
  Machine.withInput { files := Installation.freshFiles, environment := freshEnvironment } input

end CommandShell

open CommandShell in
/-- Calls the shell, and shows what it wrote and the status it ended with. -/
def main (args : List String) : IO UInt32 := do
  let input ← (← IO.getStdin).readToEnd
  let (outcome, machine) := CommandLine.run Installation.engine Installation.library args
    (freshMachine input.toUTF8)
  let out ← IO.getStdout
  out.write machine.output
  out.flush
  let errors ← IO.getStderr
  errors.write machine.errors
  match outcome with
  | .ok status => pure (UInt32.ofNat (status % 256).toNat)
  | .error failure =>
    errors.putStrLn failure.message
    pure 2

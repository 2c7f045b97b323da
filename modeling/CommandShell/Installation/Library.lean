import CommandShell.CommandLine
import CommandShell.Message.Layout
import CommandShell.Settings.Reading

/-!
# The libraries of a fresh machine

Settings that are read from the environment and from `.env`, and messages that are laid out on a
screen.
-/

namespace CommandShell.Installation

def renderOn (screen : Message.Screen) (message : String) : Except Fault String :=
  (Message.render screen message).mapError Fault.layout

/-- The libraries of a fresh machine. -/
def library : CommandLine.Library where
  settings := Settings.read
  renderer := fun e ↦ (Message.Screen.ofEnvironment e).map renderOn

end CommandShell.Installation

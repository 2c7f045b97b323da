import CommandShell.Script.State

/-!
# Descriptors that are led elsewhere

Before a redirection changes where a descriptor leads, the descriptor is copied to a number that
scripts cannot name. At the end of the redirection it is led back.
-/

namespace CommandShell.Script

open CommandShell.Host CommandShell.Process

/-- The least number that copies of descriptors get. -/
def firstCopy : Descriptor := 10

namespace Sh

/-- Makes a descriptor lead where another one leads. -/
def duplicate (source target : Descriptor) : Sh (Except Errno Unit) :=
  call (.duplicate source target)

/-- Closes a descriptor, which may lead nowhere. -/
def close (fd : Descriptor) : Sh Unit := do
  let _ ← call (.close fd)

/-- Copies a descriptor out of the way and closes it; there is no copy of one that leads nowhere. -/
def setAside (fd : Descriptor) : Sh (Option Descriptor) := do
  match ← call (.duplicateAbove fd firstCopy) with
  | .ok copy =>
    close fd
    return some copy
  | .error _ => return none

/-- Begins to keep descriptors. -/
def pushDescriptors : Sh Unit :=
  modify fun s ↦ { s with redirected := [] :: s.redirected }

/-- Keeps a descriptor that is about to change, unless it was kept before. One that stays as it is
needs no copy. -/
def keep (fd : Descriptor) (changes : Bool) : Sh Unit := do
  match (← get).redirected with
  | [] => pure ()
  | frame :: rest =>
    if (frame.lookup fd).isNone then
      let copy ← if changes then setAside fd else pure none
      modify fun s ↦ { s with redirected := ((fd, copy) :: frame) :: rest }

def leadBack (drop : Bool) (kept : Descriptor × Option Descriptor) : Sh Unit := do
  match kept with
  | (fd, some copy) =>
    if !drop then
      let _ ← duplicate copy fd
    close copy
  | (fd, none) => if !drop then close fd

/-- Leads the descriptors back that were kept last, or only gives up their copies. -/
def popDescriptors (drop : Bool := false) : Sh Unit := do
  match (← get).redirected with
  | [] => pure ()
  | frame :: rest =>
    modify fun s ↦ { s with redirected := rest }
    (frame.mergeSort fun a b ↦ a.1 ≤ b.1).forM (leadBack drop)

/-- Leads descriptors back until so many levels of them are left. -/
def unwindDescriptors (levels : Nat) : Sh Unit := do
  let surplus := (← get).redirected.length - levels
  (List.range surplus).forM fun _ ↦ popDescriptors

end Sh

end CommandShell.Script

import CommandShell.Fault
import CommandShell.History.Format
import CommandShell.Host.Machine

/-!
# The history log

The log is an ordered list of command lines. `persisted` says how many of the leading entries are
in a history file already, so that appending to a file writes only the others. Nothing is ever
taken out of a log.
-/

namespace CommandShell

open CommandShell.Host

/-- The command lines of a session, oldest first. -/
structure HistoryLog where
  entries : List String := []
  /-- How many of the leading entries are in a history file. -/
  persisted : Nat := 0
  deriving DecidableEq, Repr, Inhabited

namespace HistoryLog

def append (log : HistoryLog) (entry : String) : HistoryLog :=
  { log with entries := log.entries ++ [entry] }

@[simp] theorem entries_append (log : HistoryLog) (entry : String) :
    (log.append entry).entries = log.entries ++ [entry] := rfl

/-- The entries from a number of entries on, each with its place in the whole log, counted from
one. -/
def numberedFrom (log : HistoryLog) (start : Nat) : List (Nat × String) :=
  (log.entries.drop start).mapIdx fun i entry ↦ (start + i + 1, entry)

/-- The last entries with their places in the whole log; all of them if no count is given, none if
the count is not positive. -/
def tail (log : HistoryLog) (count : Option Int) : List (Nat × String) :=
  match count with
  | none => log.numberedFrom 0
  | some n => log.numberedFrom (log.entries.length - n.toNat)

/-- The entries that are in no history file yet. -/
def pending (log : HistoryLog) : List String :=
  log.entries.drop log.persisted

/-- Adds the entries of a history file to the log, and says how many they are. -/
def load (log : HistoryLog) (m : Machine) (path : String) (markPersisted : Bool := false) :
    Except Fault (HistoryLog × Nat) :=
  if Path.hasNul path then .error .embeddedNul
  else match m.files.read m.cwd (Path.normalise path) with
    | .error _ => .error (.history (.cannotRead path))
    | .ok bytes =>
      match History.decodeFile bytes with
      | none => .error (.history (.cannotRead path))
      | some loaded =>
        let entries := log.entries ++ loaded
        .ok ({ entries, persisted := if markPersisted then entries.length else log.persisted },
          loaded.length)

/-- Writes the whole log over a history file: the log then, and the machine as it is left, also by a
write that fails. -/
def save (log : HistoryLog) (m : Machine) (path : String) : Except Fault HistoryLog × Machine :=
  if Path.hasNul path then (.error .embeddedNul, m)
  else match m.writeFile (Path.normalise path) false (History.encodeFile log.entries) with
    | (.error _, m) => (.error (.history (.cannotWrite path)), m)
    | (.ok (), m) => (.ok { log with persisted := log.entries.length }, m)

/-- Writes the entries that are in no history file yet to the end of one. -/
def appendUnsaved (log : HistoryLog) (m : Machine) (path : String) :
    Except Fault HistoryLog × Machine :=
  if log.pending.isEmpty then (.ok log, m)
  else if Path.hasNul path then (.error .embeddedNul, m)
  else match m.writeFile (Path.normalise path) true (History.encodeFile log.pending) with
    | (.error _, m) => (.error (.history (.cannotAppend path)), m)
    | (.ok (), m) => (.ok { log with persisted := log.entries.length }, m)

end HistoryLog

end CommandShell

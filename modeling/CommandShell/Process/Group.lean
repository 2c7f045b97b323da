import CommandShell.Pipeline.Program
import CommandShell.Process.Behaviour

/-!
# Process groups

A program that a pipeline starts may start others. A group is the program with all processes that
come from it: what each of them does next and has open, and the pipes between them. Descriptors lead
to open files, to the ends of pipes inside the group, or out of it, to what feeds the group and to
what it writes to.

Here is the state of a group and how it changes when processes end and get signals.
-/

namespace CommandShell.Process

open CommandShell.Host CommandShell.Pipeline

/-- Where a descriptor leads. -/
inductive Endpoint
  | file (id : FileId)
  | reader (pipe : Nat)
  | writer (pipe : Nat)
  /-- What feeds the group, if that is a pipe. -/
  | inlet
  /-- What the group writes to, if that is no file. -/
  | outlet (channel : Channel)
  deriving DecidableEq, Repr, Inhabited

/-- A process of a group. -/
structure Member where
  id : ProcessId
  parent : ProcessId
  /-- What it does next. -/
  state : Behaviour
  descriptors : List (Descriptor × Endpoint) := []
  /-- The signals for which it has said something. -/
  dispositions : List (Signal × Disposition) := []
  /-- The caught signals that it has not asked for, oldest first. -/
  pending : List Signal := []
  /-- How it ended, once it has; then it only waits for its parent to ask. -/
  status : Option Int := none
  /-- How many turns it has before any other process has one. -/
  lead : Nat := 0
  deriving Inhabited

namespace Member

/-- Whether the process has not ended. -/
def isAlive (m : Member) : Bool :=
  m.status.isNone

def endpoint? (m : Member) (fd : Descriptor) : Option Endpoint :=
  m.descriptors.lookup fd

/-- The process with a descriptor that leads somewhere else. -/
def point (m : Member) (fd : Descriptor) (e : Endpoint) : Member :=
  { m with descriptors := (fd, e) :: m.descriptors.filter fun d ↦ d.1 != fd }

/-- The process without a descriptor. -/
def drop (m : Member) (fd : Descriptor) : Member :=
  { m with descriptors := m.descriptors.filter fun d ↦ d.1 != fd }

/-- The first number from `least` on that leads nowhere. -/
def free (m : Member) (least : Descriptor) : Descriptor :=
  go m.descriptors.length least
where
  /-- The first free number; only so many can be taken. -/
  go : (taken : Nat) → Descriptor → Descriptor
    | 0, fd => fd
    | taken + 1, fd => if (m.endpoint? fd).isSome then go taken (fd + 1) else fd

/-- What a process wants to be done with a signal. -/
def disposition (m : Member) (s : Signal) : Disposition :=
  if s = Signal.kill || s = Signal.stop then .standard
  else (m.dispositions.lookup s).getD .standard

/-- The process with something else to be done with a signal. -/
def dispose (m : Member) (s : Signal) (d : Disposition) : Member :=
  { m with
    dispositions := (s, d) :: m.dispositions.filter fun p ↦ p.1 != s
    pending := if d = .caught then m.pending else m.pending.filter (· != s) }

/-- The process after a caught signal came. -/
def receive (m : Member) (s : Signal) : Member :=
  if m.pending.contains s then m else { m with pending := m.pending ++ [s] }

/-- The process after it was refused what it wanted to write. Where nobody reads, that is a signal
first. -/
def afterRefusal (m : Member) (next : Except Errno Unit → Behaviour) (e : Errno) : Member :=
  let m := { m with state := next (.error e) }
  if e != .brokenPipe then m
  else match m.disposition Signal.pipe with
    | .standard => { m with state := .exit (-(Signal.pipe : Int)) }
    | .ignored => m
    | .caught => m.receive Signal.pipe

end Member

/-- The processes that come from one program. -/
structure Group where
  /-- Who has the next turn comes first. -/
  members : List Member
  /-- What is to be read from each pipe. -/
  pipes : Array ByteArray := #[]
  /-- The open files that belong to somebody else as well. -/
  lent : List FileId := []
  /-- Whether a pipe feeds the group that it has not given up. -/
  fed : Bool := false
  first : ProcessId := 4242
  next : ProcessId := 4243
  /-- How the first process ended, once it has. -/
  outcome : Option Int := none
  /-- How many turns the others get after that. -/
  grace : Nat := 1000000
  deriving Inhabited

namespace Group

def member? (g : Group) (id : ProcessId) : Option Member :=
  g.members.find? fun m ↦ m.id == id

/-- Whether a process that has not ended has something open. -/
def holds (g : Group) (e : Endpoint) : Bool :=
  g.members.any fun m ↦ m.isAlive && m.descriptors.any fun d ↦ d.2 == e

/-- The group with a process in another state, at its place. -/
def update (g : Group) (m : Member) : Group :=
  { g with members := g.members.map fun other ↦ if other.id == m.id then m else other }

/-- The group after a process has had its turn. -/
def yieldTo (g : Group) (m : Member) : Group :=
  let others := g.members.filter fun other ↦ other.id != m.id
  { g with
    members := if m.lead = 0 then others ++ [m] else { m with lead := m.lead - 1 } :: others }

/-- The group with a process that goes on in its own way after its turn. -/
def resume (g : Group) (m : Member) (state : Behaviour) : Group :=
  g.yieldTo { m with state }

/-- The files after something was given up: a file that nobody has open any more is closed. -/
def release (g : Group) (fs : FileSystem) : Endpoint → FileSystem
  | .file id => if g.lent.contains id || g.holds (.file id) then fs else fs.closeFile id
  | _ => fs

/-- The files after several things were given up. -/
def releaseAll (g : Group) (fs : FileSystem) (given : List Endpoint) : FileSystem :=
  given.foldl g.release fs

/-- How many turns a process has before any other one, when it has just been started. To start one
takes its parent about as long. -/
def headStart : Nat := 64

/-! ## Ends and signals -/

/-- The number of the process that takes on those whose parent has ended. -/
def foster : ProcessId := 1

/-- The processes without one that ended. Its children change their parent; those of them that have
ended as well are forgotten. -/
def orphan (id : ProcessId) (members : List Member) : List Member :=
  (members.filter fun m ↦ m.id != id && !(m.parent == id && !m.isAlive)).map fun m ↦
    if m.parent == id then { m with parent := foster } else m

/-- The group and the files after a process ended. Its parent can ask how, if it is there. -/
def finish (g : Group) (fs : FileSystem) (m : Member) (status : Int) : FileSystem × Group :=
  let others := orphan m.id g.members
  let parent := others.find? fun other ↦ other.id == m.parent && other.isAlive
  let told := match parent with
    | some p =>
      let p := if p.disposition Signal.childEnded = .caught then p.receive Signal.childEnded else p
      let ended := { m with status := some status, descriptors := [], state := .exit status }
      others.map (fun other ↦ if other.id == p.id then p else other) ++ [ended]
    | none => others
  let outcome := if m.id = g.first then some status else g.outcome
  let g := { g with members := told, outcome }
  (g.releaseAll fs (m.descriptors.map (·.2)), g)

/-- The group and the files after a process got a signal. -/
def deliver (g : Group) (fs : FileSystem) (m : Member) (s : Signal) : FileSystem × Group :=
  match m.disposition s with
  | .ignored => (fs, g)
  | .caught => (fs, g.update (m.receive s))
  | .standard => if s.isHarmless then (fs, g) else g.finish fs m (-(s : Int))

/-! ## Turns -/

def endedChild? (g : Group) (m : Member) (child : Option ProcessId) : Option Member :=
  g.members.find? fun c ↦ c.parent == m.id && !c.isAlive && child.all (· == c.id)

def hasChild (g : Group) (m : Member) (child : Option ProcessId) : Bool :=
  g.members.any fun c ↦ c.parent == m.id && child.all (· == c.id)

def waitingIn (g : Group) (pipe : Nat) : ByteArray :=
  (g.pipes[pipe]?).getD ByteArray.empty

/-- Whether a process can do nothing before another one has done something. -/
def isBlocked (g : Group) (m : Member) : Bool :=
  match m.state with
  | .call (.read fd _) _ =>
    match m.endpoint? fd with
    | some (.reader pipe) => (g.waitingIn pipe).isEmpty && g.holds (.writer pipe)
    | _ => false
  | .call (.wait child) _ =>
    m.pending.isEmpty && (g.endedChild? m child).isNone && g.hasChild m child
  | _ => false

/-- The process that goes on next. -/
def nextMember? (g : Group) : Option Member :=
  g.members.find? fun m ↦ m.isAlive && !g.isBlocked m

end Group

end CommandShell.Process

import CommandShell.Process.Group

/-!
# Turns of a process

What a process does when it has its turn: it ends, starts a child, or makes a call and gets the
answer. Only what leads out of the group is left to whoever runs the group.
-/

namespace CommandShell.Process.Group

open CommandShell.Host CommandShell.Pipeline

/-- Opens anew what a process has open already. -/
def reopen (fs : FileSystem) (mode : OpenMode) : Endpoint → Except Errno (FileSystem × Endpoint)
  | .file id =>
    match fs.open? id with
    | some f => (fs.openNode f.node mode).map fun r ↦ (r.1, .file r.2)
    | none => .error .noEntry
  | .reader pipe => .ok (fs, if mode.writes then .writer pipe else .reader pipe)
  | .writer pipe => .ok (fs, if mode.writes then .writer pipe else .reader pipe)
  | .inlet => if mode.writes then .error .access else .ok (fs, .inlet)
  | .outlet channel => if mode.writes then .ok (fs, .outlet channel) else .error .access

/-- Opens what a path names for a process. Some paths name what the process itself has open. -/
def openPath (fs : FileSystem) (m : Member) (cwd : NodeId) (path : String) (mode : OpenMode) :
    Except Errno (FileSystem × Endpoint) :=
  match fs.descriptorNamed? cwd path with
  | some number =>
    match m.endpoint? number with
    | some e => reopen fs mode e
    | none => .error .noEntry
  | none => (fs.openFile cwd path mode).map fun r ↦ (r.1, .file r.2)

/-- What a process finds out about an endpoint. -/
def inspectEndpoint (fs : FileSystem) : Endpoint → Opened
  | .file id =>
    match fs.open? id with
    | some f => .file f.node f.offset f.mode
    | none => .pipe
  | _ => .pipe

/-- A process reads from something inside the group or from a file. -/
def read (g : Group) (fs : FileSystem) (m : Member) (fd most : Nat)
    (next : Except Errno ByteArray → Behaviour) : FileSystem × Group :=
  match m.endpoint? fd with
  | some (.file id) =>
    match fs.readOpen id most with
    | .ok (bytes, fs) => (fs, g.resume m (next (.ok bytes)))
    | .error e => (fs, g.resume m (next (.error e)))
  | some (.reader pipe) =>
    let data := g.waitingIn pipe
    let pipes := g.pipes.setIfInBounds pipe (data.extract most data.size)
    (fs, { g with pipes }.resume m (next (.ok (data.extract 0 most))))
  | _ => (fs, g.resume m (next (.error .badDescriptor)))

/-- A process writes to something inside the group or to a file. -/
def write (g : Group) (fs : FileSystem) (m : Member) (fd : Nat) (bytes : ByteArray)
    (next : Except Errno Unit → Behaviour) : FileSystem × Group :=
  match m.endpoint? fd with
  | some (.file id) =>
    match fs.writeOpen id bytes with
    | (.ok (), fs) => (fs, g.resume m (next (.ok ())))
    | (.error e, fs) => (fs, g.yieldTo (m.afterRefusal next e))
  | some (.writer pipe) =>
    if g.holds (.reader pipe) then
      let pipes := g.pipes.modify pipe (· ++ bytes)
      (fs, { g with pipes }.resume m (next (.ok ())))
    else (fs, g.yieldTo (m.afterRefusal next .brokenPipe))
  | _ => (fs, g.resume m (next (.error .badDescriptor)))

/-- A process goes on with a descriptor that leads somewhere else than before. -/
def repoint (g : Group) (fs : FileSystem) (m : Member) (fd : Nat) (e : Endpoint)
    (state : Behaviour) : FileSystem × Group :=
  let before := m.endpoint? fd
  let g := g.resume (m.point fd e) state
  (g.releaseAll fs before.toList, g)

/-- A process closes a descriptor. -/
def close (g : Group) (fs : FileSystem) (m : Member) (fd : Nat)
    (next : Except Errno Unit → Behaviour) : FileSystem × Group :=
  match m.endpoint? fd with
  | some e =>
    let g := g.resume (m.drop fd) (next (.ok ()))
    (g.release fs e, g)
  | none => (fs, g.resume m (next (.error .badDescriptor)))

def wait (g : Group) (m : Member) (child : Option ProcessId)
    (next : Except Errno (ProcessId × Int) → Behaviour) : Group :=
  match g.endedChild? m child with
  | some c =>
    let g := { g with members := g.members.filter fun other ↦ other.id != c.id }
    g.resume m (next (.ok (c.id, c.status.getD 0)))
  | none =>
    if g.hasChild m child then g.resume m (next (.error .interrupted))
    else g.resume m (next (.error .noChild))

/-- A process sends a signal, perhaps to itself. The number of a signal that only asks whether the
process is there is 0. -/
def send (g : Group) (fs : FileSystem) (m : Member) (target : ProcessId) (s : Signal)
    (next : Except Errno Unit → Behaviour) : FileSystem × Group :=
  match g.member? target with
  | none => (fs, g.resume m (next (.error .noSuchProcess)))
  | some other =>
    let g := g.resume m (next (.ok ()))
    if s = 0 || !other.isAlive then (fs, g)
    else match g.member? target with
      | some other => g.deliver fs other s
      | none => (fs, g)

/-- A process makes a call. -/
def answer (g : Group) (fs : FileSystem) (m : Member) :
    (c : SystemCall) → (c.Answer → Behaviour) → FileSystem × Group
  | .read fd most, next => g.read fs m fd most next
  | .write fd bytes, next => g.write fs m fd bytes next
  | .openFile cwd path mode, next =>
    match openPath fs m cwd path mode with
    | .ok (fs, e) =>
      let fd := m.free 0
      (fs, g.resume (m.point fd e) (next (.ok fd)))
    | .error e => (fs, g.resume m (next (.error e)))
  | .close fd, next => g.close fs m fd next
  | .duplicate fd target, next =>
    match m.endpoint? fd with
    | some e => g.repoint fs m target e (next (.ok ()))
    | none => (fs, g.resume m (next (.error .badDescriptor)))
  | .duplicateAbove fd least, next =>
    match m.endpoint? fd with
    | some e =>
      let target := m.free least
      (fs, g.resume (m.point target e) (next (.ok target)))
    | none => (fs, g.resume m (next (.error .badDescriptor)))
  | .makePipe, next =>
    let pipe := g.pipes.size
    let input := m.free 0
    let m := m.point input (.reader pipe)
    let output := m.free 0
    let g := { g with pipes := g.pipes.push ByteArray.empty }
    (fs, g.resume (m.point output (.writer pipe)) (next (input, output)))
  | .seek fd offset, next =>
    match m.endpoint? fd with
    | some (.file id) => (fs.seek id offset, g.resume m (next (.ok ())))
    | some _ => (fs, g.resume m (next (.error .illegalSeek)))
    | none => (fs, g.resume m (next (.error .badDescriptor)))
  | .inspect fd, next =>
    match m.endpoint? fd with
    | some e => (fs, g.resume m (next (.ok (inspectEndpoint fs e))))
    | none => (fs, g.resume m (next (.error .badDescriptor)))
  | .change act, next => (act fs, g.resume m (next fs))
  | .wait child, next => (fs, g.wait m child next)
  | .send target s, next => g.send fs m target s next
  | .handle s d, next => (fs, g.resume (m.dispose s d) (next (m.disposition s)))
  | .takeSignals, next => (fs, g.resume { m with pending := [] } (next m.pending))
  | .identify, next => (fs, g.resume m (next (m.id, m.parent)))
  | .takeOver, next =>
    let kept := m.descriptors.filter fun d ↦ d.1 < 10
    let given := m.descriptors.filter fun d ↦ 10 ≤ d.1
    let dispositions := m.dispositions.filter fun p ↦ p.2 != .caught
    let g := g.resume { m with descriptors := kept, dispositions, pending := [] } (next ())
    (g.releaseAll fs (given.map (·.2)), g)
  | .pause, next => (fs, g.resume m (next ()))

/-- A process has its turn. -/
def perform (g : Group) (m : Member) (fs : FileSystem) : FileSystem × Group :=
  match m.state with
  | .exit status => g.finish fs m status
  | .fork child next =>
    let child : Member :=
      { id := g.next, parent := m.id, state := child, descriptors := m.descriptors
        dispositions := m.dispositions, lead := headStart }
    let g := { g with next := g.next + 1 }.resume m (next child.id)
    (fs, { g with members := child :: g.members })
  | .call c next => g.answer fs m c next

/-- All processes of the group end where they are. -/
def disband (g : Group) (fs : FileSystem) : FileSystem × Group :=
  let given := g.members.flatMap fun m ↦ m.descriptors.map (·.2)
  let g := { g with members := [] }
  (g.releaseAll fs given, g)

/-- What a group does next. It ends with the first process and when nothing goes on any more. What
feeds it is given up with the last descriptor that leads there. -/
def act (g : Group) : Action Group :=
  match g.outcome with
  | some status =>
    if g.members.isEmpty then .exit status
    else if g.grace = 0 then .files g.disband
    else step { g with grace := g.grace - 1 }
  | none => step g
where
  /-- The turn of the process that goes on next. -/
  step (g : Group) : Action Group :=
    if g.fed && !g.holds .inlet then .closeInput { g with fed := false }
    else match g.nextMember? with
    | none => if g.outcome.isSome then .files g.disband else .files fun fs ↦ (fs, g)
    | some m =>
      match m.state with
      | .call (.read fd most) next =>
        match m.endpoint? fd with
        | some .inlet =>
          .read most (fun bytes ↦ g.resume m (next (.ok bytes))) (g.yieldTo m)
        | _ => .files (g.perform m)
      | .call (.write fd bytes) next =>
        match m.endpoint? fd with
        | some (.outlet channel) =>
          .write channel bytes (g.resume m (next (.ok ())))
            fun e ↦ g.yieldTo (m.afterRefusal next e)
        | _ => .files (g.perform m)
      | _ => .files (g.perform m)

/-- The descriptors that a program is started with. An input that is a file is shared with the
shell. -/
def descriptorsOf (input : FileId) (s : Streams) : List (Descriptor × Endpoint) :=
  let sink := fun (channel : Channel) ↦ match s.sink channel with
    | .outlet (.file id) => Endpoint.file id
    | _ => .outlet channel
  [(0, match s.input with | .shellInput => .file input | .pipe _ => .inlet),
    (1, sink .output), (2, sink .errors)]

/-- The group of a program that was just started. -/
def begun (input : FileId) (s : Streams) (program : Behaviour) : Group :=
  let descriptors := descriptorsOf input s
  let lent := descriptors.filterMap fun d ↦ match d.2 with
    | .file id => some id
    | _ => none
  { members := [{ id := 4242, parent := 4241, state := program, descriptors }], lent
    fed := s.input != .shellInput }

end CommandShell.Process.Group

import RevisionGraph.Simulation.System.Machine

/-!
# Serving requests

`serve` answers a request of a process, or says that the process must wait: it will be asked again
when something has happened.  A request that is refused changes nothing.

* **Paths.**  `Route` is a path as a process writes it: unlike a `Path` it may end in a slash, which
  asks for a directory.
* **Descriptors.**  Reading and writing move the position of what is open, which descriptors share.
* **Children.**  A process that ended stays until its parent has asked for it.
-/

set_option autoImplicit false

namespace RevisionGraph.System

/-! ## Paths -/

/-- A path as a process writes it. -/
structure Route where
  absolute : Bool
  names : List String
  /-- a slash ends it -/
  closed : Bool

/-- The way that a text describes. -/
def Route.ofText (s : String) : Route :=
  let name := Text.Octets.toName s
  { absolute := name.startsWith "/"
    names := (Text.split '/' name).filter (· != "")
    closed := name.endsWith "/" }

/-- The descriptor that a path under `/dev/fd` names. -/
def namedDescriptor? (path : String) : Option Nat :=
  let r := Route.ofText path
  let digits (n : String) : Option Nat :=
    if n.toList.all Char.isDigit && !n.isEmpty then some (Nat.ofDigitChars 10 n.toList 0) else none
  if !r.absolute then none
  else match r.names with
    | ["dev", "stdin"] => some 0
    | ["dev", "stdout"] => some 1
    | ["dev", "stderr"] => some 2
    | ["dev", "fd", n] => digits n
    | ["proc", "self", "fd", n] => digits n
    | _ => none

/-- What a request changes: the machine and the process that makes it. -/
structure Scene where
  machine : Machine
  process : Process

namespace Scene

/-- The files of the machine. -/
def files (s : Scene) : FileTree := s.machine.files

/-- Changes the files of the machine. -/
def setFiles (s : Scene) (files : FileTree) : Scene := { s with machine.files := files }

/-- Where a route starts. -/
def base (s : Scene) (r : Route) : Place := if r.absolute then [] else s.process.directory

/-- The place that a path leads to, if only its end may be missing. -/
def locate (s : Scene) (path : String) (last : Bool) : Attempt Place := do
  if path.isEmpty then throw .notFound
  if FileTree.pathLimit < path.length then throw .nameTooLong
  let r := Route.ofText path
  let place ← s.files.follow (last || r.closed) (s.base r) r.names
  if r.closed then
    match s.files.content? place with
    | some .directory => return place
    | some _ => throw .notADirectory
    | none => throw .notFound
  return place

/-- The number and the node that a path leads to. -/
def find (s : Scene) (path : String) (last : Bool) : Attempt (Place × Nat × Node) := do
  let place ← s.locate path last
  match s.files.number? place, s.files.node? place with
  | some number, some node => return (place, number, node)
  | _, _ => throw .notFound

/-- The place for something new, where nothing may be.  Only a directory may have a slash behind its
name. -/
def vacancy (s : Scene) (path : String) (directory : Bool) : Attempt Place := do
  if path.isEmpty then throw .notFound
  if FileTree.pathLimit < path.length then throw .nameTooLong
  let r := Route.ofText path
  match r.names.getLast? with
  | none => throw .alreadyExists
  | some last =>
    let place ← s.files.follow false (s.base r) r.names
    if last = "." || last = ".." || (s.files.node? place).isSome then throw .alreadyExists
    if r.closed && !directory then throw .notFound
    return place

/-- The rights that something new gets of those asked for. -/
def grant (s : Scene) (rights : Nat) : Nat := rights &&& (511 ^^^ (s.process.mask &&& 511))

/-! ## Looking -/

/-- What a content looks like. -/
def kindOf : Content → Kind
  | .directory => .directory
  | .file _ => .file
  | .link _ => .link
  | .pipe => .pipe
  | .device _ => .device

/-- The size of a content. -/
def sizeOf : Content → Nat
  | .directory => 4096
  | .file bytes => bytes.length
  | .link target => target.utf8ByteSize
  | _ => 0

/-- What is to be seen of a node. -/
def lookOf (s : Scene) (number : Nat) (node : Node) : Look where
  kind := kindOf node.content
  size := sizeOf node.content
  rights := node.rights
  number := number
  names := s.files.nameCount number
  time := node.time

/-- What is known of something open. -/
def lookAt (s : Scene) (fd : Nat) : Attempt Look :=
  match s.machine.opened? s.process fd with
  | none => .error .badDescriptor
  | some (_, f) =>
    let plain (kind : Kind) : Look := ⟨kind, 0, rightsOf 6 6 6, 0, 1, 0⟩
    .ok (match f.target with
      | .file number => ((s.files.nodes.find? number).map (s.lookOf number)).getD (plain .file)
      | .directory place =>
        match s.files.number? place, s.files.node? place with
        | some number, some node => s.lookOf number node
        | _, _ => plain .directory
      | .device _ => plain .device
      | .pipe _ | .sink _ => plain .pipe)

/-! ## Opening -/

/-- Opens something on the least free descriptor. -/
def install (s : Scene) (f : OpenFile) : Nat × Scene :=
  let (number, machine) := s.machine.addOpenFile f
  let fd := s.process.freeFrom 0
  (fd, { s with machine, process := s.process.withDescriptor fd ⟨number, false⟩ })

/-- Closes a descriptor. -/
def close (s : Scene) (fd : Nat) : Scene :=
  let process := s.process.withoutDescriptor fd
  { s with process, machine := (s.machine.setProcess process).sweep }

/-- The content of a file, by its number. -/
def bytesOf (s : Scene) (number : Nat) : Text.Bytes :=
  match (s.files.nodes.find? number).map Node.content with
  | some (.file bytes) => bytes
  | _ => []

/-- Changes the content of a file. -/
def rewrite (s : Scene) (number : Nat) (f : Text.Bytes → Text.Bytes) : Scene :=
  s.setFiles (s.files.modifyNode number fun node ↦ match node.content with
    | .file bytes => { node with content := .file (f bytes), time := s.files.now }
    | _ => node)

/-- The pipe that a node is. -/
def pipeOf (number : Nat) : Nat := 2 * number

/-- Opens one end of a pipe that has a name; the process is to wait for the other end if nobody has
it. -/
def openPipe (s : Scene) (number : Nat) (how : Opening) : Nat × Scene :=
  let p := (s.machine.pipe? number).getD {}
  let reads := how.access.reads
  let met := s.machine.hasEnd number reads
  let others := if reads then p.writers else p.readers
  let p := if reads then { p with readers := p.readers + 1 } else { p with writers := p.writers + 1 }
  let (fd, s) := s.install { target := .pipe number, access := how.access }
  (fd, { s with
    machine := s.machine.setPipe number p
    process := { s.process with opening := if met then none else some (fd, others) } })

/-- Opens a node that is there. -/
def openNode (s : Scene) (place : Place) (number : Nat) (node : Node) (how : Opening) :
    Attempt (Nat × Scene) :=
  if how.create && how.exclusive then .error .alreadyExists
  else match node.content with
    | .directory =>
      if how.create || how.access.writes then .error .isADirectory
      else .ok (s.install { target := .directory place, access := how.access })
    | .file _ =>
      let s := if how.truncate then s.rewrite number fun _ ↦ [] else s
      .ok (s.install { target := .file number, access := how.access, append := how.append })
    | .device .terminal => .error .noDevice
    | .device d => .ok (s.install { target := .device d, access := how.access })
    | .pipe => .ok (s.openPipe (pipeOf number) how)
    | .link _ => .error .tooManyLinks

/-- Opens anew what a descriptor stands for. -/
def reopen (s : Scene) (fd : Nat) (how : Opening) : Attempt (Nat × Scene) :=
  match s.machine.opened? s.process fd with
  | none => .error .notFound
  | some (_, f) =>
    let s := match f.target with
      | .file number => if how.truncate then s.rewrite number fun _ ↦ [] else s
      | _ => s
    .ok (s.install { f with access := how.access, append := how.append, position := 0 })

/-- Opens a file. -/
def openFile (s : Scene) (path : String) (how : Opening) : Attempt (Nat × Scene) := do
  if let some fd := namedDescriptor? path then return ← s.reopen fd how
  let r := Route.ofText path
  if how.create && r.closed then
    match s.find path true with
    | .ok (place, number, node) => s.openNode place number node how
    | .error .notFound => throw .isADirectory
    | .error cause => throw cause
  else
    -- a new file may take the place that a link points to, but not if it must be new
    let place ← s.locate path (!(how.create && how.exclusive))
    match s.files.number? place, s.files.node? place with
    | some number, some node => s.openNode place number node how
    | _, _ =>
      if how.create then
        let s := s.setFiles (s.files.add place (.file []) (s.grant (rightsOf 6 6 6)))
        return s.install {
          target := .file (s.files.fresh - 1), access := how.access, append := how.append }
      else throw .notFound

/-! ## Reading and writing -/

/-- Bytes with others in place of those from a position on. -/
def overwrite (old : Text.Bytes) (position : Nat) (new : Text.Bytes) : Text.Bytes :=
  if position = old.length then old ++ new
  else old.take position ++ List.replicate (position - old.length) 0 ++ new ++
    old.drop (position + new.length)

/-- Reads from something open; no answer means that there may be something later. -/
def read (s : Scene) (fd count : Nat) : Attempt (Option Text.Bytes × Scene) :=
  match s.machine.opened? s.process fd with
  | none => .error .badDescriptor
  | some (number, f) =>
    if !f.access.reads then .error .badDescriptor
    else match f.target with
      | .directory _ => .error .isADirectory
      | .file node =>
        let bytes := ((s.bytesOf node).drop f.position).take count
        let machine :=
          s.machine.setOpenFile number { f with position := f.position + bytes.length }
        .ok (some bytes, { s with machine })
      | .device .zero | .device .full | .device .random => .ok (some (List.replicate count 0), s)
      | .device _ => .ok (some [], s)
      | .sink _ => .ok (some [], s)
      | .pipe pipe =>
        let p := (s.machine.pipe? pipe).getD {}
        if p.size = 0 then .ok (if s.machine.hasEnd pipe true then none else some [], s)
        else
          let (bytes, p) := p.take count
          .ok (some bytes, { s with machine := s.machine.setPipe pipe p })

/-- How long it takes to write into a sink, per byte in microseconds. -/
def sinkPace : Nat := 1

/-- Writes bytes; no answer means that there is no room for some of them yet. -/
def write (s : Scene) (fd : Nat) (bytes : Text.Bytes) : Option (Attempt Unit) × Scene :=
  match s.machine.opened? s.process fd with
  | none => (some (.error .badDescriptor), s)
  | some (number, f) =>
    if !f.access.writes then (some (.error .badDescriptor), s)
    else match f.target with
      | .directory _ => (some (.error .badDescriptor), s)
      | .file node =>
        let position := if f.append then (s.bytesOf node).length else f.position
        let s := s.rewrite node fun old ↦ overwrite old position bytes
        let machine := s.machine.setOpenFile number { f with position := position + bytes.length }
        (some (.ok ()), { s with machine })
      | .device .full => (some (if bytes.isEmpty then .ok () else .error .noSpace), s)
      | .device _ => (some (.ok ()), s)
      | .sink sink =>
        let machine := { s.machine with collected := (sink, bytes) :: s.machine.collected }
        (some (.ok ()), { s with machine := machine.spend (sinkPace * bytes.length) })
      | .pipe pipe =>
        if !s.machine.hasEnd pipe false then
          (some (.error .brokenPipe), { s with process := s.process.receive 13 })
        else
          let p := (s.machine.pipe? pipe).getD {}
          let due := bytes.drop s.process.written
          let now := due.take (Pipe.capacity - p.size)
          let machine := if now.isEmpty then s.machine else s.machine.setPipe pipe (p.put now)
          if now.length = due.length then
            (some (.ok ()), { s with machine, process.written := 0 })
          else
            (none, { s with machine, process.written := s.process.written + now.length })

/-- Moves the position in a file. -/
def seek (s : Scene) (fd : Nat) (origin : Origin) (offset : Int) : Attempt (Nat × Scene) :=
  match s.machine.opened? s.process fd with
  | none => .error .badDescriptor
  | some (number, f) =>
    let moved (size : Nat) : Attempt (Nat × Scene) :=
      let start : Int := match origin with
        | .start => 0
        | .current => f.position
        | .finish => size
      if start + offset < 0 then .error .invalid
      else
        let position := (start + offset).toNat
        .ok (position, { s with machine := s.machine.setOpenFile number { f with position } })
    match f.target with
    | .file node => moved (s.bytesOf node).length
    | .directory _ | .device _ => moved 0
    | .pipe _ | .sink _ => .error .illegalSeek

/-! ## Names -/

/-- Makes a directory. -/
def makeDirectory (s : Scene) (path : String) (rights : Nat) : Attempt Scene := do
  let place ← s.vacancy path true
  return s.setFiles (s.files.add place .directory (s.grant rights))

/-- Makes a node. -/
def makeNode (s : Scene) (path : String) (content : Content) (rights : Nat) : Attempt Scene := do
  let place ← s.vacancy path false
  return s.setFiles (s.files.add place content rights)

/-- Gives a node one more name. -/
def addName (s : Scene) (path other : String) : Attempt Scene := do
  let (origin, _, node) ← s.find path false
  let place ← s.vacancy other false
  if node.content == .directory then throw .notPermitted
  return s.setFiles (s.files.addName origin place)

/-- The target of a symbolic link. -/
def readLink (s : Scene) (path : String) : Attempt String := do
  let (_, _, node) ← s.find path false
  match node.content with
  | .link target => return Text.Octets.ofName target
  | _ => throw .invalid

/-- Takes a name away. -/
def remove (s : Scene) (path : String) : Attempt Scene := do
  let (place, _, node) ← s.find path false
  if node.content == .directory then throw .isADirectory
  return s.setFiles (s.files.remove place)

/-- Removes a directory with nothing in it. -/
def removeDirectory (s : Scene) (path : String) : Attempt Scene := do
  let r := Route.ofText path
  let (place, _, node) ← s.find path false
  if node.content != .directory then throw .notADirectory
  if r.names.getLast? = some "." then throw .invalid
  if !(s.files.names place).isEmpty || r.names.getLast? = some ".." then throw .notEmpty
  return s.setFiles (s.files.remove place)

/-- Gives a node another name. -/
def rename (s : Scene) (path other : String) : Attempt Scene := do
  let (origin, number, node) ← s.find path false
  let r := Route.ofText other
  let target ← s.files.follow false (s.base r) r.names
  let isDirectory := node.content == .directory
  if other.isEmpty then throw .notFound
  match s.files.number? target, s.files.content? target with
  | some n, some content =>
    if n = number then return s
    if content == .directory && !isDirectory then throw .isADirectory
    if content != .directory && isDirectory then throw .notADirectory
    if content == .directory && !(s.files.names target).isEmpty then throw .notEmpty
  | _, _ => if r.closed && !isDirectory then throw .notADirectory
  if origin.isPrefixOf target then throw .invalid
  if target.isPrefixOf origin then throw .notEmpty
  return s.setFiles (s.files.move origin target)

/-- Changes a node that a path leads to. -/
def modifyAt (s : Scene) (path : String) (f : Node → Node) : Attempt Scene := do
  let (_, number, _) ← s.find path true
  return s.setFiles (s.files.modifyNode number f)

/-- Gives a file another size. -/
def resize (s : Scene) (path : String) (size : Nat) : Attempt Scene := do
  let (_, number, node) ← s.find path true
  match node.content with
  | .file bytes =>
    return s.rewrite number fun _ ↦
      bytes.take size ++ List.replicate (size - bytes.length) 0
  | .directory => throw .isADirectory
  | _ => throw .invalid

/-- Enters a directory. -/
def enter (s : Scene) (path : String) : Attempt Scene := do
  let (place, _, node) ← s.find path true
  if node.content != .directory then throw .notADirectory
  return { s with process.directory := place }

/-- The text of a place. -/
def placeText (place : Place) : String := Text.Octets.ofName (Path.toText ⟨.root, place⟩)

/-! ## Processes -/

/-- Sends a signal to a process or to a group; the sender gets it first. -/
def signal (s : Scene) (number : Int) (signal : Nat) : Attempt Scene :=
  let group := if number = 0 then s.process.group else number.natAbs
  let isMeant (p : Process) : Bool :=
    if 0 < number then (p.number : Int) == number else p.group == group && p.ended.isNone
  let others := s.machine.processes.filter fun p ↦ isMeant p && p.number != s.process.number
  if others.isEmpty && !isMeant s.process then .error .noProcess
  else
    let process := if isMeant s.process then s.process.receive signal else s.process
    let machine := others.foldl (fun m p ↦ m.signal p.number signal) (s.machine.setProcess process)
    .ok { process := (machine.process? process.number).getD process, machine := machine.sweep }

/-- Asks for a child that ended, which then is gone. -/
def await (s : Scene) (waits patient : Bool) :
    Option (Attempt (Option (Nat × Ending))) × Scene :=
  let children := s.machine.processes.filter fun p ↦ p.parent == s.process.number
  match children.findSome? fun p ↦ p.ended.map fun e ↦ (p.number, e) with
  | some (number, e) =>
    let processes := s.machine.processes.filter fun p ↦ p.number != number
    (some (.ok (some (number, e))), { s with machine.processes := processes })
  | none =>
    if children.isEmpty then (some (.error .noChild), s)
    else if !waits then (some (.ok none), s)
    else if !patient && !s.process.arrived.isEmpty then (some (.error .interrupted), s)
    else (none, s)

/-- A new program gets neither what its predecessor kept for itself nor its notes of signals. -/
def renew (s : Scene) : Scene :=
  let p := s.process
  let process := { p with
    descriptors := p.descriptors.filter fun e ↦ !e.2.own
    dispositions := p.dispositions.filter fun e ↦ e.2 == .ignored
    arrived := [] }
  { s with process, machine := (s.machine.setProcess process).sweep }

/-! ## All requests -/

/-- The answer to a request that changes the scene or is refused. -/
def settle (s : Scene) : Attempt Scene → Option (Attempt Unit) × Scene
  | .ok s => (some (.ok ()), s)
  | .error cause => (some (.error cause), s)

/-- The answer to a request with a value. -/
def give {α : Type} (s : Scene) : Attempt (α × Scene) → Option (Attempt α) × Scene
  | .ok (a, s) => (some (.ok a), s)
  | .error cause => (some (.error cause), s)

/-- Whether the other end of a pipe was opened for which a descriptor waits. -/
def isMet (s : Scene) (fd others : Nat) : Bool :=
  match s.machine.opened? s.process fd with
  | some (_, { target := .pipe pipe, access, .. }) =>
    match s.machine.pipe? pipe with
    | some p => others < (if access.reads then p.writers else p.readers) ||
        s.machine.hasEnd pipe access.reads
    | none => true
  | _ => true

/-- Answers a request to open a file.  A pipe is open when both of its ends are. -/
def serveOpen (s : Scene) (path : String) (how : Opening) : Option (Attempt Nat) × Scene :=
  match s.process.opening with
  | some (fd, others) =>
    if s.isMet fd others then (some (.ok fd), { s with process.opening := none }) else (none, s)
  | none =>
    match s.openFile path how with
    | .error cause => (some (.error cause), s)
    | .ok (fd, s) =>
      if s.process.opening.isNone || how.access == .both then
        (some (.ok fd), { s with process.opening := none })
      else (none, s)

/-- Lets a process pause until some time has passed. -/
def servePause (s : Scene) (microseconds : Nat) : Option Unit × Scene :=
  let wake := s.process.wake.getD (s.machine.clock + microseconds)
  if wake ≤ s.machine.clock then (some (), { s with process.wake := none })
  else (none, { s with process.wake := some wake })

/-- Answers a request; without an answer the process is to wait. -/
def serve (s : Scene) : (r : Request) → Option r.Reply × Scene
  | .openFile path how => s.serveOpen path how
  | .close fd =>
    if (s.process.descriptor? fd).isSome then (some (.ok ()), s.close fd)
    else (some (.error .badDescriptor), s)
  | .duplicate fd target => s.settle <|
    match s.process.descriptor? fd with
    | some d =>
      if fd = target then .ok s
      else
        let process := s.process.withDescriptor target { d with own := false }
        .ok { s with process, machine := (s.machine.setProcess process).sweep }
    | none => .error .badDescriptor
  | .keep fd least => s.give <|
    match s.process.descriptor? fd with
    | some d =>
      let free := s.process.freeFrom least
      .ok (free, { s with process := s.process.withDescriptor free { d with own := true } })
    | none => .error .badDescriptor
  | .read fd count patient =>
    match s.read fd count with
    | .ok (some bytes, s) => (some (.ok bytes), s)
    | .ok (none, s) =>
      if !patient && !s.process.arrived.isEmpty then (some (.error .interrupted), s) else (none, s)
    | .error cause => (some (.error cause), s)
  | .write fd bytes => s.write fd bytes
  | .seek fd origin offset => s.give (s.seek fd origin offset)
  | .resize path size => s.settle (s.resize path size)
  | .look path last => (some (match namedDescriptor? path with
      | some fd => match s.lookAt fd with
        | .ok look => .ok look
        | .error _ => .error .notFound
      | none => (s.find path last).map fun (_, number, node) ↦ s.lookOf number node), s)
  | .lookAt fd => (some (s.lookAt fd), s)
  | .list path => (some do
      let (place, _, node) ← s.find path true
      if node.content != .directory then throw .notADirectory
      return (s.files.names place).map Text.Octets.ofName, s)
  | .makeDirectory path rights => s.settle (s.makeDirectory path rights)
  | .makePipe path rights => s.settle (s.makeNode path .pipe (s.grant rights))
  | .makeLink target path => s.settle (if target.isEmpty then .error .notFound
      else s.makeNode path (.link (Text.Octets.toName target)) (rightsOf 7 7 7))
  | .addName path other => s.settle (s.addName path other)
  | .readLink path => (some (s.readLink path), s)
  | .remove path => s.settle (s.remove path)
  | .removeDirectory path => s.settle (s.removeDirectory path)
  | .rename path other => s.settle (s.rename path other)
  | .setRights path rights => s.settle (s.modifyAt path fun n ↦ { n with rights })
  | .setTime path time => s.settle (s.modifyAt path fun n ↦ { n with time := time.getD s.files.now })
  | .enter path => s.settle (s.enter path)
  | .directory =>
    let place := s.process.directory
    (some (if s.files.isDirectoryAt place then some (placeText place) else none), s)
  | .mask new => (some s.process.mask, { s with process.mask := new.getD s.process.mask })
  | .pipe =>
    let number := 2 * s.machine.fresh + 1
    let s := { s with machine := s.machine.setPipe number {} }
    let (reader, s) := s.install { target := .pipe number, access := .reading }
    let (writer, s) := s.install { target := .pipe number, access := .writing }
    (some (reader, writer), s)
  | .await waits patient => s.await waits patient
  | .signal number signal => s.settle (s.signal number signal)
  | .dispose signal d => (some (), { s with process := s.process.dispose signal d })
  | .disposition signal => (some (s.process.disposition signal), s)
  | .arrived => (some s.process.arrived, { s with process.arrived := [] })
  | .pause microseconds => s.servePause microseconds
  | .clock => (some (Machine.epoch + s.machine.clock), s)
  | .self => (some s.process.number, s)
  | .parent => (some s.process.parent, s)
  | .renew => (some (), s.renew)
  | .lead => (some (), { s with process.group := s.process.number })
  | .work microseconds => (some (), { s with machine := s.machine.spend microseconds })

end Scene

end RevisionGraph.System

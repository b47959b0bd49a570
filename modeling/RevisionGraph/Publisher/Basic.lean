import RevisionGraph.Files.Tree
import RevisionGraph.Publisher.Message

/-!
# Publishers

A `Publisher` takes messages until it is closed.  It keeps them in memory, or writes each as a line
at the end of a file.

Handing a message over has two layers.  A closed publisher refuses it, and the caller learns so at
once.  An open one takes it, and how that went is the `Delivery`: the message was delivered, or
something kept it back.

A publisher that writes to a file keeps it open.  A line that the file did not take is not lost
then: it waits in the buffer of the `Handle`, and is written before whatever comes next, or when the
file is closed, although it was said to have failed.
-/

set_option autoImplicit false

namespace RevisionGraph

/-- How a message that was taken fared. -/
inductive Delivery where
  | delivered
  | failed (cause : Fault)
  deriving DecidableEq

/-! ## In memory -/

/-- Keeps messages in memory. -/
structure MemoryPublisher where
  /-- the messages that were delivered, oldest first -/
  messages : List Message := []
  closed : Bool := false
  /-- what keeps messages back at present -/
  obstacle : Option Fault := none
  deriving DecidableEq

namespace MemoryPublisher

/-- Keeps a message, unless something stands in the way. -/
def send (p : MemoryPublisher) (m : Message) : MemoryPublisher × Result Delivery :=
  if p.closed then (p, .error (.publisherClosed none))
  else match p.obstacle with
    | some cause => (p, .ok (.failed cause))
    | none => ({ p with messages := p.messages ++ [m] }, .ok .delivered)

/-- Takes no more messages. -/
def close (p : MemoryPublisher) : MemoryPublisher := { p with closed := true }

end MemoryPublisher

/-! ## Open files -/

/-- A file is not opened. -/
structure Refusal where
  fault : FileFault
  /-- the files after the refusal, before which directories may have been made -/
  leaving : FileTree → FileTree

/-- What happens to a process whatever the files are, as when a disk is full or too many files are
open. -/
structure Weather where
  /-- what keeps the next file from being opened -/
  refusal? : Option Refusal := none
  /-- what keeps the next attempts to write from a file: for each a cause or nothing -/
  obstacles : List (Option FileCause) := []

/-- What keeps the next attempt to write from a file. -/
def Weather.next? (w : Weather) : Option FileCause := w.obstacles.head?.join

/-- The files as a process meets them. -/
structure Disk extends Weather where
  files : FileTree

/-- The files, where nothing comes in between. -/
def FileTree.disk (files : FileTree) : Disk := { files }

/-- Attempts to write behind what is in an open file: all of it is written, or nothing. -/
def Disk.append (d : Disk) (number : Nat) (bytes : Text.Bytes) : Disk × Option FileCause :=
  let later := { d with obstacles := d.obstacles.tail }
  match d.next? with
  | some cause => (later, some cause)
  | none => match d.files.appendTo number bytes with
    | .ok files => ({ later with files }, none)
    | .error cause => (later, some cause)

/-- A file that is open to be appended to.  What is written to it waits in a buffer first. -/
structure Handle where
  /-- the number of what was opened -/
  number : Nat
  /-- how many bytes can wait -/
  room : Nat
  /-- the bytes that wait -/
  pending : Text.Bytes := []
  closed : Bool := false
  deriving DecidableEq

namespace Handle

/-- What becomes of a handle and the disk, and the cause if something failed. -/
abbrev Outcome := Handle × Disk × Option FileCause

/-- Goes on unless something failed. -/
def Outcome.andThen (o : Outcome) (next : Handle → Disk → Outcome) : Outcome :=
  match o with
  | (h, d, none) => next h d
  | (h, d, some cause) => (h, d, some cause)

/-- Writes out what waits, if anything does; what cannot be written goes on waiting. -/
def flush (h : Handle) (d : Disk) : Outcome :=
  if h.pending.isEmpty then (h, d, none)
  else match d.append h.number h.pending with
    | (d, some cause) => (h, d, some cause)
    | (d, none) => ({ h with pending := [] }, d, none)

/-- Lets bytes wait where nothing does.  Bytes for which there is no room are written at once, and
lost if that fails. -/
def fill (h : Handle) (d : Disk) (bytes : Text.Bytes) : Outcome :=
  if bytes.length ≤ h.room then ({ h with pending := bytes }, d, none)
  else
    let (d, cause?) := d.append h.number bytes
    (h, d, cause?)

/-- Lets bytes wait, behind those that wait if there is room for them, and otherwise once these were
written out. -/
def take (h : Handle) (d : Disk) (bytes : Text.Bytes) : Outcome :=
  if h.pending.length + bytes.length ≤ h.room ∧ bytes.length < h.room then
    ({ h with pending := h.pending ++ bytes }, d, none)
  else (h.flush d).andThen fun h d ↦ h.fill d bytes

/-- Writes bytes, and does not let them wait unless that fails. -/
def write (h : Handle) (d : Disk) (bytes : Text.Bytes) : Outcome :=
  (h.take d bytes).andThen flush

/-- Closes the file.  Twice it is attempted to write out what waits, but one failure will do to be
told of; what still waits then is lost. -/
def close (h : Handle) (d : Disk) : Outcome :=
  if h.closed then (h, d, none)
  else
    let (h, d, first?) := h.flush d
    let (h, d, second?) := h.flush d
    ({ h with pending := [], closed := true }, d, second?.or first?)

end Handle

/-! ## In a file -/

/-- Appends messages to a file, which is made with the directories that lead to it when the first
message comes, and stays open until the publisher is closed. -/
structure FilePublisher where
  path : Path
  /-- how many bytes can wait to be written to the file -/
  room : Nat := 4096
  /-- the file, once it is open -/
  handle? : Option Handle := none
  closed : Bool := false
  deriving DecidableEq

namespace FilePublisher

/-- Makes the directories that lead to the file, and opens it. -/
def openFile (p : FilePublisher) (files : FileTree) (cwd : Place) : FileTree × Result Handle :=
  if p.path.parent.hasNul then (files, .error (.conversion .nulInWord))
  else match files.makeDirectories cwd p.path.parent with
    | (files, some fault) => (files, .error (.file fault))
    | (files, none) =>
      if p.path.hasNul then (files, .error (.conversion .nulInWord))
      else match files.openToAppend cwd p.path with
        | .error cause => (files, .error (.file ⟨cause, p.path.toText⟩))
        | .ok (files, number) => (files, .ok { number, room := p.room })

/-- The file of the publisher, which is opened if that was not done yet. -/
def reach (p : FilePublisher) (d : Disk) (cwd : Place) : Disk × Result Handle :=
  match p.handle? with
  | some h => (d, .ok h)
  | none => match d.refusal? with
    | some refusal => ({ d with files := refusal.leaving d.files }, .error (.file refusal.fault))
    | none =>
      let (files, result) := p.openFile d.files cwd
      ({ d with files }, result)

/-- Writes the line of a message to the file.  What keeps it from the file is the fault that comes
with the result. -/
def append (p : FilePublisher) (d : Disk) (cwd : Place) (m : Message) :
    FilePublisher × Disk × Option Fault :=
  match p.reach d cwd with
  | (d, .error e) => (p, d, some e)
  | (d, .ok h) =>
    if h.closed then (p, d, some .closedFile)
    else
      let (h, d, cause?) := h.write d (Text.Utf8.encode m.line)
      ({ p with handle? := some h }, d, cause?.map .writing)

/-- Hands a message over.  What the file system refuses is a matter of the delivery; other faults
are the caller's. -/
def send (p : FilePublisher) (d : Disk) (cwd : Place) (m : Message) :
    FilePublisher × Disk × Result Delivery :=
  if p.closed then (p, d, .error (.publisherClosed (some p.path.toText)))
  else match p.append d cwd m with
    | (p, d, none) => (p, d, .ok .delivered)
    | (p, d, some e) => (p, d, if e.isFromSystem then .ok (.failed e) else .error e)

/-- Closes the publisher and its file.  Where the file does not let itself be closed properly, the
publisher is not closed, but the file is. -/
def close (p : FilePublisher) (d : Disk) : FilePublisher × Disk × Option Fault :=
  match p.handle? with
  | none => ({ p with closed := true }, d, none)
  | some h => match h.close d with
    | (h, d, some cause) => ({ p with handle? := some h }, d, some (.writing cause))
    | (_, d, none) => ({ p with handle? := none, closed := true }, d, none)

end FilePublisher

/-! ## Either -/

/-- A publisher of either kind. -/
inductive Publisher where
  | memory (p : MemoryPublisher)
  | file (p : FilePublisher)
  deriving DecidableEq

namespace Publisher

/-- Hands a message over. -/
def send (p : Publisher) (d : Disk) (cwd : Place) (m : Message) :
    Publisher × Disk × Result Delivery :=
  match p with
  | .memory p =>
    let (p, result) := p.send m
    (.memory p, d, result)
  | .file p =>
    let (p, d, result) := p.send d cwd m
    (.file p, d, result)

/-- Takes no further messages; the fault is what kept the publisher from being closed. -/
def close (p : Publisher) (d : Disk) : Publisher × Disk × Option Fault :=
  match p with
  | .memory p => (.memory p.close, d, none)
  | .file p =>
    let (p, d, fault?) := p.close d
    (.file p, d, fault?)

/-- The publisher takes no more messages. -/
def isClosed : Publisher → Bool
  | .memory p => p.closed
  | .file p => p.closed

/-- The messages that are kept in memory. -/
def messages : Publisher → List Message
  | .memory p => p.messages
  | .file _ => []

/-- Makes the messages of a publisher in memory fail, or no longer. -/
def obstruct (p : Publisher) (obstacle : Option Fault) : Publisher :=
  match p with
  | .memory p => .memory { p with obstacle }
  | p => p

end Publisher

end RevisionGraph

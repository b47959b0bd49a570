import RevisionGraph.Simulation.System.Program

/-!
# What tools have in common

A tool is a program that does one thing: it reads options, operands and its input, and writes its
output.  `ToolM` is a step of a tool; what it prints is gathered and written in blocks.

* **Ends.**  `Tool.program` is the program that a tool is.  Output that cannot be written ends it.
* **Input.**  `eachChunk` and `eachLine` go through what comes from a descriptor as far as it is
  wanted.

Texts are texts of bytes.
-/

set_option autoImplicit false

namespace RevisionGraph.Tools

open RevisionGraph.System

/-- The surroundings of a tool and what it has printed but not yet written, the newest first. -/
structure Desk where
  call : Call
  launch : Launch
  pending : List Text.Bytes := []
  size : Nat := 0
  /-- the status of a tool that cannot write its output -/
  writeFailure : Nat := 1

/-- What a tool does. -/
abbrev ToolM := StateT Desk Act

namespace ToolM

/-- Acts as any program does. -/
def act {α : Type} (a : Act α) : ToolM α := StateT.lift a

/-- Asks the system for something. -/
def ask (r : Request) : ToolM r.Reply := act (Act.ask r)

/-- The name under which the tool was called. -/
def name : ToolM String := do return (← get).call.name

/-- What is said of a request that was refused. -/
def reason (cause : FileCause) : String := cause.errno.2

/-- Writes to the standard error output. -/
def tell (text : String) : ToolM Unit := do
  let _ ← ask (.write 2 (Text.Octets.toBytes text))

/-- Writes a line about a failure. -/
def complain (text : String) : ToolM Unit := do
  tell ((← name) ++ ": " ++ text ++ "\n")

/-- Writes what was printed. -/
def flush : ToolM Unit := do
  let d ← get
  if d.pending.isEmpty then return
  set { d with pending := [], size := 0 }
  match ← ask (.write 1 d.pending.reverse.flatten) with
  | .ok () => return
  | .error cause =>
    complain s!"write error: {reason cause}"
    act (Act.leave d.writeFailure)

/-- Ends the tool. -/
def quit {α : Type} (status : Nat) : ToolM α := do
  flush
  act (Act.leave status)

/-- A block of output. -/
def blockSize : Nat := 4096

/-- Writes bytes, which go out a block at a time. -/
def emit (bytes : Text.Bytes) : ToolM Unit := do
  modify fun d ↦ { d with pending := bytes :: d.pending, size := d.size + bytes.length }
  if blockSize ≤ (← get).size then flush

/-- Writes a text. -/
def print (text : String) : ToolM Unit := do
  if !text.isEmpty then emit (Text.Octets.toBytes text)

/-- Writes a line. -/
def printLine (text : String) : ToolM Unit := print (text ++ "\n")

/-- A failure that ends the tool. -/
def abort {α : Type} (status : Nat) (text : String) : ToolM α := do
  complain text
  quit status

/-- Where to look for help. -/
def suggestHelp : ToolM Unit := do
  tell s!"Try '{← name} --help' for more information.\n"

/-- A call that makes no sense. -/
def misuse {α : Type} (status : Nat) (text : String) : ToolM α := do
  complain text
  suggestHelp
  quit status

/-! ## Input -/

/-- How much is read at once. -/
def chunkSize : Nat := 32768

/-- Goes through what comes from a descriptor as long as a step wants more. -/
def eachChunk {σ : Type} (fd : Nat) (s : σ) (step : σ → Text.Bytes → ToolM (σ × Bool)) :
    ToolM (Attempt σ) := do
  let (s, fault) ← iterate (s, (none : Option FileCause)) fun (s, fault) ↦ do
    match ← ask (.read fd chunkSize true) with
    | .error cause => return ((s, some cause), false)
    | .ok [] => return ((s, fault), false)
    | .ok bytes =>
      let (s, more) ← step s bytes
      return ((s, fault), more)
  return match fault with
    | some cause => .error cause
    | none => .ok s

/-- All that comes from a descriptor. -/
def readAll (fd : Nat) : ToolM (Attempt Text.Bytes) := do
  let chunks ← eachChunk fd [] fun chunks bytes ↦ return (bytes :: chunks, true)
  return chunks.map fun c ↦ c.reverse.flatten

/-- A line, and whether a line end closed it. -/
structure Line where
  text : String
  closed : Bool

/-- The lines that bytes hold in full, and what is left behind them. -/
def cutLines (ending : UInt8) : Text.Bytes → Text.Bytes → List Text.Bytes × Text.Bytes
  | line, [] => ([], line.reverse)
  | line, b :: rest =>
    if b = ending then
      let (lines, left) := cutLines ending [] rest
      (line.reverse :: lines, left)
    else cutLines ending (b :: line) rest

/-- Goes through lines as long as a step wants more; the answer tells how many lines were taken, and
whether there may be more. -/
def stepLines {σ : Type} (step : σ → Line → ToolM (σ × Bool)) :
    Nat → σ → List Text.Bytes → ToolM (σ × Nat × Bool)
  | taken, s, [] => return (s, taken, true)
  | taken, s, line :: lines => do
    let (s, more) ← step s ⟨Text.Octets.ofBytes line, true⟩
    if more then stepLines step (taken + 1) s lines else return (s, taken + 1, false)

/-- Goes through the lines that come from a descriptor as long as a step wants more.  What was read
in vain is put back where that is possible. -/
def eachLineEnding {σ : Type} (ending : UInt8) (fd : Nat) (s : σ)
    (step : σ → Line → ToolM (σ × Bool)) : ToolM (Attempt σ) := do
  let result ← eachChunk fd (s, ([] : Text.Bytes), true) fun (s, left, _) bytes ↦ do
    let (lines, rest) := cutLines ending left.reverse bytes
    let (s, taken, more) ← stepLines step 0 s lines
    if !more then
      let unused := ((lines.drop taken).map fun l ↦ l.length + 1).sum + rest.length
      if unused != 0 then
        let _ ← ask (.seek fd .current (-(unused : Int)))
    return ((s, rest, more), more)
  match result with
  | .error cause => return .error cause
  | .ok (s, left, more) =>
    if !more || left.isEmpty then return .ok s
    let (s, _) ← step s ⟨Text.Octets.ofBytes left, false⟩
    return .ok s

/-- Goes through the lines of a file. -/
def eachLine {σ : Type} (fd : Nat) (s : σ) (step : σ → Line → ToolM (σ × Bool)) :
    ToolM (Attempt σ) :=
  eachLineEnding 10 fd s step

/-- All lines that bytes hold, the last one perhaps without its end. -/
def linesOf (ending : UInt8) (bytes : Text.Bytes) : List String :=
  let (lines, left) := cutLines ending [] bytes
  (lines ++ if left.isEmpty then [] else [left]).map Text.Octets.ofBytes

/-! ## Files -/

/-- Runs a step on the descriptor of an operand, a hyphen being the input; the answer says why it
cannot be opened. -/
def withInput {α : Type} (operand : String) (step : Nat → ToolM (Attempt α)) :
    ToolM (Attempt α) := do
  if operand = "-" then step 0
  else match ← ask (.openFile operand .toRead) with
    | .error cause => return .error cause
    | .ok fd =>
      let result ← step fd
      let _ ← ask (.close fd)
      return result

/-- Runs a step on each operand; the status is 1 if one of them failed. -/
def onEach (operands : List String) (step : String → ToolM Bool) : ToolM Nat :=
  operands.foldlM (fun status operand ↦ do return if ← step operand then status else 1) 0

/-- Runs a step on each operand, or on the input where there is none; what cannot be opened or read
is told. -/
def onInputs (operands : List String) (step : String → Nat → ToolM (Attempt Unit)) : ToolM Nat :=
  onEach (if operands.isEmpty then ["-"] else operands) fun operand ↦ do
    match ← withInput operand (step operand) with
    | .ok () => return true
    | .error cause =>
      complain s!"{operand}: {reason cause}"
      return false

/-- What is to be seen at a path. -/
def look (path : String) (follow : Bool) : ToolM (Attempt Look) := ask (.look path follow)

/-- The path leads to a directory. -/
def isDirectory (path : String) : ToolM Bool := do
  match ← look path true with
  | .ok look => return look.kind == .directory
  | .error _ => return false

/-- Writes bytes to a file anew. -/
def writeFile (path : String) (how : Opening) (bytes : Text.Bytes) : ToolM (Attempt Unit) := do
  match ← ask (.openFile path how) with
  | .error cause => return .error cause
  | .ok fd =>
    let result ← ask (.write fd bytes)
    let _ ← ask (.close fd)
    return result

/-! ## Other programs -/

/-- Starts a process for a command and gives its number; the step tells why it cannot be started. -/
def spawn (words : List String) (before : Act Unit) (refuse : FileCause → Act Nat) : ToolM Nat := do
  let d ← get
  act (Act.fork do
    before
    refuse (← launchNamed d.launch { d.call with words }))

/-- Waits for a process. -/
def awaitProcess (number : Nat) : ToolM Ending := do
  iterate (Ending.exited 0) fun e ↦ do
    match ← ask (.await true true) with
    | .ok (some (n, e)) => return (e, n != number)
    | _ => return (e, false)

end ToolM

/-- What a tool does; it gives a status. -/
abbrev Tool := ToolM Nat

/-- The program that a tool is. -/
def Tool.program (t : Tool) : Program := fun launch call ↦ do
  let (status, _) ← (do
    let status ← t
    ToolM.flush
    return status : ToolM Nat).run { call, launch }
  return status

/-! ## Names of files -/

/-- The path of a name in a directory. -/
def within (directory name : String) : String :=
  if directory.endsWith "/" then directory ++ name else directory ++ "/" ++ name

/-- A path without slashes at its end. -/
def withoutSlashes (path : String) : String :=
  let bare := (path.toList.reverse.dropWhile (· == '/')).reverse
  if bare.isEmpty && path.startsWith "/" then "/" else String.ofList bare

/-- The last name of a path. -/
def baseName (path : String) : String :=
  let bare := withoutSlashes path
  if bare = "/" then "/"
  else String.ofList (bare.toList.reverse.takeWhile (· != '/')).reverse

/-- All of a path but its last name. -/
def directoryName (path : String) : String :=
  let bare := (withoutSlashes path).toList.reverse
  let above := (bare.dropWhile (· != '/')).dropWhile (· == '/')
  if !above.isEmpty then String.ofList above.reverse
  else if path.startsWith "/" then "/" else "."

/-- A number with blanks before it up to a width. -/
def padded (width n : Nat) : String :=
  let digits := toString n
  "".pushn ' ' (width - digits.length) ++ digits

/-- An operand in quotation marks. -/
def quotedOf (operands : List String) (n : Nat) : String := "‘" ++ operands.getD n "" ++ "’"

/-- Texts in their order. -/
def sortedTexts (texts : List String) : List String :=
  texts.mergeSort fun a b ↦ (compare a b).isLE

end RevisionGraph.Tools

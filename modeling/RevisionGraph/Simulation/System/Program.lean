import RevisionGraph.Simulation.System.Behaviour

/-!
# Programs

A `Program` is what a process does from the words and the variables that it is given.  A file holds
a program if it is executable and its content is an `image`; an executable script names on its first
line the program that runs it.

`launch` starts the program in a file in place of the running one, and `launchNamed` does so for a
name that is looked for in directories.
-/

set_option autoImplicit false

namespace RevisionGraph.System

/-- What a program is started with. -/
structure Call where
  /-- the name under which it is called, and its arguments -/
  words : List String
  environment : List (String × String)

namespace Call

/-- The name that the program is called by. -/
def name (c : Call) : String := c.words.headD ""

/-- The words behind the name. -/
def arguments (c : Call) : List String := c.words.drop 1

/-- The value of a variable. -/
def value? (c : Call) (name : String) : Option String :=
  (c.environment.find? fun e ↦ e.1 == name).map Prod.snd

end Call

/-- Starts the program in a file in place of the running one; the answer is why it cannot be
started. -/
abbrev Launch := String → Call → Act FileCause

/-- What a process does that is given a way to start others; it ends with a status. -/
abbrev Program := Launch → Call → Act Nat

/-! ## Files with programs -/

/-- The bytes at the start of every image. -/
def imageMark : Text.Bytes := [0x7f, 0x45, 0x4c, 0x46]

/-- The content of a file that holds the program of a name. -/
def image (name : String) : Text.Bytes := imageMark ++ Text.Utf8.encode name

/-- The name of the program that a content holds. -/
def imageName? (content : Text.Bytes) : Option String :=
  if imageMark.isPrefixOf content then
    some (Text.Octets.ofBytes (content.drop imageMark.length))
  else none

theorem imageName?_image (name : String) :
    imageName? (image name) = some (Text.Octets.ofBytes (Text.Utf8.encode name)) := by
  simp [imageName?, image]

/-- The program that the first line of a script names to run it, with what is handed to it before
the script. -/
def interpreter? (content : Text.Bytes) : Option (String × List String) :=
  match content with
  | 0x23 :: 0x21 :: rest =>
    let isBlank (c : Char) : Bool := c = ' ' || c = '\t'
    let line := (Text.Octets.ofBytes (rest.takeWhile (· ≠ 10))).toList.dropWhile isBlank
    let trimmed := (line.reverse.dropWhile isBlank).reverse
    let path := trimmed.takeWhile fun c ↦ !isBlank c
    let word := (trimmed.drop path.length).dropWhile isBlank
    some (String.ofList path, if word.isEmpty then [] else [String.ofList word])
  | _ => none

/-- How much of a file tells what program it holds. -/
def headLength : Nat := 256

/-- The start of an executable file. -/
def readHead (path : String) : Act (Attempt Text.Bytes) := do
  match ← Act.ask (.look path true) with
  | .error cause => return .error cause
  | .ok look =>
    if look.kind ≠ .file || look.rights &&& rightsOf 1 1 1 = 0 then return .error .permission
    match ← Act.ask (.openFile path .toRead) with
    | .error cause => return .error cause
    | .ok fd =>
      let head ← Act.ask (.read fd headLength true)
      let _ ← Act.ask (.close fd)
      return head

/-- Starts the program in a file, given the programs that there are.  The bound is on how many
programs start one in place of another. -/
def launch (programs : String → Option Program) : Nat → Launch
  | 0, _, _ => return .tooManyLinks
  | n + 1, path, call => do
    match ← readHead path with
    | .error cause => return cause
    | .ok head =>
      match imageName? head, interpreter? head with
      | some name, _ =>
        match programs name with
        | some program =>
          Act.ask .renew
          let status ← program (launch programs n) call
          Act.leave status
        | none => return .badProgram
      | none, some (interpreter, before) =>
        if interpreter.isEmpty then return .badProgram
        launch programs n interpreter
          { call with words := interpreter :: before ++ path :: call.arguments }
      | none, none => return .badProgram

/-! ## Looking for programs -/

/-- The directories in which programs are looked for where no variable names them. -/
def usualPath : List String := ["/bin", "/usr/bin"]

/-- The directories in which programs are looked for. -/
def pathOf (call : Call) : List String :=
  ((call.value? "PATH").map (Text.split ':')).getD usualPath

/-- A name in a directory, the empty one being the current. -/
def pathIn (directory name : String) : String :=
  if directory.isEmpty then name else directory ++ "/" ++ name

/-- Starts the program in a file, which may be a script that names no program. -/
def launchFile (start : Launch) (path : String) (call : Call) : Act FileCause := do
  let cause ← start path call
  if cause = .badProgram then
    start "/bin/sh" { call with words := "/bin/sh" :: path :: call.arguments }
  else return cause

/-- Starts the program that a word names.  A permission that lacks somewhere along the way counts
for more than a file that lacks. -/
def launchNamed (start : Launch) (call : Call) : Act FileCause := do
  let word := call.name
  if word.isEmpty then return .notFound
  if word.toList.contains '/' then launchFile start word call
  else
    let tryNext (worst : FileCause) (directory : String) : Act FileCause := do
      match ← launchFile start (pathIn directory word) call with
      | .notFound | .notADirectory => return worst
      | cause => return cause
    (pathOf call).foldlM tryNext .notFound

end RevisionGraph.System

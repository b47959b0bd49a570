import RevisionGraph.Execution.Home
import RevisionGraph.Simulation.Shell.Commands
import RevisionGraph.Simulation.Shell.Redirection

/-!
# Running scripts

`run` runs a script, `expandWord` carries out the expansions of a word, and `runText` runs the lines
of a text one after another.  They call each other, with a bound on the depth of the calls; a shell
that goes deeper dies.

* **Processes.**  `fork` starts a copy of the shell for a part of the script; `conclude` is the end
  of a shell, with what is to run then.
* **Failures.**  A fault inside a command that is no part of the language only fails that command;
  any other ends the shell.
-/

set_option autoImplicit false

namespace RevisionGraph.Shell

open RevisionGraph.System
open ShellM

/-- How a command runs. -/
structure Course where
  /-- nothing of the shell follows, so that a program may take its place -/
  last : Bool := false
  /-- its failure is being asked for -/
  tested : Bool := false

/-- What a word is expanded for. -/
structure Purpose where
  /-- it becomes fields, which are split and stand for paths -/
  fields : Bool := false
  /-- a tilde stands for a home directory also behind colons -/
  colons : Bool := false
  /-- it stands behind a modifier of an expansion outside quotes -/
  inner : Bool := false

/-! ## Parameters -/

/-- The home directory that stands for a tilde and a name. -/
def homeOf (name : String) : ShellM (Option String) := do
  if name.isEmpty then valueOf? "HOME" else return Execution.usualAccounts.find? name

/-- The spans of a text outside quotes.  A home directory stands for a tilde at the start, and
perhaps behind colons; `closed` tells that nothing follows the text in its word.  The bound is on
the number of colons. -/
def textSpansFor (p : Purpose) (closed : Bool) : Nat → (atStart : Bool) → List Char →
    ShellM (List Span)
  | 0, _, _ => return []
  | n + 1, atStart, cs => do
    let splitting : Splitting := if p.inner then .atSeparators else .never
    let plain (cs : List Char) : Span := ⟨splitting, cs.map (.char · false)⟩
    let stops (c : Char) : Bool := c = '/' || (p.colons && c = ':')
    let (home, cs) ← match atStart, cs with
      | true, '~' :: rest => do
        let name := rest.takeWhile fun c ↦ !stops c
        if name.length = rest.length && !closed then pure (none, cs)
        else match ← homeOf (String.ofList name) with
          | some home => pure (some home, rest.drop name.length)
          | none => pure (none, cs)
      | _, cs => pure (none, cs)
    let front := home.toList.map Span.literal
    if !p.colons then return front ++ [plain cs]
    let part := cs.takeWhile (· != ':')
    match cs.drop part.length with
    | [] => return front ++ [plain part]
    | _ :: rest => return front ++ plain (part ++ [':']) :: (← textSpansFor p closed n true rest)

/-- The spans of a text in which parameters are replaced. -/
def textSpans (p : Purpose) (closed atStart : Bool) (s : String) : ShellM (List Span) :=
  textSpansFor p closed (s.length + 2) atStart s.toList

/-- The cells of all arguments together. -/
def argumentCells (p : Purpose) (name : String) (quoted : Bool) : ShellM (List Cell) := do
  let s ← get
  let separators ← valueOf? "IFS"
  let usual : Cell := .char ' ' quoted
  let between : List Cell :=
    if p.fields && (!quoted || name = "@") then [if quoted || separators.isSome then .gap else usual]
    else match separators with
      | none => [usual]
      | some chars => (chars.toList.take 1).map (.char · quoted)
  return between.intercalate (s.arguments.map (Cell.ofText quoted))

/-- The cells of a parameter that is set. -/
def parameterCells? (p : Purpose) (name : String) (quoted : Bool) :
    ShellM (Option (List Cell)) := do
  let s ← get
  let give (text : String) : Option (List Cell) := some (Cell.ofText quoted text)
  match name with
  | "$" => return give (toString s.number)
  | "?" => return give (toString s.status)
  | "#" => return give (toString s.arguments.length)
  | "@" | "*" => return some (← argumentCells p name quoted)
  | "-" => return give (Switch.shown s.switches)
  | "!" => return s.lastBackground.bind fun n ↦ give (toString n)
  | _ =>
    if name.toList.all Char.isDigit then
      let n := Nat.ofDigitChars 10 name.toList 0
      return (if n = 0 then some s.name else s.arguments[n - 1]?).bind give
    else return (← valueOf? name).bind give

/-- The text of the output of a substituted command: line feeds at its end are no part of it, and
zero bytes are left out. -/
def substitution (bytes : Text.Bytes) : String :=
  Text.Octets.ofBytes ((bytes.filter (· != 0)).reverse.dropWhile (· == 10)).reverse

/-- Reads all that comes from a descriptor. -/
def readAll (fd : Nat) : ShellM Text.Bytes := do
  let parts ← iterate ([] : List Text.Bytes) fun parts ↦ do
    match ← ask (.read fd 65536 true) with
    | .ok [] | .error _ => return (parts, false)
    | .ok bytes => return (bytes :: parts, true)
  return parts.reverse.flatten

/-! ## Paths -/

/-- The paths that segments stand for, each behind what leads to them.  The bound is on the number
of segments. -/
def pathsFrom : Nat → String → List Field → ShellM (List String)
  | 0, _, _ => return []
  | n + 1, before, segments => do
    let plain := segments.takeWhile fun f ↦ !f.isPattern
    match segments.drop plain.length with
    | [] =>
      let path := before ++ "/".intercalate (plain.map Field.text)
      match ← ask (.look path false) with
      | .ok _ => return [path]
      | .error _ => return []
    | segment :: rest =>
      let directory := before ++ String.join (plain.map fun f ↦ f.text ++ "/")
      match ← ask (.list (if directory.isEmpty then "." else directory)) with
      | .error _ => return []
      | .ok names =>
        let pattern := Pattern.ofChars segment.chars
        let dotted := (segment.chars.head?.map Prod.fst) == some '.'
        let fitting := (if dotted then ["."] ++ [".."] ++ names else names).filter fun name ↦
          (dotted || name.toList.head? != some '.') && pattern.matchesText name
        if rest.isEmpty then return fitting.map (directory ++ ·)
        else
          let below ← fitting.mapM fun name ↦ pathsFrom n (directory ++ name ++ "/") rest
          return below.flatten

/-- The texts that a field stands for: the paths that match it, or else itself. -/
def pathsOf (f : Field) : ShellM (List String) := do
  if !f.isPattern || (← isOn 'f') then return [f.text]
  let segments := f.segments
  let found ← pathsFrom (segments.length + 1) "" segments
  return if found.isEmpty then [f.text] else sortedTexts found

/-! ## Jobs -/

/-- Notes how a process ended. -/
def noteEnding (number : Nat) (e : Ending) : ShellM Unit := modify fun s ↦
  { s with jobs := s.jobs.map fun j ↦
      { j with processes := j.processes.map fun p ↦ if p.1 = number then (number, some e) else p } }

/-- Says how a process ended if a signal did that. -/
def tellEnding (e : Ending) : ShellM Unit :=
  match e with
  | .killed signal =>
    let words := Signal.lastWords signal
    if words.isEmpty || signal = 2 || signal = 13 then return else complain words
  | .exited _ => return

/-- Waits until processes have ended, and tells of those that signals ended. -/
def waitForAll (numbers : List Nat) : ShellM Nat := do
  let found ← iterate ([] : List (Nat × Ending)) fun found ↦ do
    if numbers.all fun n ↦ found.any (·.1 == n) then return (found, false)
    match ← ask (.await true true) with
    | .ok (some (number, e)) =>
      if numbers.contains number then
        tellEnding e
        return ((number, e) :: found, true)
      else
        noteEnding number e
        return (found, true)
    | _ => return (found, false)
  let last := numbers.getLast?.bind fun n ↦ found.find? (·.1 == n)
  return (last.map fun e ↦ Job.statusOf e.2).getD 0

/-- Takes note of processes that have ended. -/
def checkJobs : ShellM Unit :=
  whileTrue do
    match ← ask (.await false true) with
    | .ok (some (number, e)) =>
      noteEnding number e
      return true
    | _ => return false

/-- Forgets the first job that has ended and that a command has waited for. -/
def makeRoom : ShellM Unit := modify fun s ↦
  match ((s.jobs.filter fun j ↦ j.isDone && j.awaited).map Job.index).min? with
  | some index => { s with jobs := s.jobs.filter (·.index != index) }
  | none => s

/-- Remembers processes in the background. -/
def addJob (numbers : List Nat) : ShellM Unit := do
  let s ← get
  let free := ((List.range (s.jobs.length + 1)).map (· + 1)).find? fun i ↦
    !s.jobs.any (·.index == i)
  set { s with
    jobs := { index := free.getD 1, processes := numbers.map (·, none) } :: s.jobs
    lastBackground := numbers.getLast? }

/-- The job that a word with a percent sign names. -/
def jobOf (word : String) : ShellM Job := do
  let jobs := (← get).jobs
  let found := match word.toList.drop 1 with
    | [] | ['%'] | ['+'] => jobs.head?
    | ['-'] => jobs[1]?
    | digits => if digits.all Char.isDigit then
        jobs.find? (·.index == Nat.ofDigitChars 10 digits 0) else none
  match found with
  | some j => return j
  | none => abort s!"No such job: {word}"

/-- Shows the processes in the background. -/
def showJobs : Builtin := fun arguments ↦ do
  let (letters, words) ← takeLetters ['l', 'p'] arguments
  checkJobs
  let chosen ← if words.isEmpty then pure (← get).jobs else words.mapM jobOf
  chosen.forM fun j ↦ do
    let jobs := (← get).jobs
    let first := (j.processes.head?.map Prod.fst).getD 0
    if letters.contains 'p' then print s!"{first}\n"
    else
      let sign := if (jobs.head?.map Job.index) = some j.index then "+"
        else if (jobs[1]?.map Job.index) = some j.index then "-" else " "
      let state := if !j.isDone then "Running" else match j.processes.getLast?.bind Prod.snd with
        | some (.exited 0) => "Done"
        | some (.exited status) => s!"Done({status})"
        | some (.killed signal) => Signal.lastWords signal
        | none => "Running"
      let number := if letters.contains 'l' then s!"{first} " else ""
      let line := s!"[{j.index}] {sign} {number}{state}"
      print (line ++ "".pushn ' ' (33 - line.length) ++ "\n")
    if j.isDone then modify fun s ↦ { s with jobs := s.jobs.filter (·.index != j.index) }
  return 0

/-- Why a job cannot be brought to the front or sent behind. -/
def resume : Builtin := fun arguments ↦ do
  let j ← jobOf (arguments.headD "%%")
  abort s!"job %{j.index} not created under job control"

/-! ## Signals -/

/-- How a signal is sent. -/
def usage : String :=
  "Usage: kill [-s sigspec | -signum | -sigspec] [pid | job]... or\nkill -l [exitstatus]"

/-- Shows the name of the signal that a number or a status means, or of all signals. -/
def showSignals : List String → ShellM Nat
  | [] => do
    let names := (List.range Signal.greatest).map fun i ↦ Signal.nameOf (i + 1)
    print (String.join (("0" :: names).map (· ++ "\n")))
    return 0
  | word :: _ => do
    let n ← numberOf word
    let signal := if 128 < n then n - 128 else n
    if signal = 0 || Signal.greatest < signal then
      abort s!"invalid signal number or exit status: {word}"
    print (Signal.nameOf signal ++ "\n")
    return 0

/-- Sends signals. -/
def kill : Builtin := fun arguments ↦ do
  let (signal, list, targets) : Option Nat × Bool × List String ← match arguments with
    | [] => abort usage
    | first :: rest =>
      match first.toList with
      | '-' :: letters =>
        match signalOf? (String.ofList letters) with
        | some signal => pure (some signal, false, rest)
        | none => do
          let (options, operands) ← takeOptions ['l'] ['s'] arguments
          let named ← options.filterMapM fun o ↦ do
            if o.1 != 's' then return none
            match signalOf? o.2 with
            | some signal => return some signal
            | none => abort s!"invalid signal number or name: {o.2}"
          pure (named.getLast?, options.any (·.1 == 'l'), operands)
      | _ => pure (none, false, arguments)
  if list && signal.isNone then showSignals targets
  else if list || targets.isEmpty then abort usage
  else
    let one (status : Nat) (target : String) : ShellM Nat := do
      let number : Int ← match target.toList with
        | '%' :: _ => do pure (-(((← jobOf target).processes.head?.map Prod.fst).getD 0 : Int))
        | '-' :: digits => do pure (-(← numberOf (String.ofList digits) : Int))
        | _ => do pure (← numberOf target : Int)
      match ← ask (.signal number (signal.getD 15)) with
      | .ok () => return status
      | .error cause =>
        warn (cause.errno.2 ++ "\n")
        return 1
    targets.foldlM one 0

/-- Takes the signals that have arrived. -/
def takeSignals : ShellM Unit := do
  if (← get).traps.any (·.1 != 0) then
    let arrived : List Nat ← ask .arrived
    modify fun s ↦ { s with pending := s.pending ++ arrived }

/-- Waits for processes in the background. -/
def wait : Builtin := fun arguments ↦ do
  let (_, targets) ← takeLetters [] arguments
  let interrupted : ShellM Nat := do
    takeSignals
    return 128 + ((← get).pending.getLast?).getD 0
  -- waits for the next end; the answer is a status if something else happened
  let next (tells : Nat → Bool) : ShellM (Option Nat) := do
    match ← ask (.await true false) with
    | .ok (some (number, e)) =>
      if tells number then tellEnding e
      noteEnding number e
      return none
    | .error .interrupted => return some (← interrupted)
    | _ => return some 0
  let untilDone (isOpen : ShellM Bool) (tells : Nat → Bool) : ShellM (Option Nat) :=
    iterate (none : Option Nat) fun found ↦ do
      if !(← isOpen) then return (found, false)
      match ← next tells with
      | none => return (none, true)
      | some status => return (some status, false)
  match targets with
  | [] =>
    let found ← untilDone (do
      modify fun s ↦
        let (done, others) := s.jobs.span Job.isDone
        { s with jobs := done.map ({ · with awaited := true }) ++ others }
      return !(← get).jobs.all Job.isDone) fun _ ↦ false
    return found.getD 0
  | targets =>
    let one (status : Nat × Bool) (target : String) : ShellM (Nat × Bool) := do
      if status.2 then return status
      let job? ← if target.startsWith "%" then do pure (some (← jobOf target)) else do
        let number ← numberOf target
        pure ((← get).jobs.find? fun j ↦ (j.processes.getLast?.map Prod.fst) == some number)
      match job? with
      | none => return (127, false)
      | some job =>
        let current : ShellM Job := do
          return ((← get).jobs.find? (·.index == job.index)).getD job
        let found ← untilDone (do return !(← current).isDone) fun number ↦
          job.processes.any (·.1 == number)
        match found with
        | some status => return (status, true)
        | none =>
          modify fun s ↦ { s with jobs := s.jobs.map fun j ↦
            if j.index = job.index then { j with awaited := true } else j }
          return ((← current).status, false)
    return (← targets.foldlM one (127, false)).1

/-- The commands of the shell that run nothing. -/
def builtins : List (String × Builtin) := [
  ("[", testWith (inBrackets .shell)), ("alias", makeAliases), ("bg", resume),
  ("cd", changeDirectory), ("chdir", changeDirectory), ("echo", echo), ("false", fun _ ↦ return 1),
  ("fg", resume), ("getopts", getopts), ("hash", findBeforehand), ("jobs", showJobs),
  ("kill", kill), ("printf", printf), ("pwd", showDirectory), ("read", readIntoVariables),
  ("test", testWith (test .shell)), ("true", fun _ ↦ return 0), ("type", showFindings),
  ("ulimit", showLimits), ("umask", changeMask), ("unalias", removeAliases), ("wait", wait),
  (":", fun _ ↦ return 0), ("export", mark "export" Variable.exported fun v ↦ { v with exported := true }),
  ("readonly", mark "readonly" Variable.constant fun v ↦ { v with constant := true }),
  ("local", makeLocal), ("set", setSwitches), ("shift", shift), ("times", showTimes),
  ("trap", setTraps), ("unset", unset)]

/-! ## Loops -/

/-- Microseconds that a round of a loop takes, or the call of a function. -/
def roundPace : Nat := 4

/-- Runs a round of a loop; the answer says whether another may follow. -/
def round (body : ShellM Unit) : ShellM Bool := do
  ask (.work roundPace)
  match ← outcome body with
  | .ok () => return true
  | .error (.nextRound (k + 2)) => throw (.nextRound (k + 1))
  | .error (.nextRound _) => return true
  | .error (.stopLoop (k + 2)) => throw (.stopLoop (k + 1))
  | .error (.stopLoop _) => return false
  | .error b => throw b

/-- Runs the rounds of a loop. -/
def inLoop (rounds : ShellM Unit) : ShellM Unit := do
  modify fun s ↦ { s with loops := s.loops + 1 }
  andAfter rounds (modify fun s ↦ { s with loops := s.loops - 1 })

/-- Ends the script behind a failure that nothing asked for, if a switch says so. -/
def checkFailure (course : Course) : ShellM Unit := do
  let s ← get
  if s.status != 0 && s.switches.contains 'e' && !course.tested then throw .finish

/-- A signal ends a shell that goes too deep. -/
def sink {α : Type} : ShellM α := act (Act.die 11)

/-- What is known of a command when its first words are expanded. -/
structure Head where
  fields : List String
  rest : List Word
  /-- functions count -/
  functions : Bool := true
  /-- programs are looked for in the usual directories -/
  usual : Bool := false
  /-- the first command of the shell among the words belongs to the language; nothing if there is
  none -/
  special : Option Bool := none

/-- Commands of the shell whose arguments may be assignments. -/
def assigning : List String := ["export", "readonly", "local"]

/-- The directories in which programs are looked for by the command `command`. -/
def commandPath : List String :=
  ["/usr/local/sbin", "/usr/local/bin", "/usr/sbin", "/usr/bin", "/sbin", "/bin"]

/-- The status of a shell that cannot start a program. -/
def startStatus (cause : FileCause) : Nat :=
  if [FileCause.notFound, .notADirectory, .tooManyLinks, .nameTooLong].contains cause then 127 else 126

/-- Lets a program take the place of the shell, or ends the shell. -/
def becomeProgram (path : List String) (fields : List String) : ShellM Unit := do
  let word := fields.headD ""
  let call : Call := ⟨fields, ← environment⟩
  let start := launchFile (← get).launch
  let cause ← if word.toList.contains '/' then act (start word call) else do
    let tryNext (worst : FileCause) (directory : String) : ShellM FileCause := do
      match ← act (start (pathIn directory word) call) with
      | .notFound | .notADirectory => return worst
      | cause => return cause
    path.foldlM tryNext .notFound
  warn s!"{word}: {programReason cause}"
  setStatus (startStatus cause)
  throw .finish

/-- The value of an expression over the variables. -/
def evaluate (source : String) : ShellM Int64 := do
  let s ← get
  let value? (name : String) : Option String := (s.held.find? name).bind Variable.value
  let (result, assigned) := Arithmetic.evaluate value? source
  assigned.forM fun a ↦ setVariable a.1 (toString a.2.toInt)
  match result with
  | .ok v => return v
  | .error fault => abort (fault.message source)

/-- Makes redirections for good; one that fails ends the shell. -/
def redirectHere (aims : List (Nat × Aim)) : ShellM Unit :=
  aims.forM fun r ↦ do
    let _ ← redirect false [] r.1 r.2

/-- Lets the input be empty. -/
def fromNothing : ShellM Unit := do
  match ← ask (.openFile "/dev/null" .toRead) with
  | .ok fd => moveTo fd 0
  | .error _ => return

/-- Shows the text between two places of a source, if a switch asks for it. -/
def showLines (source after : Source) : ShellM Unit := do
  if ← isOn 'v' then
    let text := source.rest.take (source.rest.length - after.rest.length)
    let _ ← emit 2 (String.ofList text)

mutual

/-- The spans of a word. -/
def expandWord : Nat → Purpose → Word → ShellM (List Span)
  | 0, _, _ => sink
  | n + 1, p, word => do
    let spans ← (word.zipIdx).mapM fun (part, i) ↦ do
      match part with
      | .text s true => return [if s.isEmpty then ⟨.never, [.mark]⟩ else Span.literal s]
      | .text s false => textSpans p (i + 1 == word.length) (i == 0) s
      | .command body quoted =>
        let text ← substitute n body
        return [⟨if quoted then .never else .atSeparators, Cell.ofText quoted text⟩]
      | .arithmetic expression quoted =>
        let source := Span.textOf (← expandWord n {} expression)
        let text := toString (← evaluate source).toInt
        return [⟨if quoted then .never else .atSeparators, Cell.ofText quoted text⟩]
      | .parameter name modifier alsoEmpty word quoted =>
        expandParameter n p name modifier alsoEmpty word quoted
    return spans.flatten

/-- The text of a word. -/
def expandText : Nat → Purpose → Word → ShellM String
  | 0, _, _ => sink
  | n + 1, p, word => do return Span.textOf (← expandWord n p word)

/-- The spans of a parameter. -/
def expandParameter : Nat → Purpose → String → Modifier → Bool → Word → Bool → ShellM (List Span)
  | 0, _, _, _, _, _, _ => sink
  | n + 1, p, name, modifier, alsoEmpty, word, quoted => do
    if modifier = .bad then abort "Bad substitution"
    let value ← parameterCells? p name quoted
    let lacks := match value with
      | none => true
      | some cells => alsoEmpty && cells.isEmpty
    let several := name = "@" && !(← get).arguments.isEmpty
    let splitting : Splitting :=
      if !quoted then .atSeparators else if several then .atGaps else .never
    let give (cells : List Cell) : ShellM (List Span) := return [⟨splitting, cells⟩]
    let giveText (s : String) : ShellM (List Span) := give (Cell.ofText quoted s)
    let inner : ShellM (List Span) := expandWord n { p with inner := !quoted } word
    let missing : ShellM Unit := do
      if value.isNone && (← isOn 'u') then abort s!"{name}: parameter not set"
    match modifier with
    | .use => if lacks then inner else give (value.getD [])
    | .replace => if lacks then return [] else inner
    | .assign =>
      if !lacks then give (value.getD [])
      else
        let text ← expandText n { colons := p.colons } word
        checkName name
        setVariable name text
        giveText text
    | .demand =>
      if !lacks then give (value.getD [])
      else if word.isEmpty then
        let more := if alsoEmpty then " or null" else ""
        abort s!"{name}: parameter not set{more}"
      else abort s!"{name}: {← expandText n {} word}"
    | .length =>
      missing
      giveText (toString (value.getD []).length)
    | .cutStart longest =>
      missing
      let pattern := Span.patternOf (← expandWord n {} word)
      giveText (pattern.cutStart longest (Field.text (value.getD [])))
    | .cutEnd longest =>
      missing
      let pattern := Span.patternOf (← expandWord n {} word)
      giveText (pattern.cutEnd longest (Field.text (value.getD [])))
    | _ =>
      missing
      give (value.getD [])

/-- The fields of a word, with the paths that they stand for. -/
def expandFields : Nat → Word → ShellM (List String)
  | 0, _ => sink
  | n + 1, word => do
    let spans ← expandWord n { fields := true } word
    let fields := fieldsOf (← separators) none spans
    return (← fields.mapM pathsOf).flatten

/-- The output of a command. -/
def substitute : Nat → Script → ShellM String
  | 0, _ => sink
  | n + 1, body => do
    if body matches .nothing then return ""
    let (reader, writer) ← ask .pipe
    makeRoom
    let child ← fork n false do
      let _ ← ask (.close reader)
      moveTo writer 1
      run n { last := true } body
    let _ ← ask (.close writer)
    let bytes ← readAll reader
    let _ ← ask (.close reader)
    let status ← waitForAll [child]
    modify fun s ↦ { s with substituted := status }
    return substitution bytes

/-- Starts a copy of the shell, which ends behind a step. -/
def fork : Nat → (background : Bool) → ShellM Unit → ShellM Nat
  | 0, _, _ => sink
  | n + 1, background, body => do
    let s ← get
    let start : ShellM Unit := do
      let (ignoring, acting) := s.traps.partition (·.2.isEmpty)
      acting.forM fun t ↦ if t.1 = 0 then return else ask (.dispose t.1 .usual)
      set { s with traps := ignoring, jobs := [], pending := [] }
      if background then
        ask (.dispose 2 .ignored)
        ask (.dispose 3 .ignored)
      body
    let child : Act Nat := do
      match ← ((conclude n start).run).run s with
      | (.ok status, _) => return status
      | (.error _, s) => return s.status
    act (Act.fork child)

/-- Runs a step to the end of the shell, with what is to run then; gives the status of the shell. -/
def conclude : Nat → ShellM Unit → ShellM Nat
  | 0, _ => sink
  | n + 1, body => do
    let result ← outcome body
    let s ← get
    let status := match result with
      | .error .exit => s.kept.getD s.status
      | _ => s.status
    match s.traps.find? (·.1 == 0) with
    | none => return status
    | some (_, action) =>
      set { s with
        traps := s.traps.filter (·.1 != 0), status, kept := some status, loops := 0
        command := none }
      match ← outcome (runText n {} false action) with
      | .error .fault => return (← get).status
      | _ => return ((← get).kept.getD status) % 256

/-- Runs what is set for the signals that have arrived. -/
def runTraps : Nat → ShellM Unit
  | 0 => sink
  | n + 1 => do
    takeSignals
    let s ← get
    if s.pending.isEmpty then return
    set { s with pending := [], kept := some (s.kept.getD s.status) }
    let sorted := s.pending.mergeSort (· ≤ ·)
    let status := s.kept.getD s.status
    sorted.forM fun signal ↦ do
      match (← get).traps.find? (·.1 == signal) with
      | some (_, action) =>
        runText n {} false action
        setStatus status
      | none => return
    modify fun t ↦ { t with kept := s.kept }

/-- Runs the lines of a text; the line at its end runs on the given course.  With `shown` a switch
may ask for the lines to be shown. -/
def runText : Nat → Course → (shown : Bool) → String → ShellM Unit
  | 0, _, _, _ => sink
  | n + 1, course, shown, text => do
    let _ ← iterate ({ rest := text.toList } : Source) fun source ↦ do
      let source := { source with aliases := (← get).aliases }
      let (line, after) := source.readLine
      if shown then showLines source after
      return (after, ← runLine n course line after)
    return

/-- Runs a line that was read; the answer says whether another may follow. -/
def runLine : Nat → Course → NextLine → Source → ShellM Bool
  | 0, _, _, _ => sink
  | n + 1, course, line, after => do
    match line with
    | .finished => return false
    | .refused why =>
      modify fun s ↦ { s with line := after.line }
      abort ("Syntax error: " ++ why)
    | .script script =>
      run n { course with last := course.last && after.isFinished } script
      return true

/-- Runs a script. -/
def run : Nat → Course → Script → ShellM Unit
  | 0, _, _ => sink
  | n + 1, course, script => do
    if ← isOn 'n' then return
    match script with
    | .nothing => return
    | _ => pure ()
    runTraps n
    let part : Course := { tested := course.tested }
    let test : Course := { tested := true }
    match script with
    | .nothing => return
    | .simple line assignments words redirects =>
      runSimple n course line assignments words redirects
      checkFailure course
    | .sequence first second =>
      run n part first
      run n course second
    | .andThen first second =>
      run n test first
      if (← get).status = 0 then run n course second
    | .orElse first second =>
      run n test first
      if (← get).status ≠ 0 then run n course second
    | .negation body =>
      run n test body
      modify fun s ↦ { s with status := if s.status = 0 then 1 else 0 }
    | .pipeline commands =>
      makeRoom
      let numbers ← startPipeline n course false commands none
      setStatus (← waitForAll numbers)
      checkFailure course
    | .background body =>
      match body with
      | .pipeline commands =>
        makeRoom
        let numbers ← startPipeline n {} true commands none
        addJob numbers
      | body =>
        let (line, body, redirects) := match body with
          | .redirected line body redirects => (line, body, redirects)
          | body => ((0 : Nat), body, [])
        if line != 0 then modify fun s ↦ { s with line }
        let aims ← redirects.mapM (aimOf n)
        makeRoom
        let number ← fork n true do
          fromNothing
          redirectHere aims
          run n { last := true } body
        addJob [number]
      setStatus 0
    | .conditional condition yes no =>
      run n test condition
      if (← get).status = 0 then run n course yes
      else
        setStatus 0
        run n course no
    | .loop whileTrue condition body =>
      inLoop (runLoop n part whileTrue condition body)
    | .each line name words body =>
      modify fun s ↦ { s with line }
      let fields ← match words with
        | some words => do pure (← words.mapM (expandFields n)).flatten
        | none => do pure (← get).arguments
      setStatus 0
      inLoop (runEach n part name body fields)
    | .choice line subject branches =>
      modify fun s ↦ { s with line }
      let text ← expandText n {} subject
      runBranches n course text branches
    | .subshell line body redirects =>
      modify fun s ↦ { s with line }
      let aims ← redirects.mapM (aimOf n)
      let inside (course : Course) : ShellM Unit := do
        redirectHere aims
        run n course body
      if course.last && !(← get).traps.any (!·.2.isEmpty) then
        inside { course with last := true }
      else
        makeRoom
        let number ← fork n false (inside { course with last := true })
        setStatus (← waitForAll [number])
      checkFailure course
    | .function name body =>
      modify fun s ↦ { s with
        functions := (name, body) :: s.functions.filter (·.1 != name), status := 0 }
    | .redirected line body redirects =>
      modify fun s ↦ { s with line }
      let aims ← redirects.mapM (aimOf n)
      let (aside, done) ← redirectAll true aims
      andAfter
        (if done then run n part body else do
          setStatus 2
          checkFailure course)
        (restore false aside)
    runTraps n

/-- What a redirection aims at. -/
def aimOf : Nat → Redirect → ShellM (Nat × Aim)
  | 0, _ => sink
  | n + 1, .mk fd kind target => do
    match kind with
    | .document => return (fd, .document (← expandText n {} target))
    | .copy =>
      let text ← expandText n {} target
      match text.toList with
      | ['-'] => return (fd, .descriptor none)
      | [d] =>
        if d.isDigit then return (fd, .descriptor (some (d.toNat - 48)))
        else abort "Syntax error: Bad fd number"
      | _ => abort "Syntax error: Bad fd number"
    | kind => return (fd, .file kind (← expandText n {} target))

/-- Starts the commands of a pipeline, each of which reads what the one before it writes; `input` is
where the first reads from, if not from where the shell does. -/
def startPipeline : Nat → Course → (background : Bool) → List Script → Option Nat →
    ShellM (List Nat)
  | 0, _, _, _, _ => sink
  | _ + 1, _, _, [], _ => return []
  | n + 1, course, background, command :: more, input => do
    let pipe? : Option (Nat × Nat) ← if more.isEmpty then pure none else do
      let ends ← ask .pipe
      pure (some ends)
    let number ← fork n background do
      if background && input.isNone then fromNothing
      if let some (reader, _) := pipe? then
        let _ ← ask (.close reader)
      if let some source := input then moveTo source 0
      if let some (_, writer) := pipe? then moveTo writer 1
      run n { course with last := true } command
    if let some source := input then
      let _ ← ask (.close source)
    if let some (_, writer) := pipe? then
      let _ ← ask (.close writer)
    let others ← startPipeline n course background more (pipe?.map Prod.fst)
    return number :: others

/-- Runs a script as long as a condition holds, or as long as it does not. -/
def runLoop : Nat → Course → Bool → Script → Script → ShellM Unit
  | 0, _, _, _, _ => sink
  | n + 1, course, whileTrue, condition, body => do
    let status ← iterate 0 fun status ↦ do
      let step : ShellM Unit := do
        run n { tested := true } condition
        if decide ((← get).status = 0) != whileTrue then throw (.stopLoop 0)
      match ← outcome step with
      | .error (.stopLoop 0) => return (status, false)
      | .error b =>
        if ← round (throw b) then return (status, true) else return (status, false)
      | .ok () =>
        let goesOn ← round (run n course body)
        return ((← get).status, goesOn)
    setStatus status

/-- Runs a script once for each value of a variable. -/
def runEach : Nat → Course → String → Script → List String → ShellM Unit
  | 0, _, _, _, _ => sink
  | n + 1, course, name, body, fields => do
    let _ ← iterate fields fun fields ↦ do
      match fields with
      | [] => return ([], false)
      | field :: rest =>
        setVariable name field
        return (rest, ← round (run n course body))
    return

/-- Runs the first branch with a pattern that matches. -/
def runBranches : Nat → Course → String → List (List Word × Script) → ShellM Unit
  | 0, _, _, _ => sink
  | _ + 1, _, _, [] => setStatus 0
  | n + 1, course, text, (patterns, body) :: more => do
    let fits ← patterns.anyM fun word ↦ do
      return (Span.patternOf (← expandWord n {} word)).matchesText text
    if !fits then runBranches n course text more
    else
      -- the body sees the status from before
      if body matches .nothing then setStatus 0
      run n course body

/-- Expands words up to the first that gives a field. -/
def expandHead : Nat → List Word → ShellM (List String × List Word)
  | 0, _ => sink
  | _ + 1, [] => return ([], [])
  | n + 1, word :: rest => do
    match ← expandFields n word with
    | [] => expandHead n rest
    | fields => return (fields, rest)

/-- Takes the word `command` and its options off, unless these ask for something else. -/
def skipCommand : Nat → Head → List String → Bool → ShellM Head
  | 0, _, _, _ => sink
  | n + 1, h, seen, usual => do
    let (fields, rest) ← if h.fields.isEmpty then expandHead n h.rest else pure (h.fields, h.rest)
    let keep : Head := { h with fields := seen ++ fields, rest }
    match fields with
    | [] => return keep
    | word :: more =>
      let found (fields : List String) (rest : List Word) : Head :=
        { h with fields, rest, usual, functions := false }
      match word.toList with
      | ['-', '-'] =>
        let (fields, rest) ← if more.isEmpty then expandHead n rest else pure (more, rest)
        return if fields.isEmpty then keep else found fields rest
      | '-' :: c :: letters =>
        if (c :: letters).all (· == 'p') then
          skipCommand n { h with fields := more, rest } (seen ++ [word]) true
        else return keep
      | _ => return found fields rest

/-- Expands the first words of a command. -/
def headOf : Nat → Head → ShellM Head
  | 0, _ => sink
  | n + 1, h => do
    match h.fields with
    | [] => return h
    | word :: more =>
      let isFunction := h.functions && (← get).functions.any (·.1 == word)
      let special := Reader.specialCommands.contains word
      if !special && (isFunction || !regularCommands.contains word) then return h
      let h := { h with special := some (h.special.getD special) }
      if word ≠ "command" then return h
      let next ← skipCommand n { h with fields := more } [word] false
      if next.functions then return next else headOf n next

/-- The fields of the words behind the first ones of a command. -/
def expandRest : Nat → (assigns : Bool) → List Word → ShellM (List String)
  | 0, _, _ => sink
  | n + 1, assigns, words => do
    let fields ← words.mapM fun word ↦ do
      match if assigns then Word.assignment? word else none with
      | some (name, value) => return [name ++ "=" ++ (← expandText n { colons := true } value)]
      | none => expandFields n word
    return fields.flatten

/-- Shows a command before it runs. -/
def trace : Nat → Nat → List String → ShellM Unit
  | 0, _, _ => sink
  | n + 1, fd, words => do
    let s ← get
    if !s.switches.contains 'x' || s.tracing then return
    set { s with tracing := true }
    let source : Source := { rest := ((← valueOf? "PS4").getD "").toList }
    let reader : ReaderM Word := Reader.readQuoted (Reader.depth source) (.document ⟨['\n'], false, false⟩) []
    let before ← match reader.run source with
      | (.ok w, _) => expandText n {} w.reverse
      | (.error _, _) => pure ""
    modify fun s ↦ { s with tracing := false, status := s.status }
    let _ ← emit fd (before ++ " ".intercalate words ++ "\n")

/-- Runs a simple command. -/
def runSimple : Nat → Course → Nat → List (String × Word) → List Word → List Redirect → ShellM Unit
  | 0, _, _, _, _, _ => sink
  | n + 1, course, line, assignments, words, redirects => do
    modify fun s ↦ { s with line, substituted := 0 }
    let (first, rest) ← expandHead n words
    let head ← headOf n { fields := first, rest }
    let command := head.fields.headD ""
    let isShell := head.special.isSome
    let fields := head.fields ++ (← expandRest n (isShell && assigning.contains command) head.rest)
    let isSpecial := head.special == some true
    let local' := !fields.isEmpty && !isSpecial
    let inside : ShellM Unit := do
      let aims ← redirects.mapM (aimOf n)
      let (aside, done) ← redirectAll true aims
      let isExec := isShell && command = "exec"
      let body : ShellM Unit := do
        if !done then
          setStatus 2
          if isSpecial then throw .fault
        else
          let values ← assignments.mapM fun (name, value) ↦ do
            let text ← expandText n { colons := true } value
            if local' then hideVariable name
            setVariable name text
            if local' || (isExec && 1 < fields.length) then exportVariable name
            return name ++ "=" ++ text
          let traceTo := ((aside.find? (·.1 == 2)).bind Prod.snd).getD 2
          trace n traceTo (values ++ fields)
          if fields.isEmpty then setStatus (← get).substituted
          else runFields n course { head with fields }
      andAfter body do
        if !redirects.isEmpty then restore isExec aside
    if local' && !assignments.isEmpty then withLocals inside else inside

/-- Runs a command of words: a command of the shell, a function or a program. -/
def runFields : Nat → Course → Head → ShellM Unit
  | 0, _, _ => sink
  | n + 1, course, h => do
    let word := h.fields.headD ""
    let arguments := h.fields.drop 1
    if Reader.specialCommands.contains word then
      runBuiltin n course word arguments (h.special == some true)
    else
      let functions := (← get).functions
      match if h.functions then functions.find? (·.1 == word) else none with
      | some (_, body) => runFunction n course body arguments
      | none =>
        if regularCommands.contains word then
          runBuiltin n course word arguments (h.special == some true)
        else runProgram n course h

/-- Runs a command of the shell.  A fault in one that is no part of the language only fails it. -/
def runBuiltin : Nat → Course → String → List String → (special : Bool) → ShellM Unit
  | 0, _, _, _, _ => sink
  | n + 1, course, word, arguments, special => do
    modify fun s ↦ { s with unprinted := false }
    let body : ShellM Unit := do
      let status ← match (builtins.find? (·.1 == word)).map Prod.snd with
        | some builtin => builtin arguments
        | none => runLanguage n course word arguments
      let failed := (← get).unprinted
      if failed then warn s!"{word}: I/O error"
      modify fun s ↦ { s with status := if failed then status ||| 1 else status, unprinted := false }
    match ← outcome (speakingAs (some word) body) with
    | .ok () => return
    | .error .fault => if special then throw .fault
    | .error b => throw b

/-- Runs a command that belongs to the language, or one that runs others, and gives its status. -/
def runLanguage : Nat → Course → String → List String → ShellM Nat
  | 0, _, _, _ => sink
  | n + 1, course, word, arguments => do
    let levels : ShellM Nat := do
      match arguments with
      | [] => return min 1 (← get).loops
      | count :: _ =>
        let k ← numberOf count
        if k = 0 then abort s!"Illegal number: {count}"
        return min k (← get).loops
    match word with
    | "exit" =>
      if let code :: _ := arguments then
        let status ← numberOf code
        modify fun s ↦ { s with kept := some (status % 256) }
      throw .exit
    | "return" =>
      if let code :: _ := arguments then setStatus (← numberOf code)
      throw .returned
    | "break" =>
      let k ← levels
      setStatus 0
      if 0 < k then throw (.stopLoop k)
      return 0
    | "continue" =>
      let k ← levels
      setStatus 0
      if 0 < k then throw (.nextRound k)
      return 0
    | "eval" =>
      if arguments.isEmpty then return 0
      setStatus 0
      runText n { tested := course.tested } false (" ".intercalate arguments)
      return (← get).status
    | "exec" =>
      if arguments.isEmpty then return 0
      becomeProgram (← searchPath) arguments
      return 0
    | "." => do
      match (← takeLetters [] arguments).2 with
      | [] => return 0
      | file :: _ =>
        let isFile (path : String) : ShellM Bool := do
          match ← ask (.look path true) with
          | .ok look => return look.kind == .file
          | .error _ => return false
        let path ← if file.toList.contains '/' then pure file else do
          match ← (← searchPath).findM? fun d ↦ isFile (pathIn d file) with
          | some d => pure (pathIn d file)
          | none => abort s!"{file}: not found"
        match ← ask (.openFile path .toRead) with
        | .error cause => abort s!"cannot open {path}: {openReason false cause}"
        | .ok fd =>
          let bytes ← readAll fd
          let _ ← ask (.close fd)
          setStatus 0
          let script := runText n { tested := course.tested } true (Text.Octets.ofBytes bytes)
          match ← outcome (speakingAs (some path) script) with
          | .ok () | .error .returned => return (← get).status
          | .error b => throw b
    | "command" =>
      let (letters, operands) ← takeLetters ['p', 'v', 'V'] arguments
      match operands with
      | first :: _ =>
        if letters.contains 'v' || letters.contains 'V' then
          showFinding (letters.contains 'V') first
        else return 0
      | [] => return 0
    | _ => return 0

/-- Calls a function. -/
def runFunction : Nat → Course → Script → List String → ShellM Unit
  | 0, _, _, _ => sink
  | n + 1, course, body, arguments => do
    ask (.work roundPace)
    let before ← get
    set { before with arguments, loops := 0, optionIndex := 1, letterIndex := none }
    let result ← outcome (withLocals (run n { tested := course.tested } body))
    modify fun s ↦ { s with
      arguments := before.arguments, loops := before.loops
      optionIndex := before.optionIndex, letterIndex := before.letterIndex }
    match result with
    | .ok () | .error .returned => return
    | .error b => throw b

/-- Runs a program in a process of its own, or in the place of the shell. -/
def runProgram : Nat → Course → Head → ShellM Unit
  | 0, _, _ => sink
  | n + 1, course, h => do
    let word := h.fields.headD ""
    let path ← if h.usual then pure commandPath else searchPath
    let missing ← if word.toList.contains '/' then pure none else do
      match ← if h.usual then findProgram path word else locateProgram word with
      | .ok _ => pure none
      | .error cause => pure (some cause)
    match missing with
    | some cause =>
      warn s!"{word}: {programReason cause}"
      setStatus 127
    | none =>
      if course.last && !(← get).traps.any (!·.2.isEmpty) then becomeProgram path h.fields
      else
        makeRoom
        let number ← fork n false (becomeProgram path h.fields)
        setStatus (← waitForAll [number])

end

end RevisionGraph.Shell

import RevisionGraph.Simulation.Shell.Signal
import RevisionGraph.Simulation.Tools.Options

/-!
# Tools that run other programs

`env` runs a program with other variables, `xargs` with words from its input, `timeout` for a
limited time; `nohup`, `nice`, `stdbuf` and `setsid` just run one.  `sleep` waits, and `which` tells
where programs are.
-/

set_option autoImplicit false

namespace RevisionGraph.Tools

open RevisionGraph.System ToolM

/-- Runs a program in place of the tool, or says why it cannot be run. -/
def become (words : List String) (environment : List (String × String))
    (why : FileCause → String) : Tool := do
  flush
  let d ← get
  let cause ← act (launchNamed d.launch { words, environment })
  complain (why cause)
  if cause = .notFound && d.call.name = "env" && (words.headD "").toList.contains ' ' then
    complain "use -[v]S to pass options in shebang lines"
  return if cause = .notFound then 127 else 126

/-- What is said of a command that cannot be run. -/
def failedToRun (words : List String) (cause : FileCause) : String :=
  "failed to run command " ++ quotedOf words 0 ++ ": " ++ reason cause

/-! ## Variables -/

/-- The name and the value of a word with an equals sign. -/
def splitAssignment? (word : String) : Option (String × String) :=
  let name := word.toList.takeWhile (· ≠ '=')
  if name.length = word.length then none
  else some (String.ofList name, String.ofList (word.toList.drop (name.length + 1)))

/-- Sets a variable, in its place if there is one of the name. -/
def setVariable (environment : List (String × String)) (v : String × String) :
    List (String × String) :=
  if environment.any (·.1 == v.1) then
    environment.map fun e ↦ if e.1 == v.1 then v else e
  else environment ++ [v]

/-- Runs a program with other variables. -/
def env : Tool := do
  let table := OptionTable.make "0C:iS:u:v" [("null", '0'), ("chdir", 'C'),
    ("ignore-environment", 'i'), ("split-string", 'S'), ("unset", 'u'), ("debug", 'v')] false
  let (given, operands) ← options table 125
  let (cleared, operands) := if operands.head? = some "-" then (true, operands.drop 1)
    else (given.has 'i', operands)
  let own := (← get).call.environment
  let start := if cleared then [] else own
  let start := start.filter fun e ↦ !(given.values 'u').contains e.1
  let split := ((given.values 'S').flatMap (Text.split ' ')).filter (· != "")
  let words := split ++ operands
  let assigned := words.takeWhile fun w ↦ (splitAssignment? w).isSome
  let environment := (assigned.filterMap splitAssignment?).foldl setVariable start
  if let some directory := given.value? 'C' then
    if let .error cause ← ask (.enter directory) then
      abort 125 s!"cannot change directory to ‘{directory}’: {reason cause}"
  match words.drop assigned.length with
  | [] =>
    let ending := if given.has '0' then "\x00" else "\n"
    environment.forM fun (name, value) ↦ print (name ++ "=" ++ value ++ ending)
    return 0
  | command => become command environment fun cause ↦ quotedOf command 0 ++ ": " ++ reason cause

/-! ## Time -/

/-- Microseconds in a number of seconds with a fraction and perhaps a unit. -/
def microseconds? (s : String) : Option Nat :=
  let (fraction, whole) :=
    let whole := s.toList.takeWhile Char.isDigit
    match s.toList.drop whole.length with
    | '.' :: rest => (some (rest.takeWhile Char.isDigit), whole)
    | _ => (none, whole)
  let digits := fraction.getD []
  let rest := s.toList.drop (whole.length + (fraction.map (·.length + 1)).getD 0)
  let millionths := (digits ++ List.replicate 6 '0').take 6
  let n := 1000000 * Text.readDecimal whole + Text.readDecimal millionths
  let unit : Option Nat := match rest with
    | [] | ['s'] => some 1
    | ['m'] => some 60
    | ['h'] => some 3600
    | ['d'] => some 86400
    | _ => none
  if s.toLower = "inf" || s.toLower = "infinity" then some (10 ^ 18)
  else if whole.isEmpty && digits.isEmpty then none
  else unit.map (· * n)

/-- Waits. -/
def sleep : Tool := do
  let (_, operands) ← options (OptionTable.make "" [] true) 1
  if operands.isEmpty then misuse 1 "missing operand"
  let wrong := operands.filter fun a ↦ (microseconds? a).isNone
  if !wrong.isEmpty then
    wrong.forM fun a ↦ complain s!"invalid time interval ‘{a}’"
    suggestHelp
    return 1
  ask (.pause (operands.filterMap microseconds?).sum)
  return 0

/-- Waits for a process, and once the time is up sends it a signal each time that a time ends. -/
def watch (child : Nat) (group : Bool) (alarms : List (Nat × Nat)) : ToolM (Bool × Ending) := do
  let waiter (time : Nat) : ToolM Nat := act (Act.fork do
    Act.ask (.pause time)
    return 0)
  let rec go : List (Nat × Nat) → Bool → ToolM (Bool × Ending)
    | [], late => return (late, ← awaitProcess child)
    | (time, signal) :: rest, late => do
      let clock ← waiter time
      match ← ask (.await true true) with
      | .ok (some (number, e)) =>
        if number = child then
          let _ ← ask (.signal clock 9)
          return (late, e)
        -- the tool is in the same group
        let _ ← ask (.dispose signal .ignored)
        let _ ← ask (.signal child signal)
        if group then
          let _ ← ask (.signal 0 signal)
        let _ ← ask (.signal child 18)
        go rest true
      | _ => return (late, .exited 125)
  go alarms false

/-- Runs a program for a limited time. -/
def timeout : Tool := do
  let table := OptionTable.make "fk:ps:v" [("foreground", 'f'), ("kill-after", 'k'),
    ("preserve-status", 'p'), ("signal", 's'), ("verbose", 'v')] false
  let (given, operands) ← options table 125
  match operands with
  | [] | [_] =>
    suggestHelp
    return 125
  | duration :: command =>
    let span (text : String) : ToolM Nat := match microseconds? text with
      | some n => pure n
      | none => misuse 125 s!"invalid time interval ‘{text}’"
    let time ← span duration
    let more ← (given.value? 'k').mapM span
    let signal ← match given.value? 's' with
      | none => pure 15
      | some text =>
        let bare := if text.startsWith "SIG" then (text.drop 3).toString else text
        match Shell.Signal.ofText? bare.toUpper with
        | some n => pure n
        | none => misuse 125 s!"‘{text}’: invalid signal"
    if !given.has 'f' then ask .lead
    let d ← get
    let child ← spawn command (pure ()) fun cause ↦ do
      let _ ← Act.ask (.write 2 (Text.Octets.toBytes
        s!"{d.call.name}: {failedToRun command cause}\n"))
      return if cause = .notFound then 127 else 126
    let alarms := if time = 0 then [] else
      (time, signal) :: (more.map fun n ↦ (n, 9)).toList
    let (late, ending) ← watch child (!given.has 'f') alarms
    match late, ending with
    | true, .killed 9 => return 137
    | true, .exited n => return if given.has 'p' then n else 124
    | true, .killed n => return if given.has 'p' then 128 + n else 124
    | false, .exited n => return n
    | false, .killed n =>
      act (Act.ask (.dispose n .usual))
      let number : Nat ← ask .self
      let _ ← ask (.signal number n)
      return 128 + n

/-! ## Running as it is -/

/-- Runs a program behind the options; the step prepares for it. -/
def running (table : OptionTable) (status : Nat) (before : Given → ToolM Unit)
    (why : List String → FileCause → String) : Tool := do
  let (given, words) ← options table status
  if words.isEmpty then misuse status "missing operand"
  before given
  become words (← get).call.environment (why words)

/-- Runs a program that outlives its terminal. -/
def nohup : Tool := running (OptionTable.make "" [] false) 125
  (fun _ ↦ do
    let _ ← ask (.dispose 1 .ignored)
    return) failedToRun

/-- Runs a program; how it buffers is not to be seen here. -/
def stdbuf : Tool := running (OptionTable.make "i:o:e:"
  [("input", 'i'), ("output", 'o'), ("error", 'e')] false) 125 (fun _ ↦ return) failedToRun

/-- Runs a program in a session of its own. -/
def setsid : Tool := running (OptionTable.make "cfw" [("ctty", 'c'), ("fork", 'f'), ("wait", 'w')]
  false) 1 (fun _ ↦ ask .lead) fun words cause ↦
    let word := words.headD ""
    s!"failed to execute {word}: {reason cause}"

/-- Runs a program; nobody has to wait for it here. -/
def nice : Tool := do
  let arguments := (← get).call.arguments
  if arguments.isEmpty then
    printLine "0"
    return 0
  running (OptionTable.make "n:" [("adjustment", 'n')] false) 125 (fun _ ↦ return)
    fun words cause ↦ quotedOf words 0 ++ ": " ++ reason cause

/-- There is no terminal. -/
def tty : Tool := do
  let (given, _) ← options (OptionTable.make "s" [("silent", 's'), ("quiet", 's')] true) 2
  if !given.has 's' then printLine "not a tty"
  return 1

/-- Shows where programs are. -/
def which : Tool := do
  let (given, words) ← options (OptionTable.make "as" [] false) 2
  if words.isEmpty then return 1
  let isProgram (path : String) : ToolM Bool := do
    match ← look path true with
    | .ok l => return l.kind == .file && l.rights &&& 0o111 != 0
    | .error _ => return false
  let places := pathOf (← get).call
  onEach words fun word ↦ do
    let candidates := if word.toList.contains '/' then [word] else places.map (pathIn · word)
    let found ← candidates.filterM isProgram
    let shown := if given.has 'a' then found else found.take 1
    if !given.has 's' then shown.forM printLine
    return !found.isEmpty

/-! ## Words from the input -/

/-- The words of a text, each with the number of the line that it ends on.  Quotes and backslashes
are read; the bound is on the length of the text. -/
def inputWords : Nat → (word : Option (List Char)) → (line : Nat) → List Char →
    Except String (List (String × Nat))
  | 0, _, _, _ => .ok []
  | n + 1, word, line, cs =>
    let give (rest : Except String (List (String × Nat))) : Except String (List (String × Nat)) :=
      match word with
      | some w => rest.map ((String.ofList w.reverse, line) :: ·)
      | none => rest
    match cs with
    | [] => give (.ok [])
    | '\n' :: rest => give (inputWords n none (line + 1) rest)
    | '\\' :: c :: rest => inputWords n (some (c :: word.getD [])) line rest
    | c :: rest =>
      if c = ' ' || c = '\t' then give (inputWords n none line rest)
      else if c = '\'' || c = '"' then
        let quoted := rest.takeWhile fun x ↦ x ≠ c && x ≠ '\n'
        match rest.drop quoted.length with
        | d :: after =>
          if d = c then inputWords n (some (quoted.reverse ++ word.getD [])) line after
          else .error (if c = '"' then "double" else "single")
        | [] => .error (if c = '"' then "double" else "single")
      else inputWords n (some (c :: word.getD [])) line rest

/-- A text with another one in place of each occurrence of a mark. -/
def replaceMark (mark new : String) (text : String) : String :=
  if mark.isEmpty then text else text.replace mark new

/-- A list cut into pieces of at most so many entries. -/
def piecesOf {α : Type} (size : Nat) : Nat → List α → List (List α)
  | 0, _ => []
  | _ + 1, [] => []
  | n + 1, items => items.take size :: piecesOf size n (items.drop size)

/-- How a round of commands ended so far. -/
structure Rounds where
  status : Nat := 0
  /-- no command may follow -/
  ended : Bool := false

/-- Runs a program with words from its input. -/
def xargs : Tool := do
  let table := OptionTable.make "0a:d:E:I:L:n:oP:prs:tx" [("null", '0'), ("arg-file", 'a'),
    ("delimiter", 'd'), ("replace", 'I'), ("max-lines", 'L'), ("max-args", 'n'),
    ("max-procs", 'P'), ("no-run-if-empty", 'r'), ("verbose", 't'), ("exit", 'x'),
    ("max-chars", 's')] false
  let (given, operands) ← options table 1
  let number (letter : Char) (long : String) : ToolM (Option Nat) := do
    match given.value? letter with
    | none => return none
    | some text =>
      if text.isEmpty || !text.toList.all Char.isDigit then
        misuse 1 s!"invalid number \"{text}\" for -{letter} option"
      else if Text.readDecimal text.toList = 0 && long ≠ "" then
        misuse 1 s!"value 0 for -{letter} option should be >= 1"
      else return some (Text.readDecimal text.toList)
  let perCall ← number 'n' "max-args"
  let perLine ← number 'L' "max-lines"
  let _ ← number 'P' ""
  let mark := given.value? 'I'
  let source := (given.value? 'a').getD "-"
  let text ← match ← withInput source readAll with
    | .ok bytes => pure (Text.Octets.ofBytes bytes)
    | .error cause => abort 1 s!"Cannot open input file ‘{source}’: {reason cause}"
  let separator : Option Char := if given.has '0' then some '\x00' else
    (given.value? 'd').map fun d ↦
      (Text.Octets.ofBytes (match d.toList with
        | '\\' :: c :: _ => match c with
          | 'n' => [10]
          | 't' => [9]
          | '0' => [0]
          | _ => [92]
        | c :: _ => [UInt8.ofNat c.toNat]
        | [] => [0])).toList.headD '\x00'
  let items : List (String × Nat) ← match separator with
    | some c =>
      let pieces := Text.split c text
      let pieces := if pieces.getLast? = some "" then pieces.dropLast else pieces
      pure (pieces.zipIdx.map fun (p, k) ↦ (p, k))
    | none =>
      -- with a mark each line is one word
      let lines := (Text.split '\n' text).map fun l ↦
        String.ofList (l.toList.dropWhile fun c ↦ c = ' ' || c = '\t')
      let read := if mark.isSome then
          (lines.zipIdx.filter (·.1 != "")).mapM fun (l, k) ↦ do
            let plain := l.toList.map fun c ↦ if c = ' ' || c = '\t' then '\x01' else c
            let words ← inputWords (l.length + 1) none k plain
            let word := String.join (words.map Prod.fst)
            return (word.map fun c ↦ if c = '\x01' then ' ' else c, k)
        else inputWords (text.length + 1) none 0 text.toList
      match read with
      | .ok items => pure items
      | .error quote =>
        abort 1 <| s!"unmatched {quote} quote; by default quotes are special to xargs unless you " ++
          "use the -0 option"
  let command := if operands.isEmpty then ["echo"] else operands
  let calls : List (List String) :=
    match mark, perLine, perCall with
    | some m, _, _ => items.map fun item ↦
      command.take 1 ++ (command.drop 1).map (replaceMark m item.1)
    | none, some n, _ =>
      let lines := (items.map Prod.snd).eraseDups
      (piecesOf n (lines.length + 1) lines).map fun group ↦
        command ++ (items.filter fun i ↦ group.contains i.2).map Prod.fst
    | none, none, some n =>
      (piecesOf n (items.length + 1) items).map fun group ↦ command ++ group.map Prod.fst
    | none, none, none => if items.isEmpty then [] else [command ++ items.map Prod.fst]
  let calls := if calls.isEmpty && mark.isNone && !given.has 'r' then [command] else calls
  let d ← get
  let start (words : List String) : ToolM Ending := do
    let word := words.headD ""
    if given.has 't' then tell (" ".intercalate words ++ "\n")
    let child ← spawn words
      (do
        match ← Act.ask (.openFile "/dev/null" .toRead) with
        | .ok fd =>
          let _ ← Act.ask (.duplicate fd 0)
          let _ ← Act.ask (.close fd)
        | .error _ => return)
      fun cause ↦ do
        let _ ← Act.ask (.write 2 (Text.Octets.toBytes
          s!"{d.call.name}: {word}: {reason cause}\n"))
        return if cause = .notFound then 127 else 126
    awaitProcess child
  let final ← calls.foldlM (fun (r : Rounds) words ↦ do
    if r.ended then return r
    let word := words.headD ""
    match ← start words with
    | .exited 0 => return r
    | .exited 126 => return { status := 126, ended := true }
    | .exited 127 => return { status := 127, ended := true }
    | .exited 255 =>
      complain s!"{word}: exited with status 255; aborting"
      return { status := 124, ended := true }
    | .exited _ => return { r with status := 123 }
    | .killed n =>
      complain s!"{word}: terminated by signal {n}"
      return { status := 125, ended := true }) {}
  return final.status

end RevisionGraph.Tools

import RevisionGraph.Simulation.System.Behaviour

/-!
# Tests

`test` answers a question about texts, numbers and files by its exit status: 0 for yes, 1 for no and
2 where the question makes no sense.

A question is read by the precedence of its operators: `-o` binds less than `-a`, and `-a` less than
`!`.  Whether a word is an operator depends on the words behind it, so that an operand may look like
one.
-/

set_option autoImplicit false

namespace RevisionGraph.Shell

open RevisionGraph.System

/-- Why a question makes no sense. -/
inductive TestFault where
  | illegalNumber (operand : String)
  | unexpectedOperator (word : String)
  | argumentExpected (o : String)
  | parenthesisExpected
  | bracketExpected

/-- What a shell says of a question that makes no sense. -/
def TestFault.message : TestFault → String
  | .illegalNumber operand => "Illegal number: " ++ operand
  | .unexpectedOperator word => if word.isEmpty then "unexpected operator"
      else word ++ ": unexpected operator"
  | .argumentExpected o => o ++ ": argument expected"
  | .parenthesisExpected => "closing paren expected"
  | .bracketExpected => "missing ]"

/-- What the program says of it. -/
def TestFault.plainMessage : TestFault → String
  | .illegalNumber operand => s!"invalid integer ‘{operand}’"
  | .unexpectedOperator word => s!"extra argument ‘{word}’"
  | .argumentExpected o => s!"missing argument after ‘{o}’"
  | .parenthesisExpected => "‘)’ expected"
  | .bracketExpected => "missing ‘]’"

/-- An answer, or why there is none. -/
abbrev Answer := ExceptT TestFault Act

/-! ## Operators -/

/-- The `test` of a shell and the program of that name differ in a few operators. -/
inductive TestDialect where
  | shell
  | program
  deriving DecidableEq

/-- The operators in front of one word. -/
def unaryOperators : List String :=
  ["-n", "-z", "-t", "-r", "-w", "-x", "-e", "-f", "-d", "-c", "-b", "-p", "-u", "-g", "-k", "-s",
    "-h", "-L", "-O", "-G", "-S"]

/-- The operators between two words. -/
def binaryOperators (d : TestDialect) : List String :=
  ["=", "!=", "<", ">", "-eq", "-ne", "-gt", "-ge", "-lt", "-le", "-nt", "-ot", "-ef"] ++
    if d = .program then ["=="] else []

/-- A word with one operand behind it is no operator if it is an operand itself: nothing follows, or
a comparison does. -/
def isUnary (d : TestDialect) : List String → Bool
  | o :: next :: rest => unaryOperators.contains o &&
      (rest.isEmpty || !(binaryOperators d).contains next)
  | _ => false

/-- The words start with a parenthesis. -/
def startsGroup : List String → Bool
  | "(" :: _ :: _ => true
  | _ => false

/-! ## Tests of operands -/

/-- The comparison of numbers that an operator stands for. -/
def comparison? (o : String) : Option (Int → Int → Bool) :=
  match o with
  | "-eq" => some fun x y ↦ x == y
  | "-ne" => some fun x y ↦ x != y
  | "-lt" => some fun x y ↦ x < y
  | "-le" => some fun x y ↦ x ≤ y
  | "-gt" => some fun x y ↦ y < x
  | "-ge" => some fun x y ↦ y ≤ x
  | _ => none

/-- The decimal number that an operand is; blanks may surround it. -/
def operandNumber (s : String) : Answer Int := do
  let isBlank (c : Char) : Bool := c = ' ' ∨ ('\t' ≤ c ∧ c ≤ '\r')
  let cs := ((s.toList.dropWhile isBlank).reverse.dropWhile isBlank).reverse
  let digits := match cs with
    | '-' :: rest | '+' :: rest => rest
    | rest => rest
  let n : Int := Nat.ofDigitChars 10 digits 0
  let signed := if cs.head? = some '-' then -n else n
  if digits.isEmpty || !digits.all Char.isDigit || signed < -2 ^ 63 || 2 ^ 63 ≤ signed then
    throw (.illegalNumber s)
  return signed

/-- What is known of the file that a path leads to. -/
def lookAt (path : String) (follow : Bool) : Answer (Option Look) := do
  match ← (Act.ask (.look path follow) : Act (Attempt Look)) with
  | .ok look => return some look
  | .error _ => return none

/-- A test of one operand. -/
def unaryTest (o operand : String) : Answer Bool := do
  if o = "-n" then return operand != ""
  else if o = "-z" then return operand == ""
  else if o = "-t" then
    let _ ← operandNumber operand
    return false
  else match ← lookAt operand (o != "-h" && o != "-L") with
    | none => return false
    | some look =>
      let has (rights : Nat) : Bool := look.rights &&& rights != 0
      return match o with
        | "-f" => look.kind == .file
        | "-d" => look.kind == .directory
        | "-c" => look.kind == .device
        | "-p" => look.kind == .pipe
        | "-h" | "-L" => look.kind == .link
        | "-b" | "-S" => false
        | "-s" => 0 < look.size
        | "-x" => look.kind == .directory || has (rightsOf 1 1 1)
        | "-u" => has 2048
        | "-g" => has 1024
        | "-k" => has 512
        | _ => true

/-- A test of two operands. -/
def binaryTest (d : TestDialect) (a o b : String) : Answer Bool := do
  match o with
  | "=" | "==" => return a == b
  | "!=" => return a != b
  | "<" => return (compare a b).isLT
  | ">" => return (compare a b).isGT
  | "-ef" =>
    match ← lookAt a true, ← lookAt b true with
    | some x, some y => return x.number == y.number && x.kind == y.kind
    | _, _ => return false
  | "-nt" => return newer (← lookAt a true) (← lookAt b true)
  | "-ot" => return newer (← lookAt b true) (← lookAt a true)
  | o => match comparison? o with
    | some holds => return holds (← operandNumber a) (← operandNumber b)
    | none => return false
where
  newer : Option Look → Option Look → Bool
    | some x, some y => y.time < x.time
    | some _, none => d = .program
    | none, _ => false

/-! ## Questions -/

variable (d : TestDialect)

mutual

/-- The answer to a question that starts at the first word, and the words from the last one read
on.  The first argument bounds the depth. -/
def anyOf : Nat → List String → Answer (Bool × List String)
  | 0, words => return (false, words)
  | n + 1, words => do
    let (first, left) ← allOf n words
    match left with
    | _ :: "-o" :: rest =>
      let (second, left) ← anyOf n rest
      return (first || second, left)
    | _ => return (first, left)

/-- Answers to all of several questions. -/
def allOf : Nat → List String → Answer (Bool × List String)
  | 0, words => return (false, words)
  | n + 1, words => do
    let (first, left) ← negated n words
    match left with
    | _ :: "-a" :: rest =>
      let (second, left) ← allOf n rest
      return (first && second, left)
    | _ => return (first, left)

/-- Answers to a question or to its contrary. -/
def negated : Nat → List String → Answer (Bool × List String)
  | 0, words => return (false, words)
  | n + 1, words => do
    match words with
    | ["!"] => return (true, words)
    | "!" :: rest =>
      let (value, left) ← negated n rest
      return (!value, left)
    | _ => primary n words

/-- The answer of one test, or of a question in parentheses. -/
def primary : Nat → List String → Answer (Bool × List String)
  | 0, words => return (false, words)
  | n + 1, words => do
    match words with
    | [] => return (false, [])
    | first :: rest =>
      if startsGroup words then
        match rest with
        | ")" :: _ => return (false, rest)
        | _ =>
          let (value, left) ← anyOf n rest
          match left.drop 1 with
          | ")" :: more => return (value, ")" :: more)
          | _ => throw .parenthesisExpected
      else if isUnary d words then return (← unaryTest first (rest.headD ""), rest)
      else match rest with
        | o :: operand =>
          if (binaryOperators d).contains o then
            match operand with
            | [] => throw (.argumentExpected o)
            | b :: _ => return (← binaryTest d first o b, operand)
          else return (first != "", words)
        | [] => return (first != "", words)

end

/-- The answer to a whole question. -/
def answer (words : List String) : Answer Bool := do
  let (value, left) ← anyOf d (4 * words.length + 4) words
  match left with
  | word :: _ :: _ => throw (.unexpectedOperator word)
  | _ => return value

/-- The answer to the words of a test.  Short questions are read by their number of words first,
where several negations at the front count as one. -/
def test : List String → Answer Bool
  | [] => return false
  | [a, o, b] =>
    if (binaryOperators d).contains o then binaryTest d a o b
    else if a = "(" ∧ b = ")" then answer d [o]
    else if a = "!" then return !(← answer d [o, b])
    else answer d [a, o, b]
  | ["!", a, o, b] => do
    if (binaryOperators d).contains o then return !(← binaryTest d a o b)
    else if a = "(" ∧ b = ")" then return !(← answer d [o])
    else if a = "!" then return !(← answer d [o, b])
    else return !(← answer d [a, o, b])
  | [a, x, y, b] => if a = "(" ∧ b = ")" then answer d [x, y] else answer d [a, x, y, b]
  | words => answer d words

/-- The words of a test in brackets. -/
def inBrackets (arguments : List String) : Answer Bool :=
  if arguments.getLast? = some "]" then test d arguments.dropLast else throw .bracketExpected

end RevisionGraph.Shell

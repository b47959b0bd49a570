import RevisionGraph.Text.Digits

/-!
# Arithmetic in scripts

`Arithmetic.evaluate` is the value of an integer expression over the variables of a script.  The
operators, their precedence and the truth values are the usual ones; numbers are words of 64 bits,
and a number that does not fit is the greatest or the least.

An expression is evaluated while it is read, from the left; what is not asked for, such as one side
of a choice, is read without being evaluated.
-/

set_option autoImplicit false

namespace RevisionGraph.Shell.Arithmetic

/-! ## Numbers -/

/-- The greatest number. -/
def greatest : Nat := 2 ^ 63 - 1

/-- The natural number at the start of a text, in decimal, octal or hexadecimal, and what follows.
-/
def takeNatural (cs : List Char) : Nat × List Char :=
  let decimal := cs.takeWhile Char.isDigit
  match cs with
  | '0' :: x :: more =>
    let digits := Text.takeHex more
    if (x = 'x' || x = 'X') && !digits.isEmpty then
      (Text.readHex digits, more.drop digits.length)
    else
      let octal := cs.takeWhile fun d ↦ '0' ≤ d && d ≤ '7'
      (Nat.ofDigitChars 8 octal 0, cs.drop octal.length)
  | _ => (Text.readDecimal decimal, cs.drop decimal.length)

/-- The character stands between tokens. -/
def isBlank (c : Char) : Bool := c = ' ' || ('\t' ≤ c && c ≤ '\r')

/-- The number that a whole text is, blanks aside; a blank text is zero. -/
def ofText? (s : String) : Option Int64 :=
  let cs := s.toList.dropWhile isBlank
  let (negative, body) := match cs with
    | '-' :: rest => (true, rest)
    | '+' :: rest => (false, rest)
    | rest => (false, rest)
  let (n, rest) := takeNatural body
  if cs.isEmpty then some 0
  else if rest.length = body.length then none
  else if !(rest.all isBlank) || (if negative then greatest + 1 else greatest) < n then none
  else some (if negative then -Int64.ofNat n else Int64.ofNat n)

/-! ## Tokens -/

/-- A part of an expression. -/
inductive Token where
  | number (n : Int64)
  | name (s : String)
  | operator (s : String)
  deriving DecidableEq

/-- Longer operators stand before shorter ones that they start with. -/
def operators : List String :=
  ["<<=", ">>=", "||", "&&", "==", "!=", "<=", ">=", "<<", ">>", "+=", "-=", "*=", "/=", "%=", "&=",
    "|=", "^=", "|", "^", "&", "<", ">", "+", "-", "*", "/", "%", "!", "~", "(", ")", "?", ":", "="]

/-- The character may stand in a name. -/
def isNameChar (c : Char) : Bool := c.isAlphanum || c == '_'

/-- Cuts a text into tokens; what is no token stands as an operator of its own. -/
def tokens : Nat → List Char → List Token
  | 0, _ => []
  | _ + 1, [] => []
  | n + 1, c :: rest =>
    if c = ' ' ∨ c = '\t' ∨ c = '\n' then tokens n rest
    else if c.isDigit then
      let (value, rest) := takeNatural (c :: rest)
      .number (Int64.ofNat (min value greatest)) :: tokens n rest
    else if c.isAlpha || c == '_' then
      let name := (c :: rest).takeWhile isNameChar
      .name (String.ofList name) :: tokens n ((c :: rest).drop name.length)
    else match operators.find? fun o ↦ o.toList.isPrefixOf (c :: rest) with
      | some o => .operator o :: tokens n ((c :: rest).drop o.length)
      | none => .operator (String.singleton c) :: tokens n rest

/-! ## Evaluation -/

/-- Why a text has no value. -/
inductive Fault where
  | expecting (due : String)
  | divisionByZero
  | notANumber (text : String)

/-- Where the evaluation stands. -/
structure Standing where
  tokens : List Token
  /-- the values of variables -/
  value? : String → Option String
  /-- what was assigned, the newest first -/
  assigned : List (String × Int64) := []

/-- Evaluates an expression. -/
abbrev EvalM := ExceptT Fault (StateM Standing)

/-- The binary operators, from those that bind least. -/
def levels : List (List String) := [
  ["||"], ["&&"], ["|"], ["^"], ["&"], ["==", "!="], ["<=", ">=", "<", ">"], ["<<", ">>"],
  ["+", "-"], ["*", "/", "%"]]

/-- The binary operator inside an assignment. -/
def assignments : List (String × String) := [
  ("=", ""), ("+=", "+"), ("-=", "-"), ("*=", "*"), ("/=", "/"), ("%=", "%"), ("&=", "&"),
  ("|=", "|"), ("^=", "^"), ("<<=", "<<"), (">>=", ">>")]

/-- The number for a truth value. -/
def truth (b : Bool) : Int64 := if b then 1 else 0

/-- The value of a binary operator whose operands are both evaluated. -/
def apply (sign : String) (a b : Int64) : EvalM Int64 :=
  match sign with
  | "|" => return a ||| b
  | "^" => return a ^^^ b
  | "&" => return a &&& b
  | "==" => return truth (a == b)
  | "!=" => return truth (a != b)
  | "<=" => return truth (a ≤ b)
  | ">=" => return truth (b ≤ a)
  | "<" => return truth (a < b)
  | ">" => return truth (b < a)
  | "<<" => return a <<< b
  | ">>" => return a >>> b
  | "+" => return a + b
  | "-" => return a - b
  | "*" => return a * b
  | "/" => if b = 0 then throw .divisionByZero else return a / b
  | "%" => if b = 0 then throw .divisionByZero else return a % b
  | _ => return b

/-- The next token, which stays. -/
def peek : EvalM (Option Token) := do return (← get).tokens.head?

/-- Skips a token. -/
def skip : EvalM Unit := modify fun s ↦ { s with tokens := s.tokens.drop 1 }

/-- The number that a variable holds; one that is not set holds zero. -/
def numberIn (name : String) : EvalM Int64 := do
  let s ← get
  match s.assigned.find? fun e ↦ e.1 == name with
  | some (_, n) => return n
  | none =>
    let text := (s.value? name).getD ""
    match ofText? text with
    | some n => return n
    | none => throw (.notANumber text)

/-- Takes an operator that must stand next. -/
def expect (o : String) (due : String) : EvalM Unit := do
  if (← peek) = some (.operator o) then skip else throw (.expecting due)

mutual

/-- An operand with the signs before it. -/
def operand : Nat → (idle : Bool) → EvalM Int64
  | 0, _ => throw (.expecting "primary")
  | n + 1, idle => do
    let t ← peek
    skip
    match t with
    | some (.number i) => return i
    | some (.name s) => if idle then return 0 else numberIn s
    | some (.operator "(") =>
      let v ← assignment n idle
      expect ")" "')'"
      return v
    | some (.operator "+") => operand n idle
    | some (.operator "-") => return -(← operand n idle)
    | some (.operator "!") => return truth ((← operand n idle) == 0)
    | some (.operator "~") => return ~~~(← operand n idle)
    | _ => throw (.expecting "primary")

/-- An expression of the operators of the given levels. -/
def binary : Nat → List (List String) → (idle : Bool) → EvalM Int64
  | 0, _, _ => throw (.expecting "primary")
  | n + 1, [], idle => operand n idle
  | n + 1, level :: tighter, idle => do
    let left ← binary n tighter idle
    more n level tighter idle left

/-- What follows a left operand, from the left. -/
def more : Nat → List String → List (List String) → (idle : Bool) → Int64 → EvalM Int64
  | 0, _, _, _, left => return left
  | n + 1, level, tighter, idle, left => do
    match ← peek with
    | some (.operator o) =>
      if !level.contains o then return left
      skip
      if o = "&&" then
        let right ← binary n tighter (idle || left == 0)
        more n level tighter idle (truth (left != 0 && right != 0))
      else if o = "||" then
        let right ← binary n tighter (idle || left != 0)
        more n level tighter idle (truth (left != 0 || right != 0))
      else
        let right ← binary n tighter idle
        let v ← if idle then pure right else apply o left right
        more n level tighter idle v
    | _ => return left

/-- An expression with a choice at its top, or none. -/
def choice : Nat → (idle : Bool) → EvalM Int64
  | 0, _ => throw (.expecting "primary")
  | n + 1, idle => do
    let condition ← binary n levels idle
    if (← peek) ≠ some (.operator "?") then return condition
    skip
    let yes ← assignment n (idle || condition == 0)
    expect ":" "':'"
    let no ← choice n (idle || condition != 0)
    return if condition != 0 then yes else no

/-- An expression with an assignment at its top, or none. -/
def assignment : Nat → (idle : Bool) → EvalM Int64
  | 0, _ => throw (.expecting "primary")
  | n + 1, idle => do
    match (← get).tokens with
    | .name s :: .operator o :: _ =>
      match assignments.find? fun e ↦ e.1 == o with
      | some (_, sign) =>
        skip
        skip
        let right ← assignment n idle
        if idle then return right
        let v ← if sign.isEmpty then pure right else apply sign (← numberIn s) right
        modify fun st ↦ { st with assigned := (s, v) :: st.assigned }
        return v
      | none => choice n idle
    | _ => choice n idle

end

/-- A whole expression. -/
def whole (bound : Nat) : EvalM Int64 := do
  let v ← assignment bound false
  if (← peek).isSome then throw (.expecting "EOF")
  return v

/-- The value of a text as an expression, or what is wrong with it, and what it has assigned, the
oldest first. -/
def evaluate (value? : String → Option String) (source : String) :
    Except Fault Int64 × List (String × Int64) :=
  let ts := tokens (source.length + 1) source.toList
  let (result, s) := (whole (32 * ts.length + 32)).run ⟨ts, value?, []⟩
  (result, s.assigned.reverse)

/-- What is said of a text that has no value. -/
def Fault.message (source : String) : Fault → String
  | .expecting due => s!"arithmetic expression: expecting {due}: \x22{source}\x22"
  | .divisionByZero => s!"arithmetic expression: division by zero: \x22{source}\x22"
  | .notANumber text => s!"Illegal number: {text}"

end RevisionGraph.Shell.Arithmetic

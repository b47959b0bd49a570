import RevisionGraph.Text.Digits
import RevisionGraph.Text.Quoted

/-!
# Laying out a text

A `Layout` says how a text is set: to which side it goes in how wide a column, what fills the rest
of the column, and how many of its characters are kept at most.

* **Writing.**  A layout is written as a filler with an alignment, marks that only numbers can have
  (a sign, `z`, `#`, separators), a width, a point with a precision, and the letter of a kind of
  value.  Each of these can be left out, but their order is fixed; `Layout.read` reads it.
* **Setting.**  `Layout.arrange` sets a text, and refuses a layout that is meant for numbers.
* **Mistakes.**  `LayoutFault.message` words what is wrong with a layout.
-/

set_option autoImplicit false

namespace RevisionGraph.Text

/-! ## Mistakes -/

/-- What is wrong with a layout, or with its use. -/
inductive LayoutFault where
  | numberTooLong
  | precisionMissing
  | bothSeparators
  | separatorUnwanted (separator kind : Char)
  | unreadable (layout : String)
  | kindUnknown (kind : Char)
  | signUnwanted (sign : Char)
  | positiveZeroUnwanted
  | alternateUnwanted
  | innerAlignment
  /-- a column that is wider than any memory -/
  | tooWide
  deriving DecidableEq, Repr

/-- A character in a message: itself if it is a visible one of ASCII, which ends at `last`, else
its code point. -/
def shownUpTo (last : Nat) (c : Char) : String :=
  if 0x20 < c.toNat && c.toNat ≤ last then String.singleton c
  else "\\x" ++ String.ofList (Nat.toDigits 16 c.toNat)

namespace LayoutFault

/-- What is said of the fault. -/
def message : LayoutFault → String
  | .numberTooLong => "Too many decimal digits in format string"
  | .precisionMissing => "Format specifier missing precision"
  | .bothSeparators => "Cannot specify both ',' and '_'."
  | .separatorUnwanted separator kind =>
    "Cannot specify '" ++ String.singleton separator ++ "' with '" ++ shownUpTo 0x7f kind ++ "'."
  | .unreadable layout =>
    "Invalid format specifier '" ++ layout ++ "' for object of type 'str'"
  | .kindUnknown kind =>
    "Unknown format code '" ++ shownUpTo 0x7f kind ++ "' for object of type 'str'"
  | .signUnwanted sign =>
    (if sign = ' ' then "Space" else "Sign") ++ " not allowed in string format specifier"
  | .positiveZeroUnwanted =>
    "Negative zero coercion (z) not allowed in string format specifier"
  | .alternateUnwanted => "Alternate form (#) not allowed in string format specifier"
  | .innerAlignment => "'=' alignment not allowed in string format specifier"
  | .tooWide => ""

end LayoutFault

/-! ## Numbers in layouts -/

/-- Numbers from here on are too long to be read. -/
def layoutNumberBound : Nat := 2 ^ 63

/-- The decimal digits at the front, of any script. -/
def takeDigits (cs : List Char) : List Char := cs.takeWhile fun c ↦ (digitValue? c).isSome

/-- The number at the front, if there is one, and what is behind it. -/
def takeNumber (cs : List Char) : Except LayoutFault (Option Nat × List Char) :=
  let digits := takeDigits cs
  let n := digits.foldl (fun n c ↦ 10 * n + (digitValue? c).getD 0) 0
  if digits.isEmpty then .ok (none, cs)
  else if n < layoutNumberBound then .ok (some n, cs.drop digits.length)
  else .error .numberTooLong

/-! ## Layouts -/

/-- Where a text stands in its column. -/
inductive Alignment where
  | left
  | right
  | center
  /-- between the sign of a number and its digits -/
  | inner
  deriving DecidableEq, Repr

/-- The alignment that a character asks for. -/
def Alignment.ofChar? : Char → Option Alignment
  | '<' => some .left
  | '>' => some .right
  | '^' => some .center
  | '=' => some .inner
  | _ => none

/-- How a value is laid out. -/
structure Layout where
  filler : Char := ' '
  alignment : Alignment := .left
  sign : Option Char := none
  positiveZero : Bool := false
  alternate : Bool := false
  width : Nat := 0
  /-- how many characters are kept, if not all -/
  precision : Option Nat := none
  /-- the letter of the kind of value that the layout is for -/
  kind : Char := 's'
  deriving DecidableEq, Repr

namespace Layout

/-- The letter of texts. -/
def textKind : Char := 's'

/-- The character at the front if it is one of the given ones, and what is behind it. -/
def takeOneOf (accepted : List Char) : List Char → Option Char × List Char
  | [] => (none, [])
  | c :: rest => if accepted.contains c then (some c, rest) else (none, c :: rest)

/-- The filler and the alignment at the front; a filler needs an alignment behind it. -/
def takeAlignment : List Char → Option Char × Option Alignment × List Char
  | [] => (none, none, [])
  | [c] => match Alignment.ofChar? c with
    | some a => (none, some a, [])
    | none => (none, none, [c])
  | c :: d :: rest => match Alignment.ofChar? d, Alignment.ofChar? c with
    | some a, _ => (some c, some a, rest)
    | none, some a => (none, some a, d :: rest)
    | none, none => (none, none, c :: d :: rest)

/-- The precision at the front, behind its point. -/
def takePrecision : List Char → Except LayoutFault (Option Nat × List Char)
  | '.' :: rest => do
    match ← takeNumber rest with
    | (none, _) => throw .precisionMissing
    | found => return found
  | rest => .ok (none, rest)

/-- The kinds of number whose digits can be grouped by the separator; NUL stands for no kind. -/
def isGrouped (separator kind : Char) : Bool :=
  ['d', 'e', 'f', 'g', 'E', 'G', '%', 'F', '\x00'].contains kind ||
    (separator == '_' && ['b', 'o', 'x', 'X'].contains kind)

/-- Reads a layout. -/
def read (written : String) : Except LayoutFault Layout := do
  let (filler, alignment, cs) := takeAlignment written.toList
  let (sign, cs) := takeOneOf [' ', '+', '-'] cs
  let (positiveZero, cs) := takeOneOf ['z'] cs
  let (alternate, cs) := takeOneOf ['#'] cs
  let (zero, cs) := if filler.isSome then (none, cs) else takeOneOf ['0'] cs
  let (width, cs) ← takeNumber cs
  let (comma, cs) := takeOneOf [','] cs
  let (underscore, cs) := takeOneOf ['_'] cs
  if underscore.isSome && (comma.isSome || cs.head? = some ',') then throw .bothSeparators
  let (precision, cs) ← takePrecision cs
  let kind ← match cs with
    | [] => pure textKind
    | [kind] => pure kind
    | _ => throw (.unreadable written)
  if let some separator := comma <|> underscore then
    if !isGrouped separator kind then throw (.separatorUnwanted separator kind)
  return {
    filler := (filler <|> zero).getD ' '
    alignment := alignment.getD .left
    sign
    positiveZero := positiveZero.isSome
    alternate := alternate.isSome
    width := width.getD 0
    precision
    kind }

/-- A layout for texts has none of the marks of numbers. -/
def check (l : Layout) : Except LayoutFault Unit :=
  if l.kind ≠ textKind then .error (.kindUnknown l.kind)
  else match l.sign with
    | some sign => .error (.signUnwanted sign)
    | none =>
      if l.positiveZero then .error .positiveZeroUnwanted
      else if l.alternate then .error .alternateUnwanted
      else if l.alignment = .inner then .error .innerAlignment
      else .ok ()

/-- How much filler goes before a text and how much behind it, of a number of fillers. -/
def share (a : Alignment) (n : Nat) : Nat × Nat :=
  match a with
  | .left | .inner => (0, n)
  | .right => (n, 0)
  | .center => (n / 2, n - n / 2)

/-- The characters of a text as the layout keeps and fills them. -/
def fit (l : Layout) (cs : List Char) : List Char :=
  let kept := match l.precision with
    | some n => cs.take n
    | none => cs
  let (before, after) := share l.alignment (l.width - kept.length)
  List.replicate before l.filler ++ kept ++ List.replicate after l.filler

/-- No column is as wide as this. -/
def widthBound : Nat := 2 ^ 32

/-- Sets a text. -/
def arrange (l : Layout) (s : String) : Except LayoutFault String := do
  l.check
  if widthBound ≤ l.width then throw .tooWide
  return String.ofList (l.fit s.toList)

/-! ## What setting keeps -/

theorem share_add (a : Alignment) (n : Nat) : (share a n).1 + (share a n).2 = n := by
  cases a <;> simp only [share] <;> omega

/-- A text without a precision fills its column and loses nothing. -/
theorem length_fit (l : Layout) (cs : List Char) (h : l.precision = none) :
    (l.fit cs).length = max l.width cs.length := by
  have := share_add l.alignment (l.width - cs.length)
  simp only [fit, h, List.length_append, List.length_replicate]
  omega

end Layout

end RevisionGraph.Text

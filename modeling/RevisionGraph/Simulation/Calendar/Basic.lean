/-!
# The calendar

A moment is a number of microseconds since the start of 1970; `Reading` is what a calendar and a
clock show at a moment, and `Reading.moment` goes back.  `format` writes a moment by a layout of
letters behind percent signs.

* **Days.**  Years are counted from March on, so that the day that is sometimes missing is the last
  one.
-/

set_option autoImplicit false

namespace RevisionGraph.Calendar

/-- Microseconds of a second. -/
def tick : Nat := 1000000

/-- Seconds of a day. -/
def daySeconds : Nat := 86400

/-! ## Days -/

/-- A day. -/
structure Date where
  year : Int
  /-- counted from one -/
  month : Nat
  day : Nat
  deriving DecidableEq, Repr

/-- The date of a day, counted from the start of 1970. -/
def Date.ofDay (day : Int) : Date :=
  let z := day + 719468
  let era := Int.fdiv z 146097
  let doe := (Int.fmod z 146097).toNat
  let yoe := (doe - doe / 1460 + doe / 36524 - doe / 146096) / 365
  let doy := doe - (365 * yoe + yoe / 4 - yoe / 100)
  let mp := (5 * doy + 2) / 153
  let month := if mp < 10 then mp + 3 else mp - 9
  { year := yoe + era * 400 + (if month ≤ 2 then 1 else 0), month
    day := doy - (153 * mp + 2) / 5 + 1 }

/-- The day of a date; a day beyond the end of the month is one of the next. -/
def Date.toDay (d : Date) : Int :=
  let y := d.year - (if d.month ≤ 2 then 1 else 0)
  let era := Int.fdiv y 400
  let yoe := (Int.fmod y 400).toNat
  let mp := if d.month ≤ 2 then d.month + 9 else d.month - 3
  let doe := yoe * 365 + yoe / 4 - yoe / 100 + (153 * mp + 2) / 5
  era * 146097 + doe + d.day - 1 - 719468

/-- The year has a day more. -/
def isLeap (year : Int) : Bool :=
  Int.fmod year 4 = 0 && (Int.fmod year 100 ≠ 0 || Int.fmod year 400 = 0)

/-- How many days a month has. -/
def monthLength (year : Int) (month : Nat) : Nat :=
  if month = 2 then (if isLeap year then 29 else 28)
  else if month = 4 || month = 6 || month = 9 || month = 11 then 30 else 31

/-- The day of the week, Sunday being zero. -/
def weekdayOf (day : Int) : Nat := (Int.fmod (day + 4) 7).toNat

/-! ## Moments -/

/-- What a calendar and a clock show. -/
structure Reading where
  date : Date
  hour : Nat
  minute : Nat
  second : Nat
  microsecond : Nat

namespace Reading

/-- What a calendar and a clock show at a moment. -/
def ofMoment (t : Int) : Reading :=
  let seconds := Int.fdiv t tick
  let within := (Int.fmod seconds daySeconds).toNat
  { date := .ofDay (Int.fdiv seconds daySeconds)
    hour := within / 3600, minute := within / 60 % 60, second := within % 60
    microsecond := (Int.fmod t tick).toNat }

/-- The moment at which they show it. -/
def moment (r : Reading) : Int :=
  (r.date.toDay * daySeconds + r.hour * 3600 + r.minute * 60 + r.second) * tick + r.microsecond

/-- The day of the week, counted from Sunday. -/
def weekday (r : Reading) : Nat := weekdayOf r.date.toDay

/-- The day of the year, counted from zero. -/
def yearDay (r : Reading) : Nat := (r.date.toDay - Date.toDay ⟨r.date.year, 1, 1⟩).toNat

/-- The year and the week of it that a day belongs to where weeks begin on Monday and belong to the
year of their Thursday. -/
def week (r : Reading) : Int × Nat :=
  let day := r.date.toDay
  let thursday := day - (Int.fmod (day + 3) 7) + 3
  let year := (Date.ofDay thursday).year
  (year, ((thursday - Date.toDay ⟨year, 1, 1⟩).toNat) / 7 + 1)

end Reading

/-! ## Names -/

/-- The months, from January on. -/
def monthNames : List String :=
  ["January", "February", "March", "April", "May", "June", "July", "August", "September", "October",
    "November", "December"]

/-- The days of the week, from Sunday on. -/
def weekdayNames : List String :=
  ["Sunday", "Monday", "Tuesday", "Wednesday", "Thursday", "Friday", "Saturday"]

/-- The first three letters of a name. -/
def short (name : String) : String := String.ofList (name.toList.take 3)

/-- The month by its name. -/
def Reading.monthName (r : Reading) : String := monthNames.getD (r.date.month - 1) ""

/-- The day of the week by its name. -/
def Reading.weekdayName (r : Reading) : String := weekdayNames.getD r.weekday ""

/-! ## Layouts -/

/-- How the text of one part of a moment is fitted into its place. -/
structure Fit where
  /-- what fills the place, if anything does -/
  fill : Option Char := none
  /-- nothing fills the place -/
  bare : Bool := false
  upper : Bool := false
  swapped : Bool := false
  width : Option Nat := none
  /-- how many colons stand before the letter -/
  colons : Nat := 0

namespace Fit

/-- A text that is filled up on the left. -/
def filled (fill : Char) (width : Nat) (s : String) : String :=
  "".pushn fill (width - s.length) ++ s

/-- A number in a place of some width, a fill of its own standing back behind one that is asked for.
-/
def number (f : Fit) (fill : Char) (width : Nat) (n : Int) : String :=
  let digits := toString n.natAbs
  let sign := if n < 0 then "-" else ""
  if f.bare then sign ++ digits
  else
    let fill := f.fill.getD fill
    let width := f.width.getD width - sign.length
    if fill = '0' then sign ++ filled '0' width digits
    else filled ' ' (f.width.getD width) (sign ++ digits)

/-- A text made to fit. -/
def text (f : Fit) (s : String) : String :=
  let s := if f.upper then s.toUpper else if f.swapped then s.toUpper else s
  match f.width with
  | some width => if f.bare then s else filled (f.fill.getD ' ') width s
  | none => s

/-- Reads flags, a width and colons before a letter. -/
def readFor : Nat → Fit → List Char → Fit × List Char
  | 0, f, cs => (f, cs)
  | n + 1, f, c :: rest =>
    if c = '-' then readFor n { f with bare := true } rest
    else if c = '_' then readFor n { f with fill := some ' ', bare := false } rest
    else if c = '0' && f.width.isNone then readFor n { f with fill := some '0', bare := false } rest
    else if c = '+' then readFor n { f with fill := some '0', bare := false } rest
    else if c = '^' then readFor n { f with upper := true } rest
    else if c = '#' then readFor n { f with swapped := true } rest
    else if c = ':' then readFor n { f with colons := f.colons + 1 } rest
    else if c.isDigit then
      readFor n { f with width := some (10 * f.width.getD 0 + (c.toNat - 48)) } rest
    else if c = 'E' || c = 'O' then readFor n f rest
    else (f, c :: rest)
  | _ + 1, f, [] => (f, [])

end Fit

/-- The offset of the zone, which always is none. -/
def zoneText (colons : Nat) : String :=
  ["+0000", "+00:00", "+00:00:00", "+00"].getD colons "+0000"

/-- The part of a moment that a letter means, or a layout that it stands for. -/
def partOf (r : Reading) (f : Fit) (letter : Char) : String ⊕ List Char :=
  let two (n : Nat) : String ⊕ List Char := .inl (f.number '0' 2 n)
  let twelve : Nat := if r.hour % 12 = 0 then 12 else r.hour % 12
  let layout (s : String) : String ⊕ List Char := .inr s.toList
  match letter with
  | 'a' => .inl (f.text (short r.weekdayName))
  | 'A' => .inl (f.text r.weekdayName)
  | 'b' | 'h' => .inl (f.text (short r.monthName))
  | 'B' => .inl (f.text r.monthName)
  | 'c' => layout "%a %b %e %H:%M:%S %Y"
  | 'C' => .inl (f.number '0' 2 (Int.fdiv r.date.year 100))
  | 'd' => two r.date.day
  | 'D' | 'x' => layout "%m/%d/%y"
  | 'e' => .inl (f.number ' ' 2 r.date.day)
  | 'F' => layout "%Y-%m-%d"
  | 'g' => .inl (f.number '0' 2 (Int.fmod r.week.1 100))
  | 'G' => .inl (f.number '0' 4 r.week.1)
  | 'H' => two r.hour
  | 'I' => two twelve
  | 'j' => .inl (f.number '0' 3 (r.yearDay + 1))
  | 'k' => .inl (f.number ' ' 2 r.hour)
  | 'l' => .inl (f.number ' ' 2 twelve)
  | 'm' => two r.date.month
  | 'M' => two r.minute
  | 'n' => .inl "\n"
  | 'N' =>
    let digits := Fit.filled '0' 9 (toString (r.microsecond * 1000))
    let digits := match f.width with
      | some width => String.ofList (digits.toList.take width)
      | none => digits
    .inl (if f.bare then
      String.ofList (digits.toList.reverse.dropWhile (· == '0')).reverse else digits)
  | 'p' => .inl (let s := if r.hour < 12 then "AM" else "PM"
      if f.swapped then s.toLower else f.text s)
  | 'P' => .inl (f.text (if r.hour < 12 then "am" else "pm"))
  | 'q' => .inl (f.number '0' 1 ((r.date.month + 2) / 3 : Nat))
  | 'r' => layout "%I:%M:%S %p"
  | 'R' => layout "%H:%M"
  | 's' => .inl (f.number '0' 1 (Int.fdiv r.moment tick))
  | 'S' => two r.second
  | 't' => .inl "\t"
  | 'T' | 'X' => layout "%H:%M:%S"
  | 'u' => .inl (f.number '0' 1 (if r.weekday = 0 then 7 else r.weekday : Nat))
  | 'U' => two ((r.yearDay + 7 - r.weekday) / 7)
  | 'V' => two r.week.2
  | 'w' => .inl (f.number '0' 1 r.weekday)
  | 'W' => two ((r.yearDay + 7 - (r.weekday + 6) % 7) / 7)
  | 'y' => .inl (f.number '0' 2 (Int.fmod r.date.year 100))
  | 'Y' => .inl (f.number '0' 4 r.date.year)
  | 'z' => .inl (zoneText f.colons)
  | 'Z' => .inl (if f.swapped then "utc" else f.text "UTC")
  | '%' => .inl "%"
  | c => .inl (String.ofList ['%', c])

/-- Writes what a calendar shows by a layout; the bound is on its length and on layouts within. -/
def formatFor (r : Reading) : Nat → List Char → String
  | 0, _ => ""
  | _ + 1, [] => ""
  | n + 1, '%' :: rest =>
    let (fit, after) := Fit.readFor (rest.length + 1) {} rest
    match after with
    | [] => String.ofList ('%' :: rest)
    | letter :: more =>
      let text := match partOf r fit letter with
        | .inl s => s
        | .inr layout => fit.text (formatFor r n layout)
      text ++ formatFor r n more
  | n + 1, c :: rest => String.ofList [c] ++ formatFor r n rest

/-- Writes a moment by a layout. -/
def format (layout : String) (t : Int) : String :=
  formatFor (.ofMoment t) (layout.length + 24) layout.toList

end RevisionGraph.Calendar

import RevisionGraph.Simulation.Calendar.Basic
import RevisionGraph.Number.Operations

/-!
# Dates in text

`readMoment?` is the moment that a text means at another one.  A text has parts in any order: a
date, a time of day, a zone, a day of the week, and distances such as `2 days ago`.  A date without
a time means its start; a text with distances alone means that far from now.
-/

set_option autoImplicit false

namespace RevisionGraph.Calendar

/-! ## Parts -/

/-- A part of a text on a moment. -/
inductive DateToken where
  /-- a number with its sign, if it has one, and the number of its digits -/
  | number (sign : Option Bool) (value digits : Nat)
  | word (s : String)
  | mark (c : Char)
  deriving DecidableEq

/-- The tokens of a text, in small letters; what stands in parentheses is left out.  The bound is on
the length of the text. -/
def dateTokensFor : Nat → List Char → List DateToken
  | 0, _ => []
  | _ + 1, [] => []
  | n + 1, c :: rest =>
    let number (sign : Option Bool) (cs : List Char) : List DateToken :=
      let digits := cs.takeWhile Char.isDigit
      .number sign (Nat.ofDigitChars 10 digits 0) digits.length ::
        dateTokensFor n (cs.drop digits.length)
    let behindBlanks := rest.dropWhile fun c ↦ c = ' ' || c = '\t'
    if c = ' ' || c = '\t' || c = '\n' then dateTokensFor n rest
    else if c = '(' then dateTokensFor n ((rest.dropWhile (· != ')')).drop 1)
    else if c.isDigit then number none (c :: rest)
    else if c.isAlpha then
      let letters := (c :: rest).takeWhile fun c ↦ c.isAlpha || c = '.'
      let bare := letters.filter (· != '.')
      .word (String.ofList bare) :: dateTokensFor n ((c :: rest).drop letters.length)
    else if (c = '+' || c = '-') && behindBlanks.head?.any Char.isDigit then
      number (some (c = '-')) behindBlanks
    else .mark c :: dateTokensFor n rest

/-- The parts that were read. -/
structure DateParts where
  date : Option (Option Int × Nat × Nat) := none
  time : Option (Nat × Nat × Nat × Nat) := none
  /-- minutes that the clock of the zone is ahead -/
  zone : Option Int := none
  /-- a day of the week, and which of those to come -/
  weekday : Option (Int × Nat) := none
  months : Int := 0
  days : Int := 0
  microseconds : Int := 0
  /-- there is a distance -/
  relative : Bool := false

namespace DateParts

/-- Takes a date, unless there is one. -/
def withDate (p : DateParts) (year : Option Int) (month day : Nat) : Option DateParts :=
  if p.date.isSome then none else some { p with date := some (year, month, day) }

/-- Takes a time of day, unless there is one. -/
def withTime (p : DateParts) (hour minute second micro : Nat) : Option DateParts :=
  if p.time.isSome || 23 < hour || 59 < minute || 59 < second then none
  else some { p with time := some (hour, minute, second, micro) }

/-- Takes a zone, unless there is one. -/
def withZone (p : DateParts) (minutes : Int) : Option DateParts :=
  if p.zone.isSome then none else some { p with zone := some minutes }

/-- A year of two digits is near 2000. -/
def yearOf (value digits : Nat) : Int :=
  if digits = 2 then (if value < 69 then 2000 + value else 1900 + value) else value

/-- Adds a distance in some unit; nothing comes back if there is no such unit. -/
def withDistance (p : DateParts) (count : Int) (name : String) : Option DateParts :=
  let unit := if name.endsWith "s" && 1 < name.length then
    String.ofList (name.toList.take (name.length - 1)) else name
  let p := { p with relative := true }
  let seconds (n : Nat) : Option DateParts :=
    some { p with microseconds := p.microseconds + count * (n * tick : Nat) }
  match unit with
  | "year" => some { p with months := p.months + 12 * count }
  | "month" => some { p with months := p.months + count }
  | "fortnight" => some { p with days := p.days + 14 * count }
  | "week" => some { p with days := p.days + 7 * count }
  | "day" => some { p with days := p.days + count }
  | "hour" => seconds 3600
  | "minute" | "min" => seconds 60
  | "second" | "sec" => seconds 1
  | _ => none

end DateParts

/-- The place of a name in a list that a word means, cut short to three letters or written out. -/
def nameIndex? (names : List String) (word : String) : Option Nat :=
  names.findIdx? fun n ↦
    let n := n.toLower
    word = n || word = short n || (word = "sept" && n = "september") ||
      (word = "tues" && n = "tuesday") || (["thur", "thurs"].contains word && n = "thursday") ||
      (["wednes"].contains word && n = "wednesday")

/-- Words that count. -/
def ordinals : List (String × Int) :=
  [("last", -1), ("this", 0), ("next", 1), ("first", 1), ("third", 3), ("fourth", 4), ("fifth", 5),
    ("sixth", 6), ("seventh", 7), ("eighth", 8), ("ninth", 9), ("tenth", 10), ("eleventh", 11),
    ("twelfth", 12)]

/-- Zones by their names, in minutes. -/
def zones : List (String × Int) :=
  [("utc", 0), ("gmt", 0), ("ut", 0), ("z", 0), ("wet", 0), ("est", -300), ("edt", -240),
    ("cst", -360), ("cdt", -300), ("mst", -420), ("mdt", -360), ("pst", -480), ("pdt", -420),
    ("cet", 60), ("cest", 120), ("eet", 120), ("jst", 540)]

/-- The zone that a word names, perhaps with the single letter of an hour. -/
def zoneOf? (word : String) : Option Int :=
  match (zones.find? (·.1 == word)).map Prod.snd, word.toList with
  | some minutes, _ => some minutes
  | none, [c] =>
    match "abcdefghiklm".toList.findIdx? (· == c), "nopqrstuvwxy".toList.findIdx? (· == c) with
    | some k, _ => some (60 * (k + 1 : Nat))
    | none, some k => some (-(60 * (k + 1 : Nat) : Int))
    | none, none => none
  | none, _ => none

/-- The offset of a zone in digits: hours, or hours and minutes. -/
def offsetOf (negative : Bool) (value digits : Nat) : Int :=
  let minutes : Int := if digits ≤ 2 then 60 * value else 60 * (value / 100) + value % 100
  if negative then -minutes else minutes

/-- Reads what may follow a time of day: half of the day, and a zone. -/
def readTime (p : DateParts) (hour minute second micro : Nat) (rest : List DateToken) :
    Option (DateParts × List DateToken) :=
  let (hour, rest) : Option Nat × List DateToken := match rest with
    | .word "am" :: rest => (if 1 ≤ hour && hour ≤ 12 then some (hour % 12) else none, rest)
    | .word "pm" :: rest => (if 1 ≤ hour && hour ≤ 12 then some (hour % 12 + 12) else none, rest)
    | rest => (some hour, rest)
  match hour.bind fun hour ↦ p.withTime hour minute second micro, rest with
  | none, _ => none
  | some p, .number (some negative) hours hourDigits :: .mark ':' :: .number none minutes 2 :: rest =>
    if hourDigits ≤ 2 then
      (p.withZone (offsetOf negative (100 * hours + minutes) 4)).map fun p ↦ (p, rest)
    else none
  | some p, .number (some negative) value digits :: rest =>
    (p.withZone (offsetOf negative value digits)).map fun p ↦ (p, rest)
  | some p, rest => some (p, rest)

/-- The millionths that digits behind a point are. -/
def fractionOf (value digits : Nat) : Nat :=
  if digits ≤ 6 then value * 10 ^ (6 - digits) else value / 10 ^ (digits - 6)

/-- Reads one part. -/
def readPart (p : DateParts) : List DateToken → Option (DateParts × List DateToken)
  | .number none y yd :: .number (some true) m _ :: .number (some true) d _ :: rest => do
    let p ← p.withDate (some (DateParts.yearOf y yd)) m d
    -- a time may follow behind a letter
    return (p, match rest with
      | .word "t" :: .number none h hd :: .mark ':' :: more => .number none h hd :: .mark ':' :: more
      | rest => rest)
  | .number none y yd :: .mark '/' :: .number none m _ :: .mark '/' :: .number none d dd :: rest => do
    let p ← if 4 ≤ yd then p.withDate (some y) m d
      else p.withDate (some (DateParts.yearOf d dd)) y m
    return (p, rest)
  | .number none m _ :: .mark '/' :: .number none d _ :: rest => do
    return (← p.withDate none m d, rest)
  | .number none h _ :: .mark ':' :: .number none m _ :: .mark ':' :: .number none s _ ::
      .mark '.' :: .number none f fd :: rest => readTime p h m s (fractionOf f fd) rest
  | .number none h _ :: .mark ':' :: .number none m _ :: .mark ':' :: .number none s _ :: rest =>
    readTime p h m s 0 rest
  | .number none h _ :: .mark ':' :: .number none m _ :: rest => readTime p h m 0 0 rest
  | .number none h hd :: .word "am" :: rest =>
    if hd ≤ 2 then readTime p h 0 0 0 (.word "am" :: rest) else none
  | .number none h hd :: .word "pm" :: rest =>
    if hd ≤ 2 then readTime p h 0 0 0 (.word "pm" :: rest) else none
  | .number none d dd :: .word w :: rest =>
    match nameIndex? monthNames w with
    | some k =>
      match rest with
      | .number none y yd :: .mark ':' :: more => do
        return (← p.withDate none (k + 1) d, .number none y yd :: .mark ':' :: more)
      | .number none y yd :: more => do
        return (← p.withDate (some (DateParts.yearOf y yd)) (k + 1) d, more)
      | rest => do return (← p.withDate none (k + 1) d, rest)
    | none =>
      match p.withDistance d w, rest with
      | some _, .word "ago" :: more => (p.withDistance (-(d : Int)) w).map fun p ↦ (p, more)
      | some p, rest => some (p, rest)
      | none, rest => readNumber p d dd (.word w :: rest)
  | .number (some negative) n _ :: .word w :: rest =>
    let count : Int := if negative then -(n : Int) else n
    match rest with
    | .word "ago" :: more => (p.withDistance (-count) w).map fun p ↦ (p, more)
    | rest => (p.withDistance count w).map fun p ↦ (p, rest)
  | .number none n d :: rest => readNumber p n d rest
  | .word w :: rest =>
    match w, rest with
    | "now", rest | "today", rest => some ({ p with relative := true }, rest)
    | "tomorrow", rest => some ({ p with relative := true, days := p.days + 1 }, rest)
    | "yesterday", rest => some ({ p with relative := true, days := p.days - 1 }, rest)
    | w, rest =>
      match nameIndex? monthNames w, nameIndex? weekdayNames w,
          (ordinals.find? (·.1 == w)).map Prod.snd, zoneOf? w with
      | some k, _, _, _ =>
        match rest with
        | .number none d _ :: .number none y yd :: .mark ':' :: more => do
          return (← p.withDate none (k + 1) d, .number none y yd :: .mark ':' :: more)
        | .number none d _ :: .number none y yd :: more
        | .number none d _ :: .mark ',' :: .number none y yd :: more => do
          return (← p.withDate (some (DateParts.yearOf y yd)) (k + 1) d, more)
        | .number none d _ :: more => do return (← p.withDate none (k + 1) d, more)
        | _ => none
      | none, some k, _, _ =>
        let rest := match rest with
          | .mark ',' :: rest => rest
          | rest => rest
        if p.weekday.isSome then none else some ({ p with weekday := some (0, k) }, rest)
      | none, none, some count, _ =>
        match rest with
        | .word unit :: more =>
          match nameIndex? weekdayNames unit with
          | some k => some ({ p with weekday := some (count, k) }, more)
          | none => (p.withDistance count unit).map fun p ↦ (p, more)
        | _ => none
      | none, none, none, some minutes =>
        match rest with
        | .number (some negative) value digits :: more => do
          return (← p.withZone (minutes + offsetOf negative value digits), more)
        | rest => do return (← p.withZone minutes, rest)
      | none, none, none, none => (p.withDistance 1 w).map fun p ↦ (p, rest)
  | _ => none
where
  /-- A number alone is a date, the year of one, or a time of day. -/
  readNumber (p : DateParts) (n digits : Nat) (rest : List DateToken) :
      Option (DateParts × List DateToken) :=
    match p.date with
    | some (none, month, day) =>
      if p.time.isSome || 2 < digits then
        some ({ p with date := some (some (DateParts.yearOf n digits), month, day) }, rest)
      else (p.withTime n 0 0 0).map fun p ↦ (p, rest)
    | _ =>
      if 4 < digits then
        (p.withDate (some (n / 10000 : Nat)) (n / 100 % 100) (n % 100)).map fun p ↦ (p, rest)
      else
        let (hour, minute) := if digits ≤ 2 then (n, 0) else (n / 100, n % 100)
        (p.withTime hour minute 0 0).map fun p ↦ (p, rest)

/-- Reads parts as long as there are any. -/
def readPartsFor : Nat → DateParts → List DateToken → Option DateParts
  | 0, _, _ => none
  | _ + 1, p, [] => some p
  | n + 1, p, tokens => do
    let (p, rest) ← readPart p tokens
    readPartsFor n p rest

/-! ## Moments -/

/-- The moment that parts mean at another one. -/
def DateParts.moment? (p : DateParts) (now : Int) : Option Int :=
  let today := Reading.ofMoment now
  let (year, month, day) := match p.date with
    | some (year, month, day) => (year.getD today.date.year, month, day)
    | none => (today.date.year, today.date.month, today.date.day)
  if month = 0 || 12 < month || day = 0 || monthLength year month < day then none
  else
    let (hour, minute, second, micro) : Nat × Nat × Nat × Nat := match p.time with
      | some t => t
      | none =>
        if p.date.isNone && p.weekday.isNone && p.relative then
          (today.hour, today.minute, today.second, today.microsecond)
        else (0, 0, 0, 0)
    let months := year * 12 + (month - 1 : Nat) + p.months
    let start := Date.toDay ⟨Int.fdiv months 12, (Int.fmod months 12).toNat + 1, 1⟩
    let first := start + (day - 1 : Nat)
    let ahead : Int := match p.weekday with
      | some (count, weekday) =>
        let current := weekdayOf first
        let delta : Int := Int.fmod ((weekday : Int) - current) 7
        if p.date.isSome then 0
        else delta + 7 * (count - (if 0 < count && current ≠ weekday then 1 else 0))
      | none => 0
    let seconds : Int := (first + ahead + p.days) * daySeconds + hour * 3600 + minute * 60 + second
    some ((seconds - 60 * p.zone.getD 0) * tick + micro + p.microseconds)

/-- The moment that a text means at another one. -/
def readMoment? (now : Int) (s : String) : Option Int :=
  match s.toList.dropWhile fun c ↦ c = ' ' with
  | '@' :: rest =>
    let rest := rest.dropWhile fun c ↦ c = ' '
    let (negative, rest) := match rest with
      | '-' :: rest => (true, rest)
      | '+' :: rest => (false, rest)
      | rest => (false, rest)
    let whole := rest.takeWhile Char.isDigit
    let n : Nat := Nat.ofDigitChars 10 whole 0 * tick
    let total? : Option Nat := match rest.drop whole.length with
      | [] => some n
      | '.' :: digits =>
        if digits.all Char.isDigit then
          some (n + fractionOf (Nat.ofDigitChars 10 digits 0) digits.length)
        else none
      | _ => none
    if whole.isEmpty then none
    else total?.map fun t ↦ if negative then -(t : Int) else (t : Int)
  | cs =>
    let tokens := dateTokensFor (cs.length + 1) (cs.map Char.toLower)
    if tokens.isEmpty then
      let r := Reading.ofMoment now
      some ({ r with hour := 0, minute := 0, second := 0, microsecond := 0 } : Reading).moment
    else (readPartsFor (tokens.length + 1) {} tokens).bind (·.moment? now)

/-- The moment of digits in pairs: the year, which may lack or be cut short, the month, the day, the
hour and the minute; seconds may stand behind a point. -/
def readStamp? (now : Int) (s : String) : Option Int := do
  let cs := s.toList
  let main := cs.takeWhile Char.isDigit
  let second ← match cs.drop main.length with
    | [] => some 0
    | ['.', a, b] =>
      if a.isDigit && b.isDigit then some (Nat.ofDigitChars 10 [a, b] 0) else none
    | _ => none
  let value (start count : Nat) : Nat := Nat.ofDigitChars 10 ((main.drop start).take count) 0
  let (year, start) : Int × Nat ← match main.length with
    | 8 => some ((Reading.ofMoment now).date.year, 0)
    | 10 => some (DateParts.yearOf (value 0 2) 2, 2)
    | 12 => some ((value 0 4 : Int), 4)
    | _ => none
  let p ← (DateParts.withDate {} (some year) (value start 2) (value (start + 2) 2)).bind fun p ↦
    p.withTime (value (start + 4) 2) (value (start + 6) 2) second 0
  p.moment? now

end RevisionGraph.Calendar

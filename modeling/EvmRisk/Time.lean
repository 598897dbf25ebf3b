import EvmRisk.Text.Basic

/-!
# Dates and instants

A date is a number of days since the first of January 1970, in the calendar in use since 1582,
carried on to all years before it and to a year zero. The year is taken to begin in March, so that
the leap day is its last, and four hundred years always have the same number of days.

An instant is a moment of universal time to the nanosecond, written as date, time and zone with a
fixed number of digits each. `Instant.text` writes the zone as `Z` and as many digits of the second
as are needed, by threes. `Instant.ofText?` is more generous: it takes one digit for two, blanks
before every number and mark, any zone, and a space for the `T`.
-/

namespace EvmRisk.Time

/-! ### Dates -/

/-- A day of the calendar. -/
structure Date where
  /-- The year; the year before 1 is 0. -/
  year : Int
  /-- The month, from 1 to 12. -/
  month : Nat
  /-- The day of the month, from 1. -/
  day : Nat
  deriving DecidableEq, Repr

/-- Whether a year has a leap day. -/
def isLeapYear (year : Int) : Bool := year % 4 = 0 && (year % 100 ≠ 0 || year % 400 = 0)

/-- How many days a month has. -/
def daysInMonth (year : Int) (month : Nat) : Nat :=
  if month = 2 then (if isLeapYear year then 29 else 28)
  else if month = 4 ∨ month = 6 ∨ month = 9 ∨ month = 11 then 30
  else 31

/-- The days of four hundred years. -/
def cycleDays : Int := 146097

/-- The days from the first of March of the year 0 to the first of January 1970. -/
def epochDays : Int := 719468

namespace Date

/-- Whether the calendar has such a day. -/
def isValid (d : Date) : Bool :=
  1 ≤ d.month && d.month ≤ 12 && 1 ≤ d.day && d.day ≤ daysInMonth d.year d.month

/-- The number of days from the first of January 1970 to a day. -/
def toDays (d : Date) : Int :=
  let year := if d.month ≤ 2 then d.year - 1 else d.year
  let cycle := year / 400
  let yearOfCycle := year - 400 * cycle
  let month : Int := if d.month ≤ 2 then d.month + 9 else d.month - 3
  let dayOfYear := (153 * month + 2) / 5 + d.day - 1
  let dayOfCycle := 365 * yearOfCycle + yearOfCycle / 4 - yearOfCycle / 100 + dayOfYear
  cycleDays * cycle + dayOfCycle - epochDays

/-- The day that comes so many days after the first of January 1970. -/
def ofDays (days : Int) : Date :=
  let shifted := days + epochDays
  let cycle := shifted / cycleDays
  let dayOfCycle := shifted - cycleDays * cycle
  let yearOfCycle :=
    (dayOfCycle - dayOfCycle / 1460 + dayOfCycle / 36524 - dayOfCycle / 146096) / 365
  let dayOfYear := dayOfCycle - (365 * yearOfCycle + yearOfCycle / 4 - yearOfCycle / 100)
  let month := (5 * dayOfYear + 2) / 153
  let day := dayOfYear - (153 * month + 2) / 5 + 1
  let year := yearOfCycle + 400 * cycle
  if month < 10 then ⟨year, (month + 3).toNat, day.toNat⟩
  else ⟨year + 1, (month - 9).toNat, day.toNat⟩

end Date

/-! ### Instants -/

/-- A moment of universal time. -/
structure Instant where
  /-- The day, counted from the first of January 1970. -/
  day : Int
  /-- The second of the day. -/
  second : Nat
  /-- The nanosecond; a second of them too many makes a leap second. -/
  nano : Nat
  deriving DecidableEq, Repr

/-- The seconds of a day. -/
def daySeconds : Nat := 86400

/-- The nanoseconds of a second. -/
def secondNanos : Nat := 1000000000

/-- The first and the last year that have instants. -/
def yearRange : Int × Int := (-262143, 262142)

namespace Instant

/-- The moment that comes so many nanoseconds after the beginning of 1970. -/
def ofNanos (nanos : Int) : Instant :=
  let seconds := nanos / secondNanos
  ⟨seconds / daySeconds, (seconds % daySeconds).toNat, (nanos % secondNanos).toNat⟩

/-! ### Writing -/

/-- A number in at least so many digits. -/
def padded (width n : Nat) : List Char := (Nat.toDigits 10 n).leftpad width '0'

/-- A year in four digits; one that does not fit has its sign and as many as it needs. -/
def yearText (year : Int) : List Char :=
  if 0 ≤ year ∧ year ≤ 9999 then padded 4 year.toNat
  else (if year < 0 then '-' else '+') :: padded 4 year.natAbs

/-- The digits of a second after its point: none, three, six or nine. -/
def fractionText (nano : Nat) : List Char :=
  if nano = 0 then []
  else if nano % 1000000 = 0 then '.' :: padded 3 (nano / 1000000)
  else if nano % 1000 = 0 then '.' :: padded 6 (nano / 1000)
  else '.' :: padded 9 nano

/-- An instant as it is written. -/
def text (i : Instant) : String :=
  let date := Date.ofDays i.day
  let leap := i.nano / secondNanos
  String.ofList <|
    yearText date.year ++ ['-'] ++ padded 2 date.month ++ ['-'] ++ padded 2 date.day ++ ['T'] ++
    padded 2 (i.second / 3600) ++ [':'] ++ padded 2 (i.second / 60 % 60) ++ [':'] ++
    padded 2 (i.second % 60 + leap) ++ fractionText (i.nano % secondNanos) ++ ['Z']

/-! ### Reading -/

/-- A number of one digit or more, up to `width`, and what follows it. -/
def number? (width : Nat) (cs : List Char) : Option (Nat × List Char) :=
  let digits := (cs.take width).takeWhile Char.isDigit
  if digits.isEmpty then none
  else some (Nat.ofDigitChars 10 digits 0, cs.drop digits.length)

/-- A number of a range, after any blanks. -/
def field? (least most : Nat) (cs : List Char) : Option (Nat × List Char) := do
  let (n, rest) ← number? 2 (Text.trimStart cs)
  if least ≤ n ∧ n ≤ most then some (n, rest) else none

/-- A mark, after any blanks. -/
def mark? (c : Char) (cs : List Char) : Option (List Char) :=
  match Text.trimStart cs with
  | d :: rest => if d = c then some rest else none
  | [] => none

/-- A year, after any blanks: up to four digits, or any number of them behind a sign. -/
def year? (cs : List Char) : Option (Int × List Char) :=
  match Text.trimStart cs with
  | '-' :: rest => (number? rest.length rest).map fun (n, rest) => (-(n : Int), rest)
  | '+' :: rest => (number? rest.length rest).map fun (n, rest) => ((n : Int), rest)
  | rest => (number? 4 rest).map fun (n, rest) => ((n : Int), rest)

/-- The digits of a second after its point, as nanoseconds; those after the ninth do not count. -/
def fraction? : List Char → Option (Nat × List Char)
  | '.' :: cs => do
    let (n, rest) ← number? 9 cs
    let places := cs.length - rest.length
    some (n * Nat.pow 10 (9 - places), rest.dropWhile Char.isDigit)
  | cs => some (0, cs)

/-- Exactly two digits, the first of them below `tens`. -/
def pair? (tens : Nat) : List Char → Option (Nat × List Char)
  | c :: d :: rest =>
    let n := c.toNat - '0'.toNat
    if c.isDigit ∧ d.isDigit ∧ n < tens then some (10 * n + (d.toNat - '0'.toNat), rest) else none
  | _ => none

/-- The hours and minutes of a zone, in seconds. Between them colons and blanks may stand. -/
def zoneAmount? (cs : List Char) : Option (Int × List Char) := do
  let (hours, rest) ← pair? 10 cs
  let (minutes, rest) ← pair? 6 (rest.dropWhile fun c => c = ':' || Text.isBlank c)
  some (3600 * hours + 60 * minutes, rest)

/-- By how many seconds a zone is ahead of universal time. -/
def zone? : List Char → Option (Int × List Char)
  | '+' :: rest => zoneAmount? rest
  | '-' :: rest => (zoneAmount? rest).map fun (s, rest) => (-s, rest)
  | '\u2212' :: rest => (zoneAmount? rest).map fun (s, rest) => (-s, rest)
  | c :: rest =>
    if c = 'Z' ∨ c = 'z' then some (0, rest)
    else if (c :: rest.take 2).map Char.toUpper = ['U', 'T', 'C'] then some (0, rest.drop 2)
    else none
  | [] => none

/-- The instant of a local date and time in a zone. -/
def ofLocal? (date : Date) (hour minute second nano : Nat) (zone : Int) : Option Instant :=
  let inRange (d : Date) : Bool := yearRange.1 ≤ d.year && d.year ≤ yearRange.2
  let leap := if second = 60 then 1 else 0
  let seconds : Int := 3600 * hour + 60 * minute + (second - leap : Nat) - zone
  let day := date.toDays + seconds / daySeconds
  if date.isValid && inRange date && inRange (Date.ofDays day) && zone.natAbs < daySeconds then
    some ⟨day, (seconds % daySeconds).toNat, nano + leap * secondNanos⟩
  else none

/-- The instant of a text. -/
def ofText? (cs : List Char) : Option Instant := do
  let (year, cs) ← year? cs
  let cs ← mark? '-' cs
  let (month, cs) ← field? 1 12 cs
  let cs ← mark? '-' cs
  let (day, cs) ← field? 1 31 cs
  let cs ← match cs with
    | c :: cs => if c = 't' ∨ c = 'T' ∨ c = ' ' then some cs else none
    | [] => none
  let (hour, cs) ← field? 0 23 cs
  let cs ← mark? ':' cs
  let (minute, cs) ← field? 0 59 cs
  let cs ← mark? ':' cs
  let (second, cs) ← field? 0 60 cs
  let (nano, cs) ← fraction? cs
  let (zone, cs) ← zone? (Text.trimStart cs)
  if (Text.trimStart cs).isEmpty then ofLocal? ⟨year, month, day⟩ hour minute second nano zone
  else none

end Instant

end EvmRisk.Time

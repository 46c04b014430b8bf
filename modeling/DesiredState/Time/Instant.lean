import DesiredState.Text.Blank

/-!
# Instants

A point in time as a date and a time of day in UTC, its texts, and the reading of RFC 3339 texts
with any offset.

Contents:

* `Instant`: the type; its fields always form a date of the calendar and a time of day.
* `Instant.wire`, `Instant.offsetText`, `Instant.plainText`, `Instant.minuteText`: four texts.
* `Instant.parse?`: reads a text, moving a local time to UTC.
* `Instant.afterEpoch?`: the instant some nanoseconds after the start of 1970.
-/

namespace DesiredState

/-! ## The calendar -/

def isLeapYear (year : Int) : Bool :=
  (year % 4 == 0 && year % 100 != 0) || year % 400 == 0

def daysInMonth (year : Int) (month : Nat) : Nat :=
  if month = 2 then (if isLeapYear year then 29 else 28)
  else if month = 4 || month = 6 || month = 9 || month = 11 then 30
  else 31

/-- The fields form a date and a time of day; second 60 is a leap second. -/
def isCalendarTime (year : Int) (month day hour minute second nano : Nat) : Bool :=
  -262143 ≤ year && year ≤ 262142 && 1 ≤ month && month ≤ 12
    && 1 ≤ day && day ≤ daysInMonth year month
    && hour < 24 && minute < 60 && second ≤ 60 && nano < 1000000000

/-- A point in time, in UTC. -/
structure Instant where
  year : Int
  month : Nat
  day : Nat
  hour : Nat
  minute : Nat
  second : Nat
  nano : Nat
  valid : isCalendarTime year month day hour minute second nano = true
  deriving DecidableEq

namespace Instant

/-- The instant with the given fields, if there is one. -/
def ofFields? (year : Int) (month day hour minute second nano : Nat) : Option Instant :=
  if h : isCalendarTime year month day hour minute second nano = true then
    some ⟨year, month, day, hour, minute, second, nano, h⟩
  else none

def epoch : Instant := ⟨1970, 1, 1, 0, 0, 0, 0, by decide⟩

instance : Inhabited Instant := ⟨epoch⟩

/-! ## Texts -/

def padded (width n : Nat) : List Char :=
  let ds := Nat.toDigits 10 n
  List.replicate (width - ds.length) '0' ++ ds

/-- Four digits for the years 0 to 9999, a sign and at least four digits for all others. -/
def yearText (year : Int) : List Char :=
  if year < 0 then '-' :: padded 4 year.natAbs
  else if year ≤ 9999 then padded 4 year.natAbs
  else '+' :: padded 4 year.natAbs

/-- The fraction of a second with the fewest groups of three digits that are exact. -/
def fractionText (nano : Nat) : List Char :=
  if nano = 0 then []
  else if nano % 1000000 = 0 then '.' :: padded 3 (nano / 1000000)
  else if nano % 1000 = 0 then '.' :: padded 6 (nano / 1000)
  else '.' :: padded 9 nano

def dateText (t : Instant) : List Char :=
  yearText t.year ++ '-' :: (padded 2 t.month ++ '-' :: padded 2 t.day)

def hourMinuteText (t : Instant) : List Char :=
  padded 2 t.hour ++ ':' :: padded 2 t.minute

def timeText (t : Instant) : List Char :=
  t.hourMinuteText ++ ':' :: (padded 2 t.second ++ fractionText t.nano)

def wire (t : Instant) : String :=
  String.ofList (t.dateText ++ 'T' :: (t.timeText ++ ['Z']))

def offsetText (t : Instant) : String :=
  String.ofList (t.dateText ++ 'T' :: (t.timeText ++ ['+', '0', '0', ':', '0', '0']))

/-- The form for readers: blanks between date, time and zone. -/
def plainText (t : Instant) : String :=
  String.ofList (t.dateText ++ ' ' :: (t.timeText ++ [' ', 'U', 'T', 'C']))

/-- The form of the history list, exact to the minute. -/
def minuteText (t : Instant) : String :=
  String.ofList (t.dateText ++ ' ' :: t.hourMinuteText)

/-! ## Moving by minutes -/

/-- The number of days from the first of March of year 0 to a date. -/
def dayNumber (year : Int) (month day : Nat) : Int :=
  let y := if month ≤ 2 then year - 1 else year
  let m : Nat := (month + 9) % 12
  365 * y + Int.fdiv y 4 - Int.fdiv y 100 + Int.fdiv y 400 + ((153 * m + 2) / 5 + day - 1 : Nat)

def dateOfDayNumber (n : Int) : Int × Nat × Nat :=
  let era := Int.fdiv n 146097
  let doe : Nat := (n - era * 146097).toNat
  let yoe := (doe - doe / 1460 + doe / 36524 - doe / 146096) / 365
  let doy := doe - (365 * yoe + yoe / 4 - yoe / 100)
  let mp := (5 * doy + 2) / 153
  let day := doy - (153 * mp + 2) / 5 + 1
  let month := if mp < 10 then mp + 3 else mp - 9
  let year : Int := yoe + era * 400
  (if month ≤ 2 then year + 1 else year, month, day)

/-- The instant some minutes earlier, if it lies within the calendar. -/
def minusMinutes? (t : Instant) (minutes : Int) : Option Instant :=
  if minutes = 0 then some t
  else
    let total := dayNumber t.year t.month t.day * 1440 + (t.hour * 60 + t.minute : Nat) - minutes
    let ofDay := (Int.fmod total 1440).toNat
    let (year, month, day) := dateOfDayNumber (Int.fdiv total 1440)
    ofFields? year month day (ofDay / 60) (ofDay % 60) t.second t.nano

/-- The instant some nanoseconds after the start of 1970, if it lies within the calendar. -/
def afterEpoch? (nanos : Int) : Option Instant :=
  let seconds := Int.fdiv nanos 1000000000
  let ofDay := (Int.fmod seconds 86400).toNat
  let (year, month, day) := dateOfDayNumber (dayNumber 1970 1 1 + Int.fdiv seconds 86400)
  ofFields? year month day (ofDay / 3600) (ofDay / 60 % 60) (ofDay % 60)
    (Int.fmod nanos 1000000000).toNat

/-! ## Reading -/

def digitsValue (ds : List Char) : Nat :=
  ds.foldl (fun n c => 10 * n + (c.toNat - 48)) 0

def skipBlanks (cs : List Char) : List Char :=
  cs.dropWhile Text.isBlank

def number? (most : Nat) (cs : List Char) : Option (Nat × List Char) :=
  let ds := (cs.take most).takeWhile Char.isDigit
  if ds.isEmpty then none else some (digitsValue ds, cs.drop ds.length)

def field? (cs : List Char) : Option (Nat × List Char) :=
  number? 2 (skipBlanks cs)

def mark? (m : Char) : List Char → Option (List Char)
  | c :: rest => if c = m then some rest else none
  | [] => none

/-- A year: up to four digits, or a sign and any number of digits. -/
def year? (cs : List Char) : Option (Int × List Char) :=
  match skipBlanks cs with
  | '-' :: rest => (number? rest.length rest).map fun (n, r) => (-(n : Int), r)
  | '+' :: rest => (number? rest.length rest).map fun (n, r) => ((n : Int), r)
  | rest => (number? 4 rest).map fun (n, r) => ((n : Int), r)

/-- An optional fraction of a second, exact to nine digits. -/
def fraction? : List Char → Option (Nat × List Char)
  | '.' :: rest =>
    let ds := rest.takeWhile Char.isDigit
    if ds.isEmpty then none
    else
      let kept := ds.take 9
      some (digitsValue kept * Nat.pow 10 (9 - kept.length), rest.drop ds.length)
  | rest => some (0, rest)

def twoDigits? : List Char → Option (Nat × List Char)
  | c :: d :: rest =>
    if c.isDigit && d.isDigit then some (digitsValue [c, d], rest) else none
  | _ => none

/-- The offset from UTC in minutes: `Z`, `UTC`, or a sign, hours and minutes. -/
def offset? (cs : List Char) : Option (Int × List Char) :=
  match cs with
  | 'Z' :: rest => some (0, rest)
  | 'z' :: rest => some (0, rest)
  | _ =>
    if (String.ofList (cs.take 3)).toLower = "utc" then some (0, cs.drop 3)
    else do
      let (negative, rest) ← match cs with
        | '+' :: rest => some (false, rest)
        | '-' :: rest => some (true, rest)
        | '−' :: rest => some (true, rest)
        | _ => none
      let (hours, rest) ← twoDigits? rest
      let (minutes, rest) ← twoDigits? (rest.dropWhile fun c => c = ':' || Text.isBlank c)
      if minutes < 60 && hours < 24 then
        let total : Int := (hours * 60 + minutes : Nat)
        some (if negative then -total else total, rest)
      else none

/-- The separator of date and time: a `T` or blanks. -/
def separator? : List Char → Option (List Char)
  | c :: rest =>
    if c = 'T' || c = 't' then some rest
    else if Text.isBlank c then some (skipBlanks rest)
    else none
  | [] => none

def ofChars? (cs : List Char) : Option Instant := do
  let (year, cs) ← year? cs
  let cs ← mark? '-' (skipBlanks cs)
  let (month, cs) ← field? cs
  let cs ← mark? '-' (skipBlanks cs)
  let (day, cs) ← field? cs
  let cs ← separator? cs
  let (hour, cs) ← field? cs
  let cs ← mark? ':' (skipBlanks cs)
  let (minute, cs) ← field? cs
  let cs ← mark? ':' (skipBlanks cs)
  let (second, cs) ← field? cs
  let (nano, cs) ← fraction? cs
  let (offset, cs) ← offset? (skipBlanks cs)
  if (skipBlanks cs).isEmpty then
    let there ← ofFields? year month day hour minute second nano
    there.minusMinutes? offset
  else none

/-- Reads an RFC 3339 text with any offset; blanks may stand between its parts. -/
def parse? (s : String) : Option Instant :=
  ofChars? s.toList

end Instant

end DesiredState

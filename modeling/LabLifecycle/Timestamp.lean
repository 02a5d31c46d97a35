import LabLifecycle.Json.Decode

/-!
# Points in time

A timestamp is a calendar date, a second of that day and a fraction of it, in UTC. A
leap second is kept as a fraction of more than a second after the last second of a minute.

Timestamps are read in the notation of RFC 3339 with some freedom: white space around the
parts, one or two digits for all but the year, a space or a small `t` before the time of
day, and an offset with or without a colon. They are written in one way only, with as many
groups of three fraction digits as are needed.
-/
namespace LabLifecycle

/-! ### Calendar dates -/

/-- Leap years of the Gregorian calendar. -/
def isLeapYear (year : Int) : Bool := year % 4 == 0 && (year % 100 != 0 || year % 400 == 0)

/-- The number of days in a month. -/
def daysInMonth (year : Int) (month : Nat) : Nat :=
  if month = 2 then (if isLeapYear year then 29 else 28)
  else if month = 4 || month = 6 || month = 9 || month = 11 then 30
  else 31

/-- The years that dates can have. -/
def isCalendarYear (year : Int) : Bool := -262143 ≤ year && year ≤ 262142

/-- A date of the Gregorian calendar. -/
structure Date where
  year : Int
  month : Nat
  day : Nat
  isCalendarYear : isCalendarYear year = true
  month_pos : 1 ≤ month
  month_le : month ≤ 12
  day_pos : 1 ≤ day
  day_le : day ≤ daysInMonth year month
  deriving DecidableEq

namespace Date

/-- The date of a year, a month and a day, if there is one. -/
def ofParts? (year : Int) (month day : Nat) : Option Date :=
  if h : LabLifecycle.isCalendarYear year = true ∧ 1 ≤ month ∧ month ≤ 12 ∧ 1 ≤ day ∧
      day ≤ daysInMonth year month then
    some ⟨year, month, day, h.1, h.2.1, h.2.2.1, h.2.2.2.1, h.2.2.2.2⟩
  else none

/-- The day after, unless it is beyond the calendar. -/
def next? (d : Date) : Option Date :=
  if d.day < daysInMonth d.year d.month then ofParts? d.year d.month (d.day + 1)
  else if d.month < 12 then ofParts? d.year (d.month + 1) 1
  else ofParts? (d.year + 1) 1 1

/-- The day before, unless it is beyond the calendar. -/
def previous? (d : Date) : Option Date :=
  if 1 < d.day then ofParts? d.year d.month (d.day - 1)
  else if 1 < d.month then ofParts? d.year (d.month - 1) (daysInMonth d.year (d.month - 1))
  else ofParts? (d.year - 1) 12 31

end Date

/-! ### Timestamps -/

/-- The number of seconds in a day. -/
def secondsPerDay : Nat := 86400

/-- The number of nanoseconds in a second. -/
def nanosPerSecond : Nat := 1000000000

/-- A point in time, in UTC. A fraction of a second or more belongs to a leap second. -/
structure Timestamp where
  date : Date
  second : Nat
  nanos : Nat
  second_lt : second < secondsPerDay
  nanos_lt : nanos < 2 * nanosPerSecond
  leap : nanosPerSecond ≤ nanos → second % 60 = 59
  deriving DecidableEq

namespace Timestamp

/-- The timestamp of its parts, if they fit together. -/
def ofParts? (date : Date) (second nanos : Nat) : Option Timestamp :=
  if h : second < secondsPerDay ∧ nanos < 2 * nanosPerSecond ∧
      (nanosPerSecond ≤ nanos → second % 60 = 59) then
    some ⟨date, second, nanos, h.1, h.2.1, h.2.2⟩
  else none

/-- Why a text is no timestamp. -/
inductive Flaw where
  | truncated
  | invalid
  | outOfRange
  | trailing
  | impossible
  deriving DecidableEq, Repr

/-- The wording of a flaw. -/
def Flaw.message : Flaw → String
  | truncated => "premature end of input"
  | invalid => "input contains invalid characters"
  | outOfRange => "input is out of range"
  | trailing => "trailing input"
  | impossible => "no possible date and time matching input"

/-- A step of reading: what was read, and the text after it. -/
abbrev Scan (α : Type) := List Char → Except Flaw (α × List Char)

/-- The value of a decimal digit. -/
def digitValue (c : Char) : Nat := c.toNat - '0'.toNat

/-- The number that a run of digits denotes. -/
def digitsValue (digits : List Char) : Nat := digits.foldl (fun n c => n * 10 + digitValue c) 0

/-- The text without white space at its start. -/
def skipSpace (s : List Char) : List Char := s.dropWhile isWhiteSpace

/-- The digits at the start of a text, `most` at most. -/
def leadingDigits (most : Nat) (s : List Char) : List Char := (s.take most).takeWhile Char.isDigit

/-- Digits, at least one and `most` at most. -/
def digits (most : Nat) : Scan (List Char) := fun s =>
  match s with
  | [] => .error .truncated
  | c :: _ =>
    if c.isDigit then .ok (leadingDigits most s, s.drop (leadingDigits most s).length)
    else .error .invalid

/-- A number of one or two digits in a range, after white space. -/
def number (low high : Nat) : Scan Nat := fun s => do
  let (ds, s) ← digits 2 (skipSpace s)
  if low ≤ digitsValue ds && digitsValue ds ≤ high then return (digitsValue ds, s)
  else throw .outOfRange

/-- A 32-bit year: up to four digits, or any number of them after a sign. -/
def year : Scan Int := fun s => do
  let (y, s) ← match skipSpace s with
    | '-' :: s => do
      let (ds, s) ← digits s.length s
      pure (-(digitsValue ds : Int), s)
    | '+' :: s => do
      let (ds, s) ← digits s.length s
      pure ((digitsValue ds : Int), s)
    | s => do
      let (ds, s) ← digits 4 s
      pure ((digitsValue ds : Int), s)
  if -0x80000000 ≤ y && y < 0x80000000 then return (y, s) else throw .outOfRange

/-- A certain character after white space. -/
def mark (c : Char) (s : List Char) : Except Flaw (List Char) :=
  match skipSpace s with
  | [] => .error .truncated
  | d :: rest => if d = c then .ok rest else .error .invalid

/-- The mark between the date and the time of day. -/
def separator : List Char → Except Flaw (List Char)
  | [] => .error .truncated
  | c :: rest => if c = 'T' || c = 't' || c = ' ' then .ok rest else .error .invalid

/-- A fraction of a second after a point, in nanoseconds; further digits are dropped. -/
def fraction : Scan Nat
  | '.' :: s => do
    let (ds, s) ← digits 9 s
    return (digitsValue (ds ++ List.replicate (9 - ds.length) '0'), s.dropWhile Char.isDigit)
  | s => .ok (0, s)

/-- Two digits, the first one up to `highest`. -/
def twoDigits (highest : Char) : Scan Nat
  | a :: b :: rest =>
    if a.isDigit && b.isDigit then
      if a ≤ highest then .ok (digitsValue [a, b], rest) else .error .outOfRange
    else .error .invalid
  | [a] => .error (if a.toNat < 128 then .truncated else .invalid)
  | [] => .error .truncated

/-- The seconds by which local time is ahead, after its sign. -/
def offsetMagnitude : Scan Int := fun s => do
  let (hours, s) ← twoDigits '9' s
  let (minutes, s) ← twoDigits '5' (s.dropWhile fun c => c = ':' || isWhiteSpace c)
  return (((hours * 60 + minutes) * 60 : Nat), s)

/-- The seconds by which local time is ahead of UTC. -/
def offset (s : List Char) : Except Flaw (Int × List Char) :=
  if (s.take 3).map Char.toUpper = ['U', 'T', 'C'] then .ok (0, s.drop 3)
  else match s with
    | [] => .error .truncated
    | c :: rest =>
      if c = 'Z' || c = 'z' then .ok (0, rest)
      else if c = '+' then offsetMagnitude rest
      else if c = '-' || c = '\u2212' then do
        let (seconds, rest) ← offsetMagnitude rest
        return (-seconds, rest)
      else .error .invalid

/-- The date on which a number of seconds after the start of a date falls, if that is at
most one day off, and the second of that date. -/
def shift? (date : Date) (second : Int) : Option (Date × Nat) :=
  if second < 0 then date.previous?.map (·, (second + secondsPerDay).toNat)
  else if second < secondsPerDay then some (date, second.toNat)
  else date.next?.map (·, (second - secondsPerDay).toNat)

/-- Read a timestamp. -/
def read (text : String) : Except Flaw Timestamp := do
  let (y, s) ← year text.toList
  let s ← mark '-' s
  let (month, s) ← number 1 12 s
  let s ← mark '-' s
  let (day, s) ← number 1 31 s
  let s ← separator s
  let (hour, s) ← number 0 23 s
  let s ← mark ':' s
  let (minute, s) ← number 0 59 s
  let s ← mark ':' s
  let (second, s) ← number 0 60 s
  let (nanos, s) ← fraction s
  let (ahead, s) ← offset (skipSpace s)
  unless (skipSpace s).isEmpty do throw .trailing
  let some date := Date.ofParts? y month day | throw .outOfRange
  unless ahead.natAbs < secondsPerDay do throw .outOfRange
  let leap := if second = 60 then 1 else 0
  let clock := (hour * 60 + minute) * 60 + (second - leap)
  let some (date, second) := shift? date (clock - ahead) | throw .impossible
  let some t := ofParts? date second (nanos + leap * nanosPerSecond) | throw .impossible
  return t

/-- The year with four digits at least, and a sign outside of 0 to 9999. -/
def yearText (year : Int) : String :=
  if 0 ≤ year && year ≤ 9999 then zeroPadded 4 year.toNat
  else (if year < 0 then "-" else "+") ++ zeroPadded 4 year.natAbs

/-- A fraction of a second in three, six or nine digits, or nothing. -/
def fractionText (nanos : Nat) : String :=
  if nanos = 0 then ""
  else if nanos % 1000000 = 0 then "." ++ zeroPadded 3 (nanos / 1000000)
  else if nanos % 1000 = 0 then "." ++ zeroPadded 6 (nanos / 1000)
  else "." ++ zeroPadded 9 nanos

/-- The text of a timestamp. -/
def text (t : Timestamp) : String :=
  let leap := t.nanos / nanosPerSecond
  yearText t.date.year ++ "-" ++ zeroPadded 2 t.date.month ++ "-" ++ zeroPadded 2 t.date.day ++
    "T" ++ zeroPadded 2 (t.second / 3600) ++ ":" ++ zeroPadded 2 (t.second / 60 % 60) ++ ":" ++
    zeroPadded 2 (t.second % 60 + leap) ++ fractionText (t.nanos % nanosPerSecond) ++ "Z"

/-- Read a timestamp, or word what is wrong with it. -/
def parse (text : String) : Except String Timestamp := (read text).mapError Flaw.message

/-- The timestamp as JSON. -/
def toJson (t : Timestamp) : Json.Value := .text t.text

/-- Decode a timestamp. -/
def ofJson : Json.Decoder Timestamp :=
  .textAs "an RFC 3339 formatted date and time string" parse

end Timestamp
end LabLifecycle

import Reroute.Text.Digit

/-!
# Dates and moments

Days of the calendar, and moments of a day with an optional offset from universal
time.
-/

namespace Reroute

structure Date where
  year : Nat
  month : Nat
  day : Nat
  deriving Repr, DecidableEq

namespace Date

def isLeap (year : Nat) : Bool := year % 4 = 0 && (year % 100 ≠ 0 || year % 400 = 0)

def monthLength (year month : Nat) : Nat :=
  match month with
  | 2 => if isLeap year then 29 else 28
  | 4 | 6 | 9 | 11 => 30
  | _ => 31

/-- The day with the given numbers, from year 1 to year 9999. -/
def ofNumbers? (year month day : Nat) : Option Date :=
  if 1 ≤ year && year ≤ 9999 && 1 ≤ month && month ≤ 12 && 1 ≤ day &&
      day ≤ monthLength year month then
    some ⟨year, month, day⟩
  else none

/-- The number of days before the first of January of a year, from year 1 on. -/
def daysBeforeYear (year : Nat) : Nat :=
  let y := year - 1
  365 * y + y / 4 - y / 100 + y / 400

/-- The number of days before the day, from year 1 on. -/
def ordinal (d : Date) : Nat :=
  let months := (List.range (d.month - 1)).map fun m => monthLength d.year (m + 1)
  months.foldl (· + ·) (daysBeforeYear d.year) + (d.day - 1)

/-- The year, the month and the day. -/
def numbers (d : Date) : List Nat := [d.year, d.month, d.day]

/-- The day in digits: four for the year and two for each of the others. -/
def text (d : Date) : List Char :=
  Text.padded 4 d.year ++ '-' :: Text.padded 2 d.month ++ '-' :: Text.padded 2 d.day

end Date

/-- A moment of a day, with its offset from universal time in minutes, if it has
one. -/
structure Moment where
  date : Date
  hour : Nat
  minute : Nat
  second : Nat
  microsecond : Nat
  offset : Option Int
  deriving Repr, DecidableEq

namespace Moment

/-- The moment with the given numbers. An offset is less than a day. -/
def ofNumbers? (date : Date) (hour minute second microsecond : Nat) (offset : Option Int) :
    Option Moment :=
  let offsetFits := match offset with
    | some o => -1440 < o && o < 1440
    | none => true
  if hour < 24 && minute < 60 && second < 60 && microsecond < 1000000 && offsetFits then
    some ⟨date, hour, minute, second, microsecond, offset⟩
  else none

/-- Microseconds of universal time since the start of year 1. -/
def instant (m : Moment) (offset : Int) : Int :=
  let minutes : Int := ((m.date.ordinal * 24 + m.hour) * 60 + m.minute : Nat) - offset
  (minutes * 60 + m.second) * 1000000 + m.microsecond

/-- Two moments are the same if they name one instant, or, when neither has an
offset, one reading of the clock. -/
def same (a b : Moment) : Bool :=
  match a.offset, b.offset with
  | some o, some p => a.instant o = b.instant p
  | none, none => a = b
  | _, _ => false

/-- The numbers of the moment; seconds and microseconds only where needed. -/
def numbers (m : Moment) : List Nat :=
  let clock :=
    if m.microsecond ≠ 0 then [m.hour, m.minute, m.second, m.microsecond]
    else if m.second ≠ 0 then [m.hour, m.minute, m.second]
    else [m.hour, m.minute]
  m.date.numbers ++ clock

/-- An offset in digits: a sign, the hours and the minutes. -/
def offsetText (minutes : Int) : List Char :=
  (if minutes < 0 then '-' else '+') ::
    Text.padded 2 (minutes.natAbs / 60) ++ ':' :: Text.padded 2 (minutes.natAbs % 60)

/-- The moment in digits; microseconds and offset only where there are some. -/
def text (m : Moment) : List Char :=
  let clock := Text.padded 2 m.hour ++ ':' :: Text.padded 2 m.minute ++ ':' ::
    Text.padded 2 m.second
  let fraction := if m.microsecond = 0 then [] else '.' :: Text.padded 6 m.microsecond
  m.date.text ++ ' ' :: clock ++ fraction ++ (m.offset.map offsetText).getD []

end Moment

end Reroute

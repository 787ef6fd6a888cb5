/-!
# Dates

Days are counted from 1970-01-01 in the Gregorian calendar, which is taken to hold at all times. A
year is counted from its first of March, so that the leap day is the last day of the year and the
lengths of the months before it never change.
-/

namespace FleetCompliance

/-- A date of the Gregorian calendar. -/
structure Date where
  year : Int
  /-- From 1 for January to 12 for December. -/
  month : Nat
  /-- From 1. -/
  day : Nat
deriving DecidableEq, Repr

/-- The days of the week, counted from Sunday. -/
inductive Weekday where
  | sun
  | mon
  | tue
  | wed
  | thu
  | fri
  | sat
deriving DecidableEq, Repr

namespace Weekday

/-- All days of the week, Sunday first. -/
def all : List Weekday := [sun, mon, tue, wed, thu, fri, sat]

/-- The number of days after Sunday. -/
def index : Weekday → Nat
  | sun => 0
  | mon => 1
  | tue => 2
  | wed => 3
  | thu => 4
  | fri => 5
  | sat => 6

/-- The short name. -/
def name : Weekday → String
  | sun => "sun"
  | mon => "mon"
  | tue => "tue"
  | wed => "wed"
  | thu => "thu"
  | fri => "fri"
  | sat => "sat"

/-- The weekday of a day. The first day of 1970 was a Thursday. -/
def ofDayNumber (n : Int) : Weekday :=
  match (n + 4) % 7 with
  | 0 => sun
  | 1 => mon
  | 2 => tue
  | 3 => wed
  | 4 => thu
  | 5 => fri
  | _ => sat

end Weekday

namespace Date

/-- Whether a year has a 29th of February. -/
def isLeap (year : Int) : Bool := (year % 4 == 0 && year % 100 != 0) || year % 400 == 0

/-- The number of days in a month. -/
def daysInMonth (year : Int) (month : Nat) : Nat :=
  if month = 2 then if isLeap year then 29 else 28
  else if month = 4 ∨ month = 6 ∨ month = 9 ∨ month = 11 then 30
  else 31

/-- Whether a date exists. -/
def isValid (d : Date) : Bool :=
  1 ≤ d.month && d.month ≤ 12 && 1 ≤ d.day && d.day ≤ daysInMonth d.year d.month

/-- The number of days in four hundred years. -/
def daysPerEra : Int := 146097

/-- The number of days from the first of March of the year 0 to 1970-01-01. -/
def epochShift : Int := 719468

/-- **The number of a day**, counted from 1970-01-01. -/
def dayNumber (d : Date) : Int :=
  let year := if d.month ≤ 2 then d.year - 1 else d.year
  let yearOfEra := year % 400
  let month : Int := (d.month + 9) % 12
  let dayOfYear := (153 * month + 2) / 5 + d.day - 1
  let dayOfEra := yearOfEra * 365 + yearOfEra / 4 - yearOfEra / 100 + dayOfYear
  year / 400 * daysPerEra + dayOfEra - epochShift

/-- **The date of a day**, by its number. -/
def ofDayNumber (n : Int) : Date :=
  let shifted := n + epochShift
  let dayOfEra := shifted % daysPerEra
  let yearOfEra := (dayOfEra - dayOfEra / 1460 + dayOfEra / 36524 - dayOfEra / 146096) / 365
  let dayOfYear := dayOfEra - (365 * yearOfEra + yearOfEra / 4 - yearOfEra / 100)
  let month := (5 * dayOfYear + 2) / 153
  let day := dayOfYear - (153 * month + 2) / 5 + 1
  let month := if month < 10 then month + 3 else month - 9
  let year := shifted / daysPerEra * 400 + yearOfEra
  ⟨if month ≤ 2 then year + 1 else year, month.toNat, day.toNat⟩

end Date

end FleetCompliance

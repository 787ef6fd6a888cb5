import FleetCompliance.Calendar.TimeZone

/-!
# The zones of the command line

The zones that the commands are delivered with, a small part of those that there are. Nothing but
the commands depends on them. Most of them keep one offset; some go ahead by a fixed saving for a
part of each year, between two changes that are given by rule, such as the second Sunday of March at
ten o'clock universal time. The rules are those in force from 2007 on. They are known up to 2099,
and from then on no change is made.
-/

namespace FleetCompliance.CommandLine

/-- Which Sunday of a month. -/
inductive SundayOf where
  /-- The first Sunday that is not before some day of the month. -/
  | notBefore (day : Nat)
  /-- The last Sunday of the month. -/
  | last

/-- A change of the clocks that comes every year. -/
structure YearlyChange where
  month : Nat
  sunday : SundayOf
  /-- Seconds from the start of that Sunday in universal time; negative for the day before. -/
  seconds : Int

namespace YearlyChange

/-- The number of the day of the change. -/
def dayNumber (c : YearlyChange) (year : Int) : Int :=
  match c.sunday with
  | .notBefore day =>
    let first := (Date.mk year c.month day).dayNumber
    first + (7 - (first + 4) % 7) % 7
  | .last =>
    let last := (Date.mk year c.month (Date.daysInMonth year c.month)).dayNumber
    last - (last + 4) % 7

/-- The seconds since 1970 at which the change is made. -/
def secondsIn (c : YearlyChange) (year : Int) : Int := c.dayNumber year * 86400 + c.seconds

end YearlyChange

/-- Summer time: its saving, its start and its end. -/
structure SummerTime where
  saving : Int
  starts : YearlyChange
  ends : YearlyChange

namespace SummerTime

/-- The changes that summer time makes to a standard offset in a year. In the south it ends earlier
in a year than it starts. -/
def changesIn (s : SummerTime) (standard year : Int) : List OffsetChange :=
  let start := ⟨s.starts.secondsIn year, standard + s.saving⟩
  let stop := ⟨s.ends.secondsIn year, standard⟩
  if start.since < stop.since then [start, stop] else [stop, start]

/-- The changes of all years for which the rules are known. -/
def changes (s : SummerTime) (standard : Int) : List OffsetChange :=
  (List.range 93).flatMap fun (n : Nat) => s.changesIn standard (2007 + n)

/-- Summer time in North America: from the second Sunday of March to the first of November, at two
in the morning by the clock that is running. -/
def american (standard : Int) : SummerTime where
  saving := 3600
  starts := ⟨3, .notBefore 8, 7200 - standard⟩
  ends := ⟨11, .notBefore 1, 3600 - standard⟩

/-- Summer time in Europe: from the last Sunday of March to that of October, everywhere at one
o'clock universal time. -/
def european (saving : Int) : SummerTime where
  saving := saving
  starts := ⟨3, .last, 3600⟩
  ends := ⟨10, .last, 3600⟩

/-- Summer time in south-eastern Australia: from the first Sunday of October to that of April. -/
def australian (saving starts ends : Int) : SummerTime where
  saving := saving
  starts := ⟨10, .notBefore 1, starts⟩
  ends := ⟨4, .notBefore 1, ends⟩

/-- Summer time on the Chatham Islands: from the last Sunday of September to the first of April,
when it is a quarter to three there. -/
def chatham : SummerTime where
  saving := 3600
  starts := ⟨9, .last, -36000⟩
  ends := ⟨4, .notBefore 1, -36000⟩

end SummerTime

/-- A zone of one offset. -/
def fixedZone (name : String) (standard : Int) : TimeZone := ⟨name, standard, []⟩

/-- A zone of two offsets. -/
def summerZone (name : String) (standard : Int) (summer : SummerTime) : TimeZone :=
  ⟨name, standard, summer.changes standard⟩

/-- A zone of North America. -/
def americanZone (name : String) (standard : Int) : TimeZone :=
  summerZone name standard (.american standard)

/-- A zone of Europe. -/
def europeanZone (name : String) (standard : Int) : TimeZone :=
  summerZone name standard (.european 3600)

/-- A zone with the clocks of Los Angeles, where local mean time was kept up to 1883. -/
def pacificZone (name : String) : TimeZone :=
  ⟨name, -28378, ⟨-2717640000, -28800⟩ :: (SummerTime.american (-28800)).changes (-28800)⟩

/-- **The known zones.** -/
def knownZones : List TimeZone :=
  [ fixedZone "UTC" 0,
    fixedZone "Etc/UTC" 0,
    fixedZone "GMT" 0,
    fixedZone "GMT0" 0,
    fixedZone "GMT+0" 0,
    fixedZone "Zulu" 0,
    fixedZone "Etc/GMT+5" (-18000),
    fixedZone "Etc/GMT+12" (-43200),
    fixedZone "Etc/GMT-14" 50400,
    pacificZone "America/Los_Angeles",
    pacificZone "US/Pacific",
    americanZone "PST8PDT" (-28800),
    americanZone "America/New_York" (-18000),
    americanZone "EST5EDT" (-18000),
    americanZone "America/Port-au-Prince" (-18000),
    americanZone "America/St_Johns" (-12600),
    fixedZone "EST" (-18000),
    fixedZone "America/Argentina/Ushuaia" (-10800),
    europeanZone "Europe/Berlin" 3600,
    europeanZone "Europe/London" 0,
    europeanZone "Europe/Paris" 3600,
    europeanZone "CET" 3600,
    europeanZone "Europe/Kiev" 7200,
    europeanZone "Europe/Kyiv" 7200,
    fixedZone "W-SU" 10800,
    summerZone "Antarctica/Troll" 0 (.european 7200),
    fixedZone "Asia/Kolkata" 19800,
    fixedZone "Asia/Calcutta" 19800,
    fixedZone "Asia/Kathmandu" 20700,
    fixedZone "Asia/Katmandu" 20700,
    fixedZone "Asia/Tokyo" 32400,
    summerZone "Australia/Lord_Howe" 37800 (.australian 1800 (-30600) (-32400)),
    summerZone "Australia/Sydney" 36000 (.australian 3600 (-28800) (-28800)),
    summerZone "Pacific/Chatham" 45900 .chatham,
    fixedZone "Pacific/Kiritimati" 50400 ]

/-- **The directory of the known zones.** Names are looked up as they are, letter by letter. -/
def zoneDirectory : ZoneDirectory := fun name => knownZones.find? (·.name == name)

end FleetCompliance.CommandLine

import FleetCompliance.Calendar.Date
import FleetCompliance.Text.Integer
import FleetCompliance.Json.Basic

/-!
# Instants

A moment in time, in milliseconds since the start of 1970 in universal time. The years reach from
-262143 to 262142, so every instant has a date.
-/

namespace FleetCompliance

/-- A moment in time. -/
structure Instant where
  millis : Int
  /-- Not before the year -262143. -/
  earliest_le : -8334601228800000 ≤ millis
  /-- Not after the year 262142. -/
  le_latest : millis ≤ 8210266876799999
deriving DecidableEq, Repr

namespace Instant

instance : LE Instant := ⟨fun a b => a.millis ≤ b.millis⟩

instance : DecidableLE Instant := fun a b => inferInstanceAs (Decidable (a.millis ≤ b.millis))

instance : LT Instant := ⟨fun a b => a.millis < b.millis⟩

instance : DecidableLT Instant := fun a b => inferInstanceAs (Decidable (a.millis < b.millis))

/-- The first instant. -/
def earliest : Instant := ⟨-8334601228800000, by decide, by decide⟩

/-- The instant at a number of milliseconds, if the calendar reaches so far. -/
def ofMillis? (n : Int) : Option Instant :=
  if h : -8334601228800000 ≤ n ∧ n ≤ 8210266876799999 then some ⟨n, h.1, h.2⟩ else none

/-- The milliseconds from `earlier` to `t`, negative if `earlier` is in fact the later one. -/
def since (t earlier : Instant) : Int := t.millis - earlier.millis

/-- The instant some milliseconds before `t`. Where the calendar does not reach, on either side, it
is the first instant. -/
def back (t : Instant) (millis : Int) : Instant := (ofMillis? (t.millis - millis)).getD earliest

/-- The whole seconds since the start of 1970, rounded down. -/
def seconds (t : Instant) : Int := t.millis / 1000

/-- A year with four digits, and a sign outside of 0 to 9999. -/
def yearText (year : Int) : String :=
  if 0 ≤ year ∧ year ≤ 9999 then Text.padded 4 year.toNat
  else if 0 ≤ year then "+" ++ Text.padded 4 year.toNat
  else "-" ++ Text.padded 4 year.natAbs

/-- A date as year, month and day between hyphens. -/
def dateText (d : Date) : String :=
  yearText d.year ++ "-" ++ Text.padded 2 d.month ++ "-" ++ Text.padded 2 d.day

/-- A time of day in hours, minutes, seconds and milliseconds. -/
def timeText (millisOfDay : Nat) : String :=
  let seconds := millisOfDay / 1000
  Text.padded 2 (seconds / 3600) ++ ":" ++ Text.padded 2 (seconds / 60 % 60) ++ ":"
    ++ Text.padded 2 (seconds % 60) ++ "." ++ Text.padded 3 (millisOfDay % 1000)

/-- **The text of an instant**: date and time in universal time, to the millisecond. -/
def text (t : Instant) : String :=
  dateText (Date.ofDayNumber (t.millis / 86400000)) ++ "T"
    ++ timeText (t.millis % 86400000).toNat ++ "Z"

/-- The instant at a JSON integer of milliseconds. -/
def ofJson? (j : Json) : Option Instant := do ofMillis? (← j.int?)

/-- An instant as its number of milliseconds. -/
def toJson (t : Instant) : Json := .num (.int t.millis)

end Instant

end FleetCompliance

import FleetCompliance.Policy.Basic
import FleetCompliance.Calendar.TimeZone

/-!
# The clock of an evaluation

An evaluation happens at one instant in one time zone. Whether a rule is active, how long a vehicle
has been standing and which events are recent are all told from this clock.
-/

namespace FleetCompliance

/-- An instant in a time zone. -/
structure Clock where
  now : Instant
  zone : TimeZone

namespace Clock

/-- How far the clock is ahead of universal time, in seconds. -/
def offset (c : Clock) : Int := c.zone.offsetAt c.now

/-- The seconds since the start of 1970 that a local clock would have counted. -/
def localSeconds (c : Clock) : Int := c.now.seconds + c.offset

/-- The local date. -/
def date (c : Clock) : Date := Date.ofDayNumber (c.localSeconds / 86400)

/-- The local weekday. -/
def weekday (c : Clock) : Weekday := Weekday.ofDayNumber (c.localSeconds / 86400)

/-- The local time of day. -/
def timeOfDay (c : Clock) : TimeOfDay := TimeOfDay.ofSeconds c.localSeconds

end Clock

/-- **Whether a time of day is within a window.** Both ends belong to it. A window whose start is
after its end spans midnight. -/
def windowContains (start stop : Option TimeOfDay) (t : TimeOfDay) : Bool :=
  match start, stop with
  | some s, some e => if e < s then s ≤ t || t ≤ e else s ≤ t && t ≤ e
  | some s, none => s ≤ t
  | none, some e => t ≤ e
  | none, none => true

/-- **Whether a rule is active**: today is one of its days, if it names any, and the time of day is
within its window. -/
def Clock.isActive (c : Clock) (s : Scope) : Bool :=
  (match s.days with
    | some (first :: rest) => (first :: rest).contains c.weekday
    | _ => true)
  && windowContains s.startTime s.endTime c.timeOfDay

end FleetCompliance

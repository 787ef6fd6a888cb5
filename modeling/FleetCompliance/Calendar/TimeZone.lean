import FleetCompliance.Calendar.Instant
import FleetCompliance.Text.Blank

/-!
# Time zones

A time zone says how far local time is ahead of universal time at each instant: by one offset at
first, and by another one from each change of its clocks on. Which zones there are and when their
clocks have been changed is nothing that is known here. It is told by a directory in which zones are
looked up by name.
-/

namespace FleetCompliance

/-- A change of the clocks of a zone. -/
structure OffsetChange where
  /-- The seconds since 1970 at which it is made. -/
  since : Int
  /-- The seconds ahead of universal time from then on. -/
  offset : Int
deriving DecidableEq, Repr

/-- A time zone. -/
structure TimeZone where
  name : String
  /-- The seconds ahead of universal time before the first change. -/
  first : Int
  /-- The changes, in order of time. -/
  changes : List OffsetChange
deriving DecidableEq, Repr

/-- **A directory of time zones**, by their names. -/
abbrev ZoneDirectory := String → Option TimeZone

namespace TimeZone

/-- **The offset of a zone** at an instant: that of the last change that has been made. -/
def offsetAt (z : TimeZone) (t : Instant) : Int :=
  z.changes.foldl (fun offset c => if c.since ≤ t.seconds then c.offset else offset) z.first

/-- Why there is no zone. -/
inductive Fault where
  /-- No name is given, or only blanks. -/
  | unset
  /-- The name, without blanks around it, is none of a zone. -/
  | unrecognized (name : String)
deriving DecidableEq, Repr

/-- **The zone that has to be named.** Blanks around the name do not count. -/
def required (zones : ZoneDirectory) (name : Option String) : Except Fault TimeZone :=
  match Text.trim (name.getD "") with
  | "" => .error .unset
  | trimmed =>
    match zones trimmed with
    | some z => .ok z
    | none => .error (.unrecognized trimmed)

end TimeZone

end FleetCompliance

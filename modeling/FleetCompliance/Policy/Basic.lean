import FleetCompliance.Calendar.TimeOfDay
import FleetCompliance.Vehicle.Basic

/-!
# Policies and rules

A policy is a list of rules with a name, a range of dates and possibly a list of the providers that
it binds. A rule says where, when and for which vehicles it holds, and then limits one of three
things: the number of vehicles, their speed, or how long they stand.

The rules of a policy are meant to be of one kind. A policy that mixes kinds can be written down and
read, but not evaluated.
-/

namespace FleetCompliance

/-- What a rule limits. -/
inductive RuleKind where
  | count
  | speed
  | time
deriving DecidableEq, Repr

/-- The unit of a speed limit. -/
inductive SpeedUnit where
  | metresPerSecond
  | kilometresPerHour
  | milesPerHour
deriving DecidableEq, Repr

/-- The unit of a time limit. -/
inductive TimeUnit where
  | seconds
  | minutes
  | hours
  | days
deriving DecidableEq, Repr

/-- A speed given in metres per second, in another unit. A mile has 1609.344 metres. -/
def SpeedUnit.ofMetresPerSecond (u : SpeedUnit) (speed : Float) : Float :=
  match u with
  | metresPerSecond => speed
  | kilometresPerHour => speed * 3.6
  | milesPerHour => speed * 3600.0 / 1609.344

/-- The length of a unit of time in milliseconds. -/
def TimeUnit.millis : TimeUnit → Int
  | seconds => 1000
  | minutes => 60000
  | hours => 3600000
  | days => 86400000

/-- For each state that a rule accepts, the reasons that it accepts; an empty list accepts any. -/
abbrev StateFilter := VehicleState → Option (List EventType)

/-- Where, when and for which vehicles a rule holds. What is absent does not restrict, and neither
does an empty list of vehicle types or days. -/
structure Scope where
  ruleId : Identifier .rule
  name : String
  geographies : List (Identifier .geography)
  states : Option StateFilter
  vehicleTypes : Option (List VehicleType)
  days : Option (List Weekday)
  startTime : Option TimeOfDay
  endTime : Option TimeOfDay

/-- A limit on the number of vehicles. -/
structure CountRule where
  scope : Scope
  maximum : Option UInt64
  minimum : Option UInt64

/-- A speed limit: a vehicle at least as fast as the maximum violates it. -/
structure SpeedRule where
  scope : Scope
  maximum : Option Float
  unit : Option SpeedUnit

/-- A limit on standing: a vehicle that stands at least as long as the maximum violates it. -/
structure TimeRule where
  scope : Scope
  maximum : Option Float
  unit : Option TimeUnit

/-- A rule of any kind. -/
inductive Rule where
  | count (rule : CountRule)
  | speed (rule : SpeedRule)
  | time (rule : TimeRule)

namespace Rule

/-- Where, when and for which vehicles a rule holds. -/
def scope : Rule → Scope
  | count r => r.scope
  | speed r => r.scope
  | time r => r.scope

/-- The identifier of a rule. -/
def ruleId (r : Rule) : Identifier .rule := r.scope.ruleId

/-- What a rule limits. -/
def kind : Rule → RuleKind
  | count _ => .count
  | speed _ => .speed
  | time _ => .time

end Rule

/-- A policy. -/
structure Policy where
  policyId : Identifier .policy
  name : String
  description : Option String
  startDate : Instant
  /-- Absent if the policy holds without end. -/
  endDate : Option Instant
  publishDate : Option Instant
  /-- The policies that this one replaces. -/
  prevPolicies : Option (List (Identifier .policy))
  /-- The providers that the policy binds. Absent or empty, it binds all. -/
  providerIds : Option (List (Identifier .provider))
  rules : List Rule

namespace Policy

/-- The providers that a policy is restricted to, absent if it binds all. -/
def restriction (p : Policy) : Option (List (Identifier .provider)) :=
  match p.providerIds with
  | some (first :: rest) => some (first :: rest)
  | _ => none

/-- **Whether a policy is in force** at an instant. Both ends of its range belong to it. -/
def isActive (p : Policy) (now : Instant) : Bool :=
  p.startDate ≤ now && p.endDate.all (now ≤ ·)

end Policy

end FleetCompliance

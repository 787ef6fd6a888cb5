import FleetCompliance.Total
import FleetCompliance.Vehicle.Basic

/-!
# Verdicts

What an evaluation finds: which vehicles match a policy's rules, which rule each of them counts
under, and how many violations that makes. While an evaluation adds these up the sum may leave the
words, so that a verdict is a tally first. A snapshot is a verdict on one provider at one instant,
with an identifier of its own.
-/

namespace FleetCompliance

/-- A vehicle that matches a rule, as its event describes it. -/
structure MatchedVehicle where
  deviceId : Identifier .device
  state : VehicleState
  eventTypes : List EventType
  timestamp : Instant
  position : Position
  speed : Option Float
  /-- The rule that the vehicle counts under; absent if it is in excess of every rule's limit. -/
  ruleApplied : Option (Identifier .rule)
  /-- Every rule that the vehicle matches. -/
  rulesMatched : List (Identifier .rule)

namespace MatchedVehicle

/-- **Notes a rule that a vehicle matches**, unless it is noted already. -/
def note (v : MatchedVehicle) (rule : Identifier .rule) : MatchedVehicle :=
  if v.rulesMatched.contains rule then v else { v with rulesMatched := v.rulesMatched ++ [rule] }

/-- The order of vehicles: by the time of their events, and by device where the times are equal. -/
def notAfter (a b : MatchedVehicle) : Bool :=
  a.timestamp < b.timestamp || (a.timestamp = b.timestamp && a.deviceId ≤ b.deviceId)

/-- The entry of an event for its first matching rule. An event without telemetry is put at the
origin. -/
def ofEvent (e : Event) (applied : Option (Identifier .rule)) (matched : Identifier .rule) :
    MatchedVehicle where
  deviceId := e.deviceId
  state := e.state
  eventTypes := e.eventTypes
  timestamp := e.timestamp
  position := (e.telemetry.map (·.fix.position)).getD ⟨0, 0⟩
  speed := e.telemetry.bind (·.fix.speed)
  ruleApplied := applied
  rulesMatched := [matched]

end MatchedVehicle

/-- The result of evaluating one policy on one fleet, with a count of the violations. -/
structure Verdict (Count : Type) where
  vehiclesFound : List MatchedVehicle
  excess : UInt64
  violations : Count

/-- **A verdict as its evaluation leaves it**, with a total that may be missing. -/
abbrev Tally := Verdict Total

/-- The tally of a verdict whose violations have been counted. -/
def Verdict.tally (v : Verdict UInt64) : Tally := ⟨v.vehiclesFound, v.excess, some v.violations⟩

/-- **The verdict of a tally** that has a total. Without one there is no verdict: the evaluation has
broken off. -/
def Verdict.counted? (t : Tally) : Option (Verdict UInt64) :=
  t.violations.map fun n => ⟨t.vehiclesFound, t.excess, n⟩

/-- The policy that a snapshot is about. -/
structure PolicyReference where
  policyId : Identifier .policy
  name : String
deriving DecidableEq, Repr

/-- A finding: the verdict on one policy and one provider, before it is given an identifier. -/
structure Finding where
  policy : PolicyReference
  providerId : Identifier .provider
  verdict : Verdict UInt64

/-- A finding at an instant, with an identifier of its own. -/
structure Snapshot where
  snapshotId : Identifier .snapshot
  asOf : Instant
  finding : Finding

end FleetCompliance

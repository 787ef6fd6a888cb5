import FleetCompliance.Verdict.Basic
import FleetCompliance.Vehicle.Codec

/-!
# Verdicts in JSON
-/

namespace FleetCompliance

namespace MatchedVehicle

/-- The fields of a matched vehicle. -/
def fields : List String :=
  ["device_id", "state", "event_types", "timestamp", "gps", "speed", "rule_applied",
   "rules_matched"]

/-- A matched vehicle in JSON. -/
def ofJson? (j : Json) : Option MatchedVehicle := do
  let r ← Json.Record.ofJson? fields j
  return {
    deviceId := ← r.required "device_id" Identifier.ofJson?
    state := ← r.required "state" (Json.named? VehicleState.names false)
    eventTypes := ← r.required "event_types" (Json.listOf (Json.named? EventType.names false))
    timestamp := ← r.required "timestamp" Instant.ofJson?
    position := ← r.required "gps" Position.ofJson?
    speed := ← r.optional "speed" Json.float?
    ruleApplied := ← r.optional "rule_applied" Identifier.ofJson?
    rulesMatched := ← r.required "rules_matched" (Json.listOf Identifier.ofJson?) }

/-- A matched vehicle as JSON. -/
def toJson (v : MatchedVehicle) : Json :=
  .obj ([("device_id", v.deviceId.toJson), ("state", .str v.state.name),
      ("event_types", .arr (v.eventTypes.map fun t => .str t.name)),
      ("timestamp", v.timestamp.toJson), ("gps", v.position.toJson)]
    ++ Json.member? "speed" .ofFloat v.speed
    ++ Json.member? "rule_applied" Identifier.toJson v.ruleApplied
    ++ [("rules_matched", .arr (v.rulesMatched.map Identifier.toJson))])

end MatchedVehicle

namespace Verdict

/-- The fields of a verdict. -/
def fields : List String := ["vehicles_found", "excess_vehicles_count", "total_violations"]

/-- A verdict in JSON. -/
def ofJson? (j : Json) : Option (Verdict UInt64) := do
  let r ← Json.Record.ofJson? fields j
  return {
    vehiclesFound := ← r.required "vehicles_found" (Json.listOf MatchedVehicle.ofJson?)
    excess := ← r.required "excess_vehicles_count" Json.word?
    violations := ← r.required "total_violations" Json.word? }

/-- A verdict as JSON. -/
def toJson (v : Verdict UInt64) : Json :=
  .obj [("vehicles_found", .arr (v.vehiclesFound.map MatchedVehicle.toJson)),
    ("excess_vehicles_count", .ofWord v.excess), ("total_violations", .ofWord v.violations)]

end Verdict

/-- The reference to a policy in JSON. -/
def PolicyReference.ofJson? (j : Json) : Option PolicyReference := do
  let r ← Json.Record.ofJson? ["policy_id", "name"] j
  return {
    policyId := ← r.required "policy_id" Identifier.ofJson?
    name := ← r.required "name" Json.text? }

/-- The reference to a policy as JSON. -/
def PolicyReference.toJson (p : PolicyReference) : Json :=
  .obj [("policy_id", p.policyId.toJson), ("name", .str p.name)]

namespace Snapshot

/-- The fields of a snapshot. -/
def fields : List String :=
  ["compliance_snapshot_id", "compliance_as_of", "policy", "provider_id",
   "excess_vehicles_count", "total_violations", "vehicles_found"]

/-- A snapshot in JSON. -/
def ofJson? (j : Json) : Option Snapshot := do
  let r ← Json.Record.ofJson? fields j
  return {
    snapshotId := ← r.required "compliance_snapshot_id" Identifier.ofJson?
    asOf := ← r.required "compliance_as_of" Instant.ofJson?
    finding := {
      policy := ← r.required "policy" PolicyReference.ofJson?
      providerId := ← r.required "provider_id" Identifier.ofJson?
      verdict := {
        excess := ← r.required "excess_vehicles_count" Json.word?
        violations := ← r.required "total_violations" Json.word?
        vehiclesFound := ← r.required "vehicles_found" (Json.listOf MatchedVehicle.ofJson?) } } }

/-- A snapshot as JSON. -/
def toJson (s : Snapshot) : Json :=
  .obj [("compliance_snapshot_id", s.snapshotId.toJson), ("compliance_as_of", s.asOf.toJson),
    ("policy", s.finding.policy.toJson), ("provider_id", s.finding.providerId.toJson),
    ("excess_vehicles_count", .ofWord s.finding.verdict.excess),
    ("total_violations", .ofWord s.finding.verdict.violations),
    ("vehicles_found", .arr (s.finding.verdict.vehiclesFound.map MatchedVehicle.toJson))]

end Snapshot

end FleetCompliance

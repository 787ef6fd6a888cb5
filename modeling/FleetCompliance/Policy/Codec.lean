import FleetCompliance.Fault
import FleetCompliance.Json.Parser
import FleetCompliance.Json.Record
import FleetCompliance.Vehicle.Codec

/-!
# Policies in JSON

A rule is an object that names its kind under `rule_type`. All rules' kinds are looked at before
anything else in a policy, so that an unknown kind is reported as such and by name, whatever else is
wrong with the policy.
-/

namespace FleetCompliance

/-- All kinds of rules. -/
def RuleKind.all : List RuleKind := [count, speed, time]

/-- The kind of a name. -/
def RuleKind.ofName? (name : String) : Option RuleKind := all.find? (·.name == name)

/-- The name of a unit of speed. -/
def SpeedUnit.name : SpeedUnit → String
  | metresPerSecond => "mps"
  | kilometresPerHour => "kph"
  | milesPerHour => "mph"

/-- The units of speed by name. -/
def SpeedUnit.names : List (String × SpeedUnit) :=
  [metresPerSecond, kilometresPerHour, milesPerHour].map fun u => (u.name, u)

/-- The name of a unit of time. -/
def TimeUnit.name : TimeUnit → String
  | seconds => "seconds"
  | minutes => "minutes"
  | hours => "hours"
  | days => "days"

/-- The units of time by name. -/
def TimeUnit.names : List (String × TimeUnit) :=
  [seconds, minutes, hours, days].map fun u => (u.name, u)

/-- The days of the week by name. -/
def Weekday.names : List (String × Weekday) := all.map fun d => (d.name, d)

namespace StateFilter

/-- A filter in JSON: an object from states to lists of reasons. Of a repeated state the last list
counts, but all have to be readable. -/
def ofJson? (orEmpty : Bool) : Json → Option StateFilter
  | .obj members => do
    let entries ← members.mapM fun (key, j) => do
      return (← VehicleState.names.lookup key,
        ← Json.listOf (Json.named? EventType.names orEmpty) j)
    return fun s => (entries.reverse.find? (·.1 = s)).map (·.2)
  | _ => none

/-- A filter as JSON. -/
def toJson (f : StateFilter) : Json :=
  .obj (VehicleState.all.filterMap fun s =>
    (f s).map fun types => (s.name, .arr (types.map fun t => .str t.name)))

end StateFilter

namespace Scope

/-- The fields of a scope. -/
def fields : List String :=
  ["rule_id", "name", "geographies", "states", "vehicle_types", "days", "start_time", "end_time"]

/-- A scope from its fields. Within a rule a name may also be the key of an object that holds an
empty object, which `orEmpty` allows. -/
def ofRecord? (orEmpty : Bool) (r : Json.Record) : Option Scope := do
  return {
    ruleId := ← r.required "rule_id" Identifier.ofJson?
    name := ← r.required "name" Json.text?
    geographies := ← r.required "geographies" (Json.listOf Identifier.ofJson?)
    states := ← r.optional "states" (StateFilter.ofJson? orEmpty)
    vehicleTypes :=
      ← r.optional "vehicle_types" (Json.listOf (Json.named? VehicleType.names orEmpty))
    days := ← r.optional "days" (Json.listOf (Json.named? Weekday.names orEmpty))
    startTime := ← r.optional "start_time" TimeOfDay.ofJson?
    endTime := ← r.optional "end_time" TimeOfDay.ofJson? }

/-- A scope by itself, in JSON. -/
def ofJson? (j : Json) : Option Scope := do ofRecord? false (← Json.Record.ofJson? fields j)

/-- The members of a scope. -/
def members (s : Scope) : List (String × Json) :=
  [("rule_id", s.ruleId.toJson), ("name", .str s.name),
    ("geographies", .arr (s.geographies.map Identifier.toJson))]
  ++ Json.member? "states" StateFilter.toJson s.states
  ++ Json.member? "vehicle_types" (fun ts => .arr (ts.map fun t => .str t.name)) s.vehicleTypes
  ++ Json.member? "days" (fun ds => .arr (ds.map fun d => .str d.name)) s.days
  ++ Json.member? "start_time" TimeOfDay.toJson s.startTime
  ++ Json.member? "end_time" TimeOfDay.toJson s.endTime

end Scope

namespace Rule

/-- The fields of a rule of some kind. -/
def fields (kind : RuleKind) : List String :=
  "rule_type" :: "maximum" :: (if kind = .count then "minimum" else "rule_units") :: Scope.fields

/-- The kind that a rule names. -/
def kind? (j : Json) : Option RuleKind := do RuleKind.ofName? (← (← j.get? "rule_type").text?)

/-- **A rule in JSON.** Which fields it has depends on its kind. -/
def ofJson? (j : Json) : Option Rule := do
  let kind ← kind? j
  let r ← Json.Record.ofObject? (fields kind) j
  let scope ← Scope.ofRecord? true r
  match kind with
  | .count =>
    return count {
      scope
      maximum := ← r.optional "maximum" Json.word?
      minimum := ← r.optional "minimum" Json.word? }
  | .speed =>
    return speed {
      scope
      maximum := ← r.optional "maximum" Json.float?
      unit := ← r.optional "rule_units" (Json.named? SpeedUnit.names true) }
  | .time =>
    return time {
      scope
      maximum := ← r.optional "maximum" Json.float?
      unit := ← r.optional "rule_units" (Json.named? TimeUnit.names true) }

/-- The members of a rule's limit. -/
def limits : Rule → List (String × Json)
  | count r => Json.member? "maximum" .ofWord r.maximum ++ Json.member? "minimum" .ofWord r.minimum
  | speed r =>
    Json.member? "maximum" .ofFloat r.maximum
      ++ Json.member? "rule_units" (fun u => .str u.name) r.unit
  | time r =>
    Json.member? "maximum" .ofFloat r.maximum
      ++ Json.member? "rule_units" (fun u => .str u.name) r.unit

/-- A rule as JSON. -/
def toJson (r : Rule) : Json :=
  .obj (("rule_type", .str r.kind.name) :: r.scope.members ++ r.limits)

end Rule

namespace Policy

/-- The fields of a policy. -/
def fields : List String :=
  ["policy_id", "name", "description", "start_date", "end_date", "publish_date", "prev_policies",
   "provider_ids", "rules"]

/-- A policy in JSON, with rules of known kinds. -/
def ofJson? (j : Json) : Option Policy := do
  let r ← Json.Record.ofJson? fields j
  return {
    policyId := ← r.required "policy_id" Identifier.ofJson?
    name := ← r.required "name" Json.text?
    description := ← r.optional "description" Json.text?
    startDate := ← r.required "start_date" Instant.ofJson?
    endDate := ← r.optional "end_date" Instant.ofJson?
    publishDate := ← r.optional "publish_date" Instant.ofJson?
    prevPolicies := ← r.optional "prev_policies" (Json.listOf Identifier.ofJson?)
    providerIds := ← r.optional "provider_ids" (Json.listOf Identifier.ofJson?)
    rules := ← r.required "rules" (Json.listOf Rule.ofJson?) }

/-- A policy as JSON. -/
def toJson (p : Policy) : Json :=
  .obj ([("policy_id", p.policyId.toJson), ("name", .str p.name)]
    ++ Json.member? "description" .str p.description
    ++ [("start_date", p.startDate.toJson),
      ("end_date", Json.orNull Instant.toJson p.endDate),
      ("publish_date", Json.orNull Instant.toJson p.publishDate),
      ("prev_policies", Json.orNull (fun ids => .arr (ids.map Identifier.toJson)) p.prevPolicies),
      ("provider_ids", Json.orNull (fun ids => .arr (ids.map Identifier.toJson)) p.providerIds),
      ("rules", .arr (p.rules.map Rule.toJson))])

/-- The name of a rule's kind as it stands in a document; empty if there is none. -/
def statedKind (rule : Json) : String := ((rule.get? "rule_type").bind Json.text?).getD ""

/-- The first kind of rule in a policy's document that is none of the three. -/
def unknownKind? (j : Json) : Option String :=
  let rules := ((j.get? "rules").bind Json.items?).getD []
  (rules.map statedKind).find? fun name => (RuleKind.ofName? name).isNone

/-- The name by which a policy's document calls itself. -/
def statedId (j : Json) : String := ((j.get? "policy_id").bind Json.text?).getD "<unknown>"

/-- **Reads a policy.** An unknown kind of rule goes before every other fault. -/
def decode (j : Json) : Except ModelFault Policy :=
  match unknownKind? j with
  | some name => .error (.unsupportedRuleType (statedId j) name)
  | none =>
    match ofJson? j with
    | some p => .ok p
    | none => .error .malformed

/-- Reads a list of policies, up to the first that is faulty. -/
def decodeList (j : Json) : Except ModelFault (List Policy) :=
  match j.items? with
  | some items => items.mapM decode
  | none => .error .malformed

/-- **Reads a document of policies.** Of repeated keys the last counts. -/
def decodeText (text : String) : Except ModelFault (List Policy) :=
  match Json.parseWhole? text with
  | some j => decodeList j.lastWins
  | none => .error .malformed

end Policy

end FleetCompliance

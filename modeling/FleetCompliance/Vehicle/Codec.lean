import FleetCompliance.Vehicle.Basic
import FleetCompliance.Json.Record

/-!
# Vehicles and their events in JSON

Names are written in lower case with underscores.
-/

namespace FleetCompliance

/-- The name of a kind of vehicle. -/
def VehicleType.name : VehicleType → String
  | bicycle => "bicycle"
  | bus => "bus"
  | car => "car"
  | cargoBicycle => "cargo_bicycle"
  | moped => "moped"
  | motorcycle => "motorcycle"
  | scooter => "scooter"
  | truck => "truck"
  | other => "other"

/-- All kinds of vehicles. -/
def VehicleType.all : List VehicleType :=
  [bicycle, bus, car, cargoBicycle, moped, motorcycle, scooter, truck, other]

/-- The name of a state. -/
def VehicleState.name : VehicleState → String
  | available => "available"
  | elsewhere => "elsewhere"
  | nonOperational => "non_operational"
  | onTrip => "on_trip"
  | removed => "removed"
  | reserved => "reserved"
  | unknown => "unknown"

/-- All states. -/
def VehicleState.all : List VehicleState :=
  [available, elsewhere, nonOperational, onTrip, removed, reserved, unknown]

/-- The name of a reason. -/
def EventType.name : EventType → String
  | agencyDropOff => "agency_drop_off"
  | agencyPickUp => "agency_pick_up"
  | batteryCharged => "battery_charged"
  | batteryLow => "battery_low"
  | commsLost => "comms_lost"
  | commsRestored => "comms_restored"
  | compliancePickUp => "compliance_pick_up"
  | decommissioned => "decommissioned"
  | located => "located"
  | maintenance => "maintenance"
  | maintenanceEnd => "maintenance_end"
  | maintenancePickUp => "maintenance_pick_up"
  | missingRecord => "missing_record"
  | offHours => "off_hours"
  | onHours => "on_hours"
  | providerDropOff => "provider_drop_off"
  | rebalancePickUp => "rebalance_pick_up"
  | reservationCancel => "reservation_cancel"
  | reservationStart => "reservation_start"
  | systemResume => "system_resume"
  | systemSuspend => "system_suspend"
  | tripCancel => "trip_cancel"
  | tripEnd => "trip_end"
  | tripEnterJurisdiction => "trip_enter_jurisdiction"
  | tripLeaveJurisdiction => "trip_leave_jurisdiction"
  | tripStart => "trip_start"
  | unspecified => "unspecified"

/-- All reasons. -/
def EventType.all : List EventType :=
  [agencyDropOff, agencyPickUp, batteryCharged, batteryLow, commsLost, commsRestored,
   compliancePickUp, decommissioned, located, maintenance, maintenanceEnd, maintenancePickUp,
   missingRecord, offHours, onHours, providerDropOff, rebalancePickUp, reservationCancel,
   reservationStart, systemResume, systemSuspend, tripCancel, tripEnd, tripEnterJurisdiction,
   tripLeaveJurisdiction, tripStart, unspecified]

/-- The names of the kinds of vehicles, ready for looking up. -/
def VehicleType.names : List (String × VehicleType) := all.map fun t => (t.name, t)

/-- The names of the states, ready for looking up. -/
def VehicleState.names : List (String × VehicleState) := all.map fun s => (s.name, s)

/-- The names of the reasons, ready for looking up. -/
def EventType.names : List (String × EventType) := all.map fun t => (t.name, t)

namespace Device

/-- The fields of a device. -/
def fields : List String := ["device_id", "provider_id", "vehicle_type"]

/-- A device in JSON. -/
def ofJson? (j : Json) : Option Device := do
  let r ← Json.Record.ofJson? fields j
  return {
    deviceId := ← r.required "device_id" Identifier.ofJson?
    providerId := ← r.required "provider_id" Identifier.ofJson?
    vehicleType := ← r.required "vehicle_type" (Json.named? VehicleType.names false) }

/-- A device as JSON. -/
def toJson (d : Device) : Json :=
  .obj [("device_id", d.deviceId.toJson), ("provider_id", d.providerId.toJson),
    ("vehicle_type", .str d.vehicleType.name)]

end Device

/-- A position in JSON. -/
def Position.ofJson? (j : Json) : Option Position := do
  let r ← Json.Record.ofJson? ["lat", "lng"] j
  return { lat := ← r.required "lat" Json.float?, lng := ← r.required "lng" Json.float? }

/-- A position as JSON. -/
def Position.toJson (p : Position) : Json :=
  .obj [("lat", .ofFloat p.lat), ("lng", .ofFloat p.lng)]

/-- A fix in JSON. -/
def Fix.ofJson? (j : Json) : Option Fix := do
  let r ← Json.Record.ofJson? ["lat", "lng", "speed"] j
  return {
    position := ⟨← r.required "lat" Json.float?, ← r.required "lng" Json.float?⟩
    speed := ← r.optional "speed" Json.float? }

/-- A fix as JSON. -/
def Fix.toJson (f : Fix) : Json :=
  .obj ([("lat", .ofFloat f.position.lat), ("lng", .ofFloat f.position.lng)]
    ++ Json.member? "speed" .ofFloat f.speed)

/-- Telemetry in JSON. -/
def Telemetry.ofJson? (j : Json) : Option Telemetry := do
  let r ← Json.Record.ofJson? ["gps", "timestamp"] j
  return {
    fix := ← r.required "gps" Fix.ofJson?
    timestamp := ← r.required "timestamp" Instant.ofJson? }

/-- Telemetry as JSON. -/
def Telemetry.toJson (t : Telemetry) : Json :=
  .obj [("gps", t.fix.toJson), ("timestamp", t.timestamp.toJson)]

namespace Event

/-- The fields of an event. -/
def fields : List String :=
  ["device_id", "provider_id", "timestamp", "event_types", "vehicle_state", "telemetry"]

/-- An event in JSON. -/
def ofJson? (j : Json) : Option Event := do
  let r ← Json.Record.ofJson? fields j
  return {
    deviceId := ← r.required "device_id" Identifier.ofJson?
    providerId := ← r.required "provider_id" Identifier.ofJson?
    timestamp := ← r.required "timestamp" Instant.ofJson?
    eventTypes := ← r.required "event_types" (Json.listOf (Json.named? EventType.names false))
    state := ← r.required "vehicle_state" (Json.named? VehicleState.names false)
    telemetry := ← r.optional "telemetry" Telemetry.ofJson? }

/-- An event as JSON. -/
def toJson (e : Event) : Json :=
  .obj ([("device_id", e.deviceId.toJson), ("provider_id", e.providerId.toJson),
    ("timestamp", e.timestamp.toJson),
    ("event_types", .arr (e.eventTypes.map fun t => .str t.name)),
    ("vehicle_state", .str e.state.name)] ++ Json.member? "telemetry" Telemetry.toJson e.telemetry)

end Event

end FleetCompliance

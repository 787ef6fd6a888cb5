import FleetCompliance.Identifier
import FleetCompliance.Calendar.Instant

/-!
# Vehicles and their events

What a fleet consists of: registered devices, and the events that they report. An event moves a
vehicle into a state, for one or more reasons, and may carry a position.
-/

namespace FleetCompliance

/-- The kind of a vehicle. -/
inductive VehicleType where
  | bicycle
  | bus
  | car
  | cargoBicycle
  | moped
  | motorcycle
  | scooter
  | truck
  | other
deriving DecidableEq, Repr

/-- The state of a vehicle. -/
inductive VehicleState where
  | available
  | elsewhere
  | nonOperational
  | onTrip
  | removed
  | reserved
  | unknown
deriving DecidableEq, Repr

/-- The reason for a change of state. -/
inductive EventType where
  | agencyDropOff
  | agencyPickUp
  | batteryCharged
  | batteryLow
  | commsLost
  | commsRestored
  | compliancePickUp
  | decommissioned
  | located
  | maintenance
  | maintenanceEnd
  | maintenancePickUp
  | missingRecord
  | offHours
  | onHours
  | providerDropOff
  | rebalancePickUp
  | reservationCancel
  | reservationStart
  | systemResume
  | systemSuspend
  | tripCancel
  | tripEnd
  | tripEnterJurisdiction
  | tripLeaveJurisdiction
  | tripStart
  | unspecified
deriving DecidableEq, Repr

/-- A registered vehicle. -/
structure Device where
  deviceId : Identifier .device
  providerId : Identifier .provider
  vehicleType : VehicleType
deriving DecidableEq, Repr

/-- A position on the globe, in degrees. -/
structure Position where
  lat : Float
  lng : Float

/-- A position as a vehicle reports it, with its speed in metres per second if known. -/
structure Fix where
  position : Position
  speed : Option Float

/-- A fix and the time at which it was taken. -/
structure Telemetry where
  fix : Fix
  timestamp : Instant

/-- What a vehicle reports. -/
structure Event where
  deviceId : Identifier .device
  providerId : Identifier .provider
  timestamp : Instant
  eventTypes : List EventType
  state : VehicleState
  telemetry : Option Telemetry

/-- **The order of events**: by time, and by device where the times are equal. -/
def Event.notAfter (a b : Event) : Bool :=
  a.timestamp < b.timestamp || (a.timestamp = b.timestamp && a.deviceId ≤ b.deviceId)

end FleetCompliance

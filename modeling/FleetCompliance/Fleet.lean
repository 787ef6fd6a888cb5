import FleetCompliance.Vehicle.Codec

/-!
# Fleets

A fleet is a list of devices and a list of events. Before an evaluation it is prepared: only recent
events with telemetry count, each device keeps its newest, and what is left is put in order of time,
so that vehicles which reported earlier come first.
-/

namespace FleetCompliance

/-- Inserts an identifier into an ascending list, unless it is there already. -/
def Identifier.insert {e : Entity} (i : Identifier e) : List (Identifier e) → List (Identifier e)
  | [] => [i]
  | first :: rest =>
    if i < first then i :: first :: rest
    else if i = first then first :: rest
    else first :: Identifier.insert i rest

/-- The identifiers of a list in ascending order, each once. -/
def Identifier.ascending {e : Entity} (ids : List (Identifier e)) : List (Identifier e) :=
  ids.foldr Identifier.insert []

/-- Devices and events, of one provider or of several. -/
structure Fleet where
  devices : List Device
  events : List Event

namespace Fleet

/-- The fleet without vehicles. -/
def empty : Fleet := ⟨[], []⟩

/-- Two fleets together. -/
def append (a b : Fleet) : Fleet := ⟨a.devices ++ b.devices, a.events ++ b.events⟩

instance : Append Fleet := ⟨append⟩

/-- The devices and the events of one provider. A device and its event may name different ones. -/
def ofProvider (f : Fleet) (p : Identifier .provider) : Fleet :=
  ⟨f.devices.filter (·.providerId = p), f.events.filter (·.providerId = p)⟩

/-- Every provider that owns a device or an event, in order. -/
def providers (f : Fleet) : List (Identifier .provider) :=
  Identifier.ascending (f.devices.map (·.providerId) ++ f.events.map (·.providerId))

/-- **The fleet by provider**, in the order of the providers. -/
def byProvider (f : Fleet) : List (Identifier .provider × Fleet) :=
  f.providers.map fun p => (p, f.ofProvider p)

/-- A fleet in JSON. -/
def ofJson? (j : Json) : Option Fleet := do
  let r ← Json.Record.ofJson? ["devices", "events"] j
  return {
    devices := ← r.required "devices" (Json.listOf Device.ofJson?)
    events := ← r.required "events" (Json.listOf Event.ofJson?) }

/-- A fleet as JSON. -/
def toJson (f : Fleet) : Json :=
  .obj [("devices", .arr (f.devices.map Device.toJson)),
    ("events", .arr (f.events.map Event.toJson))]

end Fleet

/-! ## Preparation -/

/-- Events are recent for 48 hours, unless set otherwise. -/
def defaultWindowHours : Int := 48

/-- An hour in milliseconds. -/
def hourMillis : Int := 3600000

/-- The time for which events are recent, unless set otherwise, in milliseconds. -/
def defaultWindow : Int := defaultWindowHours * hourMillis

/-- **The events that count**: those with telemetry from the last `window` milliseconds, in order.
An event exactly as old as the window does not count. -/
def recentEvents (events : List Event) (now : Instant) (window : Int) : List Event :=
  (events.filter fun e => e.telemetry.isSome && now.back window < e.timestamp).mergeSort
    Event.notAfter

/-- Of each device the last event. -/
def lastPerDevice : List Event → List Event
  | [] => []
  | e :: rest =>
    if rest.any (·.deviceId = e.deviceId) then lastPerDevice rest else e :: lastPerDevice rest

/-- A registered device and the event that counts for it. -/
structure Entrant where
  device : Device
  event : Event

/-- A fleet ready for evaluation. -/
structure PreparedFleet where
  /-- The newest event of each device, in order. -/
  events : List Event
  /-- The registrations, the last one first. -/
  registry : List Device

namespace PreparedFleet

/-- **Prepares a fleet** for an evaluation at `now`. -/
def ofFleet (f : Fleet) (now : Instant) (window : Int) : PreparedFleet :=
  ⟨lastPerDevice (recentEvents f.events now window), f.devices.reverse⟩

/-- The device of an identifier, as it was registered last. -/
def device? (p : PreparedFleet) (id : Identifier .device) : Option Device :=
  p.registry.find? (·.deviceId = id)

/-- The event that counts for a device. -/
def event? (p : PreparedFleet) (id : Identifier .device) : Option Event :=
  p.events.find? (·.deviceId = id)

/-- The events that count, each with its device; events of unregistered devices are left out. -/
def entrants (p : PreparedFleet) : List Entrant :=
  p.events.filterMap fun e => (p.device? e.deviceId).map fun d => ⟨d, e⟩

/-- The devices that take part in an evaluation, in the order of their events. -/
def deviceIds (p : PreparedFleet) : List (Identifier .device) := p.entrants.map (·.event.deviceId)

end PreparedFleet

end FleetCompliance

import FleetCompliance.Clock
import FleetCompliance.Fleet
import FleetCompliance.Geography.Containment

/-!
# Whether a vehicle matches a rule

A vehicle matches a rule if the rule is active and applies to the vehicle's kind and state, if the
vehicle is in one of the rule's geographies, and if it is at or over the rule's limit of speed or
time. Limits on the number of vehicles are not a matter of one vehicle and play no part here.
-/

namespace FleetCompliance

/-- What is known besides the rule and the vehicle. -/
structure Context where
  clock : Clock
  geographies : List Geography

namespace Scope

/-- Whether a rule accepts an event's state and one of its reasons. -/
def acceptsState (s : Scope) (e : Event) : Bool :=
  match s.states with
  | none => true
  | some filter =>
    match filter e.state with
    | none => false
    | some [] => true
    | some types => e.eventTypes.any types.contains

/-- Whether a rule accepts a device's kind. -/
def acceptsType (s : Scope) (d : Device) : Bool :=
  match s.vehicleTypes with
  | some (first :: rest) => (first :: rest).contains d.vehicleType
  | _ => true

/-- Whether a rule is active and accepts a vehicle, wherever it is. -/
def accepts (s : Scope) (c : Context) (v : Entrant) : Bool :=
  c.clock.isActive s && s.acceptsState v.event && s.acceptsType v.device

/-- Whether an event's position is in one of a rule's geographies. -/
def covers (s : Scope) (c : Context) (e : Event) : Bool :=
  match e.telemetry with
  | some t => Geography.anyContains c.geographies s.geographies t.fix.position
  | none => false

end Scope

/-- Whether a vehicle is one of those that a count rule counts. -/
def CountRule.isMatch (r : CountRule) (c : Context) (v : Entrant) : Bool :=
  r.scope.accepts c v && r.scope.covers c v.event

/-- The speed of an event in a rule's unit, which is metres per second unless stated. -/
def SpeedRule.speed? (r : SpeedRule) (e : Event) : Option Float :=
  (e.telemetry.bind (·.fix.speed)).map (r.unit.getD .metresPerSecond).ofMetresPerSecond

/-- Whether a vehicle's speed is known and not below a rule's limit. -/
def SpeedRule.isMatch (r : SpeedRule) (c : Context) (v : Entrant) : Bool :=
  r.scope.accepts c v && r.scope.covers c v.event
    && (r.speed? v.event).any fun speed => r.maximum.all (speed ≥ ·)

/-- The time since an event in a rule's unit, which is minutes unless stated. -/
def TimeRule.dwell (r : TimeRule) (now : Instant) (e : Event) : Float :=
  Float.ofInt (now.since e.timestamp) / Float.ofInt (r.unit.getD .minutes).millis

/-- Whether a vehicle has not moved for at least a rule's limit. -/
def TimeRule.isMatch (r : TimeRule) (c : Context) (v : Entrant) : Bool :=
  r.scope.accepts c v && r.maximum.all (r.dwell c.clock.now v.event ≥ ·)
    && r.scope.covers c v.event

/-- **Whether a vehicle matches a rule.** -/
def Rule.isMatch (r : Rule) (c : Context) (v : Entrant) : Bool :=
  match r with
  | count r => r.isMatch c v
  | speed r => r.isMatch c v
  | time r => r.isMatch c v

end FleetCompliance

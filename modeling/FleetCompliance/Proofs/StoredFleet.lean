import FleetCompliance.Proofs.Latest
import FleetCompliance.Proofs.Newest
import FleetCompliance.Proofs.Reordering

/-!
# Fleets that come from a store

A fleet that comes from a store has gone through two choices of the newest
report. The store chose among all reports of a device, and the preparation
chooses among those that survive, so that the second choice finds nothing to
choose from. Whether it had found the same report without the first choice is
not obvious for two reasons.

The store does not know the window. It may keep a report that does not survive,
but then, where every report has telemetry, no report of the device survives
(`survivors_latestPerDevice`).

And of reports that are equally new the store keeps the first one and the
preparation the last one. Here the two part: a device that reported twice at
one time may be evaluated by the one report or by the other
(`events_latestPerDevice_contradicted`). What can be said in general is that the
same devices count at the same times. They count with the same reports exactly
if of the newest surviving reports of each device the first one and the last
one are equal (`PreparedFleet.events_latestPerDevice`).
-/

namespace FleetCompliance

section Survivors

variable (devices : List Device) {events : List Event} (now : Instant) (window : ℤ)
  (id : Identifier .device)

/-- Reports with telemetry survive if they are recent. -/
theorem Fleet.survivors_of_telemetry (h : ∀ e ∈ events, e.telemetry.isSome = true) :
    (Fleet.mk devices events).survivors now window id
      = (events.filter (·.deviceId = id)).filter (now.back window < ·.timestamp) := by
  rw [survivors, List.filter_filter]
  refine List.filter_congr fun e he => ?_
  rw [Bool.eq_iff_iff, Bool.and_eq_true, decide_eq_true_eq, decide_eq_true_eq, decide_eq_true_eq]
  constructor
  · rintro ⟨hid, -, hlater⟩
    exact ⟨hlater, hid⟩
  · rintro ⟨hlater, hid⟩
    exact ⟨hid, h e he, hlater⟩

/-- **What a store keeps of a device survives if anything does**, and is the
first of its newest surviving reports. -/
theorem survivors_latestPerDevice (h : ∀ e ∈ events, e.telemetry.isSome = true) :
    (Fleet.mk devices (latestPerDevice events)).survivors now window id
      = (firstMax (·.timestamp.millis)
          ((Fleet.mk devices events).survivors now window id)).toList := by
  have hstored : ∀ e ∈ latestPerDevice events, e.telemetry.isSome = true :=
    fun e he => h e (mem_of_mem_latestPerDevice he)
  rw [Fleet.survivors_of_telemetry devices now window id hstored,
    Fleet.survivors_of_telemetry devices now window id h, filter_latestPerDevice,
    firstMax_filter (Event.recent_of_le _)]
  cases firstMax (·.timestamp.millis) (events.filter (·.deviceId = id)) with
  | none => rfl
  | some e =>
    by_cases hrecent : now.back window < e.timestamp <;> simp [Option.filter_some, hrecent]

end Survivors

/-- All of a fleet belongs to one provider. -/
def Fleet.BelongsTo (f : Fleet) (q : Identifier .provider) : Prop :=
  (∀ d ∈ f.devices, d.providerId = q) ∧ ∀ e ∈ f.events, e.providerId = q

/-- A store gives out the whole of a fleet, also if it is asked for its
provider. -/
theorem Store.fleet_ofLists {geographies : List Geography} {policies : List Policy}
    {devices : List Device} {events : List Event} {provider : Option (Identifier .provider)}
    (h : ∀ q ∈ provider, Fleet.BelongsTo ⟨devices, events⟩ q) :
    (ofLists geographies policies devices events).fleet provider
      = ⟨devices, latestPerDevice events⟩ := by
  cases provider with
  | none => rfl
  | some q =>
    obtain ⟨hdevices, hevents⟩ := h q rfl
    have hkept : ∀ e ∈ latestPerDevice events, decide (e.providerId = q) = true :=
      fun e he => decide_eq_true (hevents e (mem_of_mem_latestPerDevice he))
    show Fleet.ofProvider ⟨devices, latestPerDevice events⟩ q = _
    rw [Fleet.ofProvider, List.filter_eq_self.mpr hkept,
      List.filter_eq_self.mpr fun d hd => decide_eq_true (hdevices d hd)]

namespace PreparedFleet

variable (devices : List Device) {events : List Event}
  (h : ∀ e ∈ events, e.telemetry.isSome = true) (now : Instant) (window : ℤ)

include h

/-- The report that is found for a device of a stored fleet is the first of its
newest ones. -/
theorem event?_latestPerDevice (id : Identifier .device) :
    (ofFleet ⟨devices, latestPerDevice events⟩ now window).event? id
      = firstMax (·.timestamp.millis) ((Fleet.mk devices events).survivors now window id) := by
  rw [event?_eq_lastMax, survivors_latestPerDevice devices now window id h]
  cases firstMax (·.timestamp.millis) ((Fleet.mk devices events).survivors now window id) <;> rfl

/-- Whether a fleet is stored or not, what is found for a device is equally
new. -/
theorem map_stamp_event?_latestPerDevice (id : Identifier .device) :
    ((ofFleet ⟨devices, latestPerDevice events⟩ now window).event? id).map Event.stamp
      = ((ofFleet ⟨devices, events⟩ now window).event? id).map Event.stamp := by
  have hp := ofFleet_wellOrdered ⟨devices, events⟩ now window
  have hp' := ofFleet_wellOrdered ⟨devices, latestPerDevice events⟩ now window
  -- the stamp is made from the time, and from the device that is asked for
  have hstamp : ∀ {o : Option Event}, (∀ e ∈ o, e.deviceId = id) →
      o.map Event.stamp = (o.map (·.timestamp.millis)).map fun t => toLex (t, id.value) := by
    intro o ho
    cases o with
    | none => rfl
    | some e =>
      obtain rfl := ho e rfl
      rfl
  rw [hstamp fun e he => (hp'.event?_eq_some_iff.mp he).2,
    hstamp fun e he => (hp.event?_eq_some_iff.mp he).2, event?_latestPerDevice devices h,
    event?_eq_lastMax, map_lastMax]

/-- **Whether a fleet is stored or not, the same devices count at the same
times, in the same order.** They count with the same reports exactly if of the
newest surviving reports of each device the first one and the last one are the
same; and then every policy is evaluated alike, whether the store is asked for
all that it holds or for the provider of the fleet. -/
theorem events_latestPerDevice :
    let f : Fleet := ⟨devices, events⟩
    let stored : Fleet := ⟨devices, latestPerDevice events⟩
    (ofFleet stored now window).events.map Event.stamp
        = (ofFleet f now window).events.map Event.stamp
      ∧ ((ofFleet stored now window).events = (ofFleet f now window).events
          ↔ ∀ id, firstMax (·.timestamp.millis) (f.survivors now window id)
              = lastMax (·.timestamp.millis) (f.survivors now window id))
      ∧ ((ofFleet stored now window).events = (ofFleet f now window).events →
          ∀ provider : Option (Identifier .provider), (∀ q ∈ provider, f.BelongsTo q) →
            ∀ (zone : TimeZone) (p : Policy) (geographies : List Geography)
              (policies : List Policy),
              let e : Engine := ⟨⟨now, zone⟩, window⟩
              e.evaluate p geographies
                  ((Store.ofLists geographies policies devices events).fleet provider)
                = e.evaluate p geographies f) := by
  intro f stored
  have hp := ofFleet_wellOrdered f now window
  have hp' := ofFleet_wellOrdered stored now window
  refine ⟨?_, ?_, fun hevents provider hprovider zone p geographies policies => ?_⟩
  · refine eq_of_mem_iff_of_ascending id (List.pairwise_map.mpr hp'.ascending)
      (List.pairwise_map.mpr hp.ascending) fun s => ?_
    rw [hp'.mem_map_stamp_iff, hp.mem_map_stamp_iff]
    simp only [f, stored, map_stamp_event?_latestPerDevice devices h]
  · rw [hp'.events_eq_iff hp]
    refine forall_congr' fun id => ?_
    rw [event?_latestPerDevice devices h, event?_eq_lastMax]
  · rw [Store.fleet_ofLists hprovider]
    exact Engine.evaluate_alike _ p geographies ⟨hevents, fun _ => rfl⟩

end PreparedFleet

/-! ### A vehicle that says two things at one time

At one instant a vehicle reports that it is available and that it is reserved.
A rule for vehicles that are available finds it or does not. -/

namespace Sample

/-- What the first vehicle reports in a state. -/
def eventIn (state : VehicleState) : Event := { (vehicle 1).event with state }

/-- The first vehicle with the reports of some states, all made at one time. -/
def fleetIn (states : List VehicleState) : Fleet :=
  ⟨[(vehicle 1).device], states.map eventIn⟩

/-- The fleet of the vehicle's provider as it comes from a store. -/
def storedFleetIn (states : List VehicleState) : Fleet :=
  (Store.ofLists [zone] [] (fleetIn states).devices (fleetIn states).events).fleet (some (id 1))

/-- The provider of the vehicle made the reports as well. -/
theorem belongsTo_fleetIn (states : List VehicleState) :
    ∀ q ∈ some (id 1), (fleetIn states).BelongsTo q := by
  rintro _ ⟨⟩
  exact ⟨by simp [fleetIn, vehicle], List.forall_mem_map.mpr fun _ _ => rfl⟩

/-- The store gives out what is stored for the vehicle. -/
theorem storedFleetIn_eq (states : List VehicleState) :
    storedFleetIn states = ⟨(fleetIn states).devices, latestPerDevice (states.map eventIn)⟩ :=
  Store.fleet_ofLists (belongsTo_fleetIn states)

/-- A rule for vehicles that are available. -/
def availableRule : CountRule :=
  { rule 1 none none with
    scope := { (rule 1 none none).scope with
      states := some fun state => if state = .available then some [] else none } }

/-- The policy of this rule. -/
def availablePolicy : Policy := { policy with rules := [availableRule].map .count }

/-- Reports of one time stand as they are listed. -/
theorem recentEvents_eventIn (states : List VehicleState) :
    recentEvents (states.map eventIn) engine.clock.now engine.window = states.map eventIn := by
  have hsurvives : ∀ e ∈ states.map eventIn, (e.telemetry.isSome
      && decide (engine.clock.now.back engine.window < e.timestamp)) = true :=
    List.forall_mem_map.mpr fun _ _ => rfl
  rw [recentEvents, List.filter_eq_self.mpr hsurvives]
  refine List.mergeSort_of_pairwise (List.pairwise_map.mpr ?_)
  exact List.pairwise_of_forall fun _ _ => rfl

/-- Of two reports of one time the last one counts. -/
theorem events_fleetIn :
    (engine.prepare (fleetIn [.available, .reserved])).events = [eventIn .reserved] := by
  rw [Engine.prepare, PreparedFleet.ofFleet_of_recentEvents (recentEvents_eventIn _)]
  rfl

/-- The first one is stored, and counts if the fleet comes from the store. -/
theorem events_storedFleetIn :
    (engine.prepare (storedFleetIn [.available, .reserved])).events = [eventIn .available] := by
  have hstored : latestPerDevice ([VehicleState.available, .reserved].map eventIn)
      = [VehicleState.available].map eventIn := List.mergeSort_singleton _
  rw [Engine.prepare, storedFleetIn_eq, hstored,
    PreparedFleet.ofFleet_of_recentEvents (recentEvents_eventIn _)]
  rfl

end Sample

/-- A device that ends as it began counts by the same report, whatever it said in
between. -/
theorem events_latestPerDevice_repeated :
    let f := Sample.fleetIn [.available, .reserved, .available]
    let stored := Sample.storedFleetIn [.available, .reserved, .available]
    (∀ e ∈ f.events, e.telemetry.isSome = true)
      ∧ (Sample.engine.prepare stored).events = (Sample.engine.prepare f).events
      ∧ Sample.engine.evaluate Sample.availablePolicy [Sample.zone] stored
          = Sample.engine.evaluate Sample.availablePolicy [Sample.zone] f := by
  intro f stored
  have htelemetry : ∀ e ∈ f.events, e.telemetry.isSome = true := by decide
  obtain ⟨-, hsame, halike⟩ := PreparedFleet.events_latestPerDevice f.devices htelemetry
    Sample.engine.clock.now Sample.engine.window
  have hstored := hsame.mpr fun id => by
    by_cases hid : id = Sample.id 1
    · subst hid
      rfl
    · have hnone : f.survivors Sample.engine.clock.now Sample.engine.window id = [] := by
        refine List.filter_eq_nil_iff.mpr fun e he hkeep => hid ?_
        obtain ⟨state, -, rfl⟩ := List.mem_map.mp he
        exact (of_decide_eq_true hkeep).1.symm
      show firstMax _ (f.survivors _ _ id) = lastMax _ (f.survivors _ _ id)
      rw [hnone]
      rfl
  refine ⟨htelemetry, ?_, halike hstored _ (Sample.belongsTo_fleetIn _) _ _ _ _⟩
  rw [Engine.prepare, show stored = _ from Sample.storedFleetIn_eq _]
  exact hstored

/-- **A device that contradicts itself counts by another report if its fleet comes
from a store**, and is found by a rule that does not find it otherwise. -/
theorem events_latestPerDevice_contradicted :
    let f := Sample.fleetIn [.available, .reserved]
    let stored := Sample.storedFleetIn [.available, .reserved]
    (∀ e ∈ f.events, e.telemetry.isSome = true)
      ∧ (Sample.engine.prepare stored).events ≠ (Sample.engine.prepare f).events
      ∧ ∃ direct viaStore : Tally,
        Sample.engine.evaluate Sample.availablePolicy [Sample.zone] f = .ok direct
          ∧ Sample.engine.evaluate Sample.availablePolicy [Sample.zone] stored = .ok viaStore
          ∧ direct.vehiclesFound.map (·.deviceId) = []
          ∧ viaStore.vehiclesFound.map (·.deviceId) = [Sample.id 1] := by
  intro f stored
  have hp : Sample.availablePolicy.rules = [Sample.availableRule].map .count := rfl
  have hdirect := Sample.engine.evaluate_count hp (List.cons_ne_nil _ _) [Sample.zone] f
  have hstored := Sample.engine.evaluate_count hp (List.cons_ne_nil _ _) [Sample.zone] stored
  have hevents := Sample.events_fleetIn
  have hevents' := Sample.events_storedFleetIn
  refine ⟨by decide, ?_, _, _, hdirect, hstored, ?_, ?_⟩
  · rw [hevents, hevents']
    intro heq
    exact absurd (congrArg (List.map (·.state)) heq) (by decide)
  · rw [PreparedFleet.entrants, hevents]
    rfl
  · rw [PreparedFleet.entrants, hevents']
    rfl

end FleetCompliance

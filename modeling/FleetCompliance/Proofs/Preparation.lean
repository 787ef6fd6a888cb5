import FleetCompliance.Proofs.Chronology

/-!
# What preparation leaves of a fleet

A prepared fleet holds one event for each device that reported something
recent, the newest one, and holds them in strict order of time. The
vehicles that enter an evaluation are those events whose device is
registered. `Lineup` says this without reference to how a fleet is
prepared, and `lineup_entrants` that preparing makes it so.

That no device enters twice is what everything after it stands on: a
vehicle is told apart by its device alone, so that taking a device out of a
list takes out one vehicle, and the device and the event which are looked
up for a found vehicle are the ones it was found with.
-/

namespace FleetCompliance

/-- **An event that counts at an instant**: it carries telemetry, and it is
younger than the window. -/
def Event.Survives (e : Event) (now : Instant) (window : ℤ) : Prop :=
  e.telemetry.isSome = true ∧ now.back window < e.timestamp

/-- The recent events are the surviving ones. -/
theorem mem_recentEvents {events : List Event} {now : Instant} {window : ℤ} {e : Event} :
    e ∈ recentEvents events now window ↔ e ∈ events ∧ e.Survives now window := by
  rw [recentEvents, List.mem_mergeSort, List.mem_filter, Event.Survives, Bool.and_eq_true,
    decide_eq_true_eq]

/-- The recent events are in order. -/
theorem recentEvents_pairwise (events : List Event) (now : Instant) (window : ℤ) :
    (recentEvents events now window).Pairwise (·.stamp ≤ ·.stamp) :=
  pairwise_mergeSort_of_key Event.notAfter_iff _

/-! ## The last event of each device -/

/-- Taking the last event of each device keeps the order. -/
theorem lastPerDevice_sublist (l : List Event) : (lastPerDevice l).Sublist l := by
  induction l with
  | nil => exact .refl _
  | cons e rest ih =>
    rw [lastPerDevice]
    split
    · exact ih.cons e
    · exact ih.cons_cons e

/-- **The events that are kept** are those after which their device reports
nothing more. -/
theorem mem_lastPerDevice_iff {l : List Event} {e : Event} :
    e ∈ lastPerDevice l
      ↔ ∃ before after, l = before ++ e :: after ∧ ∀ x ∈ after, x.deviceId ≠ e.deviceId := by
  induction l with
  | nil => simp [lastPerDevice]
  | cons a rest ih =>
    have htail : (∃ before after, a :: rest = before ++ e :: after
          ∧ ∀ x ∈ after, x.deviceId ≠ e.deviceId)
        ↔ (a = e ∧ ∀ x ∈ rest, x.deviceId ≠ e.deviceId) ∨ e ∈ lastPerDevice rest := by
      rw [ih]
      constructor
      · rintro ⟨before, after, hsplit, hafter⟩
        rcases List.cons_eq_append_iff.mp hsplit with ⟨-, heq⟩ | ⟨before', -, heq⟩
        · obtain ⟨rfl, rfl⟩ := List.cons.inj heq
          exact Or.inl ⟨rfl, hafter⟩
        · exact Or.inr ⟨before', after, heq, hafter⟩
      · rintro (⟨rfl, hrest⟩ | ⟨before, after, rfl, hafter⟩)
        · exact ⟨[], rest, rfl, hrest⟩
        · exact ⟨a :: before, after, rfl, hafter⟩
    rw [htail, lastPerDevice]
    split
    · -- a later report of the same device shadows this one
      rename_i hany
      obtain ⟨x, hx, hxa⟩ := List.any_eq_true.mp hany
      refine ⟨Or.inr, fun h => h.resolve_left ?_⟩
      rintro ⟨rfl, hrest⟩
      exact hrest x hx (of_decide_eq_true hxa)
    · rename_i hany
      rw [List.mem_cons]
      refine or_congr_left ⟨fun h => ⟨h.symm, fun x hx hxe => ?_⟩, fun h => h.1.symm⟩
      exact hany (List.any_eq_true.mpr ⟨x, hx, decide_eq_true (hxe.trans (congrArg _ h))⟩)

/-- No device keeps two events. -/
theorem lastPerDevice_pairwise (l : List Event) :
    (lastPerDevice l).Pairwise (fun a b => a.deviceId ≠ b.deviceId) := by
  induction l with
  | nil => exact .nil
  | cons e rest ih =>
    rw [lastPerDevice]
    split
    · exact ih
    · rename_i hany
      refine List.Pairwise.cons (fun x hx hex => hany ?_) ih
      have hxrest : x ∈ rest := (lastPerDevice_sublist rest).subset hx
      exact List.any_eq_true.mpr ⟨x, hxrest, decide_eq_true hex.symm⟩

/-- Every device that reported keeps an event. -/
theorem exists_mem_lastPerDevice {l : List Event} {e : Event} (he : e ∈ l) :
    ∃ x ∈ lastPerDevice l, x.deviceId = e.deviceId := by
  induction l generalizing e with
  | nil => simp at he
  | cons a rest ih =>
    rw [lastPerDevice]
    split
    · rename_i hany
      obtain ⟨y, hy, hya⟩ := List.any_eq_true.mp hany
      rcases List.mem_cons.mp he with rfl | hrest
      · obtain ⟨x, hx, hxy⟩ := ih hy
        exact ⟨x, hx, hxy.trans (of_decide_eq_true hya)⟩
      · exact ih hrest
    · rcases List.mem_cons.mp he with rfl | hrest
      · exact ⟨e, List.mem_cons_self, rfl⟩
      · obtain ⟨x, hx, hxe⟩ := ih hrest
        exact ⟨x, List.mem_cons_of_mem _ hx, hxe⟩

/-- **The event that a device keeps is its newest**, if the events are in
order. -/
theorem stamp_le_of_mem_lastPerDevice {l : List Event} (hl : l.Pairwise (·.stamp ≤ ·.stamp))
    {e x : Event} (he : e ∈ lastPerDevice l) (hx : x ∈ l) (hxe : x.deviceId = e.deviceId) :
    x.stamp ≤ e.stamp := by
  obtain ⟨before, after, rfl, hafter⟩ := mem_lastPerDevice_iff.mp he
  rcases List.mem_append.mp hx with hbefore | hrest
  · exact (List.pairwise_append.mp hl).2.2 x hbefore e List.mem_cons_self
  · rcases List.mem_cons.mp hrest with rfl | hlater
    · exact le_refl _
    · exact absurd hxe (hafter x hlater)

/-! ## Prepared fleets -/

namespace PreparedFleet

/-- **What preparation makes of the events of a fleet**: they are in strict
order of time, and no device has two of them. -/
structure WellOrdered (p : PreparedFleet) : Prop where
  ascending : p.events.Pairwise (fun a b => a.stamp < b.stamp)
  distinct : p.events.Pairwise (fun a b => a.deviceId ≠ b.deviceId)

/-- A prepared fleet is well ordered. -/
theorem ofFleet_wellOrdered (f : Fleet) (now : Instant) (window : ℤ) :
    (ofFleet f now window).WellOrdered := by
  have hdistinct := lastPerDevice_pairwise (recentEvents f.events now window)
  have hle := (recentEvents_pairwise f.events now window).sublist (lastPerDevice_sublist _)
  refine ⟨hle.imp₂ (fun a b hab hne => ?_) hdistinct, hdistinct⟩
  exact lt_of_le_of_ne hab (fun h => hne (Stamp.device_eq_of_of_eq h))

section Events

variable {f : Fleet} {now : Instant} {window : ℤ}

/-- The events of a prepared fleet survive. -/
theorem mem_events {e : Event} (he : e ∈ (ofFleet f now window).events) :
    e ∈ f.events ∧ e.Survives now window :=
  mem_recentEvents.mp ((lastPerDevice_sublist _).subset he)

/-- No surviving event of a device is newer than the one that counts. -/
theorem timestamp_le_of_mem_events {e x : Event} (he : e ∈ (ofFleet f now window).events)
    (hx : x ∈ f.events) (hsurvives : x.Survives now window) (hxe : x.deviceId = e.deviceId) :
    x.timestamp ≤ e.timestamp :=
  Stamp.time_le_of_of_le (stamp_le_of_mem_lastPerDevice (recentEvents_pairwise _ _ _) he
    (mem_recentEvents.mpr ⟨hx, hsurvives⟩) hxe)

/-- A device that is found is registered under its identifier. -/
theorem mem_devices_of_device? {id : Identifier .device} {d : Device}
    (hd : (ofFleet f now window).device? id = some d) : d ∈ f.devices ∧ d.deviceId = id := by
  have hmem : d ∈ f.devices.reverse := List.mem_of_find?_eq_some hd
  have hid := List.find?_some hd
  exact ⟨List.mem_reverse.mp hmem, of_decide_eq_true hid⟩

/-- A registered device is found. -/
theorem exists_device?_of_mem {id : Identifier .device} {d : Device} (hd : d ∈ f.devices)
    (hid : d.deviceId = id) : ∃ d', (ofFleet f now window).device? id = some d' := by
  have hsome : ((ofFleet f now window).device? id).isSome = true :=
    List.find?_isSome.mpr ⟨d, List.mem_reverse.mpr hd, decide_eq_true hid⟩
  exact Option.isSome_iff_exists.mp hsome

end Events

variable {p : PreparedFleet}

/-- The event that counts for a device is found by the device. -/
theorem WellOrdered.event?_of_mem (hp : p.WellOrdered) {e : Event} (he : e ∈ p.events) :
    p.event? e.deviceId = some e := by
  have hdistinct := hp.distinct
  rw [event?]
  obtain ⟨before, after, hsplit⟩ := List.append_of_mem he
  rw [hsplit] at hdistinct ⊢
  rw [List.find?_append, List.find?_eq_none.mpr ?_]
  · simp
  · intro x hx
    simpa using (List.pairwise_append.mp hdistinct).2.2 x hx e List.mem_cons_self

/-- **The vehicles that enter an evaluation** are the events that count,
each with the device that is found for it. -/
theorem mem_entrants_iff {v : Entrant} :
    v ∈ p.entrants ↔ v.event ∈ p.events ∧ p.device? v.event.deviceId = some v.device := by
  rw [entrants, List.mem_filterMap]
  constructor
  · rintro ⟨e, he, hv⟩
    obtain ⟨d, hd, rfl⟩ := Option.map_eq_some_iff.mp hv
    exact ⟨he, hd⟩
  · rintro ⟨he, hd⟩
    exact ⟨v.event, he, by rw [hd]; rfl⟩

/-- The vehicles that enter stand in the order of their events; the events
whose device is not registered are left out. -/
theorem map_event_entrants (p : PreparedFleet) :
    p.entrants.map (·.event) = p.events.filter (fun e => (p.device? e.deviceId).isSome) := by
  rw [entrants, List.map_filterMap, ← List.filterMap_eq_filter]
  congr 1
  funext e
  cases hd : p.device? e.deviceId <;> simp [Option.guard, hd]

/-- The vehicles that enter are in strict order of time. -/
theorem WellOrdered.entrants_ascending (hp : p.WellOrdered) :
    p.entrants.Pairwise (fun a b => a.event.stamp < b.event.stamp) := by
  have h := hp.ascending.filter (fun e => (p.device? e.deviceId).isSome)
  rwa [← map_event_entrants, List.pairwise_map] at h

/-- No device enters twice. -/
theorem WellOrdered.entrants_distinct (hp : p.WellOrdered) :
    (p.entrants.map (·.event.deviceId)).Nodup := by
  have h := hp.distinct.filter (fun e => (p.device? e.deviceId).isSome)
  rw [← map_event_entrants, List.pairwise_map] at h
  exact List.pairwise_map.mpr h

/-- No more vehicles enter than there are events. -/
theorem length_entrants_le (f : Fleet) (now : Instant) (window : ℤ) :
    (ofFleet f now window).entrants.length ≤ f.events.length := by
  have hrecent : (recentEvents f.events now window).length ≤ f.events.length := by
    rw [recentEvents, List.length_mergeSort]
    exact List.length_filter_le _ _
  calc (ofFleet f now window).entrants.length
      ≤ (lastPerDevice (recentEvents f.events now window)).length :=
        List.length_filterMap_le _ _
    _ ≤ (recentEvents f.events now window).length := (lastPerDevice_sublist _).length_le
    _ ≤ f.events.length := hrecent

/-- A fleet is prepared from those of its events that count. -/
theorem ofFleet_of_recentEvents {f : Fleet} {now : Instant} {window : ℤ} {events : List Event}
    (h : recentEvents f.events now window = events) :
    ofFleet f now window = ⟨lastPerDevice events, f.devices.reverse⟩ := by
  rw [ofFleet, h]

/-- A fleet that has reported nothing sends no vehicle into an evaluation. -/
theorem entrants_ofFleet_nil (devices : List Device) (now : Instant) (window : ℤ) :
    (ofFleet ⟨devices, []⟩ now window).entrants = [] := by
  have hrecent : recentEvents [] now window = [] := List.mergeSort_nil
  rw [ofFleet_of_recentEvents hrecent]
  rfl

end PreparedFleet

/-! ## Lineups -/

/-- **The vehicles that a fleet sends into an evaluation**, in order: the
newest surviving event of each registered device. -/
structure Lineup (f : Fleet) (now : Instant) (window : ℤ) (w : List Entrant) : Prop where
  /-- Vehicles that reported earlier come first. -/
  ascending : w.Pairwise (fun a b => a.event.stamp < b.event.stamp)
  /-- No device enters twice. -/
  distinct : (w.map (·.event.deviceId)).Nodup
  /-- What enters is an event of the fleet, and counts. -/
  survives : ∀ v ∈ w, v.event ∈ f.events ∧ v.event.Survives now window
  /-- No surviving event of the device is newer. -/
  newest : ∀ v ∈ w, ∀ e ∈ f.events, e.Survives now window →
    e.deviceId = v.event.deviceId → e.timestamp ≤ v.event.timestamp
  /-- The device is registered. -/
  registered : ∀ v ∈ w, v.device ∈ f.devices ∧ v.device.deviceId = v.event.deviceId
  /-- Every registered device with a surviving event enters. -/
  complete : ∀ e ∈ f.events, e.Survives now window →
    (∃ d ∈ f.devices, d.deviceId = e.deviceId) → ∃ v ∈ w, v.event.deviceId = e.deviceId

/-- **Preparing a fleet makes its lineup.** -/
theorem lineup_entrants (f : Fleet) (now : Instant) (window : ℤ) :
    Lineup f now window (PreparedFleet.ofFleet f now window).entrants where
  ascending := (PreparedFleet.ofFleet_wellOrdered f now window).entrants_ascending
  distinct := (PreparedFleet.ofFleet_wellOrdered f now window).entrants_distinct
  survives v hv := PreparedFleet.mem_events (PreparedFleet.mem_entrants_iff.mp hv).1
  newest v hv e he hsurvives hid :=
    PreparedFleet.timestamp_le_of_mem_events (PreparedFleet.mem_entrants_iff.mp hv).1 he
      hsurvives hid
  registered v hv :=
    PreparedFleet.mem_devices_of_device? (PreparedFleet.mem_entrants_iff.mp hv).2
  complete e he hsurvives hregistered := by
    obtain ⟨d, hd, hid⟩ := hregistered
    obtain ⟨x, hx, hxe⟩ :=
      exists_mem_lastPerDevice (mem_recentEvents.mpr ⟨he, hsurvives⟩)
    obtain ⟨d', hd'⟩ : ∃ d', (PreparedFleet.ofFleet f now window).device? x.deviceId = some d' :=
      PreparedFleet.exists_device?_of_mem hd (hid.trans hxe.symm)
    exact ⟨⟨d', x⟩, PreparedFleet.mem_entrants_iff.mpr ⟨hx, hd'⟩, hxe⟩

end FleetCompliance

import FleetCompliance.Proofs.Greatest
import FleetCompliance.Proofs.Restriction

/-!
# The report that counts for a device

A fleet may hold any number of reports of a device. Those that do not survive
are dropped first, and of the others one counts, the newest. Two reports of one
device at one time are equally new, and may be equal altogether, so the
newest is told by its place: it is the last one that is listed
(`Event.IsNewestOf`).

Preparing gets there by other means. All surviving reports are sorted together,
by time and then by device, and of each device the last one is kept.
Since sorting leaves equals as they stood, and no device gets in the way of
another, the one that is kept is the end of the sorted reports of its own
device (`filter_events`), which is the last of the greatest.

What a prepared fleet offers to an evaluation is then known completely from the
fleet (`PreparedFleet.Indexes`).
-/

namespace FleetCompliance

instance (e : Event) (now : Instant) (window : ℤ) : Decidable (e.Survives now window) :=
  inferInstanceAs (Decidable (_ ∧ _))

/-- **The surviving reports of a device**, in the order in which they are
listed. -/
def Fleet.survivors (f : Fleet) (now : Instant) (window : ℤ) (id : Identifier .device) :
    List Event :=
  f.events.filter fun e => e.deviceId = id ∧ e.Survives now window

/-- **The newest of some reports**, the last one if several are equally new:
none before it is newer, and all after it are older. -/
def Event.IsNewestOf (e : Event) (l : List Event) : Prop :=
  ∃ before after, l = before ++ e :: after
    ∧ (∀ x ∈ before, x.timestamp ≤ e.timestamp) ∧ ∀ x ∈ after, x.timestamp < e.timestamp

/-- The newest report is the last of the greatest by time. -/
theorem lastMax_eq_some_iff_isNewestOf {l : List Event} {e : Event} :
    lastMax (·.timestamp.millis) l = some e ↔ e.IsNewestOf l :=
  lastMax_eq_some_iff

/-- What is no older than a recent report is recent as well. -/
theorem Event.recent_of_le (cutoff : Instant) (a b : Event)
    (hle : a.timestamp.millis ≤ b.timestamp.millis) (ha : decide (cutoff < a.timestamp) = true) :
    decide (cutoff < b.timestamp) = true :=
  decide_eq_true (lt_of_lt_of_le (of_decide_eq_true ha : cutoff.millis < _) hle)

/-- Reports of one device are ordered by time alone. -/
theorem Event.stamp_le_iff_of_deviceId_eq {a b : Event} (h : a.deviceId = b.deviceId) :
    a.stamp ≤ b.stamp ↔ a.timestamp.millis ≤ b.timestamp.millis := by
  refine ⟨Stamp.time_le_of_of_le, fun hle => ?_⟩
  rw [Event.stamp, Event.stamp, Stamp.of, Stamp.of, Prod.Lex.toLex_le_toLex, h]
  exact (lt_or_eq_of_le hle).imp_right fun heq => ⟨heq, le_refl _⟩

/-- Of the reports of one device the last one is kept. -/
theorem lastPerDevice_of_same {l : List Event} {id : Identifier .device}
    (h : ∀ e ∈ l, e.deviceId = id) : lastPerDevice l = l.getLast?.toList := by
  induction l with
  | nil => rfl
  | cons e rest ih =>
    obtain ⟨he, hrest⟩ := List.forall_mem_cons.mp h
    rw [lastPerDevice, ih hrest]
    cases rest with
    | nil => rfl
    | cons x rest =>
      have hx : x.deviceId = e.deviceId := (hrest x List.mem_cons_self).trans he.symm
      rw [if_pos (List.any_eq_true.mpr ⟨x, List.mem_cons_self, decide_eq_true hx⟩),
        List.getLast?_cons_cons]

namespace PreparedFleet

section

variable (f : Fleet) (now : Instant) (window : ℤ) (id : Identifier .device)

/-- **What a device keeps is the newest of its surviving reports.** -/
theorem filter_events :
    (ofFleet f now window).events.filter (·.deviceId = id)
      = (lastMax (·.timestamp.millis) (f.survivors now window id)).toList := by
  have hsame : ∀ e ∈ f.survivors now window id, e.deviceId = id :=
    fun e he => (of_decide_eq_true (List.mem_filter.mp he).2).1
  have hrecent : recentEvents (f.events.filter (·.deviceId = id)) now window
      = (f.survivors now window id).mergeSort Event.notAfter := by
    rw [recentEvents, List.filter_filter, Fleet.survivors]
    refine congrArg (List.mergeSort · _) (List.filter_congr fun e _ => ?_)
    rw [Bool.eq_iff_iff, Bool.and_eq_true, Bool.and_eq_true, decide_eq_true_eq, decide_eq_true_eq,
      decide_eq_true_eq]
    exact and_comm
  rw [← events_ofDevices (fun i => decide (i = id)) f now window]
  show lastPerDevice (recentEvents (f.events.filter (·.deviceId = id)) now window) = _
  rw [hrecent, lastPerDevice_of_same (fun e he => hsame e (List.mem_mergeSort.mp he)),
    getLast?_mergeSort_of_key Event.notAfter_iff]
  -- the reports are of one device, so that their stamps compare as their times do
  refine congrArg Option.toList (lastMax_congr fun a ha b hb => ?_)
  have hab : b.deviceId = a.deviceId := (hsame b hb).trans (hsame a ha).symm
  exact not_le.symm.trans ((not_congr (Event.stamp_le_iff_of_deviceId_eq hab)).trans not_le)

/-- The report that is found for a device is the newest one that survives. -/
theorem event?_eq_lastMax :
    (ofFleet f now window).event? id
      = lastMax (·.timestamp.millis) (f.survivors now window id) := by
  rw [event?, ← List.head?_filter, filter_events]
  cases lastMax (·.timestamp.millis) (f.survivors now window id) <;> rfl

/-- Nothing is found for a device exactly if no report of it survives. -/
theorem event?_eq_none_iff :
    (ofFleet f now window).event? id = none ↔ f.survivors now window id = [] := by
  rw [event?_eq_lastMax, lastMax_eq_none_iff]

/-- The device that is found is the one that was registered last. -/
theorem device?_eq_getLast? :
    (ofFleet f now window).device? id = (f.devices.filter (·.deviceId = id)).getLast? :=
  List.getLast?_filter.symm

end

variable {p : PreparedFleet}

/-- A report is found for its device exactly if it is one of the events that
count. -/
theorem WellOrdered.event?_eq_some_iff (hp : p.WellOrdered) {id : Identifier .device} {e : Event} :
    p.event? id = some e ↔ e ∈ p.events ∧ e.deviceId = id :=
  find?_key_eq_some_iff Event.deviceId (List.pairwise_map.mpr hp.distinct)

/-- The events that count are those that are found for their devices. -/
theorem WellOrdered.mem_events_iff (hp : p.WellOrdered) {e : Event} :
    e ∈ p.events ↔ p.event? e.deviceId = some e := by
  rw [hp.event?_eq_some_iff, and_iff_left rfl]

/-- Their stamps are those of what is found for some device. -/
theorem WellOrdered.mem_map_stamp_iff (hp : p.WellOrdered) {s : Stamp} :
    s ∈ p.events.map Event.stamp ↔ ∃ id, (p.event? id).map Event.stamp = some s := by
  rw [List.mem_map]
  constructor
  · rintro ⟨e, he, rfl⟩
    exact ⟨e.deviceId, by rw [hp.mem_events_iff.mp he]; rfl⟩
  · rintro ⟨id, hid⟩
    obtain ⟨e, he, rfl⟩ := Option.map_eq_some_iff.mp hid
    exact ⟨e, (hp.event?_eq_some_iff.mp he).1, rfl⟩

/-- **The events that count are known by what is found for each device.** -/
theorem WellOrdered.events_eq_iff {p' : PreparedFleet} (hp : p.WellOrdered)
    (hp' : p'.WellOrdered) : p.events = p'.events ↔ ∀ id, p.event? id = p'.event? id := by
  refine ⟨fun heq id => by rw [event?, event?, heq], fun heq => ?_⟩
  refine eq_of_mem_iff_of_ascending Event.stamp hp.ascending hp'.ascending fun e => ?_
  rw [hp.mem_events_iff, hp'.mem_events_iff, heq]

/-- The devices that take part are those of the events that count, as far as
they are registered. -/
theorem deviceIds_eq_filter (p : PreparedFleet) :
    p.deviceIds = (p.events.map (·.deviceId)).filter fun id => (p.device? id).isSome := by
  have hmap : p.entrants.map (·.event.deviceId)
      = (p.entrants.map (·.event)).map (·.deviceId) := List.map_map.symm
  rw [deviceIds, hmap, map_event_entrants, List.filter_map]
  rfl

/-- **What a prepared fleet offers to an evaluation**, in terms of the fleet it
was made from. -/
structure Indexes (p : PreparedFleet) (f : Fleet) (now : Instant) (window : ℤ) : Prop where
  /-- The events are in strict order of time, and of devices where the times
  are equal. -/
  ascending : p.events.Pairwise (fun a b => a.stamp < b.stamp)
  /-- The events of a device are the one that is found for it, or there are
  none. -/
  single : ∀ id, p.events.filter (·.deviceId = id) = (p.event? id).toList
  /-- Found for a device is the newest of its surviving reports. -/
  newest : ∀ id e, p.event? id = some e ↔ e.IsNewestOf (f.survivors now window id)
  /-- Nothing is found for a device without surviving reports, and for no other
  one. -/
  unreported : ∀ id, p.event? id = none ↔ f.survivors now window id = []
  /-- The device that is found is the one that was registered last. -/
  registered : ∀ id, p.device? id = (f.devices.filter (·.deviceId = id)).getLast?
  /-- The devices that take part are listed in the order of their events. -/
  taking_part : p.deviceIds = (p.events.map (·.deviceId)).filter fun id => (p.device? id).isSome
  /-- No device takes part twice. -/
  once : p.deviceIds.Nodup
  /-- Taking part are the registered devices with surviving reports. -/
  both : ∀ id, id ∈ p.deviceIds
    ↔ f.survivors now window id ≠ [] ∧ ∃ d ∈ f.devices, d.deviceId = id

/-- **Preparing a fleet keeps of each device the newest surviving report and the
last registration**, whatever the fleet holds: repeated and equal reports,
reports without telemetry, of the past and of the future, and of devices that
nobody registered. -/
theorem ofFleet_indexes (f : Fleet) (now : Instant) (window : ℤ) :
    (ofFleet f now window).Indexes f now window := by
  have hp := ofFleet_wellOrdered f now window
  have hreported : ∀ id, id ∈ (ofFleet f now window).events.map (·.deviceId)
      ↔ f.survivors now window id ≠ [] := fun id => by
    rw [ne_eq, ← event?_eq_none_iff, ← ne_eq, Option.ne_none_iff_exists', List.mem_map]
    simp only [hp.event?_eq_some_iff]
  have hregistered : ∀ id, ((ofFleet f now window).device? id).isSome = true
      ↔ ∃ d ∈ f.devices, d.deviceId = id := fun id => by
    rw [device?, List.find?_isSome]
    simp [ofFleet]
  exact
    { ascending := hp.ascending
      single := fun id => by rw [filter_events, event?_eq_lastMax]
      newest := fun id e => by rw [event?_eq_lastMax, lastMax_eq_some_iff_isNewestOf]
      unreported := event?_eq_none_iff f now window
      registered := device?_eq_getLast? f now window
      taking_part := deviceIds_eq_filter _
      once := hp.entrants_distinct
      both := fun id => by
        rw [deviceIds_eq_filter, List.mem_filter, hreported, hregistered] }

end PreparedFleet

end FleetCompliance

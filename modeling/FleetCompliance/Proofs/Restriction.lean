import FleetCompliance.Proofs.Preparation

/-!
# Fleets of some devices

What a device contributes to an evaluation – the event that counts for it,
and the registration that is found for it – is decided among its own reports
and registrations. So it does not matter whether devices are taken out of a
fleet before it is prepared or after (`entrants_ofDevices`).

The one step at which devices could get in each other's way is sorting. Two
events of one device at one time are told apart by their places alone, and
the later of the two counts; that the other devices do not change these
places is what `filter_mergeSort_of_key` says.
-/

namespace FleetCompliance

/-- The part of a fleet that belongs to some devices. -/
def Fleet.ofDevices (f : Fleet) (keep : Identifier .device → Bool) : Fleet :=
  ⟨f.devices.filter (keep ·.deviceId), f.events.filter (keep ·.deviceId)⟩

variable (keep : Identifier .device → Bool)

/-- The recent events of some devices are found among them alone. -/
theorem recentEvents_filter (events : List Event) (now : Instant) (window : ℤ) :
    recentEvents (events.filter (keep ·.deviceId)) now window
      = (recentEvents events now window).filter (keep ·.deviceId) := by
  rw [recentEvents, recentEvents, filter_mergeSort_of_key Event.notAfter_iff,
    List.filter_filter, List.filter_filter]
  refine congrArg (List.mergeSort · _) (List.filter_congr (fun e _ => ?_))
  exact Bool.and_comm _ _

/-- The last events of some devices are found among them alone. -/
theorem lastPerDevice_filter (l : List Event) :
    lastPerDevice (l.filter (keep ·.deviceId))
      = (lastPerDevice l).filter (keep ·.deviceId) := by
  induction l with
  | nil => rfl
  | cons e rest ih =>
    by_cases he : keep e.deviceId = true
    · have hcons : ∀ l : List Event,
          (e :: l).filter (keep ·.deviceId) = e :: l.filter (keep ·.deviceId) :=
        fun l => List.filter_cons_of_pos he
      -- a later report of a kept device is kept as well
      have hany : (rest.filter (keep ·.deviceId)).any (·.deviceId = e.deviceId)
          = rest.any (·.deviceId = e.deviceId) := by
        rw [List.any_filter]
        refine congrArg (List.any rest) (funext fun x => ?_)
        by_cases hx : x.deviceId = e.deviceId
        · rw [hx, he, Bool.true_and]
        · rw [decide_eq_false hx, Bool.and_false]
      rw [hcons, lastPerDevice, lastPerDevice, hany, ih]
      split
      · rfl
      · exact (hcons _).symm
    · have hcons : ∀ l : List Event,
          (e :: l).filter (keep ·.deviceId) = l.filter (keep ·.deviceId) :=
        fun l => List.filter_cons_of_neg he
      rw [hcons, ih, lastPerDevice]
      split
      · rfl
      · exact (hcons _).symm

namespace PreparedFleet

variable (f : Fleet) (now : Instant) (window : ℤ)

/-- The events that count for some devices are found among them alone. -/
theorem events_ofDevices :
    (ofFleet (f.ofDevices keep) now window).events
      = (ofFleet f now window).events.filter (keep ·.deviceId) := by
  show lastPerDevice (recentEvents (f.events.filter _) now window) = _
  rw [recentEvents_filter, lastPerDevice_filter]
  rfl

/-- The registration of a kept device is found among the kept ones. -/
theorem device?_ofDevices {id : Identifier .device} (hid : keep id = true) :
    (ofFleet (f.ofDevices keep) now window).device? id = (ofFleet f now window).device? id := by
  show (f.devices.filter _).reverse.find? _ = f.devices.reverse.find? _
  rw [← List.filter_reverse, List.find?_filter]
  refine congrArg (List.find? · _) (funext fun d => ?_)
  by_cases hd : d.deviceId = id
  · rw [hd, hid]
    simp
  · simp [hd]

/-- **Devices may be taken out of a fleet before or after it is prepared**:
the vehicles that enter are the same, in the same order. -/
theorem entrants_ofDevices :
    (ofFleet (f.ofDevices keep) now window).entrants
      = (ofFleet f now window).entrants.filter (keep ·.event.deviceId) := by
  rw [entrants, events_ofDevices, List.filterMap_filter, entrants, List.filter_filterMap]
  refine List.filterMap_congr (fun e _ => ?_)
  have hentrant : ∀ d : Device, Option.filter (fun v : Entrant => keep v.event.deviceId)
      (some ⟨d, e⟩) = if keep e.deviceId = true then some ⟨d, e⟩ else none := fun d => rfl
  by_cases he : keep e.deviceId = true
  · rw [if_pos he, device?_ofDevices keep f now window he]
    cases (ofFleet f now window).device? e.deviceId with
    | none => rfl
    | some d => exact ((hentrant d).trans (if_pos he)).symm
  · rw [if_neg he]
    cases (ofFleet f now window).device? e.deviceId with
    | none => rfl
    | some d => exact ((hentrant d).trans (if_neg he)).symm

end PreparedFleet

end FleetCompliance

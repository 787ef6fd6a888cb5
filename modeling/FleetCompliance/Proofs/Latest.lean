import FleetCompliance.Batch.Store
import FleetCompliance.Proofs.Greatest

/-!
# The newest event of each device in a store

A store goes through the events it is given and keeps one for each device.
Taking an event in either finds the device there already, and then the
devices stay as they are, or adds it at the end.

What is kept for a device gives way only to something newer. So it is the first
of the newest events of the device (`filter_latestPerDevice`), and the events
of other devices do not matter to it.
-/

namespace FleetCompliance

/-- **Taking an event in** adds its device, unless it is there. -/
theorem map_deviceId_takeNewer (l : List Event) (e : Event) :
    (takeNewer l e).map (·.deviceId)
      = if e.deviceId ∈ l.map (·.deviceId) then l.map (·.deviceId)
        else l.map (·.deviceId) ++ [e.deviceId] := by
  induction l with
  | nil => rfl
  | cons kept rest ih =>
    rw [takeNewer]
    by_cases hsame : kept.deviceId = e.deviceId
    · have hmem : e.deviceId ∈ (kept :: rest).map (·.deviceId) := by
        rw [← hsame]
        exact List.mem_cons_self
      -- whichever of the two events is newer, their device stays in its place
      rw [if_pos hsame, if_pos hmem]
      split
      · rfl
      · rw [List.map_cons, List.map_cons, hsame]
    · have hmem : e.deviceId ∈ (kept :: rest).map (·.deviceId)
          ↔ e.deviceId ∈ rest.map (·.deviceId) := by
        rw [List.map_cons, List.mem_cons]
        exact or_iff_right (fun h => hsame h.symm)
      rw [if_neg hsame, List.map_cons, ih]
      by_cases hrest : e.deviceId ∈ rest.map (·.deviceId)
      · rw [if_pos hrest, if_pos (hmem.mpr hrest)]
        rfl
      · rw [if_neg hrest, if_neg (fun h => hrest (hmem.mp h))]
        rfl

/-- Taking events in keeps one event for each device. -/
theorem nodup_foldl_takeNewer (events : List Event) {l : List Event}
    (hl : (l.map (·.deviceId)).Nodup) :
    ((events.foldl takeNewer l).map (·.deviceId)).Nodup := by
  induction events generalizing l with
  | nil => exact hl
  | cons e events ih =>
    refine ih ?_
    rw [map_deviceId_takeNewer]
    split
    · exact hl
    · rename_i hnew
      refine List.nodup_append.mpr ⟨hl, List.nodup_singleton _, fun a ha b hb hab => hnew ?_⟩
      rwa [← List.mem_singleton.mp hb, ← hab]

/-- **A store keeps one event for each device.** -/
theorem latestPerDevice_nodup (events : List Event) :
    ((latestPerDevice events).map (·.deviceId)).Nodup := by
  refine ((List.mergeSort_perm _ _).map _).nodup_iff.mpr ?_
  exact nodup_foldl_takeNewer events List.nodup_nil

/-! ## What is kept for a device -/

/-- Taking an event in leaves what is kept for other devices. -/
theorem find?_takeNewer_of_ne {e : Event} {id : Identifier .device} (h : e.deviceId ≠ id)
    (l : List Event) :
    (takeNewer l e).find? (·.deviceId = id) = l.find? (·.deviceId = id) := by
  induction l with
  | nil => simp [takeNewer, h]
  | cons kept rest ih =>
    rw [takeNewer]
    by_cases hsame : kept.deviceId = e.deviceId
    · have hkept : kept.deviceId ≠ id := fun hid => h (hsame.symm.trans hid)
      rw [if_pos hsame]
      split <;> simp [h, hkept]
    · rw [if_neg hsame, List.find?_cons, List.find?_cons, ih]

/-- **Taking an event in** replaces what is kept for its device, unless that is
as new. -/
theorem find?_takeNewer_self (l : List Event) (e : Event) :
    (takeNewer l e).find? (·.deviceId = e.deviceId)
      = some ((l.find? (·.deviceId = e.deviceId)).elim e
          fun kept => if kept.timestamp.millis < e.timestamp.millis then e else kept) := by
  induction l with
  | nil => simp [takeNewer]
  | cons kept rest ih =>
    rw [takeNewer]
    by_cases hsame : kept.deviceId = e.deviceId
    · have hle : e.timestamp ≤ kept.timestamp
          ↔ ¬ kept.timestamp.millis < e.timestamp.millis := by
        show e.timestamp.millis ≤ kept.timestamp.millis ↔ _
        exact not_lt.symm
      rw [if_pos hsame]
      by_cases hlt : kept.timestamp.millis < e.timestamp.millis
      · simp [hle, hlt, hsame]
      · simp [hle, hlt, hsame]
    · rw [if_neg hsame, List.find?_cons_of_neg (by simpa using hsame), ih,
        List.find?_cons_of_neg (by simpa using hsame)]

/-- Going through the events leaves of each device the first of its newest
ones. -/
theorem find?_foldl_takeNewer (events : List Event) (id : Identifier .device) :
    (events.foldl takeNewer []).find? (·.deviceId = id)
      = firstMax (·.timestamp.millis) (events.filter (·.deviceId = id)) := by
  induction events using List.reverseRecOn with
  | nil => rfl
  | append_singleton events e ih =>
    rw [List.foldl_append, List.foldl_cons, List.foldl_nil, List.filter_append]
    by_cases hid : e.deviceId = id
    · subst hid
      rw [find?_takeNewer_self, ih, List.filter_cons_of_pos (by simp), List.filter_nil,
        firstMax_concat]
    · rw [find?_takeNewer_of_ne hid, ih, List.filter_cons_of_neg (by simpa using hid),
        List.filter_nil, List.append_nil]

/-- **A store keeps of each device the first of its newest events**, and nothing
else. -/
theorem filter_latestPerDevice (events : List Event) (id : Identifier .device) :
    (latestPerDevice events).filter (·.deviceId = id)
      = (firstMax (·.timestamp.millis) (events.filter (·.deviceId = id))).toList := by
  have hnodup := latestPerDevice_nodup events
  have hfind : (latestPerDevice events).find? (·.deviceId = id)
      = (events.foldl takeNewer []).find? (·.deviceId = id) :=
    find?_key_eq_of_perm Event.deviceId (List.mergeSort_perm _ _) hnodup id
  rw [filter_key_eq_toList_find? Event.deviceId hnodup, hfind, find?_foldl_takeNewer]

/-- What a store keeps is among the events that it is given. -/
theorem mem_of_mem_latestPerDevice {events : List Event} {e : Event}
    (he : e ∈ latestPerDevice events) : e ∈ events := by
  have hfilter : e ∈ (latestPerDevice events).filter (·.deviceId = e.deviceId) :=
    List.mem_filter.mpr ⟨he, by simp⟩
  rw [filter_latestPerDevice, Option.mem_toList] at hfilter
  exact List.mem_of_mem_filter (mem_of_firstMax hfilter)

end FleetCompliance

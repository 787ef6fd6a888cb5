import FleetCompliance.Proofs.Latest
import FleetCompliance.Proofs.CountLedger

/-!
# What a store keeps of a history

The events that a store is given may be a long history: any number of reports of a
device, with those of other devices in between, and several made at one time. What
is kept can be told from the history by its places (`Event.IsFirstNewestOf`), and a
strict order has room for one arrangement only. So nothing about the walk through the
history remains to be known, neither what was held on the way nor in which order
it was handed over in the end (`mergeSort_of_perm_foldl_takeNewer`).

In particular the history may be cut. What is kept of a first part stands for
all of it when the rest is gone through (`latestPerDevice_append`), and if there is no
rest nothing changes. Ties are what makes this delicate. What is kept of the first part comes
before the rest, as the whole of the first part did, and so the first of two equally
new events remains the first one.
-/

namespace FleetCompliance

/-- **The first of the newest events of its device** in a history: those of the device
before it are older, and none of those after it is newer. -/
def Event.IsFirstNewestOf (e : Event) (history : List Event) : Prop :=
  ∃ before after, history = before ++ e :: after
    ∧ (∀ x ∈ before, x.deviceId = e.deviceId → x.timestamp < e.timestamp)
    ∧ ∀ x ∈ after, x.deviceId = e.deviceId → x.timestamp ≤ e.timestamp

variable {history : List Event} {e : Event}

/-- What is kept is what is chosen among the events of its device. -/
theorem mem_latestPerDevice_iff_firstMax :
    e ∈ latestPerDevice history
      ↔ firstMax (·.timestamp.millis) (history.filter (·.deviceId = e.deviceId)) = some e := by
  rw [← Option.mem_toList, ← filter_latestPerDevice, List.mem_filter]
  exact (and_iff_left (decide_eq_true rfl)).symm

/-- **A store keeps the first of the newest events of each device.** -/
theorem mem_latestPerDevice_iff : e ∈ latestPerDevice history ↔ e.IsFirstNewestOf history := by
  rw [mem_latestPerDevice_iff_firstMax, firstMax_filter_eq_some_iff]
  simp only [decide_eq_true_eq, true_and]
  rfl

/-- A store keeps something of every device that has reported. -/
theorem mem_map_deviceId_latestPerDevice_iff {id : Identifier .device} :
    id ∈ (latestPerDevice history).map (·.deviceId) ↔ id ∈ history.map (·.deviceId) := by
  simp only [List.mem_map]
  constructor
  · rintro ⟨e, he, rfl⟩
    exact ⟨e, mem_of_mem_latestPerDevice he, rfl⟩
  · rintro ⟨x, hx, rfl⟩
    cases hmax : firstMax (·.timestamp.millis) (history.filter (·.deviceId = x.deviceId)) with
    | none =>
      have hnone := List.filter_eq_nil_iff.mp (firstMax_eq_none_iff.mp hmax)
      exact absurd (decide_eq_true rfl) (hnone x hx)
    | some e =>
      have hmem := List.mem_filter.mp (mem_of_firstMax hmax)
      have hid : e.deviceId = x.deviceId := of_decide_eq_true hmem.2
      exact ⟨e, mem_latestPerDevice_iff_firstMax.mpr (hid ▸ hmax), hid⟩

/-- Events of distinct devices have distinct stamps. -/
theorem nodup_map_stamp_of_deviceId {l : List Event} (hl : (l.map (·.deviceId)).Nodup) :
    (l.map Event.stamp).Nodup :=
  List.pairwise_map.mpr
    ((List.pairwise_map.mp hl).imp fun hne hstamp => hne (Stamp.device_eq_of_of_eq hstamp))

/-- **What is kept stands in strict order**, by time and then by device. -/
theorem latestPerDevice_ascending (history : List Event) :
    (latestPerDevice history).Pairwise (·.stamp < ·.stamp) :=
  (pairwise_mergeSort_of_key Event.notAfter_iff _).imp₂
    (fun _ _ hle hne => lt_of_le_of_ne hle hne)
    (List.pairwise_map.mp (nodup_map_stamp_of_deviceId (latestPerDevice_nodup history)))

/-- **The order in which the events of a walk are handed over does not matter.** -/
theorem mergeSort_of_perm_foldl_takeNewer {kept : List Event}
    (h : kept.Perm (history.foldl takeNewer [])) :
    kept.mergeSort Event.notAfter = latestPerDevice history :=
  mergeSort_eq_of_perm Event.notAfter_iff h
    (nodup_map_stamp_of_deviceId (nodup_foldl_takeNewer history List.nodup_nil))

/-- **A history may be cut**: what is kept of its first part stands for that part. -/
theorem latestPerDevice_append (history later : List Event) :
    latestPerDevice (history ++ later) = latestPerDevice (latestPerDevice history ++ later) := by
  refine eq_of_mem_iff_of_ascending Event.stamp (latestPerDevice_ascending _)
    (latestPerDevice_ascending _) fun e => ?_
  rw [mem_latestPerDevice_iff_firstMax, mem_latestPerDevice_iff_firstMax, List.filter_append,
    List.filter_append, filter_latestPerDevice, ← firstMax_append]

/-- What is kept is kept if it is given to a store again. -/
theorem latestPerDevice_latestPerDevice (history : List Event) :
    latestPerDevice (latestPerDevice history) = latestPerDevice history := by
  have hcut := latestPerDevice_append history []
  rw [List.append_nil, List.append_nil] at hcut
  exact hcut.symm

/-! ## Stores -/

/-- **How a store comes about**: from four lists, or by loading the documents of a
directory. -/
inductive Store.Made : Store → Prop
  | ofLists (geographies : List Geography) (policies : List Policy) (devices : List Device)
      (events : List Event) : Made (.ofLists geographies policies devices events)
  | loaded {σ : Type} (read : FileReader (StateM σ)) (directory : String) (st : σ) {s : Store}
      (h : ((Store.load read directory).run.run st).1 = .ok s) : Made s

/-- A step that succeeds with values of one sort only. -/
def Yields {σ ε α : Type} (good : α → Prop) (x : ExceptT ε (StateM σ) α) : Prop :=
  ∀ st a, (x.run.run st).1 = .ok a → good a

/-- Of two steps in turn the last one yields what both yield. -/
theorem Yields.bind {σ ε α β : Type} {good : β → Prop} (x : ExceptT ε (StateM σ) α)
    {f : α → ExceptT ε (StateM σ) β} (hf : ∀ a, Yields good (f a)) : Yields good (x >>= f) := by
  intro st b h
  rw [ExceptT.run_bind, StateT.run_bind] at h
  cases hrun : x.run.run st with
  | mk result st₁ =>
    rw [hrun] at h
    cases result with
    | ok a => exact hf a st₁ b h
    | error cause => exact nomatch h

/-- A loaded store is one of four lists. -/
theorem Store.yields_load {σ : Type} (read : FileReader (StateM σ)) (directory : String) :
    Yields (fun s : Store => ∃ geographies policies devices events,
      s = ofLists geographies policies devices events) (load read directory) := by
  refine .bind _ fun geographies => .bind _ fun policies => .bind _ fun devices =>
    .bind _ fun events => ?_
  intro st s h
  exact ⟨geographies, policies, devices, events, (Except.ok.inj h).symm⟩

/-- **A store gives out one event of a device at most**, for one provider and for all
of them. -/
theorem Store.Made.nodup_fleet {s : Store} (h : s.Made) (provider : Option (Identifier .provider)) :
    ((s.fleet provider).events.map (·.deviceId)).Nodup := by
  have hs : (s.events.map (·.deviceId)).Nodup := by
    cases h with
    | ofLists => exact latestPerDevice_nodup _
    | loaded read directory st h =>
      obtain ⟨_, _, _, events, rfl⟩ := yields_load read directory st s h
      exact latestPerDevice_nodup events
  cases provider with
  | none => exact hs
  | some q => exact hs.sublist (List.filter_sublist.map _)

/-- **What a store keeps of a history.** It keeps one event of each device that has
reported, the first of the newest ones, in strict order. It does not matter in which
order they come out of the walk, nor whether a first part of the history
went through a store before. So no store gives out two events of one device. -/
theorem latestPerDevice_history (history : List Event) :
    (∀ e, e ∈ latestPerDevice history ↔ e.IsFirstNewestOf history)
      ∧ ((latestPerDevice history).map (·.deviceId)).Nodup
      ∧ (∀ id, id ∈ (latestPerDevice history).map (·.deviceId) ↔ id ∈ history.map (·.deviceId))
      ∧ (latestPerDevice history).Pairwise (·.stamp < ·.stamp)
      ∧ (∀ kept : List Event, kept.Perm (history.foldl takeNewer []) →
          kept.mergeSort Event.notAfter = latestPerDevice history)
      ∧ latestPerDevice (latestPerDevice history) = latestPerDevice history
      ∧ (∀ later, latestPerDevice (history ++ later)
          = latestPerDevice (latestPerDevice history ++ later))
      ∧ ∀ s : Store, s.Made → ∀ provider, ((s.fleet provider).events.map (·.deviceId)).Nodup :=
  ⟨fun _ => mem_latestPerDevice_iff, latestPerDevice_nodup history,
    fun _ => mem_map_deviceId_latestPerDevice_iff, latestPerDevice_ascending history,
    fun _ => mergeSort_of_perm_foldl_takeNewer, latestPerDevice_latestPerDevice history,
    latestPerDevice_append history, fun _ hs => hs.nodup_fleet⟩

/-! ### Two reports at one time

The second vehicle reports, and then the first one reports twice, at the same
earlier time. -/

namespace Sample

/-- What the first vehicle reports the second time. -/
def reservedEvent : Event := { (vehicle 1).event with state := .reserved }

/-- The three reports. -/
def tiedHistory : List Event := [(vehicle 2).event, (vehicle 1).event, reservedEvent]

end Sample

/-- The first of the two reports is kept, and stands before that of the second vehicle. -/
theorem latestPerDevice_history_tied :
    [(Sample.vehicle 1).event, (Sample.vehicle 2).event].Perm
        (Sample.tiedHistory.foldl takeNewer [])
      ∧ latestPerDevice Sample.tiedHistory = [(Sample.vehicle 1).event, (Sample.vehicle 2).event]
      ∧ (Sample.vehicle 1).event.IsFirstNewestOf Sample.tiedHistory
      ∧ ¬ Sample.reservedEvent.IsFirstNewestOf Sample.tiedHistory
      ∧ (Store.ofLists [] [] [] Sample.tiedHistory).Made
      ∧ (((Store.ofLists [] [] [] Sample.tiedHistory).fleet none).events.map
          (·.deviceId)).Nodup := by
  obtain ⟨hkept, -, -, -, hdrained, -, -, hstores⟩ := latestPerDevice_history Sample.tiedHistory
  have hperm : [(Sample.vehicle 1).event, (Sample.vehicle 2).event].Perm
      (Sample.tiedHistory.foldl takeNewer []) := .swap _ _ _
  have hlatest : latestPerDevice Sample.tiedHistory
      = [(Sample.vehicle 1).event, (Sample.vehicle 2).event] :=
    (hdrained _ hperm).symm.trans (List.mergeSort_of_pairwise (by decide))
  have hmade := Store.Made.ofLists [] [] [] Sample.tiedHistory
  refine ⟨hperm, hlatest, (hkept _).mp ?_, fun hnot => ?_, hmade, hstores _ hmade none⟩
  · rw [hlatest]
    exact List.mem_cons_self
  · have hmem := (hkept _).mpr hnot
    rw [hlatest] at hmem
    exact absurd (List.mem_map_of_mem (f := (·.state)) hmem) (by decide)

end FleetCompliance

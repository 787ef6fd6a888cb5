import FleetCompliance.Proofs.BatchRun
import FleetCompliance.Proofs.Found
import FleetCompliance.Proofs.Latest

/-!
# No vehicle counts twice

A device may be registered with several providers, and report for several of
them. A batch evaluates a policy for each provider by itself, so that nothing
in an evaluation keeps a device from being found by two of them.

What keeps it from being found twice is the store. Of each device it holds a
single event, which names a single provider, and an evaluation finds devices
by their events. So what two providers find has no device in common
(`Store.Finds.disjoint`), and what one provider finds has no device twice.
-/

namespace FleetCompliance

/-- A list that is related to a list of groups falls into groups itself. -/
theorem exists_groups_of_forall₂_flatMap {α β γ : Type} {R : β → γ → Prop} {f : α → List β}
    {l : List α} {r : List γ} (h : List.Forall₂ R (l.flatMap f) r) :
    ∃ groups : List (List γ), r = groups.flatten
      ∧ List.Forall₂ (fun a group => List.Forall₂ R (f a) group) l groups := by
  induction l generalizing r with
  | nil => exact ⟨[], List.forall₂_nil_left_iff.mp h, .nil⟩
  | cons a l ih =>
    rw [List.flatMap_cons] at h
    have hfirst := List.forall₂_take (f a).length h
    have hrest := List.forall₂_drop (f a).length h
    rw [List.take_left] at hfirst
    rw [List.drop_left] at hrest
    obtain ⟨groups, hgroups, hrelated⟩ := ih hrest
    refine ⟨r.take (f a).length :: groups, ?_, .cons hfirst hrelated⟩
    rw [List.flatten_cons, ← hgroups, List.take_append_drop]

/-- The devices that a finding counts. -/
def Finding.deviceIds (f : Finding) : List (Identifier .device) :=
  f.verdict.vehiclesFound.map (·.deviceId)

namespace Store

variable {s : Store} {e : Engine}

/-- A device that is found has an event with the provider. -/
theorem Finds.exists_event {pair : Policy × Identifier .provider} {f : Finding}
    (h : s.Finds e pair f) {id : Identifier .device} (hid : id ∈ f.deviceIds) :
    ∃ x ∈ s.events, x.deviceId = id ∧ x.providerId = pair.2 := by
  obtain ⟨x, hx, hxid⟩ := e.exists_event_of_found _ _ h.verdict hid
  obtain ⟨hmem, hprovider⟩ := List.mem_filter.mp hx
  exact ⟨x, hmem, hxid, of_decide_eq_true hprovider⟩

/-- **What two providers find has no device in common**, if the store holds
one event for each device. -/
theorem Finds.disjoint (hs : (s.events.map (·.deviceId)).Nodup) {p p' : Policy}
    {q q' : Identifier .provider} {f f' : Finding} (h : s.Finds e (p, q) f)
    (h' : s.Finds e (p', q') f') (hq : q ≠ q') : f.deviceIds.Disjoint f'.deviceIds := by
  intro id hid hid'
  obtain ⟨x, hx, hxid, hxq⟩ := h.exists_event hid
  obtain ⟨x', hx', hxid', hxq'⟩ := h'.exists_event hid'
  obtain rfl : x = x' := List.inj_on_of_nodup_map hs hx hx' (hxid.trans hxid'.symm)
  exact hq (hxq.symm.trans hxq')

/-- What several providers find has no device twice. -/
theorem nodup_flatMap_deviceIds (hs : (s.events.map (·.deviceId)).Nodup) {p : Policy}
    {providers : List (Identifier .provider)} (hproviders : providers.Nodup)
    {findings : List Finding}
    (h : List.Forall₂ (s.Finds e) (providers.map fun q => (p, q)) findings) :
    (findings.flatMap Finding.deviceIds).Nodup := by
  rw [List.forall₂_map_left_iff] at h
  induction h with
  | nil => exact List.nodup_nil
  | cons hf hrest ih =>
    obtain ⟨hq, hrestq⟩ := List.nodup_cons.mp hproviders
    rw [List.flatMap_cons]
    refine List.Nodup.append (e.found_nodup _ _ hf.verdict) (ih hrestq) ?_
    -- a later finding with the device would be one of another provider
    intro id hid hid'
    obtain ⟨f', hf', hid'⟩ := List.mem_flatMap.mp hid'
    obtain ⟨q', hq', hf'⟩ := exists_of_mem_forall₂ hrest hf'
    exact hf.disjoint hs hf' (fun heq => hq (heq ▸ hq')) hid hid'

/-- **A batch finds no device twice for a policy.** The findings of a batch
on a store of any devices and events fall into one group for each policy,
and no device is found twice within a group, neither for one provider nor for
two of them. -/
theorem found_once (geographies : List Geography) (stored : List Policy)
    (devices : List Device) (events : List Event) (e : Engine) {policies : List Policy}
    {fleets : Fleets} {findings : List Finding}
    (hgather : (gather (m := Id)
      (fun q => pure ((ofLists geographies stored devices events).fleet q)) policies).run
        = .ok fleets)
    (hassess : assess e policies geographies fleets = .ok findings) :
    ∃ groups : List (List Finding), findings = groups.flatten
      ∧ List.Forall₂
          (fun p group =>
            List.Forall₂ ((ofLists geographies stored devices events).Finds e)
                (((ofLists geographies stored devices events).audience p).map fun q => (p, q))
                group
              ∧ (group.flatMap fun f => f.verdict.vehiclesFound.map (·.deviceId)).Nodup)
          policies groups := by
  set s := ofLists geographies stored devices events
  have hs : (s.events.map (·.deviceId)).Nodup := latestPerDevice_nodup events
  rw [s.gather_fleet] at hgather
  obtain rfl : s.fleetsFor policies = fleets := Except.ok.inj hgather
  have hpairs := assess_eq_ok_iff.mp (hassess : assess e policies s.geographies _ = _)
  obtain ⟨groups, hgroups, hrelated⟩ := exists_groups_of_forall₂_flatMap hpairs
  refine ⟨groups, hgroups, hrelated.imp (fun p group hgroup => ⟨hgroup, ?_⟩)⟩
  exact nodup_flatMap_deviceIds hs (s.audience_nodup p) hgroup

end Store

/-! ### One vehicle and two providers

A vehicle is registered with two providers and reports for both of them. -/

namespace Sample

/-- The vehicle is registered twice. -/
def sharedDevices : List Device := [⟨id 1, id 1, .scooter⟩, ⟨id 1, id 2, .scooter⟩]

/-- The newer event, which names the second provider. -/
def sharedEvent : Event := { (vehicle 2).event with deviceId := id 1, providerId := id 2 }

/-- The older event is there twice. -/
def sharedEvents : List Event := [(vehicle 1).event, sharedEvent, (vehicle 1).event]

/-- The store holds the newer event only. -/
theorem ofLists_shared :
    Store.ofLists [zone] [policy] sharedDevices sharedEvents
      = ⟨[zone], [policy], sharedDevices, [sharedEvent]⟩ :=
  congrArg (Store.mk [zone] [policy] sharedDevices)
    (List.mergeSort_of_pairwise (List.pairwise_singleton _ _))

/-- The first provider has the vehicle, and no event of it. -/
def silentFleet : Fleet := ⟨sharedDevices.take 1, []⟩

/-- The second provider has the vehicle and its event. -/
def reportedFleet : Fleet := ⟨sharedDevices.drop 1, [sharedEvent]⟩

/-- Only the vehicle's newer event is found. -/
theorem tallies_shared :
    (tallyOf silentFleet).violations = some 4 ∧ (tallyOf reportedFleet).violations = some 4
      ∧ [tallyOf silentFleet, tallyOf reportedFleet].flatMap
          (·.vehiclesFound.map (·.deviceId)) = [id 1] := by
  have hone : recentEvents reportedFleet.events engine.clock.now engine.window = [sharedEvent] :=
    List.mergeSort_of_pairwise (List.pairwise_singleton _ _)
  refine ⟨violations_nil _, ?_⟩
  rw [tallyOf, tallyOf, silentFleet, Engine.entrants_nil, Engine.prepare,
    PreparedFleet.ofFleet_of_recentEvents hone]
  exact ⟨rfl, rfl⟩

end Sample

/-- The vehicle is found for the second provider, and not for the first. -/
theorem found_once_shared :
    ∃ fleets findings,
      (gather (m := Id) (fun q => pure ((Store.ofLists [Sample.zone] [Sample.policy]
        Sample.sharedDevices Sample.sharedEvents).fleet q)) [Sample.policy]).run = .ok fleets
      ∧ assess Sample.engine [Sample.policy] [Sample.zone] fleets = .ok findings
      ∧ findings.flatMap Finding.deviceIds = [Sample.id 1]
      ∧ ∃ groups : List (List Finding), findings = groups.flatten
          ∧ ∀ group ∈ groups,
            (group.flatMap fun f => f.verdict.vehiclesFound.map (·.deviceId)).Nodup := by
  obtain ⟨hsilent, hreported, hdevices⟩ := Sample.tallies_shared
  set s := Store.ofLists [Sample.zone] [Sample.policy] Sample.sharedDevices Sample.sharedEvents
    with hs
  have hgather : (gather (m := Id) (fun q => pure (s.fleet q)) [Sample.policy]).run
      = .ok (s.fleetsFor [Sample.policy]) := by rw [s.gather_fleet]; rfl
  have hassess : assess Sample.engine [Sample.policy] [Sample.zone] (s.fleetsFor [Sample.policy])
      = .ok [Sample.finding Sample.policy (Sample.id 1) Sample.silentFleet 4,
          Sample.finding Sample.policy (Sample.id 2) Sample.reportedFleet 4] := by
    rw [hs, Sample.ofLists_shared]
    refine Store.assess_eq_ok_iff.mpr ?_
    exact .cons (Sample.finds_finding rfl rfl rfl hsilent)
      (.cons (Sample.finds_finding rfl rfl rfl hreported) .nil)
  obtain ⟨groups, hgroups, hrelated⟩ := Store.found_once _ _ _ _ _ hgather hassess
  refine ⟨_, _, hgather, hassess, hdevices, groups, hgroups, fun group hgroup => ?_⟩
  obtain ⟨_, _, _, hnodup⟩ := exists_of_mem_forall₂ hrelated hgroup
  exact hnodup

end FleetCompliance

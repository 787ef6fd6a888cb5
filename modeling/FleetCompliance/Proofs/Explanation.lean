import FleetCompliance.Proofs.Found
import Mathlib.Data.List.Forall2

/-!
# Verdicts explain themselves

A verdict names the vehicles that it found, and says of each what its event
reported, which rules it matches and under which of them it counts. All of
this is about one event, the newest surviving one of the device, although it
is put together in two passes: the first one finds the vehicle, and notes the
rules that claimed it or that it overflowed, and the second one looks it up
again.

`MatchedVehicle.Explains` is what an entry says if it is right, and
`Engine.evaluate_explained` that the entries of a verdict explain the vehicles
that match a rule, one entry for each of them, whatever the kind of the
policy.
-/

namespace FleetCompliance

/-- **An entry explains a vehicle**: it says what the event of the vehicle
says, it has the rules that the vehicle matches in the order of the policy,
and the rule that the vehicle counts under is one of these. -/
structure MatchedVehicle.Explains (rules : List Rule) (c : Context) (m : MatchedVehicle)
    (v : Entrant) : Prop where
  deviceId : m.deviceId = v.event.deviceId
  state : m.state = v.event.state
  eventTypes : m.eventTypes = v.event.eventTypes
  timestamp : m.timestamp = v.event.timestamp
  /-- The position and the speed are reported, and no stand-ins. -/
  fix : ∃ t, v.event.telemetry = some t ∧ m.position = t.fix.position ∧ m.speed = t.fix.speed
  rulesMatched : m.rulesMatched = (rules.filter (·.isMatch c v)).map Rule.ruleId
  ruleApplied : ∀ i, m.ruleApplied = some i → i ∈ m.rulesMatched

/-- An entry with the rules that a vehicle matches explains it. -/
theorem Entrant.explains_entry {rules : List Rule} {c : Context} {v : Entrant}
    (htelemetry : v.event.telemetry.isSome = true) {applied : Option (Identifier .rule)}
    (happlied : ∀ i, applied = some i → i ∈ matchedRules rules c v) :
    (v.entry applied (matchedRules rules c v)).Explains rules c v where
  deviceId := rfl
  state := rfl
  eventTypes := rfl
  timestamp := rfl
  fix := by
    obtain ⟨t, ht⟩ := Option.isSome_iff_exists.mp htelemetry
    refine ⟨t, ht, ?_, ?_⟩
    · rw [entry, ht]
      rfl
    · rw [entry, ht]
      rfl
  rulesMatched := rfl
  ruleApplied := happlied

/-- A rule that matches a vehicle is among the rules that it matches. -/
theorem mem_matchedRules_of_isMatch {rules : List Rule} {c : Context} {v : Entrant} {r : Rule}
    (hr : r ∈ rules) (hmatch : r.isMatch c v = true) : r.ruleId ∈ matchedRules rules c v :=
  List.mem_map_of_mem (List.mem_filter.mpr ⟨hr, hmatch⟩)

namespace Engine

variable (e : Engine) {p : Policy} (geographies : List Geography) (fleet : Fleet)

/-- A vehicle that enters has telemetry. -/
theorem telemetry_of_mem_entrants {v : Entrant} (hv : v ∈ (e.prepare fleet).entrants) :
    v.event.telemetry.isSome = true :=
  (PreparedFleet.mem_events (PreparedFleet.mem_entrants_iff.mp hv).1).2.1

/-- The entries of a count policy explain the claimed vehicles, and those in
excess. -/
theorem explains_countVerdict (hp : p.IsOfKind .count) :
    List.Forall₂ (MatchedVehicle.Explains p.rules ⟨e.clock, geographies⟩)
      (e.countVerdict p geographies fleet).vehiclesFound
      ((greedyClaims ⟨e.clock, geographies⟩ (countRules p) (e.prepare fleet).entrants).map (·.2)
        ++ greedyExcess ⟨e.clock, geographies⟩ (countRules p) (e.prepare fleet).entrants) := by
  have hrules := rules_eq_map_countRules hp
  rw [countVerdict_eq_greedyVerdict e hrules, hrules]
  refine List.rel_append ?_ ?_
  · rw [claimedEntries, List.forall₂_map_left_iff, List.forall₂_map_right_iff,
      List.forall₂_same]
    rintro ⟨r, v⟩ hrv
    obtain ⟨hr, hv, hmatch⟩ := of_mem_greedyClaims hrv
    show MatchedVehicle.Explains _ _ (v.entry _ _) v
    rw [← matchedRules_count]
    refine Entrant.explains_entry (e.telemetry_of_mem_entrants fleet hv) (fun i hi => ?_)
    obtain rfl := Option.some.inj hi
    exact mem_matchedRules_of_isMatch (List.mem_map_of_mem hr) hmatch
  · rw [excessEntries, List.forall₂_map_left_iff, List.forall₂_same]
    intro v hv
    rw [← matchedRules_count]
    exact Entrant.explains_entry
      (e.telemetry_of_mem_entrants fleet ((greedyExcess_sublist _ _ _).subset hv))
      (fun i hi => absurd hi.symm (Option.some_ne_none i))

/-- The entries of a policy of speed or time rules explain the claimed
vehicles. -/
theorem explains_firstMatchVerdict :
    List.Forall₂ (MatchedVehicle.Explains p.rules ⟨e.clock, geographies⟩)
      (e.firstMatchVerdict p geographies fleet).vehiclesFound
      ((firstClaims ⟨e.clock, geographies⟩ p.rules (e.prepare fleet).entrants).map (·.2)) := by
  rw [vehiclesFound_firstMatchVerdict, List.forall₂_map_left_iff, List.forall₂_map_right_iff,
    List.forall₂_same]
  rintro ⟨r, v⟩ hrv
  obtain ⟨hr, hv, hmatch⟩ := of_mem_firstClaims hrv
  refine Entrant.explains_entry (e.telemetry_of_mem_entrants fleet hv) (fun i hi => ?_)
  obtain rfl := Option.some.inj hi
  exact mem_matchedRules_of_isMatch hr hmatch

/-- **A verdict explains itself.** The vehicles that enter are the newest
surviving events of the registered devices. Those that match a rule are the
vehicles found, in some order, each with one entry that explains it. -/
theorem evaluate_explained {verdict : Tally}
    (h : e.evaluate p geographies fleet = .ok verdict) :
    Lineup fleet e.clock.now e.window (e.prepare fleet).entrants
      ∧ ∃ found : List Entrant,
        found.Perm ((e.prepare fleet).entrants.filter fun v =>
          p.rules.any (·.isMatch ⟨e.clock, geographies⟩ v))
        ∧ List.Forall₂ (MatchedVehicle.Explains p.rules ⟨e.clock, geographies⟩)
            verdict.vehiclesFound found := by
  refine ⟨lineup_entrants fleet e.clock.now e.window, ?_⟩
  obtain ⟨kind, -, hp, rfl⟩ := evaluate_eq_ok_iff.mp h
  cases kind with
  | count =>
    refine ⟨_, ?_, e.explains_countVerdict geographies fleet hp⟩
    refine List.Perm.trans ?_ (.of_eq (e.matching_of_isOfKind_count geographies fleet hp).symm)
    exact greedyFound_perm _ (countRules p) (e.entrants_distinct fleet)
  | speed =>
    exact ⟨_, firstClaims_perm _ p.rules _, e.explains_firstMatchVerdict geographies fleet⟩
  | time =>
    exact ⟨_, firstClaims_perm _ p.rules _, e.explains_firstMatchVerdict geographies fleet⟩

end Engine

/-- The vehicles of the sample fleet match both rules, whether a rule claims
them, a later rule rescues them or none does, and their entries say so. -/
theorem evaluate_explained_rescued :
    ∃ verdict found,
      Sample.engine.evaluate Sample.policy [Sample.zone] Sample.fleet = .ok verdict
        ∧ verdict.vehiclesFound.map (·.ruleApplied)
            = [some (Sample.id 1), some (Sample.id 2), none]
        ∧ verdict.vehiclesFound.map (·.rulesMatched)
            = List.replicate 3 [Sample.id 1, Sample.id 2]
        ∧ found.Perm [Sample.vehicle 1, Sample.vehicle 2, Sample.vehicle 3]
        ∧ List.Forall₂ (MatchedVehicle.Explains Sample.policy.rules
            ⟨Sample.engine.clock, [Sample.zone]⟩) verdict.vehiclesFound found := by
  have hp : Sample.policy.rules = Sample.rules.map .count := rfl
  have hgreedy := Sample.engine.evaluate_count hp (List.cons_ne_nil _ _) [Sample.zone]
    Sample.fleet
  obtain ⟨-, found, hfound, hexplains⟩ :=
    Sample.engine.evaluate_explained [Sample.zone] Sample.fleet hgreedy
  rw [Sample.entrants_eq] at hgreedy hfound hexplains
  refine ⟨_, found, hgreedy, rfl, rfl, hfound.trans (.of_eq ?_),
    hexplains⟩
  rfl

end FleetCompliance

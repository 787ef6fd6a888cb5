import FleetCompliance.Proofs.CountLedger
import FleetCompliance.Proofs.FirstMatch

/-!
# The vehicles found

Whatever the kind of a policy, the vehicles found are the vehicles that
enter and match one of its rules, each of them once. How they are ordered
and under which rule they count depends on the kind; which ones they are does
not.
-/

namespace FleetCompliance

/-- **The vehicles that count rules find** are those that some rule matches. -/
theorem found_greedyVerdict_perm (c : Context) (rules : List CountRule) {w : List Entrant}
    (hw : (w.map (·.event.deviceId)).Nodup) :
    ((greedyVerdict c rules w).vehiclesFound.map (·.deviceId)).Perm
      ((w.filter fun v => rules.any (·.isMatch c v)).map (·.event.deviceId)) := by
  have hfound : (greedyVerdict c rules w).vehiclesFound.map (·.deviceId)
      = ((greedyClaims c rules w).map (·.2) ++ greedyExcess c rules w).map
          (·.event.deviceId) := by
    unfold greedyVerdict claimedEntries excessEntries
    rw [List.map_append, List.map_append, List.map_map, List.map_map, List.map_map]
    rfl
  rw [hfound]
  exact (greedyFound_perm c rules hw).map _

/-- **The vehicles that a policy is about**: those that enter and match one
of its rules. -/
def Engine.matching (e : Engine) (p : Policy) (geographies : List Geography) (fleet : Fleet) :
    List Entrant :=
  (e.prepare fleet).entrants.filter fun v => p.rules.any (·.isMatch ⟨e.clock, geographies⟩ v)

namespace Engine

/-- The rules of a count policy are its count rules. -/
theorem rules_eq_map_countRules {p : Policy} (hp : p.IsOfKind .count) :
    p.rules = (countRules p).map .count := by
  unfold Policy.IsOfKind at hp
  unfold countRules
  generalize p.rules = rules at hp ⊢
  induction rules with
  | nil => rfl
  | cons r rest ih =>
    obtain ⟨hr, hrest⟩ := List.forall_mem_cons.mp hp
    cases r with
    | count r' => exact congrArg (.count r' :: ·) (ih hrest)
    | speed r' => exact nomatch hr
    | time r' => exact nomatch hr

variable (e : Engine) {p : Policy} (geographies : List Geography) (fleet : Fleet)

/-- The vehicles that a count policy is about are those that its count rules
match. -/
theorem matching_of_isOfKind_count (hp : p.IsOfKind .count) :
    e.matching p geographies fleet
      = (e.prepare fleet).entrants.filter fun v =>
          (countRules p).any (·.isMatch ⟨e.clock, geographies⟩ v) := by
  have hrules := rules_eq_map_countRules hp
  unfold matching
  rw [hrules]
  exact List.filter_congr (fun v _ => List.any_map)

/-- The vehicles that a count policy finds. -/
theorem found_countVerdict_perm (hp : p.IsOfKind .count) :
    ((e.countVerdict p geographies fleet).vehiclesFound.map (·.deviceId)).Perm
      ((e.matching p geographies fleet).map (·.event.deviceId)) := by
  rw [countVerdict_eq_greedyVerdict e (rules_eq_map_countRules hp),
    e.matching_of_isOfKind_count geographies fleet hp]
  exact found_greedyVerdict_perm _ _ (e.entrants_distinct fleet)

/-- The vehicles that a policy of speed or time rules finds. -/
theorem found_firstMatchVerdict_perm :
    ((e.firstMatchVerdict p geographies fleet).vehiclesFound.map (·.deviceId)).Perm
      ((e.matching p geographies fleet).map (·.event.deviceId)) := by
  rw [vehiclesFound_firstMatchVerdict, List.map_map]
  have h := (firstClaims_perm ⟨e.clock, geographies⟩ p.rules (e.prepare fleet).entrants).map
    (·.event.deviceId)
  rwa [List.map_map] at h

/-- **The vehicles found** are those that enter and match a rule. -/
theorem found_perm {verdict : Tally} (h : e.evaluate p geographies fleet = .ok verdict) :
    (verdict.vehiclesFound.map (·.deviceId)).Perm
      ((e.matching p geographies fleet).map (·.event.deviceId)) := by
  obtain ⟨kind, -, hp, rfl⟩ := evaluate_eq_ok_iff.mp h
  cases kind with
  | count => exact e.found_countVerdict_perm geographies fleet hp
  | speed => exact e.found_firstMatchVerdict_perm geographies fleet
  | time => exact e.found_firstMatchVerdict_perm geographies fleet

/-- **No device is found twice** in an evaluation. -/
theorem found_nodup {verdict : Tally} (h : e.evaluate p geographies fleet = .ok verdict) :
    (verdict.vehiclesFound.map (·.deviceId)).Nodup := by
  refine (e.found_perm geographies fleet h).nodup_iff.mpr ?_
  exact (e.entrants_distinct fleet).sublist (List.filter_sublist.map _)

/-- A device that is found has reported. -/
theorem exists_event_of_found {verdict : Tally}
    (h : e.evaluate p geographies fleet = .ok verdict) {id : Identifier .device}
    (hid : id ∈ verdict.vehiclesFound.map (·.deviceId)) :
    ∃ x ∈ fleet.events, x.deviceId = id := by
  obtain ⟨v, hv, rfl⟩ := List.mem_map.mp ((e.found_perm geographies fleet h).subset hid)
  have hentrant := PreparedFleet.mem_entrants_iff.mp (List.mem_of_mem_filter hv)
  exact ⟨v.event, (PreparedFleet.mem_events hentrant.1).1, rfl⟩

end Engine

end FleetCompliance

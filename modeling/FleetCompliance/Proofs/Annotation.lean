import FleetCompliance.Evaluation.Annotation
import FleetCompliance.Proofs.Preparation

/-!
# What is written down for a found vehicle

A vehicle is found with the rule that first matched it, and with whatever
rules it overflowed after that. The annotation looks it up once more and
writes down every rule it matches. Since the vehicle that is looked up is
the one that was found (`annotate_entry`), what was noted before is among
the rules it matches and adds nothing: the result depends on the vehicle,
the rules and the rule it counts under, and not on how it was found.
-/

namespace FleetCompliance

/-- **The entry of a vehicle in a verdict**: what its event says, the rule it
counts under, and a list of rules that it matches. -/
def Entrant.entry (v : Entrant) (applied : Option (Identifier .rule))
    (rules : List (Identifier .rule)) : MatchedVehicle where
  deviceId := v.event.deviceId
  state := v.event.state
  eventTypes := v.event.eventTypes
  timestamp := v.event.timestamp
  position := (v.event.telemetry.map (·.fix.position)).getD ⟨0, 0⟩
  speed := v.event.telemetry.bind (·.fix.speed)
  ruleApplied := applied
  rulesMatched := rules

@[simp] theorem Entrant.entry_deviceId (v : Entrant) (applied : Option (Identifier .rule))
    (rules : List (Identifier .rule)) :
    (v.entry applied rules).deviceId = v.event.deviceId := rfl

@[simp] theorem Entrant.entry_stamp (v : Entrant) (applied : Option (Identifier .rule))
    (rules : List (Identifier .rule)) :
    (v.entry applied rules).stamp = v.event.stamp := rfl

/-- Noting a rule adds it to the entry, if it is not there yet. -/
theorem Entrant.note_entry (v : Entrant) (applied : Option (Identifier .rule))
    (rules : List (Identifier .rule)) (rule : Identifier .rule) :
    (v.entry applied rules).note rule
      = v.entry applied (if rules.contains rule then rules else rules ++ [rule]) := by
  by_cases hmem : rules.contains rule = true
  · rw [if_pos hmem]
    exact if_pos hmem
  · rw [if_neg hmem]
    exact if_neg hmem

/-- Noting rules that are there already changes nothing. -/
theorem Entrant.foldl_note_entry {v : Entrant} {applied : Option (Identifier .rule)}
    {rules noted : List (Identifier .rule)} (h : ∀ i ∈ noted, i ∈ rules) :
    noted.foldl MatchedVehicle.note (v.entry applied rules) = v.entry applied rules := by
  induction noted with
  | nil => rfl
  | cons i noted ih =>
    have hi : rules.contains i = true := List.contains_iff_mem.mpr (h i List.mem_cons_self)
    rw [List.foldl_cons, Entrant.note_entry, if_pos hi]
    exact ih (fun j hj => h j (List.mem_cons_of_mem _ hj))

/-- Noting a rule leaves the device of a vehicle as it is. -/
@[simp] theorem MatchedVehicle.note_deviceId (m : MatchedVehicle) (rule : Identifier .rule) :
    (m.note rule).deviceId = m.deviceId := by
  unfold note
  split <;> rfl

/-- **The annotation of a vehicle that takes part** replaces the rules noted
on it by all rules that it matches, as long as only such rules were
noted. -/
theorem annotate_entry {rules : List Rule} {c : Context} {p : PreparedFleet}
    (hp : p.WellOrdered) {v : Entrant} (hv : v ∈ p.entrants)
    {applied : Option (Identifier .rule)} {noted : List (Identifier .rule)}
    (hnoted : ∀ i ∈ noted, i ∈ matchedRules rules c v) :
    annotate rules c p (v.entry applied noted) = v.entry applied (matchedRules rules c v) := by
  obtain ⟨hevent, hdevice⟩ := PreparedFleet.mem_entrants_iff.mp hv
  unfold annotate
  rw [Entrant.entry_deviceId, hdevice, hp.event?_of_mem hevent]
  exact Entrant.foldl_note_entry hnoted

end FleetCompliance

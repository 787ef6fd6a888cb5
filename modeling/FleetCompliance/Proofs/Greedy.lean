import FleetCompliance.Evaluation.Count
import FleetCompliance.Proofs.Annotation

/-!
# Count rules as a greedy procedure

What the rules of a count policy make of a lineup, said without a ledger.
The rules take their turns in order. At its turn a rule looks at the
vehicles that are left, counts those that it matches, and takes the first of
them, as many as its maximum allows; what it does not take is left for the
rules after it. A vehicle that is left in the end is in excess if some rule
matches it, and of no interest otherwise.

Nothing here remembers which vehicles overflowed. A vehicle that is left in
the end was left by every rule, so that it overflowed those that match it,
and a vehicle which overflowed and was taken later is not left: overflowing
is a matter of what is left, and needs no state.
-/

namespace FleetCompliance

/-! ## The turn of a rule -/

namespace CountRule

variable (r : CountRule) (c : Context)

/-- The vehicles of a list that a rule matches. -/
def matched (w : List Entrant) : List Entrant := w.filter (r.isMatch c)

/-- **What a rule claims** of a list: the first vehicles that it matches, as
many as its maximum allows. -/
def claims (w : List Entrant) : List Entrant :=
  match r.maximum with
  | some maximum => (r.matched c w).take maximum.toNat
  | none => r.matched c w

/-- What a rule leaves of a list: the vehicles that it does not claim. -/
def leaves (w : List Entrant) : List Entrant :=
  w.filter fun v => !((r.claims c w).map (·.event.deviceId)).contains v.event.deviceId

/-- How many vehicles a rule lacks in a list. -/
def shortfall (w : List Entrant) : ℕ :=
  match r.minimum with
  | some minimum => minimum.toNat - (r.matched c w).length
  | none => 0

end CountRule

/-! ## All turns -/

/-- The vehicles that are left after all rules. -/
def greedyRest (c : Context) : List CountRule → List Entrant → List Entrant
  | [], w => w
  | r :: rules, w => greedyRest c rules (r.leaves c w)

/-- The vehicles that rules claim, rule by rule, each with the rule that it
counts under. -/
def greedyClaims (c : Context) : List CountRule → List Entrant → List (CountRule × Entrant)
  | [], _ => []
  | r :: rules, w => (r.claims c w).map (fun v => (r, v)) ++ greedyClaims c rules (r.leaves c w)

/-- What all rules lack together. -/
def greedyShortfall (c : Context) : List CountRule → List Entrant → ℕ
  | [], _ => 0
  | r :: rules, w => r.shortfall c w + greedyShortfall c rules (r.leaves c w)

/-- **The vehicles in excess**: those that are left although some rule
matches them. -/
def greedyExcess (c : Context) (rules : List CountRule) (w : List Entrant) : List Entrant :=
  (greedyRest c rules w).filter fun v => rules.any (·.isMatch c v)

/-- The rules that match a vehicle, in order, whether they claim it or not. -/
def matchingIds (c : Context) (rules : List CountRule) (v : Entrant) : List (Identifier .rule) :=
  (rules.filter (·.isMatch c v)).map (·.scope.ruleId)

/-- The entries of the claimed vehicles. -/
def claimedEntries (c : Context) (rules : List CountRule) (w : List Entrant) :
    List MatchedVehicle :=
  (greedyClaims c rules w).map fun (r, v) =>
    v.entry (some r.scope.ruleId) (matchingIds c rules v)

/-- The entries of the vehicles in excess. -/
def excessEntries (c : Context) (rules : List CountRule) (w : List Entrant) :
    List MatchedVehicle :=
  (greedyExcess c rules w).map fun v => v.entry none (matchingIds c rules v)

/-- **The verdict of count rules on a lineup**: the claimed vehicles by rule,
then those in excess; and as violations the total of what the rules lack, to
which the excess is added. -/
def greedyVerdict (c : Context) (rules : List CountRule) (w : List Entrant) : Tally where
  vehiclesFound := claimedEntries c rules w ++ excessEntries c rules w
  excess := UInt64.ofNat (greedyExcess c rules w).length
  violations := (Total.ofNat (greedyShortfall c rules w)).plus
    (UInt64.ofNat (greedyExcess c rules w).length)

/-! ## What is claimed and what is left -/

namespace CountRule

variable {r : CountRule} {c : Context} {w : List Entrant} {v : Entrant}

/-- A rule claims a beginning of what it matches. -/
theorem claims_sublist_matched (r : CountRule) (c : Context) (w : List Entrant) :
    (r.claims c w).Sublist (r.matched c w) := by
  unfold claims
  split
  · exact List.take_sublist _ _
  · exact .refl _

/-- A claimed vehicle was there, and is matched. -/
theorem of_mem_claims (hv : v ∈ r.claims c w) : v ∈ w ∧ r.isMatch c v = true :=
  List.mem_filter.mp ((claims_sublist_matched r c w).subset hv)

/-- What a rule leaves stands in the order in which it stood. -/
theorem leaves_sublist (r : CountRule) (c : Context) (w : List Entrant) :
    (r.leaves c w).Sublist w := List.filter_sublist

/-- A rule leaves the vehicles whose devices it does not claim. -/
theorem mem_leaves_iff :
    v ∈ r.leaves c w
      ↔ v ∈ w ∧ v.event.deviceId ∉ (r.claims c w).map (·.event.deviceId) := by
  rw [leaves, List.mem_filter, Bool.not_eq_true', ← Bool.not_eq_true, List.contains_iff_mem]

end CountRule

/-- The rules of a vehicle are those that match it. -/
theorem mem_matchingIds_iff {c : Context} {rules : List CountRule} {v : Entrant}
    {i : Identifier .rule} :
    i ∈ matchingIds c rules v ↔ ∃ r ∈ rules, r.isMatch c v = true ∧ r.scope.ruleId = i := by
  rw [matchingIds, List.mem_map]
  simp only [List.mem_filter, and_assoc]

/-- The annotation writes down the rules that match. -/
theorem matchedRules_count (c : Context) (rules : List CountRule) (v : Entrant) :
    matchedRules (rules.map .count) c v = matchingIds c rules v := by
  rw [matchedRules, List.filter_map, List.map_map]
  rfl

/-- A vehicle is in excess if it is left, and some rule matches it. -/
theorem mem_greedyExcess_iff {c : Context} {rules : List CountRule} {w : List Entrant}
    {v : Entrant} :
    v ∈ greedyExcess c rules w
      ↔ v ∈ greedyRest c rules w ∧ ∃ r ∈ rules, r.isMatch c v = true := by
  rw [greedyExcess, List.mem_filter, List.any_eq_true]

/-- What is left after all rules stands in the order in which it stood. -/
theorem greedyRest_sublist (c : Context) (rules : List CountRule) (w : List Entrant) :
    (greedyRest c rules w).Sublist w := by
  induction rules generalizing w with
  | nil => exact .refl _
  | cons r rules ih => exact (ih _).trans (CountRule.leaves_sublist r c w)

/-- The vehicles in excess stand in the order of the lineup. -/
theorem greedyExcess_sublist (c : Context) (rules : List CountRule) (w : List Entrant) :
    (greedyExcess c rules w).Sublist w :=
  List.filter_sublist.trans (greedyRest_sublist c rules w)

/-- A claimed vehicle is one of the lineup, and its rule matches it. -/
theorem of_mem_greedyClaims {c : Context} {rules : List CountRule} {w : List Entrant}
    {r : CountRule} {v : Entrant} (h : (r, v) ∈ greedyClaims c rules w) :
    r ∈ rules ∧ v ∈ w ∧ r.isMatch c v = true := by
  induction rules generalizing w with
  | nil => simp [greedyClaims] at h
  | cons r' rules ih =>
    rcases List.mem_append.mp h with hfirst | hlater
    · obtain ⟨u, hu, heq⟩ := List.mem_map.mp hfirst
      obtain ⟨rfl, rfl⟩ := Prod.mk.inj heq
      obtain ⟨hw, hmatch⟩ := CountRule.of_mem_claims hu
      exact ⟨List.mem_cons_self, hw, hmatch⟩
    · obtain ⟨hr, hv, hmatch⟩ := ih hlater
      exact ⟨List.mem_cons_of_mem _ hr, (CountRule.leaves_sublist r' c w).subset hv, hmatch⟩

/-! ## Nothing is lost, nothing is counted twice -/

/-- A rule splits a list of distinct devices into what it claims and what it
leaves. -/
theorem CountRule.claims_append_leaves_perm (r : CountRule) (c : Context) {w : List Entrant}
    (hw : (w.map (·.event.deviceId)).Nodup) : (r.claims c w ++ r.leaves c w).Perm w := by
  have hclaims : (r.claims c w).Sublist w :=
    (claims_sublist_matched r c w).trans List.filter_sublist
  refine (List.perm_ext_iff_of_nodup ?_ (.of_map _ hw)).mpr (fun v => ?_)
  · refine List.Nodup.append (.of_map _ (hw.sublist (hclaims.map _)))
      (.of_map _ (hw.sublist ((r.leaves_sublist c w).map _))) (fun v hclaimed hleft => ?_)
    exact (mem_leaves_iff.mp hleft).2 (List.mem_map_of_mem hclaimed)
  · rw [List.mem_append, mem_leaves_iff]
    refine ⟨fun h => h.elim (fun hv => hclaims.subset hv) (·.1), fun hv => ?_⟩
    -- a vehicle with a claimed device is the claimed vehicle
    by_cases hid : v.event.deviceId ∈ (r.claims c w).map (·.event.deviceId)
    · obtain ⟨u, hu, heq⟩ := List.mem_map.mp hid
      obtain rfl : u = v := List.inj_on_of_nodup_map hw (hclaims.subset hu) hv heq
      exact Or.inl hu
    · exact Or.inr ⟨hv, hid⟩

/-- **All rules split a lineup** into what they claim and what is left. -/
theorem greedyClaims_append_greedyRest_perm (c : Context) (rules : List CountRule)
    {w : List Entrant} (hw : (w.map (·.event.deviceId)).Nodup) :
    ((greedyClaims c rules w).map (·.2) ++ greedyRest c rules w).Perm w := by
  induction rules generalizing w with
  | nil => exact .refl w
  | cons r rules ih =>
    rw [greedyClaims, greedyRest, List.map_append, List.map_map, List.append_assoc]
    rw [show ((·.2) ∘ fun v => (r, v)) = (id : Entrant → Entrant) from rfl, List.map_id]
    have hleaves := hw.sublist ((r.leaves_sublist c w).map _)
    exact ((ih hleaves).append_left _).trans (r.claims_append_leaves_perm c hw)

/-- **The vehicles found are those that some rule matches**, each of them
once, as claimed or in excess. -/
theorem greedyFound_perm (c : Context) (rules : List CountRule) {w : List Entrant}
    (hw : (w.map (·.event.deviceId)).Nodup) :
    ((greedyClaims c rules w).map (·.2) ++ greedyExcess c rules w).Perm
      (w.filter fun v => rules.any (·.isMatch c v)) := by
  have hsplit := (greedyClaims_append_greedyRest_perm c rules hw).filter
    (fun v => rules.any (·.isMatch c v))
  rw [List.filter_append, List.filter_eq_self.mpr] at hsplit
  · exact hsplit
  · intro v hv
    obtain ⟨⟨r, v⟩, hrv, rfl⟩ := List.mem_map.mp hv
    obtain ⟨hr, -, hmatch⟩ := of_mem_greedyClaims hrv
    exact List.any_eq_true.mpr ⟨r, hr, hmatch⟩

end FleetCompliance

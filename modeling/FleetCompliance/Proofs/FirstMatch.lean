import FleetCompliance.Evaluation.Engine
import FleetCompliance.Proofs.Annotation

/-!
# The first rule that matches

A rule of speed or time has no room to run out of: it claims every vehicle it
matches of those that no earlier rule has claimed. So a vehicle counts under
the first rule that matches it, and what all rules claim together is every
vehicle that some rule matches, each of them once (`firstClaims_perm`).
-/

namespace FleetCompliance

/-- **What rules claim in turn**, each vehicle with the rule that it counts
under. -/
def firstClaims (c : Context) : List Rule → List Entrant → List (Rule × Entrant)
  | [], _ => []
  | r :: rules, w =>
    (w.filter (r.isMatch c)).map (fun v => (r, v))
      ++ firstClaims c rules (w.filter fun v => !r.isMatch c v)

/-- The turns of the rules claim what they claim one after the other. -/
theorem claimed_foldl_apply (c : Context) (rules : List Rule) (s : Claims) :
    (rules.foldl (Claims.apply c) s).claimed
      = s.claimed ++ (firstClaims c rules s.working).map
          (fun (r, v) => v.entry (some r.ruleId) [r.ruleId]) := by
  induction rules generalizing s with
  | nil => exact (List.append_nil _).symm
  | cons r rules ih =>
    rw [List.foldl_cons, ih, firstClaims, List.map_append, List.map_map, ← List.append_assoc]
    rfl

/-- The evaluation claims what the rules claim in turn of the vehicles that
enter. -/
theorem firstMatches_eq (rules : List Rule) (c : Context) (p : PreparedFleet) :
    firstMatches rules c p = (firstClaims c rules p.entrants).map
      (fun (r, v) => v.entry (some r.ruleId) [r.ruleId]) :=
  (claimed_foldl_apply c rules _).trans (List.nil_append _)

/-- A claimed vehicle takes part, and its rule matches it. -/
theorem of_mem_firstClaims {c : Context} {rules : List Rule} {w : List Entrant} {r : Rule}
    {v : Entrant} (h : (r, v) ∈ firstClaims c rules w) :
    r ∈ rules ∧ v ∈ w ∧ r.isMatch c v = true := by
  induction rules generalizing w with
  | nil => exact nomatch h
  | cons r' rules ih =>
    rcases List.mem_append.mp h with hfirst | hlater
    · obtain ⟨u, hu, heq⟩ := List.mem_map.mp hfirst
      obtain ⟨rfl, rfl⟩ := Prod.mk.inj heq
      obtain ⟨hw, hmatch⟩ := List.mem_filter.mp hu
      exact ⟨List.mem_cons_self, hw, hmatch⟩
    · obtain ⟨hr, hv, hmatch⟩ := ih hlater
      exact ⟨List.mem_cons_of_mem _ hr, List.mem_of_mem_filter hv, hmatch⟩

/-- **Every vehicle that some rule matches is claimed once**, and no other. -/
theorem firstClaims_perm (c : Context) (rules : List Rule) (w : List Entrant) :
    ((firstClaims c rules w).map (·.2)).Perm
      (w.filter fun v => rules.any (·.isMatch c v)) := by
  induction rules generalizing w with
  | nil =>
    have hnone : (w.filter fun v => [].any fun r : Rule => r.isMatch c v) = [] :=
      List.filter_eq_nil_iff.mpr (fun _ _ => Bool.false_ne_true)
    rw [hnone]
    exact .nil
  | cons r rules ih =>
    -- the matched vehicles are those of the first rule and those of the others
    have hown : (w.filter fun v => r.isMatch c v && (r :: rules).any (·.isMatch c v))
        = w.filter (r.isMatch c) :=
      List.filter_congr (fun v _ => by rw [List.any_cons]; cases r.isMatch c v <;> rfl)
    have hothers : (w.filter fun v => !r.isMatch c v && (r :: rules).any (·.isMatch c v))
        = (w.filter fun v => !r.isMatch c v).filter fun v => rules.any (·.isMatch c v) := by
      rw [List.filter_filter]
      refine List.filter_congr (fun v _ => ?_)
      rw [List.any_cons]
      cases r.isMatch c v <;> simp
    have hsplit := List.filter_append_perm (r.isMatch c)
      (w.filter fun v => (r :: rules).any (·.isMatch c v))
    rw [List.filter_filter, List.filter_filter, hown, hothers] at hsplit
    rw [firstClaims, List.map_append, List.map_map]
    refine List.Perm.trans (List.Perm.append ?_ (ih _)) hsplit
    rw [show ((·.2) ∘ fun v => (r, v)) = (id : Entrant → Entrant) from rfl, List.map_id]

namespace Engine

/-- **The verdict of a policy of speed or time rules** has the entries of the
claimed vehicles. -/
theorem vehiclesFound_firstMatchVerdict (e : Engine) (p : Policy)
    (geographies : List Geography) (fleet : Fleet) :
    (e.firstMatchVerdict p geographies fleet).vehiclesFound
      = (firstClaims ⟨e.clock, geographies⟩ p.rules (e.prepare fleet).entrants).map
          (fun (r, v) => v.entry (some r.ruleId)
            (matchedRules p.rules ⟨e.clock, geographies⟩ v)) := by
  show List.map _ (firstMatches _ _ _) = _
  rw [firstMatches_eq, List.map_map]
  refine List.map_congr_left (fun ⟨r, v⟩ hrv => ?_)
  obtain ⟨hr, hv, hmatch⟩ := of_mem_firstClaims hrv
  refine annotate_entry (PreparedFleet.ofFleet_wellOrdered fleet _ _) hv (fun i hi => ?_)
  rw [List.mem_singleton.mp hi]
  exact List.mem_map_of_mem (List.mem_filter.mpr ⟨hr, hmatch⟩)

end Engine

end FleetCompliance

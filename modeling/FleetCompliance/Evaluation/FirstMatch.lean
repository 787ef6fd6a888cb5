import FleetCompliance.Evaluation.Annotation

/-!
# Limits on speed and time

A vehicle counts under the first rule that it matches. There is no room to run out of, so every
match is a violation.
-/

namespace FleetCompliance

/-- The state of a first-match evaluation: the vehicles that no rule has claimed, and the claimed
ones in the order in which they were claimed. -/
structure Claims where
  working : List Entrant
  claimed : List MatchedVehicle

/-- **A rule claims every vehicle that it matches** of those that are left. -/
def Claims.apply (c : Context) (s : Claims) (r : Rule) : Claims where
  working := s.working.filter fun v => !r.isMatch c v
  claimed := s.claimed ++ (s.working.filter (r.isMatch c)).map fun v =>
    .ofEvent v.event (some r.ruleId) r.ruleId

/-- The vehicles that the rules claim. -/
def firstMatches (rules : List Rule) (c : Context) (fleet : PreparedFleet) :
    List MatchedVehicle :=
  (rules.foldl (Claims.apply c) ⟨fleet.entrants, []⟩).claimed

end FleetCompliance

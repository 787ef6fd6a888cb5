import FleetCompliance.Matching
import FleetCompliance.Verdict.Basic

/-!
# Which rules a vehicle matches

After an evaluation every vehicle that was found is looked at once more, and all rules that it
matches are written down in the order of the policy. Which vehicles were found, and under which rule
each of them counts, does not change.
-/

namespace FleetCompliance

/-- The rules that a vehicle matches, in order. -/
def matchedRules (rules : List Rule) (c : Context) (v : Entrant) : List (Identifier .rule) :=
  (rules.filter (·.isMatch c v)).map Rule.ruleId

/-- Puts a list of rules in front of those that a vehicle has noted already. None is noted twice on
that account. -/
def MatchedVehicle.noteFirst (v : MatchedVehicle) (rules : List (Identifier .rule)) :
    MatchedVehicle :=
  v.rulesMatched.foldl note { v with rulesMatched := rules }

/-- **Writes down the rules that a found vehicle matches.** A vehicle that is not in the fleet stays
as it is. -/
def annotate (rules : List Rule) (c : Context) (fleet : PreparedFleet) (v : MatchedVehicle) :
    MatchedVehicle :=
  match fleet.device? v.deviceId, fleet.event? v.deviceId with
  | some device, some event => v.noteFirst (matchedRules rules c ⟨device, event⟩)
  | _, _ => v

end FleetCompliance

import FleetCompliance.Evaluation.Annotation

/-!
# Limits on the number of vehicles

The rules of a count policy are visited in order, and each of them visits the vehicles in order of
time. A vehicle that matches while the rule has room is claimed: it counts under that rule and takes
no further part. Once the rule is full a match overflows: the vehicle stays, and a later rule may
still claim it. Vehicles that overflowed and were never claimed are in excess.

A rule with a minimum that has fewer matches falls short, and the shortfall counts as violations,
together with the excess. A minimum is any word, so that the sum may have no total.
-/

namespace FleetCompliance

/-- The state of a count evaluation. -/
structure Ledger where
  /-- The devices that no rule has claimed. -/
  working : List (Identifier .device)
  /-- The claimed vehicles, in the order in which they were claimed. -/
  claimed : List MatchedVehicle
  /-- The vehicles that overflowed and are not claimed. -/
  overflowed : List MatchedVehicle
  /-- The sum of the rules' shortfalls. -/
  shortfall : Total

namespace Ledger

/-- Before the first rule every device is free. -/
def start (devices : List (Identifier .device)) : Ledger := ⟨devices, [], [], some 0⟩

/-- A rule claims a vehicle. -/
def claim (l : Ledger) (rule : Identifier .rule) (e : Event) : Ledger :=
  { l with
    working := l.working.filter (· ≠ e.deviceId)
    claimed := l.claimed ++ [.ofEvent e (some rule) rule]
    overflowed := l.overflowed.filter (·.deviceId ≠ e.deviceId) }

/-- A vehicle overflows a rule. What it overflowed before stays noted. -/
def overflow (l : Ledger) (rule : Identifier .rule) (e : Event) : Ledger :=
  { l with
    overflowed :=
      if l.overflowed.any (·.deviceId = e.deviceId) then
        l.overflowed.map fun v => if v.deviceId = e.deviceId then v.note rule else v
      else l.overflowed ++ [.ofEvent e none rule] }

/-- **A rule visits a vehicle**, after a number of matches. -/
def visit (r : CountRule) (c : Context) (s : Ledger × Nat) (v : Entrant) : Ledger × Nat :=
  let (l, count) := s
  if l.working.contains v.event.deviceId && r.isMatch c v then
    if r.maximum.all (count < ·.toNat) then (l.claim r.scope.ruleId v.event, count + 1)
    else (l.overflow r.scope.ruleId v.event, count + 1)
  else (l, count)

/-- The number of matches that a rule lacks. -/
def lack (r : CountRule) (count : Nat) : UInt64 :=
  match r.minimum with
  | some minimum => UInt64.ofNat (minimum.toNat - count)
  | none => 0

/-- **A rule visits all vehicles**, and its shortfall is added up. -/
def apply (c : Context) (entrants : List Entrant) (l : Ledger) (r : CountRule) : Ledger :=
  let (l, count) := entrants.foldl (visit r c) (l, 0)
  { l with shortfall := l.shortfall.plus (lack r count) }

/-- The vehicles found: first the claimed ones, then those in excess in order of time. -/
def found (l : Ledger) : List MatchedVehicle :=
  l.claimed ++ l.overflowed.mergeSort MatchedVehicle.notAfter

/-- The number of vehicles in excess. -/
def excess (l : Ledger) : UInt64 := UInt64.ofNat l.overflowed.length

end Ledger

/-- The ledger after all rules. -/
def countLedger (rules : List CountRule) (c : Context) (fleet : PreparedFleet) : Ledger :=
  rules.foldl (Ledger.apply c fleet.entrants) (Ledger.start fleet.deviceIds)

end FleetCompliance

import FleetCompliance.Evaluation.Count
import FleetCompliance.Evaluation.FirstMatch
import FleetCompliance.Fault

/-!
# Evaluating a policy

An engine is a clock and the time for which events are recent. It evaluates a policy on a fleet by
the kind of the policy's rules, which have to be of one kind. What comes out is a tally: if the
violations are too many for a word, the evaluation has broken off at an addition, and no verdict is
handed out (`Verdict.counted?`).
-/

namespace FleetCompliance

/-- What evaluations have in common. -/
structure Engine where
  clock : Clock
  /-- The time for which events are recent, in milliseconds. -/
  window : Int

namespace Engine

/-- An engine for which events are recent for the usual time. -/
def ofClock (clock : Clock) : Engine := ⟨clock, defaultWindow⟩

/-- A fleet as it is at the engine's instant. -/
def prepare (e : Engine) (fleet : Fleet) : PreparedFleet :=
  PreparedFleet.ofFleet fleet e.clock.now e.window

/-- The first rule of a policy that is not of the wanted kind is a fault. -/
def demandKind (p : Policy) (expected : RuleKind) : Except EngineFault Unit :=
  match p.rules.find? (·.kind ≠ expected) with
  | some r => .error (.unsupportedRuleType p.policyId expected r.kind)
  | none => .ok ()

/-- The count rules among a policy's rules. -/
def countRules (p : Policy) : List CountRule :=
  p.rules.filterMap fun
    | .count r => some r
    | _ => none

/-- The tally of a policy of count rules. -/
def countVerdict (e : Engine) (p : Policy) (geographies : List Geography) (fleet : Fleet) :
    Tally :=
  let context := ⟨e.clock, geographies⟩
  let prepared := e.prepare fleet
  let ledger := countLedger (countRules p) context prepared
  { vehiclesFound := ledger.found.map (annotate p.rules context prepared)
    excess := ledger.excess
    violations := ledger.shortfall.plus ledger.excess }

/-- The tally of a policy of speed or of time rules. -/
def firstMatchVerdict (e : Engine) (p : Policy) (geographies : List Geography) (fleet : Fleet) :
    Tally :=
  let context := ⟨e.clock, geographies⟩
  let prepared := e.prepare fleet
  let claimed := firstMatches p.rules context prepared
  { vehiclesFound := claimed.map (annotate p.rules context prepared)
    excess := 0
    violations := some (UInt64.ofNat claimed.length) }

/-- **Evaluates a policy as one of a given kind.** -/
def evaluateAs (e : Engine) (kind : RuleKind) (p : Policy) (geographies : List Geography)
    (fleet : Fleet) : Except EngineFault Tally := do
  demandKind p kind
  match kind with
  | .count => return e.countVerdict p geographies fleet
  | .speed => return e.firstMatchVerdict p geographies fleet
  | .time => return e.firstMatchVerdict p geographies fleet

/-- **Evaluates a policy** as one of the kind of its rules. -/
def evaluate (e : Engine) (p : Policy) (geographies : List Geography) (fleet : Fleet) :
    Except EngineFault Tally :=
  match p.ruleKind with
  | .error f => .error (.model f)
  | .ok none => .error (.emptyPolicy p.policyId)
  | .ok (some kind) => e.evaluateAs kind p geographies fleet

end Engine

/-- **What an evaluation comes to**: its verdict, or a fault of some other kind that stands for its
refusal or for the addition at which it has broken off. -/
def conclude {Fault : Type} (refused : EngineFault → Fault) (overflow : Fault) :
    Except EngineFault Tally → Except Fault (Verdict UInt64)
  | .error fault => .error (refused fault)
  | .ok tally =>
    match tally.counted? with
    | some verdict => .ok verdict
    | none => .error overflow

end FleetCompliance

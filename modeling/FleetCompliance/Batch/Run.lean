import FleetCompliance.Batch.Config
import FleetCompliance.Batch.Gather
import FleetCompliance.Batch.Submission
import FleetCompliance.Evaluation.Engine
import FleetCompliance.Supersession

/-!
# Running a batch

A run selects the policies in force, fetches what they need, evaluates every policy for each of its
providers, and submits the findings as snapshots in chunks. Every evaluation is a task: if one
breaks off, that is a fault of the batch. The violations of all snapshots are added up by the run
itself, which breaks off if they are too many for a word. Nothing is submitted before that. Once
submission has begun every chunk is submitted, and the first failure among them is reported.
-/

namespace FleetCompliance

/-! ## Evaluation -/

/-- The fault of a task that has broken off at an addition. What is told is the wording of the
addition, without the number of the task. -/
def BatchFault.taskOverflow : BatchFault := .task Total.overflowReason

/-- The finding of one policy on one provider's fleet. -/
def findingFor (e : Engine) (geographies : List Geography) (fleets : Fleets) (p : Policy)
    (provider : Identifier .provider) : Except BatchFault Finding := do
  let verdict ← conclude .engine .taskOverflow (e.evaluate p geographies (fleets.fleetOf provider))
  return { policy := ⟨p.policyId, p.name⟩, providerId := provider, verdict }

/-- The pairs of policy and provider to evaluate, by policy and then by provider. -/
def pairsOf (policies : List Policy) (fleets : Fleets) : List (Policy × Identifier .provider) :=
  policies.flatMap fun p => (providersFor p fleets).map fun provider => (p, provider)

/-- **The findings of all pairs**, or the fault of the first pair that has one. -/
def assess (e : Engine) (policies : List Policy) (geographies : List Geography)
    (fleets : Fleets) : Except BatchFault (List Finding) :=
  (pairsOf policies fleets).mapM fun pair => findingFor e geographies fleets pair.1 pair.2

/-! ## The run -/

/-- What a run reads from and writes to. -/
structure Adapters (m : Type → Type) where
  policies : ExceptT CallFault m (List Policy)
  geographies : ExceptT CallFault m (List Geography)
  fleets : FleetSource m
  submit : Submitter m
  /-- The order in which the submissions of a run take effect. -/
  schedule : Schedule := .inOrder
  /-- An identifier that has not been given before. -/
  newId : m (Identifier .snapshot)

/-- What a run has done. -/
structure Report where
  asOf : Instant
  policies : Nat
  snapshots : Nat
  /-- The sum of all violations, in a word of 64 bits. -/
  violations : UInt64
deriving DecidableEq, Repr

/-- The violations of several findings together. -/
def totalViolations (findings : List Finding) : Total :=
  findings.foldl (fun sum f => sum.plus f.verdict.violations) (some 0)

section Running

variable {m : Type → Type} [Monad m]

/-- A call whose failure ends the batch. -/
def calling {α : Type} (call : ExceptT CallFault m α) : ExceptT BatchFault m α :=
  call.adapt BatchFault.ofCall

/-- **One run of a batch** at an instant. -/
def runOnce (a : Adapters m) (config : Config) (now : Instant) : ExceptT BatchFault m Report := do
  let policies := selectPolicies (← calling a.policies) now
  if policies.isEmpty then return ⟨now, 0, 0, 0⟩
  let geographies ← calling a.geographies
  let fleets ← calling (gather a.fleets policies)
  match assess ⟨⟨now, config.zone⟩, config.window⟩ policies geographies fleets with
  | .error fault => throw fault
  | .ok findings =>
    let snapshots ← findings.mapM fun f => do
      return Snapshot.mk (← a.newId) now f
    match totalViolations findings with
    | none => throw .overflow
    | some violations =>
      let written ← submitAll a.submit a.schedule config.batchSize snapshots
      return ⟨now, policies.length, written, violations⟩

/-- **A batch**, run again after faults that may pass. Every attempt has its own instant. -/
def runSupervised (a : Adapters m) (config : Config) (now : m Instant) (wait : Nat → m Unit) :
    m (Except BatchFault Report) :=
  supervise config.retry wait fun _ => do (runOnce a config (← now)).run

end Running

end FleetCompliance

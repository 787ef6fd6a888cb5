import FleetCompliance.Batch.Fault
import FleetCompliance.Verdict.Basic

/-!
# Submitting snapshots

Snapshots are submitted in chunks, by one call each. The calls may take effect in any order, and one
that fails does not keep the others from being made. So every call carries the place of its chunk,
and of several failures the one at the first place is reported, whichever came first in time.
-/

namespace FleetCompliance

/-- Cuts a list into pieces of a size, of which the last may be shorter. A size of zero counts as
one. -/
def chunks {α : Type} (size : Nat) (xs : List α) : List (List α) :=
  match xs with
  | [] => []
  | x :: rest => (x :: rest.take (size - 1)) :: chunks size (rest.drop (size - 1))
termination_by xs.length
decreasing_by simp only [List.length_drop, List.length_cons]; omega

/-- A call that submits the chunk at some place. -/
structure SubmissionCall where
  chunk : List Snapshot
  place : Nat

/-- The calls that submit a list of snapshots, in the order of their places. -/
def submissionCalls (size : Nat) (snapshots : List Snapshot) : List SubmissionCall :=
  (chunks size snapshots).zipIdx.map fun c => ⟨c.1, c.2⟩

/-- **An order in which calls take effect** that are made at the same time: every list of calls is
arranged in some way, and none is left out or made twice. -/
structure Schedule where
  arrange : List SubmissionCall → List SubmissionCall
  arrange_perm : ∀ calls, (arrange calls).Perm calls

/-- Calls that take effect in the order of their places. -/
def Schedule.inOrder : Schedule := ⟨id, fun _ => .refl _⟩

/-- What became of the call at some place. -/
structure SubmissionOutcome where
  result : Except CallFault Unit
  place : Nat

/-- **The failure at the first place**, if any call has failed. The order of the outcomes does not
matter, as no two are at one place. -/
def firstFailure? : List SubmissionOutcome → Option (CallFault × Nat)
  | [] => none
  | ⟨.ok (), _⟩ :: rest => firstFailure? rest
  | ⟨.error fault, place⟩ :: rest =>
    match firstFailure? rest with
    | some (earlier, p) => if p < place then some (earlier, p) else some (fault, place)
    | none => some (fault, place)

section

variable {m : Type → Type} [Monad m]

/-- A way to submit one chunk. -/
abbrev Submitter (m : Type → Type) := List Snapshot → ExceptT CallFault m Unit

/-- Makes calls as they take effect, each of them whatever became of those before it. -/
def makeCalls (submit : Submitter m) (calls : List SubmissionCall) : m (List SubmissionOutcome) :=
  calls.mapM fun c => do return ⟨← (submit c.chunk).run, c.place⟩

/-- **Submits snapshots in chunks** and returns their number, or the failure at the first place. -/
def submitAll (submit : Submitter m) (schedule : Schedule) (size : Nat)
    (snapshots : List Snapshot) : ExceptT BatchFault m Nat := do
  let calls := schedule.arrange (submissionCalls size snapshots)
  let outcomes ← ExceptT.lift (makeCalls submit calls)
  match firstFailure? outcomes with
  | some (fault, _) => throw (.ofCall fault)
  | none => return snapshots.length

end

end FleetCompliance

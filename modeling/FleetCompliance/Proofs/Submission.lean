import FleetCompliance.Batch.Local
import Mathlib.Data.List.Basic

/-!
# Submission into memory

A sink that takes every chunk in holds, after a submission, the chunks of the
list in the order in which the calls took effect. Since a schedule neither
leaves a call out nor makes one twice, that is a permutation of the chunks,
and the chunks put together are the list. So nothing is lost on the way, and
nothing is written twice, however the calls overtake each other.
-/

namespace FleetCompliance

/-- **The chunks of a list are the list**, cut up. -/
theorem chunks_flatten {α : Type} (size : ℕ) (xs : List α) : (chunks size xs).flatten = xs := by
  fun_induction chunks size xs with
  | case1 => rfl
  | case2 x rest ih =>
    rw [List.flatten_cons, ih, List.cons_append, List.take_append_drop]

/-- The calls of a submission carry the chunks. -/
theorem map_chunk_submissionCalls (size : ℕ) (snapshots : List Snapshot) :
    (submissionCalls size snapshots).map (·.chunk) = chunks size snapshots := by
  rw [submissionCalls, List.map_map]
  exact List.zipIdx_map_fst 0 _

namespace Schedule

/-- The chunks of a submission in the order in which they arrive. -/
def arrivals (schedule : Schedule) (size : ℕ) (snapshots : List Snapshot) :
    List (List Snapshot) :=
  (schedule.arrange (submissionCalls size snapshots)).map (·.chunk)

/-- **Every chunk arrives, and none arrives twice.** -/
theorem arrivals_perm (schedule : Schedule) (size : ℕ) (snapshots : List Snapshot) :
    (schedule.arrivals size snapshots).Perm (chunks size snapshots) := by
  rw [← map_chunk_submissionCalls]
  exact (schedule.arrange_perm _).map _

/-- The snapshots that arrive are those that are submitted. -/
theorem arrivals_flatten_perm (schedule : Schedule) (size : ℕ) (snapshots : List Snapshot) :
    (schedule.arrivals size snapshots).flatten.Perm snapshots := by
  have h := (schedule.arrivals_perm size snapshots).flatten
  rwa [chunks_flatten] at h

end Schedule

/-- Calls that all succeed leave no failure. -/
theorem firstFailure?_accepted (calls : List SubmissionCall) :
    firstFailure? (calls.map fun c => ⟨.ok (), c.place⟩) = none := by
  induction calls with
  | nil => rfl
  | cons c calls ih => exact ih

section Memory

variable {m : Type → Type} [Monad m] [LawfulMonad m]

/-- A submitter that takes every chunk in. -/
abbrev MemorySink.submitter : Submitter (StateT MemorySink m) :=
  fun batch => modify (·.submit batch)

/-- One chunk is put behind what the sink holds. -/
theorem MemorySink.run_submitter (batch : List Snapshot) (sink : MemorySink) :
    (MemorySink.submitter (m := m) batch).run.run sink
      = pure (.ok (), sink.submit batch) := by
  show (Except.ok <$> (modify (·.submit batch) : StateT MemorySink m PUnit)).run sink = _
  rw [StateT.run_map, StateT.run_modify, map_pure]

/-- The calls take effect one after the other, and all of them succeed. -/
theorem makeCalls_memory (calls : List SubmissionCall) (sink : MemorySink) :
    (makeCalls (MemorySink.submitter (m := m)) calls).run sink
      = pure (calls.map (fun c => ⟨.ok (), c.place⟩),
          ⟨sink.batches ++ calls.map (·.chunk)⟩) := by
  unfold makeCalls
  induction calls generalizing sink with
  | nil =>
    rw [List.mapM_nil, StateT.run_pure, List.map_nil, List.map_nil, List.append_nil]
  | cons c calls ih =>
    rw [List.mapM_cons]
    simp only [StateT.run_bind, bind_assoc, pure_bind, MemorySink.run_submitter, StateT.run_pure,
      ih, MemorySink.submit, List.append_assoc, List.map_cons]
    rfl

/-- **A submission into memory succeeds**, and the chunks are put behind
what the sink holds as they arrive. -/
theorem submitAll_memory (schedule : Schedule) (size : ℕ) (snapshots : List Snapshot)
    (sink : MemorySink) :
    (submitAll (MemorySink.submitter (m := m)) schedule size snapshots).run.run sink
      = pure (.ok snapshots.length,
          ⟨sink.batches ++ schedule.arrivals size snapshots⟩) := by
  unfold submitAll
  simp only [ExceptT.run_bind_lift, StateT.run_bind, makeCalls_memory, pure_bind,
    firstFailure?_accepted]
  rfl

end Memory

end FleetCompliance

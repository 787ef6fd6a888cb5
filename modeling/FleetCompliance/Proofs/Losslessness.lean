import FleetCompliance.Proofs.Submission
import Mathlib.Logic.Function.Basic

/-!
# No snapshot is lost in submission

The calls of a submission are made at the same time, take effect in any order,
and may fail one by one. What is lost then, and what is reported, could depend
on which of them comes first.

It does not. A call is known by the place of its chunk, and places are given
before any call is made. So what becomes of a submission is a matter of what
becomes of each place (`makeCalls_noted`), of which the first one that fails
is reported (`firstFailure?_eq_some_iff`), whatever the schedule. To see the
calls that are made and then not spoken of any more, the submitter is made to
take notes: `Submitter.noted` submits the same chunks, and keeps what became
of each.
-/

namespace FleetCompliance

/-! ## Chunks -/

/-- No chunk is empty, and none is larger than the size, where zero counts as
one. -/
theorem length_of_mem_chunks {α : Type} {size : ℕ} {xs : List α} :
    ∀ c ∈ chunks size xs, 1 ≤ c.length ∧ c.length ≤ max 1 size := by
  fun_induction chunks size xs with
  | case1 => simp
  | case2 x rest ih =>
    refine List.forall_mem_cons.mpr ⟨?_, ih⟩
    rw [List.length_cons, List.length_take]
    omega

/-- Only the last chunk may be smaller than the size. -/
theorem length_of_mem_dropLast_chunks {α : Type} {size : ℕ} {xs : List α} :
    ∀ c ∈ (chunks size xs).dropLast, c.length = max 1 size := by
  fun_induction chunks size xs with
  | case1 => simp
  | case2 x rest ih =>
    cases hmore : rest.drop (size - 1) with
    | nil => simp [chunks]
    | cons y more =>
      -- there is a next chunk, so this one has taken all it can
      have hlong : size - 1 < rest.length := by
        refine Nat.lt_of_not_le fun hshort => ?_
        rw [List.drop_eq_nil_of_le hshort] at hmore
        exact nomatch hmore
      rw [hmore] at ih
      have hnext : chunks size (y :: more) ≠ [] := by simp [chunks]
      rw [List.dropLast_cons_of_ne_nil hnext]
      refine List.forall_mem_cons.mpr ⟨?_, ih⟩
      rw [List.length_cons, List.length_take]
      omega

/-- The calls of a submission are at the places from the first one on. -/
theorem map_place_submissionCalls (size : ℕ) (snapshots : List Snapshot) :
    (submissionCalls size snapshots).map (·.place) = List.range (chunks size snapshots).length := by
  rw [submissionCalls, List.map_map, List.range_eq_range']
  exact List.zipIdx_map_snd 0 _

/-! ## The first failure -/

section Fates

variable {fate : ℕ → Except CallFault Unit} {places : List ℕ}

/-- No failure is reported exactly if none of the calls has failed. -/
theorem firstFailure?_eq_none_iff :
    firstFailure? (places.map fun i => ⟨fate i, i⟩) = none ↔ ∀ i ∈ places, fate i = .ok () := by
  induction places with
  | nil => simp [firstFailure?]
  | cons i places ih =>
    rw [List.forall_mem_cons, ← ih, List.map_cons]
    cases hfate : fate i with
    | ok _ => simp [firstFailure?]
    | error fault =>
      rw [firstFailure?]
      cases firstFailure? (places.map fun i => ⟨fate i, i⟩) with
      | none => simp
      | some earlier => by_cases hlt : earlier.2 < i <;> simp [hlt]

/-- A reported failure is that of a call, and no call at an earlier place has
failed. -/
theorem of_firstFailure?_eq_some {fault : CallFault} {place : ℕ}
    (h : firstFailure? (places.map fun i => ⟨fate i, i⟩) = some (fault, place)) :
    place ∈ places ∧ fate place = .error fault ∧ ∀ j ∈ places, j < place → fate j = .ok () := by
  induction places generalizing fault place with
  | nil => simp [firstFailure?] at h
  | cons i places ih =>
    rw [List.map_cons] at h
    cases hfate : fate i with
    | ok _ =>
      simp only [hfate, firstFailure?] at h
      obtain ⟨hmem, hfault, hearlier⟩ := ih h
      exact ⟨List.mem_cons_of_mem _ hmem, hfault,
        List.forall_mem_cons.mpr ⟨fun _ => hfate, hearlier⟩⟩
    | error cause =>
      simp only [hfate, firstFailure?] at h
      cases hlater : firstFailure? (places.map fun i => ⟨fate i, i⟩) with
      | none =>
        simp only [hlater, Option.some.injEq, Prod.mk.injEq] at h
        obtain ⟨rfl, rfl⟩ := h
        have hok := firstFailure?_eq_none_iff.mp hlater
        exact ⟨List.mem_cons_self, hfate,
          List.forall_mem_cons.mpr
            ⟨fun hlt => absurd hlt (Nat.lt_irrefl _), fun j hj _ => hok j hj⟩⟩
      | some earlier =>
        obtain ⟨e, p⟩ := earlier
        obtain ⟨hmem, hfault, hearlier⟩ := ih hlater
        simp only [hlater] at h
        by_cases hlt : p < i
        · simp only [hlt, if_true, Option.some.injEq, Prod.mk.injEq] at h
          obtain ⟨rfl, rfl⟩ := h
          exact ⟨List.mem_cons_of_mem _ hmem, hfault,
            List.forall_mem_cons.mpr ⟨fun hlt' => absurd hlt' (Nat.lt_asymm hlt), hearlier⟩⟩
        · simp only [hlt, if_false, Option.some.injEq, Prod.mk.injEq] at h
          obtain ⟨rfl, rfl⟩ := h
          refine ⟨List.mem_cons_self, hfate, List.forall_mem_cons.mpr
            ⟨fun hlt' => absurd hlt' (Nat.lt_irrefl _), fun j hj hji => hearlier j hj ?_⟩⟩
          omega

/-- **The failure that is reported is the one at the first place**, in whatever
order the calls have taken effect. -/
theorem firstFailure?_eq_some_iff {fault : CallFault} {place : ℕ} :
    firstFailure? (places.map fun i => ⟨fate i, i⟩) = some (fault, place)
      ↔ place ∈ places ∧ fate place = .error fault ∧ ∀ j ∈ places, j < place → fate j = .ok () := by
  refine ⟨of_firstFailure?_eq_some, fun ⟨hmem, hfault, hearlier⟩ => ?_⟩
  cases hreported : firstFailure? (places.map fun i => ⟨fate i, i⟩) with
  | none => exact nomatch hfault.symm.trans (firstFailure?_eq_none_iff.mp hreported place hmem)
  | some first =>
    obtain ⟨cause, p⟩ := first
    obtain ⟨hp, hcause, hfirst⟩ := of_firstFailure?_eq_some hreported
    -- two first places that fail are one place
    obtain hlt | rfl | hlt := Nat.lt_trichotomy p place
    · exact nomatch hcause.symm.trans (hearlier p hp hlt)
    · rw [Except.error.inj (hcause.symm.trans hfault)]
    · exact nomatch hfault.symm.trans (hfirst place hmem hlt)

end Fates

/-! ## Calls that are noted -/

section Noted

variable {σ : Type}

/-- **A submitter that notes** each chunk it is given and what became of it,
in the order in which the calls take effect. -/
def Submitter.noted (submit : Submitter (StateM σ)) :
    Submitter (StateT (List (List Snapshot × Except CallFault Unit)) (StateM σ)) := fun batch =>
  ExceptT.mk do
    let outcome ← (submit batch).run
    modify (· ++ [(batch, outcome)])
    return outcome

variable (submit : Submitter (StateM σ))

/-- A noted call is the call, with its outcome noted. -/
theorem run_noted (batch : List Snapshot) (notes : List (List Snapshot × Except CallFault Unit))
    (st : σ) :
    ((submit.noted batch).run.run notes).run st
      = ((((submit batch).run.run st).1, notes ++ [(batch, ((submit batch).run.run st).1)]),
          ((submit batch).run.run st).2) := rfl

/-- Calls are made one after the other. -/
theorem makeCalls_cons {m : Type → Type} [Monad m] [LawfulMonad m] (submit : Submitter m)
    (c : SubmissionCall) (calls : List SubmissionCall) :
    makeCalls submit (c :: calls) = do
      let outcome ← (submit c.chunk).run
      let outcomes ← makeCalls submit calls
      return ⟨outcome, c.place⟩ :: outcomes := by
  simp only [makeCalls, List.mapM_cons, bind_assoc, pure_bind]

/-- **What becomes of calls is what becomes of their places.** All of them are
made, whatever became of those before, and the notes do not change what they
do. -/
theorem makeCalls_noted {calls : List SubmissionCall} (hplaces : (calls.map (·.place)).Nodup)
    (notes : List (List Snapshot × Except CallFault Unit)) (st : σ) :
    ∃ fate : ℕ → Except CallFault Unit, ∃ st',
      ((makeCalls submit.noted calls).run notes).run st
          = ((calls.map fun c => ⟨fate c.place, c.place⟩,
              notes ++ calls.map fun c => (c.chunk, fate c.place)), st')
        ∧ (makeCalls submit calls).run st
          = (calls.map fun c => ⟨fate c.place, c.place⟩, st') := by
  induction calls generalizing notes st with
  | nil => exact ⟨fun _ => .ok (), st, by simp [makeCalls]; rfl, rfl⟩
  | cons c calls ih =>
    rw [List.map_cons, List.nodup_cons] at hplaces
    obtain ⟨⟨outcome, st₁⟩, hcall⟩ : ∃ r, (submit c.chunk).run.run st = r := ⟨_, rfl⟩
    obtain ⟨fate, st', hnoted, hmade⟩ := ih hplaces.2 (notes ++ [(c.chunk, outcome)]) st₁
    -- the calls that follow are at other places
    have hothers : ∀ d ∈ calls, Function.update fate c.place outcome d.place = fate d.place := by
      intro d hd
      refine Function.update_of_ne (fun heq => hplaces.1 ?_) _ _
      rw [← heq]
      exact List.mem_map_of_mem hd
    have houtcomes : (calls.map fun d => SubmissionOutcome.mk
          (Function.update fate c.place outcome d.place) d.place)
        = calls.map fun d => ⟨fate d.place, d.place⟩ :=
      List.map_congr_left fun d hd => by rw [hothers d hd]
    have hnotes : (calls.map fun d => (d.chunk, Function.update fate c.place outcome d.place))
        = calls.map fun d => (d.chunk, fate d.place) :=
      List.map_congr_left fun d hd => by rw [hothers d hd]
    have hcallNoted := run_noted submit c.chunk notes st
    rw [hcall] at hcallNoted
    refine ⟨Function.update fate c.place outcome, st', ?_, ?_⟩
    · rw [List.append_assoc, List.singleton_append] at hnoted
      rw [makeCalls_cons, StateT.run_bind, StateT.run_bind, hcallNoted, List.map_cons,
        List.map_cons, houtcomes, hnotes, Function.update_self]
      show ((makeCalls submit.noted calls >>= _).run _).run st₁ = _
      rw [StateT.run_bind, StateT.run_bind, hnoted]
      rfl
    · rw [makeCalls_cons, StateT.run_bind, hcall, List.map_cons, houtcomes, Function.update_self]
      show (makeCalls submit calls >>= _).run st₁ = _
      rw [StateT.run_bind, hmade]
      rfl

/-! ## Submissions -/

/-- Every order in which the calls of a submission can take effect is that of
a schedule. -/
theorem Schedule.exists_arrange_eq {calls order : List SubmissionCall} (h : order.Perm calls) :
    ∃ schedule : Schedule, schedule.arrange calls = order := by
  classical
  refine ⟨⟨fun cs => if cs = calls then order else cs, fun cs => ?_⟩, if_pos rfl⟩
  by_cases heq : cs = calls
  · rw [if_pos heq, heq]
    exact h
  · rw [if_neg heq]

/-- The result of a submission, by what became of its calls. -/
def submissionResult (snapshots : List Snapshot) (outcomes : List SubmissionOutcome) :
    Except BatchFault ℕ :=
  match firstFailure? outcomes with
  | some (fault, _) => .error (.ofCall fault)
  | none => .ok snapshots.length

/-- A submission makes all its calls, and only then looks at what became of
them. -/
theorem run_submitAll {m : Type → Type} [Monad m] [LawfulMonad m] (submit : Submitter m)
    (schedule : Schedule) (size : ℕ) (snapshots : List Snapshot) :
    (submitAll submit schedule size snapshots).run
      = submissionResult snapshots <$>
          makeCalls submit (schedule.arrange (submissionCalls size snapshots)) := by
  rw [submitAll, ExceptT.run_bind_lift, map_eq_pure_bind]
  refine bind_congr fun outcomes => ?_
  rw [submissionResult]
  cases firstFailure? outcomes <;> rfl

/-- A submission succeeds if no failure is reported. -/
theorem submissionResult_eq_ok_iff {snapshots : List Snapshot}
    {outcomes : List SubmissionOutcome} {n : ℕ} :
    submissionResult snapshots outcomes = .ok n
      ↔ n = snapshots.length ∧ firstFailure? outcomes = none := by
  rw [submissionResult]
  cases firstFailure? outcomes with
  | none => simp [eq_comm]
  | some first => simp

/-- A submission fails with the failure that is reported. -/
theorem submissionResult_eq_error_iff {snapshots : List Snapshot}
    {outcomes : List SubmissionOutcome} {fault : BatchFault} :
    submissionResult snapshots outcomes = .error fault
      ↔ ∃ cause place, firstFailure? outcomes = some (cause, place) ∧ fault = .ofCall cause := by
  rw [submissionResult]
  cases firstFailure? outcomes with
  | none => simp
  | some first =>
    obtain ⟨cause, place⟩ := first
    simp [eq_comm]

/-- **What a submission comes to**, given what became of the chunk at each
place: what was written, in whatever order, and what is reported. -/
structure Accounted (size : ℕ) (snapshots : List Snapshot) (fate : ℕ → Except CallFault Unit)
    (written : List (List Snapshot × Except CallFault Unit)) (result : Except BatchFault ℕ) :
    Prop where
  /-- The chunks, by their places, are the snapshots. -/
  joined : (chunks size snapshots).flatten = snapshots
  /-- No chunk is empty or larger than the size. -/
  fits : ∀ c ∈ chunks size snapshots, 1 ≤ c.length ∧ c.length ≤ max 1 size
  /-- All chunks but the last one are as large as they may be. -/
  full : ∀ c ∈ (chunks size snapshots).dropLast, c.length = max 1 size
  /-- Every chunk is written once, whatever became of the others. -/
  written_perm : written.Perm ((chunks size snapshots).zipIdx.map fun c => (c.1, fate c.2))
  /-- The submission succeeds exactly if every write has, with the number of
  snapshots. -/
  succeeds_iff : ∀ n, result = .ok n
    ↔ n = snapshots.length ∧ ∀ i < (chunks size snapshots).length, fate i = .ok ()
  /-- Otherwise it fails with the fault at the first place that has one. -/
  fails_iff : ∀ fault, result = .error fault
    ↔ ∃ i < (chunks size snapshots).length, ∃ cause, fate i = .error cause
        ∧ (∀ j < i, fate j = .ok ()) ∧ fault = .ofCall cause

/-- **What became of the places accounts for a submission**, whatever the
schedule. -/
theorem accounted_of_fate (schedule : Schedule) (size : ℕ) (snapshots : List Snapshot)
    (fate : ℕ → Except CallFault Unit) :
    Accounted size snapshots fate
      ((schedule.arrange (submissionCalls size snapshots)).map fun c => (c.chunk, fate c.place))
      (submissionResult snapshots
        ((schedule.arrange (submissionCalls size snapshots)).map
          fun c => ⟨fate c.place, c.place⟩)) := by
  set calls := schedule.arrange (submissionCalls size snapshots)
  have hperm : calls.Perm (submissionCalls size snapshots) := schedule.arrange_perm _
  have hplaces : ∀ i, i ∈ calls.map (·.place) ↔ i < (chunks size snapshots).length := by
    intro i
    rw [(hperm.map _).mem_iff, map_place_submissionCalls, List.mem_range]
  have houtcomes : (calls.map fun c => SubmissionOutcome.mk (fate c.place) c.place)
      = (calls.map (·.place)).map fun i => ⟨fate i, i⟩ := by
    rw [List.map_map]
    rfl
  refine ⟨chunks_flatten _ _, length_of_mem_chunks, length_of_mem_dropLast_chunks, ?_,
    fun n => ?_, fun fault => ?_⟩
  · refine (hperm.map _).trans (.of_eq ?_)
    rw [submissionCalls, List.map_map]
    rfl
  · rw [houtcomes, submissionResult_eq_ok_iff, firstFailure?_eq_none_iff]
    simp only [hplaces]
  · rw [houtcomes, submissionResult_eq_error_iff]
    simp only [firstFailure?_eq_some_iff, hplaces]
    constructor
    · rintro ⟨cause, place, ⟨hplace, hcause, hearlier⟩, rfl⟩
      exact ⟨place, hplace, cause, hcause, fun j hj => hearlier j (Nat.lt_trans hj hplace) hj, rfl⟩
    · rintro ⟨place, hplace, cause, hcause, hearlier, rfl⟩
      exact ⟨cause, place, ⟨hplace, hcause, fun j _ hj => hearlier j hj⟩, rfl⟩

/-- **Submission loses nothing under any schedule.** Wherever the chunks are
written, every one of them is written once, in the order of the schedule, and
the first failure by place is what is reported. Into memory nothing fails, and
the snapshots arrive chunk by chunk. -/
theorem submitAll_accounted (schedule : Schedule) (size : ℕ) (snapshots : List Snapshot)
    (st : σ) :
    (∃ fate written result st',
        ((submitAll submit.noted schedule size snapshots).run.run []).run st
            = ((result, written), st')
          ∧ (submitAll submit schedule size snapshots).run.run st = (result, st')
          ∧ written = (schedule.arrange (submissionCalls size snapshots)).map
              (fun c => (c.chunk, fate c.place))
          ∧ Accounted size snapshots fate written result)
      ∧ ∃ sink,
        (submitAll (MemorySink.submitter (m := Id)) schedule size snapshots).run.run .empty
            = (.ok snapshots.length, sink)
          ∧ sink.batches.Perm (chunks size snapshots)
          ∧ sink.snapshots = sink.batches.flatten
          ∧ sink.snapshots.Perm snapshots := by
  set calls := schedule.arrange (submissionCalls size snapshots) with hcalls
  constructor
  · have hdistinct : (calls.map (·.place)).Nodup := by
      rw [((schedule.arrange_perm _).map _).nodup_iff, map_place_submissionCalls]
      exact List.nodup_range
    obtain ⟨fate, st', hnoted, hmade⟩ := makeCalls_noted submit hdistinct [] st
    refine ⟨fate, _, _, st', ?_, ?_, rfl, accounted_of_fate schedule size snapshots fate⟩
    · rw [run_submitAll, StateT.run_map, StateT.run_map, hnoted]
      rfl
    · rw [run_submitAll, StateT.run_map, hmade]
      rfl
  · refine ⟨⟨schedule.arrivals size snapshots⟩, ?_, schedule.arrivals_perm _ _, rfl,
      schedule.arrivals_flatten_perm _ _⟩
    exact submitAll_memory schedule size snapshots .empty

end Noted

end FleetCompliance

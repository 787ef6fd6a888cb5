import FleetCompliance.Batch.Retry
import Mathlib.Data.List.Basic

/-!
# Attempts under supervision

A supervised batch ends with the outcome of its last attempt and does not say
how the attempts before it ended. To speak of them the attempts are recorded:
`recorded` makes the same attempts and notes the outcome of each. Then every
attempt but the last has failed with a fault that may pass
(`superviseFrom_recorded`), so that success, and a fault that does not pass,
can only be the last outcome.
-/

namespace FleetCompliance

variable {σ α : Type}

/-- **Attempts whose outcomes are noted**, in the order in which they are
made. -/
def recorded (attempt : ℕ → StateM σ (Except BatchFault α)) (n : ℕ) :
    StateT (List (Except BatchFault α)) (StateM σ) (Except BatchFault α) := do
  let outcome ← attempt n
  modify (· ++ [outcome])
  return outcome

variable (p : RetryPolicy) (wait : ℕ → StateM σ Unit)
  (attempt : ℕ → StateM σ (Except BatchFault α))

/-- A recorded attempt is the attempt, with its outcome noted. -/
theorem run_recorded (n : ℕ) (log : List (Except BatchFault α)) (st : σ) :
    ((recorded attempt n).run log).run st
      = ((((attempt n).run st).1, log ++ [((attempt n).run st).1]), ((attempt n).run st).2) := rfl

/-- What follows an attempt, by its outcome. -/
theorem superviseFrom_succ {m : Type → Type} [Monad m] (wait : ℕ → m Unit)
    (attempt : ℕ → m (Except BatchFault α)) (n left : ℕ) :
    superviseFrom p wait attempt n (left + 1) = attempt n >>= fun
      | .ok result => return .ok result
      | .error fault =>
        if fault.isRetryable then
          wait (p.delayFor n) >>= fun _ => superviseFrom p wait attempt (n + 1) left
        else return .error fault := rfl

/-- **Every attempt but the last fails with a fault that may pass.** The last
outcome is that of the batch, and the batch is the same whether its attempts
are recorded or not. -/
theorem superviseFrom_recorded (n left : ℕ) (log : List (Except BatchFault α)) (st : σ) :
    ∃ earlier result st',
      ((superviseFrom p (fun d => liftM (wait d)) (recorded attempt) n left).run log).run st
          = ((result, log ++ (earlier ++ [result])), st')
        ∧ (superviseFrom p wait attempt n left).run st = (result, st')
        ∧ ∀ outcome ∈ earlier, ∃ fault, outcome = .error fault ∧ fault.isRetryable = true := by
  induction left generalizing n log st with
  | zero =>
    exact ⟨[], ((attempt n).run st).1, ((attempt n).run st).2, rfl, rfl, fun _ h => nomatch h⟩
  | succ left ih =>
    obtain ⟨⟨outcome, st₁⟩, hattempt⟩ : ∃ r, (attempt n).run st = r := ⟨_, rfl⟩
    have hrecorded : ((recorded attempt n).run log).run st
        = ((outcome, log ++ [outcome]), st₁) := by
      rw [run_recorded, hattempt]
    rw [superviseFrom_succ, superviseFrom_succ, StateT.run_bind, StateT.run_bind, StateT.run_bind,
      hrecorded, hattempt]
    cases outcome with
    | ok result => exact ⟨[], .ok result, st₁, rfl, rfl, fun _ h => nomatch h⟩
    | error fault =>
      by_cases hretry : fault.isRetryable = true
      · obtain ⟨earlier, result, st', hlater, hrun, hearlier⟩ :=
          ih (n + 1) (log ++ [.error fault]) ((wait (p.delayFor n)).run st₁).2
        rw [List.append_assoc] at hlater
        refine ⟨.error fault :: earlier, result, st', ?_, ?_,
          List.forall_mem_cons.mpr ⟨⟨fault, rfl, hretry⟩, hearlier⟩⟩
        · refine Eq.trans ?_ hlater
          show ((ite _ _ _ : StateT _ (StateM σ) _).run _).run st₁ = _
          rw [if_pos hretry]
          rfl
        · refine Eq.trans ?_ hrun
          show (ite _ _ _ : StateM σ _).run st₁ = _
          rw [if_pos hretry]
          rfl
      · refine ⟨[], .error fault, st₁, ?_, ?_, fun _ h => nomatch h⟩
        · show ((ite _ _ _ : StateT _ (StateM σ) _).run _).run st₁ = _
          rw [if_neg hretry]
          rfl
        · show (ite _ _ _ : StateM σ _).run st₁ = _
          rw [if_neg hretry]
          rfl

end FleetCompliance

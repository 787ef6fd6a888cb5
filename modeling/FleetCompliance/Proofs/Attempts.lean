import FleetCompliance.Proofs.Supervision
import Mathlib.Algebra.Order.Ring.Nat
import Mathlib.Tactic.IntervalCases

/-!
# Which attempts are made

A batch under supervision is attempted until it succeeds, fails for good, or has
been tried as often as it may be. How an attempt ends can depend on those before
it and on the delays between them, as all of them work on the same state. So there
is no list of outcomes to begin with: the outcome of an attempt (`outcomeAt`) is
what it ends with if every attempt before it is made and waited for. With these
outcomes the last attempt is described (`IsLast`), and the run as well
(`supervise_course`): attempts are numbered without gaps, each is followed by
its delay except for the last, and the outcome is that of the last.

What is done on the way is noted in the state of a run like any other
(`noted`), so that nothing has to be proved twice for it.

The attempts are counted by a natural number here. A counter of 32 bits does not do
worse (`countedFrom_eq`), even if all of its numbers are allowed, because it is compared before
it is increased.
-/

namespace FleetCompliance

/-! ## Faults that may pass -/

/-- **Faults that may pass**: an operation was refused, a file could not be read or
written, or a part of the work broke off. -/
inductive BatchFault.MayPass : BatchFault → Prop
  | unavailable (operation reason : String) : MayPass (.adapter (.unavailable operation reason))
  | io (path : String) (fault : FileFault) : MayPass (.adapter (.io path fault))
  | task (reason : String) : MayPass (.task reason)

/-- These are the faults after which another attempt is made. -/
theorem BatchFault.isRetryable_iff {fault : BatchFault} :
    fault.isRetryable = true ↔ fault.MayPass := by
  constructor
  · intro h
    cases fault with
    | config fault => exact nomatch h
    | engine fault => exact nomatch h
    | task reason => exact .task reason
    | overflow => exact nomatch h
    | adapter fault =>
      cases fault with
      | unavailable operation reason => exact .unavailable operation reason
      | io path fault => exact .io path fault
      | decode path fault => exact nomatch h
  · rintro (_ | _ | _)
    · rfl
    · rfl
    · rfl

variable {σ α β : Type}

/-- An attempt that failed and may be made again. -/
def MayRetry (outcome : Except BatchFault α) : Prop :=
  ∃ fault, outcome = .error fault ∧ fault.MayPass

/-- **The last attempt** of those that are numbered from zero up to a limit: the first
one that is not to be made again, and if there is none the one at the limit. -/
structure IsLast (outcomes : ℕ → Except BatchFault α) (limit k : ℕ) : Prop where
  le_limit : k ≤ limit
  mayRetry : ∀ a < k, MayRetry (outcomes a)
  stops : k = limit ∨ ¬ MayRetry (outcomes k)

/-- There is a last attempt. -/
theorem exists_isLast (outcomes : ℕ → Except BatchFault α) (limit : ℕ) :
    ∃ k, IsLast outcomes limit k := by
  induction limit with
  | zero => exact ⟨0, le_rfl, fun _ ha => absurd ha (Nat.not_lt_zero _), .inl rfl⟩
  | succ limit ih =>
    obtain ⟨k, hk⟩ := ih
    by_cases hretry : MayRetry (outcomes k)
    · obtain rfl := hk.stops.resolve_right (not_not_intro hretry)
      refine ⟨k + 1, le_rfl, fun a ha => ?_, .inl rfl⟩
      rcases Nat.lt_succ_iff_lt_or_eq.mp ha with hlt | rfl
      · exact hk.mayRetry a hlt
      · exact hretry
    · exact ⟨k, Nat.le_succ_of_le hk.le_limit, hk.mayRetry, .inr hretry⟩

/-- There is no other last attempt. -/
theorem IsLast.unique {outcomes : ℕ → Except BatchFault α} {limit k l : ℕ}
    (hk : IsLast outcomes limit k) (hl : IsLast outcomes limit l) : k = l := by
  have hle {k l : ℕ} (hk : IsLast outcomes limit k) (hl : IsLast outcomes limit l) : l ≤ k := by
    by_contra hlt
    rw [not_le] at hlt
    rcases hk.stops with rfl | hstops
    · exact absurd hl.le_limit (not_le.mpr hlt)
    · exact hstops (hl.mayRetry k hlt)
  exact le_antisymm (hle hl hk) (hle hk hl)

/-! ## The run -/

section Run

variable (p : RetryPolicy) (wait : ℕ → StateM σ Unit)
  (attempt : ℕ → StateM σ (Except BatchFault α))

/-- **Nothing follows an attempt that is not to be made again.** -/
theorem run_superviseFrom_stop {n left : ℕ} {st st' : σ} {outcome : Except BatchFault α}
    (hattempt : (attempt n).run st = (outcome, st')) (h : ¬ MayRetry outcome) :
    (superviseFrom p wait attempt n left).run st = (outcome, st') := by
  cases left with
  | zero => exact hattempt
  | succ left =>
    rw [superviseFrom_succ, StateT.run_bind, hattempt]
    cases outcome with
    | ok result => rfl
    | error fault =>
      have hfault : ¬ fault.isRetryable = true := fun hretry =>
        h ⟨fault, rfl, BatchFault.isRetryable_iff.mp hretry⟩
      show (ite _ _ _ : StateM σ _).run st' = _
      rw [if_neg hfault]
      rfl

/-- **An attempt that is to be made again is followed by its delay and the next one.** -/
theorem run_superviseFrom_retry {n left : ℕ} {st st' : σ} {fault : BatchFault}
    (hattempt : (attempt n).run st = (.error fault, st')) (h : fault.MayPass) :
    (superviseFrom p wait attempt n (left + 1)).run st
      = (superviseFrom p wait attempt (n + 1) left).run ((wait (p.delayFor n)).run st').2 := by
  rw [superviseFrom_succ, StateT.run_bind, hattempt]
  show (ite _ _ _ : StateM σ _).run st' = _
  rw [if_pos (BatchFault.isRetryable_iff.mpr h)]
  rfl

variable (st : σ)

/-- The state before an attempt, if every attempt before it is made and followed by its
delay. -/
def stateBefore : ℕ → σ
  | 0 => st
  | n + 1 => ((wait (p.delayFor n)).run ((attempt n).run (stateBefore n)).2).2

/-- How an attempt ends in that state. -/
def outcomeAt (n : ℕ) : Except BatchFault α :=
  ((attempt n).run (stateBefore p wait attempt st n)).1

/-- The state that it leaves. -/
def stateAfter (n : ℕ) : σ := ((attempt n).run (stateBefore p wait attempt st n)).2

/-- **A run ends with its last attempt**, from wherever it is looked at before. -/
theorem run_superviseFrom {k n left : ℕ} (hleft : n + left = p.maxRetries) (hle : n ≤ k)
    (hk : IsLast (outcomeAt p wait attempt st) p.maxRetries k) :
    (superviseFrom p wait attempt n left).run (stateBefore p wait attempt st n)
      = (outcomeAt p wait attempt st k, stateAfter p wait attempt st k) := by
  induction left generalizing n with
  | zero =>
    obtain rfl : n = k := le_antisymm hle (hk.le_limit.trans (Nat.le_of_eq hleft.symm))
    rfl
  | succ left ih =>
    rcases Nat.eq_or_lt_of_le hle with rfl | hlt
    · have hstops := hk.stops.resolve_left (by omega)
      exact run_superviseFrom_stop p wait attempt rfl hstops
    · obtain ⟨fault, houtcome, hfault⟩ := hk.mayRetry n hlt
      have hattempt : (attempt n).run (stateBefore p wait attempt st n)
          = (.error fault, stateAfter p wait attempt st n) := Prod.ext houtcome rfl
      rw [run_superviseFrom_retry p wait attempt hattempt hfault]
      exact ih (by omega) hlt

end Run

/-! ## What is done on the way -/

/-- What is done in a run. -/
inductive Deed where
  | attempt (n : ℕ)
  | delay (millis : ℕ)
deriving DecidableEq, Repr

/-- **An action that is noted** when it is done. -/
def noted (deed : Deed) (act : StateM σ β) : StateM (σ × List Deed) β := fun (st, log) =>
  ((act.run st).1, ((act.run st).2, log ++ [deed]))

/-- Delays that are noted. -/
def notedWait (wait : ℕ → StateM σ Unit) (millis : ℕ) : StateM (σ × List Deed) Unit :=
  noted (.delay millis) (wait millis)

/-- Attempts that are noted. -/
def notedAttempt (attempt : ℕ → StateM σ (Except BatchFault α)) (n : ℕ) :
    StateM (σ × List Deed) (Except BatchFault α) :=
  noted (.attempt n) (attempt n)

/-- Attempts before number `n`, each followed by its delay. -/
def deedsBefore (p : RetryPolicy) (n : ℕ) : List Deed :=
  (List.range n).flatMap fun a => [.attempt a, .delay (p.delayFor a)]

section Noted

variable (p : RetryPolicy) (wait : ℕ → StateM σ Unit)
  (attempt : ℕ → StateM σ (Except BatchFault α)) (st : σ)

/-- **Before an attempt all others have been made and waited for**, and nothing else has
been done. -/
theorem stateBefore_noted (n : ℕ) :
    stateBefore p (notedWait wait) (notedAttempt attempt) (st, []) n
      = (stateBefore p wait attempt st n, deedsBefore p n) := by
  induction n with
  | zero => rfl
  | succ n ih =>
    have hdeeds : deedsBefore p (n + 1)
        = deedsBefore p n ++ [.attempt n] ++ [.delay (p.delayFor n)] := by
      rw [deedsBefore, List.range_succ, List.flatMap_append, List.append_assoc]
      rfl
    rw [stateBefore, ih, hdeeds]
    rfl

/-- An attempt ends as it does when nothing is noted. -/
theorem outcomeAt_noted : outcomeAt p (notedWait wait) (notedAttempt attempt) (st, [])
    = outcomeAt p wait attempt st := by
  funext n
  rw [outcomeAt, stateBefore_noted]
  rfl

/-- It leaves the same state, and is noted. -/
theorem stateAfter_noted (n : ℕ) :
    stateAfter p (notedWait wait) (notedAttempt attempt) (st, []) n
      = (stateAfter p wait attempt st n, deedsBefore p n ++ [.attempt n]) := by
  rw [stateAfter, stateBefore_noted]
  rfl

end Noted

/-! ## The counter -/

section Counter

variable {m : Type → Type} [Monad m]

/-- Below another number, a number of 32 bits has a next one. -/
theorem toNat_succ {retries n : UInt32} (h : ¬ retries ≤ n) : (n + 1).toNat = n.toNat + 1 := by
  have hsize := retries.toNat_lt
  rw [UInt32.le_iff_toNat_le] at h
  rw [UInt32.toNat_add, UInt32.toNat_one]
  omega

/-- **Attempts that are counted with 32 bits**: after an attempt that is to be made
again, the counter is compared with the number of retries, and then increased. It
starts again at zero when it has no greater number. -/
def countedFrom (p : RetryPolicy) (retries : UInt32) (wait : ℕ → m Unit)
    (attempt : UInt32 → m (Except BatchFault α)) (n : UInt32) : m (Except BatchFault α) := do
  match ← attempt n with
  | .ok result => return .ok result
  | .error fault =>
    if !fault.isRetryable then return .error fault
    else if h : retries ≤ n then return .error fault
    else
      wait (p.delayFor n.toNat)
      countedFrom p retries wait attempt (n + 1)
termination_by retries.toNat - n.toNat
decreasing_by
  have hnext := toNat_succ h
  rw [UInt32.le_iff_toNat_le] at h
  omega

/-- **The counter of 32 bits does not start again**, even if it may go up to its greatest
number. -/
theorem countedFrom_eq [LawfulMonad m] (p : RetryPolicy) {retries : UInt32} (wait : ℕ → m Unit)
    (attempt : ℕ → m (Except BatchFault α)) {n : UInt32} {left : ℕ}
    (hleft : n.toNat + left = retries.toNat) :
    countedFrom p retries wait (fun n => attempt n.toNat) n
      = superviseFrom p wait attempt n.toNat left := by
  rw [countedFrom]
  induction left generalizing n with
  | zero =>
    have hlimit : retries ≤ n := UInt32.le_iff_toNat_le.mpr (Nat.le_of_eq hleft.symm)
    refine Eq.trans ?_ (bind_pure (attempt n.toNat))
    refine bind_congr fun outcome => ?_
    cases outcome with
    | ok result => rfl
    | error fault =>
      show ite _ _ _ = _
      rw [dif_pos hlimit, ite_self]
  | succ left ih =>
    have hlimit : ¬ retries ≤ n := by
      rw [UInt32.le_iff_toNat_le]
      omega
    have hnext : (n + 1).toNat = n.toNat + 1 := toNat_succ hlimit
    rw [superviseFrom_succ]
    refine bind_congr fun outcome => ?_
    cases outcome with
    | ok result => rfl
    | error fault =>
      show ite _ _ _ = ite _ _ _
      rw [dif_neg hlimit, countedFrom, ih (by omega), hnext]
      cases fault.isRetryable with
      | false => rfl
      | true => rfl

end Counter

/-! ## All of it -/

/-- **The course of a batch under supervision.** There is a last attempt. Attempts are made
with the numbers from zero up to it, each followed by its delay except for the last, and
nothing else is done. The outcome is that of the last attempt, and so is the state. With a
counter of 32 bits the run is the same, if the number of retries has as many. -/
theorem supervise_course (p : RetryPolicy) (wait : ℕ → StateM σ Unit)
    (attempt : ℕ → StateM σ (Except BatchFault α)) (st : σ) :
    ∃ k, IsLast (outcomeAt p wait attempt st) p.maxRetries k
      ∧ (supervise p wait attempt).run st
        = (outcomeAt p wait attempt st k, stateAfter p wait attempt st k)
      ∧ (supervise p (notedWait wait) (notedAttempt attempt)).run (st, [])
        = (outcomeAt p wait attempt st k,
          (stateAfter p wait attempt st k, deedsBefore p k ++ [.attempt k]))
      ∧ (p.maxRetries < UInt32.size →
        countedFrom p (UInt32.ofNat p.maxRetries) wait (fun n => attempt n.toNat) 0
          = supervise p wait attempt) := by
  obtain ⟨k, hk⟩ := exists_isLast (outcomeAt p wait attempt st) p.maxRetries
  have hrun := run_superviseFrom p wait attempt st (Nat.zero_add _) (Nat.zero_le k) hk
  have hnoted := run_superviseFrom p (notedWait wait) (notedAttempt attempt) (st, [])
    (Nat.zero_add _) (Nat.zero_le k) (by rw [outcomeAt_noted]; exact hk)
  rw [outcomeAt_noted, stateAfter_noted] at hnoted
  refine ⟨k, hk, hrun, hnoted, fun hsize => ?_⟩
  refine countedFrom_eq p wait attempt (n := 0) ?_
  rw [UInt32.toNat_ofNat_of_lt' hsize, UInt32.toNat_zero, Nat.zero_add]

/-- An attempt that breaks off until it is made for the third time. -/
def Sample.thirdTime (_ : ℕ) : StateM ℕ (Except BatchFault ℕ) := fun made =>
  (if made < 2 then .error (.task "interrupted") else .ok made, made + 1)

/-- With as many retries as 32 bits can count, three attempts are made. -/
theorem supervise_course_thirdTime :
    (supervise ⟨4294967295, 100, 1000⟩ (notedWait fun _ => pure ())
        (notedAttempt Sample.thirdTime)).run (0, [])
      = (.ok 2, (3, [.attempt 0, .delay 100, .attempt 1, .delay 200, .attempt 2]))
    ∧ 4294967295 < UInt32.size
    ∧ countedFrom ⟨4294967295, 100, 1000⟩ (UInt32.ofNat 4294967295) (fun _ => pure ())
        (fun n => Sample.thirdTime n.toNat) 0
      = supervise ⟨4294967295, 100, 1000⟩ (fun _ => pure ()) Sample.thirdTime := by
  obtain ⟨k, hk, -, hnoted, hcounted⟩ :=
    supervise_course ⟨4294967295, 100, 1000⟩ (fun _ => pure ()) Sample.thirdTime 0
  have htwo : k = 2 := by
    refine hk.unique ⟨by decide, fun a ha => ?_, .inr ?_⟩
    · interval_cases a
      · exact ⟨.task "interrupted", rfl, .task _⟩
      · exact ⟨.task "interrupted", rfl, .task _⟩
    · rintro ⟨fault, hfault, -⟩
      exact nomatch hfault
  subst htwo
  exact ⟨hnoted, by decide, hcounted (by decide)⟩

end FleetCompliance

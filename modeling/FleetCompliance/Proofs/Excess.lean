import FleetCompliance.Proofs.CountLedger
import Mathlib.Data.List.Forall2

/-!
# What is left with more room or fewer vehicles

Two runs of a count policy are compared here: the second has rules with more
room, or fewer vehicles, or both. Which rule claims a vehicle is of no use
for that. A rule with more room takes vehicles that a later rule would have
taken, the later rule takes others in their place, and so claims move from
rule to rule in both directions.

What moves in one direction only is what is left. A rule that is given fewer
vehicles and has more room leaves fewer of them, in the order in which the
other run leaves them (`CountRule.leaves_sublist_leaves`). This carries over
from rule to rule, to the vehicles in excess
(`greedyExcess_sublist_greedyExcess`).
-/

namespace FleetCompliance

/-! ## Vehicle by vehicle -/

namespace CountRule

/-- What a rule leaves of a list after `n` matches, told vehicle by vehicle:
a match is left if it finds no room, and counts in any case. -/
def leavesAfter (r : CountRule) (c : Context) : ℕ → List Entrant → List Entrant
  | _, [] => []
  | n, v :: w =>
    if r.isMatch c v then
      if r.maximum.all (n < ·.toNat) then leavesAfter r c (n + 1) w
      else v :: leavesAfter r c (n + 1) w
    else v :: leavesAfter r c n w

section LeavesAfter

variable {r : CountRule} {c : Context} {n : ℕ} {v : Entrant}

theorem leavesAfter_cons_of_room (hmatch : r.isMatch c v = true)
    (hroom : r.maximum.all (n < ·.toNat) = true) (w : List Entrant) :
    r.leavesAfter c n (v :: w) = r.leavesAfter c (n + 1) w := by
  rw [leavesAfter, if_pos hmatch, if_pos hroom]

theorem leavesAfter_cons_of_full (hmatch : r.isMatch c v = true)
    (hfull : ¬ r.maximum.all (n < ·.toNat) = true) (w : List Entrant) :
    r.leavesAfter c n (v :: w) = v :: r.leavesAfter c (n + 1) w := by
  rw [leavesAfter, if_pos hmatch, if_neg hfull]

theorem leavesAfter_cons_of_not_match (hmatch : ¬ r.isMatch c v = true) (w : List Entrant) :
    r.leavesAfter c n (v :: w) = v :: r.leavesAfter c n w := by
  rw [leavesAfter, if_neg hmatch]

end LeavesAfter

/-- The matches for which a rule has room are some of the matches. -/
theorem within_sublist (r : CountRule) {α : Type} (n : ℕ) (xs : List α) :
    (r.within n xs).Sublist xs := by
  unfold within
  split
  · exact List.take_sublist _ _
  · exact .refl _

/-- Vehicle by vehicle, those are left whose devices are not among the matches
for which the rule has room. -/
theorem leavesAfter_eq_filter (r : CountRule) (c : Context) (n : ℕ) {w : List Entrant}
    (hw : (w.map (·.event.deviceId)).Nodup) :
    r.leavesAfter c n w = w.filter fun v =>
      !((r.within n (r.matched c w)).map (·.event.deviceId)).contains v.event.deviceId := by
  induction w generalizing n with
  | nil => rfl
  | cons v w ih =>
    obtain ⟨hv, hw⟩ := List.nodup_cons.mp hw
    by_cases hmatch : r.isMatch c v = true
    · have hmatched : r.matched c (v :: w) = v :: r.matched c w := List.filter_cons_of_pos hmatch
      by_cases hroom : r.maximum.all (n < ·.toNat) = true
      · -- the vehicle is claimed, and no other has its device
        rw [leavesAfter_cons_of_room hmatch hroom, ih (n + 1) hw, hmatched,
          (within_cons_of_room hroom v (r.matched c w)).1, List.filter_cons_of_neg (by simp)]
        refine List.filter_congr (fun u hu => ?_)
        have hne : u.event.deviceId ≠ v.event.deviceId :=
          fun h => hv (List.mem_map.mpr ⟨u, hu, h⟩)
        simp [hne]
      · -- the rule is full, so that this vehicle and all later ones are left
        rw [leavesAfter_cons_of_full hmatch hroom, ih (n + 1) hw,
          (within_of_full (full_succ hroom) _).1, (within_of_full hroom _).1]
        rfl
    · have hmatched : r.matched c (v :: w) = r.matched c w := List.filter_cons_of_neg hmatch
      have hfree : v.event.deviceId
          ∉ (r.within n (r.matched c w)).map (·.event.deviceId) := fun hmem =>
        hv ((((r.within_sublist n _).trans List.filter_sublist).map _).subset hmem)
      rw [leavesAfter_cons_of_not_match hmatch, ih n hw, hmatched,
        List.filter_cons_of_pos (by simpa using hfree)]

/-- What a rule leaves is what it leaves vehicle by vehicle. -/
theorem leaves_eq_leavesAfter (r : CountRule) (c : Context) {w : List Entrant}
    (hw : (w.map (·.event.deviceId)).Nodup) : r.leaves c w = r.leavesAfter c 0 w := by
  rw [leavesAfter_eq_filter r c 0 hw, leaves, claims_eq_within]

/-! ## Rules with more room -/

/-- **A rule with no less room**: the two rules differ in their maximum only,
and that of the second is absent or no smaller. -/
structure Relaxes (r r' : CountRule) : Prop where
  scope : r'.scope = r.scope
  minimum : r'.minimum = r.minimum
  maximum : ∀ n', r'.maximum = some n' → ∃ n, r.maximum = some n ∧ n ≤ n'

namespace Relaxes

variable {r r' : CountRule}

/-- A rule has as much room as itself. -/
theorem refl (r : CountRule) : r.Relaxes r := ⟨rfl, rfl, fun n h => ⟨n, h, UInt64.le_refl n⟩⟩

/-- Rules that differ in their maximum match the same vehicles. -/
theorem isMatch_eq (h : r.Relaxes r') (c : Context) (v : Entrant) :
    r'.isMatch c v = r.isMatch c v := by
  unfold CountRule.isMatch
  rw [h.scope]

/-- **Where the first rule has room the second has room**, after no more
matches. -/
theorem hasRoom (h : r.Relaxes r') {n n' : ℕ} (hn : n' ≤ n)
    (hroom : r.maximum.all (n < ·.toNat) = true) : r'.maximum.all (n' < ·.toNat) = true := by
  cases hmax' : r'.maximum with
  | none => rfl
  | some m' =>
    obtain ⟨m, hmax, hle⟩ := h.maximum m' hmax'
    rw [hmax, Option.all_some, decide_eq_true_eq] at hroom
    rw [Option.all_some, decide_eq_true_eq]
    exact lt_of_le_of_lt hn (lt_of_lt_of_le hroom (UInt64.le_iff_toNat_le.mp hle))

end Relaxes

/-! ## Less is left -/

/-- With more room, fewer vehicles and fewer matches before them, fewer
vehicles are left. -/
theorem leavesAfter_sublist {r r' : CountRule} (h : r.Relaxes r') (c : Context)
    {w w' : List Entrant} (hsub : w'.Sublist w) {n n' : ℕ} (hn : n' ≤ n) :
    (r'.leavesAfter c n' w').Sublist (r.leavesAfter c n w) := by
  induction hsub generalizing n n' with
  | slnil => exact .slnil
  | @cons w' w v _ ih =>
    -- only the first list has the vehicle: it counts there, and may be left
    by_cases hmatch : r.isMatch c v = true
    · by_cases hroom : r.maximum.all (n < ·.toNat) = true
      · rw [leavesAfter_cons_of_room hmatch hroom]
        exact ih (Nat.le_succ_of_le hn)
      · rw [leavesAfter_cons_of_full hmatch hroom]
        exact (ih (Nat.le_succ_of_le hn)).cons v
    · rw [leavesAfter_cons_of_not_match hmatch]
      exact (ih hn).cons v
  | @cons_cons w' w v _ ih =>
    have hmatch' := h.isMatch_eq c v
    by_cases hmatch : r.isMatch c v = true
    · rw [hmatch] at hmatch'
      by_cases hroom : r.maximum.all (n < ·.toNat) = true
      · rw [leavesAfter_cons_of_room hmatch hroom,
          leavesAfter_cons_of_room hmatch' (h.hasRoom hn hroom)]
        exact ih (Nat.succ_le_succ hn)
      · -- the first rule is full; whether the second one is does not matter
        rw [leavesAfter_cons_of_full hmatch hroom]
        by_cases hroom' : r'.maximum.all (n' < ·.toNat) = true
        · rw [leavesAfter_cons_of_room hmatch' hroom']
          exact (ih (Nat.succ_le_succ hn)).cons v
        · rw [leavesAfter_cons_of_full hmatch' hroom']
          exact (ih (Nat.succ_le_succ hn)).cons_cons v
    · rw [leavesAfter_cons_of_not_match hmatch,
        leavesAfter_cons_of_not_match (fun hmem => hmatch (hmatch' ▸ hmem))]
      exact (ih hn).cons_cons v

/-- **With more room and fewer vehicles a rule leaves fewer vehicles**, in
the same order. -/
theorem leaves_sublist_leaves {r r' : CountRule} (h : r.Relaxes r') (c : Context)
    {w w' : List Entrant} (hw : (w.map (·.event.deviceId)).Nodup) (hsub : w'.Sublist w) :
    (r'.leaves c w').Sublist (r.leaves c w) := by
  rw [leaves_eq_leavesAfter r c hw, leaves_eq_leavesAfter r' c (hw.sublist (hsub.map _))]
  exact leavesAfter_sublist h c hsub (Nat.le_refl 0)

end CountRule

section Rules

variable {rules rules' : List CountRule} (h : List.Forall₂ CountRule.Relaxes rules rules')
  (c : Context) {w w' : List Entrant} (hw : (w.map (·.event.deviceId)).Nodup)
  (hsub : w'.Sublist w)

include h hw hsub

end Rules

/-! ## The vehicles that no rule claims -/

/-- The devices that are found and that no rule claims. -/
def Verdict.unclaimed {Count : Type} (verdict : Verdict Count) : List (Identifier .device) :=
  (verdict.vehiclesFound.filter (·.ruleApplied.isNone)).map (·.deviceId)

/-- **The vehicles in excess are those that no rule claims.** -/
theorem unclaimed_greedyVerdict (c : Context) (rules : List CountRule) (w : List Entrant) :
    (greedyVerdict c rules w).unclaimed
      = (greedyExcess c rules w).map (·.event.deviceId) := by
  have hclaimed : (claimedEntries c rules w).filter (·.ruleApplied.isNone) = [] := by
    refine List.filter_eq_nil_iff.mpr (fun m hm => ?_)
    obtain ⟨_, _, rfl⟩ := List.mem_map.mp hm
    exact Bool.false_ne_true
  have hexcess : (excessEntries c rules w).filter (·.ruleApplied.isNone)
      = excessEntries c rules w := by
    refine List.filter_eq_self.mpr (fun m hm => ?_)
    obtain ⟨_, _, rfl⟩ := List.mem_map.mp hm
    rfl
  unfold Verdict.unclaimed greedyVerdict
  rw [List.filter_append, hclaimed, hexcess, List.nil_append, excessEntries, List.map_map]
  rfl

/-- The excess is the number of the vehicles that no rule claims. -/
theorem excess_greedyVerdict (c : Context) (rules : List CountRule) (w : List Entrant) :
    (greedyVerdict c rules w).excess
      = UInt64.ofNat (greedyVerdict c rules w).unclaimed.length := by
  rw [unclaimed_greedyVerdict, List.length_map]
  rfl

end FleetCompliance

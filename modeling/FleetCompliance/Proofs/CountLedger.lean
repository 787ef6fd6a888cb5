import FleetCompliance.Proofs.Dispatch
import FleetCompliance.Proofs.Greedy
import Mathlib.Algebra.Order.Ring.Nat

/-!
# The ledger carries out the greedy procedure

A count evaluation visits all vehicles once for each rule and keeps three
lists as it goes: the free devices, the claimed vehicles and those that
overflowed and were not claimed since. This module shows that it finds what
the greedy procedure finds, which keeps none of them.

The turn of a rule is taken apart first. Its visits claim and overflow in
turn with skipped vehicles, but a rule that is full stays full, so that the
turn is a number of claims followed by a number of overflows
(`Ledger.foldl_visit`). Each of the two keeps the ledger in step with the
vehicles that are left, which is what `Ledger.Represents` says.

The overflowed vehicles are known up to order only. They are sorted in the
end, and as no two of them have one device, the sorted list is that of the
vehicles in excess as they stand in the lineup.
-/

namespace FleetCompliance

/-! ## The turn of a rule as claims and overflows -/

namespace CountRule

variable {α : Type}

/-- Of a list of matches, those for which a rule has room after `n` others. -/
def within (r : CountRule) (n : ℕ) (xs : List α) : List α :=
  match r.maximum with
  | some maximum => xs.take (maximum.toNat - n)
  | none => xs

/-- Of a list of matches, those for which a rule has no room after `n`
others. -/
def beyond (r : CountRule) (n : ℕ) (xs : List α) : List α :=
  match r.maximum with
  | some maximum => xs.drop (maximum.toNat - n)
  | none => []

/-- A rule either has room for a match or not. -/
theorem within_append_beyond (r : CountRule) (n : ℕ) (xs : List α) :
    r.within n xs ++ r.beyond n xs = xs := by
  unfold within beyond
  split
  · exact List.take_append_drop _ _
  · exact List.append_nil _

/-- A rule with room takes the first match, and has room for one less. -/
theorem within_cons_of_room {r : CountRule} {n : ℕ}
    (h : r.maximum.all (n < ·.toNat) = true) (x : α) (xs : List α) :
    r.within n (x :: xs) = x :: r.within (n + 1) xs
      ∧ r.beyond n (x :: xs) = r.beyond (n + 1) xs := by
  unfold within beyond
  cases hmax : r.maximum with
  | none => exact ⟨rfl, rfl⟩
  | some maximum =>
    rw [hmax, Option.all_some, decide_eq_true_eq] at h
    have hroom : maximum.toNat - n = (maximum.toNat - (n + 1)) + 1 := by omega
    show List.take (maximum.toNat - n) _ = _ ∧ List.drop (maximum.toNat - n) _ = _
    rw [hroom, List.take_succ_cons, List.drop_succ_cons]
    exact ⟨rfl, rfl⟩

/-- A rule without room takes no match. -/
theorem within_of_full {r : CountRule} {n : ℕ}
    (h : ¬ r.maximum.all (n < ·.toNat) = true) (xs : List α) :
    r.within n xs = [] ∧ r.beyond n xs = xs := by
  unfold within beyond
  cases hmax : r.maximum with
  | none => simp [hmax] at h
  | some maximum =>
    rw [hmax, Option.all_some, decide_eq_true_eq] at h
    have hfull : maximum.toNat - n = 0 := by omega
    show List.take (maximum.toNat - n) _ = _ ∧ List.drop (maximum.toNat - n) _ = _
    rw [hfull]
    exact ⟨rfl, rfl⟩

/-- A rule that stays without room takes no further match. -/
theorem full_succ {r : CountRule} {n : ℕ} (h : ¬ r.maximum.all (n < ·.toNat) = true) :
    ¬ r.maximum.all (n + 1 < ·.toNat) = true := by
  cases hmax : r.maximum with
  | none => simp [hmax] at h
  | some maximum =>
    rw [hmax, Option.all_some, decide_eq_true_eq] at h
    rw [Option.all_some, decide_eq_true_eq]
    omega

/-- A rule claims the matches for which it has room from the start. -/
theorem claims_eq_within (r : CountRule) (c : Context) (w : List Entrant) :
    r.claims c w = r.within 0 (r.matched c w) := by
  unfold claims within
  cases r.maximum <;> rfl

end CountRule

namespace Ledger

/-- A rule claims vehicles one after the other. -/
def claimAll (l : Ledger) (r : CountRule) (vs : List Entrant) : Ledger :=
  vs.foldl (fun l v => l.claim r.scope.ruleId v.event) l

/-- A rule lets vehicles overflow one after the other. -/
def overflowAll (l : Ledger) (r : CountRule) (vs : List Entrant) : Ledger :=
  vs.foldl (fun l v => l.overflow r.scope.ruleId v.event) l

/-- The vehicles of a list that are free and that a rule matches. -/
def candidates (l : Ledger) (r : CountRule) (c : Context) (vs : List Entrant) : List Entrant :=
  r.matched c (vs.filter fun v => l.working.contains v.event.deviceId)

/-- A vehicle that is free and matched is a candidate, before all others. -/
theorem candidates_cons_of_match {l : Ledger} {r : CountRule} {c : Context} {v : Entrant}
    (h : (l.working.contains v.event.deviceId && r.isMatch c v) = true) (vs : List Entrant) :
    l.candidates r c (v :: vs) = v :: l.candidates r c vs := by
  unfold candidates CountRule.matched
  rw [List.filter_filter, List.filter_filter, List.filter_cons_of_pos]
  rwa [Bool.and_comm]

/-- A vehicle that is not free or not matched is no candidate. -/
theorem candidates_cons_of_not_match {l : Ledger} {r : CountRule} {c : Context} {v : Entrant}
    (h : ¬ (l.working.contains v.event.deviceId && r.isMatch c v) = true) (vs : List Entrant) :
    l.candidates r c (v :: vs) = l.candidates r c vs := by
  unfold candidates CountRule.matched
  rw [List.filter_filter, List.filter_filter, List.filter_cons_of_neg]
  rwa [Bool.and_comm]

/-- Claiming a vehicle leaves the other candidates as they are. -/
theorem candidates_claim {l : Ledger} {r : CountRule} {c : Context} {v : Entrant}
    {vs : List Entrant} (hv : v.event.deviceId ∉ vs.map (·.event.deviceId))
    (rule : Identifier .rule) :
    (l.claim rule v.event).candidates r c vs = l.candidates r c vs := by
  unfold candidates
  refine congrArg _ (List.filter_congr (fun u hu => ?_))
  have hne : u.event.deviceId ≠ v.event.deviceId :=
    fun h => hv (List.mem_map.mpr ⟨u, hu, h⟩)
  show (l.working.filter _).contains _ = _
  rw [Bool.eq_iff_iff, List.contains_iff_mem, List.contains_iff_mem, List.mem_filter,
    decide_eq_true_eq]
  exact and_iff_left hne

/-- **The turn of a rule**: it claims the first candidates, as many as it has
room for, and the others overflow. -/
theorem foldl_visit (r : CountRule) (c : Context) {vs : List Entrant}
    (hvs : (vs.map (·.event.deviceId)).Nodup) (l : Ledger) (n : ℕ) :
    vs.foldl (visit r c) (l, n)
      = ((l.claimAll r (r.within n (l.candidates r c vs))).overflowAll r
          (r.beyond n (l.candidates r c vs)), n + (l.candidates r c vs).length) := by
  induction vs generalizing l n with
  | nil =>
    have hnil : r.within n ([] : List Entrant) = [] ∧ r.beyond n ([] : List Entrant) = [] :=
      List.append_eq_nil_iff.mp (r.within_append_beyond n [])
    show (l, n) = ((l.claimAll r (r.within n [])).overflowAll r (r.beyond n []), n)
    rw [hnil.1, hnil.2]
    rfl
  | cons v vs ih =>
    obtain ⟨hv, hrest⟩ := List.nodup_cons.mp hvs
    rw [List.foldl_cons]
    by_cases hmatch : (l.working.contains v.event.deviceId && r.isMatch c v) = true
    · rw [candidates_cons_of_match hmatch, List.length_cons]
      by_cases hroom : r.maximum.all (n < ·.toNat) = true
      · -- the vehicle is claimed, and the rule has room for one less
        have hvisit : visit r c (l, n) v = (l.claim r.scope.ruleId v.event, n + 1) := by
          simp only [visit]
          rw [if_pos hmatch, if_pos hroom]
        obtain ⟨hwithin, hbeyond⟩ :=
          CountRule.within_cons_of_room hroom v (l.candidates r c vs)
        rw [hvisit, ih hrest, candidates_claim hv, hwithin, hbeyond]
        exact congrArg _ (by omega)
      · -- the rule is full, so that this vehicle and all later ones overflow
        have hvisit : visit r c (l, n) v = (l.overflow r.scope.ruleId v.event, n + 1) := by
          simp only [visit]
          rw [if_pos hmatch, if_neg hroom]
        have hsame : (l.overflow r.scope.ruleId v.event).candidates r c vs
            = l.candidates r c vs := rfl
        obtain ⟨hwithin, hbeyond⟩ :=
          CountRule.within_of_full (CountRule.full_succ hroom) (l.candidates r c vs)
        obtain ⟨hwithin', hbeyond'⟩ :=
          CountRule.within_of_full hroom (v :: l.candidates r c vs)
        rw [hvisit, ih hrest, hsame, hwithin, hbeyond, hwithin', hbeyond']
        exact congrArg _ (by omega)
    · have hvisit : visit r c (l, n) v = (l, n) := by
        simp only [visit]
        rw [if_neg hmatch]
      rw [hvisit, ih hrest, candidates_cons_of_not_match hmatch]

/-! ## The ledger in step with what is left -/

/-- **A ledger represents what is left** of a lineup. The free devices are
those of the vehicles that are left, and the overflowed vehicles are entries
of such vehicles, one for each that was `hit` at least. Of the rules noted
on an entry it matters only that they match the vehicle, as the annotation
writes them anew. -/
structure Represents (c : Context) (rules : List CountRule) (hit : Entrant → Prop)
    (w : List Entrant) (l : Ledger) : Prop where
  /-- The free devices are those that are left. -/
  working : l.working = w.map (·.event.deviceId)
  /-- No device has overflowed twice. -/
  distinct : (l.overflowed.map (·.deviceId)).Nodup
  /-- What has overflowed is left, and matched by the rules noted on it. -/
  entries : ∀ m ∈ l.overflowed, ∃ v ∈ w, ∃ noted : List (Identifier .rule),
    noted ≠ [] ∧ (∀ i ∈ noted, i ∈ matchingIds c rules v) ∧ m = v.entry none noted
  /-- What is left and was hit has overflowed. -/
  complete : ∀ v ∈ w, hit v → v.event.deviceId ∈ l.overflowed.map (·.deviceId)

section Represents

variable {c : Context} {rules : List CountRule} {hit : Entrant → Prop}
  {w : List Entrant} {l : Ledger}

/-- Nothing has overflowed before the first rule. -/
theorem represents_start (c : Context) (rules : List CountRule) (w : List Entrant) :
    Represents c rules (fun _ => False) w (start (w.map (·.event.deviceId))) where
  working := rfl
  distinct := List.nodup_nil
  entries _ hm := by simp [start] at hm
  complete _ _ h := h.elim

/-- **Claiming a vehicle** takes its device out of what is left. -/
theorem Represents.claim (h : Represents c rules hit w l) (rule : Identifier .rule)
    (v : Entrant) :
    Represents c rules hit (w.filter fun u => u.event.deviceId ≠ v.event.deviceId)
      (l.claim rule v.event) where
  working := by
    show l.working.filter _ = _
    rw [h.working, List.filter_map]
    rfl
  distinct := h.distinct.sublist (List.filter_sublist.map _)
  entries := by
    intro m hm
    obtain ⟨hmem, hne⟩ := List.mem_filter.mp hm
    obtain ⟨u, hu, noted, hnil, hnoted, rfl⟩ := h.entries m hmem
    exact ⟨u, List.mem_filter.mpr ⟨hu, hne⟩, noted, hnil, hnoted, rfl⟩
  complete := by
    intro u hu hhit
    obtain ⟨hmem, hne⟩ := List.mem_filter.mp hu
    obtain ⟨m, hm, hid⟩ := List.mem_map.mp (h.complete u hmem hhit)
    refine List.mem_map.mpr ⟨m, List.mem_filter.mpr ⟨hm, ?_⟩, hid⟩
    rwa [hid]

/-- Claiming vehicles takes their devices out of what is left. -/
theorem Represents.claimAll (h : Represents c rules hit w l) (r : CountRule)
    (vs : List Entrant) :
    Represents c rules hit
      (w.filter fun u => !(vs.map (·.event.deviceId)).contains u.event.deviceId)
      (l.claimAll r vs) := by
  induction vs generalizing w l with
  | nil =>
    rw [show (w.filter fun u => !(([] : List Entrant).map (·.event.deviceId)).contains
      u.event.deviceId) = w from List.filter_eq_self.mpr (fun u _ => rfl)]
    exact h
  | cons v vs ih =>
    have hstep := ih (h.claim r.scope.ruleId v)
    rw [List.filter_filter] at hstep
    refine (congrArg (fun w' => Represents c rules hit w' _) ?_).mp hstep
    refine List.filter_congr (fun u _ => ?_)
    rw [Bool.eq_iff_iff]
    simp [and_comm]

/-- A device that overflows is on the list of those that overflowed, and the
others stay there in their order. -/
theorem map_deviceId_overflow (l : Ledger) (rule : Identifier .rule) (e : Event) :
    (l.overflow rule e).overflowed.map (·.deviceId)
      = if (l.overflowed.map (·.deviceId)).contains e.deviceId
        then l.overflowed.map (·.deviceId)
        else l.overflowed.map (·.deviceId) ++ [e.deviceId] := by
  have hany : l.overflowed.any (·.deviceId = e.deviceId)
      = (l.overflowed.map (·.deviceId)).contains e.deviceId := by
    rw [Bool.eq_iff_iff, List.any_eq_true, List.contains_iff_mem, List.mem_map]
    simp only [decide_eq_true_eq]
  unfold overflow
  rw [hany]
  split
  · refine (List.map_map ..).trans (List.map_congr_left (fun m _ => ?_))
    show (if m.deviceId = e.deviceId then m.note rule else m).deviceId = m.deviceId
    split
    · exact m.note_deviceId rule
    · rfl
  · exact List.map_append

/-- **Overflowing hits a vehicle** and leaves all vehicles where they are. -/
theorem Represents.overflow (h : Represents c rules hit w l)
    (hw : (w.map (·.event.deviceId)).Nodup) {r : CountRule} (hr : r ∈ rules) {v : Entrant}
    (hv : v ∈ w) (hmatch : r.isMatch c v = true) :
    Represents c rules (fun u => hit u ∨ u = v) w (l.overflow r.scope.ruleId v.event) where
  working := h.working
  distinct := by
    rw [map_deviceId_overflow]
    split
    · exact h.distinct
    · rename_i hnew
      refine List.nodup_append.mpr ⟨h.distinct, List.nodup_singleton _, ?_⟩
      intro d hd d' hd' heq
      obtain rfl : d' = v.event.deviceId := List.mem_singleton.mp hd'
      exact hnew (List.contains_iff_mem.mpr (heq ▸ hd))
  entries := by
    have hrule : r.scope.ruleId ∈ matchingIds c rules v :=
      mem_matchingIds_iff.mpr ⟨r, hr, hmatch, rfl⟩
    intro m hm
    unfold Ledger.overflow at hm
    dsimp only at hm
    split at hm
    · -- the device has overflowed before: its entry notes one more rule
      obtain ⟨m', hm', rfl⟩ := List.mem_map.mp hm
      obtain ⟨u, hu, noted, hnil, hnoted, rfl⟩ := h.entries m' hm'
      split
      · rename_i hid
        obtain rfl : u = v := List.inj_on_of_nodup_map hw hu hv hid
        refine ⟨u, hu, _, ?_, ?_, u.note_entry none noted r.scope.ruleId⟩
        · split
          · exact hnil
          · exact List.append_ne_nil_of_left_ne_nil hnil _
        · intro i hi
          split at hi
          · exact hnoted i hi
          · rcases List.mem_append.mp hi with hold | hnew
            · exact hnoted i hold
            · rw [List.mem_singleton.mp hnew]
              exact hrule
      · exact ⟨u, hu, noted, hnil, hnoted, rfl⟩
    · rcases List.mem_append.mp hm with hold | hnew
      · exact h.entries m hold
      · refine ⟨v, hv, [r.scope.ruleId], List.cons_ne_nil _ _, ?_, List.mem_singleton.mp hnew⟩
        intro i hi
        rw [List.mem_singleton.mp hi]
        exact hrule
  complete := by
    intro u hu hhit
    rw [map_deviceId_overflow]
    have hold : hit u → u.event.deviceId ∈ l.overflowed.map (·.deviceId) := h.complete u hu
    split
    · rename_i hmem
      rcases hhit with hhit | rfl
      · exact hold hhit
      · exact List.contains_iff_mem.mp hmem
    · rcases hhit with hhit | rfl
      · exact List.mem_append_left _ (hold hhit)
      · exact List.mem_append_right _ (List.mem_singleton.mpr rfl)

/-- Fewer vehicles may have been hit. -/
theorem Represents.mono (h : Represents c rules hit w l) {hit' : Entrant → Prop}
    (hhit : ∀ v ∈ w, hit' v → hit v) : Represents c rules hit' w l :=
  ⟨h.working, h.distinct, h.entries, fun v hv hv' => h.complete v hv (hhit v hv hv')⟩

/-- Overflowing hits vehicles and leaves all vehicles where they are. -/
theorem Represents.overflowAll (h : Represents c rules hit w l)
    (hw : (w.map (·.event.deviceId)).Nodup) {r : CountRule} (hr : r ∈ rules)
    {vs : List Entrant} (hvs : ∀ v ∈ vs, v ∈ w ∧ r.isMatch c v = true) :
    Represents c rules (fun u => hit u ∨ u ∈ vs) w (l.overflowAll r vs) := by
  induction vs generalizing hit l with
  | nil => exact h.mono (fun u _ hu => hu.resolve_right (List.not_mem_nil))
  | cons v vs ih =>
    obtain ⟨hv, hmatch⟩ := hvs v List.mem_cons_self
    have hstep := ih (h.overflow hw hr hv hmatch)
      (fun u hu => hvs u (List.mem_cons_of_mem _ hu))
    refine hstep.mono (fun u _ hu => ?_)
    rcases hu with hhit | hmem
    · exact Or.inl (Or.inl hhit)
    · exact (List.mem_cons.mp hmem).imp_left Or.inr

/-- The vehicles of a lineup that are left are known by their devices. -/
theorem filter_contains_eq_of_sublist {w all : List Entrant} (hsub : w.Sublist all)
    (hall : (all.map (·.event.deviceId)).Nodup) :
    (all.filter fun v => (w.map (·.event.deviceId)).contains v.event.deviceId) = w := by
  induction hsub with
  | slnil => rfl
  | @cons w all a hsub ih =>
    obtain ⟨ha, hall⟩ := List.nodup_cons.mp hall
    have hnot : ¬ (w.map (·.event.deviceId)).contains a.event.deviceId = true :=
      fun h => ha ((hsub.map _).subset (List.contains_iff_mem.mp h))
    exact Eq.trans (List.filter_cons_of_neg hnot) (ih hall)
  | @cons_cons w all a hsub ih =>
    obtain ⟨ha, hall⟩ := List.nodup_cons.mp hall
    refine Eq.trans (List.filter_cons_of_pos (List.contains_iff_mem.mpr List.mem_cons_self)) ?_
    refine congrArg (List.cons a) (Eq.trans (List.filter_congr (fun u hu => ?_)) (ih hall))
    have hne : u.event.deviceId ≠ a.event.deviceId :=
      fun h => ha (List.mem_map.mpr ⟨u, hu, h⟩)
    rw [Bool.eq_iff_iff, List.contains_iff_mem, List.contains_iff_mem, List.map_cons,
      List.mem_cons]
    exact or_iff_right hne

/-- What a rule finds to visit is what is left. -/
theorem Represents.candidates_eq (h : Represents c rules hit w l) {all : List Entrant}
    (hsub : w.Sublist all) (hall : (all.map (·.event.deviceId)).Nodup) (r : CountRule) :
    l.candidates r c all = r.matched c w := by
  unfold candidates
  rw [h.working, filter_contains_eq_of_sublist hsub hall]

/-- The shortfall that a rule adds is what it lacks: no more than its minimum,
and so a word. -/
theorem toNat_lack (r : CountRule) (c : Context) (w : List Entrant) :
    (lack r (r.matched c w).length).toNat = r.shortfall c w := by
  unfold lack CountRule.shortfall
  cases r.minimum with
  | none => rfl
  | some minimum =>
    exact UInt64.toNat_ofNat_of_lt' (lt_of_le_of_lt (Nat.sub_le _ _) minimum.toNat_lt)

theorem claimAll_claimed (l : Ledger) (r : CountRule) (vs : List Entrant) :
    (l.claimAll r vs).claimed
      = l.claimed ++ vs.map fun v => v.entry (some r.scope.ruleId) [r.scope.ruleId] := by
  induction vs generalizing l with
  | nil => exact (List.append_nil _).symm
  | cons v vs ih =>
    rw [List.map_cons, List.append_cons]
    exact ih _

theorem claimAll_shortfall (l : Ledger) (r : CountRule) (vs : List Entrant) :
    (l.claimAll r vs).shortfall = l.shortfall := by
  induction vs generalizing l with
  | nil => rfl
  | cons v vs ih => exact ih _

theorem overflowAll_claimed (l : Ledger) (r : CountRule) (vs : List Entrant) :
    (l.overflowAll r vs).claimed = l.claimed := by
  induction vs generalizing l with
  | nil => rfl
  | cons v vs ih => exact ih _

theorem overflowAll_shortfall (l : Ledger) (r : CountRule) (vs : List Entrant) :
    (l.overflowAll r vs).shortfall = l.shortfall := by
  induction vs generalizing l with
  | nil => rfl
  | cons v vs ih => exact ih _

/-- **The turn of a rule keeps the ledger in step**: what the rule claims is
added to the claimed vehicles, what it lacks to the shortfall, and every
vehicle that it matches and leaves has overflowed. -/
theorem Represents.apply (h : Represents c rules hit w l) {all : List Entrant}
    (hsub : w.Sublist all) (hall : (all.map (·.event.deviceId)).Nodup) {r : CountRule}
    (hr : r ∈ rules) :
    Represents c rules (fun v => hit v ∨ r.isMatch c v = true) (r.leaves c w) (l.apply c all r)
      ∧ (l.apply c all r).claimed = l.claimed
          ++ (r.claims c w).map (fun v => v.entry (some r.scope.ruleId) [r.scope.ruleId])
      ∧ ∀ n, l.shortfall = .ofNat n →
          (l.apply c all r).shortfall = .ofNat (n + r.shortfall c w) := by
  have happly : l.apply c all r
      = { (l.claimAll r (r.claims c w)).overflowAll r (r.beyond 0 (r.matched c w)) with
          shortfall := l.shortfall.plus (lack r (r.matched c w).length) } := by
    unfold Ledger.apply
    rw [foldl_visit r c hall, h.candidates_eq hsub hall, ← r.claims_eq_within c w, Nat.zero_add]
    dsimp only
    rw [overflowAll_shortfall, claimAll_shortfall]
  have hw : (w.map (·.event.deviceId)).Nodup := hall.sublist (hsub.map _)
  have hsplit : r.claims c w ++ r.beyond 0 (r.matched c w) = r.matched c w := by
    rw [r.claims_eq_within c w]
    exact r.within_append_beyond 0 _
  have hleft : ∀ v ∈ r.beyond 0 (r.matched c w), v ∈ r.leaves c w ∧ r.isMatch c v = true := by
    intro v hv
    have hmatched : v ∈ r.matched c w := hsplit ▸ List.mem_append_right _ hv
    obtain ⟨hvw, hmatch⟩ := List.mem_filter.mp hmatched
    refine ⟨CountRule.mem_leaves_iff.mpr ⟨hvw, fun hclaimed => ?_⟩, hmatch⟩
    -- a device that is claimed cannot come up once more among the rest
    have hnodup : ((r.claims c w ++ r.beyond 0 (r.matched c w)).map
        (·.event.deviceId)).Nodup := by
      rw [hsplit]
      exact hw.sublist (List.filter_sublist.map _)
    rw [List.map_append] at hnodup
    exact (List.nodup_append.mp hnodup).2.2 _ hclaimed _ (List.mem_map_of_mem hv) rfl
  have hwleft : ((r.leaves c w).map (·.event.deviceId)).Nodup :=
    hw.sublist ((r.leaves_sublist c w).map _)
  have hstep := (h.claimAll r (r.claims c w)).overflowAll hwleft hr hleft
  rw [happly]
  refine ⟨⟨hstep.working, hstep.distinct, hstep.entries, ?_⟩, ?_, fun n hn => ?_⟩
  · intro v hv hhit
    refine hstep.complete v hv (hhit.imp_right (fun hmatch => ?_))
    obtain ⟨hvw, hfree⟩ := CountRule.mem_leaves_iff.mp hv
    have hmatched : v ∈ r.claims c w ++ r.beyond 0 (r.matched c w) := by
      rw [hsplit]
      exact List.mem_filter.mpr ⟨hvw, hmatch⟩
    exact (List.mem_append.mp hmatched).resolve_left
      (fun hclaimed => hfree (List.mem_map_of_mem hclaimed))
  · exact (overflowAll_claimed _ _ _).trans (claimAll_claimed _ _ _)
  · show l.shortfall.plus _ = _
    rw [hn, Total.ofNat_plus, toNat_lack]

/-- **All turns keep the ledger in step.** -/
theorem Represents.foldl_apply {all : List Entrant}
    (hall : (all.map (·.event.deviceId)).Nodup) {turns : List CountRule}
    (hturns : ∀ r ∈ turns, r ∈ rules) (h : Represents c rules hit w l) (hsub : w.Sublist all) :
    Represents c rules (fun v => hit v ∨ ∃ r ∈ turns, r.isMatch c v = true)
        (greedyRest c turns w) (turns.foldl (Ledger.apply c all) l)
      ∧ (turns.foldl (Ledger.apply c all) l).claimed = l.claimed
          ++ (greedyClaims c turns w).map
              (fun (r, v) => v.entry (some r.scope.ruleId) [r.scope.ruleId])
      ∧ ∀ n, l.shortfall = .ofNat n →
          (turns.foldl (Ledger.apply c all) l).shortfall
            = .ofNat (n + greedyShortfall c turns w) := by
  induction turns generalizing hit w l with
  | nil =>
    refine ⟨h.mono (fun v _ hv => ?_), (List.append_nil _).symm, fun _ hn => hn⟩
    exact hv.resolve_right (fun ⟨_, hr, _⟩ => List.not_mem_nil hr)
  | cons r turns ih =>
    obtain ⟨hstep, hclaimed, hshort⟩ := h.apply hsub hall (hturns r List.mem_cons_self)
    obtain ⟨hrun, hclaimed', hshort'⟩ :=
      ih (fun r' hr' => hturns r' (List.mem_cons_of_mem _ hr')) hstep
        ((r.leaves_sublist c w).trans hsub)
    refine ⟨hrun.mono (fun v _ hv => ?_), ?_, fun n hn => ?_⟩
    · rcases hv with hhit | ⟨r', hr', hmatch⟩
      · exact Or.inl (Or.inl hhit)
      · rcases List.mem_cons.mp hr' with rfl | hlater
        · exact Or.inl (Or.inr hmatch)
        · exact Or.inr ⟨r', hlater, hmatch⟩
    · rw [List.foldl_cons, hclaimed', hclaimed, greedyClaims, List.map_append, List.map_map,
        List.append_assoc]
      rfl
    · rw [List.foldl_cons, hshort' _ (hshort n hn), greedyShortfall, Nat.add_assoc]

end Represents

end Ledger

/-! ## The verdict -/

section Verdict

variable {p : PreparedFleet} (hp : p.WellOrdered) (rules : List CountRule) (c : Context)

include hp

/-- **The ledger after all rules** has claimed what the greedy procedure
claims, holds entries of what it leaves in excess, and has added up what
the rules lack. -/
theorem countLedger_represents :
    Ledger.Represents c rules (fun v => ∃ r ∈ rules, r.isMatch c v = true)
        (greedyRest c rules p.entrants) (countLedger rules c p)
      ∧ (countLedger rules c p).claimed = (greedyClaims c rules p.entrants).map
          (fun (r, v) => v.entry (some r.scope.ruleId) [r.scope.ruleId])
      ∧ (countLedger rules c p).shortfall = .ofNat (greedyShortfall c rules p.entrants) := by
  obtain ⟨hrun, hclaimed, hshort⟩ :=
    (Ledger.represents_start c rules p.entrants).foldl_apply hp.entrants_distinct
      (fun r (hr : r ∈ rules) => hr) (.refl _)
  refine ⟨hrun.mono (fun _ _ h => Or.inr h), ?_, ?_⟩
  · exact hclaimed.trans (List.nil_append _)
  · exact (hshort 0 rfl).trans (congrArg _ (Nat.zero_add _))

/-- The annotation of a claimed vehicle writes down the rules that match
it. -/
theorem map_annotate_claimed :
    (countLedger rules c p).claimed.map (annotate (rules.map .count) c p)
      = claimedEntries c rules p.entrants := by
  rw [(countLedger_represents hp rules c).2.1, List.map_map]
  refine List.map_congr_left (fun ⟨r, v⟩ hrv => ?_)
  obtain ⟨hr, hv, hmatch⟩ := of_mem_greedyClaims hrv
  show annotate _ _ _ (v.entry _ _) = v.entry _ _
  rw [annotate_entry hp hv, matchedRules_count]
  intro i hi
  rw [List.mem_singleton.mp hi, matchedRules_count]
  exact mem_matchingIds_iff.mpr ⟨r, hr, hmatch, rfl⟩

/-- The annotation of an overflowed vehicle makes it the entry of a vehicle
in excess. -/
theorem exists_excess_of_mem_overflowed {m : MatchedVehicle}
    (hm : m ∈ (countLedger rules c p).overflowed) :
    ∃ v ∈ greedyExcess c rules p.entrants, m.deviceId = v.event.deviceId
      ∧ m.stamp = v.event.stamp
      ∧ annotate (rules.map .count) c p m = v.entry none (matchingIds c rules v) := by
  obtain ⟨v, hv, noted, hnil, hnoted, rfl⟩ :=
    (countLedger_represents hp rules c).1.entries m hm
  obtain ⟨i, hi⟩ := List.exists_mem_of_ne_nil noted hnil
  obtain ⟨r, hr, hmatch, -⟩ := mem_matchingIds_iff.mp (hnoted i hi)
  refine ⟨v, mem_greedyExcess_iff.mpr ⟨hv, r, hr, hmatch⟩, rfl, rfl, ?_⟩
  rw [annotate_entry hp ((greedyRest_sublist c rules _).subset hv), matchedRules_count]
  rwa [matchedRules_count]

/-- **The overflowed vehicles are those in excess**, in some order. -/
theorem map_annotate_overflowed_perm :
    ((countLedger rules c p).overflowed.map (annotate (rules.map .count) c p)).Perm
      (excessEntries c rules p.entrants) := by
  have hdistinct := hp.entrants_distinct
  have hrepresents := (countLedger_represents hp rules c).1
  have hids : ((countLedger rules c p).overflowed.map (annotate (rules.map .count) c p)).map
      (·.deviceId) = (countLedger rules c p).overflowed.map (·.deviceId) := by
    rw [List.map_map]
    refine List.map_congr_left (fun m hm => ?_)
    obtain ⟨v, -, hid, -, hentry⟩ := exists_excess_of_mem_overflowed hp rules c hm
    show (annotate _ _ _ m).deviceId = m.deviceId
    rw [hentry, hid]
    rfl
  have hnodup : ((countLedger rules c p).overflowed.map
      (annotate (rules.map .count) c p)).Nodup :=
    List.Nodup.of_map (·.deviceId) (hids ▸ hrepresents.distinct)
  have hnodup' : (excessEntries c rules p.entrants).Nodup := by
    refine List.Nodup.of_map (·.deviceId) ?_
    rw [excessEntries, List.map_map]
    exact hdistinct.sublist ((greedyExcess_sublist c rules _).map _)
  refine (List.perm_ext_iff_of_nodup hnodup hnodup').mpr (fun x => ⟨fun hx => ?_, fun hx => ?_⟩)
  · obtain ⟨m, hm, rfl⟩ := List.mem_map.mp hx
    obtain ⟨v, hv, -, -, hentry⟩ := exists_excess_of_mem_overflowed hp rules c hm
    exact List.mem_map.mpr ⟨v, hv, hentry.symm⟩
  · obtain ⟨v, hv, rfl⟩ := List.mem_map.mp hx
    obtain ⟨hrest, hmatch⟩ := mem_greedyExcess_iff.mp hv
    obtain ⟨m, hm, hid⟩ := List.mem_map.mp (hrepresents.complete v hrest hmatch)
    obtain ⟨u, hu, hid', -, hentry⟩ := exists_excess_of_mem_overflowed hp rules c hm
    -- the vehicle that overflowed with this device is this vehicle
    obtain rfl : u = v := List.inj_on_of_nodup_map hdistinct
      ((greedyExcess_sublist c rules _).subset hu)
      ((greedyExcess_sublist c rules _).subset hv) (hid'.symm.trans hid)
    exact List.mem_map.mpr ⟨m, hm, hentry⟩

/-- **The overflowed vehicles, sorted, are those in excess** as they stand in
the lineup. -/
theorem map_annotate_overflowed :
    ((countLedger rules c p).overflowed.mergeSort MatchedVehicle.notAfter).map
        (annotate (rules.map .count) c p)
      = excessEntries c rules p.entrants := by
  refine eq_of_perm_of_ascending MatchedVehicle.stamp (((List.mergeSort_perm _ _).map _).trans
    (map_annotate_overflowed_perm hp rules c)) ?_ ?_
  · rw [List.pairwise_map]
    refine List.Pairwise.imp_of_mem (fun {a b} ha hb hab => ?_)
      (pairwise_mergeSort_of_key MatchedVehicle.notAfter_iff _)
    obtain ⟨u, -, -, hu, hu'⟩ :=
      exists_excess_of_mem_overflowed hp rules c (List.mem_mergeSort.mp ha)
    obtain ⟨v, -, -, hv, hv'⟩ :=
      exists_excess_of_mem_overflowed hp rules c (List.mem_mergeSort.mp hb)
    rw [hu', hv', Entrant.entry_stamp, Entrant.entry_stamp, ← hu, ← hv]
    exact hab
  · rw [excessEntries, List.pairwise_map]
    exact hp.entrants_ascending.sublist (greedyExcess_sublist c rules _)

end Verdict

namespace Engine

/-- A fleet that is prepared for an evaluation is well ordered. -/
theorem prepare_wellOrdered (e : Engine) (fleet : Fleet) : (e.prepare fleet).WellOrdered :=
  PreparedFleet.ofFleet_wellOrdered fleet e.clock.now e.window

/-- No device enters an evaluation twice. -/
theorem entrants_distinct (e : Engine) (fleet : Fleet) :
    ((e.prepare fleet).entrants.map (·.event.deviceId)).Nodup :=
  (e.prepare_wellOrdered fleet).entrants_distinct

/-- Nothing enters an evaluation of a fleet that has reported nothing. -/
theorem entrants_nil (e : Engine) (devices : List Device) :
    (e.prepare ⟨devices, []⟩).entrants = [] :=
  PreparedFleet.entrants_ofFleet_nil devices e.clock.now e.window

/-- Nor does anything if there are no vehicles. -/
theorem entrants_empty (e : Engine) : (e.prepare .empty).entrants = [] := e.entrants_nil []

/-- The rules of a count policy are of that kind. -/
theorem isOfKind_count {p : Policy} {rules : List CountRule}
    (hp : p.rules = rules.map .count) : p.IsOfKind .count := by
  intro r hr
  rw [hp] at hr
  obtain ⟨r', -, rfl⟩ := List.mem_map.mp hr
  rfl

/-- The count rules of a count policy are its rules. -/
theorem countRules_count {p : Policy} {rules : List CountRule}
    (hp : p.rules = rules.map .count) : countRules p = rules := by
  unfold countRules
  rw [hp, List.filterMap_map]
  exact List.filterMap_some

/-- The verdict of a count policy is that of the greedy procedure on the
vehicles that enter. -/
theorem countVerdict_eq_greedyVerdict (e : Engine) {p : Policy} {rules : List CountRule}
    (hp : p.rules = rules.map .count) (geographies : List Geography) (fleet : Fleet) :
    e.countVerdict p geographies fleet
      = greedyVerdict ⟨e.clock, geographies⟩ rules (e.prepare fleet).entrants := by
  have hwell := e.prepare_wellOrdered fleet
  set c : Context := ⟨e.clock, geographies⟩
  set l := countLedger rules c (e.prepare fleet)
  have hfound : l.found.map (annotate (rules.map .count) c (e.prepare fleet))
      = claimedEntries c rules (e.prepare fleet).entrants
        ++ excessEntries c rules (e.prepare fleet).entrants := by
    rw [Ledger.found, List.map_append, map_annotate_claimed hwell, map_annotate_overflowed hwell]
  have hexcess : l.overflowed.length
      = (greedyExcess c rules (e.prepare fleet).entrants).length := by
    have hlength := (map_annotate_overflowed_perm hwell rules c).length_eq
    rwa [List.length_map, excessEntries, List.length_map] at hlength
  have hshort : l.shortfall = .ofNat (greedyShortfall c rules (e.prepare fleet).entrants) :=
    (countLedger_represents hwell rules c).2.2
  show (⟨(countLedger (countRules p) c (e.prepare fleet)).found.map
      (annotate p.rules c (e.prepare fleet)), _, _⟩ : Tally) = _
  rw [countRules_count hp, hp]
  show (⟨l.found.map _, UInt64.ofNat l.overflowed.length,
    l.shortfall.plus (UInt64.ofNat l.overflowed.length)⟩ : Tally) = _
  rw [hfound, hexcess, hshort]
  rfl

/-- A count policy is evaluated as one by the greedy procedure. -/
theorem evaluateAs_count (e : Engine) {p : Policy} {rules : List CountRule}
    (hp : p.rules = rules.map .count) (geographies : List Geography) (fleet : Fleet) :
    e.evaluateAs .count p geographies fleet
      = .ok (greedyVerdict ⟨e.clock, geographies⟩ rules (e.prepare fleet).entrants) := by
  rw [← countVerdict_eq_greedyVerdict e hp]
  exact evaluateAs_of_isOfKind (isOfKind_count hp)

/-- The rules of a count policy are of one kind, if it has any, so that it
is evaluated as a count policy. -/
theorem evaluate_count (e : Engine) {p : Policy} {rules : List CountRule}
    (hp : p.rules = rules.map .count) (hne : rules ≠ []) (geographies : List Geography)
    (fleet : Fleet) :
    e.evaluate p geographies fleet
      = .ok (greedyVerdict ⟨e.clock, geographies⟩ rules (e.prepare fleet).entrants) := by
  refine evaluate_eq_ok_iff.mpr ⟨.count, ?_, isOfKind_count hp, ?_⟩
  · rwa [hp, Ne, List.map_eq_nil_iff]
  · exact (countVerdict_eq_greedyVerdict e hp geographies fleet).symm

/-- **Count policies are evaluated greedily.** The vehicles that enter are
the newest surviving events of the registered devices, in order of time, and
the verdict is that of the greedy procedure on them. Its numbers are words of
64 bits, which hold the exact numbers as long as these fit. -/
theorem evaluateAs_count_eq_greedyVerdict (e : Engine) {p : Policy} {rules : List CountRule}
    (hp : p.rules = rules.map .count) (geographies : List Geography) (fleet : Fleet) :
    let c : Context := ⟨e.clock, geographies⟩
    let w := (e.prepare fleet).entrants
    let total := greedyShortfall c rules w + (greedyExcess c rules w).length
    Lineup fleet e.clock.now e.window w
      ∧ e.evaluateAs .count p geographies fleet = .ok (greedyVerdict c rules w)
      ∧ (total < 2 ^ 64 →
          (∃ violations, (greedyVerdict c rules w).violations = some violations
              ∧ violations.toNat = total)
            ∧ (greedyVerdict c rules w).excess.toNat = (greedyExcess c rules w).length) := by
  intro c w total
  refine ⟨lineup_entrants fleet e.clock.now e.window, ?_, fun hfits => ⟨?_, ?_⟩⟩
  · rw [← countVerdict_eq_greedyVerdict e hp]
    exact evaluateAs_of_isOfKind (isOfKind_count hp)
  · exact ⟨_, Total.ofNat_plus_ofNat_of_lt hfits, UInt64.toNat_ofNat_of_lt hfits⟩
  · exact UInt64.toNat_ofNat_of_lt (lt_of_le_of_lt (Nat.le_add_left _ _) hfits)

end Engine

/-! ### Three vehicles and two rules

Each of the rules has room for one vehicle. All three overflow or are
claimed at the first rule, the second rule rescues one of those that
overflowed, and the last stays in excess. -/

namespace Sample

/-- An identifier with a small value. -/
def id {entity : Entity} (n : ℕ) : Identifier entity := ⟨n % 100, by omega⟩

/-- An instant soon after the start of time. -/
def instant (n : ℕ) : Instant := ⟨n % 100, by omega, by omega⟩

/-- A square of one degree. -/
def zone : Geography where
  geographyId := id 1
  name := none
  publishDate := none
  shape := .geometry (.polygon [[[0.0, 0.0], [1.0, 0.0], [1.0, 1.0], [0.0, 1.0]]])

/-- A vehicle that stands in the middle of the zone since the given
millisecond. -/
def vehicle (n : ℕ) : Entrant where
  device := ⟨id n, id 1, .scooter⟩
  event :=
    { deviceId := id n
      providerId := id 1
      timestamp := instant n
      eventTypes := [.located]
      state := .available
      telemetry := some ⟨⟨⟨0.5, 0.5⟩, none⟩, instant n⟩ }

/-- Three vehicles in the zone. -/
def fleet : Fleet :=
  ⟨[vehicle 1, vehicle 2, vehicle 3].map (·.device),
    [vehicle 1, vehicle 2, vehicle 3].map (·.event)⟩

/-- A rule for the zone, always active. -/
def rule (n : ℕ) (maximum minimum : Option UInt64) : CountRule where
  scope := ⟨id n, "zone", [id 1], none, none, none, none, none⟩
  maximum := maximum
  minimum := minimum

/-- Room for one vehicle, and then for one more where four are wanted. -/
def rules : List CountRule := [rule 1 (some 1) none, rule 2 (some 1) (some 4)]

/-- The policy of these rules. -/
def policy : Policy where
  policyId := id 1
  name := "zone"
  description := none
  startDate := .earliest
  endDate := none
  publishDate := none
  prevPolicies := none
  providerIds := none
  rules := rules.map .count

/-- An instant soon after the vehicles reported. -/
def engine : Engine := ⟨⟨instant 10, ⟨"UTC", 0, []⟩⟩, 100⟩

/-- The three vehicles enter in the order in which they reported. -/
theorem entrants_eq :
    (engine.prepare fleet).entrants = [vehicle 1, vehicle 2, vehicle 3] := by
  have hrecent : recentEvents fleet.events engine.clock.now engine.window = fleet.events :=
    List.mergeSort_of_pairwise (by decide)
  rw [Engine.prepare, PreparedFleet.ofFleet_of_recentEvents hrecent]
  rfl

end Sample

/-- The first vehicle is claimed, the second is rescued by the second rule,
the third is in excess, and two vehicles are lacking. -/
theorem evaluateAs_count_rescued :
    Sample.policy.rules = Sample.rules.map .count
      ∧ Sample.engine.evaluateAs .count Sample.policy [Sample.zone] Sample.fleet
          = .ok
            { vehiclesFound :=
                [(Sample.vehicle 1).entry (some (Sample.id 1)) [Sample.id 1, Sample.id 2],
                  (Sample.vehicle 2).entry (some (Sample.id 2)) [Sample.id 1, Sample.id 2],
                  (Sample.vehicle 3).entry none [Sample.id 1, Sample.id 2]]
              excess := 1
              violations := some 3 }
      ∧ ∃ violations, (greedyVerdict ⟨Sample.engine.clock, [Sample.zone]⟩ Sample.rules
          (Sample.engine.prepare Sample.fleet).entrants).violations = some violations
            ∧ violations.toNat = 3 := by
  obtain ⟨-, hverdict, hexact⟩ := Sample.engine.evaluateAs_count_eq_greedyVerdict
    (rfl : Sample.policy.rules = Sample.rules.map .count) [Sample.zone] Sample.fleet
  rw [Sample.entrants_eq] at hverdict hexact ⊢
  exact ⟨rfl, hverdict, (hexact (by decide)).1⟩

end FleetCompliance

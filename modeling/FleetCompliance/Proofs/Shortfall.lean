import FleetCompliance.Proofs.Excess

/-!
# Matches and what is lacking

The violations of a count policy have two parts: what its rules lack, and the
excess. What a rule lacks depends on the number of its matches, which a rule
counts while it visits the vehicles and forgets after its turn. This module
keeps the numbers (`Ledger.counts`, `Engine.matchCounts`), so that the
violations can be told from them and from the vehicles that no rule claims
(`Engine.violations_count`).
-/

namespace FleetCompliance

/-! ## The number of matches of each rule -/

/-- The number of vehicles that each rule matches at its turn. -/
def greedyCounts (c : Context) : List CountRule → List Entrant → List ℕ
  | [], _ => []
  | r :: rules, w => (r.matched c w).length :: greedyCounts c rules (r.leaves c w)

namespace Ledger

/-- **What each rule counts**, on the ledger that the rules before it leave. -/
def counts (c : Context) (entrants : List Entrant) : List CountRule → Ledger → List ℕ
  | [], _ => []
  | r :: rules, l =>
    (entrants.foldl (visit r c) (l, 0)).2 :: counts c entrants rules (l.apply c entrants r)

/-- A rule counts the vehicles that it matches among those that are left. -/
theorem Represents.counts_eq {c : Context} {rules : List CountRule} {hit : Entrant → Prop}
    {all : List Entrant} (hall : (all.map (·.event.deviceId)).Nodup) {turns : List CountRule}
    (hturns : ∀ r ∈ turns, r ∈ rules) {w : List Entrant} {l : Ledger}
    (h : Represents c rules hit w l) (hsub : w.Sublist all) :
    counts c all turns l = greedyCounts c turns w := by
  induction turns generalizing hit w l with
  | nil => rfl
  | cons r turns ih =>
    have hcount : (all.foldl (visit r c) (l, 0)).2 = (r.matched c w).length := by
      rw [foldl_visit r c hall, h.candidates_eq hsub hall, Nat.zero_add]
    obtain ⟨hstep, -, -⟩ := h.apply hsub hall (hturns r List.mem_cons_self)
    rw [counts, greedyCounts, hcount]
    exact congrArg _ (ih (fun r' hr' => hturns r' (List.mem_cons_of_mem _ hr')) hstep
      ((r.leaves_sublist c w).trans hsub))

end Ledger

/-! ## What rules lack -/

/-- What a rule lacks after a number of matches. -/
def CountRule.lacking (r : CountRule) (n : ℕ) : ℕ :=
  match r.minimum with
  | some minimum => minimum.toNat - n
  | none => 0

/-- What a rule lacks in a list depends on the number of its matches. -/
theorem CountRule.shortfall_eq_lacking (r : CountRule) (c : Context) (w : List Entrant) :
    r.shortfall c w = r.lacking (r.matched c w).length := rfl

/-- With more matches a rule lacks less. -/
theorem CountRule.lacking_anti (r : CountRule) {m n : ℕ} (h : m ≤ n) :
    r.lacking n ≤ r.lacking m := by
  unfold lacking
  split
  · exact Nat.sub_le_sub_left h _
  · exact Nat.le_refl 0

/-- What rules lack together, after a number of matches each. -/
def lackingSum (rules : List CountRule) (counts : List ℕ) : ℕ :=
  (List.zipWith CountRule.lacking rules counts).sum

/-- With more matches each, rules lack less together. -/
theorem lackingSum_anti (rules : List CountRule) {counts counts' : List ℕ}
    (h : List.Forall₂ (· ≤ ·) counts counts') :
    lackingSum rules counts' ≤ lackingSum rules counts := by
  induction h generalizing rules with
  | nil => exact Nat.le_refl _
  | cons hn _ ih =>
    cases rules with
    | nil => exact Nat.le_refl 0
    | cons r rules =>
      unfold lackingSum
      rw [List.zipWith_cons_cons, List.zipWith_cons_cons, List.sum_cons, List.sum_cons]
      exact Nat.add_le_add (r.lacking_anti hn) (ih rules)

/-- What rules lack follows from their matches. -/
theorem greedyShortfall_eq_lackingSum (c : Context) (rules : List CountRule)
    (w : List Entrant) :
    greedyShortfall c rules w = lackingSum rules (greedyCounts c rules w) := by
  induction rules generalizing w with
  | nil => rfl
  | cons r rules ih =>
    rw [greedyShortfall, ih, r.shortfall_eq_lacking]
    rfl

/-! ## Fewer vehicles -/

/-- Of fewer vehicles each rule matches fewer. -/
theorem greedyCounts_le (c : Context) (rules : List CountRule) {w w' : List Entrant}
    (hw' : (w'.map (·.event.deviceId)).Nodup) (hsub : w.Sublist w') :
    List.Forall₂ (· ≤ ·) (greedyCounts c rules w) (greedyCounts c rules w') := by
  induction rules generalizing w w' with
  | nil => exact .nil
  | cons r rules ih =>
    have hleaves := CountRule.leaves_sublist_leaves (CountRule.Relaxes.refl r) c hw' hsub
    exact .cons (hsub.filter _).length_le
      (ih (hw'.sublist ((r.leaves_sublist c w').map _)) hleaves)

/-! ## The violations of a count policy -/

namespace Engine

variable (e : Engine)

/-- **The number of matches of each rule** in the evaluation of a count
policy. -/
def matchCounts (p : Policy) (geographies : List Geography) (fleet : Fleet) : List ℕ :=
  Ledger.counts ⟨e.clock, geographies⟩ (e.prepare fleet).entrants (countRules p)
    (Ledger.start (e.prepare fleet).deviceIds)

/-- What the rules of a count policy lack together. -/
def shortfall (p : Policy) (geographies : List Geography) (fleet : Fleet) : ℕ :=
  lackingSum (countRules p) (e.matchCounts p geographies fleet)

section Count

variable {p : Policy} {rules : List CountRule} (hp : p.rules = rules.map .count)
  (geographies : List Geography) (fleet : Fleet)

include hp

/-- The rules of a count policy match what they match in the greedy
procedure. -/
theorem matchCounts_count :
    e.matchCounts p geographies fleet
      = greedyCounts ⟨e.clock, geographies⟩ rules (e.prepare fleet).entrants := by
  rw [matchCounts, countRules_count hp]
  exact (Ledger.represents_start _ rules _).counts_eq (e.entrants_distinct fleet)
    (fun r (hr : r ∈ rules) => hr) (.refl _)

/-- The rules of a count policy lack what they lack in the greedy procedure. -/
theorem shortfall_count :
    e.shortfall p geographies fleet
      = greedyShortfall ⟨e.clock, geographies⟩ rules (e.prepare fleet).entrants := by
  rw [greedyShortfall_eq_lackingSum, shortfall, matchCounts_count e hp, countRules_count hp]

/-- **The violations of a count policy** are the total of what its rules lack,
and the vehicles that none of them claims are added to it. -/
theorem violations_count :
    (greedyVerdict ⟨e.clock, geographies⟩ rules (e.prepare fleet).entrants).violations
      = (Total.ofNat (e.shortfall p geographies fleet)).plus
          (UInt64.ofNat (greedyVerdict ⟨e.clock, geographies⟩ rules
            (e.prepare fleet).entrants).unclaimed.length) := by
  rw [shortfall_count e hp, unclaimed_greedyVerdict, List.length_map]
  rfl

end Count

end Engine

end FleetCompliance

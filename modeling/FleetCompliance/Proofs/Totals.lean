import FleetCompliance.Proofs.Found
import FleetCompliance.Proofs.ReplayAgreement
import FleetCompliance.Proofs.Shortfall
import Mathlib.Algebra.Order.BigOperators.Group.List

/-!
# Which totals there are

What the rules of a count policy lack is added up in a word of 64 bits, the
excess is added to it, and a batch adds up these words once more for all of
its snapshots. A minimum is any word, so that two rules are enough to leave the
words, and nothing keeps a policy from having two such rules. The addition
then breaks off.

So it might seem that the order of rules and of pairs decides what is left of a
batch. It does not, as numbers of violations only add up to more: each
evaluation has a total exactly if the number of its violations is that of a
word, the batch succeeds exactly if the number of all violations is, and it
then reports this number (`Store.totals_exact_iff`). Otherwise nothing is
handed in.
-/

namespace FleetCompliance

/-! ## The total of an evaluation -/

namespace Engine

variable (e : Engine)

/-- **The number of the violations** of a count policy: that of the vehicles
which its rules lack, and that of those which none of them claims. -/
def exactViolations (p : Policy) (geographies : List Geography) (fleet : Fleet) : ℕ :=
  e.shortfall p geographies fleet + (e.countVerdict p geographies fleet).unclaimed.length

/-- The number of the violations of a count policy is that of the greedy
procedure. -/
theorem exactViolations_count {p : Policy} {rules : List CountRule}
    (hp : p.rules = rules.map .count) (geographies : List Geography) (fleet : Fleet) :
    e.exactViolations p geographies fleet
      = greedyShortfall ⟨e.clock, geographies⟩ rules (e.prepare fleet).entrants
        + (greedyExcess ⟨e.clock, geographies⟩ rules (e.prepare fleet).entrants).length := by
  rw [exactViolations, e.shortfall_count hp, countVerdict_eq_greedyVerdict e hp,
    unclaimed_greedyVerdict, List.length_map]

/-- **A count policy is evaluated**, and the total of its violations is that of
their number. -/
theorem exists_evaluate_count {p : Policy} (hne : p.rules ≠ []) (hp : p.IsOfKind .count)
    (geographies : List Geography) {fleet : Fleet} (hfits : fleet.events.length < 2 ^ 64) :
    ∃ t : Tally, e.evaluate p geographies fleet = .ok t
      ∧ t.violations = .ofNat (e.exactViolations p geographies fleet) := by
  have hrules : p.rules = (countRules p).map .count := rules_eq_map_countRules hp
  have hcounted : countRules p ≠ [] := fun h => hne (hrules.trans (h ▸ rfl))
  have hexcess : (greedyExcess ⟨e.clock, geographies⟩ (countRules p)
      (e.prepare fleet).entrants).length < 2 ^ 64 :=
    lt_of_le_of_lt ((greedyExcess_sublist _ _ _).length_le.trans
      (PreparedFleet.length_entrants_le fleet e.clock.now e.window)) hfits
  refine ⟨_, e.evaluate_count hrules hcounted geographies fleet, ?_⟩
  rw [e.exactViolations_count hrules]
  exact Total.ofNat_plus_ofNat hexcess

end Engine

/-! ## The total of a batch -/

namespace Store

variable {s : Store} {e : Engine} {pair : Policy × Identifier .provider}

/-- The number of the violations of a pair. -/
def exactViolations (s : Store) (e : Engine) (pair : Policy × Identifier .provider) : ℕ :=
  e.exactViolations pair.1 s.geographies (s.fleet (some pair.2))

section Pairs

variable (hevents : s.events.length < 2 ^ 64) (hne : pair.1.rules ≠ [])
  (hp : pair.1.IsOfKind .count)

include hevents hne hp

/-- The total of a pair is that of the number of its violations. -/
theorem exists_evaluate_pair :
    ∃ t : Tally, e.evaluate pair.1 s.geographies (s.fleet (some pair.2)) = .ok t
      ∧ t.violations = .ofNat (s.exactViolations e pair) :=
  e.exists_evaluate_count hne hp s.geographies
    (lt_of_le_of_lt (List.length_filter_le _ _) hevents)

/-- What is found for a pair has the number of its violations. -/
theorem Finds.toNat_violations {f : Finding} (h : s.Finds e pair f) :
    f.verdict.violations.toNat = s.exactViolations e pair := by
  obtain ⟨t, ht, htotal⟩ := exists_evaluate_pair (e := e) hevents hne hp
  obtain rfl := Except.ok.inj (ht.symm.trans h.verdict)
  exact Total.ofNat_eq_some_iff.mp htotal.symm

/-- A pair without a finding has more violations than a word can tell. -/
theorem Fails.le_exactViolations {fault : BatchFault} (h : s.Fails e pair fault) :
    fault = .taskOverflow ∧ 2 ^ 64 ≤ s.exactViolations e pair := by
  obtain ⟨t, ht, htotal⟩ := exists_evaluate_pair (e := e) hevents hne hp
  cases h with
  | refused hrefused =>
    rw [ht] at hrefused
    exact nomatch hrefused
  | overflow htally hnone =>
    obtain rfl := Except.ok.inj (ht.symm.trans htally)
    exact ⟨rfl, Total.ofNat_eq_none_iff.mp (htotal.symm.trans hnone)⟩

end Pairs

section Batches

variable {pairs : List (Policy × Identifier .provider)}
  (hpairs : ∀ pair ∈ pairs, pair.1.rules ≠ [] ∧ pair.1.IsOfKind .count)
  (hevents : s.events.length < 2 ^ 64) {findings : List Finding}
  (hfound : List.Forall₂ (s.Finds e) pairs findings)

include hpairs hevents hfound

/-- What is found for pairs are the numbers of their violations. -/
theorem forall₂_toNat_violations :
    List.Forall₂ (fun pair f => s.Finds e pair f
      ∧ f.verdict.violations.toNat = s.exactViolations e pair) pairs findings := by
  refine ((List.forall₂_and_left _ _).mpr ⟨hpairs, hfound⟩).imp ?_
  rintro pair f ⟨⟨hne, hp⟩, hfinds⟩
  exact ⟨hfinds, hfinds.toNat_violations hevents hne hp⟩

/-- They add up to the number of all violations. -/
theorem sum_toNat_violations :
    (findings.map (·.verdict.violations.toNat)).sum
      = (pairs.map (s.exactViolations e)).sum := by
  have hnumbers : findings.map (·.verdict.violations.toNat)
      = pairs.map (s.exactViolations e) := by
    rw [← List.forall₂_eq_eq_eq, List.forall₂_map_left_iff, List.forall₂_map_right_iff]
    exact ((forall₂_toNat_violations hpairs hevents hfound).imp (fun _ _ h => h.2)).flip
  rw [hnumbers]

/-- Each of them is that of a word. -/
theorem exactViolations_lt : ∀ pair ∈ pairs, s.exactViolations e pair < 2 ^ 64 := by
  intro pair hpair
  obtain ⟨f, -, -, hnumber⟩ := exists_of_mem_forall₂
    (forall₂_toNat_violations hpairs hevents hfound).flip hpair
  exact hnumber ▸ f.verdict.violations.toNat_lt

end Batches

end Store

/-- **Which totals a batch has.** Every policy of count rules is evaluated, and
the total of its violations for a provider is that of their number. The batch
succeeds exactly if the number of the violations of all pairs is that of a
word, and reports this number; what it hands in has the numbers of the pairs.
Otherwise it hands in nothing: a task breaks off if the number of a single pair
is too large, and the run does if only all of them together are. The events of
the store have to be counted by a word, as those of any store in memory can. -/
theorem Store.totals_exact_iff {σ : Type} (s : Store) (newId : StateM σ (Identifier .snapshot))
    (schedule : Schedule) (config : Config) (now : Instant) (sink : MemorySink) (seed : σ)
    (hcount : ∀ p ∈ selectPolicies s.policies now, p.rules ≠ [] ∧ p.IsOfKind .count)
    (hevents : s.events.length < 2 ^ 64) :
    let e : Engine := ⟨⟨now, config.zone⟩, config.window⟩
    let pairs := s.pairs (selectPolicies s.policies now)
    let total := (pairs.map (s.exactViolations e)).sum
    (∀ pair ∈ pairs, ∃ t : Tally,
        e.evaluate pair.1 s.geographies (s.fleet (some pair.2)) = .ok t
          ∧ t.violations = .ofNat (s.exactViolations e pair))
      ∧ ∃ (result : Except BatchFault Report) (sink' : MemorySink) (seed' : σ),
        ((runOnce { s.adapters newId with schedule } config now).run.run sink).run seed
            = ((result, sink'), seed')
          ∧ ((∃ report, result = .ok report) ↔ total < 2 ^ 64)
          ∧ (∀ report, result = .ok report → report.violations.toNat = total
            ∧ ∃ snapshots : List Snapshot,
              sink'.batches = sink.batches ++ schedule.arrivals config.batchSize snapshots
              ∧ List.Forall₂ (fun pair snapshot => s.Finds e pair snapshot.finding
                  ∧ snapshot.finding.verdict.violations.toNat = s.exactViolations e pair)
                pairs snapshots)
          ∧ (result = .error .taskOverflow ↔ ∃ pair ∈ pairs, 2 ^ 64 ≤ s.exactViolations e pair)
          ∧ (result = .error .overflow
            ↔ 2 ^ 64 ≤ total ∧ ∀ pair ∈ pairs, s.exactViolations e pair < 2 ^ 64)
          ∧ ∀ fault, result = .error fault → sink' = sink := by
  intro e pairs total
  have hpairs : ∀ pair ∈ pairs, pair.1.rules ≠ [] ∧ pair.1.IsOfKind .count :=
    fun pair hpair => hcount pair.1 (mem_pairs_iff.mp hpair).1
  refine ⟨fun pair hpair => exists_evaluate_pair hevents (hpairs pair hpair).1
    (hpairs pair hpair).2, ?_⟩
  obtain ⟨⟨⟨result, sink'⟩, seed'⟩, hrun⟩ :
      ∃ after, ((runOnce { s.adapters newId with schedule } config now).run.run sink).run seed
        = after := ⟨_, rfl⟩
  refine ⟨result, sink', seed', hrun, ?_⟩
  obtain ⟨fault, rfl, rfl, pair, hpair, hfails⟩ | ⟨findings, hfound, hsum, rfl, rfl⟩
      | ⟨snapshots, violations, hfound, -, hsum, rfl, rfl⟩ := Store.cases_of_runOnce hrun
  · -- a task breaks off, and there are at least as many violations in all
    obtain ⟨rfl, hle⟩ := hfails.le_exactViolations hevents (hpairs pair hpair).1
      (hpairs pair hpair).2
    have htotal : 2 ^ 64 ≤ total := hle.trans (List.le_sum_of_mem (List.mem_map_of_mem hpair))
    refine ⟨iff_of_false (fun ⟨_, h⟩ => nomatch h) (Nat.not_lt.mpr htotal),
      (fun _ h => nomatch h), iff_of_true rfl ⟨pair, hpair, hle⟩,
      iff_of_false (fun h => nomatch h) (fun h => ?_), fun _ _ => rfl⟩
    exact absurd (h.2 pair hpair) (Nat.not_lt.mpr hle)
  · -- the run breaks off, although each pair has a finding
    have hlt := exactViolations_lt hpairs hevents hfound
    rw [sum_toNat_violations hpairs hevents hfound] at hsum
    refine ⟨iff_of_false (fun ⟨_, h⟩ => nomatch h) (Nat.not_lt.mpr hsum),
      (fun _ h => nomatch h), iff_of_false (fun h => nomatch h) ?_, iff_of_true rfl ⟨hsum, hlt⟩,
      fun _ _ => rfl⟩
    rintro ⟨pair, hpair, hle⟩
    exact absurd (hlt pair hpair) (Nat.not_lt.mpr hle)
  · have hfindings : List.Forall₂ (s.Finds e) pairs (snapshots.map (·.finding)) :=
      List.forall₂_map_right_iff.mpr hfound
    have hall := sum_toNat_violations hpairs hevents hfindings
    rw [List.map_map] at hall
    have htotal : violations.toNat = total := hsum.trans hall
    have hlt := exactViolations_lt hpairs hevents hfindings
    refine ⟨iff_of_true ⟨_, rfl⟩ (htotal ▸ violations.toNat_lt), fun report hreport => ?_,
      iff_of_false (fun h => nomatch h) ?_, iff_of_false (fun h => nomatch h) (fun h => ?_),
      fun _ h => nomatch h⟩
    · obtain rfl := Except.ok.inj hreport
      exact ⟨htotal, snapshots, rfl, List.forall₂_map_right_iff.mp
        (forall₂_toNat_violations hpairs hevents hfindings)⟩
    · rintro ⟨pair, hpair, hle⟩
      exact absurd (hlt pair hpair) (Nat.not_lt.mpr hle)
    · exact absurd (htotal ▸ violations.toNat_lt) (Nat.not_lt.mpr h.1)

/-! ### Minima that leave the words

The three vehicles and the two rules of before have few violations. A policy
whose rules have the greatest minimum, on the other hand, has more than a word
can tell: for a single provider without vehicles if there are two rules, and
for two providers together if there is one. -/

namespace Sample

/-- The policies of the store have count rules only. -/
theorem isOfKind_store : ∀ p ∈ store.policies, p.rules ≠ [] ∧ p.IsOfKind .count := by
  have hrules : ∀ p ∈ store.policies, p.rules = rules.map .count := by
    intro p hp
    rcases List.mem_cons.mp hp with rfl | hp
    · rfl
    · obtain rfl := List.mem_singleton.mp hp
      rfl
  intro p hp
  refine ⟨?_, Engine.isOfKind_count (hrules p hp)⟩
  rw [hrules p hp]
  exact List.cons_ne_nil _ _

/-- Its pairs have three, four and three violations. -/
theorem sum_exactViolations_store :
    ((store.pairs store.policies).map (store.exactViolations engine)).sum = 10 := by
  have hpairs : store.pairs store.policies
      = [(policy, id 1), (regionalPolicy, id 2), (regionalPolicy, id 1)] := rfl
  have hfull : ∀ p : Policy, p.rules = rules.map .count →
      store.exactViolations engine (p, id 1) = 3 := by
    intro p hp
    rw [Store.exactViolations, engine.exactViolations_count hp,
      show store.fleet (some (id 1)) = fleet from rfl, entrants_eq]
    rfl
  have hempty : store.exactViolations engine (regionalPolicy, id 2) = 4 := by
    have hrules : regionalPolicy.rules = rules.map .count := rfl
    rw [Store.exactViolations, engine.exactViolations_count hrules,
      show store.fleet (some (id 2)) = .empty from rfl, engine.entrants_empty]
    rfl
  rw [hpairs]
  simp only [List.map_cons, List.map_nil, List.sum_cons, List.sum_nil]
  rw [hfull policy rfl, hempty, hfull regionalPolicy rfl]
  rfl

end Sample

/-- The batch on the sample store reports its ten violations. -/
theorem totals_exact_rescued :
    let pairs := Sample.store.pairs Sample.store.policies
    let run := runOnce (m := StateT MemorySink (StateM ℕ))
      { Sample.store.adapters Sample.newId with schedule := Sample.lastFirst } Sample.config
      Sample.engine.clock.now
    (∀ p ∈ Sample.store.policies, p.rules ≠ [] ∧ p.IsOfKind .count)
      ∧ Sample.store.events.length < 2 ^ 64
      ∧ (pairs.map (Sample.store.exactViolations Sample.engine)).sum = 10
      ∧ ∃ report sink seed, (run.run.run .empty).run 0 = ((.ok report, sink), seed)
        ∧ report.violations.toNat = 10 := by
  intro pairs run
  have hevents : Sample.store.events.length < 2 ^ 64 := by decide
  obtain ⟨-, result, sink, seed, hrun, hok, hreport, -⟩ :=
    Sample.store.totals_exact_iff Sample.newId Sample.lastFirst Sample.config
      Sample.engine.clock.now .empty 0 Sample.isOfKind_store hevents
  have hsum : (pairs.map (Sample.store.exactViolations Sample.engine)).sum = 10 :=
    Sample.sum_exactViolations_store
  have hfits : (pairs.map (Sample.store.exactViolations Sample.engine)).sum < 2 ^ 64 := by
    rw [hsum]
    decide
  obtain ⟨report, rfl⟩ := hok.mpr hfits
  exact ⟨Sample.isOfKind_store, hevents, hsum, report, sink, seed, hrun,
    (hreport report rfl).1.trans hsum⟩

namespace Sample

/-- Rules that want as many vehicles as a word can tell. -/
def greatestRules : List CountRule :=
  [⟨⟨id 4, "zone", [], none, none, none, none, none⟩, none, some 18446744073709551615⟩,
    ⟨⟨id 5, "zone", [], none, none, none, none, none⟩, none, some 18446744073709551615⟩]

/-- A policy of some of these rules for two named providers. -/
def greatestPolicy (rules : List CountRule) : Policy :=
  { wantingPolicy with providerIds := some [id 2, id 3], rules := rules.map .count }

/-- The policy of both rules as it stands in a document. -/
def greatestText : List Char :=
  "[\x7b\"policy_id\":".toList ++ idText '3' ++ ",\"name\":\"zone\",\"start_date\":0".toList
    ++ ",\"provider_ids\":[".toList ++ idText '2' ++ ',' :: idText '3'
    ++ "],\"rules\":[\x7b\"rule_type\":\"count\",\"rule_id\":".toList ++ idText '4'
    ++ ",\"name\":\"zone\",\"geographies\":[],\"minimum\":18446744073709551615\x7d".toList
    ++ ",\x7b\"rule_type\":\"count\",\"rule_id\":".toList ++ idText '5'
    ++ ",\"name\":\"zone\",\"geographies\":[],\"minimum\":18446744073709551615\x7d".toList
    ++ "]\x7d]".toList

/-- The document holds the policy. -/
theorem decodeText_greatestText {text : String} (htext : text.toList = greatestText) :
    Policy.decodeText text = .ok [greatestPolicy greatestRules] := by
  unfold Policy.decodeText Json.parseWhole? Json.parse? Json.tokens?
  rw [htext]
  decide +kernel

/-- A store of the policy, in which nobody owns anything. -/
def greatestStore (rules : List CountRule) : Store := .ofLists [] [greatestPolicy rules] [] []

/-- The pairs of the store. -/
theorem pairs_greatestStore (rules : List CountRule) :
    (greatestStore rules).pairs [greatestPolicy rules]
      = [(greatestPolicy rules, id 2), (greatestPolicy rules, id 3)] := rfl

/-- No provider owns anything in the store. -/
theorem fleet_greatestStore (rules : List CountRule) (q : Identifier .provider) :
    (greatestStore rules).fleet (some q) = .empty :=
  Store.fleet_ofLists_nil [] [greatestPolicy rules] q

/-- Its policy is evaluated on nothing. -/
theorem evaluate_greatestPolicy {rules : List CountRule} (hne : rules ≠ [])
    (q : Identifier .provider) :
    engine.evaluate (greatestPolicy rules) [] ((greatestStore rules).fleet (some q))
      = .ok (greedyVerdict ⟨engine.clock, []⟩ rules []) := by
  have hrules : (greatestPolicy rules).rules = rules.map .count := rfl
  rw [engine.evaluate_count hrules hne, fleet_greatestStore, engine.entrants_empty]

/-- Both minima together are no word. -/
theorem violations_greatestRules :
    (greedyVerdict ⟨engine.clock, []⟩ greatestRules []).violations = none := rfl

/-- A provider lacks both minima. -/
theorem exactViolations_greatestRules (q : Identifier .provider) :
    (greatestStore greatestRules).exactViolations engine (greatestPolicy greatestRules, q)
      = 36893488147419103230 := by
  have hrules : (greatestPolicy greatestRules).rules = greatestRules.map .count := rfl
  rw [Store.exactViolations, engine.exactViolations_count hrules, fleet_greatestStore,
    engine.entrants_empty]
  rfl

/-- With both rules the first evaluation breaks off. -/
theorem assess_greatestRules :
    assess engine [greatestPolicy greatestRules] (greatestStore greatestRules).geographies
      ((greatestStore greatestRules).fleetsFor [greatestPolicy greatestRules])
        = .error .taskOverflow := by
  have hfails : (greatestStore greatestRules).Fails engine (greatestPolicy greatestRules, id 2)
      .taskOverflow :=
    .overflow (evaluate_greatestPolicy (List.cons_ne_nil _ _) (id 2)) violations_greatestRules
  rw [Store.assess_fleetsFor, pairs_greatestStore, mapM_eq_error_iff]
  exact ⟨[], _, _, rfl, (fun _ h => nomatch h), Store.findingOf_eq_error_iff.mpr hfails⟩

/-- What is found for a provider with one of the rules. -/
def greatestFinding (q : Identifier .provider) : Finding :=
  ⟨⟨id 3, "zone"⟩, q, ⟨[], 0, 18446744073709551615⟩⟩

/-- One of the rules lacks its minimum. -/
theorem greedyVerdict_greatestRule (q : Identifier .provider) :
    greedyVerdict ⟨engine.clock, []⟩ (greatestRules.take 1) []
      = (greatestFinding q).verdict.tally := by
  show _ = (⟨[], 0, 18446744073709551615⟩ : Verdict UInt64).tally
  rfl

/-- With one of the rules each evaluation has a total. -/
theorem assess_greatestRule :
    let rules := greatestRules.take 1
    assess engine [greatestPolicy rules] (greatestStore rules).geographies
      ((greatestStore rules).fleetsFor [greatestPolicy rules])
        = .ok [greatestFinding (id 2), greatestFinding (id 3)] := by
  intro rules
  have hfinds : ∀ q, (greatestStore rules).Finds engine (greatestPolicy rules, q)
      (greatestFinding q) := fun q =>
    ⟨rfl, rfl, (evaluate_greatestPolicy (List.cons_ne_nil _ _) q).trans
      (congrArg Except.ok (greedyVerdict_greatestRule q))⟩
  rw [Store.assess_eq_ok_iff, pairs_greatestStore]
  exact .cons (hfinds (id 2)) (.cons (hfinds (id 3)) .nil)

/-- The batch on the store of a policy. -/
def greatestRun (rules : List CountRule) :
    ((Except BatchFault Report) × MemorySink) × ℕ :=
  ((runOnce (m := StateT MemorySink (StateM ℕ))
    { (greatestStore rules).adapters newId with schedule := lastFirst } config
    engine.clock.now).run.run .empty).run 0

end Sample

/-- A document of a policy of two count rules is accepted, but none of its
evaluations has a total, and the batch fails for it. With one of the rules each
evaluation has a total, but they have none together, so that the batch breaks
off after all. -/
theorem totals_overflow_greatest :
    Policy.decodeText (String.ofList Sample.greatestText)
        = .ok [Sample.greatestPolicy Sample.greatestRules]
      ∧ (∀ rules, (Sample.greatestPolicy rules).IsOfKind .count)
      ∧ (∀ q, (∃ t : Tally, Sample.engine.evaluate (Sample.greatestPolicy Sample.greatestRules) []
              ((Sample.greatestStore Sample.greatestRules).fleet (some q)) = .ok t
            ∧ t.violations = none)
          ∧ (Sample.greatestStore Sample.greatestRules).exactViolations Sample.engine
              (Sample.greatestPolicy Sample.greatestRules, q) = 36893488147419103230)
      ∧ (Sample.greatestRun Sample.greatestRules).1 = (.error .taskOverflow, .empty)
      ∧ (Sample.greatestRun (Sample.greatestRules.take 1)).1 = (.error .overflow, .empty) := by
  refine ⟨Sample.decodeText_greatestText String.toList_ofList,
    fun rules => Engine.isOfKind_count (rfl : (Sample.greatestPolicy rules).rules = _),
    fun q => ⟨⟨_, Sample.evaluate_greatestPolicy (List.cons_ne_nil _ _) q,
      Sample.violations_greatestRules⟩, Sample.exactViolations_greatestRules q⟩, ?_, ?_⟩
  · have hselected : selectPolicies (Sample.greatestStore Sample.greatestRules).policies
        Sample.engine.clock.now = [Sample.greatestPolicy Sample.greatestRules] := rfl
    have hassess : assess ⟨⟨Sample.engine.clock.now, Sample.config.zone⟩, Sample.config.window⟩
        _ _ _ = _ := Sample.assess_greatestRules
    rw [Sample.greatestRun, Store.run_runOnce, hselected, hassess]
    rfl
  · have hselected : selectPolicies (Sample.greatestStore (Sample.greatestRules.take 1)).policies
        Sample.engine.clock.now = [Sample.greatestPolicy (Sample.greatestRules.take 1)] := rfl
    have hassess : assess ⟨⟨Sample.engine.clock.now, Sample.config.zone⟩, Sample.config.window⟩
        _ _ _ = _ := Sample.assess_greatestRule
    have htotal : totalViolations [Sample.greatestFinding (Sample.id 2),
        Sample.greatestFinding (Sample.id 3)] = none := rfl
    rw [Sample.greatestRun, Store.run_runOnce, hselected, hassess]
    dsimp only
    rw [htotal]
    rfl

end FleetCompliance

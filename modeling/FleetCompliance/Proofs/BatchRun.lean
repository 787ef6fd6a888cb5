import FleetCompliance.Batch.Local
import FleetCompliance.Proofs.CountLedger
import FleetCompliance.Proofs.Pairs
import FleetCompliance.Proofs.Submission

/-!
# What a batch hands in

A batch is a pipeline of many stages, each of which could lose a pair of
policy and provider, repeat it, or mix it up with another one.

For a store it collapses into a single equation (`Store.run_runOnce`): the
run fails with the fault of an evaluation, or it stamps the findings of all
pairs and submits them. In between it adds up the violations, and breaks off
if they leave the words. What arrives is then a snapshot for each pair, which
is what `Store.Delivery` says in full.
-/

namespace FleetCompliance

/-! ## The run -/

/-- Findings at an instant, each with an identifier of its own. -/
def stampAll {m : Type → Type} [Monad m] (newId : m (Identifier .snapshot)) (now : Instant)
    (findings : List Finding) : m (List Snapshot) :=
  findings.mapM fun f => do return ⟨← newId, now, f⟩

section Running

variable {m : Type → Type} [Monad m] [LawfulMonad m]

/-- **A step that succeeds and leaves the state alone** hands its result on
to the rest of the run. -/
theorem run_bind_of_run {ε σ α β : Type} {x : ExceptT ε (StateT σ m) α} {y : m α} {s : σ}
    (hx : x.run.run s = do return (.ok (← y), s)) (k : α → ExceptT ε (StateT σ m) β) :
    (x >>= k).run.run s = y >>= fun a => (k a).run.run s := by
  rw [ExceptT.run_bind, StateT.run_bind, hx, bind_assoc]
  simp only [pure_bind]

/-- A step from below succeeds and leaves the state alone. -/
theorem run_liftM {ε σ α : Type} (y : m α) (s : σ) :
    (liftM y : ExceptT ε (StateT σ m) α).run.run s = do return (.ok (← y), s) := by
  show (Except.ok <$> (StateT.lift y : StateT σ m α)).run s = _
  rw [StateT.run_map, StateT.run_lift, map_bind]
  simp only [map_pure]

variable (newId : m (Identifier .snapshot)) (now : Instant)

/-- Stamping above is stamping below: it neither fails nor changes the state of
what is above. -/
theorem stampAll_liftM {n : Type → Type} [Monad n] [LawfulMonad n] [MonadLiftT m n]
    [LawfulMonadLiftT m n] (findings : List Finding) :
    stampAll (liftM newId : n (Identifier .snapshot)) now findings
      = liftM (stampAll newId now findings) := by
  unfold stampAll
  induction findings with
  | nil =>
    rw [List.mapM_nil, List.mapM_nil, liftM_pure]
  | cons f findings ih =>
    rw [List.mapM_cons, List.mapM_cons, ih]
    simp only [liftM_bind, liftM_pure]

/-- Stamping succeeds and writes nothing into the sink. -/
theorem run_stampAll (findings : List Finding) (sink : MemorySink) :
    (stampAll (m := ExceptT BatchFault (StateT MemorySink m)) newId now findings).run.run sink
      = do return (.ok (← stampAll newId now findings), sink) := by
  rw [stampAll_liftM]
  exact run_liftM _ sink

/-- Where nothing fails no fault is renamed. -/
theorem adapt_pure {ε ε' α : Type} (rename : ε → ε') (x : α) :
    (pure x : ExceptT ε m α).adapt rename = pure x := by
  refine ExceptT.ext ?_
  rw [ExceptT.run_adapt, ExceptT.run_pure, map_pure]
  rfl

/-- A call that only returns does not fail. -/
theorem calling_pure {α : Type} (x : α) :
    calling (pure x : ExceptT CallFault m α) = pure x :=
  adapt_pure BatchFault.ofCall x

/-- Where nothing is submitted no call is made. -/
theorem submitAll_nil (submit : Submitter m) (schedule : Schedule) (size : ℕ) :
    submitAll submit schedule size [] = pure 0 := by
  have hnone : submissionCalls size [] = [] := by
    rw [submissionCalls, chunks]
    rfl
  have hmade : makeCalls submit [] = pure [] := List.mapM_nil
  unfold submitAll
  rw [hnone, (schedule.arrange_perm []).eq_nil]
  dsimp only
  refine ExceptT.ext ?_
  rw [hmade, ExceptT.run_bind_lift, pure_bind]
  rfl

/-- A store as the source of a batch that is handed in anywhere. -/
def Store.adaptersTo {m : Type → Type} [Monad m] (s : Store) (submit : Submitter m)
    (schedule : Schedule) (newId : m (Identifier .snapshot)) : Adapters m where
  policies := return s.policies
  geographies := return s.geographies
  fleets provider := return s.fleet provider
  submit := submit
  schedule := schedule
  newId := newId

/-- **The run of a batch on a store**: it fails with the fault of the first
pair that cannot be evaluated, or it stamps the findings of all pairs and
submits them if their violations have a total. Only in submitting it has
anything to do with the sink. -/
theorem Store.runOnce_adaptersTo (s : Store) (submit : Submitter m) (schedule : Schedule)
    (config : Config) :
    runOnce (s.adaptersTo submit schedule newId) config now
      = match assess ⟨⟨now, config.zone⟩, config.window⟩ (selectPolicies s.policies now)
            s.geographies (s.fleetsFor (selectPolicies s.policies now)) with
        | .error fault => throw fault
        | .ok findings => do
          let snapshots ← stampAll (liftM newId) now findings
          match totalViolations findings with
          | none => throw .overflow
          | some violations =>
            let written ← submitAll submit schedule config.batchSize snapshots
            return ⟨now, (selectPolicies s.policies now).length, written, violations⟩ := by
  unfold runOnce
  simp only [adaptersTo, calling_pure, pure_bind, s.gather_fleet]
  cases hselected : selectPolicies s.policies now with
  | nil =>
    -- nothing is selected, so that nothing is found and nothing is submitted
    rw [if_pos List.isEmpty_nil]
    show _ = (stampAll (liftM newId) now [] >>= _)
    rw [stampAll, List.mapM_nil, pure_bind]
    show _ = (submitAll _ _ _ [] >>= _)
    rw [submitAll_nil, pure_bind]
    rfl
  | cons p selected =>
    rw [if_neg (by simp)]
    rfl

/-- **The run of a batch on a store, into memory**: it fails with the fault of
the first pair that cannot be evaluated and submits nothing, or it breaks off
and submits nothing, or the snapshots of all pairs arrive. -/
theorem Store.run_runOnce (s : Store) (schedule : Schedule) (config : Config)
    (sink : MemorySink) :
    (runOnce { s.adapters newId with schedule } config now).run.run sink
      = match assess ⟨⟨now, config.zone⟩, config.window⟩ (selectPolicies s.policies now)
            s.geographies (s.fleetsFor (selectPolicies s.policies now)) with
        | .error fault => return (.error fault, sink)
        | .ok findings => do
          let snapshots ← stampAll newId now findings
          match totalViolations findings with
          | none => return (.error .overflow, sink)
          | some violations =>
            return (.ok ⟨now, (selectPolicies s.policies now).length, snapshots.length,
                violations⟩,
              ⟨sink.batches ++ schedule.arrivals config.batchSize snapshots⟩) := by
  have hrun := s.runOnce_adaptersTo (m := StateT MemorySink m) newId now
    MemorySink.submitter schedule config
  refine (congrArg (fun x => x.run.run sink) hrun).trans ?_
  cases assess ⟨⟨now, config.zone⟩, config.window⟩ (selectPolicies s.policies now)
    s.geographies (s.fleetsFor (selectPolicies s.policies now)) with
  | error fault => rfl
  | ok findings =>
    refine (run_bind_of_run (run_stampAll newId now findings sink) _).trans ?_
    refine bind_congr (fun snapshots => ?_)
    cases totalViolations findings with
    | none => rfl
    | some violations =>
      -- no chunk is refused, so that nothing fails from here on
      dsimp only
      rw [ExceptT.run_bind, StateT.run_bind, submitAll_memory, pure_bind]
      rfl

end Running

/-! ## What arrives -/

/-- Stamped findings are the findings, and of the instant. -/
theorem stampAll_run {σ : Type} (newId : StateM σ (Identifier .snapshot)) (now : Instant)
    (findings : List Finding) (seed : σ) :
    ((stampAll newId now findings).run seed).1.map (·.finding) = findings
      ∧ ∀ snapshot ∈ ((stampAll newId now findings).run seed).1, snapshot.asOf = now := by
  induction findings generalizing seed with
  | nil => exact ⟨rfl, fun _ h => nomatch h⟩
  | cons f findings ih =>
    obtain ⟨hfindings, hinstant⟩ := ih (newId.run seed).2
    rw [stampAll, List.mapM_cons]
    refine ⟨congrArg (f :: ·) hfindings, fun snapshot hsnapshot => ?_⟩
    rcases List.mem_cons.mp hsnapshot with rfl | hlater
    · rfl
    · exact hinstant snapshot hlater

/-- **The violations of several findings** have the total of the sum of their
numbers. -/
theorem totalViolations_eq_ofNat_sum (findings : List Finding) :
    totalViolations findings
      = .ofNat (findings.map (·.verdict.violations.toNat)).sum := by
  have hfold : totalViolations findings
      = (findings.map (·.verdict.violations)).foldl Total.plus (.ofNat 0) := List.foldl_map.symm
  rw [hfold, Total.foldl_plus, List.map_map, Nat.zero_add]
  rfl

/-- **How a run on a store ends**: with the fault of an evaluation and
nothing handed in, with violations that leave the words and nothing handed in,
or with a snapshot of every finding. -/
theorem Store.cases_of_runOnce {σ : Type} {s : Store} {newId : StateM σ (Identifier .snapshot)}
    {schedule : Schedule} {config : Config} {now : Instant} {sink sink' : MemorySink}
    {seed seed' : σ} {result : Except BatchFault Report}
    (hrun : ((runOnce { s.adapters newId with schedule } config now).run.run sink).run seed
      = ((result, sink'), seed')) :
    (∃ fault, result = .error fault ∧ sink' = sink
        ∧ ∃ pair ∈ s.pairs (selectPolicies s.policies now),
          s.Fails ⟨⟨now, config.zone⟩, config.window⟩ pair fault)
      ∨ (∃ findings,
          List.Forall₂ (s.Finds ⟨⟨now, config.zone⟩, config.window⟩)
            (s.pairs (selectPolicies s.policies now)) findings
          ∧ 2 ^ 64 ≤ (findings.map (·.verdict.violations.toNat)).sum
          ∧ result = .error .overflow ∧ sink' = sink)
      ∨ ∃ (snapshots : List Snapshot) (violations : UInt64),
          List.Forall₂ (fun pair snapshot =>
              s.Finds ⟨⟨now, config.zone⟩, config.window⟩ pair snapshot.finding)
            (s.pairs (selectPolicies s.policies now)) snapshots
          ∧ (∀ snapshot ∈ snapshots, snapshot.asOf = now)
          ∧ violations.toNat = (snapshots.map (·.finding.verdict.violations.toNat)).sum
          ∧ result = .ok ⟨now, (selectPolicies s.policies now).length, snapshots.length,
              violations⟩
          ∧ sink' = ⟨sink.batches ++ schedule.arrivals config.batchSize snapshots⟩ := by
  rw [s.run_runOnce] at hrun
  cases hassess : assess ⟨⟨now, config.zone⟩, config.window⟩ (selectPolicies s.policies now)
      s.geographies (s.fleetsFor (selectPolicies s.policies now)) with
  | error fault =>
    simp only [hassess] at hrun
    obtain ⟨hfault, -⟩ := Prod.mk.inj hrun
    obtain ⟨rfl, rfl⟩ := Prod.mk.inj hfault
    exact Or.inl ⟨fault, rfl, rfl, Store.exists_fault_of_assess hassess⟩
  | ok findings =>
    obtain ⟨⟨snapshots, seed₁⟩, hstamp⟩ :
        ∃ stamped, (stampAll newId now findings).run seed = stamped := ⟨_, rfl⟩
    obtain ⟨hfindings, hdated⟩ := stampAll_run newId now findings seed
    rw [hstamp] at hfindings hdated
    have hpaired := Store.assess_eq_ok_iff.mp hassess
    have hsum := totalViolations_eq_ofNat_sum findings
    cases htotal : totalViolations findings with
    | none =>
      simp only [hassess, StateT.run_bind, hstamp, htotal] at hrun
      obtain ⟨hfault, -⟩ := Prod.mk.inj hrun
      obtain ⟨rfl, rfl⟩ := Prod.mk.inj hfault
      refine Or.inr (Or.inl ⟨findings, hpaired, ?_, rfl, rfl⟩)
      exact Total.ofNat_eq_none_iff.mp (hsum.symm.trans htotal)
    | some violations =>
      simp only [hassess, StateT.run_bind, hstamp, htotal] at hrun
      obtain ⟨hok, -⟩ := Prod.mk.inj hrun
      obtain ⟨rfl, rfl⟩ := Prod.mk.inj hok
      have hexact := Total.ofNat_eq_some_iff.mp (hsum.symm.trans htotal)
      rw [← hfindings, List.map_map] at hexact
      rw [← hfindings, List.forall₂_map_right_iff] at hpaired
      exact Or.inr (Or.inr ⟨snapshots, violations, hpaired, hdated, hexact, rfl, rfl⟩)

/-- The finding of a pair whose policy counts is what the greedy procedure
makes of the provider's part of a store. -/
theorem Store.finds_of_count {s : Store} {e : Engine} {p : Policy} {rules : List CountRule}
    (hp : p.rules = rules.map .count) (hne : rules ≠ []) {q : Identifier .provider}
    {v : Verdict UInt64}
    (hv : greedyVerdict ⟨e.clock, s.geographies⟩ rules (e.prepare (s.fleet (some q))).entrants
      = v.tally) : s.Finds e (p, q) ⟨⟨p.policyId, p.name⟩, q, v⟩ where
  policy := rfl
  provider := rfl
  verdict := (e.evaluate_count hp hne _ _).trans (congrArg Except.ok hv)

/-- **What a batch hands in** on a store at an instant: the snapshots, by
policy and provider, and the chunks of them as they have arrived. -/
structure Store.Delivery (s : Store) (config : Config) (now : Instant) (report : Report)
    (snapshots : List Snapshot) (arrived : List (List Snapshot)) : Prop where
  /-- There is one snapshot for each pair, with the finding of the pair. -/
  paired : List.Forall₂
    (fun pair snapshot => s.Finds ⟨⟨now, config.zone⟩, config.window⟩ pair snapshot.finding)
    (s.pairs (selectPolicies s.policies now)) snapshots
  /-- All of them are of the same instant. -/
  dated : ∀ snapshot ∈ snapshots, snapshot.asOf = now
  /-- A policy is paired with the providers it concerns, once with each. -/
  concerned : ∀ p, (s.audience p).Nodup ∧ ∀ q, q ∈ s.audience p ↔ s.Concerns p q
  /-- Every chunk arrives once, in whatever order. -/
  chunked : arrived.Perm (chunks config.batchSize snapshots)
  /-- Every snapshot arrives once. -/
  complete : arrived.flatten.Perm snapshots
  /-- The report counts what was selected and what has arrived. -/
  reported : report =
    { asOf := now
      policies := (selectPolicies s.policies now).length
      snapshots := (s.pairs (selectPolicies s.policies now)).length
      violations :=
        UInt64.ofNat (arrived.flatten.map (·.finding.verdict.violations.toNat)).sum }
  /-- The violations are added up exactly. -/
  exact : report.violations.toNat
    = (arrived.flatten.map (·.finding.verdict.violations.toNat)).sum

/-- **A batch that succeeds hands in one snapshot for each pair** of a
selected policy and a provider it concerns, whatever the order in which the
chunks take effect and wherever the identifiers come from. A batch on a store
fails only if one of these pairs cannot be evaluated, or if the violations of
all of them are too many for a word, and has then handed in nothing. -/
theorem Store.delivery_of_runOnce {σ : Type} (s : Store)
    (newId : StateM σ (Identifier .snapshot)) (schedule : Schedule) (config : Config)
    (now : Instant) {sink sink' : MemorySink} {seed seed' : σ}
    {result : Except BatchFault Report}
    (hrun : ((runOnce { s.adapters newId with schedule } config now).run.run sink).run seed
      = ((result, sink'), seed')) :
    (∀ report, result = .ok report →
        ∃ snapshots arrived, sink'.batches = sink.batches ++ arrived
          ∧ s.Delivery config now report snapshots arrived)
      ∧ ∀ fault, result = .error fault →
        sink' = sink
          ∧ ((∃ pair ∈ s.pairs (selectPolicies s.policies now),
                s.Fails ⟨⟨now, config.zone⟩, config.window⟩ pair fault)
            ∨ fault = .overflow ∧ ∃ findings,
                List.Forall₂ (s.Finds ⟨⟨now, config.zone⟩, config.window⟩)
                  (s.pairs (selectPolicies s.policies now)) findings
                ∧ 2 ^ 64 ≤ (findings.map (·.verdict.violations.toNat)).sum) := by
  obtain ⟨cause, rfl, rfl, pair, hpair, hcause⟩ | ⟨findings, hpaired, hsum, rfl, rfl⟩
      | ⟨snapshots, violations, hpaired, hdated, hsum, rfl, rfl⟩ := Store.cases_of_runOnce hrun
  · refine ⟨(fun _ h => nomatch h), fun fault hfault => ⟨rfl, Or.inl ⟨pair, hpair, ?_⟩⟩⟩
    rwa [← Except.error.inj hfault]
  · refine ⟨(fun _ h => nomatch h), fun fault hfault => ⟨rfl, Or.inr ⟨?_, findings, hpaired,
      hsum⟩⟩⟩
    exact (Except.error.inj hfault).symm
  · refine ⟨fun report hreport => ?_, fun _ h => nomatch h⟩
    -- the sum of the violations does not depend on the order of arrival
    have hcomplete := schedule.arrivals_flatten_perm config.batchSize snapshots
    refine ⟨snapshots, schedule.arrivals config.batchSize snapshots, rfl, hpaired, hdated,
      fun p => ⟨s.audience_nodup p, fun q => Store.mem_audience_iff⟩,
      schedule.arrivals_perm _ _, hcomplete, ?_, ?_⟩
    · rw [← Except.ok.inj hreport, (hcomplete.map _).sum_nat, ← hsum, UInt64.ofNat_toNat,
        hpaired.length_eq]
    · rw [← Except.ok.inj hreport, (hcomplete.map _).sum_nat, hsum]

/-! ### Two policies and a chunk that is overtaken

The first policy binds the only provider with vehicles, the second one names
it too, together with a provider that owns nothing and that it names twice. -/

namespace Sample

/-- The policy of the same rules for two named providers. -/
def regionalPolicy : Policy :=
  { policy with policyId := id 2, providerIds := some [id 2, id 1, id 2] }

/-- A store of both policies and the three vehicles. -/
def store : Store := ⟨[zone], [policy, regionalPolicy], fleet.devices, fleet.events⟩

/-- Two snapshots are submitted together. -/
def config : Config := ⟨engine.clock.zone, 2, ⟨0, 0, 0⟩, engine.window⟩

/-- The call that is made last takes effect first. -/
def lastFirst : Schedule := ⟨List.reverse, List.reverse_perm⟩

/-- Identifiers are counted. -/
def newId : StateM ℕ (Identifier .snapshot) := fun n => (id n, n + 1)

/-- What the two rules make of a fleet. -/
def tallyOf (f : Fleet) : Tally :=
  greedyVerdict ⟨engine.clock, [zone]⟩ rules (engine.prepare f).entrants

/-- The finding of a policy of the two rules on a fleet, with the number of the
violations. -/
def finding (p : Policy) (provider : Identifier .provider) (f : Fleet) (violations : UInt64) :
    Finding :=
  ⟨⟨p.policyId, p.name⟩, provider, (tallyOf f).vehiclesFound, (tallyOf f).excess, violations⟩

/-- Where there are the three vehicles there are three violations. -/
theorem violations_fleet : (tallyOf fleet).violations = some 3 := by
  rw [tallyOf, entrants_eq]
  rfl

/-- Where no vehicle has reported, there are four. -/
theorem violations_nil (devices : List Device) : (tallyOf ⟨devices, []⟩).violations = some 4 := by
  rw [tallyOf, Engine.entrants_nil]
  rfl

/-- This is found for a policy of the two rules, if it is the provider's
fleet. -/
theorem finds_finding {s : Store} (hzone : s.geographies = [zone]) {p : Policy}
    (hp : p.rules = policy.rules) {q : Identifier .provider} {f : Fleet}
    (hf : s.fleet (some q) = f) {n : UInt64} (hn : (tallyOf f).violations = some n) :
    s.Finds engine (p, q) (finding p q f n) := by
  refine Store.finds_of_count hp (List.cons_ne_nil _ _) ?_
  rw [hzone, hf, Verdict.tally, ← hn]
  rfl

/-- What the three pairs find. -/
def findings : List Finding :=
  [finding policy (id 1) fleet 3, finding regionalPolicy (id 2) .empty 4,
    finding regionalPolicy (id 1) fleet 3]

/-- The pairs of the store are evaluated. -/
theorem assess_store :
    assess engine store.policies store.geographies (store.fleetsFor store.policies)
      = .ok findings := by
  have hpairs : store.pairs store.policies
      = [(policy, id 1), (regionalPolicy, id 2), (regionalPolicy, id 1)] := rfl
  have hrules : regionalPolicy.rules = policy.rules := rfl
  have hfleet : store.fleet (some (id 1)) = fleet := rfl
  have hnone : store.fleet (some (id 2)) = .empty := rfl
  rw [Store.assess_eq_ok_iff, hpairs, findings]
  exact .cons (finds_finding rfl rfl hfleet violations_fleet)
    (.cons (finds_finding rfl hrules hnone (violations_nil []))
      (.cons (finds_finding rfl hrules hfleet violations_fleet) .nil))

/-- Three violations where there are vehicles, and four where there are
none. -/
theorem totalViolations_findings : totalViolations findings = some 10 := rfl

/-- The snapshots of the findings. -/
def snapshots : List Snapshot :=
  [⟨id 0, engine.clock.now, finding policy (id 1) fleet 3⟩,
    ⟨id 1, engine.clock.now, finding regionalPolicy (id 2) .empty 4⟩,
    ⟨id 2, engine.clock.now, finding regionalPolicy (id 1) fleet 3⟩]

/-- The last of three snapshots arrives first. -/
theorem arrivals_three (a b c : Snapshot) :
    lastFirst.arrivals config.batchSize [a, b, c] = [[c], [a, b]] := by
  have hchunks : chunks config.batchSize [a, b, c] = [[a, b], [c]] := by simp [chunks, config]
  rw [Schedule.arrivals, submissionCalls, hchunks]
  rfl

end Sample

/-- The batch hands in three snapshots for two policies, the last of them
first. -/
theorem delivery_overtaken :
    let run := runOnce { Sample.store.adapters Sample.newId with schedule := Sample.lastFirst }
      Sample.config Sample.engine.clock.now
    let report : Report := ⟨Sample.engine.clock.now, 2, 3, 10⟩
    ∃ sink seed, (run.run.run .empty).run 0 = ((.ok report, sink), seed)
      ∧ sink.batchSizes = [1, 2]
      ∧ ∃ snapshots arrived, sink.batches = arrived
          ∧ Sample.store.Delivery Sample.config Sample.engine.clock.now report snapshots
              arrived := by
  intro run report
  have hrun : (run.run.run .empty).run 0
      = ((.ok report, ⟨[Sample.snapshots.drop 2, Sample.snapshots.take 2]⟩), 3) := by
    have hselected : selectPolicies Sample.store.policies Sample.engine.clock.now
        = Sample.store.policies := rfl
    have hassess : assess ⟨⟨Sample.engine.clock.now, Sample.config.zone⟩, Sample.config.window⟩
        Sample.store.policies Sample.store.geographies
        (Sample.store.fleetsFor Sample.store.policies) = .ok Sample.findings :=
      Sample.assess_store
    rw [Sample.store.run_runOnce, hselected, hassess]
    dsimp only
    rw [Sample.totalViolations_findings]
    show ((_, MemorySink.mk ([] ++ Sample.lastFirst.arrivals _ Sample.snapshots)), (3 : ℕ)) = _
    rw [Sample.snapshots, Sample.arrivals_three]
    rfl
  obtain ⟨snapshots, arrived, hbatches, hdelivery⟩ := (Sample.store.delivery_of_runOnce
    Sample.newId Sample.lastFirst Sample.config Sample.engine.clock.now hrun).1 report rfl
  exact ⟨_, _, hrun, rfl, snapshots, arrived, hbatches, hdelivery⟩

end FleetCompliance

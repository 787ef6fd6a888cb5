import FleetCompliance.Proofs.BatchRun

/-!
# Policies of one batch do not influence each other

The policies of a batch share the fetching of fleets, and one policy that
binds all providers is enough for the fleets of all to be fetched at once and
sorted by provider, where the others would have had theirs fetched one by one.
So policies might be evaluated on other fleets for the company they keep.

On a store they are not. The fleet of a pair of policy and provider is the
provider's part of the store in either way, and what comes out for a list of
policies is what comes out for each of them alone, one after the other
(`Store.snapshotsFor_independent`), up to identifiers. This includes failure:
the list fails with the fault of the first policy that fails alone.
-/

namespace FleetCompliance

/-! ## From policies to snapshots -/

section Running

variable {m : Type → Type} [Monad m]

/-- **The snapshots of a list of policies**: fleets are gathered for them,
each is evaluated for each of its providers, and the findings are stamped. -/
def snapshotsFor (fetch : FleetSource m) (newId : m (Identifier .snapshot)) (e : Engine)
    (geographies : List Geography) (policies : List Policy) :
    ExceptT BatchFault m (List Snapshot) := do
  match assess e policies geographies (← calling (gather fetch policies)) with
  | .error fault => throw fault
  | .ok findings => stampAll newId e.clock.now findings

variable [LawfulMonad m]

/-- What is done with stamped findings may look at the findings of the
snapshots as well. -/
theorem stampAll_bind {β : Type} (newId : m (Identifier .snapshot)) (now : Instant)
    (findings : List Finding) (k : List Finding → List Snapshot → m β) :
    (stampAll newId now findings >>= fun snapshots => k (snapshots.map (·.finding)) snapshots)
      = stampAll newId now findings >>= k findings := by
  unfold stampAll
  induction findings generalizing k with
  | nil =>
    rw [List.mapM_nil, pure_bind, pure_bind]
    rfl
  | cons f findings ih =>
    simp only [List.mapM_cons, bind_assoc, pure_bind]
    refine bind_congr (fun i => ?_)
    exact ih (fun fs snapshots => k (f :: fs) (⟨i, now, f⟩ :: snapshots))

/-- **A run computes the snapshots of the selected policies**, and submits
them if their violations have a total. -/
theorem runOnce_eq_snapshotsFor (a : Adapters m) (config : Config) (now : Instant) :
    runOnce a config now = do
      let policies := selectPolicies (← calling a.policies) now
      if policies.isEmpty then return ⟨now, 0, 0, 0⟩
      let geographies ← calling a.geographies
      let snapshots ← snapshotsFor a.fleets a.newId ⟨⟨now, config.zone⟩, config.window⟩
        geographies policies
      match totalViolations (snapshots.map (·.finding)) with
      | none => throw .overflow
      | some violations =>
        let written ← submitAll a.submit a.schedule config.batchSize snapshots
        return ⟨now, policies.length, written, violations⟩ := by
  unfold runOnce snapshotsFor
  refine bind_congr (fun policies => ?_)
  dsimp only
  split
  · rfl
  · refine bind_congr (fun geographies => ?_)
    simp only [bind_assoc]
    refine bind_congr (fun fleets => ?_)
    cases assess ⟨⟨now, config.zone⟩, config.window⟩ (selectPolicies policies now) geographies
      fleets with
    | error fault =>
      dsimp only
      refine ExceptT.ext ?_
      rw [ExceptT.run_bind, ExceptT.run_throw, ExceptT.run_throw, pure_bind]
    | ok findings =>
      exact (stampAll_bind (liftM a.newId) now findings fun fs snapshots =>
        match totalViolations fs with
        | none => throw BatchFault.overflow
        | some violations => do
          let written ← submitAll a.submit a.schedule config.batchSize snapshots
          return Report.mk now (selectPolicies policies now).length written violations).symm

end Running

/-! ## What is left without identifiers -/

/-- What a snapshot says, its identifier apart. -/
def Snapshot.content (s : Snapshot) : Instant × Finding := (s.asOf, s.finding)

/-- What snapshots say, or why there are none. -/
def contents (result : Except BatchFault (List Snapshot)) :
    Except BatchFault (List (Instant × Finding)) :=
  result.map (·.map Snapshot.content)

/-- What findings say at an instant, or why there are none. -/
def datedFindings (now : Instant) (result : Except BatchFault (List Finding)) :
    Except BatchFault (List (Instant × Finding)) :=
  result.map (·.map fun f => (now, f))

/-- Findings that stand one after the other are dated one after the other. -/
theorem datedFindings_append (now : Instant) (x y : Except BatchFault (List Finding)) :
    datedFindings now (do return (← x) ++ (← y))
      = do return (← datedFindings now x) ++ (← datedFindings now y) := by
  cases x with
  | error fault => rfl
  | ok first =>
    cases y with
    | error fault => rfl
    | ok others => exact congrArg Except.ok List.map_append

/-- Stamped findings say what the findings say. -/
theorem content_stampAll {σ : Type} (newId : StateM σ (Identifier .snapshot)) (now : Instant)
    (findings : List Finding) (seed : σ) :
    ((stampAll newId now findings).run seed).1.map Snapshot.content
      = findings.map fun f => (now, f) := by
  obtain ⟨hfindings, hdated⟩ := stampAll_run newId now findings seed
  calc ((stampAll newId now findings).run seed).1.map Snapshot.content
      = ((stampAll newId now findings).run seed).1.map fun s => (now, s.finding) :=
        List.map_congr_left (fun s hs => congrArg (·, s.finding) (hdated s hs))
    _ = (((stampAll newId now findings).run seed).1.map (·.finding)).map fun f => (now, f) :=
        (List.map_map ..).symm
    _ = findings.map fun f => (now, f) := by rw [hfindings]

namespace Store

/-- A store as a source of fleets, which never fails. -/
def source {m : Type → Type} [Monad m] (s : Store) : FleetSource m := fun q => pure (s.fleet q)

variable (s : Store) (e : Engine) (geographies : List Geography)

/-- The snapshots of policies on a store say what is found for them. -/
theorem contents_snapshotsFor {σ : Type} (newId : StateM σ (Identifier .snapshot))
    (policies : List Policy) (seed : σ) :
    contents ((snapshotsFor s.source newId e geographies policies).run.run seed).1
      = datedFindings e.clock.now (assess e policies geographies (s.fleetsFor policies)) := by
  unfold snapshotsFor source
  rw [s.gather_fleet, calling_pure, pure_bind]
  cases assess e policies geographies (s.fleetsFor policies) with
  | error fault => rfl
  | ok findings =>
    dsimp only
    rw [stampAll_liftM]
    exact congrArg Except.ok (content_stampAll newId e.clock.now findings seed)

/-- The geographies of a store have no part in gathering one by one. -/
theorem fleetsOfEach_with_geographies (ps : List (Identifier .provider)) :
    fleetsOfEach { s with geographies } ps = s.fleetsOfEach ps := by
  induction ps with
  | nil => rfl
  | cons q ps ih =>
    rw [fleetsOfEach, fleetsOfEach, ih]
    rfl

/-- The geographies of a store have no part in gathering. -/
theorem fleetsFor_with_geographies (policies : List Policy) :
    fleetsFor { s with geographies } policies = s.fleetsFor policies := by
  rw [fleetsFor, fleetsFor, fleetsOfEach_with_geographies]
  rfl

/-- Policies are evaluated pair by pair, whatever the geographies. -/
theorem assess_fleetsFor_geographies (policies : List Policy) :
    assess e policies geographies (s.fleetsFor policies)
      = (s.pairs policies).mapM (findingOf { s with geographies } e) := by
  rw [← s.fleetsFor_with_geographies geographies]
  exact assess_fleetsFor { s with geographies } e policies

/-- The findings of policies are those of the first and then those of the
others. -/
theorem assess_cons (p : Policy) (policies : List Policy) :
    assess e (p :: policies) geographies (s.fleetsFor (p :: policies)) = do
      let first ← assess e [p] geographies (s.fleetsFor [p])
      let others ← assess e policies geographies (s.fleetsFor policies)
      return first ++ others := by
  have hcons : s.pairs (p :: policies) = s.pairs [p] ++ s.pairs policies := by
    unfold pairs
    rw [List.flatMap_singleton, List.flatMap_cons]
  rw [s.assess_fleetsFor_geographies, s.assess_fleetsFor_geographies,
    s.assess_fleetsFor_geographies, hcons, List.mapM_append]

/-- What is found for policies is what is found for each alone, or the first
fault. -/
theorem datedFindings_assess (now : Instant) (policies : List Policy) :
    datedFindings now (assess e policies geographies (s.fleetsFor policies))
      = (policies.mapM fun p =>
          datedFindings now (assess e [p] geographies (s.fleetsFor [p]))).map List.flatten := by
  refine eq_mapM_flatten_of_cons
    (f := fun ps => datedFindings now (assess e ps geographies (s.fleetsFor ps))) rfl ?_ policies
  intro p policies
  rw [s.assess_cons, datedFindings_append]

/-- **A policy has the same findings in company as alone**, although the
fleets in the two tables may have been fetched in different ways. -/
theorem assess_in_company {policies : List Policy} {p : Policy} (hp : p ∈ policies) :
    assess e [p] geographies (s.fleetsFor policies)
      = assess e [p] geographies (s.fleetsFor [p]) := by
  have hpairs : ∀ {ps}, p ∈ ps → pairsOf [p] (s.fleetsFor ps) = s.pairs [p] := by
    intro ps hps
    rw [pairsOf, pairs, List.flatMap_singleton, List.flatMap_singleton,
      s.providersFor_fleetsFor hps]
  unfold assess
  rw [hpairs hp, hpairs List.mem_cons_self]
  refine mapM_congr_mem (fun pair hpair => ?_)
  obtain ⟨hself, hq⟩ := mem_pairs_iff.mp hpair
  rw [List.mem_singleton.mp hself] at hq ⊢
  unfold findingFor
  rw [s.fleetOf_fleetsFor hp hq, s.fleetOf_fleetsFor List.mem_cons_self hq]

/-- **The policies of a batch do not influence each other.** The snapshots of
a list of policies on a store say what those of each policy alone say, one
after the other, wherever the identifiers come from and whatever state the
runs begin in; and if a policy fails alone, the list fails with the fault of
the first one that does. Fleets are fetched for the list in one way and for a
single policy perhaps in another, but the policy is evaluated to the same
effect on either table. -/
theorem snapshotsFor_independent {σ : Type} (newId : StateM σ (Identifier .snapshot))
    (policies : List Policy) (seed : σ) (seeds : Policy → σ) :
    contents ((snapshotsFor s.source newId e geographies policies).run.run seed).1
        = (policies.mapM fun p =>
            contents ((snapshotsFor s.source newId e geographies [p]).run.run
              (seeds p)).1).map List.flatten
      ∧ ∀ p ∈ policies,
          gather (m := StateM σ) s.source policies = pure (s.fleetsFor policies)
            ∧ gather (m := StateM σ) s.source [p] = pure (s.fleetsFor [p])
            ∧ assess e [p] geographies (s.fleetsFor policies)
                = assess e [p] geographies (s.fleetsFor [p]) := by
  refine ⟨?_, fun p hp => ⟨s.gather_fleet policies, s.gather_fleet [p],
    s.assess_in_company e geographies hp⟩⟩
  rw [contents_snapshotsFor, datedFindings_assess]
  simp only [contents_snapshotsFor]

end Store

/-! ### A policy for two providers in company

A provider is added to the sample store of whom only the first policy has
anything to do with, as it binds all. Its company makes the second policy
have the fleets of all fetched, where alone it has those of its two providers
fetched one by one, and one of them owns nothing. -/

namespace Sample

/-- The sample store with a device of a third provider. -/
def sharedStore : Store := { store with devices := store.devices ++ [⟨id 9, id 3, .scooter⟩] }

/-- What the third provider owns. -/
def idleFleet : Fleet := ⟨[⟨id 9, id 3, .scooter⟩], []⟩

/-- What the four pairs find. -/
def sharedFindings : List Finding :=
  [finding policy (id 1) fleet 3, finding policy (id 3) idleFleet 4,
    finding regionalPolicy (id 2) .empty 4, finding regionalPolicy (id 1) fleet 3]

/-- The pairs of the store are evaluated. -/
theorem assess_sharedStore :
    assess engine sharedStore.policies [zone] (sharedStore.fleetsFor sharedStore.policies)
      = .ok sharedFindings := by
  have hpairs : sharedStore.pairs sharedStore.policies
      = [(policy, id 1), (policy, id 3), (regionalPolicy, id 2), (regionalPolicy, id 1)] := rfl
  have hrules : regionalPolicy.rules = policy.rules := rfl
  have hfleet : sharedStore.fleet (some (id 1)) = fleet := rfl
  have hidle : sharedStore.fleet (some (id 3)) = idleFleet := rfl
  have hnone : sharedStore.fleet (some (id 2)) = .empty := rfl
  rw [show [zone] = sharedStore.geographies from rfl, Store.assess_eq_ok_iff, hpairs,
    sharedFindings]
  exact .cons (finds_finding rfl rfl hfleet violations_fleet)
    (.cons (finds_finding rfl rfl hidle (violations_nil _))
      (.cons (finds_finding rfl hrules hnone (violations_nil []))
        (.cons (finds_finding rfl hrules hfleet violations_fleet) .nil)))

end Sample

/-- The two policies find alone what they find together, though the tables of
fleets differ. -/
theorem snapshotsFor_independent_regional :
    Sample.regionalPolicy ∈ Sample.sharedStore.policies
      ∧ (Sample.sharedStore.policies.mapM fun p =>
          contents ((snapshotsFor Sample.sharedStore.source Sample.newId Sample.engine
            [Sample.zone] [p]).run.run 7).1).map List.flatten
          = .ok (Sample.sharedFindings.map fun f => (Sample.engine.clock.now, f))
      ∧ (Sample.sharedStore.fleetsFor Sample.sharedStore.policies).map (·.1)
          = [Sample.id 1, Sample.id 3]
      ∧ (Sample.sharedStore.fleetsFor [Sample.regionalPolicy]).map (·.1) = [Sample.id 1]
      ∧ assess Sample.engine [Sample.regionalPolicy] [Sample.zone]
            (Sample.sharedStore.fleetsFor Sample.sharedStore.policies)
          = assess Sample.engine [Sample.regionalPolicy] [Sample.zone]
              (Sample.sharedStore.fleetsFor [Sample.regionalPolicy]) := by
  have hmem : Sample.regionalPolicy ∈ Sample.sharedStore.policies :=
    List.mem_cons_of_mem _ List.mem_cons_self
  obtain ⟨halone, htables⟩ := Sample.sharedStore.snapshotsFor_independent Sample.engine
    [Sample.zone] Sample.newId Sample.sharedStore.policies 0 (fun _ => 7)
  rw [Store.contents_snapshotsFor, Sample.assess_sharedStore] at halone
  exact ⟨hmem, halone.symm, rfl, rfl, (htables _ hmem).2.2⟩

end FleetCompliance

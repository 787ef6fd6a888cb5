import FleetCompliance.Proofs.Independence
import FleetCompliance.Proofs.Supervision

/-!
# Evaluation fails as a whole

Whether a policy can be evaluated is a matter of its rules, but it comes out
only where the policy is evaluated for some provider, and each evaluation of a
batch is a task of its own. The tasks end in any order, and several of them
may fail. What is reported is still the fault of one policy, the first one
selected that is unfit and has a provider (`Store.first_unfit_of_assess`): the
tasks are waited for in the order in which they were begun
(`awaitEach_of_perm`), and nothing is handed in before all of them have
succeeded.

A task may also break off, if the violations that it counts leave the words.
If it is waited for before the tasks of an unfit policy, then the batch fails
for that and not for the policy; so there is an unfit policy if there is a
fault of evaluation, but the converse is about batches of which no evaluation
breaks off (`Store.Unbroken`).

Such a fault comes back whenever the batch is tried again, so that a
supervised batch ends with it (`Store.engine_fault_of_runOnce`).
-/

namespace FleetCompliance

/-! ## Waiting for tasks -/

/-- **Waits for tasks one by one**, in the order of the given places. What has
become of the tasks is listed in the order in which they ended, each with its
place. The first fault ends the waiting; a task that never ends leaves it
without a result. -/
def awaitEach {ε α : Type} (ended : List (Except ε α × ℕ)) :
    List ℕ → Option (Except ε (List α))
  | [] => some (.ok [])
  | place :: places =>
    match ended.find? (·.2 = place) with
    | none => none
    | some (.error fault, _) => some (.error fault)
    | some (.ok x, _) => (awaitEach ended places).map (·.map (x :: ·))

/-- Waiting for tasks that have ended collects their results, or the fault of
the first of them that has one. -/
theorem awaitEach_eq {ε α : Type} {ended : List (Except ε α × ℕ)} {places : List ℕ}
    {results : List (Except ε α)}
    (h : List.Forall₂ (fun place r => ended.find? (·.2 = place) = some (r, place)) places
      results) :
    awaitEach ended places = some (results.mapM id) := by
  induction h with
  | nil => rfl
  | @cons place r places results hr _ ih =>
    rw [awaitEach, hr, List.mapM_cons]
    cases r with
    | error fault => rfl
    | ok x =>
      dsimp only
      rw [ih]
      cases results.mapM id <;> rfl

/-- **Waiting for tasks in the order in which they were begun** does not depend
on the order in which they end. -/
theorem awaitEach_of_perm {ε α : Type} {ended : List (Except ε α × ℕ)}
    {results : List (Except ε α)} (h : ended.Perm results.zipIdx) :
    awaitEach ended (List.range results.length) = some (results.mapM id) := by
  have hplaces : (results.zipIdx.map (·.2)).Nodup := by
    rw [List.zipIdx_map_snd]
    exact List.nodup_range'
  have hfound : ∀ r ∈ results.zipIdx, ended.find? (·.2 = r.2) = some r := by
    intro r hr
    rw [find?_key_eq_some_iff (·.2) ((h.map _).nodup_iff.mpr hplaces)]
    exact ⟨h.symm.subset hr, rfl⟩
  refine awaitEach_eq ?_
  have hboth : List.Forall₂ (fun place r => ended.find? (·.2 = place) = some (r, place))
      (results.zipIdx.map (·.2)) (results.zipIdx.map (·.1)) := by
    rw [List.forall₂_map_left_iff, List.forall₂_map_right_iff, List.forall₂_same]
    exact hfound
  rwa [List.zipIdx_map_fst, List.zipIdx_map_snd, ← List.range_eq_range'] at hboth

namespace Store

variable (s : Store) (e : Engine)

/-- **What becomes of the tasks of a batch**, in the order in which they are
begun. -/
def taskResults (policies : List Policy) : List (Except BatchFault Finding) :=
  (pairsOf policies (s.fleetsFor policies)).map fun pair =>
    findingFor e s.geographies (s.fleetsFor policies) pair.1 pair.2

/-- **The assessment of policies is what waiting for the tasks gives**, in
whatever order they end. -/
theorem awaitEach_taskResults {policies : List Policy}
    {ended : List (Except BatchFault Finding × ℕ)}
    (h : ended.Perm (s.taskResults e policies).zipIdx) :
    awaitEach ended (List.range (s.taskResults e policies).length)
      = some (assess e policies s.geographies (s.fleetsFor policies)) := by
  rw [awaitEach_of_perm h, taskResults, List.mapM_map]
  rfl

/-! ## Which batches cannot be assessed -/

/-- Whether a policy is evaluated for any provider: it names some, or it
binds all and there are some. -/
def Evaluates (p : Policy) : Prop :=
  p.restriction.isSome = true ∨ s.devices ≠ [] ∨ s.events ≠ []

/-- A restriction names a provider. -/
theorem exists_mem_of_restriction {p : Policy} {named : List (Identifier .provider)}
    (h : p.restriction = some named) : ∃ q, q ∈ named := by
  unfold Policy.restriction at h
  split at h
  · obtain rfl := Option.some.inj h
    exact ⟨_, List.mem_cons_self⟩
  · exact nomatch h

/-- A policy is evaluated if it concerns a provider. -/
theorem evaluates_iff {s : Store} {p : Policy} : s.Evaluates p ↔ s.audience p ≠ [] := by
  have hconcerns : s.audience p ≠ [] ↔ ∃ q, s.Concerns p q := by
    simp only [← mem_audience_iff]
    exact ⟨List.exists_mem_of_ne_nil _, fun ⟨_, hq⟩ => List.ne_nil_of_mem hq⟩
  rw [hconcerns]
  unfold Evaluates Concerns
  cases hnamed : p.restriction with
  | some named => exact iff_of_true (Or.inl rfl) (exists_mem_of_restriction hnamed)
  | none =>
    constructor
    · rintro (h | h | h)
      · exact nomatch h
      · obtain ⟨d, hd⟩ := List.exists_mem_of_ne_nil _ h
        exact ⟨d.providerId, Or.inl ⟨d, hd, rfl⟩⟩
      · obtain ⟨x, hx⟩ := List.exists_mem_of_ne_nil _ h
        exact ⟨x.providerId, Or.inr ⟨x, hx, rfl⟩⟩
    · rintro ⟨q, ⟨d, hd, -⟩ | ⟨x, hx, -⟩⟩
      · exact Or.inr (Or.inl (List.ne_nil_of_mem hd))
      · exact Or.inr (Or.inr (List.ne_nil_of_mem hx))

/-- Policies are assessed one after the other. -/
theorem assess_eq_mapM (policies : List Policy) :
    assess e policies s.geographies (s.fleetsFor policies)
      = (policies.mapM fun p => assess e [p] s.geographies (s.fleetsFor [p])).map
          List.flatten :=
  eq_mapM_flatten_of_cons (f := fun ps => assess e ps s.geographies (s.fleetsFor ps)) rfl
    (s.assess_cons e s.geographies) policies

/-- **No evaluation breaks off**: wherever a policy can be evaluated for a
provider that it concerns, the violations have a total. -/
def Unbroken (policies : List Policy) : Prop :=
  ∀ pair ∈ s.pairs policies, ∀ t,
    e.evaluate pair.1 s.geographies (s.fleet (some pair.2)) = .ok t → t.violations ≠ none

variable {s e}

/-- The policies of a batch that does not break off do not break off alone. -/
theorem Unbroken.of_mem {policies : List Policy} (h : s.Unbroken e policies) {p : Policy}
    (hp : p ∈ policies) : s.Unbroken e [p] := by
  intro pair hpair
  obtain ⟨hself, hq⟩ := mem_pairs_iff.mp hpair
  exact h pair (mem_pairs_iff.mpr ⟨List.mem_singleton.mp hself ▸ hp, hq⟩)

/-- The pairs of one policy are refused together, if there is a pair at all. -/
theorem assess_singleton_eq_engine_iff {p : Policy} {fault : EngineFault} :
    assess e [p] s.geographies (s.fleetsFor [p]) = .error (.engine fault)
      ↔ s.Evaluates p ∧ p.Refused fault := by
  have hpairs : s.pairs [p] = (s.audience p).map fun q => (p, q) := List.flatMap_singleton _ _
  rw [assess_fleetsFor, mapM_eq_error_iff, hpairs, evaluates_iff]
  simp only [findingOf_eq_error_iff, fails_engine_iff, Engine.evaluate_eq_error_iff]
  constructor
  · rintro ⟨before, pair, after, hsplit, -, hrefused⟩
    have hpair : pair ∈ (s.audience p).map fun q => (p, q) := by
      rw [hsplit]
      exact List.mem_append_right _ List.mem_cons_self
    obtain ⟨q, hq, rfl⟩ := List.mem_map.mp hpair
    exact ⟨List.ne_nil_of_mem hq, hrefused⟩
  · rintro ⟨hne, hrefused⟩
    obtain ⟨q, others, hcons⟩ := List.exists_cons_of_ne_nil hne
    rw [hcons]
    exact ⟨[], (p, q), _, rfl, (fun _ h => nomatch h), hrefused⟩

/-- A policy that can be assessed is not one that is evaluated and unfit. -/
theorem not_unfit_of_assess {p : Policy} {found : List Finding}
    (h : assess e [p] s.geographies (s.fleetsFor [p]) = .ok found) :
    ¬ (s.Evaluates p ∧ p.Unfit) := by
  rintro ⟨hevaluates, hunfit⟩
  obtain ⟨fault, hrefused⟩ := Policy.exists_refused_iff.mpr hunfit
  rw [assess_singleton_eq_engine_iff.mpr ⟨hevaluates, hrefused⟩] at h
  exact nomatch h

/-- Any other policy can be assessed, unless an evaluation breaks off. -/
theorem Unbroken.exists_assess {p : Policy} (h : s.Unbroken e [p])
    (hfit : ¬ (s.Evaluates p ∧ p.Unfit)) :
    ∃ found, assess e [p] s.geographies (s.fleetsFor [p]) = .ok found := by
  cases hassess : assess e [p] s.geographies (s.fleetsFor [p]) with
  | ok found => exact ⟨found, rfl⟩
  | error fault =>
    obtain ⟨pair, hpair, hfails⟩ := exists_fault_of_assess hassess
    cases hfails with
    | refused _ =>
      obtain ⟨hevaluates, hrefused⟩ := assess_singleton_eq_engine_iff.mp hassess
      exact absurd ⟨hevaluates, Policy.exists_refused_iff.mp ⟨_, hrefused⟩⟩ hfit
    | overflow htally hnone => exact absurd hnone (h pair hpair _ htally)

/-- **A batch has the fault of a policy** that is refused, if the policies
before it can be assessed. -/
theorem assess_eq_engine_iff {policies : List Policy} {fault : EngineFault} :
    assess e policies s.geographies (s.fleetsFor policies) = .error (.engine fault)
      ↔ ∃ before p after, policies = before ++ p :: after
          ∧ (∀ b ∈ before, ∃ found, assess e [b] s.geographies (s.fleetsFor [b]) = .ok found)
          ∧ s.Evaluates p ∧ p.Refused fault := by
  have hgroups : assess e policies s.geographies (s.fleetsFor policies) = .error (.engine fault)
      ↔ (policies.mapM fun p => assess e [p] s.geographies (s.fleetsFor [p]))
          = .error (.engine fault) := by
    rw [assess_eq_mapM]
    cases policies.mapM fun p => assess e [p] s.geographies (s.fleetsFor [p]) with
    | error cause => simp [Except.map]
    | ok groups => exact Iff.intro (fun h => nomatch h) (fun h => nomatch h)
  rw [hgroups, mapM_eq_error_iff]
  simp only [assess_singleton_eq_engine_iff]

/-- **The fault of a batch is that of the first policy** that is evaluated and
unfit. -/
theorem first_unfit_of_assess {policies : List Policy} {fault : EngineFault}
    (h : assess e policies s.geographies (s.fleetsFor policies) = .error (.engine fault)) :
    ∃ before p after, policies = before ++ p :: after
      ∧ (∀ b ∈ before, ¬ (s.Evaluates b ∧ b.Unfit)) ∧ s.Evaluates p ∧ p.Refused fault := by
  obtain ⟨before, p, after, hsplit, hbefore, hp⟩ := assess_eq_engine_iff.mp h
  refine ⟨before, p, after, hsplit, fun b hb => ?_, hp⟩
  obtain ⟨_, hfound⟩ := hbefore b hb
  exact not_unfit_of_assess hfound

/-- **A batch cannot be assessed** if some policy that is evaluated is unfit,
unless an evaluation breaks off. -/
theorem Unbroken.exists_assess_eq_engine_iff {policies : List Policy}
    (h : s.Unbroken e policies) :
    (∃ fault, assess e policies s.geographies (s.fleetsFor policies) = .error (.engine fault))
      ↔ ∃ p ∈ policies, s.Evaluates p ∧ p.Unfit := by
  classical
  constructor
  · rintro ⟨fault, hassess⟩
    obtain ⟨before, p, after, rfl, -, hevaluates, hrefused⟩ := first_unfit_of_assess hassess
    exact ⟨p, List.mem_append_right _ List.mem_cons_self, hevaluates,
      Policy.exists_refused_iff.mp ⟨fault, hrefused⟩⟩
  · rintro ⟨p, hp, hunfit⟩
    -- of the unfit policies that are evaluated take the first one
    obtain ⟨first, hfound⟩ := Option.isSome_iff_exists.mp
      ((List.find?_isSome (p := fun b => s.Evaluates b ∧ b.Unfit)).mpr
        ⟨p, hp, decide_eq_true hunfit⟩)
    obtain ⟨hfirst, before, after, rfl, hbefore⟩ := List.find?_eq_some_iff_append.mp hfound
    obtain ⟨hevaluates, hunfit⟩ := of_decide_eq_true hfirst
    obtain ⟨fault, hrefused⟩ := Policy.exists_refused_iff.mpr hunfit
    refine ⟨fault, assess_eq_engine_iff.mpr
      ⟨before, first, after, rfl, fun b hb => ?_, hevaluates, hrefused⟩⟩
    have hother := hbefore b hb
    rw [Bool.not_eq_true'] at hother
    exact (h.of_mem (List.mem_append_left _ hb)).exists_assess (of_decide_eq_false hother)

end Store

/-! ## Which batches end with a fault of evaluation -/

section Running

variable {σ α β : Type}

/-- **A step that has no fault of evaluation**, whatever else may go wrong in
it. -/
def EngineFaultFree (x : ExceptT BatchFault (StateM σ) α) : Prop :=
  ∀ fault st, (x.run.run st).1 ≠ .error (.engine fault)

namespace EngineFaultFree

/-- A step that only returns has no fault. -/
theorem pure (a : α) : EngineFaultFree (pure a : ExceptT BatchFault (StateM σ) α) :=
  fun _ _ h => nomatch h

/-- A total that is lost is no fault of evaluation. -/
theorem overflow : EngineFaultFree (throw .overflow : ExceptT BatchFault (StateM σ) α) :=
  fun _ _ h => nomatch h

/-- A step from below has no fault. -/
theorem lift (x : StateM σ α) : EngineFaultFree (ExceptT.lift x : ExceptT BatchFault _ α) :=
  fun _ _ h => nomatch h

/-- Of two steps in turn one has the fault. -/
theorem bind {x : ExceptT BatchFault (StateM σ) α} {f : α → ExceptT BatchFault (StateM σ) β}
    (hx : EngineFaultFree x) (hf : ∀ a, EngineFaultFree (f a)) : EngineFaultFree (x >>= f) := by
  intro fault st
  have hfirst := hx fault st
  rw [ExceptT.run_bind, StateT.run_bind]
  cases hrun : x.run.run st with
  | mk result st₁ =>
    rw [hrun] at hfirst
    cases result with
    | ok a => exact hf a fault st₁
    | error cause => exact fun h => hfirst (congrArg Except.error (Except.error.inj h))

end EngineFaultFree

variable (submit : Submitter (StateM σ)) (schedule : Schedule)

/-- A failed submission is no fault of evaluation. -/
theorem engineFaultFree_submitAll (size : ℕ) (snapshots : List Snapshot) :
    EngineFaultFree (submitAll submit schedule size snapshots) := by
  refine .bind (.lift _) (fun outcomes => ?_)
  cases firstFailure? outcomes with
  | none => exact .pure _
  | some failure =>
    obtain ⟨cause, _⟩ := failure
    cases cause with
    | failed cause => exact fun _ _ h => nomatch h
    | brokeOff reason => exact fun _ _ h => nomatch h

variable (newId : StateM σ (Identifier .snapshot)) (now : Instant)

/-- **A run has a fault of evaluation** if its policies cannot be assessed for
it. -/
theorem Store.run_runOnce_eq_engine_iff (s : Store) (config : Config) (st : σ)
    {fault : EngineFault} :
    ((runOnce (s.adaptersTo submit schedule newId) config now).run.run st).1
        = .error (.engine fault)
      ↔ assess ⟨⟨now, config.zone⟩, config.window⟩ (selectPolicies s.policies now) s.geographies
          (s.fleetsFor (selectPolicies s.policies now)) = .error (.engine fault) := by
  rw [s.runOnce_adaptersTo]
  cases assess ⟨⟨now, config.zone⟩, config.window⟩ (selectPolicies s.policies now) s.geographies
    (s.fleetsFor (selectPolicies s.policies now)) with
  | error cause =>
    show Except.error cause = _ ↔ _
    simp
  | ok findings =>
    -- what follows the assessment has faults of the sink only
    refine iff_of_false ?_ (fun h => nomatch h)
    dsimp only
    rw [stampAll_liftM]
    refine EngineFaultFree.bind (.lift _) (fun snapshots => ?_) fault st
    cases totalViolations findings with
    | none => exact .overflow
    | some violations =>
      exact .bind (engineFaultFree_submitAll submit schedule _ snapshots) (fun _ => .pure _)

/-- A run with a fault of evaluation does nothing else: no call is made, and no
identifier is given. -/
theorem Store.runOnce_eq_throw (s : Store) (config : Config) {fault : EngineFault}
    (h : assess ⟨⟨now, config.zone⟩, config.window⟩ (selectPolicies s.policies now) s.geographies
      (s.fleetsFor (selectPolicies s.policies now)) = .error (.engine fault)) :
    runOnce (s.adaptersTo submit schedule newId) config now = throw (.engine fault) := by
  rw [s.runOnce_adaptersTo, h]

/-- **A batch that cannot evaluate all of its policies does nothing.** Whatever
it is handed in to, a run on a store ends with a fault of evaluation exactly
if some selected policy that is evaluated for a provider is unfit, having no
rules or rules of several kinds, provided that no evaluation breaks off. The
fault is that of the first such policy, in whatever order the tasks of
evaluation end. The run is then nothing but this fault: it makes no call, and
leaves all state as it was.

Under supervision such a run is the last one: the attempts before it have
ended otherwise, and its outcome is that of the batch. -/
theorem Store.engine_fault_of_runOnce (s : Store) (config : Config) :
    let e : Engine := ⟨⟨now, config.zone⟩, config.window⟩
    let selected := selectPolicies s.policies now
    let run := runOnce (s.adaptersTo submit schedule newId) config now
    (s.Unbroken e selected → ∀ st, (∃ fault, (run.run.run st).1 = .error (.engine fault))
        ↔ ∃ p ∈ selected, s.Evaluates p ∧ p.Unfit)
      ∧ (∀ st st' fault, run.run.run st = (.error (.engine fault), st') →
        (∃ before p after, selected = before ++ p :: after
            ∧ (∀ b ∈ before, ¬ (s.Evaluates b ∧ b.Unfit)) ∧ s.Evaluates p ∧ p.Refused fault)
          ∧ (∀ ended, ended.Perm (s.taskResults e selected).zipIdx →
              awaitEach ended (List.range (s.taskResults e selected).length)
                = some (.error (.engine fault)))
          ∧ run = throw (.engine fault) ∧ st' = st)
      ∧ ∀ (clock : StateM σ Instant) (wait : ℕ → StateM σ Unit) st,
        ∃ earlier result st',
          ((supervise config.retry (fun d => liftM (wait d)) (recorded fun _ => do
              (runOnce (s.adaptersTo submit schedule newId) config (← clock)).run)).run []).run st
              = ((result, earlier ++ [result]), st')
            ∧ (runSupervised (s.adaptersTo submit schedule newId) config clock wait).run st
                = (result, st')
            ∧ ∀ fault, .error (.engine fault) ∉ earlier := by
  intro e selected run
  refine ⟨fun hunbroken st => ?_, fun st st' fault hrun => ?_, fun clock wait st => ?_⟩
  · rw [← hunbroken.exists_assess_eq_engine_iff]
    exact exists_congr (fun fault =>
      s.run_runOnce_eq_engine_iff submit schedule newId now config st)
  · have hassess := (s.run_runOnce_eq_engine_iff submit schedule newId now config st).mp
      (congrArg Prod.fst hrun)
    have hthrow := s.runOnce_eq_throw submit schedule newId now config hassess
    refine ⟨first_unfit_of_assess hassess, fun ended hended => ?_, hthrow, ?_⟩
    · rw [s.awaitEach_taskResults e hended, hassess]
    · rw [show run = throw (.engine fault) from hthrow] at hrun
      exact (congrArg Prod.snd hrun).symm
  · obtain ⟨earlier, result, st', hrecorded, hrun, hearlier⟩ :=
      superviseFrom_recorded config.retry wait (fun _ => do
        (runOnce (s.adaptersTo submit schedule newId) config (← clock)).run) 0
        config.retry.maxRetries [] st
    refine ⟨earlier, result, st', hrecorded, hrun, fun fault hfault => ?_⟩
    -- a fault of evaluation does not pass
    obtain ⟨cause, heq, hretry⟩ := hearlier _ hfault
    obtain rfl := Except.error.inj heq
    exact Bool.false_ne_true hretry

end Running

/-! ### Three policies, of which two are unfit

The first policy can be evaluated, the second one mixes kinds of rules, and the
third one has no rules. The second one names two providers, so that two tasks
fail with its fault and one with the fault of the third policy, which is
waited for last even if it ends first. -/

namespace Sample

/-- The policy for two named providers, with rules of two kinds. -/
def mixedPolicy : Policy :=
  { regionalPolicy with
    policyId := id 3
    rules := [.count (rule 1 none none), .speed ⟨(rule 2 none none).scope, none, none⟩] }

/-- A policy without rules. -/
def emptyPolicy : Policy := { policy with policyId := id 4, rules := [] }

/-- The sample store with the three policies. -/
def unfitStore : Store := { store with policies := [policy, mixedPolicy, emptyPolicy] }

/-- The fault of the second policy. -/
def mixedFault : EngineFault := .model (.mixedRuleTypes (id 3) .count .speed)

/-- The first policy has rules of one kind. -/
theorem not_unfit_policy : ¬ policy.Unfit := by
  unfold Policy.Unfit
  decide

/-- The second policy is refused for the rules that it mixes. -/
theorem refused_mixedPolicy : mixedPolicy.Refused mixedFault := by
  have hrules : mixedPolicy.rules = .count (rule 1 none none) :: []
      ++ .speed ⟨(rule 2 none none).scope, none, none⟩ :: [] := rfl
  exact .mixed hrules (fun _ h => nomatch h) (by decide)

/-- No evaluation breaks off: the first policy counts three violations, and
the other two are refused. -/
theorem unbroken_unfitStore : unfitStore.Unbroken engine unfitStore.policies := by
  have hfleet : unfitStore.fleet (some (id 1)) = fleet := rfl
  have hpairs : unfitStore.pairs unfitStore.policies
      = [(policy, id 1), (mixedPolicy, id 2), (mixedPolicy, id 1), (emptyPolicy, id 1)] := rfl
  have hrefused : ∀ {p fault}, p.Refused fault → ∀ {q t},
      engine.evaluate p unfitStore.geographies (unfitStore.fleet (some q)) ≠ .ok t := by
    intro p fault h q t ht
    rw [Engine.evaluate_eq_error_iff.mpr h] at ht
    exact nomatch ht
  intro pair hpair t ht
  rw [hpairs] at hpair
  simp only [List.mem_cons, List.not_mem_nil, or_false] at hpair
  rcases hpair with rfl | rfl | rfl | rfl
  · have hfinds := finds_finding (s := unfitStore) rfl rfl hfleet violations_fleet
    obtain rfl := Except.ok.inj (hfinds.verdict.symm.trans ht)
    exact Option.some_ne_none _
  · exact absurd ht (hrefused refused_mixedPolicy)
  · exact absurd ht (hrefused refused_mixedPolicy)
  · exact absurd ht (hrefused (.empty rfl))

/-- The assessment has the fault of the second policy. -/
theorem assess_unfitStore :
    assess engine unfitStore.policies unfitStore.geographies
      (unfitStore.fleetsFor unfitStore.policies) = .error (.engine mixedFault) := by
  refine Store.assess_eq_engine_iff.mpr
    ⟨[policy], mixedPolicy, [emptyPolicy], rfl, fun b hb => ?_, Or.inl rfl, refused_mixedPolicy⟩
  rw [List.mem_singleton.mp hb]
  refine (unbroken_unfitStore.of_mem List.mem_cons_self).exists_assess (fun h => ?_)
  exact not_unfit_policy h.2

end Sample

/-- The run has the fault of the second policy, although the task of the third
one ends first, and the sink stays empty. -/
theorem engine_fault_mixed :
    let run := runOnce (Sample.unfitStore.adaptersTo (MemorySink.submitter (m := Id)) .inOrder
      (pure (Sample.id 0))) Sample.config Sample.engine.clock.now
    let results := Sample.unfitStore.taskResults Sample.engine Sample.unfitStore.policies
    Sample.unfitStore.Unbroken Sample.engine Sample.unfitStore.policies
      ∧ run.run.run .empty = (.error (.engine Sample.mixedFault), .empty)
      ∧ (∃ p ∈ Sample.unfitStore.policies, Sample.unfitStore.Evaluates p ∧ p.Unfit)
      ∧ results.getLast? = some (.error (.engine (.emptyPolicy (Sample.id 4))))
      ∧ awaitEach results.zipIdx.reverse (List.range results.length)
          = some (.error (.engine Sample.mixedFault)) := by
  intro run results
  have hrun : run.run.run .empty = (.error (.engine Sample.mixedFault), .empty) := by
    rw [show run = throw (.engine Sample.mixedFault) from
      Sample.unfitStore.runOnce_eq_throw _ _ _ _ _ Sample.assess_unfitStore]
    rfl
  obtain ⟨hunfit, hfault, -⟩ := Sample.unfitStore.engine_fault_of_runOnce
    (MemorySink.submitter (m := Id)) .inOrder (pure (Sample.id 0)) Sample.engine.clock.now
    Sample.config
  obtain ⟨-, hended, -, -⟩ := hfault _ _ _ hrun
  exact ⟨Sample.unbroken_unfitStore, hrun,
    (hunfit Sample.unbroken_unfitStore .empty).mp ⟨_, congrArg Prod.fst hrun⟩, rfl,
    hended _ (List.reverse_perm _)⟩

end FleetCompliance

import FleetCompliance.Batch.Run
import FleetCompliance.Proofs.Gathering
import FleetCompliance.Proofs.Tallies
import Mathlib.Data.List.Forall2

/-!
# The pairs of a batch

A batch evaluates every selected policy for each of the providers it
concerns. On a store the fleets that were gathered before have no part in
what comes out (`Store.assess_fleetsFor`): the finding of a pair is the
verdict on what the provider owns, and it depends neither on the other
policies nor on the way in which the fleets were fetched.

Findings are collected one by one, and the first fault ends the collection.
So it succeeds if every pair can be evaluated, and then the findings are those
of the pairs in their order.
-/

namespace FleetCompliance

/-! ## Lists item by item -/

/-- **Working through a list succeeds** when each of its items does. -/
theorem mapM_eq_ok_iff {ε α β : Type} {f : α → Except ε β} {l : List α} {r : List β} :
    l.mapM f = .ok r ↔ List.Forall₂ (fun a b => f a = .ok b) l r := by
  induction l generalizing r with
  | nil =>
    rw [List.mapM_nil, List.forall₂_nil_left_iff]
    exact Iff.intro (fun h => (Except.ok.inj h).symm) (fun h => h ▸ rfl)
  | cons a l ih =>
    rw [List.mapM_cons, List.forall₂_cons_left_iff]
    cases ha : f a with
    | error fault => exact Iff.intro (fun h => nomatch h) (fun ⟨_, _, h, _⟩ => nomatch h)
    | ok b =>
      -- the first item succeeds, so that the others decide
      cases hl : l.mapM f with
      | error fault =>
        refine Iff.intro (fun h => nomatch h) (fun ⟨_, r', _, h, _⟩ => ?_)
        rw [← ih, hl] at h
        exact nomatch h
      | ok bs =>
        refine Iff.intro (fun h => ⟨b, bs, rfl, ih.mp hl, (Except.ok.inj h).symm⟩) ?_
        rintro ⟨b', bs', hb, hbs, rfl⟩
        rw [← ih, hl] at hbs
        cases hb
        cases hbs
        rfl

/-- **Working through a list fails** with the fault of the first item that
has one. -/
theorem mapM_eq_error_iff {ε α β : Type} {f : α → Except ε β} {l : List α} {fault : ε} :
    l.mapM f = .error fault
      ↔ ∃ before a after, l = before ++ a :: after
          ∧ (∀ b ∈ before, ∃ y, f b = .ok y) ∧ f a = .error fault := by
  induction l with
  | nil => exact Iff.intro (fun h => nomatch h) (fun ⟨before, _, _, h, _⟩ => by simp at h)
  | cons x l ih =>
    have hsplit : (∃ before a after, x :: l = before ++ a :: after
          ∧ (∀ b ∈ before, ∃ y, f b = .ok y) ∧ f a = .error fault)
        ↔ f x = .error fault ∨ (∃ y, f x = .ok y) ∧ l.mapM f = .error fault := by
      rw [ih]
      constructor
      · rintro ⟨before, a, after, hl, hbefore, ha⟩
        rcases List.cons_eq_append_iff.mp hl with ⟨rfl, hl⟩ | ⟨before, rfl, rfl⟩
        · obtain ⟨rfl, rfl⟩ := List.cons.inj hl
          exact Or.inl ha
        · obtain ⟨hx, hbefore⟩ := List.forall_mem_cons.mp hbefore
          exact Or.inr ⟨hx, before, a, after, rfl, hbefore, ha⟩
      · rintro (hx | ⟨hx, before, a, after, rfl, hbefore, ha⟩)
        · exact ⟨[], x, l, rfl, (fun _ h => nomatch h), hx⟩
        · exact ⟨x :: before, a, after, rfl, List.forall_mem_cons.mpr ⟨hx, hbefore⟩, ha⟩
    rw [hsplit, List.mapM_cons]
    cases hx : f x with
    | error cause =>
      constructor
      · exact fun h => Or.inl (congrArg Except.error (Except.error.inj h))
      · rintro (h | ⟨⟨y, hy⟩, -⟩)
        · exact congrArg Except.error (Except.error.inj h)
        · exact nomatch hy
    | ok y =>
      cases hl : l.mapM f with
      | error cause =>
        constructor
        · exact fun h => Or.inr ⟨⟨y, rfl⟩, congrArg Except.error (Except.error.inj h)⟩
        · rintro (h | ⟨-, h⟩)
          · exact nomatch h
          · exact congrArg Except.error (Except.error.inj h)
      | ok ys =>
        constructor
        · exact fun h => nomatch h
        · rintro (h | ⟨-, h⟩)
          · exact nomatch h
          · exact nomatch h

/-- What is done with a list as with its first item and then with the others is
done with each of its items, one after the other. -/
theorem eq_mapM_flatten_of_cons {ε α β : Type} {f : List α → Except ε (List β)}
    (hnil : f [] = .ok []) (hcons : ∀ a l, f (a :: l) = do return (← f [a]) ++ (← f l))
    (l : List α) : f l = (l.mapM fun a => f [a]).map List.flatten := by
  induction l with
  | nil => exact hnil
  | cons a l ih =>
    rw [hcons, ih, List.mapM_cons]
    cases f [a] with
    | error fault => rfl
    | ok first => cases l.mapM fun a => f [a] <;> rfl

/-- Working through a list depends on what is done with its items only. -/
theorem mapM_congr_mem {m : Type → Type} [Monad m] [LawfulMonad m] {α β : Type}
    {f g : α → m β} {l : List α} (h : ∀ a ∈ l, f a = g a) : l.mapM f = l.mapM g := by
  induction l with
  | nil => rfl
  | cons a l ih =>
    rw [List.mapM_cons, List.mapM_cons, h a List.mem_cons_self,
      ih (fun b hb => h b (List.mem_cons_of_mem a hb))]

/-- What stands in a related list is related to something. -/
theorem exists_of_mem_forall₂ {α β : Type} {R : α → β → Prop} {l : List α} {r : List β}
    (h : List.Forall₂ R l r) {b : β} (hb : b ∈ r) : ∃ a ∈ l, R a b := by
  induction h with
  | nil => exact nomatch hb
  | cons hab _ ih =>
    rcases List.mem_cons.mp hb with rfl | hrest
    · exact ⟨_, List.mem_cons_self, hab⟩
    · obtain ⟨a, ha, hrelated⟩ := ih hrest
      exact ⟨a, List.mem_cons_of_mem _ ha, hrelated⟩

/-! ## Gathering from a store -/

namespace Store

section Fetching

variable {m : Type → Type} [Monad m] [LawfulMonad m]

/-- One by one, the parts of the store are gathered. -/
theorem gatherEach_fleet (s : Store) (ps : List (Identifier .provider)) :
    gatherEach (fun q => (pure (s.fleet q) : ExceptT CallFault m Fleet)) ps
      = pure (s.fleetsOfEach ps) := by
  induction ps with
  | nil => rfl
  | cons p ps ih =>
    rw [gatherEach, ih]
    simp only [pure_bind]
    rfl

/-- **Gathering from a store** never fails. -/
theorem gather_fleet (s : Store) (policies : List Policy) :
    gather (fun q => (pure (s.fleet q) : ExceptT CallFault m Fleet)) policies
      = pure (s.fleetsFor policies) := by
  unfold gather fleetsFor
  split
  · rw [pure_bind]
  · exact s.gatherEach_fleet _

end Fetching

/-! ## Pairs and their findings -/

/-- **The pairs of a batch**: the policies in order, each with the providers
it concerns. -/
def pairs (s : Store) (policies : List Policy) : List (Policy × Identifier .provider) :=
  policies.flatMap fun p => (s.audience p).map fun q => (p, q)

/-- The pairs that are evaluated are those of the store. -/
theorem pairsOf_fleetsFor (s : Store) (policies : List Policy) :
    pairsOf policies (s.fleetsFor policies) = s.pairs policies := by
  refine List.flatMap_congr (fun p hp => ?_)
  rw [s.providersFor_fleetsFor hp]

/-- A pair of a batch is a policy of it with a provider it concerns. -/
theorem mem_pairs_iff {s : Store} {policies : List Policy}
    {pair : Policy × Identifier .provider} :
    pair ∈ s.pairs policies ↔ pair.1 ∈ policies ∧ pair.2 ∈ s.audience pair.1 := by
  rw [pairs, List.mem_flatMap]
  constructor
  · rintro ⟨p, hp, hpair⟩
    obtain ⟨q, hq, rfl⟩ := List.mem_map.mp hpair
    exact ⟨hp, hq⟩
  · rintro ⟨hp, hq⟩
    exact ⟨pair.1, hp, List.mem_map_of_mem hq⟩

/-- The evaluation of a pair on the provider's own part of a store. -/
def findingOf (s : Store) (e : Engine) (pair : Policy × Identifier .provider) :
    Except BatchFault Finding := do
  let verdict ← conclude .engine .taskOverflow
    (e.evaluate pair.1 s.geographies (s.fleet (some pair.2)))
  return { policy := ⟨pair.1.policyId, pair.1.name⟩, providerId := pair.2, verdict }

/-- **A batch evaluates every pair by itself**: the table of fleets and the
other policies have no part in it. -/
theorem assess_fleetsFor (s : Store) (e : Engine) (policies : List Policy) :
    assess e policies s.geographies (s.fleetsFor policies)
      = (s.pairs policies).mapM (s.findingOf e) := by
  rw [assess, pairsOf_fleetsFor]
  refine mapM_congr_mem (fun pair hpair => ?_)
  obtain ⟨hp, hq⟩ := mem_pairs_iff.mp hpair
  unfold findingFor findingOf
  rw [s.fleetOf_fleetsFor hp hq]

/-- **The finding of a pair on a store** names the policy and the provider,
and holds the verdict on what the provider owns. -/
structure Finds (s : Store) (e : Engine) (pair : Policy × Identifier .provider)
    (f : Finding) : Prop where
  policy : f.policy = ⟨pair.1.policyId, pair.1.name⟩
  provider : f.providerId = pair.2
  verdict : e.evaluate pair.1 s.geographies (s.fleet (some pair.2)) = .ok f.verdict.tally

/-- **Why a pair has no finding**: its policy is refused, or its evaluation
breaks off because it leaves no total. -/
inductive Fails (s : Store) (e : Engine) (pair : Policy × Identifier .provider) :
    BatchFault → Prop
  | refused {fault : EngineFault}
      (h : e.evaluate pair.1 s.geographies (s.fleet (some pair.2)) = .error fault) :
      Fails s e pair (.engine fault)
  | overflow {t : Tally}
      (h : e.evaluate pair.1 s.geographies (s.fleet (some pair.2)) = .ok t)
      (ht : t.violations = none) : Fails s e pair .taskOverflow

/-- An evaluation that comes to a verdict makes the finding of its pair. -/
theorem findingOf_eq_ok_iff {s : Store} {e : Engine} {pair : Policy × Identifier .provider}
    {f : Finding} : s.findingOf e pair = .ok f ↔ s.Finds e pair f := by
  unfold findingOf
  constructor
  · intro h
    obtain ⟨verdict, hverdict, hf⟩ := bind_eq_ok_iff.mp h
    obtain rfl := Except.ok.inj hf
    exact ⟨rfl, rfl, conclude_eq_ok_iff.mp hverdict⟩
  · rintro ⟨hpolicy, hprovider, hverdict⟩
    rw [conclude_eq_ok_iff.mpr hverdict]
    cases f
    cases hpolicy
    cases hprovider
    rfl

/-- **A batch finds what its pairs find**, in their order. -/
theorem assess_eq_ok_iff {s : Store} {e : Engine} {policies : List Policy}
    {findings : List Finding} :
    assess e policies s.geographies (s.fleetsFor policies) = .ok findings
      ↔ List.Forall₂ (s.Finds e) (s.pairs policies) findings := by
  rw [assess_fleetsFor, mapM_eq_ok_iff]
  simp only [findingOf_eq_ok_iff]

/-- **A pair has no finding** because its policy is refused, or its evaluation
breaks off. -/
theorem findingOf_eq_error_iff {s : Store} {e : Engine} {pair : Policy × Identifier .provider}
    {fault : BatchFault} : s.findingOf e pair = .error fault ↔ s.Fails e pair fault := by
  unfold findingOf
  rw [bind_pure_eq_error_iff, conclude_eq_error_iff]
  constructor
  · rintro (⟨cause, h, rfl⟩ | ⟨t, h, ht, rfl⟩)
    · exact .refused h
    · exact .overflow h ht
  · rintro (⟨h⟩ | ⟨h, ht⟩)
    · exact Or.inl ⟨_, h, rfl⟩
    · exact Or.inr ⟨_, h, ht, rfl⟩

/-- The fault of a pair that is refused is that of its evaluation. -/
theorem fails_engine_iff {s : Store} {e : Engine} {pair : Policy × Identifier .provider}
    {fault : EngineFault} :
    s.Fails e pair (.engine fault)
      ↔ e.evaluate pair.1 s.geographies (s.fleet (some pair.2)) = .error fault := by
  refine ⟨fun h => ?_, .refused⟩
  cases h with
  | refused h => exact h

/-- A batch that cannot evaluate all of its pairs has the fault of one. -/
theorem exists_fault_of_assess {s : Store} {e : Engine} {policies : List Policy}
    {fault : BatchFault}
    (h : assess e policies s.geographies (s.fleetsFor policies) = .error fault) :
    ∃ pair ∈ s.pairs policies, s.Fails e pair fault := by
  rw [assess_fleetsFor, mapM_eq_error_iff] at h
  obtain ⟨before, pair, after, hpairs, -, hfault⟩ := h
  refine ⟨pair, ?_, findingOf_eq_error_iff.mp hfault⟩
  rw [hpairs]
  exact List.mem_append_right _ List.mem_cons_self

end Store

end FleetCompliance

import FleetCompliance.Batch.Gather
import FleetCompliance.Batch.Store
import Mathlib.Data.List.Nodup

/-!
# Fleets gathered from a store

A batch fetches the fleets of all providers at once, or one by one, and
keeps them in a table. Whichever way it takes, what the table holds for a
provider that is asked for is that provider's part of the store
(`fleetOf_fleetsFor`): a provider which is not in the table owns nothing, and
the empty fleet that stands in for it is its part as well. The providers a
policy is evaluated for do not depend on the way either
(`providersFor_fleetsFor`), so that nothing after the gathering can tell
which policies were gathered for.
-/

namespace FleetCompliance

/-! ## Identifiers in order -/

namespace Identifier

variable {entity : Entity}

/-- Inserting an identifier adds it and nothing else. -/
theorem mem_insert_iff {i j : Identifier entity} {l : List (Identifier entity)} :
    j ∈ Identifier.insert i l ↔ j = i ∨ j ∈ l := by
  induction l with
  | nil => simp [Identifier.insert]
  | cons a l ih =>
    unfold Identifier.insert
    split
    · exact List.mem_cons
    · split
      · rename_i h
        rw [List.mem_cons, h]
        exact ⟨Or.inr, fun hj => hj.elim Or.inl id⟩
      · rw [List.mem_cons, ih, List.mem_cons]
        exact or_left_comm

/-- The ascending list of identifiers has the same ones. -/
theorem mem_ascending_iff {j : Identifier entity} {l : List (Identifier entity)} :
    j ∈ ascending l ↔ j ∈ l := by
  induction l with
  | nil => exact Iff.rfl
  | cons a l ih =>
    rw [List.mem_cons, ← ih]
    exact mem_insert_iff

/-- Inserting keeps a list ascending. -/
theorem pairwise_insert (i : Identifier entity) {l : List (Identifier entity)}
    (hl : l.Pairwise (· < ·)) : (Identifier.insert i l).Pairwise (· < ·) := by
  induction l with
  | nil => exact List.pairwise_singleton _ _
  | cons a l ih =>
    obtain ⟨ha, hrest⟩ := List.pairwise_cons.mp hl
    unfold Identifier.insert
    split
    · rename_i hlt
      refine List.Pairwise.cons (fun j hj => ?_) hl
      rcases List.mem_cons.mp hj with rfl | hj
      · exact hlt
      · exact Nat.lt_trans hlt (ha j hj)
    · split
      · exact hl
      · rename_i hnlt hne
        refine List.Pairwise.cons (fun j hj => ?_) (ih hrest)
        rcases mem_insert_iff.mp hj with rfl | hj
        · have hvalue : j.value ≠ a.value := fun h => hne (by cases j; cases a; simp_all)
          exact Nat.lt_of_le_of_ne (Nat.le_of_not_lt hnlt) hvalue.symm
        · exact ha j hj

/-- The ascending list of identifiers is ascending. -/
theorem ascending_pairwise (l : List (Identifier entity)) :
    (ascending l).Pairwise (· < ·) := by
  induction l with
  | nil => exact .nil
  | cons a l ih => exact pairwise_insert a ih

/-- The ascending list of identifiers has each of them once. -/
theorem ascending_nodup (l : List (Identifier entity)) : (ascending l).Nodup :=
  (ascending_pairwise l).imp (fun h heq => Nat.ne_of_lt h (congrArg Identifier.value heq))

end Identifier

/-! ## The fleets of a store -/

namespace Fleet

/-- **The providers of a fleet** are those that own a device or an event. -/
theorem mem_providers_iff {f : Fleet} {q : Identifier .provider} :
    q ∈ f.providers
      ↔ (∃ d ∈ f.devices, d.providerId = q) ∨ ∃ e ∈ f.events, e.providerId = q := by
  rw [providers, Identifier.mem_ascending_iff, List.mem_append, List.mem_map, List.mem_map]

/-- A provider that owns nothing has the empty fleet. -/
theorem ofProvider_eq_empty {f : Fleet} {q : Identifier .provider} (hq : q ∉ f.providers) :
    f.ofProvider q = empty := by
  rw [mem_providers_iff, not_or] at hq
  obtain ⟨hdevices, hevents⟩ := hq
  unfold ofProvider empty
  rw [List.filter_eq_nil_iff.mpr, List.filter_eq_nil_iff.mpr]
  · exact fun e he h => hevents ⟨e, he, of_decide_eq_true h⟩
  · exact fun d hd h => hdevices ⟨d, hd, of_decide_eq_true h⟩

/-- The part of a provider is its own part. -/
theorem ofProvider_ofProvider (f : Fleet) (q : Identifier .provider) :
    (f.ofProvider q).ofProvider q = f.ofProvider q := by
  unfold ofProvider
  simp

end Fleet

namespace Fleets

/-- A table that lists fleets by provider holds for a provider what is
listed for it. -/
theorem lookup_map_prod (ps : List (Identifier .provider))
    (g : Identifier .provider → Fleet) (q : Identifier .provider) :
    (ps.map fun p => (p, g p)).lookup q = if q ∈ ps then some (g q) else none := by
  induction ps with
  | nil => rfl
  | cons p ps ih =>
    rw [List.map_cons, List.lookup_cons]
    by_cases hpq : q = p
    · subst hpq
      simp
    · rw [beq_eq_false_iff_ne.mpr hpq]
      simp [hpq, ih]

/-- A table of at most one fleet. -/
theorem lookup_toList_map (own : Option Fleet) (p q : Identifier .provider) :
    (own.map fun f => (p, f)).toList.lookup q = if q = p then own else none := by
  cases own with
  | none => simp
  | some f =>
    show List.lookup q [(p, f)] = _
    rw [List.lookup_cons, List.lookup_nil]
    by_cases hpq : q = p
    · subst hpq
      simp
    · rw [beq_eq_false_iff_ne.mpr hpq, if_neg hpq]

/-- **A fleet sorted by provider** holds for each provider its part. -/
theorem fleetOf_byProvider (f : Fleet) (q : Identifier .provider) :
    Fleets.fleetOf f.byProvider q = f.ofProvider q := by
  unfold fleetOf Fleet.byProvider
  rw [lookup_map_prod]
  split
  · rfl
  · rename_i hq
    exact (Fleet.ofProvider_eq_empty hq).symm

end Fleets

namespace Store

/-- The part of each provider of a list, of those that own something. -/
def fleetsOfEach (s : Store) : List (Identifier .provider) → Fleets
  | [] => []
  | q :: rest =>
    ((s.fleet (some q)).byProvider.lookup q |>.map fun own => (q, own)).toList
      ++ s.fleetsOfEach rest

/-- **What is gathered from a store** for a list of policies. -/
def fleetsFor (s : Store) (policies : List Policy) : Fleets :=
  if policies.any (·.restriction.isNone) then (s.fleet none).byProvider
  else s.fleetsOfEach (namedProviders policies)

/-- **The providers for which a policy is evaluated** on a store: those that
it names, each once, or all that own something. -/
def audience (s : Store) (p : Policy) : List (Identifier .provider) :=
  match p.restriction with
  | some named => named.eraseDups
  | none => (s.fleet none).providers

/-- The part of a provider is fetched by itself or cut out of the whole. -/
theorem fleet_some (s : Store) (q : Identifier .provider) :
    s.fleet (some q) = (s.fleet none).ofProvider q := rfl

/-- **The table of parts** lists the providers that own something. -/
theorem lookup_fleetsOfEach (s : Store) (ps : List (Identifier .provider))
    (q : Identifier .provider) :
    (s.fleetsOfEach ps).lookup q
      = if q ∈ ps ∧ q ∈ (s.fleet (some q)).providers then some (s.fleet (some q))
        else none := by
  induction ps with
  | nil => simp [fleetsOfEach]
  | cons p ps ih =>
    rw [fleetsOfEach, List.lookup_append, Fleets.lookup_toList_map, ih]
    by_cases hpq : q = p
    · subst hpq
      rw [if_pos rfl, Fleet.byProvider, Fleets.lookup_map_prod, fleet_some,
        Fleet.ofProvider_ofProvider]
      by_cases hown : q ∈ ((s.fleet none).ofProvider q).providers <;> simp [hown]
    · simp [hpq]

/-- The table of parts holds the part of each provider of the list. -/
theorem fleetOf_fleetsOfEach (s : Store) {ps : List (Identifier .provider)}
    {q : Identifier .provider} (hq : q ∈ ps) :
    (s.fleetsOfEach ps).fleetOf q = s.fleet (some q) := by
  rw [Fleets.fleetOf, lookup_fleetsOfEach]
  by_cases hown : q ∈ (s.fleet (some q)).providers
  · rw [if_pos ⟨hq, hown⟩]
    rfl
  · -- a provider that owns nothing is in no table, and has the empty fleet
    rw [if_neg (fun h => hown h.2), fleet_some, ← Fleet.ofProvider_ofProvider]
    exact (Fleet.ofProvider_eq_empty hown).symm

/-- A policy that binds all providers has the fleets of all fetched. -/
theorem fleetsFor_of_unrestricted (s : Store) {policies : List Policy} {p : Policy}
    (hp : p ∈ policies) (hall : p.restriction = none) :
    s.fleetsFor policies = (s.fleet none).byProvider := by
  unfold fleetsFor
  rw [if_pos (List.any_eq_true.mpr ⟨p, hp, by rw [hall]; rfl⟩)]

/-- **The providers of a policy do not depend on what else is gathered.** -/
theorem providersFor_fleetsFor (s : Store) {policies : List Policy} {p : Policy}
    (hp : p ∈ policies) : providersFor p (s.fleetsFor policies) = s.audience p := by
  unfold providersFor audience
  cases hall : p.restriction with
  | some named => rfl
  | none =>
    show (s.fleetsFor policies).map _ = _
    rw [s.fleetsFor_of_unrestricted hp hall, Fleet.byProvider, List.map_map]
    exact List.map_id _

/-- **The fleet of a policy's provider is the provider's part of the store**,
whatever else is gathered. -/
theorem fleetOf_fleetsFor (s : Store) {policies : List Policy} {p : Policy}
    (hp : p ∈ policies) {q : Identifier .provider} (hq : q ∈ s.audience p) :
    (s.fleetsFor policies).fleetOf q = s.fleet (some q) := by
  unfold fleetsFor
  split
  · exact Fleets.fleetOf_byProvider _ q
  · rename_i hnone
    unfold audience at hq
    cases hall : p.restriction with
    | none => exact absurd (List.any_eq_true.mpr ⟨p, hp, by rw [hall]; rfl⟩) hnone
    | some named =>
      rw [hall] at hq
      refine s.fleetOf_fleetsOfEach (Identifier.mem_ascending_iff.mpr ?_)
      refine List.mem_flatMap.mpr ⟨p, hp, ?_⟩
      rw [hall]
      exact List.mem_eraseDups.mp hq

/-! ## Who is evaluated -/

/-- Whether a policy concerns a provider on a store: it names the provider,
or it names none and the provider owns something. -/
def Concerns (s : Store) (p : Policy) (q : Identifier .provider) : Prop :=
  match p.restriction with
  | some named => q ∈ named
  | none => (∃ d ∈ s.devices, d.providerId = q) ∨ ∃ e ∈ s.events, e.providerId = q

/-- A policy is evaluated for the providers that it concerns. -/
theorem mem_audience_iff {s : Store} {p : Policy} {q : Identifier .provider} :
    q ∈ s.audience p ↔ s.Concerns p q := by
  unfold audience Concerns
  split
  · exact List.mem_eraseDups
  · exact Fleet.mem_providers_iff

/-- Erasing duplicates leaves none. -/
theorem nodup_eraseDups {α : Type} [BEq α] [LawfulBEq α] (l : List α) : l.eraseDups.Nodup := by
  induction hn : l.length using Nat.strongRecOn generalizing l with
  | ind n ih =>
    cases l with
    | nil => exact List.nodup_nil
    | cons a l =>
      rw [List.eraseDups_cons]
      refine List.nodup_cons.mpr ⟨fun ha => ?_, ?_⟩
      · have hmem := List.mem_eraseDups.mp ha
        simp at hmem
      · refine ih _ ?_ _ rfl
        rw [← hn]
        exact Nat.lt_succ_of_le (List.length_filter_le _ _)

/-- **A policy is evaluated once for each of its providers.** -/
theorem audience_nodup (s : Store) (p : Policy) : (s.audience p).Nodup := by
  unfold audience
  split
  · exact nodup_eraseDups _
  · exact Identifier.ascending_nodup _

/-- In a store without devices and events no provider owns anything. -/
theorem fleet_ofLists_nil (geographies : List Geography) (policies : List Policy)
    (q : Identifier .provider) : (ofLists geographies policies [] []).fleet (some q) = .empty :=
  congrArg (fun events => Fleet.ofProvider ⟨[], events⟩ q) List.mergeSort_nil

end Store

end FleetCompliance

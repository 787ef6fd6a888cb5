import FleetCompliance.Proofs.Tallies
import Mathlib.Data.List.Basic

/-!
# Which policies can be evaluated

A policy is evaluated as one of the kind of its rules, and this succeeds
exactly if it has rules and all of them are of one kind
(`Engine.evaluate_eq_ok_iff`). The demand of the chosen evaluation for rules
of its own kind is then met already, so that its fault never shows. All
other policies are refused with a fault of their own, which no fleet and no
geographies have a part in (`Engine.evaluate_eq_error_iff`).
-/

namespace FleetCompliance

/-- The first element that differs in something: those before it do not. -/
theorem find?_ne_eq_some_iff {α κ : Type} [DecidableEq κ] {key : α → κ} {k : κ} {l : List α}
    {a : α} : l.find? (key · ≠ k) = some a
      ↔ ∃ before after, l = before ++ a :: after ∧ (∀ x ∈ before, key x = k) ∧ key a ≠ k := by
  rw [List.find?_eq_some_iff_append]
  constructor
  · rintro ⟨ha, before, after, hl, hbefore⟩
    exact ⟨before, after, hl, fun x hx => by simpa using hbefore x hx, of_decide_eq_true ha⟩
  · rintro ⟨before, after, hl, hbefore, ha⟩
    exact ⟨decide_eq_true ha, before, after, hl, fun x hx => by simpa using hbefore x hx⟩

namespace Policy

/-- Whether the rules of a policy are all of one kind. -/
def IsOfKind (p : Policy) (kind : RuleKind) : Prop := ∀ r ∈ p.rules, r.kind = kind

/-- **A policy has a kind** if it has rules and all of them are of that
kind. -/
theorem ruleKind_eq_ok_some_iff {p : Policy} {kind : RuleKind} :
    p.ruleKind = .ok (some kind) ↔ p.rules ≠ [] ∧ p.IsOfKind kind := by
  unfold ruleKind IsOfKind
  cases p.rules with
  | nil => exact Iff.intro (fun h => nomatch h) (fun h => absurd rfl h.1)
  | cons r rest =>
    rw [List.forall_mem_cons, List.map_cons]
    cases hsecond : (rest.map Rule.kind).find? (· ≠ r.kind) with
    | some second =>
      simp only [hsecond]
      refine Iff.intro (fun h => nomatch h) (fun ⟨_, hr, hrest⟩ => ?_)
      -- the second kind is that of a rule, and every rule has the first one
      obtain ⟨r', hr', hkind⟩ := List.mem_map.mp (List.mem_of_find?_eq_some hsecond)
      have hne := List.find?_some hsecond
      exact absurd (hkind.symm.trans ((hrest r' hr').trans hr.symm)) (of_decide_eq_true hne)
    | none =>
      simp only [hsecond]
      refine Iff.intro (fun h => ?_) (fun ⟨_, hr, _⟩ => by rw [hr])
      obtain rfl : r.kind = kind := Option.some.inj (Except.ok.inj h)
      refine ⟨List.cons_ne_nil r rest, rfl, fun r' hr' => ?_⟩
      have hnone := List.find?_eq_none.mp hsecond _ (List.mem_map_of_mem hr')
      exact of_not_not (fun hne => hnone (decide_eq_true hne))

/-- A policy has no kind if it has no rules. -/
theorem ruleKind_eq_ok_none_iff {p : Policy} : p.ruleKind = .ok none ↔ p.rules = [] := by
  unfold ruleKind
  cases p.rules with
  | nil => exact Iff.intro (fun _ => rfl) (fun _ => rfl)
  | cons r rest =>
    rw [List.map_cons]
    cases hsecond : (rest.map Rule.kind).find? (· ≠ r.kind) with
    | none =>
      simp only [hsecond]
      exact Iff.intro (fun h => nomatch h) (fun h => nomatch h)
    | some second =>
      simp only [hsecond]
      exact Iff.intro (fun h => nomatch h) (fun h => nomatch h)

/-- **Why a policy is refused**: it has no rules, or one of its rules is the
first that is not of the kind of the rules before it. -/
inductive Refused (p : Policy) : EngineFault → Prop where
  | empty (h : p.rules = []) : Refused p (.emptyPolicy p.policyId)
  | mixed {first second : Rule} {before after : List Rule}
      (h : p.rules = first :: before ++ second :: after)
      (hbefore : ∀ r ∈ before, r.kind = first.kind) (hsecond : second.kind ≠ first.kind) :
      Refused p (.model (.mixedRuleTypes p.policyId first.kind second.kind))

/-- **The kinds of a policy's rules clash** where a rule is the first that is
not of the kind of the rules before it. -/
theorem ruleKind_eq_error_iff {p : Policy} {fault : ModelFault} :
    p.ruleKind = .error fault ↔ p.Refused (.model fault) := by
  unfold ruleKind
  constructor
  · intro h
    cases hrules : p.rules with
    | nil =>
      rw [hrules] at h
      exact nomatch h
    | cons r rest =>
      rw [hrules, List.map_cons] at h
      cases hsecond : (rest.map Rule.kind).find? (· ≠ r.kind) with
      | none =>
        simp only [hsecond] at h
        exact nomatch h
      | some kind =>
        simp only [hsecond] at h
        obtain rfl := Except.error.inj h
        rw [List.find?_map, Option.map_eq_some_iff] at hsecond
        obtain ⟨second, hfound, rfl⟩ := hsecond
        obtain ⟨before, after, rfl, hbefore, hne⟩ := find?_ne_eq_some_iff.mp hfound
        exact .mixed hrules hbefore hne
  · intro h
    cases h with
    | @mixed first second before after hrules hbefore hne =>
      have hfound : ((before ++ second :: after).map Rule.kind).find? (· ≠ first.kind)
          = some second.kind := by
        rw [List.find?_map, Option.map_eq_some_iff]
        exact ⟨second, find?_ne_eq_some_iff.mpr ⟨before, after, rfl, hbefore, hne⟩, rfl⟩
      rw [hrules, List.cons_append, List.map_cons]
      simp only [hfound]

/-- A policy is refused as its rules have no kind, or several. -/
theorem refused_iff {p : Policy} {fault : EngineFault} :
    p.Refused fault ↔ (p.ruleKind = .ok none ∧ fault = .emptyPolicy p.policyId)
      ∨ ∃ cause, p.ruleKind = .error cause ∧ fault = .model cause := by
  constructor
  · intro h
    cases h with
    | empty hrules => exact Or.inl ⟨ruleKind_eq_ok_none_iff.mpr hrules, rfl⟩
    | mixed hrules hbefore hsecond =>
      exact Or.inr ⟨_, ruleKind_eq_error_iff.mpr (.mixed hrules hbefore hsecond), rfl⟩
  · rintro (⟨hkind, rfl⟩ | ⟨cause, hkind, rfl⟩)
    · exact .empty (ruleKind_eq_ok_none_iff.mp hkind)
    · exact ruleKind_eq_error_iff.mp hkind

/-- Whether a policy is unfit for evaluation: it has no rules, or it mixes
kinds of rules. -/
def Unfit (p : Policy) : Prop :=
  p.rules = [] ∨ ∃ r ∈ p.rules, ∃ r' ∈ p.rules, r.kind ≠ r'.kind

/-- **An unfit policy is refused**, and no other. -/
theorem exists_refused_iff {p : Policy} : (∃ fault, p.Refused fault) ↔ p.Unfit := by
  constructor
  · rintro ⟨_, ⟨h⟩ | @⟨first, second, before, after, h, -, hsecond⟩⟩
    · exact Or.inl h
    · refine Or.inr ⟨second, ?_, first, ?_, hsecond⟩
      · rw [h]
        exact List.mem_append_right _ List.mem_cons_self
      · rw [h]
        exact List.mem_cons_self
  · rintro (h | ⟨r, hr, r', hr', hne⟩)
    · exact ⟨_, .empty h⟩
    · cases hkind : p.ruleKind with
      | error fault => exact ⟨_, ruleKind_eq_error_iff.mp hkind⟩
      | ok kind =>
        cases kind with
        | none => exact ⟨_, .empty (ruleKind_eq_ok_none_iff.mp hkind)⟩
        | some kind =>
          have hp := (ruleKind_eq_ok_some_iff.mp hkind).2
          exact absurd ((hp r hr).trans (hp r' hr').symm) hne

end Policy

namespace Engine

/-- The demand for rules of a kind is met by rules of that kind. -/
theorem demandKind_of_isOfKind {p : Policy} {kind : RuleKind} (hp : p.IsOfKind kind) :
    demandKind p kind = .ok () := by
  unfold demandKind
  rw [List.find?_eq_none.mpr]
  intro r hr
  rw [hp r hr]
  simp

/-- The verdict of the evaluation for a kind of rules. -/
def verdictAs (e : Engine) (kind : RuleKind) (p : Policy) (geographies : List Geography)
    (fleet : Fleet) : Tally :=
  match kind with
  | .count => e.countVerdict p geographies fleet
  | .speed => e.firstMatchVerdict p geographies fleet
  | .time => e.firstMatchVerdict p geographies fleet

variable {e : Engine} {p : Policy} {geographies : List Geography} {fleet : Fleet}

/-- A policy whose rules are of one kind is evaluated as one of that kind. -/
theorem evaluateAs_of_isOfKind {kind : RuleKind} (hp : p.IsOfKind kind) :
    e.evaluateAs kind p geographies fleet = .ok (e.verdictAs kind p geographies fleet) := by
  unfold evaluateAs
  rw [demandKind_of_isOfKind hp]
  cases kind <;> rfl

/-- **A policy can be evaluated** if it has rules and all of them are of one
kind, and the verdict is that of the evaluation for the kind. -/
theorem evaluate_eq_ok_iff {verdict : Tally} :
    e.evaluate p geographies fleet = .ok verdict
      ↔ ∃ kind, p.rules ≠ [] ∧ p.IsOfKind kind
          ∧ verdict = e.verdictAs kind p geographies fleet := by
  constructor
  · intro h
    unfold evaluate at h
    split at h
    · exact nomatch h
    · exact nomatch h
    · rename_i kind hkind
      obtain ⟨hne, hp⟩ := Policy.ruleKind_eq_ok_some_iff.mp hkind
      rw [evaluateAs_of_isOfKind hp] at h
      exact ⟨kind, hne, hp, (Except.ok.inj h).symm⟩
  · rintro ⟨kind, hne, hp, rfl⟩
    rw [evaluate, Policy.ruleKind_eq_ok_some_iff.mpr ⟨hne, hp⟩]
    exact evaluateAs_of_isOfKind hp

/-- **A policy that cannot be evaluated** is refused for what it is: the fleet
and the geographies have no part in it. -/
theorem evaluate_eq_error_iff {fault : EngineFault} :
    e.evaluate p geographies fleet = .error fault ↔ p.Refused fault := by
  rw [Policy.refused_iff, evaluate]
  cases hkind : p.ruleKind with
  | error cause => simp [eq_comm]
  | ok kind =>
    cases kind with
    | none => simp [eq_comm]
    | some kind =>
      have hp := (Policy.ruleKind_eq_ok_some_iff.mp hkind).2
      dsimp only
      rw [evaluateAs_of_isOfKind hp]
      simp

end Engine

end FleetCompliance

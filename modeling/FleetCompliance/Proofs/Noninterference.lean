import FleetCompliance.Proofs.CountLedger
import Mathlib.Data.List.Forall2

/-!
# Which geographies a policy sees

A rule names geographies, and an evaluation is given a list of them. What is
in the list and not named is not seen, and what is named and not in the list
covers nothing: it is neither a fault nor a place without bounds. Where the
list has several geographies of one name only the last one is seen.

So a verdict depends on a list of geographies through the last one of each
name and on nothing else, and on the names of a rule through the known ones
among them, of which neither the order nor the number counts
(`Engine.evaluate_noninterference`).

Both halves are one statement about two rules and two lists, that they cover
the same positions (`Rule.CoversAlike`). It reaches a verdict by three ways:
through the rules that claim or overflow a vehicle, through the number of
matches that a rule lacks, and through the rules that are written down for a
vehicle in the end. The kinds of the rules, on which every fault depends, have
no part in it.
-/

namespace FleetCompliance

/-! ## Names and what they find -/

namespace Geography

variable {geographies : List Geography} {id : Identifier .geography}

/-- The geographies of a list that bear an identifier, in their order. -/
def bearing (geographies : List Geography) (id : Identifier .geography) : List Geography :=
  geographies.filter (·.geographyId = id)

/-- Of the geographies that bear an identifier the last one is found. -/
theorem find?_eq_getLast? (geographies : List Geography) (id : Identifier .geography) :
    find? geographies id = (bearing geographies id).getLast? := by
  rw [find?, bearing, ← List.head?_filter, List.filter_reverse, List.head?_reverse]

/-- An identifier finds a geography if one bears it. -/
theorem exists_find?_iff :
    (∃ g, find? geographies id = some g) ↔ ∃ g ∈ geographies, g.geographyId = id := by
  rw [← Option.isSome_iff_exists, find?, List.find?_isSome]
  simp only [List.mem_reverse, decide_eq_true_eq]

/-- A position is in one of some named geographies if it is in one that a name
finds. -/
theorem anyContains_iff {ids : List (Identifier .geography)} {p : Position} :
    anyContains geographies ids p = true
      ↔ ∃ id ∈ ids, ∃ g, find? geographies id = some g ∧ g.contains p = true := by
  simp only [anyContains, List.any_eq_true, List.mem_filterMap]
  constructor
  · rintro ⟨g, ⟨id, hid, hg⟩, hp⟩
    exact ⟨id, hid, g, hg, hp⟩
  · rintro ⟨id, hid, g, hg, hp⟩
    exact ⟨g, ⟨id, hid, hg⟩, hp⟩

/-- A geography that does not bear an identifier is nothing to it. -/
theorem bearing_append_cons_of_ne {g : Geography} (h : g.geographyId ≠ id)
    (before after : List Geography) :
    bearing (before ++ g :: after) id = bearing (before ++ after) id := by
  rw [bearing, bearing, List.filter_append, List.filter_append,
    List.filter_cons_of_neg (by simpa using h)]

/-- A geography is nothing to its own identifier either, if a later one bears
it. -/
theorem getLast?_bearing_append_cons {g : Geography} {after : List Geography}
    (h : ∃ g' ∈ after, g'.geographyId = id) (before : List Geography) :
    (bearing (before ++ g :: after) id).getLast?
      = (bearing (before ++ after) id).getLast? := by
  by_cases hg : g.geographyId = id
  · obtain ⟨last, hlast⟩ := exists_find?_iff.mpr h
    rw [find?_eq_getLast?] at hlast
    unfold bearing at hlast ⊢
    rw [List.filter_append, List.filter_append, List.filter_cons_of_pos (by simpa using hg),
      List.getLast?_append, List.getLast?_append, List.getLast?_cons, hlast]
    rfl
  · rw [bearing_append_cons_of_ne hg]

end Geography

/-- A rule's scope with other names of geographies. -/
def Scope.naming (s : Scope) (ids : List (Identifier .geography)) : Scope :=
  { s with geographies := ids }

/-- A rule with other names of geographies. -/
def Rule.naming (r : Rule) (ids : List (Identifier .geography)) : Rule :=
  match r with
  | count r => count { r with scope := r.scope.naming ids }
  | speed r => speed { r with scope := r.scope.naming ids }
  | time r => time { r with scope := r.scope.naming ids }

namespace Rule

/-- A rule keeps its identifier. -/
@[simp] theorem ruleId_naming (r : Rule) (ids : List (Identifier .geography)) :
    (r.naming ids).ruleId = r.ruleId := by cases r <;> rfl

/-- A rule keeps its kind. -/
@[simp] theorem kind_naming (r : Rule) (ids : List (Identifier .geography)) :
    (r.naming ids).kind = r.kind := by cases r <;> rfl

/-- A rule with its own names is itself. -/
theorem naming_self (r : Rule) : r.naming r.scope.geographies = r := by cases r <;> rfl

/-- **A rule is spelled anew**: it is the same but for the names, and of the
geographies of a list it names the same ones. Names that none of these bears
may have been left out, and the others put in another order or repeated. -/
def Respelled (geographies : List Geography) (r r' : Rule) : Prop :=
  ∃ ids, r' = r.naming ids
    ∧ ∀ g ∈ geographies, g.geographyId ∈ ids ↔ g.geographyId ∈ r.scope.geographies

/-- **Two rules cover alike**, each with its own list of geographies: they are
the same but for the names, and the same positions are in what they name. -/
def CoversAlike (geographies geographies' : List Geography) (r r' : Rule) : Prop :=
  ∃ ids, r' = r.naming ids ∧ ∀ p, Geography.anyContains geographies' ids p
    = Geography.anyContains geographies r.scope.geographies p

variable {geographies geographies' : List Geography} {r r' : Rule}

/-- Lists in which all names of a rule find the same make no difference to it. -/
theorem coversAlike_of_find? (h : ∀ id ∈ r.scope.geographies,
    Geography.find? geographies id = Geography.find? geographies' id) :
    CoversAlike geographies geographies' r r := by
  refine ⟨r.scope.geographies, r.naming_self.symm, fun p => ?_⟩
  rw [Geography.anyContains, Geography.anyContains, List.filterMap_congr h]

/-- A name that no geography bears covers nothing, so that a rule which is
spelled anew covers what it covered. -/
theorem Respelled.coversAlike (h : Respelled geographies r r') :
    CoversAlike geographies geographies r r' := by
  obtain ⟨ids, hr', hids⟩ := h
  refine ⟨ids, hr', fun p => Bool.eq_iff_iff.mpr ?_⟩
  have hknown : ∀ id g, Geography.find? geographies id = some g →
      (id ∈ ids ↔ id ∈ r.scope.geographies) := by
    intro id g hg
    obtain ⟨g', hg', rfl⟩ := Geography.exists_find?_iff.mp ⟨g, hg⟩
    exact hids g' hg'
  rw [Geography.anyContains_iff, Geography.anyContains_iff]
  constructor
  · rintro ⟨id, hid, g, hg, hp⟩
    exact ⟨id, (hknown id g hg).mp hid, g, hg, hp⟩
  · rintro ⟨id, hid, g, hg, hp⟩
    exact ⟨id, (hknown id g hg).mpr hid, g, hg, hp⟩

end Rule

/-! ## Rules that cover alike -/

namespace Scope

variable {geographies geographies' : List Geography} {ids : List (Identifier .geography)}
  {s : Scope}

/-- Whether a rule covers an event is a matter of the positions in what it
names. -/
theorem covers_naming (h : ∀ p, Geography.anyContains geographies' ids p
      = Geography.anyContains geographies s.geographies p) (clock : Clock) (e : Event) :
    (s.naming ids).covers ⟨clock, geographies'⟩ e = s.covers ⟨clock, geographies⟩ e := by
  unfold covers
  cases e.telemetry with
  | none => rfl
  | some t => exact h t.fix.position

end Scope

section CoversAlike

variable {geographies geographies' : List Geography} (clock : Clock)

/-- **Rules that cover alike match the same vehicles**, whatever their kind. -/
theorem Rule.CoversAlike.isMatch_eq {r r' : Rule}
    (h : Rule.CoversAlike geographies geographies' r r') (v : Entrant) :
    r'.isMatch ⟨clock, geographies'⟩ v = r.isMatch ⟨clock, geographies⟩ v := by
  obtain ⟨ids, rfl, hcovers⟩ := h
  have hinside := Scope.covers_naming hcovers clock v.event
  cases r with
  | count r =>
    exact congrArg (r.scope.accepts ⟨clock, geographies⟩ v && ·) hinside
  | speed r =>
    exact congrArg (fun inside => r.scope.accepts ⟨clock, geographies⟩ v && inside
      && (r.speed? v.event).any fun speed => r.maximum.all (speed ≥ ·)) hinside
  | time r =>
    exact congrArg (r.scope.accepts ⟨clock, geographies⟩ v
      && r.maximum.all (r.dwell clock.now v.event ≥ ·) && ·) hinside

/-- Count rules cover alike as rules do. -/
def CountRule.CoversAlike (geographies geographies' : List Geography) (r r' : CountRule) : Prop :=
  Rule.CoversAlike geographies geographies' (.count r) (.count r')

/-- **Count rules that cover alike make the same of a ledger**: they claim the
same vehicles, let the same overflow and lack as many. -/
theorem Ledger.apply_of_coversAlike {r r' : CountRule}
    (h : r.CoversAlike geographies geographies' r') (entrants : List Entrant) (l : Ledger) :
    Ledger.apply ⟨clock, geographies'⟩ entrants l r'
      = Ledger.apply ⟨clock, geographies⟩ entrants l r := by
  have hmatch : r'.isMatch ⟨clock, geographies'⟩ = r.isMatch ⟨clock, geographies⟩ :=
    funext (Rule.CoversAlike.isMatch_eq clock h)
  obtain ⟨ids, hr', -⟩ := h
  obtain rfl := Rule.count.inj hr'
  have hvisit : Ledger.visit { r with scope := r.scope.naming ids } ⟨clock, geographies'⟩
      = Ledger.visit r ⟨clock, geographies⟩ := by
    funext s v
    rw [visit, visit, hmatch]
    rfl
  rw [apply, apply, hvisit]
  rfl

/-- The ledgers of count rules that cover alike are the same. -/
theorem foldl_apply_of_coversAlike {rules rules' : List CountRule}
    (h : List.Forall₂ (CountRule.CoversAlike geographies geographies') rules rules')
    (entrants : List Entrant) (l : Ledger) :
    rules'.foldl (Ledger.apply ⟨clock, geographies'⟩ entrants) l
      = rules.foldl (Ledger.apply ⟨clock, geographies⟩ entrants) l := by
  induction h generalizing l with
  | nil => rfl
  | cons hr _ ih =>
    rw [List.foldl_cons, List.foldl_cons, ih, Ledger.apply_of_coversAlike clock hr]

variable {rules rules' : List Rule}
  (h : List.Forall₂ (Rule.CoversAlike geographies geographies') rules rules')

include h

/-- The kinds of rules that cover alike are the same. -/
theorem map_kind_of_coversAlike : rules'.map Rule.kind = rules.map Rule.kind := by
  induction h with
  | nil => rfl
  | cons hr _ ih =>
    obtain ⟨ids, rfl, -⟩ := hr
    rw [List.map_cons, List.map_cons, ih, Rule.kind_naming]

/-- The same rules are written down for a vehicle. -/
theorem matchedRules_of_coversAlike (v : Entrant) :
    matchedRules rules' ⟨clock, geographies'⟩ v = matchedRules rules ⟨clock, geographies⟩ v := by
  unfold matchedRules
  induction h with
  | nil => rfl
  | cons hr _ ih =>
    rw [List.filter_cons, List.filter_cons, hr.isMatch_eq clock]
    obtain ⟨ids, rfl, -⟩ := hr
    split
    · rw [List.map_cons, List.map_cons, ih, Rule.ruleId_naming]
    · exact ih

/-- Rules of which each claims all that it matches claim the same vehicles. -/
theorem foldl_claims_of_coversAlike (s : Claims) :
    rules'.foldl (Claims.apply ⟨clock, geographies'⟩) s
      = rules.foldl (Claims.apply ⟨clock, geographies⟩) s := by
  induction h generalizing s with
  | nil => rfl
  | cons hr _ ih =>
    have hmatch := funext (hr.isMatch_eq clock)
    rw [List.foldl_cons, List.foldl_cons, ih, Claims.apply, Claims.apply, hmatch]
    obtain ⟨ids, rfl, -⟩ := hr
    rw [Rule.ruleId_naming]

end CoversAlike

/-! ## Evaluation -/

namespace Policy

variable (p : Policy)

/-- Whether a rule of a policy names a geography. -/
def Names (id : Identifier .geography) : Prop := ∃ r ∈ p.rules, id ∈ r.scope.geographies

/-- **Two lists of geographies look alike to a policy**: of each name that one
of its rules has, the last geographies in them are the same, or it has none in
either. -/
def SeesAlike (geographies geographies' : List Geography) : Prop :=
  ∀ id, p.Names id → (Geography.bearing geographies id).getLast?
    = (Geography.bearing geographies' id).getLast?

/-- **A policy is spelled anew**, rule by rule. -/
structure Respelled (geographies : List Geography) (p p' : Policy) : Prop where
  same : p' = { p with rules := p'.rules }
  rules : List.Forall₂ (Rule.Respelled geographies) p.rules p'.rules

variable {p}

/-- A policy sees alike with and without a geography that it does not name, and
with and without one that is followed by another of its name. -/
theorem seesAlike_of_superfluous {g : Geography} (before : List Geography)
    {after : List Geography}
    (h : ¬ p.Names g.geographyId ∨ ∃ g' ∈ after, g'.geographyId = g.geographyId) :
    p.SeesAlike (before ++ g :: after) (before ++ after) := by
  intro id hid
  by_cases hg : g.geographyId = id
  · subst hg
    exact Geography.getLast?_bearing_append_cons (h.resolve_left (fun hnot => hnot hid)) before
  · rw [Geography.bearing_append_cons_of_ne hg]

/-- A policy sees alike where two geographies of distinct names have changed
places. -/
theorem seesAlike_of_swap {g g' : Geography} (h : g.geographyId ≠ g'.geographyId)
    (before after : List Geography) :
    p.SeesAlike (before ++ g :: g' :: after) (before ++ g' :: g :: after) := by
  intro id _
  by_cases hg : g.geographyId = id
  · have hg' : g'.geographyId ≠ id := fun hid => h (hg.trans hid.symm)
    rw [Geography.bearing_append_cons_of_ne hg' before, List.append_cons,
      Geography.bearing_append_cons_of_ne hg', ← List.append_cons]
  · rw [Geography.bearing_append_cons_of_ne hg before, List.append_cons before g' (g :: after),
      Geography.bearing_append_cons_of_ne hg, ← List.append_cons]

end Policy

namespace Engine

variable (e : Engine) {p p' : Policy} {geographies geographies' : List Geography}

/-- The count rules of policies whose rules cover alike cover alike. -/
theorem countRules_of_coversAlike
    (h : List.Forall₂ (Rule.CoversAlike geographies geographies') p.rules p'.rules) :
    List.Forall₂ (CountRule.CoversAlike geographies geographies') (countRules p)
      (countRules p') := by
  refine List.rel_filterMap ?_ h
  rintro r _ ⟨ids, rfl, hcovers⟩
  cases r with
  | count r => exact .some ⟨ids, rfl, hcovers⟩
  | speed r => exact .none
  | time r => exact .none

/-- The verdicts on policies whose rules cover alike are the same, as of any
kind. -/
theorem verdictAs_of_coversAlike
    (h : List.Forall₂ (Rule.CoversAlike geographies geographies') p.rules p'.rules)
    (kind : RuleKind) (fleet : Fleet) :
    e.verdictAs kind p' geographies' fleet = e.verdictAs kind p geographies fleet := by
  have hannotate : annotate p'.rules ⟨e.clock, geographies'⟩ (e.prepare fleet)
      = annotate p.rules ⟨e.clock, geographies⟩ (e.prepare fleet) := by
    funext v
    unfold annotate
    simp only [matchedRules_of_coversAlike e.clock h]
  have hcount : e.countVerdict p' geographies' fleet = e.countVerdict p geographies fleet := by
    rw [countVerdict, countVerdict, hannotate, countLedger, countLedger,
      foldl_apply_of_coversAlike e.clock (countRules_of_coversAlike h)]
  have hfirst : e.firstMatchVerdict p' geographies' fleet
      = e.firstMatchVerdict p geographies fleet := by
    rw [firstMatchVerdict, firstMatchVerdict, hannotate, firstMatches, firstMatches,
      foldl_claims_of_coversAlike e.clock h]
  cases kind with
  | count => exact hcount
  | speed => exact hfirst
  | time => exact hfirst

/-- **Policies whose rules cover alike are evaluated alike**: they are refused
for the same reason, or come to the same verdict. -/
theorem evaluate_of_coversAlike (hid : p'.policyId = p.policyId)
    (h : List.Forall₂ (Rule.CoversAlike geographies geographies') p.rules p'.rules)
    (fleet : Fleet) :
    e.evaluate p' geographies' fleet = e.evaluate p geographies fleet := by
  have hkind : p'.ruleKind = p.ruleKind := by
    rw [Policy.ruleKind, Policy.ruleKind, map_kind_of_coversAlike h, hid]
  rw [evaluate, evaluate, hkind, hid]
  split
  · rfl
  · rfl
  · rename_i kind hp
    rw [evaluateAs_of_isOfKind (Policy.ruleKind_eq_ok_some_iff.mp hp).2,
      evaluateAs_of_isOfKind (Policy.ruleKind_eq_ok_some_iff.mp (hkind.trans hp)).2,
      e.verdictAs_of_coversAlike h]

/-- Lists that look alike to a policy make no difference to it. -/
theorem evaluate_of_seesAlike (h : p.SeesAlike geographies geographies') (fleet : Fleet) :
    e.evaluate p geographies' fleet = e.evaluate p geographies fleet := by
  refine e.evaluate_of_coversAlike rfl (List.forall₂_same.mpr (fun r hr => ?_)) fleet
  refine Rule.coversAlike_of_find? (fun id hid => ?_)
  rw [Geography.find?_eq_getLast?, Geography.find?_eq_getLast?, h id ⟨r, hr, hid⟩]

/-- **A policy sees of a list of geographies the last one of each name that it
has, and nothing else.** Lists that are alike in this give the same result, be
it a verdict or a fault; so a geography that no rule names may be left out, and
one that is followed by another of its name, and geographies of distinct names
may change places. And a policy sees of its names the known ones. If every rule
is spelled anew, without the names that no geography bears, and with the others
in another order and as often as one likes, the result is the same as well. -/
theorem evaluate_noninterference (e : Engine) (p : Policy) (geographies : List Geography)
    (fleet : Fleet) :
    (∀ geographies', p.SeesAlike geographies geographies' →
        e.evaluate p geographies' fleet = e.evaluate p geographies fleet)
      ∧ (∀ before g after, geographies = before ++ g :: after →
          (¬ p.Names g.geographyId ∨ ∃ g' ∈ after, g'.geographyId = g.geographyId) →
          e.evaluate p (before ++ after) fleet = e.evaluate p geographies fleet)
      ∧ (∀ before g g' after, geographies = before ++ g :: g' :: after →
          g.geographyId ≠ g'.geographyId →
          e.evaluate p (before ++ g' :: g :: after) fleet = e.evaluate p geographies fleet)
      ∧ ∀ p', p.Respelled geographies p' →
          e.evaluate p' geographies fleet = e.evaluate p geographies fleet := by
  refine ⟨fun _ h => e.evaluate_of_seesAlike h fleet, ?_, ?_, fun p' h => ?_⟩
  · rintro before g after rfl h
    exact e.evaluate_of_seesAlike (Policy.seesAlike_of_superfluous before h) fleet
  · rintro before g g' after rfl h
    exact e.evaluate_of_seesAlike (Policy.seesAlike_of_swap h before after) fleet
  · have hid : p'.policyId = p.policyId := by rw [h.same]
    exact e.evaluate_of_coversAlike hid (h.rules.imp (fun _ _ hr => hr.coversAlike)) fleet

end Engine

/-! ### A zone among others -/

namespace Sample

/-- A zone of another name, and one of the zone's own name; neither has an
inside. -/
def remoteZone : Geography :=
  { zone with geographyId := id 2, shape := .geometry (.point [0.5, 0.5]) }

@[inherit_doc remoteZone]
def formerZone : Geography := { zone with shape := .geometry (.point [0.5, 0.5]) }

/-- The zone behind one that no rule names and one that it replaces. -/
def crowdedZones : List Geography := [remoteZone, formerZone, zone]

/-- The rules of the sample policy, which name the zone twice, and one that
nobody has heard of. -/
def respelledPolicy : Policy :=
  { policy with rules := policy.rules.map (·.naming [id 7, id 1, id 1]) }

/-- The sample policy names the zone and nothing else. -/
theorem eq_of_names_policy {i : Identifier .geography} (h : policy.Names i) : i = id 1 := by
  obtain ⟨r, hr, hi⟩ := h
  have hnames : ∀ r ∈ policy.rules, r.scope.geographies = [Sample.id 1] := by decide
  rw [hnames r hr, List.mem_singleton] at hi
  exact hi

/-- The sample policy sees the zone in both lists, and nothing else. -/
theorem seesAlike_crowdedZones : policy.SeesAlike [zone] crowdedZones := by
  intro i hi
  rw [eq_of_names_policy hi]
  rfl

/-- Of the three names of a rule in the list two are known, and they are one. -/
theorem respelled_respelledPolicy : policy.Respelled crowdedZones respelledPolicy where
  same := rfl
  rules := by
    refine List.forall₂_map_right_iff.mpr (List.forall₂_same.mpr (fun r hr => ?_))
    refine ⟨[id 7, id 1, id 1], rfl, ?_⟩
    revert r
    decide

end Sample

/-- Neither the other geographies nor the other names make a difference to the
three vehicles in the zone. -/
theorem evaluate_noninterference_crowded :
    Sample.policy.SeesAlike [Sample.zone] Sample.crowdedZones
      ∧ Sample.policy.Respelled Sample.crowdedZones Sample.respelledPolicy
      ∧ ∃ verdict, Sample.engine.evaluate Sample.respelledPolicy Sample.crowdedZones Sample.fleet
            = .ok verdict
        ∧ Sample.engine.evaluate Sample.policy [Sample.formerZone, Sample.zone] Sample.fleet
            = .ok verdict
        ∧ Sample.engine.evaluate Sample.policy [Sample.remoteZone, Sample.zone] Sample.fleet
            = .ok verdict
        ∧ Sample.engine.evaluate Sample.policy
              [Sample.formerZone, Sample.remoteZone, Sample.zone] Sample.fleet
            = .ok verdict
        ∧ verdict.vehiclesFound.map (fun m => (m.deviceId, m.ruleApplied))
            = [(Sample.id 1, some (Sample.id 1)), (Sample.id 2, some (Sample.id 2)),
              (Sample.id 3, none)] := by
  have hgreedy := Sample.engine.evaluate_count (rfl : Sample.policy.rules = _)
    (List.cons_ne_nil _ _) [Sample.zone] Sample.fleet
  rw [← (Sample.engine.evaluate_noninterference Sample.policy [Sample.zone] Sample.fleet).1 _
    Sample.seesAlike_crowdedZones, Sample.entrants_eq] at hgreedy
  obtain ⟨-, hsuperfluous, hswap, hrespelled⟩ := Sample.engine.evaluate_noninterference
    Sample.policy Sample.crowdedZones Sample.fleet
  have hunnamed : ¬ Sample.policy.Names Sample.remoteZone.geographyId :=
    fun h => absurd (Sample.eq_of_names_policy h) (by decide)
  refine ⟨Sample.seesAlike_crowdedZones, Sample.respelled_respelledPolicy, _,
    (hrespelled _ Sample.respelled_respelledPolicy).trans hgreedy, ?_, ?_, ?_, rfl⟩
  · exact (hsuperfluous [] _ _ rfl (Or.inl hunnamed)).trans hgreedy
  · exact (hsuperfluous [_] _ _ rfl (Or.inr ⟨_, List.mem_cons_self, rfl⟩)).trans hgreedy
  · exact (hswap [] _ _ _ rfl (by decide)).trans hgreedy

end FleetCompliance

import FleetCompliance.Proofs.Found
import FleetCompliance.Proofs.Restriction

/-!
# Counting under the first rule

A policy of speed or time rules is evaluated rule by rule, and every rule sees
only what the rules before it have left. Still nothing depends on the other
vehicles: a vehicle counts under the first rule that matches it, wherever it
stands and whoever was claimed before (`firstClaims_eq_flatMap`). The verdict
lists the vehicles of the first rule, then those of the second one, and so on,
each group in order of time.

So the verdict on two fleets that have no device in common is put together
from the verdicts on each (`Engine.evaluateAs_firstMatch`). It is not one list
behind the other, as the vehicles of both are mixed within each rule and then
in time; but the vehicles of one fleet stand in it as they stand by
themselves.
-/

namespace FleetCompliance

/-! ## The place of the first rule -/

/-- **The place of the first rule that matches a vehicle**, counted from
zero; the number of the rules if none does. -/
def firstMatching (c : Context) (rules : List Rule) (v : Entrant) : ℕ :=
  rules.findIdx (·.isMatch c v)

section Places

variable {c : Context} {r : Rule} {v : Entrant} (rules : List Rule)

/-- A vehicle that the first rule matches is at place zero. -/
theorem firstMatching_cons_of_isMatch (h : r.isMatch c v = true) :
    firstMatching c (r :: rules) v = 0 := by
  rw [firstMatching, List.findIdx_cons, h, cond_true]

/-- A vehicle that the first rule does not match is one place behind its place
among the others. -/
theorem firstMatching_cons_of_not_isMatch (h : r.isMatch c v = false) :
    firstMatching c (r :: rules) v = firstMatching c rules v + 1 := by
  rw [firstMatching, List.findIdx_cons, h, cond_false, firstMatching]

end Places

/-- **What rules claim in turn is what each of them matches first.** The
vehicles left to a rule have shrunk by the time of its turn, but a vehicle for
which it is the first to match is among them. -/
theorem firstClaims_eq_flatMap (c : Context) (rules : List Rule) (w : List Entrant) :
    firstClaims c rules w = rules.zipIdx.flatMap fun (r, i) =>
      (w.filter fun v => firstMatching c rules v = i).map fun v => (r, v) := by
  induction rules generalizing w with
  | nil => rfl
  | cons r rules ih =>
    have hown : (w.filter fun v => firstMatching c (r :: rules) v = 0)
        = w.filter (r.isMatch c) := by
      refine List.filter_congr (fun v _ => ?_)
      cases hv : r.isMatch c v with
      | true => rw [firstMatching_cons_of_isMatch rules hv, decide_eq_true rfl]
      | false => simp [firstMatching_cons_of_not_isMatch rules hv]
    -- the places of the other rules are counted from the second one
    have hothers : ∀ i, (w.filter fun v => firstMatching c (r :: rules) v = i + 1)
        = (w.filter fun v => !r.isMatch c v).filter fun v => firstMatching c rules v = i := by
      intro i
      rw [List.filter_filter]
      refine List.filter_congr (fun v _ => ?_)
      cases hv : r.isMatch c v with
      | true => simp [firstMatching_cons_of_isMatch rules hv]
      | false => simp [firstMatching_cons_of_not_isMatch rules hv]
    rw [firstClaims, ih, List.zipIdx_cons, List.flatMap_cons, Nat.zero_add, List.zipIdx_succ,
      List.flatMap_map]
    dsimp only
    rw [hown]
    simp only [hothers]

/-- What is claimed of some vehicles is claimed of them alone. -/
theorem firstClaims_filter (c : Context) (rules : List Rule) (p : Entrant → Bool)
    (w : List Entrant) :
    firstClaims c rules (w.filter p) = (firstClaims c rules w).filter fun rv => p rv.2 := by
  induction rules generalizing w with
  | nil => rfl
  | cons r rules ih =>
    have hcomm : ∀ q : Entrant → Bool, (w.filter p).filter q = (w.filter q).filter p := by
      intro q
      rw [List.filter_filter, List.filter_filter]
      exact List.filter_congr (fun v _ => Bool.and_comm _ _)
    rw [firstClaims, firstClaims, hcomm, hcomm, ih, List.filter_append, List.filter_map]
    rfl

/-! ## Fleets without a common device -/

namespace Fleet

/-- The devices that are registered in a fleet or report in it. -/
def deviceIds (f : Fleet) : List (Identifier .device) :=
  f.devices.map (·.deviceId) ++ f.events.map (·.deviceId)

variable {f f' : Fleet} {keep : Identifier .device → Bool}

/-- Of its own devices a fleet is the whole. -/
theorem ofDevices_eq_self (h : ∀ id ∈ f.deviceIds, keep id = true) : f.ofDevices keep = f := by
  unfold ofDevices
  rw [List.filter_eq_self.mpr, List.filter_eq_self.mpr]
  · exact fun x hx => h _ (List.mem_append_right _ (List.mem_map_of_mem hx))
  · exact fun d hd => h _ (List.mem_append_left _ (List.mem_map_of_mem hd))

/-- Of other devices a fleet has nothing. -/
theorem ofDevices_eq_empty (h : ∀ id ∈ f.deviceIds, ¬ keep id = true) :
    f.ofDevices keep = empty := by
  unfold ofDevices empty
  rw [List.filter_eq_nil_iff.mpr, List.filter_eq_nil_iff.mpr]
  · exact fun x hx => h _ (List.mem_append_right _ (List.mem_map_of_mem hx))
  · exact fun d hd => h _ (List.mem_append_left _ (List.mem_map_of_mem hd))

/-- Two fleets together have the devices of both. -/
theorem ofDevices_append :
    (f ++ f').ofDevices keep = f.ofDevices keep ++ f'.ofDevices keep := by
  show Fleet.mk ((f.devices ++ f'.devices).filter _) ((f.events ++ f'.events).filter _) = _
  rw [List.filter_append, List.filter_append]
  rfl

/-- The devices of two fleets together are those of each. -/
theorem mem_deviceIds_append {id : Identifier .device} :
    id ∈ (f ++ f').deviceIds ↔ id ∈ f.deviceIds ∨ id ∈ f'.deviceIds := by
  show id ∈ (f.devices ++ f'.devices).map _ ++ (f.events ++ f'.events).map _ ↔ _
  simp only [deviceIds, List.map_append, List.mem_append]
  exact or_or_or_comm

/-- **The first of two fleets without a common device** is found in both by its
devices. -/
theorem ofDevices_append_left (h : f.deviceIds.Disjoint f'.deviceIds) :
    (f ++ f').ofDevices f.deviceIds.contains = f := by
  rw [ofDevices_append, ofDevices_eq_self (fun id hid => List.contains_iff_mem.mpr hid),
    ofDevices_eq_empty (fun id hid hown => h (List.contains_iff_mem.mp hown) hid)]
  show Fleet.mk (_ ++ []) (_ ++ []) = f
  rw [List.append_nil, List.append_nil]

/-- **The second of two fleets without a common device** is found in both by
its devices. -/
theorem ofDevices_append_right (h : f.deviceIds.Disjoint f'.deviceIds) :
    (f ++ f').ofDevices f'.deviceIds.contains = f' := by
  rw [ofDevices_append,
    ofDevices_eq_empty (fun id hid hown => h hid (List.contains_iff_mem.mp hown)),
    ofDevices_eq_self (fun id hid => List.contains_iff_mem.mpr hid)]
  rfl

end Fleet

namespace Engine

variable (e : Engine) (p : Policy) (geographies : List Geography)

/-- **The vehicles found among some devices** are those found among all, of
these devices. -/
theorem vehiclesFound_ofDevices (keep : Identifier .device → Bool) (f : Fleet) :
    (e.firstMatchVerdict p geographies (f.ofDevices keep)).vehiclesFound
      = (e.firstMatchVerdict p geographies f).vehiclesFound.filter (keep ·.deviceId) := by
  have hentrants : (e.prepare (f.ofDevices keep)).entrants
      = (e.prepare f).entrants.filter (keep ·.event.deviceId) :=
    PreparedFleet.entrants_ofDevices keep f e.clock.now e.window
  rw [vehiclesFound_firstMatchVerdict, vehiclesFound_firstMatchVerdict, hentrants,
    firstClaims_filter, List.filter_map]
  rfl

/-- What is found in a fleet are devices of it. -/
theorem mem_deviceIds_of_found {f : Fleet} {m : MatchedVehicle}
    (hm : m ∈ (e.firstMatchVerdict p geographies f).vehiclesFound) :
    m.deviceId ∈ f.deviceIds := by
  have hid := (e.found_firstMatchVerdict_perm geographies f).subset (List.mem_map_of_mem hm)
  obtain ⟨v, hv, heq⟩ := List.mem_map.mp hid
  have hentrant := PreparedFleet.mem_entrants_iff.mp (List.mem_of_mem_filter hv)
  have hevent : v.event ∈ f.events := (PreparedFleet.mem_events hentrant.1).1
  rw [← heq]
  exact List.mem_append_right _ (List.mem_map_of_mem hevent)

section Apart

variable {f f' : Fleet} (h : f.deviceIds.Disjoint f'.deviceIds)

include h

/-- In two fleets together the vehicles of the first are found as in it
alone. -/
theorem vehiclesFound_append_left :
    (e.firstMatchVerdict p geographies (f ++ f')).vehiclesFound.filter
        (f.deviceIds.contains ·.deviceId)
      = (e.firstMatchVerdict p geographies f).vehiclesFound := by
  rw [← vehiclesFound_ofDevices, Fleet.ofDevices_append_left h]

/-- In two fleets together the vehicles of the second are found as in it
alone. -/
theorem vehiclesFound_append_right :
    (e.firstMatchVerdict p geographies (f ++ f')).vehiclesFound.filter
        (f'.deviceIds.contains ·.deviceId)
      = (e.firstMatchVerdict p geographies f').vehiclesFound := by
  rw [← vehiclesFound_ofDevices, Fleet.ofDevices_append_right h]

/-- In two fleets together as many vehicles are found as in each. -/
theorem length_vehiclesFound_append :
    (e.firstMatchVerdict p geographies (f ++ f')).vehiclesFound.length
      = (e.firstMatchVerdict p geographies f).vehiclesFound.length
        + (e.firstMatchVerdict p geographies f').vehiclesFound.length := by
  set found := (e.firstMatchVerdict p geographies (f ++ f')).vehiclesFound with hfound
  -- what is not of the first fleet is of the second
  have hother : (found.filter fun m => !f.deviceIds.contains m.deviceId)
      = found.filter (f'.deviceIds.contains ·.deviceId) := by
    refine List.filter_congr (fun m hm => ?_)
    have hmem := Fleet.mem_deviceIds_append.mp (e.mem_deviceIds_of_found p geographies hm)
    rw [Bool.eq_iff_iff, Bool.not_eq_true', ← Bool.not_eq_true, List.contains_iff_mem,
      List.contains_iff_mem]
    exact ⟨hmem.resolve_left, fun hsecond hfirst => h hfirst hsecond⟩
  have hsplit := (List.filter_append_perm (f.deviceIds.contains ·.deviceId) found).length_eq
  rw [hother, List.length_append, hfound, e.vehiclesFound_append_left p geographies h,
    e.vehiclesFound_append_right p geographies h] at hsplit
  exact hsplit.symm

end Apart

/-! ## The verdict -/

variable {p}

/-- A policy of speed or of time rules is evaluated by first matches. -/
theorem evaluateAs_of_ne_count {kind : RuleKind} (hkind : kind ≠ .count) (hp : p.IsOfKind kind)
    (f : Fleet) :
    e.evaluateAs kind p geographies f = .ok (e.firstMatchVerdict p geographies f) := by
  rw [evaluateAs_of_isOfKind hp]
  cases kind with
  | count => exact absurd rfl hkind
  | speed => rfl
  | time => rfl

/-- The violations of first matches are the vehicles found. -/
theorem violations_firstMatchVerdict (f : Fleet) :
    (e.firstMatchVerdict p geographies f).violations
      = some (UInt64.ofNat (e.firstMatchVerdict p geographies f).vehiclesFound.length) := by
  show some (UInt64.ofNat _) = some (UInt64.ofNat (List.map _ _).length)
  rw [List.length_map]

/-- No more vehicles are found than there are events. -/
theorem length_vehiclesFound_le (f : Fleet) :
    (e.firstMatchVerdict p geographies f).vehiclesFound.length ≤ f.events.length := by
  have hperm := (e.found_firstMatchVerdict_perm (p := p) geographies f).length_eq
  rw [List.length_map, List.length_map] at hperm
  rw [hperm]
  exact (List.length_filter_le _ _).trans (PreparedFleet.length_entrants_le f _ _)

/-- The violations of first matches are counted exactly, as long as the events
can be counted by a word. -/
theorem violations_firstMatchVerdict_exact {f : Fleet} (hfits : f.events.length < 2 ^ 64) :
    ∃ n, (e.firstMatchVerdict p geographies f).violations = some n
      ∧ n.toNat = (e.firstMatchVerdict p geographies f).vehiclesFound.length :=
  ⟨_, e.violations_firstMatchVerdict geographies f,
    UInt64.toNat_ofNat_of_lt' (lt_of_le_of_lt (e.length_vehiclesFound_le geographies f) hfits)⟩

/-- The vehicles found are those of each rule that is the first to match
them. -/
theorem vehiclesFound_eq_flatMap (f : Fleet) :
    (e.firstMatchVerdict p geographies f).vehiclesFound
      = p.rules.zipIdx.flatMap fun (r, i) =>
          ((e.prepare f).entrants.filter fun v =>
            firstMatching ⟨e.clock, geographies⟩ p.rules v = i).map fun v =>
              v.entry (some r.ruleId) (matchedRules p.rules ⟨e.clock, geographies⟩ v) := by
  rw [vehiclesFound_firstMatchVerdict, firstClaims_eq_flatMap, List.map_flatMap]
  simp only [List.map_map]
  rfl

section Apart

variable {f f' : Fleet} (h : f.deviceIds.Disjoint f'.deviceIds)

include h

/-- The violations of two fleets add up: as words, and as numbers as long as the
events of both fleets can be counted by a word. -/
theorem violations_append :
    ∃ n n', (e.firstMatchVerdict p geographies f).violations = some n
      ∧ (e.firstMatchVerdict p geographies f').violations = some n'
      ∧ (e.firstMatchVerdict p geographies (f ++ f')).violations = some (n + n')
      ∧ (f.events.length + f'.events.length < 2 ^ 64 →
          (n + n').toNat = n.toNat + n'.toNat) := by
  refine ⟨_, _, e.violations_firstMatchVerdict geographies f,
    e.violations_firstMatchVerdict geographies f', ?_, fun hfits => ?_⟩
  · rw [violations_firstMatchVerdict, e.length_vehiclesFound_append p geographies h,
      UInt64.ofNat_add]
  · have hboth : (e.firstMatchVerdict p geographies f).vehiclesFound.length
        + (e.firstMatchVerdict p geographies f').vehiclesFound.length < 2 ^ 64 :=
      lt_of_le_of_lt (Nat.add_le_add (e.length_vehiclesFound_le geographies f)
        (e.length_vehiclesFound_le geographies f')) hfits
    rw [← UInt64.ofNat_add, UInt64.toNat_ofNat_of_lt' hboth,
      UInt64.toNat_ofNat_of_lt' (lt_of_le_of_lt (Nat.le_add_right _ _) hboth),
      UInt64.toNat_ofNat_of_lt' (lt_of_le_of_lt (Nat.le_add_left _ _) hboth)]

end Apart

/-- **Speed and time policies count every vehicle under its first rule.** The
vehicles found are, rule by rule, the vehicles of the lineup whose first
matching rule it is, in order of time, and each of them is a violation.

Hence fleets without a common device do not influence each other: in the
verdict on both together, the vehicles of each stand as in the verdict on it
alone, and the violations add up. -/
theorem evaluateAs_firstMatch {kind : RuleKind} (hkind : kind ≠ .count)
    (hp : p.IsOfKind kind) (f : Fleet) :
    let c : Context := ⟨e.clock, geographies⟩
    let w := (e.prepare f).entrants
    Lineup f e.clock.now e.window w
      ∧ ∃ verdict : Tally,
        e.evaluateAs kind p geographies f = .ok verdict
          ∧ (p.rules ≠ [] → e.evaluate p geographies f = .ok verdict)
          ∧ verdict.vehiclesFound
              = (p.rules.zipIdx.flatMap fun (r, i) =>
                  (w.filter fun v => firstMatching c p.rules v = i).map fun v =>
                    v.entry (some r.ruleId) (matchedRules p.rules c v))
          ∧ verdict.excess = 0
          ∧ verdict.violations = some (UInt64.ofNat verdict.vehiclesFound.length)
          ∧ (f.events.length < 2 ^ 64 →
              ∃ n, verdict.violations = some n ∧ n.toNat = verdict.vehiclesFound.length)
          ∧ ∀ f' : Fleet, f.deviceIds.Disjoint f'.deviceIds →
            ∃ verdict' both : Tally,
              e.evaluateAs kind p geographies f' = .ok verdict'
                ∧ e.evaluateAs kind p geographies (f ++ f') = .ok both
                ∧ both.vehiclesFound.filter (f.deviceIds.contains ·.deviceId)
                    = verdict.vehiclesFound
                ∧ both.vehiclesFound.filter (f'.deviceIds.contains ·.deviceId)
                    = verdict'.vehiclesFound
                ∧ both.vehiclesFound.length
                    = verdict.vehiclesFound.length + verdict'.vehiclesFound.length
                ∧ ∃ n n', verdict.violations = some n ∧ verdict'.violations = some n'
                    ∧ both.violations = some (n + n')
                    ∧ (f.events.length + f'.events.length < 2 ^ 64 →
                        (n + n').toNat = n.toNat + n'.toNat) := by
  intro c w
  refine ⟨lineup_entrants f e.clock.now e.window, e.firstMatchVerdict p geographies f,
    e.evaluateAs_of_ne_count geographies hkind hp f, fun hne => ?_,
    e.vehiclesFound_eq_flatMap geographies f, rfl, e.violations_firstMatchVerdict geographies f,
    e.violations_firstMatchVerdict_exact geographies, fun f' hapart => ?_⟩
  · refine evaluate_eq_ok_iff.mpr ⟨kind, hne, hp, ?_⟩
    exact Except.ok.inj ((e.evaluateAs_of_ne_count geographies hkind hp f).symm.trans
      (evaluateAs_of_isOfKind hp))
  · exact ⟨e.firstMatchVerdict p geographies f', e.firstMatchVerdict p geographies (f ++ f'),
      e.evaluateAs_of_ne_count geographies hkind hp f',
      e.evaluateAs_of_ne_count geographies hkind hp (f ++ f'),
      e.vehiclesFound_append_left p geographies hapart,
      e.vehiclesFound_append_right p geographies hapart,
      e.length_vehiclesFound_append p geographies hapart, e.violations_append geographies hapart⟩

end Engine

/-! ### Two fleets, mixed within a rule

The first rule is for the fast vehicles, and the second one for all that are
not slow. One fleet has a vehicle for either rule, and the fast vehicle of the
other fleet reported between these two. -/

namespace Sample

/-- A vehicle that moves at a speed in metres per second. -/
def movingVehicle (n : ℕ) (speed : Float) : Entrant :=
  { vehicle n with
    event := { (vehicle n).event with
      telemetry := some ⟨⟨⟨0.5, 0.5⟩, some speed⟩, instant n⟩ } }

/-- A limit of 72 kilometres per hour, and one of ten metres per second. -/
def speedPolicy : Policy :=
  { policy with
    rules :=
      [.speed ⟨(rule 1 none none).scope, some 72, some .kilometresPerHour⟩,
        .speed ⟨(rule 2 none none).scope, some 10, none⟩] }

/-- The fleet of some vehicles. -/
def fleetOf (vehicles : List Entrant) : Fleet :=
  ⟨vehicles.map (·.device), vehicles.map (·.event)⟩

/-- A vehicle that is not slow, and a fast one. -/
def steadyFleet : Fleet := fleetOf [movingVehicle 1 12, movingVehicle 3 25]

/-- A fast vehicle. -/
def fastFleet : Fleet := fleetOf [movingVehicle 2 25]

/-- The two vehicles enter in the order in which they reported. -/
theorem entrants_steadyFleet :
    (engine.prepare steadyFleet).entrants = [movingVehicle 1 12, movingVehicle 3 25] := by
  have hrecent : recentEvents steadyFleet.events engine.clock.now engine.window
      = steadyFleet.events := List.mergeSort_of_pairwise (by decide)
  rw [Engine.prepare, PreparedFleet.ofFleet_of_recentEvents hrecent]
  rfl

/-- The vehicle of the other fleet enters between them. -/
theorem entrants_bothFleets :
    (engine.prepare (steadyFleet ++ fastFleet)).entrants
      = [movingVehicle 1 12, movingVehicle 2 25, movingVehicle 3 25] := by
  have hrecent : recentEvents (steadyFleet ++ fastFleet).events engine.clock.now engine.window
      = [movingVehicle 1 12, movingVehicle 2 25, movingVehicle 3 25].map (·.event) :=
    eq_of_perm_of_ascending Event.stamp
      ((List.mergeSort_perm _ _).trans (.cons _ (.swap _ _ _)))
      (recentEvents_pairwise _ _ _) (by decide)
  rw [Engine.prepare, PreparedFleet.ofFleet_of_recentEvents hrecent]
  rfl

end Sample

/-- The vehicle of the other fleet stands first among the fast ones. -/
theorem evaluateAs_firstMatch_mixed :
    RuleKind.speed ≠ .count ∧ Sample.speedPolicy.IsOfKind .speed
      ∧ Sample.steadyFleet.deviceIds.Disjoint Sample.fastFleet.deviceIds
      ∧ ∃ verdict both : Tally,
        Sample.engine.evaluate Sample.speedPolicy [Sample.zone] Sample.steadyFleet = .ok verdict
          ∧ Sample.engine.evaluateAs .speed Sample.speedPolicy [Sample.zone]
              (Sample.steadyFleet ++ Sample.fastFleet) = .ok both
          ∧ verdict.vehiclesFound.map (fun m => (m.deviceId, m.ruleApplied))
              = [(Sample.id 3, some (Sample.id 1)), (Sample.id 1, some (Sample.id 2))]
          ∧ both.vehiclesFound.map (fun m => (m.deviceId, m.ruleApplied))
              = [(Sample.id 2, some (Sample.id 1)), (Sample.id 3, some (Sample.id 1)),
                (Sample.id 1, some (Sample.id 2))]
          ∧ both.vehiclesFound.filter (Sample.steadyFleet.deviceIds.contains ·.deviceId)
              = verdict.vehiclesFound
          ∧ both.violations = some 3 := by
  have hkind : RuleKind.speed ≠ .count := by decide
  have hp : Sample.speedPolicy.IsOfKind .speed := by
    unfold Policy.IsOfKind
    decide
  have hapart : Sample.steadyFleet.deviceIds.Disjoint Sample.fastFleet.deviceIds := by
    unfold List.Disjoint
    decide
  obtain ⟨-, verdict, -, hverdict, hfound, -, -, -, hapart'⟩ :=
    Sample.engine.evaluateAs_firstMatch [Sample.zone] hkind hp Sample.steadyFleet
  obtain ⟨verdict', both, -, hboth, hrestricted, -, -, -⟩ := hapart' _ hapart
  obtain ⟨-, both', hboth', -, hfound', -, hcounted, -, -⟩ :=
    Sample.engine.evaluateAs_firstMatch [Sample.zone] hkind hp
      (Sample.steadyFleet ++ Sample.fastFleet)
  obtain rfl := Except.ok.inj (hboth.symm.trans hboth')
  rw [Sample.entrants_steadyFleet] at hfound
  rw [Sample.entrants_bothFleets] at hfound'
  refine ⟨hkind, hp, hapart, verdict, both, hverdict (List.cons_ne_nil _ _), hboth, ?_, ?_,
    hrestricted, ?_⟩
  · rw [hfound]
    rfl
  · rw [hfound']
    rfl
  · rw [hcounted, hfound']
    rfl

end FleetCompliance

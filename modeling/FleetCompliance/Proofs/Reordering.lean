import FleetCompliance.Proofs.CountLedger

/-!
# The order in which a fleet is listed

Room under a count rule goes to the vehicles that reported first, so that an
evaluation looks at its vehicles in an order. That order is made from the
times of the events, and where they are equal from the devices. The order in
which a fleet happens to be listed must not be seen through it, or else it
would decide who is in violation.

It would be seen in two places: of two registrations of a device the one that
is listed last counts, and so does the last of two events that a device
reports at one time. A fleet without such pairs is evaluated alike however it
is listed (`Engine.evaluate_relisted`).

The vehicles that overflow are looked up by their devices until the last rule
has had its turn, and are sorted then. So it does not matter either in which
order they have been kept (`Ledger.found_with_overflowed`).
-/

namespace FleetCompliance

/-- **Two listings of one fleet** in which no device is registered twice, and
none reports twice at one time. -/
structure Fleet.Relisted (f f' : Fleet) : Prop where
  devices : f.devices.Perm f'.devices
  events : f.events.Perm f'.events
  registered : (f.devices.map (·.deviceId)).Nodup
  reported : (f.events.map fun e => (e.deviceId, e.timestamp)).Nodup

/-! ## Preparation -/

/-- Events of distinct devices or times have distinct stamps. -/
theorem nodup_map_stamp {l : List Event} (hl : (l.map fun e => (e.deviceId, e.timestamp)).Nodup) :
    (l.map Event.stamp).Nodup := by
  refine List.pairwise_map.mpr ((List.pairwise_map.mp hl).imp (fun hne hstamp => hne ?_))
  exact Prod.ext (Stamp.device_eq_of_of_eq hstamp) (Stamp.time_eq_of_of_eq hstamp)

/-- **The recent events are the same however the events are listed**, if no
two of them have the same stamp. -/
theorem recentEvents_eq_of_perm {l l' : List Event} (h : l.Perm l')
    (hl' : (l'.map Event.stamp).Nodup) (now : Instant) (window : ℤ) :
    recentEvents l now window = recentEvents l' now window :=
  mergeSort_eq_of_perm Event.notAfter_iff (h.filter _)
    (hl'.sublist (List.filter_sublist.map _))

namespace PreparedFleet

/-- **Two prepared fleets that look alike**: they hold the same events in the
same order, and the same device is found for every identifier. -/
structure Alike (p p' : PreparedFleet) : Prop where
  events : p.events = p'.events
  device? : ∀ id, p.device? id = p'.device? id

/-- Preparing two listings of a fleet makes fleets that look alike. -/
theorem alike_ofFleet {f f' : Fleet} (h : f.Relisted f') (now : Instant) (window : ℤ) :
    (ofFleet f now window).Alike (ofFleet f' now window) where
  events := by
    have hnodup := nodup_map_stamp h.reported
    exact congrArg lastPerDevice (recentEvents_eq_of_perm h.events
      ((h.events.map _).nodup_iff.mp hnodup) now window)
  device? id := by
    have hperm : f.devices.reverse.Perm f'.devices.reverse :=
      f.devices.reverse_perm.trans (h.devices.trans f'.devices.reverse_perm.symm)
    refine find?_key_eq_of_perm (·.deviceId) hperm ?_ id
    exact ((f.devices.reverse_perm.map _).nodup_iff).mpr h.registered

namespace Alike

variable {p p' : PreparedFleet} (h : p.Alike p')

include h

/-- The same vehicles enter. -/
theorem entrants_eq : p.entrants = p'.entrants := by
  rw [entrants, entrants, h.events]
  simp only [h.device?]

/-- The same is written down for a found vehicle. -/
theorem annotate_eq (rules : List Rule) (c : Context) :
    annotate rules c p = annotate rules c p' := by
  funext v
  rw [annotate, annotate, event?, event?, h.events, h.device?]

/-- The ledger of count rules comes out the same. -/
theorem countLedger_eq (rules : List CountRule) (c : Context) :
    countLedger rules c p = countLedger rules c p' := by
  rw [countLedger, countLedger, deviceIds, deviceIds, h.entrants_eq]

/-- The rules claim the same. -/
theorem firstMatches_eq (rules : List Rule) (c : Context) :
    firstMatches rules c p = firstMatches rules c p' := by
  rw [firstMatches, firstMatches, h.entrants_eq]

end Alike

end PreparedFleet

/-! ## The vehicles that overflowed -/

/-- **The order in which overflowed vehicles are kept does not matter** for what
is found, as they are of distinct devices. -/
theorem Ledger.found_with_overflowed {l : Ledger} (hl : (l.overflowed.map (·.deviceId)).Nodup)
    {overflowed : List MatchedVehicle} (h : overflowed.Perm l.overflowed) :
    { l with overflowed }.found = l.found := by
  have hstamps : (l.overflowed.map MatchedVehicle.stamp).Nodup :=
    List.pairwise_map.mpr ((List.pairwise_map.mp hl).imp
      (fun hne hstamp => hne (Stamp.device_eq_of_of_eq hstamp)))
  exact congrArg (l.claimed ++ ·) (mergeSort_eq_of_perm MatchedVehicle.notAfter_iff h hstamps)

/-! ## Evaluation -/

namespace Engine

variable (e : Engine) (p : Policy) (geographies : List Geography) {f f' : Fleet}

/-- A policy of any kind is evaluated alike on fleets that look alike when they
are prepared. -/
theorem evaluateAs_alike (h : (e.prepare f).Alike (e.prepare f')) (kind : RuleKind) :
    e.evaluateAs kind p geographies f = e.evaluateAs kind p geographies f' := by
  have hcount : e.countVerdict p geographies f = e.countVerdict p geographies f' := by
    rw [countVerdict, countVerdict, h.countLedger_eq, h.annotate_eq]
  have hfirst : e.firstMatchVerdict p geographies f = e.firstMatchVerdict p geographies f' := by
    rw [firstMatchVerdict, firstMatchVerdict, h.firstMatches_eq, h.annotate_eq]
  unfold evaluateAs
  rw [hcount, hfirst]

/-- The same holds of the evaluation by the kind of the rules. -/
theorem evaluate_alike (h : (e.prepare f).Alike (e.prepare f')) :
    e.evaluate p geographies f = e.evaluate p geographies f' := by
  unfold evaluate
  split
  · rfl
  · rfl
  · exact e.evaluateAs_alike p geographies h _

/-- **The order in which a fleet is listed does not matter.** Whatever the
policy, its evaluation gives the same verdict, with the same vehicles in the
same order under the same rules and the same totals, or it fails with the same
fault. This holds of the evaluation by the kind of the rules and of that as
any given kind. Nor does it matter in which order the vehicles that overflowed
are kept before they are sorted. -/
theorem evaluate_relisted (h : f.Relisted f') :
    let ledger := countLedger (countRules p) ⟨e.clock, geographies⟩ (e.prepare f)
    e.evaluate p geographies f = e.evaluate p geographies f'
      ∧ (∀ kind, e.evaluateAs kind p geographies f = e.evaluateAs kind p geographies f')
      ∧ ∀ overflowed, overflowed.Perm ledger.overflowed →
          { ledger with overflowed }.found = ledger.found
            ∧ { ledger with overflowed }.excess = ledger.excess := by
  intro ledger
  have halike : (e.prepare f).Alike (e.prepare f') :=
    PreparedFleet.alike_ofFleet h e.clock.now e.window
  have hdistinct : (ledger.overflowed.map (·.deviceId)).Nodup :=
    (countLedger_represents (e.prepare_wellOrdered f) (countRules p) _).1.distinct
  refine ⟨e.evaluate_alike p geographies halike, e.evaluateAs_alike p geographies halike,
    fun overflowed hperm => ⟨Ledger.found_with_overflowed hdistinct hperm, ?_⟩⟩
  exact congrArg UInt64.ofNat hperm.length_eq

end Engine

/-! ### Three vehicles listed backwards -/

namespace Sample

/-- The sample fleet, listed backwards. -/
def reversedFleet : Fleet := ⟨fleet.devices.reverse, fleet.events.reverse⟩

/-- The sample fleet has neither two registrations of a device nor two events of
one at one time. -/
theorem relisted_reversedFleet : fleet.Relisted reversedFleet where
  devices := (List.reverse_perm _).symm
  events := (List.reverse_perm _).symm
  registered := by decide
  reported := by decide

end Sample

/-- The first vehicle of the first rule is the one that reported first, although
it is listed last. -/
theorem evaluate_relisted_reversed :
    Sample.fleet.Relisted Sample.reversedFleet
      ∧ ∃ verdict, Sample.engine.evaluate Sample.policy [Sample.zone] Sample.reversedFleet
          = .ok verdict
        ∧ verdict.vehiclesFound.map (fun m => (m.deviceId, m.ruleApplied))
            = [(Sample.id 1, some (Sample.id 1)), (Sample.id 2, some (Sample.id 2)),
              (Sample.id 3, none)] := by
  have hlisted := Sample.relisted_reversedFleet
  have hgreedy := Sample.engine.evaluate_count (rfl : Sample.policy.rules = _)
    (List.cons_ne_nil _ _) [Sample.zone] Sample.fleet
  rw [(Sample.engine.evaluate_relisted Sample.policy [Sample.zone] hlisted).1,
    Sample.entrants_eq] at hgreedy
  exact ⟨hlisted, _, hgreedy, rfl⟩

end FleetCompliance

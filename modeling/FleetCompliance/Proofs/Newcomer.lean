import FleetCompliance.Proofs.Found
import FleetCompliance.Proofs.Restriction
import FleetCompliance.Proofs.Shortfall

/-!
# One more vehicle

A vehicle joins a fleet. It may have reported before the others, and then it
takes a place that one of them had. That vehicle may be claimed by a later
rule and push out another one there, and so on through all rules.

However long this goes on, it is one vehicle at a time. Before each rule the
vehicles that are left are those that were left without the newcomer, and at
most one more (`CountRule.leaves_oneMore`): the newcomer, or the one that was
pushed out last. So at most one vehicle more is in excess in the end, and the
rules have matched no fewer.
-/

namespace FleetCompliance

/-! ## Lists with one more element -/

/-- **A list with at most one more element** than another one, which it holds
in order. -/
structure OneMore {α : Type} (l l' : List α) : Prop where
  sublist : l.Sublist l'
  length_le : l'.length ≤ l.length + 1

section Lists

variable {α β : Type} {l l' : List α}

namespace OneMore

/-- What is selected is at most one more. -/
theorem filter (h : OneMore l l') (p : α → Bool) : OneMore (l.filter p) (l'.filter p) where
  sublist := h.sublist.filter p
  length_le := by
    have hsplit := List.length_eq_countP_add_countP p (l := l)
    have hsplit' := List.length_eq_countP_add_countP p (l := l')
    have hother : l.countP (fun a => ¬ p a) ≤ l'.countP (fun a => ¬ p a) :=
      h.sublist.countP_le
    have hlength := h.length_le
    rw [← List.countP_eq_length_filter, ← List.countP_eq_length_filter]
    omega

/-- What becomes of the elements is at most one more. -/
theorem map (h : OneMore l l') (f : α → β) : OneMore (l.map f) (l'.map f) where
  sublist := h.sublist.map f
  length_le := by
    rw [List.length_map, List.length_map]
    exact h.length_le

/-- The length is the same or one more. -/
theorem length_eq_or (h : OneMore l l') :
    l'.length = l.length ∨ l'.length = l.length + 1 := by
  have hle := h.sublist.length_le
  have hlength := h.length_le
  omega

/-- A list with distinct keys has at most one element of a key. -/
theorem of_key [DecidableEq β] (key : α → β) (hl : (l.map key).Nodup) (k : β) :
    OneMore (l.filter (key · ≠ k)) l where
  sublist := List.filter_sublist
  length_le := by
    have hsplit := List.length_eq_countP_add_countP (fun a => key a ≠ k) (l := l)
    have hone : l.countP (fun a => ¬ key a ≠ k) ≤ 1 := by
      have hcount := List.nodup_iff_count_le_one.mp hl k
      rw [List.count_eq_countP, List.countP_map] at hcount
      refine le_of_eq_of_le (List.countP_congr (fun a _ => ?_)) hcount
      simp
    rw [← List.countP_eq_length_filter]
    simp only [decide_eq_true_eq] at hsplit
    omega

end OneMore

/-- An element is taken out of a list again if a predicate rejects it, and
accepts all others. -/
theorem filter_append_cons {p : α → Bool} {before after : List α} {a : α} (ha : ¬ p a = true)
    (hothers : ∀ b ∈ before ++ after, p b = true) :
    (before ++ a :: after).filter p = before ++ after := by
  rw [List.filter_append, List.filter_cons_of_neg ha, ← List.filter_append]
  exact List.filter_eq_self.mpr hothers

end Lists

/-! ## One more vehicle before each rule -/

/-- With more vehicles a rule claims no fewer of them. -/
theorem CountRule.length_claims_le (r : CountRule) (c : Context) {w w' : List Entrant}
    (hsub : w.Sublist w') : (r.claims c w).length ≤ (r.claims c w').length := by
  have hmatched : (r.matched c w).length ≤ (r.matched c w').length :=
    (hsub.filter _).length_le
  unfold claims
  split
  · rw [List.length_take, List.length_take]
    omega
  · exact hmatched

section Rules

variable {w w' : List Entrant} (h : OneMore w w') (hw' : (w'.map (·.event.deviceId)).Nodup)
  (c : Context)

include h hw'

/-- **Of one more vehicle a rule leaves at most one more**: if it takes the
newcomer, it leaves at most one of those that it took before. -/
theorem CountRule.leaves_oneMore (r : CountRule) : OneMore (r.leaves c w) (r.leaves c w') where
  sublist := leaves_sublist_leaves (Relaxes.refl r) c hw' h.sublist
  length_le := by
    have hw : (w.map (·.event.deviceId)).Nodup := hw'.sublist (h.sublist.map _)
    have hsplit := (r.claims_append_leaves_perm c hw).length_eq
    have hsplit' := (r.claims_append_leaves_perm c hw').length_eq
    have hclaims := r.length_claims_le c h.sublist
    have hlength := h.length_le
    rw [List.length_append] at hsplit hsplit'
    omega

/-- Of one more vehicle all rules leave at most one more. -/
theorem greedyRest_oneMore (rules : List CountRule) :
    OneMore (greedyRest c rules w) (greedyRest c rules w') := by
  induction rules generalizing w w' with
  | nil => exact h
  | cons r rules ih =>
    exact ih (r.leaves_oneMore h hw' c) (hw'.sublist ((r.leaves_sublist c w').map _))

/-- **Of one more vehicle at most one more goes unclaimed.** -/
theorem unclaimed_oneMore (rules : List CountRule) :
    OneMore (greedyVerdict c rules w).unclaimed (greedyVerdict c rules w').unclaimed := by
  rw [unclaimed_greedyVerdict, unclaimed_greedyVerdict]
  exact ((greedyRest_oneMore h hw' c rules).filter _).map _

end Rules

/-- With more vehicles the same ones are found, and others. -/
theorem found_subset_of_sublist (c : Context) (rules : List CountRule) {w w' : List Entrant}
    (hw' : (w'.map (·.event.deviceId)).Nodup) (hsub : w.Sublist w') :
    (greedyVerdict c rules w).vehiclesFound.map (·.deviceId)
      ⊆ (greedyVerdict c rules w').vehiclesFound.map (·.deviceId) := by
  have hfound := found_greedyVerdict_perm c rules (hw'.sublist (hsub.map _))
  have hfound' := found_greedyVerdict_perm c rules hw'
  intro id hid
  exact hfound'.symm.subset (((hsub.filter _).map _).subset (hfound.subset hid))

/-! ## A fleet that a vehicle has joined -/

/-- **A vehicle joins a fleet**: a device and an event of it, each at any
place of its list. The fleet knew nothing of the device before. -/
structure Fleet.Joined (f f' : Fleet) (d : Device) (x : Event) : Prop where
  device : ∃ before after, f.devices = before ++ after ∧ f'.devices = before ++ d :: after
  event : ∃ before after, f.events = before ++ after ∧ f'.events = before ++ x :: after
  own : x.deviceId = d.deviceId
  unregistered : ∀ d' ∈ f.devices, d'.deviceId ≠ d.deviceId
  unreported : ∀ x' ∈ f.events, x'.deviceId ≠ d.deviceId

namespace Fleet.Joined

variable {f f' : Fleet} {d : Device} {x : Event}

/-- The fleet before is the fleet of the other devices. -/
theorem ofDevices_eq (h : f.Joined f' d x) : f'.ofDevices (· ≠ d.deviceId) = f := by
  obtain ⟨dbefore, dafter, hdevices, hdevices'⟩ := h.device
  obtain ⟨xbefore, xafter, hevents, hevents'⟩ := h.event
  have hown := h.own
  have hdev : f'.devices.filter (fun d' => d'.deviceId ≠ d.deviceId) = f.devices := by
    rw [hdevices', hdevices]
    refine filter_append_cons (by simp) (fun d' hd' => ?_)
    exact decide_eq_true (h.unregistered d' (hdevices ▸ hd'))
  have hev : f'.events.filter (fun x' => x'.deviceId ≠ d.deviceId) = f.events := by
    rw [hevents', hevents]
    refine filter_append_cons (by simp [hown]) (fun x' hx' => ?_)
    exact decide_eq_true (h.unreported x' (hevents ▸ hx'))
  show Fleet.mk _ _ = f
  rw [hdev, hev]

/-- **At most one more vehicle enters the evaluation.** -/
theorem entrants (h : f.Joined f' d x) (e : Engine) :
    OneMore (e.prepare f).entrants (e.prepare f').entrants := by
  have hrestrict := PreparedFleet.entrants_ofDevices (· ≠ d.deviceId) f' e.clock.now e.window
  rw [h.ofDevices_eq] at hrestrict
  show OneMore (PreparedFleet.ofFleet f _ _).entrants (PreparedFleet.ofFleet f' _ _).entrants
  rw [hrestrict]
  exact OneMore.of_key (fun v : Entrant => v.event.deviceId) (e.entrants_distinct f') d.deviceId

end Fleet.Joined

/-! ## What a newcomer does to a verdict -/

namespace Engine

/-- **One more vehicle makes at most one more violation.** The vehicles that
were found are found again, those that were unclaimed stay unclaimed, and the
excess is the same or one more. No rule matches fewer vehicles than before,
so that the rules lack no more. The violations are what they lack and the
excess together, as a word of 64 bits, and so they rise by one at most as long
as words hold them. -/
theorem evaluateAs_count_joined (e : Engine) {p : Policy} {rules : List CountRule}
    (hp : p.rules = rules.map .count) (geographies : List Geography) {f f' : Fleet}
    {d : Device} {x : Event} (h : f.Joined f' d x) :
    ∃ verdict verdict' : Tally,
      e.evaluateAs .count p geographies f = .ok verdict
        ∧ e.evaluateAs .count p geographies f' = .ok verdict'
        ∧ verdict.vehiclesFound.map (·.deviceId) ⊆ verdict'.vehiclesFound.map (·.deviceId)
        ∧ verdict.unclaimed ⊆ verdict'.unclaimed
        ∧ verdict.excess = UInt64.ofNat verdict.unclaimed.length
        ∧ (verdict'.excess = verdict.excess ∨ verdict'.excess = verdict.excess + 1)
        ∧ List.Forall₂ (· ≤ ·) (e.matchCounts p geographies f) (e.matchCounts p geographies f')
        ∧ e.shortfall p geographies f' ≤ e.shortfall p geographies f
        ∧ verdict.violations = (Total.ofNat (e.shortfall p geographies f)).plus
            (UInt64.ofNat verdict.unclaimed.length)
        ∧ verdict'.violations = (Total.ofNat (e.shortfall p geographies f')).plus
            (UInt64.ofNat verdict'.unclaimed.length)
        ∧ e.shortfall p geographies f' + verdict'.unclaimed.length
            ≤ e.shortfall p geographies f + verdict.unclaimed.length + 1
        ∧ (e.shortfall p geographies f + verdict.unclaimed.length < 2 ^ 64 →
            e.shortfall p geographies f' + verdict'.unclaimed.length < 2 ^ 64 →
            ∃ n n', verdict.violations = some n ∧ verdict'.violations = some n'
              ∧ n'.toNat ≤ n.toNat + 1) := by
  set c : Context := ⟨e.clock, geographies⟩
  set w := (e.prepare f).entrants
  set w' := (e.prepare f').entrants
  have hw' : (w'.map (·.event.deviceId)).Nodup := e.entrants_distinct f'
  have hentrants : OneMore w w' := h.entrants e
  have hunclaimed : OneMore (greedyVerdict c rules w).unclaimed
      (greedyVerdict c rules w').unclaimed := unclaimed_oneMore hentrants hw' c rules
  have hcounts : List.Forall₂ (· ≤ ·) (e.matchCounts p geographies f)
      (e.matchCounts p geographies f') := by
    rw [matchCounts_count e hp, matchCounts_count e hp]
    exact greedyCounts_le c rules hw' hentrants.sublist
  have hshortfall : e.shortfall p geographies f' ≤ e.shortfall p geographies f :=
    lackingSum_anti _ hcounts
  have htotal : e.shortfall p geographies f' + (greedyVerdict c rules w').unclaimed.length
      ≤ e.shortfall p geographies f + (greedyVerdict c rules w).unclaimed.length + 1 := by
    have hlength := hunclaimed.length_le
    omega
  have hviolations := violations_count e hp geographies f
  have hviolations' := violations_count e hp geographies f'
  refine ⟨greedyVerdict c rules w, greedyVerdict c rules w', evaluateAs_count e hp _ _,
    evaluateAs_count e hp _ _, found_subset_of_sublist c rules hw' hentrants.sublist,
    hunclaimed.sublist.subset, excess_greedyVerdict c rules w, ?_, hcounts, hshortfall,
    hviolations, hviolations', htotal, fun hfits hfits' => ?_⟩
  · rw [excess_greedyVerdict, excess_greedyVerdict]
    rcases hunclaimed.length_eq_or with hsame | hmore
    · exact Or.inl (congrArg _ hsame)
    · rw [hmore, UInt64.ofNat_add]
      exact Or.inr rfl
  · refine ⟨_, _, hviolations.trans (Total.ofNat_plus_ofNat_of_lt hfits),
      hviolations'.trans (Total.ofNat_plus_ofNat_of_lt hfits'), ?_⟩
    rwa [UInt64.toNat_ofNat_of_lt' hfits, UInt64.toNat_ofNat_of_lt' hfits']

end Engine

/-! ### A newcomer that was first

The newcomer reported before the three vehicles of the sample fleet and takes
the place of the first one. The first one takes the place that the second one
had under the second rule, and the second one is in excess, as is the third.
On the other hand the second rule has one match more, and lacks one less. -/

namespace Sample

/-- A vehicle that reported before the others. -/
def newcomer : Entrant := vehicle 0

/-- The fleet with the newcomer, which is registered last. -/
def joinedFleet : Fleet := ⟨fleet.devices ++ [newcomer.device], newcomer.event :: fleet.events⟩

/-- The newcomer has joined the fleet. -/
theorem joined_joinedFleet : fleet.Joined joinedFleet newcomer.device newcomer.event where
  device := ⟨fleet.devices, [], (List.append_nil _).symm, rfl⟩
  event := ⟨[], fleet.events, rfl, rfl⟩
  own := rfl
  unregistered := by decide
  unreported := by decide

/-- The newcomer enters first. -/
theorem entrants_joinedFleet :
    (engine.prepare joinedFleet).entrants = newcomer :: [vehicle 1, vehicle 2, vehicle 3] := by
  have hrecent : recentEvents joinedFleet.events engine.clock.now engine.window
      = joinedFleet.events := List.mergeSort_of_pairwise (by decide)
  rw [Engine.prepare, PreparedFleet.ofFleet_of_recentEvents hrecent]
  rfl

end Sample

/-- The excess rises by one, and the violations do not, as less is lacking. -/
theorem evaluateAs_count_joined_first :
    Sample.fleet.Joined Sample.joinedFleet Sample.newcomer.device Sample.newcomer.event
      ∧ ∃ verdict verdict' : Tally,
        Sample.engine.evaluateAs .count Sample.policy [Sample.zone] Sample.fleet = .ok verdict
          ∧ Sample.engine.evaluateAs .count Sample.policy [Sample.zone] Sample.joinedFleet
              = .ok verdict'
          ∧ verdict.unclaimed = [Sample.id 3]
          ∧ verdict'.unclaimed = [Sample.id 2, Sample.id 3]
          ∧ (verdict'.excess = verdict.excess ∨ verdict'.excess = verdict.excess + 1)
          ∧ (verdict.violations = some 3 ∧ verdict'.violations = some 3)
          ∧ ∃ n n', verdict.violations = some n ∧ verdict'.violations = some n'
              ∧ n'.toNat ≤ n.toNat + 1 := by
  have hp : Sample.policy.rules = Sample.rules.map .count := rfl
  obtain ⟨verdict, verdict', hverdict, hverdict', -, -, -, hexcess, -, -, -, -, -, hviolations⟩ :=
    Sample.engine.evaluateAs_count_joined hp [Sample.zone] Sample.joined_joinedFleet
  have hgreedy := Sample.engine.evaluateAs_count hp [Sample.zone] Sample.fleet
  have hgreedy' := Sample.engine.evaluateAs_count hp [Sample.zone] Sample.joinedFleet
  have hshortfall := Sample.engine.shortfall_count hp [Sample.zone] Sample.fleet
  have hshortfall' := Sample.engine.shortfall_count hp [Sample.zone] Sample.joinedFleet
  rw [Sample.entrants_eq] at hgreedy hshortfall
  rw [Sample.entrants_joinedFleet] at hgreedy' hshortfall'
  obtain rfl := Except.ok.inj (hverdict.symm.trans hgreedy)
  obtain rfl := Except.ok.inj (hverdict'.symm.trans hgreedy')
  refine ⟨Sample.joined_joinedFleet, _, _, hverdict, hverdict', rfl,
    rfl, hexcess, by decide, hviolations ?_ ?_⟩
  · rw [hshortfall]
    decide
  · rw [hshortfall']
    decide

end FleetCompliance

import FleetCompliance.Proofs.CountLedger
import FleetCompliance.Proofs.Newest

/-!
# A shorter window

How far back an evaluation looks decides which reports survive, and of those
that survive the newest counts. Were it the other way around, the
newest report of each device first and then those that are recent enough, the
window could be told to change nothing but where the past is cut off. That is
true all the same, because the window lets pass whatever is later than some
instant: the newest report of a device passes or none of its reports does
(`lastMax_filter`). So a shorter window takes devices away, the ones that
reported longest ago, and leaves the others with the report that they had
(`PreparedFleet.events_narrowed`).

The instant itself is found by going back in time, which ends at the first
instant of the calendar. Windows that reach further all end there.
-/

namespace FleetCompliance

/-- Going back in time ends at the first instant. -/
theorem Instant.millis_back (t : Instant) {millis : ℤ} (h : 0 ≤ millis) :
    (t.back millis).millis = max Instant.earliest.millis (t.millis - millis) := by
  have hlatest := t.le_latest
  unfold back ofMillis?
  split
  · rename_i hin
    exact (max_eq_right hin.1).symm
  · have hearlier : t.millis - millis ≤ Instant.earliest.millis := by
      show t.millis - millis ≤ -8334601228800000
      omega
    exact (max_eq_left hearlier).symm

/-- A longer way back in time does not end later. -/
theorem Instant.back_anti (t : Instant) {short long : ℤ} (h : 0 ≤ short) (hle : short ≤ long) :
    (t.back long).millis ≤ (t.back short).millis := by
  rw [t.millis_back h, t.millis_back (h.trans hle)]
  exact max_le_max_left _ (by omega)

/-- **A list in order is cut in two by a predicate** that accepts what lies above
what it accepts. -/
theorem filter_suffix_of_ascending {α κ : Type} [LinearOrder κ] (key : α → κ) {q : α → Bool}
    (hq : ∀ a b, key a ≤ key b → q a = true → q b = true) {l : List α}
    (hl : l.Pairwise (key · ≤ key ·)) : l.filter q <:+ l := by
  induction l with
  | nil => exact List.suffix_refl _
  | cons a l ih =>
    obtain ⟨ha, hrest⟩ := List.pairwise_cons.mp hl
    by_cases hqa : q a = true
    · -- everything after the first accepted element is accepted as well
      have hall : (a :: l).filter q = a :: l := List.filter_eq_self.mpr
        (List.forall_mem_cons.mpr ⟨hqa, fun b hb => hq a b (ha b hb) hqa⟩)
      exact ⟨[], hall⟩
    · rw [List.filter_cons_of_neg hqa]
      exact (ih hrest).trans (List.suffix_cons a l)

/-- With a shorter window the later ones of a device's reports survive. -/
theorem Fleet.survivors_narrowed (f : Fleet) (now : Instant) {narrow wide : ℤ}
    (hnarrow : 0 ≤ narrow) (hle : narrow ≤ wide) (id : Identifier .device) :
    f.survivors now narrow id
      = (f.survivors now wide id).filter (now.back narrow < ·.timestamp) := by
  rw [survivors, survivors, List.filter_filter]
  refine List.filter_congr fun e _ => ?_
  rw [Bool.eq_iff_iff, Bool.and_eq_true, decide_eq_true_eq, decide_eq_true_eq, decide_eq_true_eq]
  constructor
  · rintro ⟨hid, htelemetry, hlater⟩
    exact ⟨hlater, hid, htelemetry, lt_of_le_of_lt (now.back_anti hnarrow hle) hlater⟩
  · rintro ⟨hlater, hid, htelemetry, -⟩
    exact ⟨hid, htelemetry, hlater⟩

namespace PreparedFleet

variable (f : Fleet) (now : Instant) {narrow wide : ℤ}

/-- **With a shorter window a device keeps its report or has none.** -/
theorem event?_narrowed (hnarrow : 0 ≤ narrow) (hle : narrow ≤ wide) (id : Identifier .device) :
    (ofFleet f now narrow).event? id
      = ((ofFleet f now wide).event? id).filter (now.back narrow < ·.timestamp) := by
  rw [event?_eq_lastMax, event?_eq_lastMax, f.survivors_narrowed now hnarrow hle]
  exact lastMax_filter (Event.recent_of_le _) _

/-- **A shorter window cuts off the events of the past, and does nothing else.**
What is left are the events that are later than its start, in their order at
the end of the list; each device keeps the report that it had with the longer
window, or loses it. -/
theorem events_narrowed (hnarrow : 0 ≤ narrow) (hle : narrow ≤ wide) :
    (ofFleet f now narrow).events <:+ (ofFleet f now wide).events
      ∧ (ofFleet f now narrow).events
          = (ofFleet f now wide).events.filter (now.back narrow < ·.timestamp)
      ∧ (∀ id, (ofFleet f now narrow).event? id
          = ((ofFleet f now wide).event? id).filter (now.back narrow < ·.timestamp))
      ∧ ∀ id e, (ofFleet f now narrow).event? id = some e →
          (ofFleet f now wide).event? id = some e := by
  have hp := ofFleet_wellOrdered f now narrow
  have hp' := ofFleet_wellOrdered f now wide
  have hevent := event?_narrowed f now hnarrow hle
  have hevents : (ofFleet f now narrow).events
      = (ofFleet f now wide).events.filter (now.back narrow < ·.timestamp) := by
    refine eq_of_mem_iff_of_ascending Event.stamp hp.ascending (hp'.ascending.filter _) fun e => ?_
    rw [hp.mem_events_iff, hevent, Option.filter_eq_some_iff, ← hp'.mem_events_iff, List.mem_filter]
  refine ⟨?_, hevents, hevent, fun id e he => ?_⟩
  · rw [hevents]
    exact filter_suffix_of_ascending Event.stamp
      (fun a b hab => Event.recent_of_le _ a b (Stamp.time_le_of_of_le hab))
      (hp'.ascending.imp le_of_lt)
  · rw [hevent] at he
    exact (Option.filter_eq_some_iff.mp he).1

end PreparedFleet

/-! ### Two vehicles, one of which reported again

The longer window reaches back beyond the first instant, and the shorter one
starts between the reports of the second vehicle and the new report of the first
one. -/

namespace Sample

/-- The first vehicle, as it reported again after the second one. -/
def repeatedEvent : Event := { (vehicle 1).event with timestamp := instant 5 }

/-- A fleet in which the first vehicle reported before and after the second
one. -/
def repeatedFleet : Fleet :=
  ⟨[(vehicle 1).device, (vehicle 2).device], [(vehicle 1).event, (vehicle 2).event, repeatedEvent]⟩

/-- With the longer window both vehicles count, each with its newest report. -/
theorem events_repeatedFleet :
    (PreparedFleet.ofFleet repeatedFleet (instant 10) (10 ^ 16)).events
      = [(vehicle 2).event, repeatedEvent] := by
  have hrecent : recentEvents repeatedFleet.events (instant 10) (10 ^ 16)
      = repeatedFleet.events := List.mergeSort_of_pairwise (by decide)
  rw [PreparedFleet.ofFleet_of_recentEvents hrecent]
  rfl

end Sample

/-- The shorter window leaves the first vehicle, with the report that it had. -/
theorem events_narrowed_repeated :
    (0 : ℤ) ≤ 6 ∧ (6 : ℤ) ≤ 10 ^ 16
      ∧ (Sample.instant 10).back (10 ^ 16) = Instant.earliest
      ∧ (PreparedFleet.ofFleet Sample.repeatedFleet (Sample.instant 10) 6).events
          = [Sample.repeatedEvent]
      ∧ (PreparedFleet.ofFleet Sample.repeatedFleet (Sample.instant 10) 6).event? (Sample.id 1)
          = some Sample.repeatedEvent
      ∧ (PreparedFleet.ofFleet Sample.repeatedFleet (Sample.instant 10) (10 ^ 16)).event?
          (Sample.id 1) = some Sample.repeatedEvent := by
  have hnarrow : (0 : ℤ) ≤ 6 := by decide
  have hle : (6 : ℤ) ≤ 10 ^ 16 := by decide
  obtain ⟨-, hevents, -, hkept⟩ :=
    PreparedFleet.events_narrowed Sample.repeatedFleet (Sample.instant 10) hnarrow hle
  rw [Sample.events_repeatedFleet] at hevents
  have hleft : (PreparedFleet.ofFleet Sample.repeatedFleet (Sample.instant 10) 6).event?
      (Sample.id 1) = some Sample.repeatedEvent := by
    rw [PreparedFleet.event?, hevents]
    rfl
  exact ⟨hnarrow, hle, by decide, hevents, hleft, hkept _ _ hleft⟩

end FleetCompliance

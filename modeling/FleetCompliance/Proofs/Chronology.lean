import FleetCompliance.Fleet
import FleetCompliance.Verdict.Basic
import Mathlib.Data.List.Nodup
import Mathlib.Data.Prod.Lex

/-!
# The order of time

Events are put in order by their times, and by their devices where the times
are equal. Both comparisons are one: that of **stamps**, pairs of a time and
a device in lexicographic order. Stamps are linearly ordered, which a
comparison of events is not – two events of one device at one time stand
before each other and may differ in all else. So whatever is sorted is
sorted by its stamps, and a sorted list is known by its elements as soon as
no stamp occurs in it twice (`eq_of_perm_of_ascending`).
-/

namespace FleetCompliance

/-- **The place of a report in time**: when it was made, and by which
device. -/
abbrev Stamp := ℤ ×ₗ ℕ

namespace Stamp

/-- The stamp of a report. -/
def of (t : Instant) (d : Identifier .device) : Stamp := toLex (t.millis, d.value)

/-- **The comparison of stamps in terms of times and devices.** -/
theorem of_le_of_iff (t u : Instant) (d e : Identifier .device) :
    Stamp.of t d ≤ Stamp.of u e ↔ t < u ∨ t = u ∧ d ≤ e := by
  have htime : t.millis = u.millis ↔ t = u := by
    cases t
    cases u
    simp
  rw [Stamp.of, Stamp.of, Prod.Lex.toLex_le_toLex, htime]
  rfl

/-- Equal stamps are made by one device. -/
theorem device_eq_of_of_eq {t u : Instant} {d e : Identifier .device}
    (h : Stamp.of t d = Stamp.of u e) : d = e := by
  have hvalue : d.value = e.value := congrArg (fun s => (ofLex s).2) h
  cases d
  cases e
  simpa using hvalue

/-- Equal stamps are made at one time. -/
theorem time_eq_of_of_eq {t u : Instant} {d e : Identifier .device}
    (h : Stamp.of t d = Stamp.of u e) : t = u := by
  have hmillis : t.millis = u.millis := congrArg (fun s => (ofLex s).1) h
  cases t
  cases u
  simpa using hmillis

/-- An earlier time makes an earlier stamp. -/
theorem time_le_of_of_le {t u : Instant} {d e : Identifier .device}
    (h : Stamp.of t d ≤ Stamp.of u e) : t ≤ u := by
  rcases (of_le_of_iff t u d e).mp h with hlt | ⟨rfl, -⟩
  · exact Int.le_of_lt hlt
  · exact Int.le_refl _

end Stamp

/-- The stamp of an event. -/
def Event.stamp (e : Event) : Stamp := .of e.timestamp e.deviceId

/-- The stamp of the event of a found vehicle. -/
def MatchedVehicle.stamp (v : MatchedVehicle) : Stamp := .of v.timestamp v.deviceId

/-- Events are ordered by their stamps. -/
theorem Event.notAfter_iff (a b : Event) : a.notAfter b = true ↔ a.stamp ≤ b.stamp := by
  rw [Event.stamp, Event.stamp, Stamp.of_le_of_iff]
  simp [Event.notAfter]

/-- Found vehicles are ordered by the stamps of their events. -/
theorem MatchedVehicle.notAfter_iff (a b : MatchedVehicle) :
    a.notAfter b = true ↔ a.stamp ≤ b.stamp := by
  rw [MatchedVehicle.stamp, MatchedVehicle.stamp, Stamp.of_le_of_iff]
  simp [MatchedVehicle.notAfter]

/-! ## Sorting by a key -/

section Sorting

variable {α κ : Type} [LinearOrder κ] {le : α → α → Bool} {key : α → κ}

/-- The comparison of a key is transitive. -/
theorem trans_of_key (h : ∀ a b, le a b = true ↔ key a ≤ key b) (a b c : α)
    (hab : le a b = true) (hbc : le b c = true) : le a c = true := by
  rw [h] at hab hbc ⊢
  exact hab.trans hbc

/-- The comparison of a key is total. -/
theorem total_of_key (h : ∀ a b, le a b = true ↔ key a ≤ key b) (a b : α) :
    (le a b || le b a) = true := by
  rw [Bool.or_eq_true, h, h]
  exact le_total _ _

/-- A list sorted by a key has its keys in order. -/
theorem pairwise_mergeSort_of_key (h : ∀ a b, le a b = true ↔ key a ≤ key b)
    (l : List α) : (l.mergeSort le).Pairwise (key · ≤ key ·) :=
  (List.pairwise_mergeSort (trans_of_key h) (total_of_key h) l).imp
    (fun hab => (h _ _).mp hab)

/-- An element is sorted in after those with a smaller key, and before those
with its own. -/
theorem mergeSort_cons_of_key (h : ∀ a b, le a b = true ↔ key a ≤ key b) (a : α)
    (l : List α) :
    ∃ before after, (a :: l).mergeSort le = before ++ a :: after
      ∧ l.mergeSort le = before ++ after
      ∧ (∀ b ∈ before, (!le a b) = true) ∧ ∀ b ∈ after, ¬ (!le a b) = true := by
  obtain ⟨before, after, hsorted, hrest, hbefore⟩ :=
    List.mergeSort_cons (trans_of_key h) (total_of_key h) a l
  refine ⟨before, after, hsorted, hrest, hbefore, fun b hb => ?_⟩
  have hpairwise := pairwise_mergeSort_of_key h (a :: l)
  rw [hsorted] at hpairwise
  have hab : key a ≤ key b :=
    (List.pairwise_cons.mp (List.pairwise_append.mp hpairwise).2.1).1 b hb
  rw [(h a b).mpr hab]
  exact Bool.false_ne_true

/-- A list is split in one way into elements that satisfy a predicate and
elements after them that do not. -/
theorem append_inj_of_filter {q : α → Bool} {l₁ l₂ m₁ m₂ : List α}
    (h : l₁ ++ l₂ = m₁ ++ m₂) (hl₁ : ∀ b ∈ l₁, q b = true) (hl₂ : ∀ b ∈ l₂, ¬ q b = true)
    (hm₁ : ∀ b ∈ m₁, q b = true) (hm₂ : ∀ b ∈ m₂, ¬ q b = true) : l₁ = m₁ ∧ l₂ = m₂ := by
  have hfirst : l₁ = m₁ := by
    have hfilter := congrArg (List.filter q) h
    rwa [List.filter_append, List.filter_append, List.filter_eq_self.mpr hl₁,
      List.filter_eq_nil_iff.mpr hl₂, List.filter_eq_self.mpr hm₁,
      List.filter_eq_nil_iff.mpr hm₂, List.append_nil, List.append_nil] at hfilter
  subst hfirst
  exact ⟨rfl, List.append_cancel_left h⟩

/-- **Sorting and then keeping what a predicate accepts is sorting what it
accepts.** Elements with equal keys may differ, so this is not a matter of
order alone: it holds because sorting leaves such elements as they stood. -/
theorem filter_mergeSort_of_key (h : ∀ a b, le a b = true ↔ key a ≤ key b) (p : α → Bool)
    (l : List α) : (l.mergeSort le).filter p = (l.filter p).mergeSort le := by
  induction l with
  | nil => rw [List.filter_nil, List.mergeSort_nil, List.filter_nil]
  | cons a l ih =>
    obtain ⟨l₁, l₂, hsorted, hrest, hbefore, hafter⟩ := mergeSort_cons_of_key h a l
    rw [hrest, List.filter_append] at ih
    rw [hsorted, List.filter_append]
    by_cases ha : p a = true
    · obtain ⟨m₁, m₂, hsorted', hrest', hbefore', hafter'⟩ :=
        mergeSort_cons_of_key h a (l.filter p)
      -- both splits are at the same place, as the same elements stand before it
      obtain ⟨hfirst, hsecond⟩ := append_inj_of_filter (ih.trans hrest')
        (fun b hb => hbefore b (List.mem_of_mem_filter hb))
        (fun b hb => hafter b (List.mem_of_mem_filter hb)) hbefore' hafter'
      rw [List.filter_cons_of_pos ha, List.filter_cons_of_pos ha, hsorted', hfirst, hsecond]
    · rw [List.filter_cons_of_neg ha, List.filter_cons_of_neg ha, ih]

/-- **A list in order is known by its elements**, if no key occurs twice
among them. -/
theorem eq_of_perm_of_ascending (key : α → κ) {l₁ l₂ : List α} (hp : l₁.Perm l₂)
    (h₁ : l₁.Pairwise (key · ≤ key ·)) (h₂ : l₂.Pairwise (key · < key ·)) :
    l₁ = l₂ := by
  have hnodup : (l₂.map key).Nodup := List.pairwise_map.mpr (h₂.imp (fun hlt => hlt.ne))
  refine hp.eq_of_pairwise (fun a b ha hb hab hba => ?_) h₁ (h₂.imp le_of_lt)
  exact List.inj_on_of_nodup_map hnodup (hp.subset ha) hb (le_antisymm hab hba)

/-- Two lists in strict order are equal if they have the same elements. -/
theorem eq_of_mem_iff_of_ascending (key : α → κ) {l₁ l₂ : List α}
    (h₁ : l₁.Pairwise (key · < key ·)) (h₂ : l₂.Pairwise (key · < key ·))
    (hmem : ∀ a, a ∈ l₁ ↔ a ∈ l₂) : l₁ = l₂ := by
  have hnodup : ∀ {l : List α}, l.Pairwise (key · < key ·) → l.Nodup :=
    fun hl => hl.imp (fun hlt heq => absurd (congrArg key heq) hlt.ne)
  exact eq_of_perm_of_ascending key
    ((List.perm_ext_iff_of_nodup (hnodup h₁) (hnodup h₂)).mpr hmem) (h₁.imp le_of_lt) h₂

/-- **What a list is sorted to does not depend on its order**, if no key occurs
twice in it. -/
theorem mergeSort_eq_of_perm (h : ∀ a b, le a b = true ↔ key a ≤ key b) {l l' : List α}
    (hp : l.Perm l') (hl' : (l'.map key).Nodup) : l.mergeSort le = l'.mergeSort le := by
  have hsorted : (l'.mergeSort le).Perm l' := List.mergeSort_perm _ _
  have hnodup : ((l'.mergeSort le).map key).Nodup := (hsorted.map key).nodup_iff.mpr hl'
  refine eq_of_perm_of_ascending key
    ((List.mergeSort_perm _ _).trans (hp.trans hsorted.symm)) (pairwise_mergeSort_of_key h l) ?_
  exact (pairwise_mergeSort_of_key h l').imp₂ (fun _ _ hle hne => lt_of_le_of_ne hle hne)
    (List.pairwise_map.mp hnodup)

end Sorting

/-! ## Finding by a key -/

/-- In a list with distinct keys an element is found by its key. -/
theorem find?_key_eq_some_iff {α κ : Type} [DecidableEq κ] (key : α → κ) {l : List α}
    (hl : (l.map key).Nodup) {k : κ} {a : α} :
    l.find? (key · = k) = some a ↔ a ∈ l ∧ key a = k := by
  constructor
  · intro h
    have hkey := List.find?_some h
    exact ⟨List.mem_of_find?_eq_some h, of_decide_eq_true hkey⟩
  · rintro ⟨ha, rfl⟩
    obtain ⟨b, hb⟩ : ∃ b, l.find? (key · = key a) = some b :=
      Option.isSome_iff_exists.mp (List.find?_isSome.mpr ⟨a, ha, decide_eq_true rfl⟩)
    have hkey := List.find?_some hb
    rw [hb, List.inj_on_of_nodup_map hl (List.mem_of_find?_eq_some hb) ha (of_decide_eq_true hkey)]

/-- In a list with distinct keys there is nothing of a key but what is found by
it. -/
theorem filter_key_eq_toList_find? {α κ : Type} [DecidableEq κ] (key : α → κ) {l : List α}
    (hl : (l.map key).Nodup) (k : κ) :
    l.filter (key · = k) = (l.find? (key · = k)).toList := by
  induction l with
  | nil => rfl
  | cons a l ih =>
    obtain ⟨ha, hrest⟩ := List.nodup_cons.mp hl
    by_cases hk : key a = k
    · have hnone : l.filter (key · = k) = [] := List.filter_eq_nil_iff.mpr
        (fun b hb hbk => ha (List.mem_map.mpr ⟨b, hb, (of_decide_eq_true hbk).trans hk.symm⟩))
      rw [List.filter_cons_of_pos (by simpa using hk), hnone,
        List.find?_cons_of_pos (by simpa using hk)]
      rfl
    · rw [List.filter_cons_of_neg (by simpa using hk), List.find?_cons_of_neg (by simpa using hk),
        ih hrest]

/-- **What is found by its key does not depend on the order of the list**, if
the keys are distinct. -/
theorem find?_key_eq_of_perm {α κ : Type} [DecidableEq κ] (key : α → κ) {l l' : List α}
    (h : l.Perm l') (hl : (l.map key).Nodup) (k : κ) :
    l.find? (key · = k) = l'.find? (key · = k) := by
  refine Option.ext (fun a => ?_)
  rw [find?_key_eq_some_iff key hl,
    find?_key_eq_some_iff key ((h.map key).nodup_iff.mp hl), h.mem_iff]

end FleetCompliance

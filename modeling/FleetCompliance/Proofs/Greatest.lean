import FleetCompliance.Proofs.Chronology
import Mathlib.Data.List.MinMax

/-!
# The greatest elements of a list

Several elements of a list may be the greatest in what they are compared by,
and differ in all else. Which of them is taken depends on how the list is gone
through. A walk that lets go of what it holds only for something greater takes
the first one (`firstMax`). A list that is sorted and then read from its end
gives the last one (`lastMax`, `getLast?_mergeSort_of_key`).

Both are told by what stands around them in the list (`firstMax_eq_some_iff`,
`lastMax_eq_some_iff`). They differ by no more than the choice: the greatest
key is the same (`map_lastMax`).
-/

namespace FleetCompliance

variable {α κ : Type} [LinearOrder κ] {f : α → κ} {l : List α} {a : α}

/-- **The first of the greatest elements.** -/
def firstMax (f : α → κ) (l : List α) : Option α := l.argmax f

/-- **The last of the greatest elements.** -/
def lastMax (f : α → κ) (l : List α) : Option α := firstMax f l.reverse

@[simp]
theorem firstMax_nil (f : α → κ) : firstMax f [] = none := rfl

@[simp]
theorem firstMax_eq_none_iff : firstMax f l = none ↔ l = [] := List.argmax_eq_none

@[simp]
theorem lastMax_eq_none_iff : lastMax f l = none ↔ l = [] :=
  firstMax_eq_none_iff.trans List.reverse_eq_nil_iff

theorem mem_of_firstMax (h : firstMax f l = some a) : a ∈ l := List.argmax_mem h

theorem le_of_firstMax {b : α} (h : firstMax f l = some a) (hb : b ∈ l) : f b ≤ f a :=
  List.le_of_mem_argmax hb h

/-- A new first element is the first of the greatest unless another one is
greater. -/
theorem firstMax_cons (f : α → κ) (a : α) (l : List α) :
    firstMax f (a :: l)
      = some ((firstMax f l).elim a fun c => if f a < f c then c else a) := by
  rw [firstMax, List.argmax_cons, ← firstMax]
  cases firstMax f l with
  | none => rfl
  | some c => exact (apply_ite some _ _ _).symm

/-- A new last element is the first of the greatest if it is greater than all
others. -/
theorem firstMax_concat (f : α → κ) (l : List α) (a : α) :
    firstMax f (l ++ [a])
      = some ((firstMax f l).elim a fun c => if f c < f a then a else c) := by
  rw [firstMax, List.argmax_concat, ← firstMax]
  cases firstMax f l with
  | none => rfl
  | some c => exact (apply_ite some _ _ _).symm

/-- A new first element is the last of the greatest if it is greater than all
others. -/
theorem lastMax_cons (f : α → κ) (a : α) (l : List α) :
    lastMax f (a :: l)
      = some ((lastMax f l).elim a fun c => if f c < f a then a else c) := by
  rw [lastMax, List.reverse_cons, firstMax_concat, lastMax]

/-- **The first of the greatest elements** is the one before which all is less,
and after which nothing is greater. -/
theorem firstMax_eq_some_iff :
    firstMax f l = some a
      ↔ ∃ before after, l = before ++ a :: after
          ∧ (∀ b ∈ before, f b < f a) ∧ ∀ b ∈ after, f b ≤ f a := by
  constructor
  · intro h
    induction l with
    | nil => simp at h
    | cons x l ih =>
      rw [firstMax_cons, Option.some_inj] at h
      cases hmax : firstMax f l with
      | none =>
        obtain rfl := firstMax_eq_none_iff.mp hmax
        obtain rfl : x = a := h
        exact ⟨[], [], rfl, by simp, by simp⟩
      | some c =>
        rw [hmax, Option.elim_some] at h
        by_cases hlt : f x < f c
        · obtain rfl : c = a := (if_pos hlt).symm.trans h
          obtain ⟨before, after, rfl, hbefore, hafter⟩ := ih hmax
          exact ⟨x :: before, after, rfl, List.forall_mem_cons.mpr ⟨hlt, hbefore⟩, hafter⟩
        · obtain rfl : x = a := (if_neg hlt).symm.trans h
          exact ⟨[], l, rfl, by simp, fun b hb => (le_of_firstMax hmax hb).trans (not_lt.mp hlt)⟩
  · rintro ⟨before, after, rfl, hbefore, hafter⟩
    induction before with
    | nil =>
      rw [List.nil_append, firstMax_cons]
      cases hmax : firstMax f after with
      | none => rfl
      | some c => exact congrArg some (if_neg (not_lt.mpr (hafter c (mem_of_firstMax hmax))))
    | cons x before ih =>
      obtain ⟨hx, hrest⟩ := List.forall_mem_cons.mp hbefore
      rw [List.cons_append, firstMax_cons, ih hrest]
      exact congrArg some (if_pos hx)

/-- The first of the greatest among the elements that a predicate accepts. It
stands in the whole list with others around it, which do not matter. -/
theorem firstMax_filter_eq_some_iff {q : α → Bool} :
    firstMax f (l.filter q) = some a
      ↔ ∃ before after, l = before ++ a :: after ∧ q a = true
          ∧ (∀ b ∈ before, q b = true → f b < f a) ∧ ∀ b ∈ after, q b = true → f b ≤ f a := by
  rw [firstMax_eq_some_iff]
  constructor
  · rintro ⟨before, after, hsplit, hbefore, hafter⟩
    obtain ⟨l₁, l₂, rfl, rfl, hrest⟩ := List.filter_eq_append_iff.mp hsplit
    obtain ⟨skipped, after', rfl, hskipped, ha, rfl⟩ := List.filter_eq_cons_iff.mp hrest
    refine ⟨l₁ ++ skipped, after', (List.append_assoc _ _ _).symm, ha, fun b hb hqb => ?_,
      fun b hb hqb => hafter b (List.mem_filter.mpr ⟨hb, hqb⟩)⟩
    rcases List.mem_append.mp hb with hb | hb
    · exact hbefore b (List.mem_filter.mpr ⟨hb, hqb⟩)
    · exact absurd hqb (hskipped b hb)
  · rintro ⟨before, after, rfl, ha, hbefore, hafter⟩
    refine ⟨before.filter q, after.filter q, ?_,
      fun b hb => hbefore b (List.mem_of_mem_filter hb) (List.of_mem_filter hb),
      fun b hb => hafter b (List.mem_of_mem_filter hb) (List.of_mem_filter hb)⟩
    rw [List.filter_append, List.filter_cons_of_pos ha]

/-- **A list may be chosen from in two steps**: what is chosen from a first part stands
for all of it. -/
theorem firstMax_append (f : α → κ) (l m : List α) :
    firstMax f (l ++ m) = firstMax f ((firstMax f l).toList ++ m) := by
  induction m using List.reverseRecOn with
  | nil =>
    rw [List.append_nil, List.append_nil]
    cases firstMax f l <;> rfl
  | append_singleton m a ih =>
    rw [← List.append_assoc, ← List.append_assoc, firstMax_concat, firstMax_concat, ih]

/-- **The last of the greatest elements** is the one before which nothing is
greater, and after which all is less. -/
theorem lastMax_eq_some_iff :
    lastMax f l = some a
      ↔ ∃ before after, l = before ++ a :: after
          ∧ (∀ b ∈ before, f b ≤ f a) ∧ ∀ b ∈ after, f b < f a := by
  rw [lastMax, firstMax_eq_some_iff]
  constructor
  · rintro ⟨before, after, hsplit, hbefore, hafter⟩
    refine ⟨after.reverse, before.reverse, ?_, by simpa using hafter, by simpa using hbefore⟩
    rw [← List.reverse_reverse l, hsplit]
    simp
  · rintro ⟨before, after, rfl, hbefore, hafter⟩
    exact ⟨after.reverse, before.reverse, by simp, by simpa using hafter, by simpa using hbefore⟩

/-- **The end of a sorted list** is the last of the greatest elements, as
sorting leaves elements with equal keys as they stood. -/
theorem getLast?_mergeSort_of_key {le : α → α → Bool} (h : ∀ a b, le a b = true ↔ f a ≤ f b)
    (l : List α) : (l.mergeSort le).getLast? = lastMax f l := by
  induction l with
  | nil => rw [List.mergeSort_nil]; rfl
  | cons a l ih =>
    obtain ⟨before, after, hsorted, hrest, hbefore, hafter⟩ := mergeSort_cons_of_key h a l
    rw [lastMax_cons, ← ih, hsorted, hrest]
    rcases List.eq_nil_or_concat after with rfl | ⟨after', c, rfl⟩
    · -- everything sorted before the new element is less
      rw [List.append_nil, List.getLast?_concat]
      cases hlast : before.getLast? with
      | none => rfl
      | some c =>
        have hc : ¬ f a ≤ f c := fun hle => by
          have hnot := hbefore c (List.mem_of_getLast? hlast)
          rw [(h a c).mpr hle] at hnot
          exact Bool.false_ne_true hnot
        exact congrArg some (if_pos (not_le.mp hc)).symm
    · have hc : f a ≤ f c := (h a c).mp (by simpa using hafter c (by simp))
      rw [List.concat_eq_append, ← List.append_assoc, List.getLast?_concat,
        ← List.cons_append, ← List.append_assoc, List.getLast?_concat]
      exact congrArg some (if_neg (not_lt.mpr hc)).symm

/-- Keys that compare the elements of a list alike have the same element for
the last of the greatest. -/
theorem lastMax_congr {κ' : Type} [LinearOrder κ'] {g : α → κ'}
    (h : ∀ a ∈ l, ∀ b ∈ l, f a < f b ↔ g a < g b) : lastMax f l = lastMax g l := by
  induction l with
  | nil => rfl
  | cons x l ih =>
    rw [lastMax_cons, lastMax_cons,
      ih (fun a ha b hb => h a (List.mem_cons_of_mem _ ha) b (List.mem_cons_of_mem _ hb))]
    cases hmax : lastMax g l with
    | none => rfl
    | some c =>
      have hmem : c ∈ l := List.mem_reverse.mp (mem_of_firstMax hmax)
      have hc : f c < f x ↔ g c < g x :=
        h c (List.mem_cons_of_mem _ hmem) x List.mem_cons_self
      exact congrArg some (if_congr hc rfl rfl)

/-- **Choosing commutes with cutting off from below**: if what a predicate
accepts lies above what it rejects, then the greatest element is accepted or
nothing is. -/
theorem firstMax_filter {q : α → Bool} (hq : ∀ a b, f a ≤ f b → q a = true → q b = true)
    (l : List α) : firstMax f (l.filter q) = (firstMax f l).filter q := by
  cases hmax : firstMax f l with
  | none =>
    rw [firstMax_eq_none_iff.mp hmax]
    rfl
  | some c =>
    by_cases hc : q c = true
    · obtain ⟨before, after, rfl, hbefore, hafter⟩ := firstMax_eq_some_iff.mp hmax
      rw [Option.filter_some_pos hc, firstMax_eq_some_iff]
      refine ⟨before.filter q, after.filter q, ?_,
        fun b hb => hbefore b (List.mem_of_mem_filter hb),
        fun b hb => hafter b (List.mem_of_mem_filter hb)⟩
      rw [List.filter_append, List.filter_cons_of_pos hc]
    · have hnone : l.filter q = [] := List.filter_eq_nil_iff.mpr
        (fun b hb hqb => hc (hq b c (le_of_firstMax hmax hb) hqb))
      rw [Option.filter_some_neg (Bool.eq_false_iff.mpr hc), hnone, firstMax_nil]

/-- The same for the last of the greatest elements. -/
theorem lastMax_filter {q : α → Bool} (hq : ∀ a b, f a ≤ f b → q a = true → q b = true)
    (l : List α) : lastMax f (l.filter q) = (lastMax f l).filter q := by
  rw [lastMax, ← List.filter_reverse, firstMax_filter hq, lastMax]

/-- **The greatest key does not depend on the choice.** -/
theorem map_lastMax (f : α → κ) (l : List α) :
    (lastMax f l).map f = (firstMax f l).map f := by
  cases hfirst : firstMax f l with
  | none =>
    rw [firstMax_eq_none_iff.mp hfirst]
    rfl
  | some a =>
    cases hlast : lastMax f l with
    | none =>
      rw [lastMax_eq_none_iff.mp hlast, firstMax_nil] at hfirst
      exact absurd hfirst (Option.some_ne_none a).symm
    | some b =>
      have hab : f a ≤ f b :=
        le_of_firstMax hlast (List.mem_reverse.mpr (mem_of_firstMax hfirst))
      have hba : f b ≤ f a :=
        le_of_firstMax hfirst (List.mem_reverse.mp (mem_of_firstMax hlast))
      exact congrArg some (le_antisymm hba hab)

end FleetCompliance

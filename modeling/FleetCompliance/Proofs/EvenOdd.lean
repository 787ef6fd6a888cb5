import FleetCompliance.Geography.Containment
import Mathlib.Algebra.Order.Ring.Canonical
import Mathlib.Algebra.Order.Ring.Nat
import Mathlib.Algebra.Ring.Parity
import Mathlib.Data.List.Rotate

/-!
# The even-odd rule

A position is inside a ring if an odd number of the ring's sides is crossed on
the way to the east. The sides are those of a closed path: each vertex is
joined to the next one and the last to the first (`sides`). What is counted is
not the path but the collection of its sides, so that it does not matter where
the path begins (`sides_append_perm`).

Two facts about closed paths are all that the rest is drawn from. One is that
a path comes back to where it began, so that whatever is either so or not so
at a vertex changes an even number of times along it (`even_changes_sides`).
The other is that a chord cuts a path into two, which have the sides of the
path and those of the chord there and back (`sides_arcs_perm`).

Nothing of this asks what the test of a side computes, and so all of it holds
of numbers that are rounded as it does of exact ones.
-/

namespace FleetCompliance

section Paths

variable {α : Type}

/-- The sides of an open path from a vertex through others. -/
def legs (a : α) : List α → List (α × α)
  | [] => []
  | b :: rest => (a, b) :: legs b rest

/-- **The sides of a closed path**: from each vertex to the next one, and from
the last one to the first. -/
def sides (vs : List α) : List (α × α) := vs.zip (vs.rotate 1)

/-- The part of a path from one place to a later one. -/
def arc (vs : List α) (i j : ℕ) : List α := (vs.take (j + 1)).drop i

/-- The part of a closed path from one place over its end to an earlier one. -/
def oppositeArc (vs : List α) (i j : ℕ) : List α := vs.drop j ++ vs.take (i + 1)

/-- The number of the vertices in a part of a path. -/
theorem length_arc (vs : List α) (i j : ℕ) :
    (arc vs i j).length = min (j + 1) vs.length - i := by
  rw [arc, List.length_drop, List.length_take]

@[inherit_doc length_arc]
theorem length_oppositeArc (vs : List α) (i j : ℕ) :
    (oppositeArc vs i j).length = vs.length - j + min (i + 1) vs.length := by
  rw [oppositeArc, List.length_append, List.length_drop, List.length_take]

/-- A path leads to a vertex and on from there. -/
theorem legs_append_cons (a : α) (us : List α) (b : α) (vs : List α) :
    legs a (us ++ b :: vs) = legs a (us ++ [b]) ++ legs b vs := by
  induction us generalizing a with
  | nil => rfl
  | cons c us ih => rw [List.cons_append, List.cons_append, legs, legs, ih, List.cons_append]

/-- The ends of a path's sides are vertices of the path. -/
theorem mem_of_mem_sides {vs : List α} {s : α × α} (h : s ∈ sides vs) : s.1 ∈ vs ∧ s.2 ∈ vs := by
  obtain ⟨hfrom, hto⟩ := List.of_mem_zip h
  exact ⟨hfrom, List.mem_rotate.mp hto⟩

/-- A closed path is an open one that ends where it begins. -/
theorem sides_cons (a : α) (vs : List α) : sides (a :: vs) = legs a (vs ++ [a]) := by
  have hzip : ∀ (b c : α) (us : List α), (b :: us).zip (us ++ [c]) = legs b (us ++ [c]) := by
    intro b c us
    induction us generalizing b with
    | nil => rfl
    | cons d us ih => rw [List.cons_append, List.zip_cons_cons, ih, legs]
  rw [sides, List.rotate_cons_succ, List.rotate_zero, hzip]

/-- A closed path through two vertices leads from one to the other and
back. -/
theorem sides_cons_append_cons (a : α) (us : List α) (b : α) (vs : List α) :
    sides (a :: us ++ b :: vs) = legs a (us ++ [b]) ++ legs b (vs ++ [a]) := by
  rw [List.cons_append, sides_cons, List.append_assoc, List.cons_append, legs_append_cons]

/-- **It does not matter where a closed path begins.** -/
theorem sides_append_perm (us vs : List α) : (sides (us ++ vs)).Perm (sides (vs ++ us)) := by
  cases us with
  | nil => rw [List.append_nil, List.nil_append]
  | cons a us =>
    cases vs with
    | nil => rw [List.append_nil, List.nil_append]
    | cons b vs =>
      rw [sides_cons_append_cons, sides_cons_append_cons]
      exact List.perm_append_comm

/-- A path with two vertices is what comes before them, between them and
after. -/
theorem exists_eq_append_of_getElem? {vs : List α} {i j : ℕ} (hij : i < j) {a b : α}
    (ha : vs[i]? = some a) (hb : vs[j]? = some b) :
    ∃ before between after, vs = before ++ (a :: between ++ b :: after)
      ∧ arc vs i j = a :: between ++ [b]
      ∧ oppositeArc vs i j = b :: after ++ (before ++ [a]) := by
  obtain ⟨hi, rfl⟩ := List.getElem?_eq_some_iff.mp ha
  obtain ⟨hj, rfl⟩ := List.getElem?_eq_some_iff.mp hb
  have hi' : i < (vs.take j).length := by rwa [List.length_take_of_le hj.le]
  -- the path up to the later vertex has the earlier one
  have hfirst : (vs.take j).drop i = vs[i] :: (vs.take j).drop (i + 1) := by
    rw [List.drop_eq_getElem_cons hi', List.getElem_take]
  have hsecond : vs.drop j = vs[j] :: vs.drop (j + 1) := List.drop_eq_getElem_cons hj
  refine ⟨vs.take i, (vs.take j).drop (i + 1), vs.drop (j + 1), ?_, ?_, ?_⟩
  · rw [← hfirst, ← hsecond, ← List.append_assoc]
    conv_lhs => rw [← List.take_append_drop j vs, ← List.take_append_drop i (vs.take j)]
    rw [List.take_take, Nat.min_eq_left hij.le]
  · rw [arc, List.take_succ_eq_append_getElem hj, List.drop_append_of_le_length hi'.le, hfirst]
  · rw [oppositeArc, hsecond, List.take_succ_eq_append_getElem hi]

/-- **A chord cuts a closed path into two**, of which each has the chord for
its last side. -/
theorem sides_arcs_perm {vs : List α} {i j : ℕ} (hij : i < j) {a b : α}
    (ha : vs[i]? = some a) (hb : vs[j]? = some b) :
    (sides (arc vs i j) ++ sides (oppositeArc vs i j)).Perm ((b, a) :: (a, b) :: sides vs) := by
  obtain ⟨before, between, after, hvs, harc, hopposite⟩ :=
    exists_eq_append_of_getElem? hij ha hb
  have harcs : sides (a :: between ++ [b]) = legs a (between ++ [b]) ++ [(b, a)] :=
    sides_cons_append_cons a between b []
  have hopposites : sides (b :: after ++ (before ++ [a]))
      = legs b (after ++ before ++ [a]) ++ [(a, b)] := by
    rw [← List.append_assoc]
    exact sides_cons_append_cons b (after ++ before) a []
  -- the path from the first of the two vertices on
  have hwhole : (sides vs).Perm
      (legs a (between ++ [b]) ++ legs b (after ++ before ++ [a])) := by
    rw [hvs, ← sides_cons_append_cons]
    refine (sides_append_perm _ _).trans (.of_eq ?_)
    rw [List.append_assoc]
    rfl
  rw [harc, hopposite, harcs, hopposites]
  refine List.Perm.trans ?_ ((hwhole.symm.cons _).cons _)
  rw [List.append_assoc, List.singleton_append]
  refine List.perm_middle.trans (.cons _ ?_)
  rw [← List.append_assoc]
  exact List.perm_append_singleton _ _

/-- What is either so or not so at a vertex changes along a path if it differs
at its ends. -/
theorem odd_changes_legs_iff (f : α → Bool) (a : α) (vs : List α) (b : α) :
    Odd ((legs a (vs ++ [b])).countP fun s => f s.2 != f s.1) ↔ f a ≠ f b := by
  induction vs generalizing a with
  | nil =>
    rw [List.nil_append, legs, legs, List.countP_singleton]
    cases f a <;> cases f b <;> decide
  | cons c vs ih =>
    rw [List.cons_append, legs, List.countP_cons, Nat.odd_add, ih]
    cases f a <;> cases f b <;> cases f c <;> decide

/-- **Along a closed path everything changes an even number of times.** -/
theorem even_changes_sides (f : α → Bool) (vs : List α) :
    Even ((sides vs).countP fun s => f s.2 != f s.1) := by
  cases vs with
  | nil => exact Even.zero
  | cons a vs =>
    rw [sides_cons, ← Nat.not_odd_iff_even, odd_changes_legs_iff]
    exact not_not_intro rfl

/-- **Whether a closed path goes around**: an odd number of its sides is
crossed. It needs at least three vertices. -/
def goesAround (crossed : α × α → Bool) (vs : List α) : Bool :=
  3 ≤ vs.length && decide (Odd ((sides vs).countP crossed))

variable {crossed : α × α → Bool}

/-- What goes around has at least three vertices, and an odd number of its
sides is crossed. -/
theorem goesAround_iff {vs : List α} :
    goesAround crossed vs = true ↔ 3 ≤ vs.length ∧ Odd ((sides vs).countP crossed) := by
  rw [goesAround, Bool.and_eq_true, decide_eq_true_eq, decide_eq_true_eq]

/-- A sum is odd if one of two numbers is, and not the other. -/
theorem decide_odd_add (m n : ℕ) :
    decide (Odd (m + n)) = (decide (Odd m) ^^ decide (Odd n)) := by
  rw [Bool.eq_iff_iff, decide_eq_true_eq, Nat.odd_add, ← Nat.not_odd_iff_even]
  cases h : decide (Odd m) <;> cases h' : decide (Odd n) <;> simp_all

/-- With three vertices it is a matter of the crossed sides. -/
theorem goesAround_of_three_le {vs : List α} (h : 3 ≤ vs.length) :
    goesAround crossed vs = decide (Odd ((sides vs).countP crossed)) := by
  rw [goesAround, decide_eq_true h, Bool.true_and]

/-- Whether a path goes around does not depend on where it begins. -/
theorem goesAround_append_comm (us vs : List α) :
    goesAround crossed (us ++ vs) = goesAround crossed (vs ++ us) := by
  rw [goesAround, goesAround, (sides_append_perm us vs).countP_eq, List.length_append,
    List.length_append, Nat.add_comm]

/-- A path goes around as another one whose vertices it maps. -/
theorem goesAround_map {β : Type} (crossed : β × β → Bool) (f : α → β) (vs : List α) :
    goesAround crossed (vs.map f) = goesAround (fun s => crossed (f s.1, f s.2)) vs := by
  rw [goesAround, goesAround, sides, ← List.map_rotate, List.zip_map, List.countP_map,
    List.length_map]
  rfl

/-- **A path that goes around crosses on both sides.** If a side is crossed
where something changes along it and it lies on the one hand, there are two
sides at least where it changes: as the number of all of these is even, an odd
number lies on the other hand. -/
theorem exists_of_goesAround (f : α → Bool) (east : α × α → Bool) {vs : List α}
    (h : goesAround (fun s => (f s.2 != f s.1) && east s) vs = true) :
    (∃ s ∈ sides vs, (f s.2 != f s.1) = true ∧ east s = true)
      ∧ ∃ s ∈ sides vs, (f s.2 != f s.1) = true ∧ east s = false := by
  have heast := (goesAround_iff.mp h).2
  have hwest : Odd ((sides vs).countP fun s => (f s.2 != f s.1) && !east s) := by
    have hall := even_changes_sides f vs
    rw [List.countP_eq_countP_filter_add _ _ east, List.countP_filter, List.countP_filter,
      Nat.even_add] at hall
    rw [← Nat.not_even_iff_odd, ← hall, Nat.not_even_iff_odd]
    exact heast
  obtain ⟨s, hs, heast⟩ := List.countP_pos_iff.mp heast.pos
  obtain ⟨s', hs', hwest⟩ := List.countP_pos_iff.mp hwest.pos
  obtain ⟨hchange, heast⟩ := Bool.and_eq_true_iff.mp heast
  obtain ⟨hchange', hwest⟩ := Bool.and_eq_true_iff.mp hwest
  rw [Bool.not_eq_true'] at hwest
  exact ⟨⟨s, hs, hchange, heast⟩, s', hs', hchange', hwest⟩

end Paths

/-! ## Rings -/

namespace Ring

variable (p : Position)

/-- Whether the side of a ring is crossed on the way to the east. -/
def crossed (s : Vertex × Vertex) : Bool := crosses p s.2 s.1

/-- A flag that is turned at each crossed side tells whether their number is
odd. -/
theorem oddCrossings_eq (a : Vertex) (vs : List Vertex) :
    oddCrossings p a vs = decide (Odd ((legs a vs).countP (crossed p))) := by
  induction vs generalizing a with
  | nil => rfl
  | cons v vs ih =>
    have hfirst : crosses p v a = decide (Odd (if crossed p (a, v) then 1 else 0)) := by
      rw [crossed]
      cases crosses p v a <;> decide
    rw [oddCrossings, ih, legs, List.countP_cons, Nat.add_comm, decide_odd_add, ← hfirst]

/-- **A position is inside a ring if the path of the ring's vertices goes around
it.** -/
theorem contains_eq (r : Ring) : r.contains p = goesAround (crossed p) r.vertices := by
  rw [contains]
  rcases r.vertices.eq_nil_or_concat' with h | ⟨vs, last, h⟩
  · rw [h]
    rfl
  · have hsides := sides_append_perm vs [last]
    rw [List.singleton_append, sides_cons] at hsides
    rw [h, List.getLast?_concat, goesAround, hsides.countP_eq, ← oddCrossings_eq]

end Ring

end FleetCompliance

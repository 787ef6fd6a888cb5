import FleetCompliance.Proofs.EvenOdd
import Mathlib.Logic.Relation

/-!
# Rings written down in other ways

One ring can be written down in many ways. It may begin at any of its
positions, a position may be repeated where the line stops for a moment, the
first one may stand at the end once more to close the line or be left to the
reader, heights may be added, and positions that are none may be among the
others. The holes of a polygon come in no order at all.

None of this moves a position into a polygon or out of it
(`Polygon.contains_rewritten`), and this is exact: no number is computed anew.
A ring that begins elsewhere has the same sides, and the count does not see
their order; a position that is repeated adds one side that straddles no
latitude. What closes a ring is both of these at once, a repetition of the
first position that is then turned to the end.

Three usable positions are asked of a ring, as one with fewer has no inside,
and might get one from repetitions.
-/

namespace FleetCompliance

/-- A vertex may be repeated directly after itself, if the side from it to
itself is not crossed. -/
theorem goesAround_repeated {α : Type} {crossed : α × α → Bool} {v : α}
    (hv : crossed (v, v) = false) {before after : List α}
    (h : 3 ≤ (before ++ v :: after).length) :
    goesAround crossed (before ++ v :: v :: after) = goesAround crossed (before ++ v :: after) := by
  have hlength : 3 ≤ (before ++ v :: v :: after).length := by
    simp only [List.length_append, List.length_cons] at h ⊢
    omega
  have hsides : sides (v :: v :: (after ++ before)) = (v, v) :: sides (v :: (after ++ before)) := by
    rw [sides_cons, sides_cons, List.cons_append, legs]
  rw [goesAround_of_three_le hlength, goesAround_of_three_le h,
    (sides_append_perm before _).countP_eq, (sides_append_perm before _).countP_eq,
    List.cons_append, List.cons_append, hsides,
    List.countP_cons_of_neg (hv ▸ Bool.false_ne_true)]

namespace Ring

/-- The number of the usable positions of a ring, which are those with two
ordinates at least. -/
def usable (r : Ring) : ℕ := r.countP (2 ≤ ·.length)

/-- **A ring is written down in another way.** -/
inductive Rewritten : Ring → Ring → Prop
  /-- It begins at another position. -/
  | rotated (r : Ring) (n : ℕ) : Rewritten r (r.rotate n)
  /-- A position is repeated directly after itself. -/
  | repeated (before : Ring) (o : Ordinates) (after : Ring) :
      Rewritten (before ++ o :: after) (before ++ o :: o :: after)
  /-- It is closed by its first position. -/
  | closed (o : Ordinates) (r : Ring) : Rewritten (o :: r) (o :: r ++ [o])
  /-- It was closed by its first position, and is opened. -/
  | opened (o : Ordinates) (r : Ring) (h : 3 ≤ usable (o :: r)) :
      Rewritten (o :: r ++ [o]) (o :: r)
  /-- A usable position gets further ordinates. -/
  | raised (before : Ring) {o : Ordinates} (h : 2 ≤ o.length) (further : Ordinates)
      (after : Ring) : Rewritten (before ++ o :: after) (before ++ (o ++ further) :: after)
  /-- A position that is not usable is inserted. -/
  | inserted (before : Ring) {o : Ordinates} (h : o.length < 2) (after : Ring) :
      Rewritten (before ++ after) (before ++ o :: after)

/-- Further ordinates do not change the vertex of a position. -/
theorem vertex?_append {o : Ordinates} (h : 2 ≤ o.length) (further : Ordinates) :
    vertex? (o ++ further) = vertex? o := by
  match o, h with
  | _ :: _ :: _, _ => rfl

/-- A position has a vertex if it is usable. -/
theorem isSome_vertex? (o : Ordinates) : (vertex? o).isSome = decide (2 ≤ o.length) := by
  match o with
  | [] => rfl
  | [_] => rfl
  | _ :: _ :: _ => exact (decide_eq_true (Nat.le_add_left 2 _)).symm

/-- A ring has as many vertices as usable positions. -/
theorem length_vertices_eq_usable (r : Ring) : r.vertices.length = r.usable := by
  rw [vertices, List.length_filterMap_eq_countP, usable]
  exact List.countP_congr (fun o _ => by rw [isSome_vertex?])

/-- The vertices of two rings one after the other. -/
theorem vertices_append (a b : Ring) : vertices (a ++ b) = a.vertices ++ b.vertices :=
  List.filterMap_append

/-- A position without a vertex adds none. -/
theorem vertices_cons_of_none {o : Ordinates} (ho : vertex? o = none) (r : Ring) :
    vertices (o :: r) = r.vertices := List.filterMap_cons_none ho

/-- A position adds its vertex. -/
theorem vertices_cons_of_some {o : Ordinates} {v : Vertex} (ho : vertex? o = some v) (r : Ring) :
    vertices (o :: r) = v :: r.vertices := List.filterMap_cons_some ho

variable {r r' : Ring} (p : Position)

/-- A ring matters through its vertices. -/
theorem contains_of_vertices (h : r'.vertices = r.vertices) : r'.contains p = r.contains p := by
  rw [contains_eq, contains_eq, h]

/-- The two parts of a ring may change places. -/
theorem contains_append_comm (a b : Ring) : contains (a ++ b) p = contains (b ++ a) p := by
  rw [contains_eq, contains_eq, vertices_append, vertices_append, goesAround_append_comm]

/-- A side from a vertex to itself straddles no latitude, and is not crossed. -/
theorem crossed_self (v : Vertex) : crossed p (v, v) = false := by
  rw [crossed, crosses, straddles, bne_self_eq_false, Bool.false_and]

/-- A position may be repeated directly after itself. -/
theorem contains_repeated {before : Ring} {o : Ordinates} {after : Ring}
    (h : 3 ≤ usable (before ++ o :: after)) :
    contains (before ++ o :: o :: after) p = contains (before ++ o :: after) p := by
  cases ho : vertex? o with
  | none =>
    refine contains_of_vertices p ?_
    rw [vertices_append, vertices_append, vertices_cons_of_none ho]
  | some v =>
    have hone : vertices (before ++ o :: after) = before.vertices ++ v :: vertices after := by
      rw [vertices_append, vertices_cons_of_some ho]
    have htwo : vertices (before ++ o :: o :: after)
        = before.vertices ++ v :: v :: vertices after := by
      rw [vertices_append, vertices_cons_of_some ho, vertices_cons_of_some ho]
    rw [← length_vertices_eq_usable, hone] at h
    rw [contains_eq, contains_eq, hone, htwo, goesAround_repeated (crossed_self p v) h]

/-- A ring may be closed by its first position: this is repeated, and then its
repetition is turned to the end. -/
theorem contains_closed {o : Ordinates} {r : Ring} (h : 3 ≤ usable (o :: r)) :
    contains (o :: r ++ [o]) p = contains (o :: r) p := by
  rw [contains_append_comm]
  exact @contains_repeated p [] o r h

/-- **A ring that is written down in another way contains what it contained**,
if it has three usable positions. -/
theorem Rewritten.contains_eq (h : Rewritten r r') (husable : 3 ≤ r.usable) :
    r'.contains p = r.contains p := by
  cases h with
  | rotated n =>
    rw [List.rotate_eq_drop_append_take_mod, contains_append_comm, List.take_append_drop]
  | repeated before o after => exact contains_repeated p husable
  | closed o r => exact contains_closed p husable
  | opened o _ hopened => exact (contains_closed p hopened).symm
  | @raised before o ho further after =>
    refine contains_of_vertices p ?_
    obtain ⟨v, hv⟩ := Option.isSome_iff_exists.mp ((isSome_vertex? o).trans (decide_eq_true ho))
    rw [vertices_append, vertices_append, vertices_cons_of_some hv,
      vertices_cons_of_some ((vertex?_append ho further).trans hv)]
  | @inserted before o ho after =>
    have hnone : vertex? o = none := by
      rw [← Option.not_isSome_iff_eq_none, isSome_vertex?, decide_eq_true_eq]
      exact Nat.not_le.mpr ho
    refine contains_of_vertices p ?_
    rw [vertices_append, vertices_append, vertices_cons_of_none hnone]

end Ring

namespace Polygon

/-- **A polygon is written down in another way**: one of its rings is, which has
three usable positions, or its holes are listed in another order. -/
inductive Rewritten : Polygon → Polygon → Prop
  | ring (before : List Ring) {r r' : Ring} (after : List Ring) (husable : 3 ≤ r.usable)
      (h : r.Rewritten r') : Rewritten (before ++ r :: after) (before ++ r' :: after)
  | holes (outer : Ring) {holes holes' : List Ring} (h : holes.Perm holes') :
      Rewritten (outer :: holes) (outer :: holes')

/-- A polygon contains what it contained after one change of the writing. -/
theorem Rewritten.contains_eq {polygon polygon' : Polygon} (h : Rewritten polygon polygon')
    (p : Position) : polygon'.contains p = polygon.contains p := by
  cases h with
  | ring before after husable h =>
    have hring := h.contains_eq p husable
    cases before with
    | nil => exact congrArg (· && !after.any (Ring.contains · p)) hring
    | cons outer before =>
      show (outer.contains p && !(before ++ _ :: after).any (Ring.contains · p))
        = (outer.contains p && !(before ++ _ :: after).any (Ring.contains · p))
      rw [List.any_append, List.any_append, List.any_cons, List.any_cons, hring]
  | holes outer h =>
    exact congrArg (outer.contains p && !·) h.symm.any_eq

/-- **What a polygon contains does not depend on how its rings are written
down.** Any number of changes may be made: rings of three usable positions or
more begin elsewhere, have positions repeated, are closed or opened, get further
ordinates and unusable positions, and the holes change their order. -/
theorem contains_rewritten {polygon polygon' : Polygon}
    (h : Relation.ReflTransGen Rewritten polygon polygon') (p : Position) :
    polygon'.contains p = polygon.contains p := by
  induction h with
  | refl => rfl
  | tail _ hstep ih => exact (hstep.contains_eq p).trans ih

end Polygon

/-! ### A courtyard drawn twice -/

namespace Sample

/-- Two holes, one of them a triangle. -/
def courtyardHoles : List Ring :=
  [[[1.0, 1.0], [2.0, 1.0], [2.0, 2.0], [1.0, 2.0]], [[3.0, 3.0], [3.5, 3.0], [3.5, 3.5]]]

/-- A square with the two holes. -/
def courtyard : Polygon := [[0.0, 0.0], [4.0, 0.0], [4.0, 4.0], [0.0, 4.0]] :: courtyardHoles

/-- The same square from its second corner on, where the line stops for a moment
and ends; a height and a stray number have got into it. -/
def redrawnCourtyard : Polygon :=
  [[4.0, 0.0], [4.0, 0.0], [4.0, 4.0, 12.5], [7.0], [0.0, 4.0], [0.0, 0.0], [4.0, 0.0]]
    :: courtyardHoles.reverse

/-- The second drawing is made from the first in six steps. -/
theorem rewritten_redrawnCourtyard :
    Relation.ReflTransGen Polygon.Rewritten courtyard redrawnCourtyard := by
  have hturned : Polygon.Rewritten courtyard
      ([[4.0, 0.0], [4.0, 4.0], [0.0, 4.0], [0.0, 0.0]] :: courtyardHoles) :=
    .ring [] _ (by decide) (.rotated _ 1)
  have hclosed : Polygon.Rewritten _
      ([[4.0, 0.0], [4.0, 4.0], [0.0, 4.0], [0.0, 0.0], [4.0, 0.0]] :: courtyardHoles) :=
    .ring [] _ (by decide) (.closed [4.0, 0.0] [[4.0, 4.0], [0.0, 4.0], [0.0, 0.0]])
  have hrepeated : Polygon.Rewritten _
      ([[4.0, 0.0], [4.0, 0.0], [4.0, 4.0], [0.0, 4.0], [0.0, 0.0], [4.0, 0.0]]
        :: courtyardHoles) :=
    .ring [] _ (by decide) (.repeated [] _ _)
  have hraised : Polygon.Rewritten _
      ([[4.0, 0.0], [4.0, 0.0], [4.0, 4.0, 12.5], [0.0, 4.0], [0.0, 0.0], [4.0, 0.0]]
        :: courtyardHoles) :=
    .ring [] _ (by decide) (.raised [_, _] (o := [4.0, 4.0]) (by decide) [12.5] _)
  have hinserted : Polygon.Rewritten _
      ([[4.0, 0.0], [4.0, 0.0], [4.0, 4.0, 12.5], [7.0], [0.0, 4.0], [0.0, 0.0], [4.0, 0.0]]
        :: courtyardHoles) :=
    .ring [] _ (by decide) (.inserted [_, _, _] (o := [7.0]) (by decide) _)
  exact .tail (.tail (.tail (.tail (.tail (.single hturned) hclosed) hrepeated) hraised)
    hinserted) (.holes _ (List.reverse_perm _).symm)

end Sample

/-- In either drawing one position is in the courtyard and one in a hole. -/
theorem contains_rewritten_courtyard :
    Relation.ReflTransGen Polygon.Rewritten Sample.courtyard Sample.redrawnCourtyard
      ∧ Sample.courtyard.contains ⟨2.5, 0.5⟩ = true
      ∧ Sample.redrawnCourtyard.contains ⟨2.5, 0.5⟩ = true
      ∧ Sample.courtyard.contains ⟨1.5, 1.5⟩ = false
      ∧ Sample.redrawnCourtyard.contains ⟨1.5, 1.5⟩ = false := by
  have h := Sample.rewritten_redrawnCourtyard
  have hyard : Sample.courtyard.contains ⟨2.5, 0.5⟩ = true := rfl
  have hhole : Sample.courtyard.contains ⟨1.5, 1.5⟩ = false := rfl
  exact ⟨h, hyard, (Polygon.contains_rewritten h _).trans hyard, hhole,
    (Polygon.contains_rewritten h _).trans hhole⟩

end FleetCompliance

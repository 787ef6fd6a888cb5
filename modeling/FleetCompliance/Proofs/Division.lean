import FleetCompliance.Proofs.Plane
import Mathlib.Algebra.Order.Ring.Rat

/-!
# Dividing a zone

A zone is divided by a line from one vertex of its ring to another one. Each
piece has the part of the ring on its side, and is closed by the line. A
position in the zone should then be in one of the pieces and not in both, also
if it is on the line, and one outside the zone in neither, or, where the line
leaves the zone, in both.

This holds as the line is a side of both pieces (`sides_arcs_perm`): if it is
crossed on the way to the east this changes the count of the one and that of
the other, and the two changes undo each other (`goesAround_arcs`). The pieces
run along the line in opposite directions though, and with rounded numbers the
test may answer otherwise when the line is read from its other end. So it has
to be asked that it does not, for the position at hand. In exact arithmetic it
never does (`Plane.crosses_comm`).
-/

namespace FleetCompliance

/-- **A chord cuts what a path goes around into two**, if it is crossed in
either direction or in neither. -/
theorem goesAround_arcs {α : Type} {crossed : α × α → Bool} {vs : List α} {i j : ℕ}
    (hij : i < j) {a b : α} (ha : vs[i]? = some a) (hb : vs[j]? = some b)
    (harc : 3 ≤ (arc vs i j).length) (hopposite : 3 ≤ (oppositeArc vs i j).length)
    (hchord : crossed (a, b) = crossed (b, a)) :
    goesAround crossed vs
      = (goesAround crossed (arc vs i j) ^^ goesAround crossed (oppositeArc vs i j)) := by
  have hlength : 3 ≤ vs.length := by
    rw [length_arc] at harc
    omega
  have hcount := (sides_arcs_perm hij ha hb).countP_eq crossed
  rw [List.countP_append, List.countP_cons, List.countP_cons, hchord] at hcount
  have hodd : Odd ((sides vs).countP crossed) ↔ Odd ((sides (arc vs i j)).countP crossed
      + (sides (oppositeArc vs i j)).countP crossed) := by
    rw [hcount, Nat.odd_iff, Nat.odd_iff]
    omega
  rw [goesAround_of_three_le hlength, goesAround_of_three_le harc,
    goesAround_of_three_le hopposite, decide_eq_decide.mpr hodd, decide_odd_add]

namespace Ring

variable {r : Ring}

/-- A ring with usable positions only has a vertex for each of them. -/
theorem map_vertex? (h : ∀ o ∈ r, 2 ≤ o.length) : r.map vertex? = r.vertices.map some := by
  induction r with
  | nil => rfl
  | cons o r ih =>
    obtain ⟨ho, hr⟩ := List.forall_mem_cons.mp h
    match o, ho with
    | x :: y :: _, _ =>
      rw [List.map_cons, ih hr]
      rfl

/-- The vertices of a ring are what its positions have for vertices. -/
theorem vertices_eq_of_map {vs : List Vertex} (h : r.map vertex? = vs.map some) :
    r.vertices = vs := by
  have hmap : r.vertices = (r.map vertex?).filterMap id := by
    rw [List.filterMap_map]
    rfl
  rw [hmap, h, List.filterMap_map]
  exact List.filterMap_some

/-- It has as many vertices as positions. -/
theorem length_vertices (h : ∀ o ∈ r, 2 ≤ o.length) : r.vertices.length = r.length := by
  have hlength := congrArg List.length (map_vertex? h)
  rw [List.length_map, List.length_map] at hlength
  exact hlength.symm

variable (h : ∀ o ∈ r, 2 ≤ o.length) (i j : ℕ)

include h

/-- The vertices of a part of a ring are that part of its vertices. -/
theorem vertices_arc : vertices (arc r i j) = arc r.vertices i j := by
  refine vertices_eq_of_map ?_
  rw [arc, arc, List.map_drop, List.map_take, map_vertex? h, List.map_drop, List.map_take]

/-- The vertices of the other part of a ring are that part of its vertices. -/
theorem vertices_oppositeArc : vertices (oppositeArc r i j) = oppositeArc r.vertices i j := by
  refine vertices_eq_of_map ?_
  rw [oppositeArc, oppositeArc, List.map_append, List.map_drop, List.map_take, map_vertex? h,
    List.map_append, List.map_drop, List.map_take]

omit h in
/-- A polygon without holes is its ring. -/
theorem polygonContains_singleton (r : Ring) (p : Position) :
    Polygon.contains [r] p = r.contains p := by
  rw [Polygon.contains, List.any_nil, Bool.not_false, Bool.and_true]

variable {i j}

/-- **Dividing a zone neither loses a position nor counts one twice.** A ring of
usable positions is divided from one of its vertices to another one, so that
either piece has three positions at least. If for a position the test of the
line between the two vertices gives the same answer in both directions, the
position is inside the ring exactly if it is inside one of the pieces and not
inside the other, wherever the ring goes and the line with it; so a position
inside the ring is inside exactly one of the pieces. In exact arithmetic, of
which the test is the rounded form, the answer is always the same. -/
theorem contains_divided (hij : i < j) {a b : Vertex} (ha : r.vertices[i]? = some a)
    (hb : r.vertices[j]? = some b) (hfirst : 3 ≤ (arc r i j).length)
    (hsecond : 3 ≤ (oppositeArc r i j).length) {p : Position}
    (hline : crosses p a b = crosses p b a) :
    Polygon.contains [r] p
        = (Polygon.contains [arc r i j] p ^^ Polygon.contains [oppositeArc r i j] p)
      ∧ (Polygon.contains [r] p = true →
          (Polygon.contains [arc r i j] p = true ∧ Polygon.contains [oppositeArc r i j] p = false)
            ∨ (Polygon.contains [arc r i j] p = false
              ∧ Polygon.contains [oppositeArc r i j] p = true))
      ∧ (∀ v w, crosses p v w = Plane.crosses p.point (point v) (point w))
      ∧ ∀ (K : Type) [Field K] [LinearOrder K] [IsStrictOrderedRing K] (q v w : Plane.Point K),
          Plane.crosses q v w = Plane.crosses q w v := by
  have hpieces : Polygon.contains [r] p
      = (Polygon.contains [arc r i j] p ^^ Polygon.contains [oppositeArc r i j] p) := by
    rw [polygonContains_singleton, polygonContains_singleton, polygonContains_singleton,
      contains_eq, contains_eq, contains_eq, vertices_arc h, vertices_oppositeArc h]
    refine goesAround_arcs hij ha hb ?_ ?_ hline.symm
    · rwa [length_arc, length_vertices h, ← length_arc]
    · rwa [length_oppositeArc, length_vertices h, ← length_oppositeArc]
  refine ⟨hpieces, fun hinside => ?_, fun v w => crosses_eq p v w,
    fun K _ _ _ q v w => Plane.crosses_comm q v w⟩
  rw [hpieces] at hinside
  cases hpiece : Polygon.contains [arc r i j] p with
  | true =>
    rw [hpiece, Bool.true_xor, Bool.not_eq_true'] at hinside
    exact Or.inl ⟨rfl, hinside⟩
  | false =>
    rw [hpiece, Bool.false_xor] at hinside
    exact Or.inr ⟨rfl, hinside⟩

end Ring

/-! ### A corner cut in two -/

namespace Sample

/-- A ring around a corner. -/
def cornerRing : Ring :=
  [[0.0, 0.0], [2.0, 0.0], [2.0, 1.0], [1.0, 1.0, 12.5], [1.0, 2.0], [0.0, 2.0]]

end Sample

/-- A position on the line between the two corners is in one of the pieces. -/
theorem contains_divided_corner :
    (∀ o ∈ Sample.cornerRing, 2 ≤ o.length)
      ∧ arc Sample.cornerRing 0 3 = [[0.0, 0.0], [2.0, 0.0], [2.0, 1.0], [1.0, 1.0, 12.5]]
      ∧ oppositeArc Sample.cornerRing 0 3
          = [[1.0, 1.0, 12.5], [1.0, 2.0], [0.0, 2.0], [0.0, 0.0]]
      ∧ Ring.crosses ⟨0.5, 0.5⟩ ⟨0.0, 0.0⟩ ⟨1.0, 1.0⟩
          = Ring.crosses ⟨0.5, 0.5⟩ ⟨1.0, 1.0⟩ ⟨0.0, 0.0⟩
      ∧ Polygon.contains [Sample.cornerRing] ⟨0.5, 0.5⟩ = true
      ∧ Polygon.contains [arc Sample.cornerRing 0 3] ⟨0.5, 0.5⟩ = true
      ∧ Polygon.contains [oppositeArc Sample.cornerRing 0 3] ⟨0.5, 0.5⟩ = false := by
  have husable : ∀ o ∈ Sample.cornerRing, 2 ≤ o.length := by decide
  have hline : Ring.crosses ⟨0.5, 0.5⟩ ⟨0.0, 0.0⟩ ⟨1.0, 1.0⟩
      = Ring.crosses ⟨0.5, 0.5⟩ ⟨1.0, 1.0⟩ ⟨0.0, 0.0⟩ := by decide
  have hwhole : Polygon.contains [Sample.cornerRing] ⟨0.5, 0.5⟩ = true := rfl
  obtain ⟨-, hpieces, -, -⟩ := Ring.contains_divided husable (by decide : 0 < 3)
    (rfl : Sample.cornerRing.vertices[0]? = some ⟨0.0, 0.0⟩)
    (rfl : Sample.cornerRing.vertices[3]? = some ⟨1.0, 1.0⟩)
    (by decide) (by decide) hline
  rcases hpieces hwhole with hfirst | hsecond
  · exact ⟨husable, rfl, rfl, hline, hwhole, hfirst⟩
  · exact absurd hsecond.1 (by decide)

end FleetCompliance

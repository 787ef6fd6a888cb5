import FleetCompliance.Proofs.Plane
import Mathlib.Algebra.Order.Ring.Rat

/-!
# Nothing beyond the extent of a ring is inside

The sides of a ring that straddle a latitude are even in number, as the walk
along the ring comes back to the side of the latitude on which it began. A
position is inside if an odd number of them is crossed to the east, and so an
odd number is left that is not. A position with all of them on one hand is not
inside (`Ring.contains_between`).

What is crossed is what is found to be crossed, and this part of the statement
holds of rounded numbers. That a position beyond all vertices has the sides on
one hand takes exact arithmetic, at least to the east and to the west, where
the place at which a side meets the latitude is computed. There it is between
the ends of the side, and so not beyond the vertices (`Plane.not_beyond`).
-/

namespace FleetCompliance

namespace Plane

/-- **A point lies beyond a path** if it is north, south, east or west of all
vertices. -/
def Beyond {K : Type} [LT K] (path : List (Point K)) (p : Point K) : Prop :=
  (∀ v ∈ path, v.y < p.y) ∨ (∀ v ∈ path, p.y < v.y)
    ∨ (∀ v ∈ path, v.x < p.x) ∨ (∀ v ∈ path, p.x < v.x)

variable {K : Type} [Field K] [LinearOrder K] [IsStrictOrderedRing K]

/-- In exact arithmetic no point beyond a path is inside it. -/
theorem not_beyond {path : List (Point K)} {p : Point K} (h : contains path p = true) :
    ¬ Beyond path p := by
  obtain ⟨⟨s, hs, hstraddled, heast⟩, s', hs', hstraddled', hwest⟩ :=
    exists_of_goesAround (fun v : Point K => decide (p.y < v.y))
      (fun s => decide (p.x < meeting p s.2 s.1)) h
  have hlevels := straddles_iff.mp hstraddled
  have heast := of_decide_eq_true heast
  have hwest := of_decide_eq_false hwest
  obtain ⟨hfrom, hto⟩ := mem_of_mem_sides hs
  obtain ⟨hfrom', hto'⟩ := mem_of_mem_sides hs'
  rintro (hnorth | hsouth | hbeyond | hbeyond)
  · rcases hlevels with ⟨-, hup⟩ | ⟨-, hdown⟩
    · exact hup.not_gt (hnorth _ hfrom)
    · exact hdown.not_gt (hnorth _ hto)
  · rcases hlevels with ⟨hup, -⟩ | ⟨hdown, -⟩
    · exact hup.not_gt (hsouth _ hto)
    · exact hdown.not_gt (hsouth _ hfrom)
  · exact heast.not_gt (meeting_lt hstraddled (hbeyond _ hto) (hbeyond _ hfrom))
  · exact hwest (lt_meeting hstraddled' (hbeyond _ hto') (hbeyond _ hfrom'))

end Plane

namespace Ring

variable (r : Ring) (p : Position)

/-- The sides of a ring that straddle a latitude are even in number. -/
theorem even_straddles : Even ((sides r.vertices).countP fun s => straddles p s.2 s.1) :=
  even_changes_sides (fun v : Vertex => decide (p.lat < v.y)) r.vertices

variable {r p}

/-- A position inside a ring has sides of it on both hands. -/
theorem exists_of_contains (h : r.contains p = true) :
    (∃ s ∈ sides r.vertices, straddles p s.2 s.1 = true ∧ meetsEast p s.2 s.1 = true)
      ∧ ∃ s ∈ sides r.vertices, straddles p s.2 s.1 = true ∧ meetsEast p s.2 s.1 = false := by
  rw [contains_eq] at h
  exact exists_of_goesAround (fun v : Vertex => decide (p.lat < v.y))
    (fun s => meetsEast p s.2 s.1) h

/-- A position is not inside a ring of which all sides are on one hand. -/
theorem contains_eq_false_of_forall {east : Bool}
    (h : ∀ s ∈ sides r.vertices, straddles p s.2 s.1 = true → meetsEast p s.2 s.1 = east) :
    r.contains p = false := by
  refine Bool.eq_false_iff.mpr (fun hinside => ?_)
  obtain ⟨⟨s, hs, hstraddled, heast⟩, s', hs', hstraddled', hwest⟩ :=
    exists_of_contains hinside
  have heast' := (h s hs hstraddled).symm.trans heast
  have hwest' := (h s' hs' hstraddled').symm.trans hwest
  exact Bool.noConfusion (heast'.symm.trans hwest')

/-- **A position inside a ring lies between its sides.** The sides that straddle
the latitude of a position are even in number. If the position is inside, one
of them is found to be east of it and another one is not; so a position with
all of them on one hand is not inside the ring, and in no polygon which the ring
bounds. In exact arithmetic, of which the test of a polygon is the rounded form,
these are all positions to the north, to the south, to the east and to the west
of all vertices. -/
theorem contains_between (r : Ring) (p : Position) :
    Even ((sides r.vertices).countP fun s => straddles p s.2 s.1)
      ∧ (r.contains p = true →
          (∃ s ∈ sides r.vertices, straddles p s.2 s.1 = true ∧ meetsEast p s.2 s.1 = true)
            ∧ ∃ s ∈ sides r.vertices,
              straddles p s.2 s.1 = true ∧ meetsEast p s.2 s.1 = false)
      ∧ (∀ east, (∀ s ∈ sides r.vertices,
            straddles p s.2 s.1 = true → meetsEast p s.2 s.1 = east) →
          r.contains p = false ∧ ∀ holes, Polygon.contains (r :: holes) p = false)
      ∧ (∀ polygon : Polygon, polygon.contains p
          = Plane.polygonContains (polygon.map fun r => r.vertices.map point) p.point)
      ∧ ∀ (K : Type) [Field K] [LinearOrder K] [IsStrictOrderedRing K]
          (path : List (Plane.Point K)) (q : Plane.Point K), Plane.Beyond path q →
          Plane.contains path q = false
            ∧ ∀ holes, Plane.polygonContains (path :: holes) q = false := by
  refine ⟨r.even_straddles p, exists_of_contains, fun east h => ?_,
    fun polygon => polygon.contains_eq_plane p, ?_⟩
  · have houtside := contains_eq_false_of_forall h
    refine ⟨houtside, fun holes => ?_⟩
    rw [Polygon.contains, houtside, Bool.false_and]
  · intro K _ _ _ path q h
    have houtside : Plane.contains path q = false :=
      Bool.eq_false_iff.mpr (fun hinside => Plane.not_beyond hinside h)
    refine ⟨houtside, fun holes => ?_⟩
    rw [Plane.polygonContains, houtside, Bool.false_and]

end Ring

/-! ### A ring with a notch -/

namespace Sample

/-- A ring that is open to the north, with a position that is no vertex. -/
def notchedRing : Ring :=
  [[0.0, 0.0], [3.0, 0.0, 12.5], [3.0, 2.0], [2.0, 2.0], [2.0, 1.0], [7.0], [1.0, 1.0],
    [1.0, 2.0], [0.0, 2.0], [0.0, 0.0]]

/-- The same over exact numbers. -/
def notchedPath : List (Plane.Point ℚ) :=
  [⟨0, 0⟩, ⟨3, 0⟩, ⟨3, 2⟩, ⟨2, 2⟩, ⟨2, 1⟩, ⟨1, 1⟩, ⟨1, 2⟩, ⟨0, 2⟩]

end Sample

/-- Four sides straddle the latitude of the notch. A position in an arm of the
ring has sides of it on both hands, one to the east has all of them on one, and
so has one to the west in exact arithmetic. -/
theorem contains_between_notched :
    (sides Sample.notchedRing.vertices).countP
        (fun s => Ring.straddles ⟨1.5, 0.5⟩ s.2 s.1) = 4
      ∧ Even ((sides Sample.notchedRing.vertices).countP
        (fun s => Ring.straddles ⟨1.5, 0.5⟩ s.2 s.1))
      ∧ Sample.notchedRing.contains ⟨1.5, 0.5⟩ = true
      ∧ (∃ s ∈ sides Sample.notchedRing.vertices,
        Ring.straddles ⟨1.5, 0.5⟩ s.2 s.1 = true ∧ Ring.meetsEast ⟨1.5, 0.5⟩ s.2 s.1 = false)
      ∧ (∀ s ∈ sides Sample.notchedRing.vertices,
        Ring.straddles ⟨1.5, 3.5⟩ s.2 s.1 = true → Ring.meetsEast ⟨1.5, 3.5⟩ s.2 s.1 = false)
      ∧ Polygon.contains [Sample.notchedRing, Sample.notchedRing] ⟨1.5, 3.5⟩ = false
      ∧ Plane.Beyond Sample.notchedPath ⟨-1, 1⟩
      ∧ Plane.contains Sample.notchedPath ⟨-1, 1⟩ = false := by
  obtain ⟨heven, hbetween, -, -, -⟩ := Sample.notchedRing.contains_between ⟨1.5, 0.5⟩
  obtain ⟨-, -, hhand, -, hexact⟩ := Sample.notchedRing.contains_between ⟨1.5, 3.5⟩
  have hinside : Sample.notchedRing.contains ⟨1.5, 0.5⟩ = true := rfl
  have heast : ∀ s ∈ sides Sample.notchedRing.vertices,
      Ring.straddles ⟨1.5, 3.5⟩ s.2 s.1 = true
        → Ring.meetsEast ⟨1.5, 3.5⟩ s.2 s.1 = false := by decide
  have hbeyond : Plane.Beyond Sample.notchedPath ⟨-1, 1⟩ := by
    refine Or.inr (Or.inr (Or.inr ?_))
    decide +kernel
  exact ⟨by decide, heven, hinside, (hbetween hinside).2, heast,
    (hhand false heast).2 [Sample.notchedRing], hbeyond, (hexact ℚ _ _ hbeyond).1⟩

end FleetCompliance

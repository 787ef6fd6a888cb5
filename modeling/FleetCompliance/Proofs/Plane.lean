import FleetCompliance.Proofs.EvenOdd
import Mathlib.Algebra.Order.Field.Basic
import Mathlib.Tactic.FieldSimp
import Mathlib.Tactic.Linarith
import Mathlib.Tactic.Ring

/-!
# Sides and points in exact arithmetic

Whether a side is crossed is computed with rounded numbers, and what is true of
the line through its ends need not be true of what is computed: the line read
from its other end may be found on the other side of a position that is close
to it, and one that leaves a ring's extent by a hair may seem to meet the
position's latitude beyond.

To say what is true without rounding, the test is written down once more for
numbers of any kind (`Plane.crosses`). Read with rounded numbers it is the test
of a ring's sides (`Ring.crosses_eq`, `Ring.contains_eq_plane`). Over an ordered
field it does not depend on the direction in which a side is read
(`Plane.crosses_comm`), and where it finds that a side meets a latitude lies
between the ends of the side (`Plane.exists_meeting`).
-/

namespace FleetCompliance

namespace Plane

/-- A point of a plane, whose coordinates are numbers of some kind. -/
structure Point (K : Type) where
  x : K
  y : K

section Test

variable {K : Type} [LT K] [DecidableLT K]

/-- Whether the latitude of a point lies between those of two others, the lower
included. -/
def straddles (p a b : Point K) : Bool := decide (p.y < a.y) != decide (p.y < b.y)

/-- A latitude is straddled in either direction. -/
theorem straddles_comm (p a b : Point K) : straddles p a b = straddles p b a := bne_comm

/-- What straddles a latitude is not level. -/
theorem ne_of_straddles {p a b : Point K} (h : straddles p a b = true) : a.y ≠ b.y := by
  intro heq
  rw [straddles, heq, bne_self_eq_false] at h
  exact Bool.false_ne_true h

variable [Add K] [Sub K] [Mul K] [Div K]

/-- Where the line through two points meets the latitude of a third one. -/
def meeting (p a b : Point K) : K := (b.x - a.x) * (p.y - a.y) / (b.y - a.y) + a.x

/-- Whether a side is crossed on the way from a point to the east. -/
def crosses (p a b : Point K) : Bool := straddles p a b && decide (p.x < meeting p a b)

/-- **Whether a point is inside a closed path**, by the even-odd rule. -/
def contains (path : List (Point K)) (p : Point K) : Bool :=
  goesAround (fun s => crosses p s.2 s.1) path

/-- Whether a point is inside the first of some paths and inside no other. -/
def polygonContains (paths : List (List (Point K))) (p : Point K) : Bool :=
  match paths with
  | [] => false
  | outer :: holes => contains outer p && !holes.any (contains · p)

end Test

section Exact

variable {K : Type} [LinearOrder K] {p a b : Point K}

/-- A latitude is straddled upwards or downwards. -/
theorem straddles_iff : straddles p a b = true
    ↔ (a.y ≤ p.y ∧ p.y < b.y) ∨ (b.y ≤ p.y ∧ p.y < a.y) := by
  rw [straddles, bne_iff_ne, ne_eq, decide_eq_decide]
  constructor
  · intro h
    rcases lt_or_ge p.y a.y with ha | ha
    · exact Or.inr ⟨not_lt.mp (fun hb => h (iff_of_true ha hb)), ha⟩
    · exact Or.inl ⟨ha, not_le.mp (fun hb => h (iff_of_false ha.not_gt hb.not_gt))⟩
  · rintro (⟨ha, hb⟩ | ⟨hb, ha⟩) h
    · exact ha.not_gt (h.mpr hb)
    · exact hb.not_gt (h.mp ha)

variable [Field K]

/-- **In exact arithmetic a side is crossed in either direction**, as the line
through its ends is one line. -/
theorem crosses_comm (p a b : Point K) : crosses p a b = crosses p b a := by
  rw [crosses, crosses, straddles_comm p b a]
  cases h : straddles p a b with
  | false => rw [Bool.false_and, Bool.false_and]
  | true =>
    have hab : a.y - b.y ≠ 0 := sub_ne_zero.mpr (ne_of_straddles h)
    have hba : b.y - a.y ≠ 0 := sub_ne_zero.mpr (ne_of_straddles h).symm
    have hmeeting : meeting p a b = meeting p b a := by
      rw [meeting, meeting]
      field_simp
      ring
    rw [hmeeting]

variable [IsStrictOrderedRing K]

/-- **In exact arithmetic a side meets a latitude that it straddles between its
ends.** -/
theorem exists_meeting_eq (h : straddles p a b = true) :
    ∃ t, 0 ≤ t ∧ t ≤ 1 ∧ meeting p a b = (1 - t) * a.x + t * b.x := by
  refine ⟨(p.y - a.y) / (b.y - a.y), ?_, ?_, by rw [meeting]; ring⟩
  · rcases straddles_iff.mp h with ⟨ha, hb⟩ | ⟨hb, ha⟩
    · exact div_nonneg (by linarith) (by linarith)
    · exact div_nonneg_of_nonpos (by linarith) (by linarith)
  · rcases straddles_iff.mp h with ⟨ha, hb⟩ | ⟨hb, ha⟩
    · exact (div_le_one (by linarith)).mpr (by linarith)
    · exact (div_le_one_of_neg (by linarith)).mpr (by linarith)

/-- A side whose ends are west of a point does not meet the point's latitude
east of it. -/
theorem meeting_lt (h : straddles p a b = true) {x : K} (ha : a.x < x) (hb : b.x < x) :
    meeting p a b < x := by
  obtain ⟨t, ht, ht', hmeeting⟩ := exists_meeting_eq h
  rw [hmeeting]
  calc (1 - t) * a.x + t * b.x
      ≤ (1 - t) * max a.x b.x + t * max a.x b.x := by
        gcongr
        · exact le_max_left _ _
        · exact le_max_right _ _
    _ = max a.x b.x := by ring
    _ < x := max_lt ha hb

/-- A side whose ends are east of a point meets the point's latitude east of
it, if it straddles that. -/
theorem lt_meeting (h : straddles p a b = true) {x : K} (ha : x < a.x) (hb : x < b.x) :
    x < meeting p a b := by
  obtain ⟨t, ht, ht', hmeeting⟩ := exists_meeting_eq h
  rw [hmeeting]
  calc x < min a.x b.x := lt_min ha hb
    _ = (1 - t) * min a.x b.x + t * min a.x b.x := by ring
    _ ≤ (1 - t) * a.x + t * b.x := by
        gcongr
        · exact min_le_left _ _
        · exact min_le_right _ _

end Exact

end Plane

/-! ## Rounded numbers -/

/-- A position as a point. -/
def Position.point (p : Position) : Plane.Point Float := ⟨p.lng, p.lat⟩

namespace Ring

/-- A vertex of a ring as a point. -/
def point (v : Vertex) : Plane.Point Float := ⟨v.x, v.y⟩

/-- Whether a side of a ring is crossed is the test with rounded numbers. -/
theorem crosses_eq (p : Position) (a b : Vertex) :
    crosses p a b = Plane.crosses p.point (point a) (point b) := rfl

/-- Whether a position is inside a ring is the test with rounded numbers. -/
theorem contains_eq_plane (r : Ring) (p : Position) :
    r.contains p = Plane.contains (r.vertices.map point) p.point := by
  rw [contains_eq, Plane.contains, goesAround_map]
  rfl

end Ring

/-- **Whether a position is inside a polygon is the test with rounded
numbers.** -/
theorem Polygon.contains_eq_plane (polygon : Polygon) (p : Position) :
    polygon.contains p
      = Plane.polygonContains (polygon.map fun r => r.vertices.map Ring.point) p.point := by
  cases polygon with
  | nil => rfl
  | cons outer holes =>
    rw [contains, List.map_cons, Plane.polygonContains, Ring.contains_eq_plane, List.any_map]
    simp only [Ring.contains_eq_plane]
    rfl

end FleetCompliance

import FleetCompliance.Geography.Basic

/-!
# Positions in geographies

A position is inside a ring if a line from it to the east crosses the ring's edges an odd number of
times. It is inside a polygon if it is inside the outer ring and inside no hole, and in a geography
if it is in one of its polygons.
-/

namespace FleetCompliance

/-- A vertex in the plane: longitude and latitude. -/
structure Vertex where
  x : Float
  y : Float

namespace Ring

/-- The vertex of a list of ordinates; one with fewer than two gives none. -/
def vertex? : Ordinates → Option Vertex
  | x :: y :: _ => some ⟨x, y⟩
  | _ => none

/-- The usable vertices of a ring. -/
def vertices (r : Ring) : List Vertex := r.filterMap vertex?

/-- Whether the latitude of a position lies between those of an edge's ends, the lower included. -/
def straddles (p : Position) (a b : Vertex) : Bool := (a.y > p.lat) != (b.y > p.lat)

/-- Whether an edge that straddles a position's latitude meets that latitude east of it. -/
def meetsEast (p : Position) (a b : Vertex) : Bool :=
  p.lng < (b.x - a.x) * (p.lat - a.y) / (b.y - a.y) + a.x

/-- Whether an edge is crossed on the way from a position to the east. -/
def crosses (p : Position) (a b : Vertex) : Bool := straddles p a b && meetsEast p a b

/-- Whether the number of crossed edges is odd, along the path that leads from `before` through the
given vertices. -/
def oddCrossings (p : Position) (before : Vertex) : List Vertex → Bool
  | [] => false
  | v :: rest => crosses p v before ^^ oddCrossings p v rest

/-- **Whether a position is inside a ring.** The first edge leads from the last vertex to the first.
A ring with fewer than three usable vertices has no inside. -/
def contains (r : Ring) (p : Position) : Bool :=
  let vs := r.vertices
  match vs.getLast? with
  | some last => 3 ≤ vs.length && oddCrossings p last vs
  | none => false

end Ring

/-- Whether a position is inside a polygon: inside its outer ring and outside its holes. -/
def Polygon.contains (polygon : Polygon) (p : Position) : Bool :=
  match polygon with
  | [] => false
  | outer :: holes => outer.contains p && !holes.any (Ring.contains · p)

namespace Geography

/-- Whether a position is in one of a geography's polygons. -/
def contains (g : Geography) (p : Position) : Bool := g.shape.polygons.any (Polygon.contains · p)

/-- Whether a position is in one of the geographies named. A name that no geography bears contains
nothing. -/
def anyContains (geographies : List Geography) (ids : List (Identifier .geography)) (p : Position) :
    Bool :=
  (ids.filterMap (find? geographies)).any (contains · p)

end Geography

end FleetCompliance

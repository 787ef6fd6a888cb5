import FleetCompliance.Vehicle.Basic

/-!
# Geographies

A geography is a published shape on the globe, made of polygons. A shape may be a bare geometry, a
feature that carries one together with properties, or a collection of features. Points and lines are
shapes too, but have no inside.
-/

namespace FleetCompliance

/-- The numbers that give one vertex: longitude, latitude, and any further ones such as a height. -/
abbrev Ordinates := List Float

/-- A closed line through its vertices. -/
abbrev Ring := List Ordinates

/-- An outer ring, and the rings of its holes. -/
abbrev Polygon := List Ring

/-- A geometric object. -/
inductive Geometry where
  | polygon (coordinates : Polygon)
  | multiPolygon (coordinates : List Polygon)
  | point (coordinates : Ordinates)
  | lineString (coordinates : List Ordinates)

/-- A geometry with free-form properties, either of which may be absent. -/
structure Feature where
  geometry : Option Geometry
  properties : Option Json

/-- What a geography covers. -/
inductive Shape where
  | collection (features : List Feature)
  | feature (feature : Feature)
  | geometry (geometry : Geometry)

/-- The polygons of a geometry. -/
def Geometry.polygons : Geometry → List Polygon
  | polygon rings => [rings]
  | multiPolygon polygons => polygons
  | point _ => []
  | lineString _ => []

/-- The polygons of a feature. -/
def Feature.polygons (f : Feature) : List Polygon :=
  match f.geometry with
  | some g => g.polygons
  | none => []

/-- The polygons of a shape, in the order in which they are written. -/
def Shape.polygons : Shape → List Polygon
  | collection features => features.flatMap Feature.polygons
  | feature f => f.polygons
  | geometry g => g.polygons

/-- A published geography. -/
structure Geography where
  geographyId : Identifier .geography
  name : Option String
  publishDate : Option Instant
  shape : Shape

namespace Geography

/-- The geography of an identifier. Of several with one identifier the last counts. -/
def find? (geographies : List Geography) (id : Identifier .geography) : Option Geography :=
  geographies.reverse.find? (·.geographyId = id)

end Geography

end FleetCompliance

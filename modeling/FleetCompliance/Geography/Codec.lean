import FleetCompliance.Geography.Basic
import FleetCompliance.Json.Record

/-!
# Geographies in JSON

Shapes follow the usual form for geographic data: an object with a `type`, and under a name that
depends on it the contents. Which of the three sorts of shape a value is, is found by trying them in
turn: a collection, a feature, a bare geometry.
-/

namespace FleetCompliance

/-- The numbers of a vertex. -/
def Ordinates.ofJson? (j : Json) : Option Ordinates := Json.listOf Json.float? j

/-- The vertices of a ring, or of an open line. -/
def Ring.ofJson? (j : Json) : Option Ring := Json.listOf Ordinates.ofJson? j

/-- The rings of a polygon. -/
def Polygon.ofJson? (j : Json) : Option Polygon := Json.listOf Ring.ofJson? j

/-- The numbers of a vertex as JSON. -/
def Ordinates.toJson (o : Ordinates) : Json := .arr (o.map Json.ofFloat)

/-- The vertices of a ring as JSON. -/
def Ring.toJson (r : Ring) : Json := .arr (r.map Ordinates.toJson)

/-- The rings of a polygon as JSON. -/
def Polygon.toJson (p : Polygon) : Json := .arr (p.map Ring.toJson)

namespace Geometry

/-- The sorts of geometry, with the reading of each one's coordinates. -/
def readers : List (String × (Json → Option Geometry)) :=
  [("Polygon", fun j => (Polygon.ofJson? j).map polygon),
   ("MultiPolygon", fun j => (Json.listOf Polygon.ofJson? j).map multiPolygon),
   ("Point", fun j => (Ordinates.ofJson? j).map point),
   ("LineString", fun j => (Ring.ofJson? j).map lineString)]

/-- The reading for a sort of geometry, which is given by its name or by its place in the list. -/
def reader? : Json → Option (Json → Option Geometry)
  | .str name => readers.lookup name
  | .num (.int n) => if 0 ≤ n then (readers[n.toNat]?).map (·.2) else none
  | _ => none

/-- **A geometry in JSON**: an object with type and coordinates, or an array of exactly these. -/
def ofJson? : Json → Option Geometry
  | .obj members => do
    let r ← Json.Record.ofMembers? ["type", "coordinates"] members
    r.required "coordinates" (← r.required "type" reader?)
  | .arr [kind, coordinates] => do (← reader? kind) coordinates
  | _ => none

/-- A geometry as JSON. -/
def toJson (g : Geometry) : Json :=
  let (kind, coordinates) := match g with
    | polygon rings => ("Polygon", rings.toJson)
    | multiPolygon polygons => ("MultiPolygon", .arr (polygons.map Polygon.toJson))
    | point o => ("Point", o.toJson)
    | lineString line => ("LineString", Ring.toJson line)
  .obj [("type", .str kind), ("coordinates", coordinates)]

end Geometry

namespace Feature

/-- The fields of a feature, apart from its type. -/
def fields : List String := ["geometry", "properties"]

/-- A feature from its fields. Of repeated keys in its properties the last counts. -/
def ofRecord? (r : Json.Record) : Option Feature := do
  return {
    geometry := ← r.nullable "geometry" Geometry.ofJson?
    properties := ← r.optional "properties" fun j => some j.lastWins }

/-- A feature inside a collection, where its type is not looked at. -/
def ofJson? (j : Json) : Option Feature := do ofRecord? (← Json.Record.ofJson? fields j)

/-- The members of a feature. -/
def members (f : Feature) : List (String × Json) :=
  ("geometry", Json.orNull Geometry.toJson f.geometry) :: Json.member? "properties" id f.properties

/-- A feature as JSON, without its type. -/
def toJson (f : Feature) : Json := .obj f.members

end Feature

namespace Shape

/-- Whether a value is the given type name. -/
def isTag (name : String) (j : Json) : Option Unit := Json.named? [(name, ())] false j

/-- A collection of features. -/
def collection? (j : Json) : Option Shape := do
  let r ← Json.Record.ofJson? ["type", "features"] j
  r.required "type" (isTag "FeatureCollection")
  return collection (← r.required "features" (Json.listOf Feature.ofJson?))

/-- A feature by itself. It has to be an object with its type. -/
def feature? (j : Json) : Option Shape := do
  let r ← Json.Record.ofObject? ("type" :: Feature.fields) j
  r.required "type" (isTag "Feature")
  return feature (← Feature.ofRecord? r)

/-- **A shape in JSON**, the first sort that it can be read as. -/
def ofJson? (j : Json) : Option Shape :=
  collection? j <|> feature? j <|> (Geometry.ofJson? j).map geometry

/-- A shape as JSON. -/
def toJson : Shape → Json
  | collection features =>
    .obj [("type", .str "FeatureCollection"), ("features", .arr (features.map Feature.toJson))]
  | feature f => .obj (("type", .str "Feature") :: f.members)
  | geometry g => g.toJson

end Shape

namespace Geography

/-- The fields of a geography. -/
def fields : List String := ["geography_id", "name", "publish_date", "geography_json"]

/-- **A geography in JSON.** Its shape is kept as a whole before it is looked at, so it is bounded
in depth: `outer` tells how deep it stands in a document, if it is read from one. -/
def ofJson? (outer : Option Nat) (j : Json) : Option Geography := do
  let r ← Json.Record.ofJson? fields j
  return {
    geographyId := ← r.required "geography_id" Identifier.ofJson?
    name := ← r.optional "name" Json.text?
    publishDate := ← r.optional "publish_date" Instant.ofJson?
    shape := ← r.required "geography_json" fun j => do Shape.ofJson? (← Json.kept outer j) }

/-- A geography as JSON. -/
def toJson (g : Geography) : Json :=
  .obj (("geography_id", g.geographyId.toJson) :: Json.member? "name" .str g.name
    ++ Json.member? "publish_date" Instant.toJson g.publishDate
    ++ [("geography_json", g.shape.toJson)])

end Geography

end FleetCompliance

import FleetCompliance.Geography.Codec
import FleetCompliance.Proofs.Kept

/-!
# Geographies are read back from their documents

Which of three sorts of shape a value is, nothing in it says for certain: the
sorts are tried in turn, and the first that fits is taken. A shape would be
misread if what is written of it fitted an earlier sort. It does not, because
every shape is written with its type first and the types differ
(`Shape.collection?_eq_none`, `Shape.feature?_eq_none`).

A shape also has more forms in which it can be read than the one in which it
is written: types by number, records without names, features without a
geometry or with a type that nobody looks at. So reading back is not a
property of what a document looks like but of what is read of it: coordinates
are finite, properties are not null and free of repeated keys
(`Shape.reproduces`).
-/

namespace FleetCompliance

open Json (Restores Reproduces Inside Fits)

/-! ## Geometries -/

/-- Vertices are reproduced. -/
theorem Ordinates.reproduces : Reproduces ofJson? toJson :=
  Json.reproduces_list Json.reproduces_float

/-- Rings are reproduced. -/
theorem Ring.reproduces : Reproduces ofJson? toJson :=
  Json.reproduces_list Ordinates.reproduces

/-- Polygons are reproduced. -/
theorem Polygon.reproduces : Reproduces ofJson? toJson :=
  Json.reproduces_list Ring.reproduces

namespace Geometry

/-- A geometry of some sort, as it is written. -/
def written (name : String) (coordinates : Json) : Json :=
  .obj [("type", .str name), ("coordinates", coordinates)]

/-- **A sort of geometry reproduces its geometries**: the coordinates are
written anew, under the name of the sort. -/
structure Kind (name : String) (read : Json → Option Geometry) : Prop where
  lookup : readers.lookup name = some read
  write : ∀ {c g}, read c = some g →
    ∃ c', g.toJson = written name c' ∧ read c' = some g ∧ Fits c' c

/-- Coordinates that are reproduced make a sort of geometry. -/
theorem kind_of_reproduces {α : Type} {coordinates : Json → Option α} {write : α → Json}
    (hr : Reproduces coordinates write) {name : String} (make : α → Geometry)
    (hmake : ∀ x, (make x).toJson = written name (write x))
    (hlookup : readers.lookup name = some fun j => (coordinates j).map make) :
    Kind name fun j => (coordinates j).map make := by
  refine ⟨hlookup, fun {c g} hread => ?_⟩
  obtain ⟨x, hx, rfl⟩ := Option.map_eq_some_iff.mp hread
  exact ⟨write x, hmake x, Option.map_eq_some_iff.mpr ⟨x, hr.read_write hx, rfl⟩, hr.fits hx⟩

/-- Every reader is that of a sort. -/
theorem kind_of_mem {name : String} {read : Json → Option Geometry}
    (h : (name, read) ∈ readers) : Kind name read := by
  simp only [readers, List.mem_cons, Prod.mk.injEq, List.not_mem_nil, or_false] at h
  obtain ⟨rfl, rfl⟩ | ⟨rfl, rfl⟩ | ⟨rfl, rfl⟩ | ⟨rfl, rfl⟩ := h
  · exact kind_of_reproduces Polygon.reproduces polygon (fun _ => rfl) rfl
  · exact kind_of_reproduces (Json.reproduces_list Polygon.reproduces) multiPolygon
      (fun _ => rfl) rfl
  · exact kind_of_reproduces Ordinates.reproduces point (fun _ => rfl) rfl
  · exact kind_of_reproduces Ring.reproduces lineString (fun _ => rfl) rfl

/-- The reader that a type stands for is that of a sort. -/
theorem kind_of_reader? {type : Json} {read : Json → Option Geometry}
    (h : reader? type = some read) : ∃ name, Kind name read := by
  cases type with
  | str name =>
    obtain ⟨before, after, hreaders, -⟩ := List.lookup_eq_some_iff.mp h
    exact ⟨name, kind_of_mem (hreaders ▸ List.mem_append_right _ List.mem_cons_self)⟩
  | num n =>
    cases n with
    | int n =>
      rw [reader?] at h
      split at h
      · obtain ⟨⟨name, read⟩, hget, rfl⟩ := Option.map_eq_some_iff.mp h
        exact ⟨name, kind_of_mem (List.mem_of_getElem? hget)⟩
      · exact nomatch h
    | real x => exact nomatch h
  | _ => exact nomatch h

/-- A written geometry is read by the reader of its sort. -/
theorem ofJson?_written {name : String} {read : Json → Option Geometry}
    (h : Kind name read) (c : Json) : ofJson? (written name c) = read c := by
  show (readers.lookup name).bind (fun read => read c) = read c
  rw [h.lookup]
  rfl

/-- **A geometry is read by the reader of its sort**, from coordinates inside
of its value. -/
theorem of_ofJson? {j : Json} {g : Geometry} (h : ofJson? j = some g) :
    ∃ name read c, Kind name read ∧ read c = some g ∧ Inside c j := by
  cases j with
  | obj members =>
    rw [ofJson?] at h
    simp only [Option.bind_eq_bind, Option.bind_eq_some_iff] at h
    obtain ⟨r, hr, read, htype, h⟩ := h
    obtain ⟨type, -, htype⟩ := Json.Record.of_required htype
    obtain ⟨c, hc, hread⟩ := Json.Record.of_required h
    obtain ⟨name, hkind⟩ := kind_of_reader? htype
    exact ⟨name, read, c, hkind, hread, (Json.Record.within_of_ofMembers? hr).inside hc⟩
  | arr items =>
    match items, h with
    | [type, c], h =>
      obtain ⟨read, htype, hread⟩ := Option.bind_eq_some_iff.mp h
      obtain ⟨name, hkind⟩ := kind_of_reader? htype
      refine ⟨name, read, c, hkind, hread, Json.inside_arr ?_⟩
      exact List.mem_cons_of_mem _ (List.mem_singleton_self c)
  | _ => exact nomatch h

/-- **Geometries are reproduced.** -/
theorem reproduces : Reproduces ofJson? toJson where
  read_write hread := by
    obtain ⟨name, read, c, hkind, hread, -⟩ := of_ofJson? hread
    obtain ⟨c', hwritten, hread', -⟩ := hkind.write hread
    rw [hwritten, ofJson?_written hkind, hread']
  ne_null {j g} _ _ := by
    cases g <;> exact fun hnull => nomatch hnull
  fits hread := by
    obtain ⟨name, read, c, hkind, hread, hinside⟩ := of_ofJson? hread
    obtain ⟨c', hwritten, -, hfits⟩ := hkind.write hread
    rw [hwritten, written]
    have hdepth := Nat.zero_lt_of_lt hinside.depth_lt
    refine Json.fits_obj hdepth (List.forall_mem_cons.mpr ⟨?_, List.forall_mem_singleton.mpr ?_⟩)
    · exact (Json.fits_str name).inside_of_null hdepth
    · exact hfits.inside hinside

end Geometry

/-! ## Features -/

namespace Feature

/-- A feature is read from its two fields. -/
theorem ofRecord?_eq_some_iff {r : Json.Record} {f : Feature} :
    ofRecord? r = some f
      ↔ r.nullable "geometry" Geometry.ofJson? = some f.geometry
        ∧ r.optional "properties" (fun j => some j.lastWins) = some f.properties := by
  simp only [ofRecord?, Option.bind_eq_bind, Option.bind_eq_some_iff, Option.pure_def,
    Option.some.injEq]
  constructor
  · rintro ⟨geometry, hgeometry, properties, hproperties, rfl⟩
    exact ⟨hgeometry, hproperties⟩
  · rintro ⟨hgeometry, hproperties⟩
    exact ⟨f.geometry, hgeometry, f.properties, hproperties, rfl⟩

/-- **A feature that was read from one record is read from every record that
holds its members.** -/
theorem ofRecord?_of_ofRecord? {r r' : Json.Record} {f : Feature} (h : ofRecord? r = some f)
    (hr : ∀ name ∈ fields, r'.get? name = f.members.lookup name) : ofRecord? r' = some f := by
  obtain ⟨hgeometry, hproperties⟩ := ofRecord?_eq_some_iff.mp h
  have hget : r'.get? "geometry" = some (Json.orNull Geometry.toJson f.geometry)
      ∧ r'.get? "properties" = f.properties.map id := by
    simpa [fields, members, List.lookup_cons] using hr
  refine ofRecord?_eq_some_iff.mpr ⟨?_, ?_⟩
  · refine Json.Record.nullable_orNull_of_restores (fun g hg => ?_) hget.1
    rw [Option.mem_def] at hg
    obtain ⟨v, -, hv, hread⟩ := Json.Record.of_nullable (hg ▸ hgeometry)
    exact Geometry.reproduces.restores hv hread
  · refine Json.Record.optional_of_restores (fun x hx => ?_) hget.2
    rw [Option.mem_def] at hx
    obtain ⟨v, -, hv, hread⟩ := Json.Record.of_optional (hx ▸ hproperties)
    exact Json.reproduces_lastWins.restores hv hread

/-- A feature that is written has its own fields, in their order. -/
theorem keys_members_sublist (f : Feature) : (f.members.map (·.1)).Sublist fields :=
  .cons_cons _ (Json.keys_member?_sublist _ _ _)

/-- A feature is written inside of the value that its record is within. -/
theorem inside_members {r : Json.Record} {j : Json} {f : Feature} (h : ofRecord? r = some f)
    (hr : r.Within j) : ∀ m ∈ f.members, Inside m.2 j := by
  obtain ⟨hgeometry, hproperties⟩ := ofRecord?_eq_some_iff.mp h
  refine List.forall_mem_cons.mpr ⟨hr.nullable Geometry.reproduces hgeometry, ?_⟩
  exact hr.optional Json.reproduces_lastWins hproperties "properties"

/-- **Features are reproduced** inside of a collection, where they have no
type. -/
theorem reproduces : Reproduces ofJson? toJson where
  read_write {j f} hread := by
    obtain ⟨r, -, hread⟩ := Option.bind_eq_some_iff.mp hread
    have hrecord : Json.Record.ofJson? fields f.toJson = some f.toJson.asRecord :=
      Json.Record.ofJson?_eq_asRecord f.keys_members_sublist (by decide)
    rw [ofJson?, hrecord]
    exact ofRecord?_of_ofRecord? hread fun _ _ => rfl
  ne_null _ _ := fun hnull => nomatch hnull
  fits hread := by
    obtain ⟨r, hr, hread⟩ := Option.bind_eq_some_iff.mp hread
    have hwithin := Json.Record.within_of_ofJson? hr
    exact Json.fits_obj hwithin.depth_pos (inside_members hread hwithin)

end Feature

/-! ## Shapes -/

namespace Shape

/-- The first member of an object is the one that a reader finds. -/
theorem get?_of_ofMembers?_cons {names : List String} {name : String} {v : Json}
    {members : List (String × Json)} {r : Json.Record} (hname : name ∈ names)
    (h : Json.Record.ofMembers? names ((name, v) :: members) = some r) :
    r.get? name = some v := by
  have hfirst : ((name, v) :: members).filter (fun m => names.contains m.1)
      = (name, v) :: members.filter (fun m => names.contains m.1) :=
    List.filter_cons_of_pos (List.contains_iff_mem.mpr hname)
  rw [Json.Record.ofMembers?, hfirst] at h
  split at h
  · obtain rfl := Option.some.inj h
    exact List.lookup_cons_self
  · cases h

variable {tag : String}

/-- Another name is not the given type. -/
theorem isTag_eq_none {name : String} (h : tag ≠ name) : isTag name (.str tag) = none := by
  show List.lookup tag [(name, ())] = none
  rw [List.lookup_cons, beq_false_of_ne h]
  rfl

/-- **What begins with another type is not read as a collection.** -/
theorem collection?_eq_none (h : tag ≠ "FeatureCollection") (members : List (String × Json)) :
    collection? (.obj (("type", .str tag) :: members)) = none := by
  rw [collection?]
  cases hr : Json.Record.ofJson? ["type", "features"] (.obj (("type", .str tag) :: members)) with
  | none => rfl
  | some r =>
    have htype : r.required "type" (isTag "FeatureCollection") = none := by
      rw [Json.Record.required, get?_of_ofMembers?_cons List.mem_cons_self hr]
      exact isTag_eq_none h
    simp only [Option.bind_eq_bind, Option.bind_some, htype, Option.bind_none]

/-- **What begins with another type is not read as a feature.** -/
theorem feature?_eq_none (h : tag ≠ "Feature") (members : List (String × Json)) :
    feature? (.obj (("type", .str tag) :: members)) = none := by
  rw [feature?]
  cases hr : Json.Record.ofObject? ("type" :: Feature.fields)
      (.obj (("type", .str tag) :: members)) with
  | none => rfl
  | some r =>
    have htype : r.required "type" (isTag "Feature") = none := by
      rw [Json.Record.required, get?_of_ofMembers?_cons List.mem_cons_self hr]
      exact isTag_eq_none h
    simp only [Option.bind_eq_bind, Option.bind_some, htype, Option.bind_none]

/-- A collection is read from the list of its features. -/
theorem of_collection? {j : Json} {s : Shape} (h : collection? j = some s) :
    ∃ r features, Json.Record.ofJson? ["type", "features"] j = some r
      ∧ r.required "features" (Json.listOf Feature.ofJson?) = some features
      ∧ s = collection features := by
  simp only [collection?, Option.bind_eq_bind, Option.bind_eq_some_iff] at h
  obtain ⟨r, hr, -, -, features, hfeatures, hs⟩ := h
  exact ⟨r, features, hr, hfeatures, (Option.some.inj hs).symm⟩

/-- A feature is read from its fields. -/
theorem of_feature? {j : Json} {s : Shape} (h : feature? j = some s) :
    ∃ r f, Json.Record.ofObject? ("type" :: Feature.fields) j = some r
      ∧ Feature.ofRecord? r = some f ∧ s = feature f := by
  simp only [feature?, Option.bind_eq_bind, Option.bind_eq_some_iff] at h
  obtain ⟨r, hr, -, -, f, hf, hs⟩ := h
  exact ⟨r, f, hr, hf, (Option.some.inj hs).symm⟩

/-- **A shape is of one of three sorts**, and is read from parts of its
value. -/
theorem of_ofJson? {j : Json} {s : Shape} (h : ofJson? j = some s) :
    collection? j = some s ∨ feature? j = some s
      ∨ ∃ g, Geometry.ofJson? j = some g ∧ s = geometry g := by
  rw [ofJson?] at h
  cases hcollection : collection? j with
  | some s' =>
    rw [hcollection] at h
    exact .inl h
  | none =>
    rw [hcollection] at h
    cases hfeature : feature? j with
    | some s' =>
      rw [hfeature] at h
      exact .inr (.inl h)
    | none =>
      rw [hfeature] at h
      obtain ⟨g, hg, rfl⟩ := Option.map_eq_some_iff.mp h
      exact .inr (.inr ⟨g, hg, rfl⟩)

/-- A collection that is written is read as a collection. -/
theorem collection?_toJson {features : List Feature}
    (h : Json.listOf Feature.ofJson? (.arr (features.map Feature.toJson)) = some features) :
    ofJson? (collection features).toJson = some (collection features) := by
  have hcollection : collection? (collection features).toJson = some (collection features) := by
    show (Json.listOf Feature.ofJson? (.arr (features.map Feature.toJson))).bind _ = _
    rw [h]
    rfl
  rw [ofJson?, hcollection]
  rfl

/-- A feature that is written is read as a feature. -/
theorem feature?_toJson {r : Json.Record} {f : Feature} (h : Feature.ofRecord? r = some f) :
    ofJson? (feature f).toJson = some (feature f) := by
  have hrecord : Json.Record.ofObject? ("type" :: Feature.fields) (feature f).toJson
      = some ⟨("type", .str "Feature") :: f.members, false⟩ :=
    Json.Record.ofMembers?_eq_some (f.keys_members_sublist.cons_cons "type") (by decide)
      fun _ h => h
  have hread : Feature.ofRecord? ⟨("type", .str "Feature") :: f.members, false⟩ = some f :=
    Feature.ofRecord?_of_ofRecord? h fun name hname => by
      have htype : (name == "type") = false := by
        refine beq_false_of_ne ?_
        rintro rfl
        exact absurd hname (by decide)
      rw [Json.Record.get?, List.lookup_cons, htype]
  have hfeature : feature? (feature f).toJson = some (feature f) := by
    rw [feature?, hrecord, Option.bind_eq_bind, Option.bind_some, hread]
    rfl
  rw [ofJson?, hfeature, toJson, collection?_eq_none (by decide)]
  rfl

/-- A geometry that is written is read as a geometry. -/
theorem geometry?_toJson {j : Json} {g : Geometry} (h : Geometry.ofJson? j = some g) :
    ofJson? (geometry g).toJson = some (geometry g) := by
  obtain ⟨name, read, c, hkind, hread, -⟩ := Geometry.of_ofJson? h
  obtain ⟨c', hwritten, -, -⟩ := hkind.write hread
  have hname : name ≠ "FeatureCollection" ∧ name ≠ "Feature" := by
    constructor <;>
    · rintro rfl
      exact nomatch hkind.lookup
  have hgeometry : Geometry.ofJson? (geometry g).toJson = some g := Geometry.reproduces.read_write h
  rw [ofJson?, hgeometry, toJson, hwritten, Geometry.written, collection?_eq_none hname.1,
    feature?_eq_none hname.2]
  rfl

/-- No shape is written as null. -/
theorem toJson_ne_null (s : Shape) : s.toJson ≠ .null := by
  cases s with
  | geometry g => cases g <;> exact fun hnull => nomatch hnull
  | _ => exact fun hnull => nomatch hnull

/-- **Shapes are reproduced**, as the sort that they were read as. -/
theorem reproduces : Reproduces ofJson? toJson where
  read_write h := by
    obtain hread | hread | ⟨g, hread, rfl⟩ := of_ofJson? h
    · obtain ⟨r, features, -, hfeatures, rfl⟩ := of_collection? hread
      obtain ⟨v, -, hfeatures⟩ := Json.Record.of_required hfeatures
      exact collection?_toJson ((Json.reproduces_list Feature.reproduces).read_write hfeatures)
    · obtain ⟨r, f, -, hf, rfl⟩ := of_feature? hread
      exact feature?_toJson hf
    · exact geometry?_toJson hread
  ne_null {_ s} _ _ := s.toJson_ne_null
  fits h := by
    obtain hread | hread | ⟨g, hread, rfl⟩ := of_ofJson? h
    · obtain ⟨r, features, hr, hfeatures, rfl⟩ := of_collection? hread
      have hwithin := Json.Record.within_of_ofJson? hr
      refine Json.fits_obj hwithin.depth_pos
        (List.forall_mem_cons.mpr ⟨?_, List.forall_mem_singleton.mpr ?_⟩)
      · exact (Json.fits_str _).inside_of_null hwithin.depth_pos
      · exact hwithin.required (Json.reproduces_list Feature.reproduces) hfeatures
    · obtain ⟨r, f, hr, hf, rfl⟩ := of_feature? hread
      have hwithin := Json.Record.within_of_ofObject? hr
      refine Json.fits_obj hwithin.depth_pos (List.forall_mem_cons.mpr ⟨?_, ?_⟩)
      · exact (Json.fits_str _).inside_of_null hwithin.depth_pos
      · exact Feature.inside_members hf hwithin
    · exact Geometry.reproduces.fits hread

/-- **A shape that has been kept and read is kept and read again** in the same
place, and where there is no limit. -/
theorem restores_kept {outer outer' : Option Nat} (houter : outer' = outer ∨ outer' = none)
    {j : Json} {s : Shape} (h : (do ofJson? (← j.kept outer)) = some s) :
    Restores (fun j => do ofJson? (← j.kept outer')) toJson s := by
  obtain ⟨kept, hkept, hread⟩ := Option.bind_eq_some_iff.mp h
  obtain rfl := Json.eq_of_kept hkept
  have hkept' : s.toJson.kept outer' = some s.toJson := by
    obtain rfl | rfl := houter
    · exact (reproduces.fits hread).kept hkept
    · rfl
  refine ⟨?_, s.toJson_ne_null⟩
  rw [hkept']
  exact reproduces.read_write hread

end Shape

/-! ## Geographies -/

namespace Geography

/-- A geography that is written is kept as it is. -/
theorem record_toJson (g : Geography) :
    Json.Record.ofJson? fields g.toJson = some g.toJson.asRecord := by
  refine Json.Record.ofJson?_eq_asRecord ?_ (by decide)
  simp only [List.map_cons, List.map_append]
  exact .cons_cons _ (.append (.append (Json.keys_member?_sublist _ _ _)
    (Json.keys_member?_sublist _ _ _)) (.refl _))

/-- **Geographies are restored** wherever their shapes are. -/
theorem ofJson?_toJson {outer : Option Nat} {g : Geography}
    (h : Restores (fun j => do Shape.ofJson? (← j.kept outer)) Shape.toJson g.shape) :
    ofJson? outer g.toJson = some g := by
  set r := g.toJson.asRecord with hr
  have hget (name : String) : r.get? name = r.fields.lookup name := rfl
  simp only [hr, toJson, Json.asRecord, List.lookup_append, Json.lookup_member?,
    List.lookup_cons] at hget
  have hgeographyId : r.required "geography_id" Identifier.ofJson? = some g.geographyId :=
    Json.Record.required_of_restores g.geographyId.restores (hget "geography_id")
  have hname : r.optional "name" Json.text? = some g.name :=
    Json.Record.optional_of_restores (fun s _ => Json.restores_text s)
      ((hget "name").trans (by simp))
  have hpublish : r.optional "publish_date" Instant.ofJson? = some g.publishDate :=
    Json.Record.optional_of_restores (fun t _ => t.restores)
      ((hget "publish_date").trans (by simp))
  have hshape : r.required "geography_json" (fun j => do Shape.ofJson? (← j.kept outer))
      = some g.shape :=
    Json.Record.required_of_restores h ((hget "geography_json").trans (by simp))
  simp only [ofJson?, g.record_toJson, ← hr, Option.bind_eq_bind, Option.bind_some] at hshape ⊢
  rw [hgeographyId, hname, hpublish, hshape]
  rfl

/-- **A geography that has been read is read again** from what is written of
it, in the same place and where there is no limit. -/
theorem ofJson?_toJson_of_ofJson? {outer outer' : Option Nat}
    (houter : outer' = outer ∨ outer' = none) {j : Json} {g : Geography}
    (h : ofJson? outer j = some g) : ofJson? outer' g.toJson = some g := by
  simp only [ofJson?, Option.bind_eq_bind, Option.bind_eq_some_iff] at h
  obtain ⟨r, -, _, -, _, -, _, -, shape, hshape, hg⟩ := h
  obtain rfl := Option.some.inj hg
  obtain ⟨v, -, hread⟩ := Json.Record.of_required hshape
  exact ofJson?_toJson (Shape.restores_kept houter hread)

end Geography

end FleetCompliance

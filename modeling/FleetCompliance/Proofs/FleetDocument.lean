import FleetCompliance.Verdict.Codec
import FleetCompliance.Proofs.GeographyDocument
import FleetCompliance.Proofs.CountLedger

/-!
# Events and snapshots are read back from their documents

An event is nested three levels deep, and all of its doubles stand at the
bottom: the place where the vehicle was, and its speed. A snapshot holds the
same doubles once for each vehicle that was found. Everything else in either is
a name, an identifier or a number of milliseconds, and is written exactly. So
both are read back as they were as soon as these few numbers are finite, and
then only (`Event.ofJson?_toJson_iff`, `Snapshot.ofJson?_toJson_iff`).
-/

namespace FleetCompliance

open Json (Restores)

/-! ## Positions -/

/-- **The numbers of a position are finite.** -/
structure Position.Finite (p : Position) : Prop where
  lat : p.lat.isFinite = true
  lng : p.lng.isFinite = true

/-- **The numbers of a fix are finite**, those of its place and its speed. -/
structure Fix.Finite (f : Fix) : Prop where
  position : f.position.Finite
  speed : ∀ x ∈ f.speed, x.isFinite = true

/-- Positions are restored. -/
theorem Position.restores {p : Position} (h : p.Finite) : Restores ofJson? toJson p := by
  refine ⟨?_, fun h => nomatch h⟩
  set r := p.toJson.asRecord
  have hrecord : Json.Record.ofJson? ["lat", "lng"] p.toJson = some r := rfl
  have hlat : r.required "lat" Json.float? = some p.lat :=
    Json.Record.required_of_restores (Json.restores_float h.lat) rfl
  have hlng : r.required "lng" Json.float? = some p.lng :=
    Json.Record.required_of_restores (Json.restores_float h.lng) rfl
  simp only [ofJson?, hrecord, Option.bind_eq_bind, Option.bind_some, hlat, hlng]
  rfl

/-- A position that is read is finite. -/
theorem Position.finite_of_ofJson? {j : Json} {p : Position} (h : ofJson? j = some p) :
    p.Finite := by
  simp only [ofJson?, Option.bind_eq_bind, Option.bind_eq_some_iff] at h
  obtain ⟨r, -, lat, hlat, lng, hlng, hp⟩ := h
  obtain rfl := Option.some.inj hp
  exact ⟨Json.Record.isFinite_of_required hlat, Json.Record.isFinite_of_required hlng⟩

/-- Fixes are restored. -/
theorem Fix.restores {f : Fix} (h : f.Finite) : Restores ofJson? toJson f := by
  refine ⟨?_, fun h => nomatch h⟩
  set r := f.toJson.asRecord with hr
  have hrecord : Json.Record.ofJson? ["lat", "lng", "speed"] f.toJson = some r := by
    refine Json.Record.ofJson?_eq_asRecord ?_ (by decide)
    rw [List.map_append]
    exact .append (.refl ["lat", "lng"]) (Json.keys_member?_sublist _ _ _)
  have hlat : r.required "lat" Json.float? = some f.position.lat :=
    Json.Record.required_of_restores (Json.restores_float h.position.lat) rfl
  have hlng : r.required "lng" Json.float? = some f.position.lng :=
    Json.Record.required_of_restores (Json.restores_float h.position.lng) rfl
  have hspeed : r.optional "speed" Json.float? = some f.speed :=
    Json.Record.optional_of_restores (fun x hx => Json.restores_float (h.speed x hx))
      (by simp [hr, toJson, Json.asRecord, Json.Record.get?, List.lookup_cons])
  simp only [ofJson?, hrecord, Option.bind_eq_bind, Option.bind_some, hlat, hlng, hspeed]
  rfl

/-- A fix that is read is finite. -/
theorem Fix.finite_of_ofJson? {j : Json} {f : Fix} (h : ofJson? j = some f) : f.Finite := by
  simp only [ofJson?, Option.bind_eq_bind, Option.bind_eq_some_iff] at h
  obtain ⟨r, -, lat, hlat, lng, hlng, speed, hspeed, hf⟩ := h
  obtain rfl := Option.some.inj hf
  exact ⟨⟨Json.Record.isFinite_of_required hlat, Json.Record.isFinite_of_required hlng⟩,
    Json.Record.isFinite_of_optional hspeed⟩

/-! ## Events -/

/-- Telemetry is restored. -/
theorem Telemetry.restores {t : Telemetry} (h : t.fix.Finite) : Restores ofJson? toJson t := by
  refine ⟨?_, fun h => nomatch h⟩
  set r := t.toJson.asRecord
  have hrecord : Json.Record.ofJson? ["gps", "timestamp"] t.toJson = some r := rfl
  have hfix : r.required "gps" Fix.ofJson? = some t.fix :=
    Json.Record.required_of_restores (Fix.restores h) rfl
  have htimestamp : r.required "timestamp" Instant.ofJson? = some t.timestamp :=
    Json.Record.required_of_restores t.timestamp.restores rfl
  simp only [ofJson?, hrecord, Option.bind_eq_bind, Option.bind_some, hfix, htimestamp]
  rfl

/-- Telemetry that is read is finite. -/
theorem Telemetry.finite_of_ofJson? {j : Json} {t : Telemetry} (h : ofJson? j = some t) :
    t.fix.Finite := by
  simp only [ofJson?, Option.bind_eq_bind, Option.bind_eq_some_iff] at h
  obtain ⟨r, -, fix, hfix, timestamp, -, ht⟩ := h
  obtain rfl := Option.some.inj ht
  obtain ⟨j, -, hfix⟩ := Json.Record.of_required hfix
  exact Fix.finite_of_ofJson? hfix

/-- Lists of reasons are restored. -/
theorem EventType.restores_list (types : List EventType) :
    Restores (Json.listOf (Json.named? names false)) (fun ts => .arr (ts.map fun t => .str t.name))
      types :=
  Json.restores_list fun t _ => t.restores false

namespace Event

/-- **The numbers of an event are finite**: those of its telemetry, if it has
any. -/
def Finite (e : Event) : Prop := ∀ t ∈ e.telemetry, t.fix.Finite

/-- **Events are restored** if their numbers are finite. -/
theorem restores {e : Event} (h : e.Finite) : Restores ofJson? toJson e := by
  refine ⟨?_, fun h => nomatch h⟩
  set r := e.toJson.asRecord with hr
  have hrecord : Json.Record.ofJson? fields e.toJson = some r := by
    refine Json.Record.ofJson?_eq_asRecord ?_ (by decide)
    rw [List.map_append]
    exact .append (.refl ["device_id", "provider_id", "timestamp", "event_types", "vehicle_state"])
      (Json.keys_member?_sublist _ _ _)
  have hdeviceId : r.required "device_id" Identifier.ofJson? = some e.deviceId :=
    Json.Record.required_of_restores e.deviceId.restores rfl
  have hproviderId : r.required "provider_id" Identifier.ofJson? = some e.providerId :=
    Json.Record.required_of_restores e.providerId.restores rfl
  have htimestamp : r.required "timestamp" Instant.ofJson? = some e.timestamp :=
    Json.Record.required_of_restores e.timestamp.restores rfl
  have htypes : r.required "event_types" (Json.listOf (Json.named? EventType.names false))
      = some e.eventTypes :=
    Json.Record.required_of_restores (EventType.restores_list e.eventTypes) rfl
  have hstate : r.required "vehicle_state" (Json.named? VehicleState.names false) = some e.state :=
    Json.Record.required_of_restores (e.state.restores false) rfl
  have htelemetry : r.optional "telemetry" Telemetry.ofJson? = some e.telemetry :=
    Json.Record.optional_of_restores (fun t ht => Telemetry.restores (h t ht))
      (by simp [hr, toJson, Json.asRecord, Json.Record.get?, List.lookup_cons])
  simp only [ofJson?, hrecord, Option.bind_eq_bind, Option.bind_some, hdeviceId, hproviderId,
    htimestamp, htypes, hstate, htelemetry]
  rfl

/-- An event that is read has finite numbers. -/
theorem finite_of_ofJson? {j : Json} {e : Event} (h : ofJson? j = some e) : e.Finite := by
  simp only [ofJson?, Option.bind_eq_bind, Option.bind_eq_some_iff] at h
  obtain ⟨r, -, _, -, _, -, _, -, _, -, _, -, telemetry, htelemetry, he⟩ := h
  obtain rfl := Option.some.inj he
  rintro t rfl
  obtain ⟨j, -, -, ht⟩ := Json.Record.of_optional htelemetry
  exact Telemetry.finite_of_ofJson? ht

/-- **An event is read back** if its numbers are finite, and only then. -/
theorem ofJson?_toJson_iff {e : Event} : ofJson? e.toJson = some e ↔ e.Finite :=
  ⟨finite_of_ofJson?, fun h => (restores h).read_write⟩

/-- So is a list of events, if all its numbers are finite. -/
theorem listOf_toJson_iff {es : List Event} :
    Json.listOf ofJson? (.arr (es.map toJson)) = some es ↔ ∀ e ∈ es, e.Finite :=
  Json.listOf_map_eq_some_iff.trans (forall₂_congr fun _ _ => ofJson?_toJson_iff)

end Event

/-! ## Snapshots -/

namespace MatchedVehicle

/-- **The numbers of a matched vehicle are finite.** -/
structure Finite (v : MatchedVehicle) : Prop where
  position : v.position.Finite
  speed : ∀ x ∈ v.speed, x.isFinite = true

/-- **Matched vehicles are restored** if their numbers are finite. -/
theorem restores {v : MatchedVehicle} (h : v.Finite) : Restores ofJson? toJson v := by
  refine ⟨?_, fun h => nomatch h⟩
  set r := v.toJson.asRecord with hr
  have hrecord : Json.Record.ofJson? fields v.toJson = some r := by
    refine Json.Record.ofJson?_eq_asRecord ?_ (by decide)
    simp only [List.map_append]
    have hfirst := List.Sublist.refl ["device_id", "state", "event_types", "timestamp", "gps"]
    exact .append (.append (.append hfirst (Json.keys_member?_sublist _ _ _))
      (Json.keys_member?_sublist _ _ _)) (.refl _)
  have hget (name : String) : r.get? name = r.fields.lookup name := rfl
  simp only [hr, toJson, Json.asRecord, List.lookup_append, Json.lookup_member?,
    List.lookup_cons] at hget
  have hdeviceId : r.required "device_id" Identifier.ofJson? = some v.deviceId :=
    Json.Record.required_of_restores v.deviceId.restores rfl
  have hstate : r.required "state" (Json.named? VehicleState.names false) = some v.state :=
    Json.Record.required_of_restores (v.state.restores false) rfl
  have htypes : r.required "event_types" (Json.listOf (Json.named? EventType.names false))
      = some v.eventTypes :=
    Json.Record.required_of_restores (EventType.restores_list v.eventTypes) rfl
  have htimestamp : r.required "timestamp" Instant.ofJson? = some v.timestamp :=
    Json.Record.required_of_restores v.timestamp.restores rfl
  have hposition : r.required "gps" Position.ofJson? = some v.position :=
    Json.Record.required_of_restores (Position.restores h.position) rfl
  have hspeed : r.optional "speed" Json.float? = some v.speed :=
    Json.Record.optional_of_restores (fun x hx => Json.restores_float (h.speed x hx))
      ((hget "speed").trans (by simp))
  have happlied : r.optional "rule_applied" Identifier.ofJson? = some v.ruleApplied :=
    Json.Record.optional_of_restores (fun i _ => i.restores)
      ((hget "rule_applied").trans (by simp))
  have hmatched : r.required "rules_matched" (Json.listOf Identifier.ofJson?)
      = some v.rulesMatched :=
    Json.Record.required_of_restores (Json.restores_list fun i _ => i.restores)
      ((hget "rules_matched").trans (by simp))
  simp only [ofJson?, hrecord, Option.bind_eq_bind, Option.bind_some, hdeviceId, hstate, htypes,
    htimestamp, hposition, hspeed, happlied, hmatched]
  rfl

/-- A matched vehicle that is read has finite numbers. -/
theorem finite_of_ofJson? {j : Json} {v : MatchedVehicle} (h : ofJson? j = some v) :
    v.Finite := by
  simp only [ofJson?, Option.bind_eq_bind, Option.bind_eq_some_iff] at h
  obtain ⟨r, -, _, -, _, -, _, -, _, -, position, hposition, speed, hspeed, _, -, _, -, hv⟩ := h
  obtain rfl := Option.some.inj hv
  obtain ⟨j, -, hposition⟩ := Json.Record.of_required hposition
  exact ⟨Position.finite_of_ofJson? hposition, Json.Record.isFinite_of_optional hspeed⟩

end MatchedVehicle

/-- References to policies are restored. -/
theorem PolicyReference.restores (p : PolicyReference) : Restores ofJson? toJson p := by
  refine ⟨?_, fun h => nomatch h⟩
  set r := p.toJson.asRecord
  have hrecord : Json.Record.ofJson? ["policy_id", "name"] p.toJson = some r := rfl
  have hpolicyId : r.required "policy_id" Identifier.ofJson? = some p.policyId :=
    Json.Record.required_of_restores p.policyId.restores rfl
  have hname : r.required "name" Json.text? = some p.name :=
    Json.Record.required_of_restores (Json.restores_text p.name) rfl
  simp only [ofJson?, hrecord, Option.bind_eq_bind, Option.bind_some, hpolicyId, hname]
  rfl

namespace Snapshot

/-- **The numbers of a snapshot are finite**: those of all vehicles found. -/
def Finite (s : Snapshot) : Prop := ∀ v ∈ s.finding.verdict.vehiclesFound, v.Finite

/-- **Snapshots are restored** if their numbers are finite. -/
theorem restores {s : Snapshot} (h : s.Finite) : Restores ofJson? toJson s := by
  refine ⟨?_, fun h => nomatch h⟩
  set r := s.toJson.asRecord
  have hrecord : Json.Record.ofJson? fields s.toJson = some r := rfl
  have hid : r.required "compliance_snapshot_id" Identifier.ofJson? = some s.snapshotId :=
    Json.Record.required_of_restores s.snapshotId.restores rfl
  have hasOf : r.required "compliance_as_of" Instant.ofJson? = some s.asOf :=
    Json.Record.required_of_restores s.asOf.restores rfl
  have hpolicy : r.required "policy" PolicyReference.ofJson? = some s.finding.policy :=
    Json.Record.required_of_restores s.finding.policy.restores rfl
  have hproviderId : r.required "provider_id" Identifier.ofJson? = some s.finding.providerId :=
    Json.Record.required_of_restores s.finding.providerId.restores rfl
  have hexcess : r.required "excess_vehicles_count" Json.word? = some s.finding.verdict.excess :=
    Json.Record.required_of_restores (Json.restores_word _) rfl
  have hviolations : r.required "total_violations" Json.word?
      = some s.finding.verdict.violations :=
    Json.Record.required_of_restores (Json.restores_word _) rfl
  have hfound : r.required "vehicles_found" (Json.listOf MatchedVehicle.ofJson?)
      = some s.finding.verdict.vehiclesFound :=
    Json.Record.required_of_restores
      (Json.restores_list fun v hv => MatchedVehicle.restores (h v hv)) rfl
  simp only [ofJson?, hrecord, Option.bind_eq_bind, Option.bind_some, hid, hasOf, hpolicy,
    hproviderId, hexcess, hviolations, hfound]
  rfl

/-- A snapshot that is read has finite numbers. -/
theorem finite_of_ofJson? {j : Json} {s : Snapshot} (h : ofJson? j = some s) : s.Finite := by
  simp only [ofJson?, Option.bind_eq_bind, Option.bind_eq_some_iff] at h
  obtain ⟨r, -, _, -, _, -, _, -, _, -, _, -, _, -, found, hfound, hs⟩ := h
  obtain rfl := Option.some.inj hs
  obtain ⟨j, -, hfound⟩ := Json.Record.of_required hfound
  exact Json.forall_of_listOf (fun _ _ => MatchedVehicle.finite_of_ofJson?) hfound

/-- **A snapshot is read back** if its numbers are finite, and only then. -/
theorem ofJson?_toJson_iff {s : Snapshot} : ofJson? s.toJson = some s ↔ s.Finite :=
  ⟨finite_of_ofJson?, fun h => (restores h).read_write⟩

end Snapshot

/-! ## Documents -/

/-- **Documents survive being read and written.** A shape is read back as the
sort that it was, with the same polygons in the same order; so is a geography,
at the place where it stood and in memory, and so is every list of them. Lists
of events and snapshots are read back exactly if their numbers are finite, and
these are the ones that documents hold. -/
theorem documents_readBack :
    (∀ j s, Shape.ofJson? j = some s → Shape.ofJson? s.toJson = some s)
      ∧ (∀ outer j g, Geography.ofJson? outer j = some g →
          Geography.ofJson? outer g.toJson = some g ∧ Geography.ofJson? none g.toJson = some g)
      ∧ (∀ outer j gs, Json.listOf (Geography.ofJson? outer) j = some gs →
          Json.listOf (Geography.ofJson? outer) (.arr (gs.map Geography.toJson)) = some gs)
      ∧ (∀ es, Json.listOf Event.ofJson? (.arr (es.map Event.toJson)) = some es
          ↔ ∀ e ∈ es, e.Finite)
      ∧ (∀ j es, Json.listOf Event.ofJson? j = some es →
          Json.listOf Event.ofJson? (.arr (es.map Event.toJson)) = some es)
      ∧ (∀ s, Snapshot.ofJson? s.toJson = some s ↔ s.Finite)
      ∧ ∀ j s, Snapshot.ofJson? j = some s → Snapshot.ofJson? s.toJson = some s := by
  refine ⟨fun _ _ => Shape.reproduces.read_write, fun outer j g h => ?_, fun outer j gs h => ?_,
    fun _ => Event.listOf_toJson_iff, fun _ _ h => ?_, fun _ => Snapshot.ofJson?_toJson_iff,
    fun _ _ h => ?_⟩
  · exact ⟨Geography.ofJson?_toJson_of_ofJson? (.inl rfl) h,
      Geography.ofJson?_toJson_of_ofJson? (.inr rfl) h⟩
  · refine Json.listOf_map_eq_some_iff.mpr ?_
    exact Json.forall_of_listOf (fun _ _ => Geography.ofJson?_toJson_of_ofJson? (.inl rfl)) h
  · exact Event.listOf_toJson_iff.mpr (Json.forall_of_listOf (fun _ _ => Event.finite_of_ofJson?) h)
  · exact Snapshot.ofJson?_toJson_iff.mpr (Snapshot.finite_of_ofJson? h)

namespace Sample

/-- A polygon with a height at one vertex. -/
def triangle : Polygon := [[[0.5, 0.25], [1.5, 0.25, 12.5], [0.5, 2.0]]]

/-- A collection as it was drawn up. Its first feature lists its fields and
gives its sort by number, the second has nothing at all, and the third repeats a
key in its properties and carries a type that nobody looks at. -/
def collectionShape : Json :=
  .obj [("features", .arr [
      .arr [.arr [.num (.int 0), triangle.toJson]],
      .obj [],
      .obj [("type", .str "Point"), ("geometry", .null),
        ("properties", .obj [("a", .num (.int 1)), ("b", .arr [.null]), ("a", .bool true)])]]),
    ("type", .obj [("FeatureCollection", .null)])]

/-- The collection in a document. -/
def collectionDocument : Json :=
  .obj [("geography_id", .str "00000000000000000000000000000009"), ("name", .null),
    ("geography_json", collectionShape)]

/-- The geography of the collection. -/
def collection : Geography where
  geographyId := id 9
  name := none
  publishDate := none
  shape := .collection [⟨some (.polygon triangle), none⟩, ⟨none, none⟩,
    ⟨none, some (.obj [("b", .arr [.null]), ("a", .bool true)])⟩]

/-- A report in a document, with the fields of its telemetry in one array. -/
def reportDocument : Json :=
  .arr [.obj [("device_id", .str "00000000000000000000000000000001"),
    ("provider_id", .str "00000000000000000000000000000002"), ("timestamp", .num (.int 5)),
    ("event_types", .arr [.str "trip_start", .obj [("located", .null)]]),
    ("vehicle_state", .str "on_trip"),
    ("telemetry", .arr [.arr [.num (.real 0.5), .num (.real 1.5), .num (.real 4.5)],
      .num (.int (-1))])]]

/-- What was reported. -/
def report : Event where
  deviceId := id 1
  providerId := id 2
  timestamp := instant 5
  eventTypes := [.tripStart, .located]
  state := .onTrip
  telemetry := some ⟨⟨⟨0.5, 1.5⟩, some 4.5⟩, ⟨-1, by decide, by decide⟩⟩

/-- A snapshot of the reported vehicle, matched by two rules and in excess. -/
def reported : Snapshot where
  snapshotId := id 1
  asOf := instant 6
  finding := ⟨⟨id 3, "limit"⟩, id 2,
    [⟨id 1, .onTrip, [], instant 5, ⟨0.5, 1.5⟩, some 4.5, none, [id 4, id 5]⟩], 1,
    18446744073709551615⟩

/-- Its numbers are finite. -/
theorem reported_finite : reported.Finite := by
  intro v hv
  obtain rfl := List.mem_singleton.mp hv
  exact ⟨⟨by decide, by decide⟩, fun x hx => Option.some.inj hx ▸ by decide⟩

end Sample

/-- A collection that was written in another form than it is read back from, a
report and a snapshot. -/
theorem documents_readBack_reported :
    Geography.ofJson? (some 2) Sample.collectionDocument = some Sample.collection
      ∧ Shape.ofJson? Sample.collection.shape.toJson = some Sample.collection.shape
      ∧ Geography.ofJson? (some 2) Sample.collection.toJson = some Sample.collection
      ∧ Geography.ofJson? none Sample.collection.toJson = some Sample.collection
      ∧ Json.listOf Event.ofJson? (.arr [Sample.report.toJson]) = some [Sample.report]
      ∧ Snapshot.ofJson? Sample.reported.toJson = some Sample.reported := by
  obtain ⟨hshape, hgeography, -, -, hevents, hsnapshot, -⟩ := documents_readBack
  have hcollection :
      Geography.ofJson? (some 2) Sample.collectionDocument = some Sample.collection := rfl
  have hreport : Json.listOf Event.ofJson? Sample.reportDocument = some [Sample.report] := rfl
  obtain ⟨hplace, hmemory⟩ := hgeography _ _ _ hcollection
  exact ⟨hcollection, hshape Sample.collectionShape _ rfl, hplace, hmemory,
    hevents _ _ hreport, (hsnapshot _).mpr Sample.reported_finite⟩

end FleetCompliance

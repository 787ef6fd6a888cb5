import FleetCompliance.Proofs.Records
import FleetCompliance.Proofs.ReplayAgreement

/-!
# Policies are read back from their documents

Writing a policy and reading it are not opposites by construction. A rule is
written as one object in which its kind, its scope and its limits stand side
by side, and is read by a reader that knows the fields of its kind only; a
field that is absent is left out in some places and null in others; a filter
of states is a function, and is written as the list of the states it accepts;
and before anything is read at all the kinds of all rules are looked at, by a
lookup of its own.

None of this loses anything: a policy whose numbers are finite is read back as
it was (`Policy.decode_toJson_iff`), and every policy that a document holds is one
of these, for a reader gives out no other numbers.
-/

namespace FleetCompliance

open Json (Restores)

/-! ## Scopes -/

/-- Days of the week are restored. -/
theorem Weekday.restores (orEmpty : Bool) (d : Weekday) :
    Restores (Json.named? names orEmpty) (fun d => .str d.name) d :=
  Json.restores_named (by cases d <;> rfl) orEmpty

namespace StateFilter

variable (f : StateFilter)

/-- The states that a filter accepts, of those in a list, with their reasons. -/
def entries (states : List VehicleState) : List (VehicleState × List EventType) :=
  states.filterMap fun s => (f s).map fun types => (s, types)

/-- The entry of a state is looked up as the filter does. -/
theorem find?_entries (states : List VehicleState) (s : VehicleState) :
    (f.entries states).find? (·.1 = s) = if s ∈ states then (f s).map (s, ·) else none := by
  rw [entries]
  induction states with
  | nil => rfl
  | cons t states ih =>
    by_cases heq : t = s
    · subst heq
      cases hf : f t with
      | none => simp [hf, ih]
      | some types => simp [hf]
    · have hmem : s ∈ t :: states ↔ s ∈ states :=
        List.mem_cons.trans (or_iff_right (Ne.symm heq))
      cases hf : f t with
      | none => simp only [List.filterMap_cons, hf, Option.map_none, ih, hmem]
      | some types => simp [hf, ih, hmem, heq]

/-- The entries are read from the members that are written of them. -/
theorem mapM_members (orEmpty : Bool) (states : List VehicleState) :
    (states.filterMap fun s => (f s).map fun types =>
        (s.name, Json.arr (types.map fun t => .str t.name))).mapM (m := Option)
      (fun (key, j) => do
        return (← VehicleState.names.lookup key,
          ← Json.listOf (Json.named? EventType.names orEmpty) j))
      = some (f.entries states) := by
  rw [entries]
  induction states with
  | nil => rfl
  | cons s states ih =>
    cases hf : f s with
    | none => simpa [hf] using ih
    | some types =>
      have hstate : VehicleState.names.lookup s.name = some s := by cases s <;> rfl
      have htypes := (Json.restores_list fun t (_ : t ∈ types) =>
        EventType.restores orEmpty t).read_write
      simp only [List.filterMap_cons, hf, Option.map_some, List.mapM_cons, hstate, htypes, ih]
      rfl

/-- **Filters of states are restored**, though of a function only the accepted
states are written. -/
theorem restores (orEmpty : Bool) : Restores (ofJson? orEmpty) toJson f := by
  refine ⟨?_, fun h => nomatch h⟩
  unfold toJson ofJson?
  dsimp only
  rw [f.mapM_members orEmpty VehicleState.all]
  show some _ = some _
  congr 1
  funext s
  have hmem : s ∈ VehicleState.all.reverse := by cases s <;> decide
  have hreverse : (f.entries VehicleState.all).reverse = f.entries VehicleState.all.reverse :=
    List.filterMap_reverse.symm
  rw [hreverse, f.find?_entries, if_pos hmem]
  cases f s <;> rfl

end StateFilter

namespace Scope

variable {s : Scope}

/-- **A scope is read from a record that holds its members**, whatever else
the record holds. -/
theorem ofRecord?_eq_some {orEmpty : Bool} {r : Json.Record}
    (h : ∀ name ∈ fields, r.get? name = s.members.lookup name) :
    ofRecord? orEmpty r = some s := by
  have hfields : r.get? "rule_id" = some s.ruleId.toJson ∧ r.get? "name" = some (.str s.name)
      ∧ r.get? "geographies" = some (.arr (s.geographies.map Identifier.toJson))
      ∧ r.get? "states" = s.states.map StateFilter.toJson
      ∧ r.get? "vehicle_types" = s.vehicleTypes.map (fun ts => .arr (ts.map fun t => .str t.name))
      ∧ r.get? "days" = s.days.map (fun ds => .arr (ds.map fun d => .str d.name))
      ∧ r.get? "start_time" = s.startTime.map TimeOfDay.toJson
      ∧ r.get? "end_time" = s.endTime.map TimeOfDay.toJson := by
    simpa [fields, members, List.lookup_append, List.lookup_cons] using h
  obtain ⟨hruleId, hname, hgeographies, hstates, htypes, hdays, hstart, hend⟩ := hfields
  have hruleId := Json.Record.required_of_restores s.ruleId.restores hruleId
  have hname := Json.Record.required_of_restores (Json.restores_text s.name) hname
  have hgeographies := Json.Record.required_of_restores
    (Json.restores_list fun i _ => Identifier.restores i) hgeographies
  have hstates := Json.Record.optional_of_restores
    (fun f _ => StateFilter.restores f orEmpty) hstates
  have htypes := Json.Record.optional_of_restores
    (fun ts _ => Json.restores_list fun t (_ : t ∈ ts) => VehicleType.restores orEmpty t) htypes
  have hdays := Json.Record.optional_of_restores
    (fun ds _ => Json.restores_list fun d (_ : d ∈ ds) => Weekday.restores orEmpty d) hdays
  have hstart := Json.Record.optional_of_restores (fun t _ => TimeOfDay.restores t) hstart
  have hend := Json.Record.optional_of_restores (fun t _ => TimeOfDay.restores t) hend
  simp only [ofRecord?, hruleId, hname, hgeographies, hstates, htypes, hdays, hstart, hend]
  rfl

/-- A scope that is written has its own fields, in their order. -/
theorem keys_members_sublist (s : Scope) : (s.members.map (·.1)).Sublist fields := by
  simp only [members, List.map_append]
  exact .append (.append (.append (.append (.append (.refl _) (Json.keys_member?_sublist _ _ _))
    (Json.keys_member?_sublist _ _ _)) (Json.keys_member?_sublist _ _ _))
    (Json.keys_member?_sublist _ _ _)) (Json.keys_member?_sublist _ _ _)

end Scope

/-! ## Rules -/

/-- Units of speed are restored. -/
theorem SpeedUnit.restores (u : SpeedUnit) :
    Restores (Json.named? names true) (fun u => .str u.name) u :=
  Json.restores_named (by cases u <;> rfl) true

/-- Units of time are restored. -/
theorem TimeUnit.restores (u : TimeUnit) :
    Restores (Json.named? names true) (fun u => .str u.name) u :=
  Json.restores_named (by cases u <;> rfl) true

/-- Kinds of rules are found by their names. -/
theorem RuleKind.ofName?_name (kind : RuleKind) : ofName? kind.name = some kind := by
  cases kind <;> rfl

namespace Rule

/-- The keys of a rule's limit. -/
def limitFields (kind : RuleKind) : List String :=
  ["maximum", if kind = .count then "minimum" else "rule_units"]

/-- The keys of a rule that is written, in their order. -/
def keys (kind : RuleKind) : List String := "rule_type" :: (Scope.fields ++ limitFields kind)

/-- The keys of a rule are distinct, and the fields of a rule of its kind. -/
theorem keys_nodup (kind : RuleKind) :
    (keys kind).Nodup ∧ ∀ key ∈ keys kind, key ∈ fields kind := by
  cases kind <;> decide

/-- A rule that is written has these keys. -/
theorem keys_toJson_sublist (r : Rule) :
    (r.toJson.asRecord.fields.map (·.1)).Sublist (keys r.kind) := by
  have hlimits : (r.limits.map (·.1)).Sublist (limitFields r.kind) := by
    cases r <;>
    · simp only [limits, List.map_append]
      exact .append (Json.keys_member?_sublist _ _ _) (Json.keys_member?_sublist _ _ _)
  simp only [toJson, Json.asRecord, List.cons_append, List.map_cons, List.map_append]
  exact .cons_cons _ (.append r.scope.keys_members_sublist hlimits)

/-- A rule that is written is kept as it is. -/
theorem ofObject?_toJson (r : Rule) :
    Json.Record.ofObject? (fields r.kind) r.toJson = some r.toJson.asRecord :=
  Json.Record.ofMembers?_eq_some r.keys_toJson_sublist (keys_nodup r.kind).1 (keys_nodup r.kind).2

/-- A name is looked up in the scope, the limits or the kind. -/
theorem get?_asRecord (r : Rule) (name : String) :
    r.toJson.asRecord.get? name = if name == "rule_type" then some (.str r.kind.name)
      else (r.scope.members.lookup name).or (r.limits.lookup name) := by
  show r.toJson.asRecord.fields.lookup name = _
  by_cases h : name == "rule_type" <;>
    simp [toJson, Json.asRecord, List.lookup_cons, List.lookup_append, h]

/-- The scope of a rule is read from the rule. -/
theorem ofRecord?_asRecord (r : Rule) : Scope.ofRecord? true r.toJson.asRecord = some r.scope := by
  refine Scope.ofRecord?_eq_some ?_
  simp only [get?_asRecord]
  cases r <;> simp [Scope.fields, limits, List.lookup_append]

/-- A limit of a rule is looked up among its limits. -/
theorem get?_asRecord_of_limit (r : Rule) {name : String} (h : name ∈ limitFields r.kind) :
    r.toJson.asRecord.get? name = r.limits.lookup name := by
  have hscope : r.scope.members.lookup name = none ∧ (name == "rule_type") = false := by
    cases r <;>
    · simp only [limitFields, kind, reduceIte, reduceCtorEq, List.mem_cons, List.not_mem_nil,
        or_false] at h
      obtain rfl | rfl := h <;> simp [Scope.members, List.lookup_append, List.lookup_cons]
  rw [get?_asRecord, hscope.1, hscope.2]
  rfl

/-- The kind of a rule, as it is written. -/
theorem get?_ruleType (r : Rule) : r.toJson.get? "rule_type" = some (.str r.kind.name) :=
  (Json.get?_obj ((keys_nodup r.kind).1.sublist r.keys_toJson_sublist) _).trans (r.get?_asRecord _)

/-- A rule's kind is read from its document. -/
theorem kind?_toJson (r : Rule) : kind? r.toJson = some r.kind := by
  rw [kind?, r.get?_ruleType]
  exact RuleKind.ofName?_name r.kind

/-- **The numbers of a rule are finite**: its limit is, unless it counts. -/
def Finite : Rule → Prop
  | count _ => True
  | speed r => ∀ x ∈ r.maximum, x.isFinite = true
  | time r => ∀ x ∈ r.maximum, x.isFinite = true

/-- A limit that may be absent is restored, present or absent. -/
theorem optional_of_limit {α : Type} {read : Json → Option α} {write : α → Json} {o : Option α}
    (r : Rule) (name : String) (hname : name ∈ limitFields r.kind)
    (hlookup : r.limits.lookup name = o.map write) (h : ∀ x ∈ o, Restores read write x) :
    r.toJson.asRecord.optional name read = some o :=
  Json.Record.optional_of_restores h ((r.get?_asRecord_of_limit hname).trans hlookup)

/-- **Rules are restored** if their numbers are finite. -/
theorem restores {r : Rule} (h : r.Finite) : Restores ofJson? toJson r := by
  refine ⟨?_, fun h => nomatch h⟩
  simp only [ofJson?, r.kind?_toJson, r.ofObject?_toJson, r.ofRecord?_asRecord,
    Option.bind_eq_bind, Option.bind_some]
  cases r with
  | count r =>
    have hmaximum := (count r).optional_of_limit "maximum" (by simp [limitFields, kind])
      (by simp [limits, List.lookup_append]) fun w (_ : w ∈ r.maximum) => Json.restores_word w
    have hminimum := (count r).optional_of_limit "minimum" (by simp [limitFields, kind])
      (by simp [limits, List.lookup_append]) fun w (_ : w ∈ r.minimum) => Json.restores_word w
    simp only [kind, hmaximum, hminimum]
    rfl
  | speed r =>
    have hmaximum := (speed r).optional_of_limit "maximum" (by simp [limitFields, kind])
      (by simp [limits, List.lookup_append]) fun x (hx : x ∈ r.maximum) =>
        Json.restores_float (h x hx)
    have hunit := (speed r).optional_of_limit "rule_units" (by simp [limitFields, kind])
      (by simp [limits, List.lookup_append]) fun u (_ : u ∈ r.unit) => u.restores
    simp only [kind, hmaximum, hunit]
    rfl
  | time r =>
    have hmaximum := (time r).optional_of_limit "maximum" (by simp [limitFields, kind])
      (by simp [limits, List.lookup_append]) fun x (hx : x ∈ r.maximum) =>
        Json.restores_float (h x hx)
    have hunit := (time r).optional_of_limit "rule_units" (by simp [limitFields, kind])
      (by simp [limits, List.lookup_append]) fun u (_ : u ∈ r.unit) => u.restores
    simp only [kind, hmaximum, hunit]
    rfl

/-- **A rule that is read has finite numbers**, for its limit has been read. -/
theorem finite_of_ofJson? {j : Json} {r : Rule} (h : ofJson? j = some r) : r.Finite := by
  simp only [ofJson?, Option.bind_eq_bind, Option.bind_eq_some_iff] at h
  obtain ⟨kind, -, record, -, scope, -, h⟩ := h
  cases kind with
  | count =>
    obtain ⟨_, _, _, _, h⟩ := by simpa only [Option.bind_eq_some_iff] using h
    obtain rfl := Option.some.inj h
    trivial
  | speed =>
    obtain ⟨_, hmaximum, _, _, h⟩ := by simpa only [Option.bind_eq_some_iff] using h
    obtain rfl := Option.some.inj h
    exact Json.Record.isFinite_of_optional hmaximum
  | time =>
    obtain ⟨_, hmaximum, _, _, h⟩ := by simpa only [Option.bind_eq_some_iff] using h
    obtain rfl := Option.some.inj h
    exact Json.Record.isFinite_of_optional hmaximum

end Rule

/-! ## Policies -/

namespace Policy

/-- A policy that is written has its own fields, in their order. -/
theorem keys_toJson_sublist (p : Policy) :
    (p.toJson.asRecord.fields.map (·.1)).Sublist fields := by
  simp only [toJson, Json.asRecord, List.map_append]
  exact .append (.append (.refl _) (Json.keys_member?_sublist _ _ _)) (.refl _)

/-- The fields of a policy are distinct. -/
theorem fields_nodup : fields.Nodup := by decide

/-- A policy that is written is kept as it is. -/
theorem record_toJson (p : Policy) :
    Json.Record.ofJson? fields p.toJson = some p.toJson.asRecord :=
  Json.Record.ofJson?_eq_asRecord p.keys_toJson_sublist fields_nodup

/-- **The numbers of a policy are finite**: those of all its rules are. -/
def Finite (p : Policy) : Prop := ∀ r ∈ p.rules, r.Finite

/-- **Policies are restored** if their numbers are finite. -/
theorem restores {p : Policy} (h : p.Finite) : Restores ofJson? toJson p := by
  refine ⟨?_, fun h => nomatch h⟩
  have hids {e : Entity} (ids : List (Identifier e)) :
      Restores (Json.listOf Identifier.ofJson?) (fun ids => .arr (ids.map Identifier.toJson)) ids :=
    Json.restores_list fun i _ => i.restores
  set r := p.toJson.asRecord with hr
  have hget (name : String) : r.get? name = r.fields.lookup name := rfl
  simp only [hr, toJson, Json.asRecord, List.lookup_append, Json.lookup_member?,
    List.lookup_cons] at hget
  have hpolicyId : r.required "policy_id" Identifier.ofJson? = some p.policyId :=
    Json.Record.required_of_restores p.policyId.restores (hget "policy_id")
  have hname : r.required "name" Json.text? = some p.name :=
    Json.Record.required_of_restores (Json.restores_text p.name) (hget "name")
  have hdescription : r.optional "description" Json.text? = some p.description :=
    Json.Record.optional_of_restores (fun s _ => Json.restores_text s)
      ((hget "description").trans (by simp))
  have hstart : r.required "start_date" Instant.ofJson? = some p.startDate :=
    Json.Record.required_of_restores p.startDate.restores ((hget "start_date").trans (by simp))
  have hend : r.optional "end_date" Instant.ofJson? = some p.endDate :=
    Json.Record.optional_orNull_of_restores (fun t _ => t.restores)
      ((hget "end_date").trans (by simp))
  have hpublish : r.optional "publish_date" Instant.ofJson? = some p.publishDate :=
    Json.Record.optional_orNull_of_restores (fun t _ => t.restores)
      ((hget "publish_date").trans (by simp))
  have hprev : r.optional "prev_policies" (Json.listOf Identifier.ofJson?)
      = some p.prevPolicies :=
    Json.Record.optional_orNull_of_restores (fun ids _ => hids ids)
      ((hget "prev_policies").trans (by simp))
  have hproviders : r.optional "provider_ids" (Json.listOf Identifier.ofJson?)
      = some p.providerIds :=
    Json.Record.optional_orNull_of_restores (fun ids _ => hids ids)
      ((hget "provider_ids").trans (by simp))
  have hrules : r.required "rules" (Json.listOf Rule.ofJson?) = some p.rules :=
    Json.Record.required_of_restores (Json.restores_list fun r hr => Rule.restores (h r hr))
      ((hget "rules").trans (by simp))
  simp only [ofJson?, p.record_toJson, ← hr, Option.bind_eq_bind, Option.bind_some, hpolicyId,
    hname, hdescription, hstart, hend, hpublish, hprev, hproviders, hrules]
  rfl

/-- **No rule that is written is of an unknown kind**, by the lookup that goes
before the reading. -/
theorem unknownKind?_toJson (p : Policy) : unknownKind? p.toJson = none := by
  have hrules : p.toJson.get? "rules" = some (.arr (p.rules.map Rule.toJson)) := by
    refine (Json.get?_obj (fields_nodup.sublist p.keys_toJson_sublist) "rules").trans ?_
    simp [toJson, Json.asRecord, List.lookup_append, List.lookup_cons]
  have hstated (r : Rule) : statedKind r.toJson = r.kind.name := by
    rw [statedKind, r.get?_ruleType]
    rfl
  rw [unknownKind?, hrules]
  refine List.find?_eq_none.mpr fun name hname => ?_
  obtain ⟨r, -, rfl⟩ : ∃ r ∈ p.rules, statedKind r.toJson = name := by
    simpa [Json.items?] using hname
  rw [hstated, RuleKind.ofName?_name]
  simp

/-- A document is accepted if no kind is unknown and the rest can be read. -/
theorem decode_eq_ok_iff {j : Json} {p : Policy} :
    decode j = .ok p ↔ unknownKind? j = none ∧ ofJson? j = some p := by
  rw [decode]
  cases unknownKind? j <;> cases ofJson? j <;> simp

/-- **A policy that is read has finite numbers.** -/
theorem finite_of_decode {j : Json} {p : Policy} (h : decode j = .ok p) : p.Finite := by
  have hread := (decode_eq_ok_iff.mp h).2
  simp only [ofJson?, Option.bind_eq_bind, Option.bind_eq_some_iff] at hread
  obtain ⟨record, -, _, -, _, -, _, -, _, -, _, -, _, -, _, -, _, -, rules, hrules, hp⟩ := hread
  obtain rfl := Option.some.inj hp
  obtain ⟨j, -, hrules⟩ := Json.Record.of_required hrules
  exact Json.forall_of_listOf (fun _ _ => Rule.finite_of_ofJson?) hrules

/-- **A policy is accepted as it is written** if its numbers are finite, and
only then. -/
theorem decode_toJson_iff {p : Policy} : decode p.toJson = .ok p ↔ p.Finite := by
  refine ⟨finite_of_decode, fun h => decode_eq_ok_iff.mpr ⟨p.unknownKind?_toJson, ?_⟩⟩
  exact (restores h).read_write

/-- Lists of policies are accepted policy by policy. -/
theorem decodeList_eq_ok_iff {j : Json} {ps : List Policy} :
    decodeList j = .ok ps
      ↔ ∃ items, j = .arr items ∧ List.Forall₂ (fun j p => decode j = .ok p) items ps := by
  rw [← exists_congr fun items => and_congr_right fun _ => mapM_eq_ok_iff]
  cases j <;> simp [decodeList, Json.items?]

/-- A list of policies with finite numbers is accepted as it is written. -/
theorem decodeList_map_toJson {ps : List Policy} (h : ∀ p ∈ ps, p.Finite) :
    decodeList (.arr (ps.map toJson)) = .ok ps := by
  refine decodeList_eq_ok_iff.mpr ⟨_, rfl, ?_⟩
  rw [List.forall₂_map_left_iff, List.forall₂_same]
  exact fun p hp => decode_toJson_iff.mpr (h p hp)

/-- All policies of a document have finite numbers. -/
theorem finite_of_decodeText {text : String} {ps : List Policy}
    (h : decodeText text = .ok ps) : ∀ p ∈ ps, p.Finite := by
  intro p hp
  rw [decodeText] at h
  cases hparse : Json.parseWhole? text with
  | none => exact nomatch hparse ▸ h
  | some j =>
    rw [hparse] at h
    obtain ⟨items, -, hitems⟩ := decodeList_eq_ok_iff.mp h
    obtain ⟨j, -, hj⟩ := exists_of_mem_forall₂ hitems hp
    exact finite_of_decode hj

end Policy

/-- **Policies survive their documents.** A policy is read back as it was from
what is written of it exactly if its numbers are finite, whatever kinds of
rules it mixes and whatever it leaves out. What a document holds is always
such a policy, so that writing it and reading it again changes nothing, for one
policy as for a list of them. -/
theorem policies_readBack :
    (∀ p : Policy, Policy.decode p.toJson = .ok p ↔ p.Finite)
      ∧ (∀ (j : Json) (p : Policy), Policy.decode j = .ok p → Policy.decode p.toJson = .ok p)
      ∧ ∀ (text : String) (ps : List Policy), Policy.decodeText text = .ok ps →
        Policy.decodeList (.arr (ps.map Policy.toJson)) = .ok ps := by
  refine ⟨fun p => Policy.decode_toJson_iff, fun j p h => ?_, fun text ps h => ?_⟩
  · exact Policy.decode_toJson_iff.mpr (Policy.finite_of_decode h)
  · exact Policy.decodeList_map_toJson (Policy.finite_of_decodeText h)

namespace Sample

/-- A policy with rules of all kinds: one accepts two states, the other has an
empty filter and a leap second, the third leaves out what it can. -/
def writtenPolicy : Policy where
  policyId := id 5
  name := "mixed"
  description := some "rules of all kinds"
  startDate := .earliest
  endDate := some (instant 7)
  publishDate := none
  prevPolicies := some []
  providerIds := none
  rules := [
    .count ⟨⟨id 6, "count", [id 1], some fun
      | .available => some []
      | .onTrip => some [.tripStart]
      | _ => none, some [], none, none, none⟩, none, some 18446744073709551615⟩,
    .speed ⟨⟨id 7, "speed", [], some fun _ => none, none, some [.sun],
      some ⟨12, 30, 60, by decide, by decide, by decide⟩, none⟩, some 4.5, some .milesPerHour⟩,
    .time ⟨⟨id 8, "", [id 1, id 1], none, none, none, none, none⟩, none, none⟩]

/-- A policy whose fields are listed without their names. -/
def listedDocument : Json :=
  .arr [.str "00000000000000000000000000000005", .str "speed", .null, .num (.int 0), .null, .null,
    .null, .null, .arr [.obj [("note", .null), ("rule_type", .str "speed"),
      ("rule_id", .str "00000000000000000000000000000007"), ("name", .str "speed"),
      ("geographies", .arr []), ("days", .arr [.obj [("sun", .null)]]),
      ("start_time", .str " 12:30:60"), ("end_time", .null), ("maximum", .num (.real 4.5)),
      ("rule_units", .str "mph")]]]

/-- What is read of it. -/
def listedPolicy : Policy where
  policyId := id 5
  name := "speed"
  description := none
  startDate := instant 0
  endDate := none
  publishDate := none
  prevPolicies := none
  providerIds := none
  rules := [.speed ⟨⟨id 7, "speed", [], none, none, some [.sun],
    some ⟨12, 30, 60, by decide, by decide, by decide⟩, none⟩, some 4.5, some .milesPerHour⟩]

end Sample

/-- Rules of three kinds, fields without names and a text. -/
theorem policies_readBack_mixed :
    Policy.decode Sample.writtenPolicy.toJson = .ok Sample.writtenPolicy
      ∧ Policy.decode Sample.listedDocument = .ok Sample.listedPolicy
      ∧ Policy.decode Sample.listedPolicy.toJson = .ok Sample.listedPolicy
      ∧ Policy.decodeList (.arr [Sample.wantingPolicy.toJson, Sample.emptyingPolicy.toJson])
          = .ok [Sample.wantingPolicy, Sample.emptyingPolicy] := by
  have hlisted : Policy.decode Sample.listedDocument = .ok Sample.listedPolicy := rfl
  refine ⟨(policies_readBack.1 _).mpr fun r hr => ?_, hlisted, policies_readBack.2.1 _ _ hlisted,
    policies_readBack.2.2 (String.ofList Sample.policyText) _
      Sample.decodeText_documents.2.2.2⟩
  obtain rfl | rfl | rfl : r = _ ∨ r = _ ∨ r = _ := by simpa [Sample.writtenPolicy] using hr
  · trivial
  · rintro x ⟨⟩
    decide
  · rintro x ⟨⟩

end FleetCompliance

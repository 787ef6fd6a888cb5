import FleetCompliance.Proofs.PolicyDocument

/-!
# Rules of unknown kinds

A policy is read in two passes. The first one looks at nothing but the names of the
kinds, and reports one that is unknown; the second one reads all of the policy, and
whatever is wrong there is reported as a malformed document. So a policy may have
several faults, of which the two passes see different ones, and it is not obvious
that they agree on what a rule of a known kind is.

They do. The second pass alone would accept the same policies (`decode_eq_ok_iff_ofJson?`),
because it reads the kinds from where the first one has looked. So the first pass
refuses nothing that would not be refused anyway: it only gives a name to the fault.
That makes an unknown kind the fault of a document exactly if the first policy that
cannot be read has a rule of one, whatever else is wrong with it
(`decodeText_unknownKind`).
-/

namespace FleetCompliance

/-! ## Texts in documents -/

namespace Json

/-- **The text under a key, or a default** if there is none: if the value is no object,
has no such key, or has something else there. -/
inductive TextOr (j : Json) (key default : String) : String → Prop
  | found {text : String} (h : j.get? key = some (.str text)) : TextOr j key default text
  | missing (h : ∀ text, j.get? key ≠ some (.str text)) : TextOr j key default default

/-- Only a string has a text. -/
theorem text?_eq_some_iff {j : Json} {text : String} : j.text? = some text ↔ j = .str text := by
  cases j <;> simp [text?]

/-- Only an array has items. -/
theorem items?_eq_some_iff {j : Json} {items : List Json} :
    j.items? = some items ↔ j = .arr items := by
  cases j <;> simp [items?]

/-- Only an object has something under a key. -/
theorem exists_obj_of_get? {j value : Json} {key : String} (h : j.get? key = some value) :
    ∃ members, j = .obj members := by
  cases j <;> simp [get?] at h ⊢

/-- A text that is looked up is one that stands there. -/
theorem bind_text?_eq_some_iff {j : Json} {key text : String} :
    (j.get? key).bind text? = some text ↔ j.get? key = some (.str text) := by
  simp [Option.bind_eq_some_iff, text?_eq_some_iff]

/-- Items that are looked up are those of an array that stands there. -/
theorem bind_items?_eq_some_iff {j : Json} {key : String} {items : List Json} :
    (j.get? key).bind items? = some items ↔ j.get? key = some (.arr items) := by
  simp [Option.bind_eq_some_iff, items?_eq_some_iff]

/-- **The text or the default** is what the lookup gives. -/
theorem textOr_iff {j : Json} {key default text : String} :
    j.TextOr key default text ↔ ((j.get? key).bind text?).getD default = text := by
  constructor
  · rintro (h | h)
    · rw [bind_text?_eq_some_iff.mpr h, Option.getD_some]
    · have hnone : (j.get? key).bind text? = none :=
        Option.eq_none_iff_forall_ne_some.mpr fun text htext =>
          h text (bind_text?_eq_some_iff.mp htext)
      rw [hnone, Option.getD_none]
  · rintro rfl
    cases htext : (j.get? key).bind text? with
    | none =>
      refine .missing fun text h => ?_
      rw [bind_text?_eq_some_iff.mpr h] at htext
      contradiction
    | some text => exact .found (bind_text?_eq_some_iff.mp htext)

/-- If there are items under a key, an array stands there. -/
theorem getD_items?_eq_iff {j : Json} {key : String} {items : List Json} (hne : items ≠ []) :
    ((j.get? key).bind items?).getD [] = items ↔ j.get? key = some (.arr items) := by
  rw [← bind_items?_eq_some_iff]
  cases (j.get? key).bind items? with
  | none => simp [Ne.symm hne]
  | some found => simp

/-- **A field that is known is looked up in the object.** -/
theorem Record.get?_of_ofMembers? {names : List String} {members : List (String × Json)}
    {r : Record} (h : ofMembers? names members = some r) {name : String} (hname : name ∈ names) :
    r.get? name = (obj members).get? name := by
  by_cases hdistinct : ((members.filter fun m => names.contains m.1).map (·.1)).Nodup
  · rw [ofMembers?, if_pos hdistinct] at h
    obtain rfl := Option.some.inj h
    refine (get?_obj hdistinct name).symm.trans ?_
    rw [Json.get?, Json.get?, ← List.filter_reverse, List.find?_filter]
    congr 2
    funext m
    by_cases hm : m.1 = name
    · simp [hm, hname]
    · simp [hm]
  · rw [ofMembers?, if_neg hdistinct] at h
    contradiction

end Json

/-! ## Kinds -/

/-- The names of all kinds of rules. -/
def kindNames : List String := ["count", "speed", "time"]

/-- A name is unknown if it is none of these. -/
theorem RuleKind.ofName?_eq_none_iff {name : String} :
    ofName? name = none ↔ name ∉ kindNames := by
  rw [ofName?, List.find?_eq_none]
  simp [all, RuleKind.name, kindNames, @eq_comm _ _ name]

/-- **A rule that is read names a known kind.** -/
theorem Rule.kindNames_of_ofJson? {j : Json} {r : Rule} (h : ofJson? j = some r) :
    ∃ name ∈ kindNames, j.get? "rule_type" = some (.str name) := by
  simp only [ofJson?, kind?, Option.bind_eq_bind, Option.bind_eq_some_iff] at h
  obtain ⟨kind, ⟨value, hget, name, hvalue, hkind⟩, -⟩ := h
  have hname : name ∈ kindNames := by
    by_contra hunknown
    rw [RuleKind.ofName?_eq_none_iff.mpr hunknown] at hkind
    contradiction
  obtain rfl := Json.text?_eq_some_iff.mp hvalue
  exact ⟨name, hname, hget⟩

namespace Policy

variable {item : Json} {name id : String}

/-- **The first unknown kind of a policy**: a rule states it, if only by stating nothing,
and the rules before it state known ones. -/
def FirstUnknown (item : Json) (name : String) : Prop :=
  ∃ before rule after, item.get? "rules" = some (.arr (before ++ rule :: after))
    ∧ (∀ r ∈ before, ∃ known ∈ kindNames, r.TextOr "rule_type" "" known)
    ∧ rule.TextOr "rule_type" "" name ∧ name ∉ kindNames

/-- The first pass reads what a rule states. -/
theorem statedKind_eq_iff {rule : Json} :
    statedKind rule = name ↔ rule.TextOr "rule_type" "" name := Json.textOr_iff.symm

/-- **The first unknown kind is what the first pass finds.** -/
theorem unknownKind?_eq_some_iff : unknownKind? item = some name ↔ FirstUnknown item name := by
  have hunknown (name : String) : (RuleKind.ofName? name).isNone = true ↔ name ∉ kindNames := by
    rw [Option.isNone_iff_eq_none, RuleKind.ofName?_eq_none_iff]
  rw [unknownKind?, List.find?_eq_some_iff_append, hunknown]
  constructor
  · rintro ⟨hname, namesBefore, namesAfter, hsplit, hbefore⟩
    obtain ⟨before, rest, hrules, rfl, hrest⟩ := List.map_eq_append_iff.mp hsplit
    obtain ⟨rule, after, rfl, hrule, -⟩ := List.map_eq_cons_iff.mp hrest
    refine ⟨before, rule, after, (Json.getD_items?_eq_iff (by simp)).mp hrules, fun r hr => ?_,
      statedKind_eq_iff.mp hrule, hname⟩
    have hknown := hbefore (statedKind r) (List.mem_map_of_mem hr)
    rw [Bool.not_eq_true', ← Bool.not_eq_true, hunknown, not_not] at hknown
    exact ⟨statedKind r, hknown, statedKind_eq_iff.mp rfl⟩
  · rintro ⟨before, rule, after, hrules, hbefore, hrule, hname⟩
    rw [(Json.getD_items?_eq_iff (by simp)).mpr hrules]
    refine ⟨hname, before.map statedKind, after.map statedKind, ?_, fun stated hstated => ?_⟩
    · rw [List.map_append, List.map_cons, statedKind_eq_iff.mpr hrule]
    · obtain ⟨r, hr, rfl⟩ := List.mem_map.mp hstated
      obtain ⟨known, hknown, hr⟩ := hbefore r hr
      rw [statedKind_eq_iff.mpr hr, Bool.not_eq_true', ← Bool.not_eq_true, hunknown, not_not]
      exact hknown

/-- If some rule is of an unknown kind, there is a first one. -/
theorem exists_firstUnknown {rules : List Json} {rule : Json}
    (hrules : item.get? "rules" = some (.arr rules)) (hrule : rule ∈ rules)
    (hname : rule.TextOr "rule_type" "" name) (hunknown : name ∉ kindNames) :
    ∃ first, FirstUnknown item first := by
  cases hfirst : unknownKind? item with
  | some first => exact ⟨first, unknownKind?_eq_some_iff.mp hfirst⟩
  | none =>
    rw [unknownKind?, (Json.getD_items?_eq_iff (List.ne_nil_of_mem hrule)).mpr hrules,
      List.find?_eq_none] at hfirst
    have hknown := hfirst (statedKind rule) (List.mem_map_of_mem hrule)
    rw [statedKind_eq_iff.mpr hname, RuleKind.ofName?_eq_none_iff.mpr hunknown] at hknown
    exact absurd rfl hknown

/-- **A policy that is read has no rule of an unknown kind.** -/
theorem ofJson?_eq_none_of_firstUnknown (h : FirstUnknown item name) : ofJson? item = none := by
  obtain ⟨before, rule, after, hrules, -, hrule, hunknown⟩ := h
  by_contra hsome
  obtain ⟨p, hp⟩ := Option.ne_none_iff_exists'.mp hsome
  simp only [ofJson?, Option.bind_eq_bind, Option.bind_eq_some_iff] at hp
  obtain ⟨record, hrecord, _, -, _, -, _, -, _, -, _, -, _, -, _, -, _, -, _, hread, -⟩ := hp
  obtain ⟨members, rfl⟩ := Json.exists_obj_of_get? hrules
  obtain ⟨value, hget, hvalue⟩ := Json.Record.of_required hread
  have hfield := Json.Record.get?_of_ofMembers? hrecord (show "rules" ∈ fields by decide)
  rw [hfield, hrules] at hget
  obtain rfl := Option.some.inj hget
  obtain ⟨items, heq, hitems⟩ := Json.listOf_eq_some_iff.mp hvalue
  obtain rfl := Json.arr.inj heq
  obtain ⟨r, -, hr⟩ := exists_of_mem_forall₂ hitems.flip
    (List.mem_append_right before List.mem_cons_self)
  obtain ⟨known, hknown, hstated⟩ := Rule.kindNames_of_ofJson? hr
  rw [Json.textOr_iff, hstated] at hrule
  exact hunknown (hrule ▸ hknown)

/-- **The first pass refuses nothing that could be read.** -/
theorem decode_eq_ok_iff_ofJson? {p : Policy} : decode item = .ok p ↔ ofJson? item = some p := by
  rw [decode_eq_ok_iff]
  refine and_iff_right_of_imp fun hread => ?_
  by_contra hunknown
  obtain ⟨name, hname⟩ := Option.ne_none_iff_exists'.mp hunknown
  rw [ofJson?_eq_none_of_firstUnknown (unknownKind?_eq_some_iff.mp hname)] at hread
  contradiction

/-- **An unknown kind goes before all other faults.** -/
theorem decode_eq_unsupported_iff : decode item = .error (.unsupportedRuleType id name)
    ↔ FirstUnknown item name ∧ item.TextOr "policy_id" "<unknown>" id := by
  rw [← unknownKind?_eq_some_iff, Json.textOr_iff, decode]
  cases unknownKind? item with
  | some first =>
    show Except.error (ModelFault.unsupportedRuleType (statedId item) first) = _
      ↔ _ ∧ statedId item = id
    simp [and_comm]
  | none => cases ofJson? item <;> simp

/-- Every other fault is that of a malformed document. -/
theorem eq_malformed_of_decode {fault : ModelFault} (h : decode item = .error fault)
    (hother : ∀ id name, fault ≠ .unsupportedRuleType id name) : fault = .malformed := by
  rw [decode] at h
  cases hunknown : unknownKind? item with
  | some first =>
    rw [hunknown] at h
    exact absurd (Except.error.inj h).symm (hother _ _)
  | none =>
    rw [hunknown] at h
    cases hread : ofJson? item with
    | some p =>
      rw [hread] at h
      contradiction
    | none =>
      rw [hread] at h
      exact (Except.error.inj h).symm

section Lists

variable {text : String} {items : List Json}
  (hitems : (Json.parseWhole? text).map Json.lastWins = some (.arr items))

include hitems

/-- A document that holds a list is read element by element. -/
theorem decodeText_eq_mapM : decodeText text = items.mapM decode := by
  obtain ⟨j, hj, hlast⟩ := Option.map_eq_some_iff.mp hitems
  rw [decodeText, hj]
  show decodeList j.lastWins = _
  rw [hlast]
  rfl

/-- The list is accepted if all of its elements can be read. -/
theorem decodeText_eq_ok_iff {ps : List Policy} :
    decodeText text = .ok ps ↔ List.Forall₂ (fun j p => ofJson? j = some p) items ps := by
  simp only [decodeText_eq_mapM hitems, mapM_eq_ok_iff, decode_eq_ok_iff_ofJson?]

/-- **An unknown kind is reported** exactly if the first element that cannot be read has a rule
of one. -/
theorem decodeText_eq_unsupported_iff :
    decodeText text = .error (.unsupportedRuleType id name)
      ↔ ∃ before item after, items = before ++ item :: after
        ∧ (∀ j ∈ before, ∃ p, ofJson? j = some p) ∧ ofJson? item = none
        ∧ FirstUnknown item name ∧ item.TextOr "policy_id" "<unknown>" id := by
  simp only [decodeText_eq_mapM hitems, mapM_eq_error_iff, decode_eq_ok_iff_ofJson?,
    decode_eq_unsupported_iff]
  constructor
  · rintro ⟨before, item, after, hsplit, hbefore, hfirst, hid⟩
    have hread := ofJson?_eq_none_of_firstUnknown hfirst
    exact ⟨before, item, after, hsplit, hbefore, hread, hfirst, hid⟩
  · rintro ⟨before, item, after, hsplit, hbefore, -, hfirst, hid⟩
    exact ⟨before, item, after, hsplit, hbefore, hfirst, hid⟩

end Lists

/-- What holds no list is malformed. -/
theorem decodeText_eq_malformed {text : String}
    (h : ∀ items, (Json.parseWhole? text).map Json.lastWins ≠ some (.arr items)) :
    decodeText text = .error .malformed := by
  rw [decodeText]
  cases hparse : Json.parseWhole? text with
  | none => rfl
  | some j =>
    rw [hparse] at h
    show decodeList j.lastWins = _
    rw [decodeList]
    cases hlast : j.lastWins with
    | arr items => exact absurd (congrArg some hlast) (h items)
    | _ => rfl

/-- Every fault of a document that is no unknown kind is that of a malformed one. -/
theorem eq_malformed_of_decodeText {text : String} {fault : ModelFault}
    (h : decodeText text = .error fault)
    (hother : ∀ id name, fault ≠ .unsupportedRuleType id name) : fault = .malformed := by
  by_cases hlist : ∃ items, (Json.parseWhole? text).map Json.lastWins = some (.arr items)
  · obtain ⟨items, hitems⟩ := hlist
    rw [decodeText_eq_mapM hitems, mapM_eq_error_iff] at h
    obtain ⟨-, item, -, -, -, hitem⟩ := h
    exact eq_malformed_of_decode hitem hother
  · rw [decodeText_eq_malformed fun items hitems => hlist ⟨items, hitems⟩] at h
    exact (Except.error.inj h).symm

end Policy

namespace Sample

/-- A list of two policies. The second one names itself by a number, and its second rule
is no object. -/
def unknownText : List Char := List.flatMap String.toList
  ["[\x7b\"policy_id\":", "\"00000000000000000000000000000003\",", "\"name\":\"zone\",",
    "\"start_date\":0,", "\"rules\":[]\x7d,", "\x7b\"policy_id\":7,",
    "\"rules\":[\x7b\"rule_type\":\"time\"\x7d,", "[],", "\x7b\"rule_type\":\"weight\"\x7d]\x7d]"]

/-- The document holds a list. -/
theorem isSome_items_unknownText {text : String} (htext : text.toList = unknownText) :
    (((Json.parseWhole? text).map Json.lastWins).bind Json.items?).isSome = true := by
  unfold Json.parseWhole? Json.parse? Json.tokens?
  rw [htext]
  decide +kernel

/-- The fault is an unknown kind, though the policy has no identifier either. -/
theorem decodeText_unknownText {text : String} (htext : text.toList = unknownText) :
    Policy.decodeText text = .error (.unsupportedRuleType "<unknown>" "") := by
  unfold Policy.decodeText Json.parseWhole? Json.parse? Json.tokens?
  rw [htext]
  decide +kernel

end Sample

namespace Policy

/-- **Which faults a document of policies has.** If it is a list, an unknown kind is reported
exactly if the first policy that cannot be read has a rule of one. The fault names the first
such kind and the policy, as far as it names itself. The list is accepted if all of it can be
read, and no policy with a rule of an unknown kind can. Every other fault is that
of a malformed document. -/
theorem decodeText_unknownKind (text : String) :
    (∀ items, (Json.parseWhole? text).map Json.lastWins = some (.arr items) →
      (∀ id name, decodeText text = .error (.unsupportedRuleType id name)
        ↔ ∃ before item after, items = before ++ item :: after
          ∧ (∀ j ∈ before, ∃ p, ofJson? j = some p) ∧ ofJson? item = none
          ∧ FirstUnknown item name ∧ item.TextOr "policy_id" "<unknown>" id)
      ∧ ∀ ps, decodeText text = .ok ps ↔ List.Forall₂ (fun j p => ofJson? j = some p) items ps)
    ∧ ((∀ items, (Json.parseWhole? text).map Json.lastWins ≠ some (.arr items)) →
      decodeText text = .error .malformed)
    ∧ (∀ fault, decodeText text = .error fault →
      (∀ id name, fault ≠ .unsupportedRuleType id name) → fault = .malformed)
    ∧ ∀ item rules rule name, item.get? "rules" = some (.arr rules) → rule ∈ rules →
      rule.TextOr "rule_type" "" name → name ∉ kindNames →
        ofJson? item = none ∧ ∀ p, decode item ≠ .ok p := by
  refine ⟨fun items hitems => ⟨fun id name => decodeText_eq_unsupported_iff hitems,
    fun ps => decodeText_eq_ok_iff hitems⟩, decodeText_eq_malformed,
    fun fault => eq_malformed_of_decodeText, ?_⟩
  intro item rules rule name hrules hrule hname hunknown
  obtain ⟨first, hfirst⟩ := exists_firstUnknown hrules hrule hname hunknown
  have hread := ofJson?_eq_none_of_firstUnknown hfirst
  refine ⟨hread, fun p hp => ?_⟩
  rw [decode_eq_ok_iff_ofJson?, hread] at hp
  contradiction

/-- A kind that is not even stated is reported as empty: the first policy that cannot be read
has a rule that is no object. A rule that is null is of no known kind either. -/
theorem decodeText_unknownKind_unstated :
    (∃ items before item after,
      (Json.parseWhole? (String.ofList Sample.unknownText)).map Json.lastWins = some (.arr items)
        ∧ items = before ++ item :: after ∧ (∀ j ∈ before, ∃ p, ofJson? j = some p)
        ∧ ofJson? item = none ∧ FirstUnknown item ""
        ∧ item.TextOr "policy_id" "<unknown>" "<unknown>")
      ∧ ofJson? (.obj [("rules", .arr [.null])]) = none := by
  have htext : (String.ofList Sample.unknownText).toList = Sample.unknownText :=
    String.toList_ofList
  obtain ⟨items, hitems⟩ := Option.isSome_iff_exists.mp (Sample.isSome_items_unknownText htext)
  obtain ⟨j, hj, hlist⟩ := Option.bind_eq_some_iff.mp hitems
  obtain rfl := Json.items?_eq_some_iff.mp hlist
  obtain ⟨before, item, after, hreported⟩ :=
    (((decodeText_unknownKind (String.ofList Sample.unknownText)).1 items hj).1 _ _).mp
      (Sample.decodeText_unknownText htext)
  have hnull := (decodeText_unknownKind "").2.2.2 (.obj [("rules", .arr [.null])]) [.null] .null ""
    rfl List.mem_cons_self (.missing fun _ h => nomatch h) (by decide)
  exact ⟨⟨items, before, item, after, hj, hreported⟩, hnull.1⟩

end Policy

end FleetCompliance

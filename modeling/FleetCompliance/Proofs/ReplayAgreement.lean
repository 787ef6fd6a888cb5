import FleetCompliance.Proofs.BatchRun
import FleetCompliance.Replay

/-!
# Replays agree with batches

A batch and a replay come by the fleet of a provider in different ways. The
batch gathers fleets of all providers, or of each that is named, puts them
into a table and looks them up there; the replay makes a store of its own
from the documents, without policies, and asks it for the one provider.

Both are the provider's part of the newest events of all devices. So a
replay of one policy for one provider, at the instant of the batch and in its
zone, comes to the verdict that the batch has handed in for the two of them
(`Store.replay_of_runOnce`). The zone is whichever one the directory of zones
holds under the name that the replay is given.
-/

namespace FleetCompliance

variable {m : Type → Type} [Monad m] [LawfulMonad m]

/-- Files by path. -/
abbrev Files := String → Except FileFault String

/-- The files are read one at a time and do not change. -/
abbrev Files.reader (files : Files) : FileReader m := fun path => pure (files path)

/-- Whether a file holds the text of a value. -/
def Files.Hold {α : Type} (files : Files) (decode : String → Except ModelFault α)
    (path : String) (x : α) : Prop :=
  ∃ text, files path = .ok text ∧ decode text = .ok x

/-- The value in the text of a file is read from the file. -/
theorem readDocument_of_hold {α : Type} {files : Files}
    {decode : String → Except ModelFault α} {path : String} {x : α}
    (h : files.Hold decode path x) :
    readDocument (m := m) files.reader decode path = pure x := by
  obtain ⟨text, hfile, hdecode⟩ := h
  refine ExceptT.ext ?_
  show (ExceptT.lift (pure (files path)) >>= _ : ExceptT AdapterFault m α).run = _
  rw [hfile, ExceptT.run_bind_lift, pure_bind]
  simp only [hdecode]

/-- **What a replay is asked to look at**: the instant and the zone are those
of a clock, and the documents hold the lists. -/
structure ReplayRequest.Asks (r : ReplayRequest) (zones : ZoneDirectory) (files : Files)
    (present : m Instant) (zoneVariable : Option String) (clock : Clock)
    (geographies : List Geography) (devices : List Device) (events : List Event)
    (policies : List Policy) : Prop where
  zone : TimeZone.demanded zones (r.timezone <|> zoneVariable) = .ok clock.zone
  /-- The instant is given as text, or it is the present. -/
  instant : match r.now with
    | some text => Instant.parse text = .ok clock.now
    | none => present = pure clock.now
  geographies : files.Hold Geography.decodeText r.geographies geographies
  devices : files.Hold Device.decodeText r.devices devices
  events : files.Hold Event.decodeText r.events events
  policies : files.Hold Policy.decodeText r.policies policies

/-- **A replay of one policy** of a document evaluates it on the provider's
part of the newest events. -/
theorem replay_eq_of_asks {r : ReplayRequest} {zones : ZoneDirectory} {files : Files}
    {present : m Instant} {zoneVariable : Option String} {clock : Clock}
    {geographies : List Geography} {devices : List Device} {events : List Event}
    {policies : List Policy}
    (h : r.Asks zones files present zoneVariable clock geographies devices events policies)
    {p : Policy} (hwanted : wantedPolicies policies r.policyId = [p]) :
    replay zones files.reader present zoneVariable r
      = ofExcept (replayLists (Engine.ofClock clock) geographies devices events [p]
          r.providerId) := by
  have hasked := h.instant
  unfold replay
  rw [h.zone]
  show (pure clock.zone >>= _ : ExceptT ReplayFault m _) = _
  simp only [readDocument_of_hold h.geographies, readDocument_of_hold h.devices,
    readDocument_of_hold h.events, readDocument_of_hold h.policies, adapt_pure, pure_bind, hwanted,
    List.isEmpty_cons, Bool.false_eq_true, if_false]
  -- the wanted policy is there, so that looking for it changes nothing
  cases hnow : r.now with
  | some text =>
    rw [hnow] at hasked
    simp only [hasked]
    show (pure clock.now >>= _ : ExceptT ReplayFault m _) = _
    rw [pure_bind]
    cases r.policyId <;> rfl
  | none =>
    rw [hnow] at hasked
    simp only [hasked]
    refine ExceptT.ext ?_
    show (ExceptT.lift (pure clock.now) >>= _ : ExceptT ReplayFault m _).run = _
    rw [ExceptT.run_bind_lift, pure_bind]
    cases r.policyId <;> rfl

/-- The wanted policy of a document whose policies are told apart by their
identifiers. -/
theorem wantedPolicies_eq_singleton {policies : List Policy} {p : Policy} (hp : p ∈ policies)
    (hdistinct : (policies.map (·.policyId)).Nodup) :
    wantedPolicies policies (some p.policyId) = [p] := by
  have hpairwise := List.pairwise_map.mp hdistinct
  obtain ⟨before, after, rfl⟩ := List.append_of_mem hp
  obtain ⟨-, hrest, hbefore⟩ := List.pairwise_append.mp hpairwise
  have hafter := (List.pairwise_cons.mp hrest).1
  have hnotbefore : before.filter (fun x => decide (x.policyId = p.policyId)) = [] := by
    refine List.filter_eq_nil_iff.mpr (fun x hx heq => ?_)
    exact hbefore x hx p List.mem_cons_self (of_decide_eq_true heq)
  have hnotafter : after.filter (fun x => decide (x.policyId = p.policyId)) = [] :=
    List.filter_eq_nil_iff.mpr (fun x hx heq => hafter x hx (of_decide_eq_true heq).symm)
  show (before ++ p :: after).filter (fun x => decide (x.policyId = p.policyId)) = [p]
  rw [List.filter_append, hnotbefore, List.filter_cons_of_pos (by simp), hnotafter]
  rfl

/-- The lists of one policy are evaluated for a provider as a store would
evaluate the pair. -/
theorem replayLists_of_finds {geographies : List Geography} {policies : List Policy}
    {devices : List Device} {events : List Event} {e : Engine} {p : Policy}
    {provider : Identifier .provider} {f : Finding}
    (h : (Store.ofLists geographies policies devices events).Finds e (p, provider) f) :
    replayLists e geographies devices events [p] provider
      = .ok [⟨p.policyId, p.name, provider, f.verdict⟩] := by
  have hverdict : conclude (ReplayFault.evaluation p.policyId) .overflow (e.evaluate p geographies
      ((Store.ofLists [] [] devices events).fleet (some provider))) = .ok f.verdict :=
    conclude_eq_ok_iff.mpr h.verdict
  unfold replayLists
  rw [List.mapM_cons, List.mapM_nil, hverdict]
  rfl

/-- **A replay comes to the verdict of the batch.** If a batch hands in a
snapshot for a policy and a provider, then a replay of that policy for that
provider succeeds with exactly one evaluation, which is the one in the
snapshot. The other policies of the document and the order of the chunks are
of no account. -/
theorem Store.replay_of_runOnce {σ : Type} {geographies : List Geography}
    {policies : List Policy} {devices : List Device} {events : List Event}
    (hdistinct : (policies.map (·.policyId)).Nodup)
    {newId : StateM σ (Identifier .snapshot)} {schedule : Schedule} {config : Config}
    (hwindow : config.window = defaultWindow) {now : Instant} {sink sink' : MemorySink}
    {seed seed' : σ} {result : Except BatchFault Report}
    (hrun : ((runOnce
        { (ofLists geographies policies devices events).adapters newId with schedule }
        config now).run.run sink).run seed = ((result, sink'), seed'))
    {arrived : List (List Snapshot)} (harrived : sink'.batches = sink.batches ++ arrived)
    {snapshot : Snapshot} (hsnapshot : snapshot ∈ arrived.flatten)
    {r : ReplayRequest} {zones : ZoneDirectory} {files : Files} {present : m Instant}
    {zoneVariable : Option String}
    (hasks : r.Asks zones files present zoneVariable ⟨now, config.zone⟩ geographies devices
      events policies)
    (hpolicy : r.policyId = some snapshot.finding.policy.policyId)
    (hprovider : r.providerId = snapshot.finding.providerId) :
    (replay zones files.reader present zoneVariable r).run
      = pure (.ok [⟨snapshot.finding.policy.policyId, snapshot.finding.policy.name,
          snapshot.finding.providerId, snapshot.finding.verdict⟩]) := by
  obtain ⟨_, -, rfl, -⟩ | ⟨_, -, -, -, rfl⟩ | ⟨snapshots, _, hpaired, -, -, -, rfl⟩ :=
    cases_of_runOnce hrun
  · -- nothing was handed in
    rw [List.self_eq_append_right.mp harrived] at hsnapshot
    exact nomatch hsnapshot
  · rw [List.self_eq_append_right.mp harrived] at hsnapshot
    exact nomatch hsnapshot
  · obtain rfl := List.append_cancel_left harrived
    have hmem := (schedule.arrivals_flatten_perm config.batchSize snapshots).subset hsnapshot
    obtain ⟨⟨p, provider⟩, hpair, hfinds⟩ := exists_of_mem_forall₂ hpaired hmem
    have hp : p ∈ policies :=
      List.mem_of_mem_filter (List.mem_of_mem_filter (mem_pairs_iff.mp hpair).1)
    rw [hfinds.policy] at hpolicy
    rw [hfinds.provider] at hprovider
    have hwanted : wantedPolicies policies r.policyId = [p] :=
      hpolicy ▸ wantedPolicies_eq_singleton hp hdistinct
    rw [hwindow] at hfinds
    rw [replay_eq_of_asks hasks hwanted, hprovider, Engine.ofClock, replayLists_of_finds hfinds,
      hfinds.policy, hfinds.provider]
    rfl

/-! ### A vehicle that reports for someone else

There are two providers. The first one owns two vehicles, of which one has
reported several times. The vehicle of the second one has reported for the
first one, to whom it does not belong. Of two policies one is for the first
provider; the other one is for all of them, so that the batch fetches the
fleets of all at once. -/

/-- Filters of states are compared state by state. -/
instance : DecidableEq StateFilter := fun f g =>
  decidable_of_iff (∀ s ∈ VehicleState.all, f s = g s)
    ⟨fun h => funext fun s => h s (by cases s <;> decide), fun h _ _ => h ▸ rfl⟩

deriving instance DecidableEq for Scope, CountRule, SpeedRule, TimeRule, Rule, Policy, Position,
  Fix, Telemetry, Event, MatchedVehicle, Verdict

/-- A geography that is a polygon and nothing else. -/
def Geography.bare (id : Identifier .geography) (rings : Polygon) : Geography :=
  ⟨id, none, none, .geometry (.polygon rings)⟩

/-- Whether a document holds nothing but a bare polygon. Geographies in general
are not compared, as anything may stand in their properties. -/
def holdsBare (id : Identifier .geography) (rings : Polygon) :
    Except ModelFault (List Geography) → Bool
  | .ok [⟨i, none, none, .geometry (.polygon r)⟩] => i = id ∧ r = rings
  | _ => false

/-- What a document holds if it is but a bare polygon. -/
theorem eq_of_holdsBare {id : Identifier .geography} {rings : Polygon}
    {document : Except ModelFault (List Geography)} (h : holdsBare id rings document = true) :
    document = .ok [.bare id rings] := by
  unfold holdsBare at h
  split at h
  · obtain ⟨rfl, rfl⟩ := of_decide_eq_true h
    rfl
  · exact absurd h Bool.false_ne_true

namespace Sample

/-- A rule that has room for one vehicle, and wants four. -/
def wantingRules : List CountRule :=
  [⟨⟨id 4, "zone", [id 1], none, none, none, none, none⟩, some 1, some 4⟩]

/-- The policy of this rule for the first provider. -/
def wantingPolicy : Policy where
  policyId := id 3
  name := "zone"
  description := none
  startDate := instant 0
  endDate := none
  publishDate := none
  prevPolicies := none
  providerIds := some [id 1]
  rules := wantingRules.map .count

/-- A rule that has no room. -/
def emptyingRules : List CountRule :=
  [⟨⟨id 6, "zone", [id 1], none, none, none, none, none⟩, some 0, none⟩]

/-- The policy of this rule for all providers. -/
def emptyingPolicy : Policy :=
  { wantingPolicy with
    policyId := id 5, name := "city", providerIds := none, rules := emptyingRules.map .count }

/-- The third vehicle is the second provider's. -/
def ownedDevices : List Device :=
  [(vehicle 1).device, (vehicle 2).device, ⟨id 3, id 2, .scooter⟩]

/-- The first vehicle has reported before, and its event is there twice. All
events are for the first provider. -/
def reportedEvents : List Event :=
  [{ (vehicle 0).event with deviceId := id 1 }, (vehicle 1).event, (vehicle 2).event,
    (vehicle 1).event, (vehicle 3).event]

/-! The documents as they are written. -/

/-- An identifier whose last digit is given. -/
def idText (digit : Char) : List Char := '"' :: List.replicate 31 '0' ++ [digit, '"']

/-- The document of the zone. -/
def geographyText : List Char :=
  "[\x7b\"geography_id\":".toList ++ idText '1'
    ++ ",\"geography_json\":\x7b\"type\":\"Polygon\",".toList
    ++ "\"coordinates\":[[[0,0],[1,0],[1,1],[0,1]]]\x7d\x7d]".toList

/-- A device and its provider. -/
def deviceText (device provider : Char) : List Char :=
  "\x7b\"device_id\":".toList ++ idText device ++ ",\"provider_id\":".toList
    ++ idText provider ++ ",\"vehicle_type\":\"scooter\"\x7d".toList

/-- The document of the devices. -/
def devicesText : List Char :=
  '[' :: deviceText '1' '1' ++ ',' :: deviceText '2' '1' ++ ',' :: deviceText '3' '2' ++ [']']

/-- An event of a device in the middle of the zone, at a millisecond. -/
def eventText (device millisecond : Char) : List Char :=
  "\x7b\"device_id\":".toList ++ idText device ++ ",\"provider_id\":".toList ++ idText '1'
    ++ ",\"timestamp\":".toList ++ millisecond :: ",\"event_types\":[\"located\"]".toList
    ++ ",\"vehicle_state\":\"available\"".toList
    ++ ",\"telemetry\":\x7b\"timestamp\":".toList
    ++ millisecond :: ",\"gps\":\x7b\"lat\":0.5,\"lng\":0.5\x7d\x7d\x7d".toList

/-- The document of the events. -/
def eventsText : List Char :=
  '[' :: eventText '1' '0' ++ ',' :: eventText '1' '1' ++ ',' :: eventText '2' '2'
    ++ ',' :: eventText '1' '1' ++ ',' :: eventText '3' '3' ++ [']']

/-- The document of the policies. -/
def policyText : List Char :=
  "[\x7b\"policy_id\":".toList ++ idText '3' ++ ",\"name\":\"zone\",\"start_date\":0".toList
    ++ ",\"provider_ids\":[".toList ++ idText '1'
    ++ "],\"rules\":[\x7b\"rule_type\":\"count\",\"rule_id\":".toList ++ idText '4'
    ++ ",\"name\":\"zone\",\"geographies\":[".toList ++ idText '1'
    ++ "],\"maximum\":1,\"minimum\":4\x7d]\x7d,\x7b\"policy_id\":".toList ++ idText '5'
    ++ ",\"name\":\"city\",\"start_date\":0,\"rules\":[\x7b\"rule_type\":\"count\"".toList
    ++ ",\"rule_id\":".toList ++ idText '6' ++ ",\"name\":\"zone\",\"geographies\":[".toList
    ++ idText '1' ++ "],\"maximum\":0\x7d]\x7d]".toList

/-- Texts of the documents are read as the lists. The texts are variables, so
that nothing is read before the last step. -/
theorem decodeText_of_toList {geographies devices events policies : String}
    (hgeographies : geographies.toList = geographyText) (hdevices : devices.toList = devicesText)
    (hevents : events.toList = eventsText) (hpolicies : policies.toList = policyText) :
    Geography.decodeText geographies = .ok [zone] ∧ Device.decodeText devices = .ok ownedDevices
      ∧ Event.decodeText events = .ok reportedEvents
      ∧ Policy.decodeText policies = .ok [wantingPolicy, emptyingPolicy] := by
  have hbare : zone = .bare (id 1) [[[0.0, 0.0], [1.0, 0.0], [1.0, 1.0], [0.0, 1.0]]] := rfl
  rw [hbare]
  refine And.imp_left eq_of_holdsBare ?_
  unfold Geography.decodeText Device.decodeText Event.decodeText Policy.decodeText decodeWith
    Json.parseWhole? Json.parse? Json.tokens?
  rw [hgeographies, hdevices, hevents, hpolicies]
  decide +kernel

/-- **The documents hold the lists.** -/
theorem decodeText_documents :
    Geography.decodeText (String.ofList geographyText) = .ok [zone]
      ∧ Device.decodeText (String.ofList devicesText) = .ok ownedDevices
      ∧ Event.decodeText (String.ofList eventsText) = .ok reportedEvents
      ∧ Policy.decodeText (String.ofList policyText) = .ok [wantingPolicy, emptyingPolicy] :=
  decodeText_of_toList String.toList_ofList String.toList_ofList String.toList_ofList
    String.toList_ofList

/-- The four documents. -/
def files : Files := fun path =>
  match [("geographies.json", geographyText), ("devices.json", devicesText),
      ("events.json", eventsText), ("policies.json", policyText)].lookup path with
  | some text => .ok (String.ofList text)
  | none => .error .notFound

/-- The only zone that has a name is universal time. -/
def universalZones : ZoneDirectory := fun name => [("UTC", engine.clock.zone)].lookup name

/-- The replay of the first policy for the first provider, ten milliseconds
after the start of time. -/
def request : ReplayRequest :=
  ⟨"geographies.json", "devices.json", "events.json", "policies.json", id 1, some (id 3),
    some "10", some "UTC"⟩

/-- The replay asks what the batch asks. -/
theorem request_asks :
    request.Asks (m := Id) universalZones files (pure .earliest) none engine.clock [zone]
      ownedDevices reportedEvents [wantingPolicy, emptyingPolicy] where
  zone := rfl
  instant := (rfl : Instant.parse "10" = .ok engine.clock.now)
  geographies := ⟨String.ofList geographyText, rfl, decodeText_documents.1⟩
  devices := ⟨String.ofList devicesText, rfl, decodeText_documents.2.1⟩
  events := ⟨String.ofList eventsText, rfl, decodeText_documents.2.2.1⟩
  policies := ⟨String.ofList policyText, rfl, decodeText_documents.2.2.2⟩

/-- The store of the documents. -/
def documentStore : Store :=
  .ofLists [zone] [wantingPolicy, emptyingPolicy] ownedDevices reportedEvents

/-- The store holds the newest event of each vehicle. -/
theorem documentStore_eq :
    documentStore = ⟨[zone], [wantingPolicy, emptyingPolicy], ownedDevices,
      [vehicle 1, vehicle 2, vehicle 3].map (·.event)⟩ :=
  congrArg (Store.mk _ _ _) (List.mergeSort_of_pairwise (by decide))

/-- The batch keeps to the usual window. -/
def usualConfig : Config := { config with window := defaultWindow }

/-- The engine of the batch and of the replay. -/
def usualEngine : Engine := .ofClock engine.clock

/-- The vehicles of the first provider, one of them in excess. Three more are
lacking. -/
def wantingFinding : Finding :=
  ⟨⟨id 3, "zone"⟩, id 1,
    ⟨[(vehicle 1).entry (some (id 4)) [id 4], (vehicle 2).entry none [id 4]], 1, 3⟩⟩

/-- What the other policy finds for a provider: all of the vehicles are in
excess. -/
def emptyingFinding (provider : Identifier .provider) (vehicles : List Entrant) : Finding :=
  ⟨⟨id 5, "city"⟩, provider,
    ⟨vehicles.map (·.entry none [id 6]), UInt64.ofNat vehicles.length,
      UInt64.ofNat vehicles.length⟩⟩

/-- The findings of the three pairs. -/
def documentFindings : List Finding :=
  [wantingFinding, emptyingFinding (id 1) [vehicle 1, vehicle 2], emptyingFinding (id 2) []]

/-- The first provider has its two vehicles and all three events. -/
theorem fleet_first :
    documentStore.fleet (some (id 1))
      = ⟨[vehicle 1, vehicle 2].map (·.device),
        [vehicle 1, vehicle 2, vehicle 3].map (·.event)⟩ := by
  rw [documentStore_eq]
  rfl

/-- The second one has its vehicle, and no event. -/
theorem fleet_second :
    documentStore.fleet (some (id 2)) = ⟨[⟨id 3, id 2, .scooter⟩], []⟩ := by
  rw [documentStore_eq]
  rfl

/-- The vehicle of someone else does not enter. -/
theorem entrants_first :
    (usualEngine.prepare (documentStore.fleet (some (id 1)))).entrants
      = [vehicle 1, vehicle 2] := by
  have hrecent : recentEvents ([vehicle 1, vehicle 2, vehicle 3].map (·.event))
      usualEngine.clock.now usualEngine.window
        = [vehicle 1, vehicle 2, vehicle 3].map (·.event) :=
    List.mergeSort_of_pairwise (by decide)
  rw [fleet_first, Engine.prepare, PreparedFleet.ofFleet_of_recentEvents hrecent]
  rfl

/-- Where there is no event nothing enters. -/
theorem entrants_second :
    (usualEngine.prepare (documentStore.fleet (some (id 2)))).entrants = [] := by
  rw [fleet_second, Engine.entrants_nil]

/-- The batch finds this for the three pairs. -/
theorem assess_documentStore :
    assess usualEngine [wantingPolicy, emptyingPolicy] documentStore.geographies
      (documentStore.fleetsFor [wantingPolicy, emptyingPolicy]) = .ok documentFindings := by
  have hpairs : documentStore.pairs [wantingPolicy, emptyingPolicy]
      = [(wantingPolicy, id 1), (emptyingPolicy, id 1), (emptyingPolicy, id 2)] := by
    rw [documentStore_eq]
    rfl
  have hwanting : wantingPolicy.rules = wantingRules.map .count := rfl
  have hemptying : emptyingPolicy.rules = emptyingRules.map .count := rfl
  have hzones : documentStore.geographies = [zone] := rfl
  rw [Store.assess_eq_ok_iff, hpairs]
  refine .cons (Store.finds_of_count hwanting (List.cons_ne_nil _ _) ?_)
    (.cons (Store.finds_of_count hemptying (List.cons_ne_nil _ _) ?_)
      (.cons (Store.finds_of_count hemptying (List.cons_ne_nil _ _) ?_) .nil))
  · rw [hzones, entrants_first]
    rfl
  · rw [hzones, entrants_first]
    rfl
  · rw [hzones, entrants_second]
    rfl

/-- The snapshot of a finding, by its number. -/
def documentSnapshot (n : ℕ) (f : Finding) : Snapshot := ⟨id n, engine.clock.now, f⟩

/-- The chunks as they arrive, the one of the first pair last. -/
def documentArrivals : List (List Snapshot) :=
  [[documentSnapshot 2 (emptyingFinding (id 2) [])],
    [documentSnapshot 0 wantingFinding,
      documentSnapshot 1 (emptyingFinding (id 1) [vehicle 1, vehicle 2])]]

end Sample

/-- The replay reports the vehicle in its place, the one in excess and the
three that are lacking, as the batch has done before. -/
theorem replay_of_runOnce_wanting :
    let run := runOnce (m := StateT MemorySink (StateM ℕ))
      { Sample.documentStore.adapters Sample.newId with schedule := Sample.lastFirst }
      Sample.usualConfig Sample.engine.clock.now
    ∃ result sink seed, (run.run.run .empty).run 0 = ((result, sink), seed)
      ∧ sink.batchSizes = [1, 2]
      ∧ (∃ snapshot ∈ sink.snapshots, snapshot.finding = Sample.wantingFinding)
      ∧ Sample.wantingFinding.verdict.vehiclesFound.map (·.deviceId) = [Sample.id 1, Sample.id 2]
      ∧ (replay (m := Id) Sample.universalZones Sample.files.reader (pure .earliest) none
          Sample.request).run
          = .ok [⟨Sample.id 3, "zone", Sample.id 1, Sample.wantingFinding.verdict⟩] := by
  intro run
  have hdistinct : ([Sample.wantingPolicy, Sample.emptyingPolicy].map (·.policyId)).Nodup := by
    decide
  have hselected : selectPolicies Sample.documentStore.policies Sample.engine.clock.now
      = [Sample.wantingPolicy, Sample.emptyingPolicy] := rfl
  have hassess : assess ⟨⟨Sample.engine.clock.now, Sample.usualConfig.zone⟩,
      Sample.usualConfig.window⟩ [Sample.wantingPolicy, Sample.emptyingPolicy]
      Sample.documentStore.geographies
      (Sample.documentStore.fleetsFor [Sample.wantingPolicy, Sample.emptyingPolicy])
        = .ok Sample.documentFindings := Sample.assess_documentStore
  have hrun : (run.run.run .empty).run 0
      = ((.ok ⟨Sample.engine.clock.now, 2, 3, 5⟩, ⟨Sample.documentArrivals⟩), 3) := by
    rw [Sample.documentStore.run_runOnce, hselected, hassess]
    show ((_, MemorySink.mk ([] ++ Sample.lastFirst.arrivals Sample.config.batchSize
      [Sample.documentSnapshot 0 _, Sample.documentSnapshot 1 _, Sample.documentSnapshot 2 _])),
      (3 : ℕ)) = _
    rw [Sample.arrivals_three]
    rfl
  have hsnapshot : Sample.documentSnapshot 0 Sample.wantingFinding
      ∈ Sample.documentArrivals.flatten := List.mem_cons_of_mem _ List.mem_cons_self
  refine ⟨_, _, _, hrun, rfl, ⟨_, hsnapshot, rfl⟩, rfl, ?_⟩
  exact Store.replay_of_runOnce hdistinct rfl hrun rfl hsnapshot Sample.request_asks rfl rfl

end FleetCompliance

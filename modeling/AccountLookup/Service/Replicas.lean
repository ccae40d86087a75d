/-
# Several instances of the service

Instances share the oracle registry and the stores; each keeps adapters of its own, which it
loads when it starts and changes when it serves a registration or a removal. What the other
instances serve does not reach it. So an instance routes a party to the registry's oracle
through the record that it has loaded itself under that id.
-/

import AccountLookup.Service.RegistryRuns

namespace AccountLookup

open Library.Transition

/-- An instance: its adapters, and what its history says of it. -/
structure Replica (T R : Type) where
  adapters : List (IOracleProviderAdapter (ServiceWorld T R))
  /-- The records that it has loaded and has not removed itself. -/
  records : List Oracle
  /-- The ids about which other instances have served a call since it started. -/
  changedElsewhere : List String

/-- Instances of the service over one world. -/
structure Deployment (T R : Type) where
  replicas : List (Replica T R)
  world : ServiceWorld T R

/-- What happens in a deployment: an instance starts, or one of them serves a call. -/
inductive DeploymentStep
  | start (outage : Outage)
  | call (i : ℕ) (a : AdminStep)

variable {T R : Type}

/-- The record under the id of the oracle that the finder returns. -/
def Replica.recordOf (replica : Replica T R) (oracle : Oracle) : Option Oracle :=
  replica.records.find? fun o => o.id = oracle.id

/-- An instance as a running service, during an outage. -/
def Deployment.serviceOf (d : Deployment T R) (replica : Replica T R) (outage : Outage) :
    RunningService T R :=
  (⟨replica.adapters, d.world⟩ : RunningService T R).during outage

namespace RunningService

variable (s : RunningService T R)

/-- The id that a call is about. -/
def calledId : AdminCall → String
  | .addOracle oracle randomUUID =>
    AccountLookupAggregate.registeredId oracle (randomUUID.draw s.registeredIds)
  | .removeOracle id => id

/-- The records of an instance after it has served a call. -/
def recordsAfter (records : List Oracle) : AdminCall → List Oracle
  | .addOracle oracle randomUUID =>
    records ++ [AccountLookupAggregate.newOracle oracle (randomUUID.draw s.registeredIds)]
  | .removeOracle id => records.filter fun o => o.id ≠ id

end RunningService

namespace OracleAdapterFactory

open AccountLookupAggregate RunningService

variable [LinearOrder T] [Add T] (settings : OracleAdapterFactory T R)
  (participantService : IParticipantServiceAdapter R)

/-- The instances after the one at index `i` has served a call. -/
def replicasAfter (replicas : List (Replica T R)) (i : ℕ) (served : Replica T R)
    (id : String) : List (Replica T R) :=
  replicas.mapIdx fun j replica =>
    if j = i then served else { replica with changedElsewhere := id :: replica.changedElsewhere }

/-- The deployment after one step. -/
def deploymentStep (d : Deployment T R) : DeploymentStep → Deployment T R
  | .start outage =>
    let found := ((⟨[], d.world⟩ : RunningService T R).during outage).world
    match (settings.aggregate participantService).init found with
    | (.error _, _, world) => { d with world := world }
    | (.ok _, agg, world) =>
      ⟨d.replicas ++ [⟨agg.oracleProvidersAdapters, found.finder.oracles, []⟩], world⟩
  | .call i a =>
    match d.replicas[i]? with
    | none => d
    | some replica =>
      let s := d.serviceOf replica a.outage
      match settings.perform participantService s a.call with
      | (.error _, after) =>
        ⟨d.replicas.set i { replica with adapters := after.adapters }, after.world⟩
      | (.ok _, after) =>
        ⟨replicasAfter d.replicas i
            { replica with
              adapters := after.adapters
              records := s.recordsAfter replica.records a.call }
            (s.calledId a.call),
          after.world⟩

/-- The step succeeds. -/
def Succeeds (d : Deployment T R) : DeploymentStep → Prop
  | .start outage =>
    ((settings.aggregate participantService).init
      ((⟨[], d.world⟩ : RunningService T R).during outage).world).1 = .ok ()
  | .call i a => ∀ replica, d.replicas[i]? = some replica →
    (settings.perform participantService (d.serviceOf replica a.outage) a.call).1 = .ok ()

/-- The adapters are those of the records, and the records under an id about which only the
instance itself has served calls are those of the registry. -/
structure Follows (replica : Replica T R) (oracles : List Oracle) : Prop where
  built : List.Forall₂ settings.BuiltFor replica.records replica.adapters
  agrees : ∀ id, id ∉ replica.changedElsewhere →
    replica.records.filter (fun o => o.id = id) = oracles.filter fun o => o.id = id

/-- The registry has distinct ids, and every instance follows it. -/
structure Consistent (d : Deployment T R) : Prop where
  nodup : (d.world.finder.oracles.map Oracle.id).Nodup
  follows : ∀ replica ∈ d.replicas, settings.Follows replica d.world.finder.oracles

variable {settings participantService} {d : Deployment T R} {replica : Replica T R}
  {oracles : List Oracle}

theorem filter_filter_of_ne {id other : String} (h : other ≠ id) (oracles : List Oracle) :
    (oracles.filter fun o => o.id ≠ id).filter (fun o => o.id = other) =
      oracles.filter fun o => o.id = other := by
  rw [List.filter_filter]
  apply List.filter_congr
  intro oracle _
  by_cases hid : oracle.id = other
  · simp [hid, h]
  · simp [hid]

/-- Removing the only oracle of an id leaves those of the other ids. -/
theorem eraseP_eq_filter (hnodup : (oracles.map Oracle.id).Nodup) (id : String) :
    oracles.eraseP (fun o => o.id = id) = oracles.filter fun o => o.id ≠ id := by
  induction oracles with
  | nil => rfl
  | cons oracle oracles ih =>
    rw [List.map_cons, List.nodup_cons] at hnodup
    by_cases hid : oracle.id = id
    · have hrest : ∀ other ∈ oracles, decide (other.id ≠ id) = true := by
        intro other hother
        apply decide_eq_true
        rintro rfl
        exact hnodup.1 (hid ▸ List.mem_map_of_mem hother)
      rw [List.eraseP_cons_of_pos (by simpa using hid),
        List.filter_cons_of_neg (by simpa using hid), List.filter_eq_self.mpr hrest]
    · rw [List.eraseP_cons_of_neg (by simpa using hid),
        List.filter_cons_of_pos (by simpa using hid), ih hnodup.2]

/-- Another instance has registered or removed an oracle. -/
theorem Follows.elsewhere (h : settings.Follows replica oracles) {id : String}
    {after : List Oracle}
    (hafter : ∀ other, other ≠ id →
      after.filter (fun o => o.id = other) = oracles.filter fun o => o.id = other) :
    settings.Follows { replica with changedElsewhere := id :: replica.changedElsewhere } after := by
  refine ⟨h.built, fun other hother => ?_⟩
  obtain ⟨hne, hold⟩ := not_or.mp (mt List.mem_cons.mpr hother)
  rw [hafter other hne]
  exact h.agrees other hold

/-- The instance itself has registered an oracle. -/
theorem Follows.add (h : settings.Follows replica oracles) {oracle : Oracle}
    {adapter : IOracleProviderAdapter (ServiceWorld T R)}
    (hbuilt : settings.BuiltFor oracle adapter) :
    settings.Follows { replica with
      adapters := replica.adapters ++ [adapter]
      records := replica.records ++ [oracle] } (oracles ++ [oracle]) := by
  refine ⟨List.rel_append h.built (.cons hbuilt .nil), fun id hid => ?_⟩
  rw [List.filter_append, List.filter_append, h.agrees id hid]

/-- The instance itself has removed an oracle. -/
theorem Follows.remove (h : settings.Follows replica oracles) (id : String) :
    settings.Follows { replica with
      adapters := replica.adapters.filter fun o => o.oracleId ≠ id
      records := replica.records.filter fun o => o.id ≠ id }
      (oracles.filter fun o => o.id ≠ id) := by
  refine ⟨?_, fun other hother => ?_⟩
  · apply List.rel_filter _ h.built
    intro record adapter hbuilt
    show decide (record.id ≠ id) = true ↔ decide (adapter.oracleId ≠ id) = true
    rw [hbuilt.oracleId_eq]
  · by_cases hid : other = id
    · have hnone : ∀ records : List Oracle,
          (records.filter fun o => o.id ≠ id).filter (fun o => o.id = other) = [] := by
        intro records
        rw [List.filter_filter, List.filter_eq_nil_iff]
        intro record _
        simp [hid]
      rw [hnone, hnone]
    · rw [filter_filter_of_ne hid, filter_filter_of_ne hid]
      exact h.agrees other hother

/-- One instance has served a successful call about `id`. -/
theorem follows_replicasAfter {replicas : List (Replica T R)} {i : ℕ} {served : Replica T R}
    {id : String} {after : List Oracle}
    (h : ∀ replica ∈ replicas, settings.Follows replica oracles)
    (hserved : settings.Follows served after)
    (hafter : ∀ other, other ≠ id →
      after.filter (fun o => o.id = other) = oracles.filter fun o => o.id = other) :
    ∀ replica ∈ replicasAfter replicas i served id, settings.Follows replica after := by
  intro replica hreplica
  obtain ⟨j, hj, rfl⟩ := List.mem_mapIdx.mp hreplica
  by_cases hji : j = i
  · rw [if_pos hji]
    exact hserved
  · rw [if_neg hji]
    exact (h _ (List.getElem_mem hj)).elsewhere hafter

/-! ## Runs of a deployment -/

theorem Consistent.start (h : settings.Consistent d) {outage : Outage}
    (hsucceeds : settings.Succeeds participantService d (.start outage)) :
    settings.Consistent (settings.deploymentStep participantService d (.start outage)) := by
  simp only [Succeeds] at hsucceeds
  simp only [deploymentStep]
  rcases hinit : (settings.aggregate participantService).init
    ((⟨[], d.world⟩ : RunningService T R).during outage).world with ⟨_ | _, agg, world⟩
  · rw [hinit] at hsucceeds
    cases hsucceeds
  · obtain ⟨rfl, hbuilt⟩ := loaded_of_init hinit
    refine ⟨h.nodup, fun replica hreplica => ?_⟩
    rcases List.mem_append.mp hreplica with hold | hnew
    · exact h.follows replica hold
    · obtain rfl := List.mem_singleton.mp hnew
      exact ⟨hbuilt, fun _ _ => rfl⟩

/-- **One call.** A successful call keeps the ids distinct and the instance that serves it
following the registry, and concerns no other id. -/
theorem Follows.serve {s : RunningService T R} (h : settings.Follows replica s.world.finder.oracles)
    (hadapters : replica.adapters = s.adapters) (hnodup : s.registeredIds.Nodup)
    {call : AdminCall} {after : RunningService T R}
    (hperform : settings.perform participantService s call = (.ok (), after)) :
    after.registeredIds.Nodup ∧
      settings.Follows { replica with
        adapters := after.adapters
        records := s.recordsAfter replica.records call } after.world.finder.oracles ∧
      ∀ other, other ≠ s.calledId call →
        after.world.finder.oracles.filter (fun o => o.id = other) =
          s.world.finder.oracles.filter fun o => o.id = other := by
  cases call with
  | addOracle oracle randomUUID =>
    rcases settings.perform_addOracle_cases participantService s oracle randomUUID with
      ⟨-, error, hcase⟩ | ⟨hregisters, adapter, hbuilt, ⟨-, hcase⟩ | ⟨-, error, hcase⟩⟩
    · cases hcase.symm.trans hperform
    · obtain ⟨-, rfl⟩ := Prod.mk.inj (hcase.symm.trans hperform)
      have hadded := h.add hbuilt
      rw [hadapters] at hadded
      refine ⟨?_, hadded, fun other hother => ?_⟩
      · show ((s.world.finder.oracles ++ [newOracle oracle _]).map Oracle.id).Nodup
        rw [List.map_append, List.map_singleton, ← List.concat_eq_append]
        exact hnodup.concat (newOracle_id_not_mem randomUUID hregisters)
      · have hne : (newOracle oracle (randomUUID.draw s.registeredIds)).id ≠ other := hother.symm
        show (s.world.finder.oracles ++ [newOracle oracle _]).filter _ = _
        rw [List.filter_append, List.filter_cons_of_neg (by simpa using hne)]
        exact List.append_nil _
    · cases hcase.symm.trans hperform
  | removeOracle id =>
    rcases settings.perform_removeOracle_cases participantService s id with
      ⟨-, error, hcase⟩ | ⟨-, hcase⟩
    · cases hcase.symm.trans hperform
    · obtain ⟨-, rfl⟩ := Prod.mk.inj (hcase.symm.trans hperform)
      have hremoved := h.remove id
      rw [hadapters, ← eraseP_eq_filter hnodup] at hremoved
      refine ⟨hnodup.sublist (List.eraseP_sublist.map _), hremoved, fun other hother => ?_⟩
      show (s.world.finder.oracles.eraseP fun o => o.id = id).filter _ = _
      rw [eraseP_eq_filter hnodup]
      exact filter_filter_of_ne hother _

theorem Consistent.call (h : settings.Consistent d) {i : ℕ} {a : AdminStep}
    (hsucceeds : settings.Succeeds participantService d (.call i a)) :
    settings.Consistent (settings.deploymentStep participantService d (.call i a)) := by
  simp only [Succeeds] at hsucceeds
  simp only [deploymentStep]
  cases hi : d.replicas[i]? with
  | none => exact h
  | some replica =>
    have hserved := hsucceeds replica hi
    dsimp only
    rcases hperform : settings.perform participantService (d.serviceOf replica a.outage) a.call
      with ⟨_ | _, after⟩
    · rw [hperform] at hserved
      cases hserved
    · have hdistinct : (d.serviceOf replica a.outage).registeredIds.Nodup := h.nodup
      obtain ⟨hnodup, hfollows, hothers⟩ :=
        (h.follows replica (List.mem_of_getElem? hi)).serve rfl hdistinct hperform
      exact ⟨hnodup, follows_replicasAfter h.follows hfollows hothers⟩

/-- A run of successful steps leaves every instance following the registry. -/
theorem consistent_run {world : ServiceWorld T R} {steps : List DeploymentStep}
    (hids : (world.finder.oracles.map Oracle.id).Nodup)
    (hsucceeds : Along (settings.deploymentStep participantService)
      (settings.Succeeds participantService) ⟨[], world⟩ steps) :
    settings.Consistent (run (settings.deploymentStep participantService) ⟨[], world⟩ steps) := by
  have hstart : settings.Consistent (⟨[], world⟩ : Deployment T R) :=
    ⟨hids, fun _ h => (by cases h)⟩
  apply run_invariant_along settings.Consistent _ steps _ hstart hsucceeds
  intro d a h ha
  cases a with
  | start outage => exact h.start ha
  | call i a => exact h.call ha

theorem find?_of_builtFor {records : List Oracle}
    {adapters : List (IOracleProviderAdapter (ServiceWorld T R))}
    (h : List.Forall₂ settings.BuiltFor records adapters) (id : String) :
    (records.find? (fun o => o.id = id) = none ∧
        adapters.find? (fun adapter => adapter.oracleId = id) = none) ∨
      ∃ record adapter, records.find? (fun o => o.id = id) = some record ∧
        adapters.find? (fun adapter => adapter.oracleId = id) = some adapter ∧
        settings.BuiltFor record adapter := by
  induction h with
  | nil => exact Or.inl ⟨rfl, rfl⟩
  | @cons record adapter records adapters hbuilt _ ih =>
    by_cases hid : record.id = id
    · refine Or.inr ⟨record, adapter, List.find?_cons_of_pos (by simpa using hid),
        List.find?_cons_of_pos ?_, hbuilt⟩
      simpa [hbuilt.oracleId_eq] using hid
    · rw [List.find?_cons_of_neg (by simpa using hid),
        List.find?_cons_of_neg (by simpa [hbuilt.oracleId_eq] using hid)]
      exact ih

variable (settings participantService replica) in
/-- The instance routes the party through the adapter that it built from the record, or finds
that it has no adapter. -/
def RoutesBy (partyType currency : JsString) (w w' : ServiceWorld T R) : Option Oracle → Prop
  | none => ∃ message, (settings.loaded participantService replica.adapters).getOracleAdapter
      partyType currency w = (.error ⟨.noSuchOracleAdapterError, message⟩, w')
  | some record => ∃ adapter, (settings.loaded participantService
      replica.adapters).getOracleAdapter partyType currency w = (.ok adapter, w') ∧
        settings.BuiltFor record adapter

theorem routesBy_recordOf
    (hbuilt : List.Forall₂ settings.BuiltFor replica.records replica.adapters)
    {partyType currency : JsString} {w w' : ServiceWorld T R} {oracle : Oracle}
    (hget : (settings.loaded participantService replica.adapters).oracleFinder.getOracle
      partyType currency w = (.ok (some oracle), w')) :
    settings.RoutesBy participantService replica partyType currency w w'
      (replica.recordOf oracle) := by
  rw [Replica.recordOf]
  rcases find?_of_builtFor hbuilt oracle.id with
    ⟨hrecord, hadapter⟩ | ⟨record, adapter, hrecord, hadapter, hfor⟩
  · have hnone : (settings.loaded participantService
        replica.adapters).oracleProvidersAdapters.find?
          (fun adapter => adapter.oracleId = oracle.id) = none := hadapter
    rw [hrecord]
    exact ⟨_, by simp only [getOracleAdapter, hget, hnone]; rfl⟩
  · have hsome : (settings.loaded participantService
        replica.adapters).oracleProvidersAdapters.find?
          (fun adapter => adapter.oracleId = oracle.id) = some adapter := hadapter
    rw [hrecord]
    refine ⟨adapter, ?_, hfor⟩
    simp only [getOracleAdapter, hget, hsome]

omit [LinearOrder T] [Add T] in
theorem recordOf_eq_of_agrees
    (hagrees : replica.records.filter (fun o => o.id = oracle.id) =
      oracles.filter fun o => o.id = oracle.id)
    (hnodup : (oracles.map Oracle.id).Nodup) (hmem : oracle ∈ oracles) :
    replica.recordOf oracle = some oracle := by
  have hheld : oracle ∈ replica.records.filter fun o => o.id = oracle.id := by
    rw [hagrees]
    exact List.mem_filter.mpr ⟨hmem, decide_eq_true rfl⟩
  rw [Replica.recordOf]
  cases hfind : replica.records.find? (fun o => o.id = oracle.id) with
  | none =>
    obtain ⟨hin, hid⟩ := List.mem_filter.mp hheld
    exact absurd hid (List.find?_eq_none.mp hfind oracle hin)
  | some record =>
    have hid : record.id = oracle.id := by simpa using List.find?_some hfind
    have hrecord : record ∈ oracles.filter fun o => o.id = oracle.id := by
      rw [← hagrees]
      exact List.mem_filter.mpr ⟨List.mem_of_find?_eq_some hfind, decide_eq_true hid⟩
    exact congrArg some
      (List.inj_on_of_nodup_map hnodup (List.mem_filter.mp hrecord).1 hmem hid)

/-- **Routing on every instance.** After any run of successful starts and calls, an instance
routes to an oracle of the registry through its own record of that id, and that is the
registry's record unless another instance has served a call about the id meanwhile. -/
theorem routes_by_own_record (settings : OracleAdapterFactory T R)
    (participantService : IParticipantServiceAdapter R) (world : ServiceWorld T R)
    (steps : List DeploymentStep) (hids : (world.finder.oracles.map Oracle.id).Nodup)
    (hsucceeds : Along (settings.deploymentStep participantService)
      (settings.Succeeds participantService) ⟨[], world⟩ steps)
    (d : Deployment T R) (hrun : d = run (settings.deploymentStep participantService)
      ⟨[], world⟩ steps) :
    ∀ replica ∈ d.replicas, ∀ outage partyType currency oracle w',
      (settings.loaded participantService replica.adapters).oracleFinder.getOracle partyType
          currency (d.serviceOf replica outage).world = (.ok (some oracle), w') →
        settings.RoutesBy participantService replica partyType currency
            (d.serviceOf replica outage).world w' (replica.recordOf oracle) ∧
          (oracle.id ∉ replica.changedElsewhere → replica.recordOf oracle = some oracle) := by
  subst hrun
  intro replica hreplica outage partyType currency oracle w' hget
  have hconsistent := consistent_run hids hsucceeds
  have hfollows := hconsistent.follows replica hreplica
  have hmem : oracle ∈ ((run (settings.deploymentStep participantService)
      ⟨[], world⟩ steps).serviceOf replica outage).world.finder.oracles :=
    mem_of_finder_getOracle hget
  refine ⟨routesBy_recordOf hfollows.built hget, fun hlocal => ?_⟩
  exact recordOf_eq_of_agrees (hfollows.agrees oracle.id hlocal) hconsistent.nodup hmem

/-- A built-in oracle for mobile numbers. -/
def sampleBuiltin : Oracle := ⟨"1", .str "builtin", .builtin, .str "MSISDN", .null, .null⟩

/-- Two instances start, and the first one registers the oracle. -/
def sampleDeployment : List DeploymentStep :=
  [.start Outage.none, .start Outage.none, .call 0 ⟨Outage.none, .addOracle
    ⟨.str "1", .str "builtin", .builtin, .str "MSISDN", .null, .null⟩ UuidSource.zeros⟩]

/-- The instance that has registered the oracle. -/
def sampleReplica : Replica ℕ Unit :=
  ⟨[(MongoOracleProviderRepo.adapter ⟨sampleBuiltin, 10⟩).on ServiceWorld.builtinPart],
    [sampleBuiltin], []⟩

theorem succeeds_sampleDeployment : Along (sampleSettings.deploymentStep sampleParticipants)
    (sampleSettings.Succeeds sampleParticipants) ⟨[], sampleWorld⟩ sampleDeployment := by
  refine ⟨rfl, rfl, fun replica hreplica => ?_, trivial⟩
  obtain rfl := Option.some.inj hreplica
  rfl

/-- The instance that has registered the oracle routes to it. -/
theorem routes_by_own_record_sample :
    sampleSettings.RoutesBy sampleParticipants sampleReplica (.str "MSISDN") .null
      (sampleWorld.withOracles [sampleBuiltin]) (sampleWorld.withOracles [sampleBuiltin])
      (sampleReplica.recordOf sampleBuiltin) :=
  (routes_by_own_record sampleSettings sampleParticipants sampleWorld sampleDeployment
    List.nodup_nil succeeds_sampleDeployment _ rfl sampleReplica (List.mem_cons_self ..)
    Outage.none (.str "MSISDN") .null sampleBuiltin _ rfl).1

/-- The second instance has no adapter for the oracle that the first one has registered. -/
theorem not_forall_routes :
    ¬ ∀ (settings : OracleAdapterFactory ℕ Unit)
      (participantService : IParticipantServiceAdapter Unit) (world : ServiceWorld ℕ Unit)
      (steps : List DeploymentStep), (world.finder.oracles.map Oracle.id).Nodup →
      Along (settings.deploymentStep participantService)
        (settings.Succeeds participantService) ⟨[], world⟩ steps →
      ∀ d, d = run (settings.deploymentStep participantService) ⟨[], world⟩ steps →
      ∀ replica ∈ d.replicas, ∀ outage partyType currency oracle w',
        (settings.loaded participantService replica.adapters).oracleFinder.getOracle partyType
            currency (d.serviceOf replica outage).world = (.ok (some oracle), w') →
          settings.RoutesBy participantService replica partyType currency
            (d.serviceOf replica outage).world w' (some oracle) := by
  intro h
  obtain ⟨adapter, hroutes, -⟩ := h sampleSettings sampleParticipants sampleWorld
    sampleDeployment List.nodup_nil succeeds_sampleDeployment _ rfl ⟨[], [], ["1"]⟩
    (List.mem_cons_of_mem _ (List.mem_cons_self ..)) Outage.none (.str "MSISDN") .null
    sampleBuiltin _ rfl
  cases hroutes

end OracleAdapterFactory

end AccountLookup

/-
# Adapters and their connections

The service once more, with the connections that its adapters hold. The factory gives each
adapter clients of its own, so an adapter is known by its number. The adapter of a built-in
oracle opens a Mongo connection and then a Redis connection; its `destroy` closes the Mongo
connection alone. Everything else is as in the service without connections.
-/

import AccountLookup.Service.RegistryRuns

namespace AccountLookup

/-- A service world with the connections of its adapters. -/
structure ConnectedWorld (T R : Type) where
  service : ServiceWorld T R
  /-- How many adapters have been built. -/
  created : ℕ
  /-- The adapters with an open Mongo connection. -/
  mongo : List ℕ
  /-- The adapters with an open Redis connection. -/
  redis : List ℕ
  /-- The adapters that have been destroyed. -/
  destroyed : List ℕ

namespace ConnectedWorld

variable {T R : Type}

/-- A process that has not connected to anything. -/
def fresh (service : ServiceWorld T R) : ConnectedWorld T R := ⟨service, 0, [], [], []⟩

/-- The world with other oracles in the registry. -/
def withOracles (w : ConnectedWorld T R) (oracles : List Oracle) : ConnectedWorld T R :=
  { w with service := w.service.withOracles oracles }

def servicePart : Component (ConnectedWorld T R) (ServiceWorld T R) where
  get w := w.service
  set w service := { w with service := service }
  get_set _ _ := rfl
  set_get _ := rfl

/-- A call on the service leaves the connections alone. -/
theorem on_servicePart_set {α : Type} {call : Call (ServiceWorld T R) α} {w : ConnectedWorld T R}
    {outcome : Except JsError α} {service : ServiceWorld T R}
    (h : call w.service = (outcome, service)) :
    call.on servicePart w = (outcome, { w with service := service }) := by
  simp only [Call.on, servicePart, h]

theorem on_servicePart {α : Type} {call : Call (ServiceWorld T R) α} {w : ConnectedWorld T R}
    {outcome : Except JsError α} (h : call w.service = (outcome, w.service)) :
    call.on servicePart w = (outcome, w) :=
  on_servicePart_set h

/-- A search of the registry that finds nothing under a condition, and otherwise fails or
finds something, does the same beside the connections. -/
theorem on_servicePart_cases {call : Call (ServiceWorld T R) (Option Oracle)}
    {w : ConnectedWorld T R} {Free : Prop}
    (h : (Free ∧ call w.service = (.ok none, w.service)) ∨
      ¬ Free ∧ ((∃ error, call w.service = (.error error, w.service)) ∨
        ∃ found, call w.service = (.ok (some found), w.service))) :
    (Free ∧ call.on servicePart w = (.ok none, w)) ∨
      ¬ Free ∧ ((∃ error, call.on servicePart w = (.error error, w)) ∨
        ∃ found, call.on servicePart w = (.ok (some found), w)) := by
  rcases h with ⟨hfree, hcall⟩ | ⟨htaken, ⟨error, hcall⟩ | ⟨found, hcall⟩⟩
  · exact Or.inl ⟨hfree, on_servicePart hcall⟩
  · exact Or.inr ⟨htaken, Or.inl ⟨error, on_servicePart hcall⟩⟩
  · exact Or.inr ⟨htaken, Or.inr ⟨found, on_servicePart hcall⟩⟩

end ConnectedWorld

/-- An adapter that the factory has built: its number and its oracle. -/
structure BuiltAdapter where
  number : ℕ
  oracle : Oracle

namespace BuiltAdapter

variable {T R : Type} (built : BuiltAdapter)

/-- The initialisation of the adapter of a built-in oracle. -/
def connect : Call (ConnectedWorld T R) Unit := fun w =>
  match w.service.builtin.failure .mongoConnect with
  | some message =>
    (.error ⟨.unableToInitOracleProvider, s!"Unable to connect to the database: {message}"⟩, w)
  | none =>
    match w.service.builtin.failure .redisConnect with
    | some message => (.error ⟨.external, message⟩, { w with mongo := built.number :: w.mongo })
    | none =>
      (.ok (), { w with
        mongo := built.number :: w.mongo
        redis := built.number :: w.redis })

/-- What its `destroy` does. -/
def close : Call (ConnectedWorld T R) Unit := fun w =>
  match w.service.builtin.failure .mongoClose with
  | some message =>
    (.error ⟨.unableToCloseDatabaseConnectionError,
      s!"Unable to close database connection: {message}"⟩, w)
  | none => (.ok (), { w with mongo := w.mongo.filter fun number => number ≠ built.number })

/-- A `destroy` that is taken down when it returns. -/
def destroyed (destroy : Call (ConnectedWorld T R) Unit) : Call (ConnectedWorld T R) Unit :=
  fun w =>
    match destroy w with
    | (.error error, w) => (.error error, w)
    | (.ok _, w) => (.ok (), { w with destroyed := built.number :: w.destroyed })

/-- The adapter with its connections. -/
def connected (base : IOracleProviderAdapter (ServiceWorld T R)) :
    IOracleProviderAdapter (ConnectedWorld T R) :=
  let adapter := base.on ConnectedWorld.servicePart
  { adapter with
    init := if built.oracle.type = .builtin then built.connect else adapter.init
    destroy :=
      built.destroyed (if built.oracle.type = .builtin then built.close else adapter.destroy) }

/-- Up to what is taken down about connections, a built-in adapter is initialised and
destroyed as before. -/
theorem connect_service (w : ConnectedWorld T R) :
    ((built.connect w).1, (built.connect w).2.service) =
      (MongoOracleProviderRepo.init.on ServiceWorld.builtinPart) w.service := by
  simp only [connect, Call.on, MongoOracleProviderRepo.init, ServiceWorld.builtinPart]
  cases w.service.builtin.failure .mongoConnect with
  | some message => rfl
  | none => cases w.service.builtin.failure .redisConnect <;> rfl

theorem close_service (w : ConnectedWorld T R) :
    ((built.close w).1, (built.close w).2.service) =
      (MongoOracleProviderRepo.destroy.on ServiceWorld.builtinPart) w.service := by
  simp only [close, Call.on, MongoOracleProviderRepo.destroy, ServiceWorld.builtinPart]
  cases w.service.builtin.failure .mongoClose <;> rfl

end BuiltAdapter

namespace OracleAdapterFactory

open AccountLookupAggregate

variable {T R : Type} [LinearOrder T] [Add T] (settings : OracleAdapterFactory T R)
  (participantService : IParticipantServiceAdapter R)

/-- Build the next adapter. -/
def createConnected (oracle : Oracle) :
    Call (ConnectedWorld T R) (IOracleProviderAdapter (ConnectedWorld T R)) := fun w =>
  match settings.create oracle w.service with
  | (.error error, service) => (.error error, { w with service := service })
  | (.ok base, service) =>
    (.ok ((BuiltAdapter.mk w.created oracle).connected base),
      { w with service := service, created := w.created + 1 })

/-- The aggregate of the service with the given adapters loaded. -/
def loadedConnected (adapters : List (IOracleProviderAdapter (ConnectedWorld T R))) :
    AccountLookupAggregate (ConnectedWorld T R) where
  oracleFinder := (settings.aggregate participantService).oracleFinder.on ConnectedWorld.servicePart
  oracleProvidersFactory := ⟨settings.createConnected⟩
  participantService :=
    (settings.aggregate participantService).participantService.on ConnectedWorld.servicePart
  oracleProvidersAdapters := adapters

/-- The adapter is what the factory has built under a number for an oracle. -/
def IsBuilt (built : BuiltAdapter) (adapter : IOracleProviderAdapter (ConnectedWorld T R)) : Prop :=
  ∃ base, settings.BuiltFor built.oracle base ∧ adapter = built.connected base

variable {settings} in
theorem IsBuilt.oracleId_eq {built : BuiltAdapter}
    {adapter : IOracleProviderAdapter (ConnectedWorld T R)} (h : settings.IsBuilt built adapter) :
    adapter.oracleId = built.oracle.id := by
  obtain ⟨base, hbase, rfl⟩ := h
  exact hbase.oracleId_eq

/-- What the initialisation of an adapter leaves of the connections. That of a built-in one
opens none and fails, or opens the Mongo connection and fails, or opens both. -/
inductive Opened (built : BuiltAdapter) (w : ConnectedWorld T R) :
    Except JsError Unit → ConnectedWorld T R → Prop
  | remote (outcome : Except JsError Unit) (htype : built.oracle.type ≠ .builtin) :
      Opened built w outcome w
  | none (error : JsError) (hmongo : w.service.builtin.failure .mongoConnect ≠ none) :
      Opened built w (.error error) w
  | mongo (error : JsError) (htype : built.oracle.type = .builtin)
      (hmongo : w.service.builtin.failure .mongoConnect = none) :
      Opened built w (.error error) { w with mongo := built.number :: w.mongo }
  | both (htype : built.oracle.type = .builtin)
      (hmongo : w.service.builtin.failure .mongoConnect = none) :
      Opened built w (.ok ()) { w with
        mongo := built.number :: w.mongo
        redis := built.number :: w.redis }

variable {settings} {built : BuiltAdapter} {adapter : IOracleProviderAdapter (ConnectedWorld T R)}

theorem IsBuilt.opened (h : settings.IsBuilt built adapter) (w : ConnectedWorld T R) :
    Opened built w (adapter.init w).1 (adapter.init w).2 := by
  obtain ⟨base, hbase, rfl⟩ := h
  by_cases htype : built.oracle.type = .builtin
  · simp only [BuiltAdapter.connected, if_pos htype, BuiltAdapter.connect]
    cases hmongo : w.service.builtin.failure .mongoConnect with
    | some message => exact .none _ (hmongo ▸ Option.some_ne_none _)
    | none =>
      cases w.service.builtin.failure .redisConnect with
      | some message => exact .mongo _ htype hmongo
      | none => exact .both htype hmongo
  · simp only [BuiltAdapter.connected, if_neg htype]
    have hinit : ∃ outcome, (base.on ConnectedWorld.servicePart).init w = (outcome, w) := by
      by_cases hstarts : AdapterStarts w.service.builtin built.oracle
      · exact ⟨_, ConnectedWorld.on_servicePart (hbase.starts w.service hstarts)⟩
      · obtain ⟨error, herror⟩ := hbase.fails w.service hstarts
        exact ⟨_, ConnectedWorld.on_servicePart herror⟩
    obtain ⟨outcome, houtcome⟩ := hinit
    rw [houtcome]
    exact .remote outcome htype

/-- Destroying an adapter closes at most its own Mongo connection. -/
theorem IsBuilt.destroy_connections (h : settings.IsBuilt built adapter)
    (w : ConnectedWorld T R) :
    (adapter.destroy w).2.redis = w.redis ∧
      ((adapter.destroy w).2.mongo = w.mongo ∨
        (adapter.destroy w).2.mongo = w.mongo.filter fun number => number ≠ built.number) := by
  obtain ⟨base, hbase, rfl⟩ := h
  by_cases htype : built.oracle.type = .builtin
  · simp only [BuiltAdapter.connected, if_pos htype, BuiltAdapter.destroyed, BuiltAdapter.close]
    cases w.service.builtin.failure .mongoClose with
    | some message => exact ⟨rfl, Or.inl rfl⟩
    | none => exact ⟨rfl, Or.inr rfl⟩
  · simp only [BuiltAdapter.connected, if_neg htype, BuiltAdapter.destroyed,
      IOracleProviderAdapter.on, Call.on]
    rcases base.destroy (ConnectedWorld.servicePart.get w) with ⟨error | value, after⟩
    · exact ⟨rfl, Or.inl rfl⟩
    · exact ⟨rfl, Or.inl rfl⟩

end OracleAdapterFactory

/-! ## The service -/

/-- A running service with the connections of its adapters. -/
structure ConnectedService (T R : Type) where
  adapters : List (IOracleProviderAdapter (ConnectedWorld T R))
  world : ConnectedWorld T R

namespace ConnectedService

variable {T R : Type} (s : ConnectedService T R)

/-- The ids in the registry. -/
def registeredIds : List String := s.world.service.finder.oracles.map Oracle.id

/-- The service during an outage. -/
def during (outage : Outage) : ConnectedService T R :=
  { s with world := { s.world with service := { s.world.service with
      finder := { s.world.service.finder with failure := outage.finder }
      builtin := { s.world.service.builtin with failure := outage.builtin } } } }

/-- The service after it has built the next adapter and found the rest of the world so. -/
def built (service : ServiceWorld T R) : ConnectedService T R :=
  { s with world := { s.world with service := service, created := s.world.created + 1 } }

/-- The service after the initialisation of an adapter, which it loads if that succeeds. -/
def initialised (adapter : IOracleProviderAdapter (ConnectedWorld T R)) :
    Except JsError Unit × ConnectedService T R :=
  match adapter.init s.world with
  | (.error error, world) => (.error error, ⟨s.adapters, world⟩)
  | (.ok _, world) => (.ok (), ⟨s.adapters ++ [adapter], world⟩)

end ConnectedService

namespace OracleAdapterFactory

open AccountLookupAggregate

variable {T R : Type} [LinearOrder T] [Add T] (settings : OracleAdapterFactory T R)
  (participantService : IParticipantServiceAdapter R)

/-- The outcome of a call and the service after it. -/
def performConnected (s : ConnectedService T R) :
    AdminCall → Except JsError Unit × ConnectedService T R
  | .addOracle oracle randomUUID =>
    let outcome := (settings.loadedConnected participantService s.adapters).addOracle oracle
      (randomUUID.draw s.registeredIds) s.world
    (outcome.1.map fun _ => (), ⟨outcome.2.1.oracleProvidersAdapters, outcome.2.2⟩)
  | .removeOracle id =>
    let outcome := (settings.loadedConnected participantService s.adapters).removeOracle id s.world
    (outcome.1, ⟨outcome.2.1.oracleProvidersAdapters, outcome.2.2⟩)

/-- The service after one step. -/
def connectedStep (s : ConnectedService T R) (a : AdminStep) : ConnectedService T R :=
  (settings.performConnected participantService (s.during a.outage) a.call).2

variable (s : ConnectedService T R)

theorem createConnected_of_builtFor {oracle : Oracle}
    {base : IOracleProviderAdapter (ServiceWorld T R)} (h : settings.BuiltFor oracle base)
    (w : ConnectedWorld T R) :
    settings.createConnected oracle w =
      (.ok ((BuiltAdapter.mk w.created oracle).connected base),
        { w with created := w.created + 1 }) := by
  simp only [createConnected, h.created w.service]

theorem findNamedOracle_connected (oracle : AddOracleDTO) :
    (settings.loadedConnected participantService s.adapters).findNamedOracle oracle =
      ((settings.loaded participantService []).findNamedOracle oracle).on
        ConnectedWorld.servicePart := by
  unfold findNamedOracle
  cases oracle.id.nonEmpty? <;> rfl

theorem getOracleByName_connected (name : JsString) :
    (settings.loadedConnected participantService s.adapters).oracleFinder.getOracleByName name =
      ((settings.loaded participantService []).oracleFinder.getOracleByName name).on
        ConnectedWorld.servicePart := rfl

theorem finder_addOracle_connected (added : Oracle) :
    (settings.loadedConnected participantService s.adapters).oracleFinder.addOracle added =
      ((settings.loaded participantService []).oracleFinder.addOracle added).on
        ConnectedWorld.servicePart := rfl

/-- A registration initialises no adapter, or a new one once the oracle is in the registry. -/
theorem performConnected_addOracle_cases (oracle : AddOracleDTO) (randomUUID : UuidSource) :
    (¬ Registers s.world.service.finder oracle (randomUUID.draw s.registeredIds) ∧
        ∃ created, s.world.created ≤ created ∧
          (settings.performConnected participantService s (.addOracle oracle randomUUID)).2 =
            { s with world := { s.world with created := created } }) ∨
      Registers s.world.service.finder oracle (randomUUID.draw s.registeredIds) ∧
        ∃ adapter service, settings.IsBuilt
            ⟨s.world.created, newOracle oracle (randomUUID.draw s.registeredIds)⟩ adapter ∧
          service.builtin = s.world.service.builtin ∧
          (settings.performConnected participantService s (.addOracle oracle randomUUID)).2 =
            ((s.built service).initialised adapter).2 := by
  generalize huuid : randomUUID.draw s.registeredIds = uuid
  rcases ConnectedWorld.on_servicePart_cases
    (settings.findNamedOracle_cases participantService [] s.world.service oracle) with
    ⟨hidFree, hnamed⟩ | ⟨htaken, ⟨error, hnamed⟩ | ⟨found, hnamed⟩⟩
  · rcases ConnectedWorld.on_servicePart_cases
      (settings.getOracleByName_cases participantService [] s.world.service oracle.name) with
      ⟨hnameFree, hname⟩ | ⟨htaken, ⟨error, hname⟩ | ⟨found, hname⟩⟩
    · by_cases hsupported : ∀ value, oracle.type ≠ .other value
      · obtain ⟨base, hbase⟩ := settings.builtFor_of_supported
          (show ∀ value, (newOracle oracle uuid).type ≠ .other value from hsupported)
        have hfactory : (settings.loadedConnected participantService
            s.adapters).oracleProvidersFactory.create (newOracle oracle uuid) s.world = _ :=
          settings.createConnected_of_builtFor hbase s.world
        rcases settings.finder_addOracle_cases participantService [] s.world.service
            (newOracle oracle uuid) with ⟨hinsertable, hadd⟩ | ⟨hrejected, error, hadd⟩
        · refine Or.inr ⟨⟨hidFree, hnameFree, hsupported, hinsertable⟩, _,
            s.world.service.withOracles (s.world.service.finder.oracles ++
              [newOracle oracle uuid]), ⟨base, hbase, rfl⟩, rfl, ?_⟩
          have hadded := ConnectedWorld.on_servicePart_set
            (w := { s.world with created := s.world.created + 1 }) hadd
          simp only [performConnected, huuid, addOracle, findNamedOracle_connected, hnamed,
            getOracleByName_connected, hname, hfactory, finder_addOracle_connected, hadded,
            ConnectedService.initialised, ConnectedService.built]
          rcases IOracleProviderAdapter.init _ _ with ⟨error | value, after⟩ <;> rfl
        · have hfailed := ConnectedWorld.on_servicePart
            (w := { s.world with created := s.world.created + 1 }) hadd
          refine Or.inl ⟨fun h => hrejected h.insertable, s.world.created + 1, by omega, ?_⟩
          simp only [performConnected, huuid, addOracle, findNamedOracle_connected, hnamed,
            getOracleByName_connected, hname, hfactory, finder_addOracle_connected, hfailed]
          rfl
      · simp only [not_forall, not_not] at hsupported
        obtain ⟨value, htype⟩ := hsupported
        obtain ⟨error, hcreate⟩ := settings.create_of_other
          (show (newOracle oracle uuid).type = .other value from htype) s.world.service
        have hfactory : (settings.loadedConnected participantService
            s.adapters).oracleProvidersFactory.create (newOracle oracle uuid) s.world =
              (.error error, s.world) := by
          simp only [loadedConnected, createConnected, hcreate]
        refine Or.inl ⟨fun h => h.supported value htype, s.world.created, le_refl _, ?_⟩
        simp only [performConnected, huuid, addOracle, findNamedOracle_connected, hnamed,
          getOracleByName_connected, hname, hfactory]
        rfl
    · refine Or.inl ⟨fun h => htaken h.nameFree, s.world.created, le_refl _, ?_⟩
      simp only [performConnected, addOracle, findNamedOracle_connected, hnamed,
        getOracleByName_connected, hname]
      rfl
    · refine Or.inl ⟨fun h => htaken h.nameFree, s.world.created, le_refl _, ?_⟩
      simp only [performConnected, addOracle, findNamedOracle_connected, hnamed,
        getOracleByName_connected, hname]
      rfl
  · refine Or.inl ⟨fun h => htaken h.idFree, s.world.created, le_refl _, ?_⟩
    simp only [performConnected, addOracle, findNamedOracle_connected, hnamed]
    rfl
  · refine Or.inl ⟨fun h => htaken h.idFree, s.world.created, le_refl _, ?_⟩
    simp only [performConnected, addOracle, findNamedOracle_connected, hnamed]
    rfl

/-- A removal changes nothing, or takes the oracle and its adapters away; it destroys none. -/
theorem performConnected_removeOracle_cases (id : String) :
    (¬ Removes s.world.service.finder id ∧ ∃ error,
        settings.performConnected participantService s (.removeOracle id) = (.error error, s)) ∨
      Removes s.world.service.finder id ∧
        settings.performConnected participantService s (.removeOracle id) =
          (.ok (), ⟨s.adapters.filter fun o => o.oracleId ≠ id,
            s.world.withOracles (s.world.service.finder.oracles.eraseP fun o => o.id = id)⟩) := by
  simp only [performConnected, removeOracle, loadedConnected, aggregate, IOracleFinder.on, Call.on,
    MongoOracleFinderRepo.finder, MongoOracleFinderRepo.getOracleById,
    MongoOracleFinderRepo.removeOracle, ServiceWorld.finderPart, ConnectedWorld.servicePart]
  cases hfindById : s.world.service.finder.failure .findById with
  | some message =>
    exact Or.inl ⟨fun h => (by cases hfindById.symm.trans h.findById), _, rfl⟩
  | none =>
    dsimp only
    cases hfind : s.world.service.finder.oracles.find? (fun o => o.id = id) with
    | none =>
      refine Or.inl ⟨fun h => ?_, _, rfl⟩
      obtain ⟨oracle, horacle⟩ := h.found
      rw [hfind] at horacle
      cases horacle
    | some found =>
      dsimp only
      cases hdeleteOne : s.world.service.finder.failure .deleteOne with
      | some message =>
        exact Or.inl ⟨fun h => (by cases hdeleteOne.symm.trans h.deleteOne), _, rfl⟩
      | none =>
        simp only [hfind]
        exact Or.inr ⟨⟨hfindById, ⟨found, hfind⟩, hdeleteOne⟩, rfl⟩

end OracleAdapterFactory

end AccountLookup

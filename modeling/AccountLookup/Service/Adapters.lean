/-
# Building and loading adapters

What the factory, the start-up loop, the registration and the removal of oracles
do in a running service, whichever database and cache calls fail. An adapter can
be loaded when its kind is supported and its initialisation succeeds; that depends
on the oracle and on the reachability of the built-in stores alone.
-/

import Mathlib.Data.List.Forall2
import AccountLookup.Implementations.OracleAdapterFactory

namespace AccountLookup

variable {T R : Type}

/-- The world with other oracles in the registry. -/
def ServiceWorld.withOracles (w : ServiceWorld T R) (oracles : List Oracle) : ServiceWorld T R :=
  { w with finder := { w.finder with oracles := oracles } }

/-- The adapter of the oracle can be built and initialised. -/
def AdapterStarts (w : BuiltinWorld T) (oracle : Oracle) : Prop :=
  match oracle.type with
  | .builtin => w.failure .mongoConnect = none ∧ w.failure .redisConnect = none
  | .remoteHttp => oracle.endpoint.truthy = true
  | .other _ => False

/-- The oracle is of a kind that starts up whenever the stores are within reach. -/
def Startable (oracle : Oracle) : Prop :=
  oracle.type = .builtin ∨ oracle.type = .remoteHttp ∧ oracle.endpoint.truthy = true

theorem adapterStarts_iff_startable {w : BuiltinWorld T} {oracle : Oracle}
    (hmongo : w.failure .mongoConnect = none) (hredis : w.failure .redisConnect = none) :
    AdapterStarts w oracle ↔ Startable oracle := by
  cases htype : oracle.type with
  | builtin => simp [AdapterStarts, Startable, htype, hmongo, hredis]
  | remoteHttp => simp [AdapterStarts, Startable, htype]
  | other value => simp [AdapterStarts, Startable, htype]

/-- The search by id succeeds and finds no oracle with the id that the request
names, if it names one. -/
def IdFree (w : FinderWorld) (id : JsString) : Prop :=
  ∀ named, id.nonEmpty? = some named →
    w.failure .findById = none ∧ w.oracles.find? (fun o => o.id = named) = none

/-- The search by name succeeds and finds no oracle. -/
def NameFree (w : FinderWorld) (name : JsString) : Prop :=
  w.failure .findByName = none ∧ w.oracles.find? (fun o => fieldMatches o.name name) = none

/-- The insertion into the registry goes through. -/
def Insertable (w : FinderWorld) (oracle : Oracle) : Prop :=
  w.failure .findPresent = none ∧
    w.oracles.find? (MongoOracleFinderRepo.samePresent oracle) = none ∧
    w.failure .insertOne = none

/-- The registration of an oracle gets as far as the registry: no oracle has its id
or its name, its kind is supported, and the database calls succeed. -/
structure Registers (w : FinderWorld) (oracle : AddOracleDTO) (randomUUID : String) : Prop where
  idFree : IdFree w oracle.id
  nameFree : NameFree w oracle.name
  supported : ∀ value, oracle.type ≠ .other value
  insertable : Insertable w (AccountLookupAggregate.newOracle oracle randomUUID)

/-- The registry has an oracle with the id, and the database calls of a removal succeed. -/
structure Removes (w : FinderWorld) (id : String) : Prop where
  findById : w.failure .findById = none
  found : ∃ oracle, w.oracles.find? (fun o => o.id = id) = some oracle
  deleteOne : w.failure .deleteOne = none

namespace OracleAdapterFactory

open AccountLookupAggregate

variable [LinearOrder T] [Add T] (settings : OracleAdapterFactory T R)
  (participantService : IParticipantServiceAdapter R)

/-- The aggregate of the service with the given adapters loaded. -/
def loaded (adapters : List (IOracleProviderAdapter (ServiceWorld T R))) :
    AccountLookupAggregate (ServiceWorld T R) :=
  { settings.aggregate participantService with oracleProvidersAdapters := adapters }

/-- Every adapter in the list was built by the factory. -/
def AllCreated (adapters : List (IOracleProviderAdapter (ServiceWorld T R))) : Prop :=
  ∀ adapter ∈ adapters, ∃ oracle w, settings.create oracle w = (.ok adapter, w)

theorem allCreated_append {first second : List (IOracleProviderAdapter (ServiceWorld T R))}
    (hfirst : settings.AllCreated first) (hsecond : settings.AllCreated second) :
    settings.AllCreated (first ++ second) := by
  intro adapter hadapter
  rcases List.mem_append.mp hadapter with h | h
  · exact hfirst adapter h
  · exact hsecond adapter h

/-- What the factory builds for an oracle: an adapter with the oracle's id, whose
initialisation leaves the world alone. -/
structure BuiltFor (oracle : Oracle) (adapter : IOracleProviderAdapter (ServiceWorld T R)) :
    Prop where
  created : ∀ w, settings.create oracle w = (.ok adapter, w)
  oracleId_eq : adapter.oracleId = oracle.id
  starts : ∀ w : ServiceWorld T R, AdapterStarts w.builtin oracle → adapter.init w = (.ok (), w)
  fails : ∀ w : ServiceWorld T R, ¬ AdapterStarts w.builtin oracle →
    ∃ error, adapter.init w = (.error error, w)

variable {settings} in
theorem BuiltFor.allCreated {oracle : Oracle} {adapter : IOracleProviderAdapter (ServiceWorld T R)}
    (h : settings.BuiltFor oracle adapter) (w : ServiceWorld T R) :
    settings.AllCreated [adapter] := by
  intro other hother
  obtain rfl := List.mem_singleton.mp hother
  exact ⟨oracle, w, h.created w⟩

theorem builtFor_builtin {oracle : Oracle} (htype : oracle.type = .builtin) :
    settings.BuiltFor oracle ((MongoOracleProviderRepo.adapter
      ⟨oracle, settings.redisCacheDurationSecs⟩).on (ServiceWorld.builtinPart (R := R))) := by
  refine ⟨fun w => by simp only [create, htype], rfl, fun w h => ?_, fun w h => ?_⟩
  · simp only [AdapterStarts, htype] at h
    simp only [IOracleProviderAdapter.on, MongoOracleProviderRepo.adapter, Call.on,
      MongoOracleProviderRepo.init, ServiceWorld.builtinPart, h.1, h.2]
  · simp only [AdapterStarts, htype, not_and_or] at h
    simp only [IOracleProviderAdapter.on, MongoOracleProviderRepo.adapter, Call.on,
      MongoOracleProviderRepo.init, ServiceWorld.builtinPart]
    cases hmongo : w.builtin.failure .mongoConnect with
    | some message => exact ⟨_, rfl⟩
    | none =>
      cases hredis : w.builtin.failure .redisConnect with
      | some message => exact ⟨_, rfl⟩
      | none => exact absurd h (by simp [hmongo, hredis])

theorem builtFor_remoteHttp {oracle : Oracle} (htype : oracle.type = .remoteHttp) :
    settings.BuiltFor oracle ((HttpOracleProvider.adapter ⟨oracle, settings.axios⟩).on
      (ServiceWorld.remotePart (T := T))) := by
  refine ⟨fun w => by simp only [create, htype], rfl, fun w h => ?_, fun w h => ?_⟩
  · simp only [AdapterStarts, htype] at h
    simp only [IOracleProviderAdapter.on, HttpOracleProvider.adapter, Call.on,
      HttpOracleProvider.init, ServiceWorld.remotePart, if_pos h]
  · simp only [AdapterStarts, htype] at h
    exact ⟨_, by
      simp only [IOracleProviderAdapter.on, HttpOracleProvider.adapter, Call.on,
        HttpOracleProvider.init, ServiceWorld.remotePart, if_neg h]
      rfl⟩

theorem builtFor_of_supported {oracle : Oracle} (h : ∀ value, oracle.type ≠ .other value) :
    ∃ adapter, settings.BuiltFor oracle adapter := by
  cases htype : oracle.type with
  | builtin => exact ⟨_, settings.builtFor_builtin htype⟩
  | remoteHttp => exact ⟨_, settings.builtFor_remoteHttp htype⟩
  | other value => exact absurd htype (h value)

theorem create_of_other {oracle : Oracle} {value} (h : oracle.type = .other value)
    (w : ServiceWorld T R) : ∃ error, settings.create oracle w = (.error error, w) :=
  ⟨_, by simp only [create, h]; rfl⟩

variable (adapters : List (IOracleProviderAdapter (ServiceWorld T R))) (w : ServiceWorld T R)

theorem findNamedOracle_cases (oracle : AddOracleDTO) :
    (IdFree w.finder oracle.id ∧
        (settings.loaded participantService adapters).findNamedOracle oracle w = (.ok none, w)) ∨
      ¬ IdFree w.finder oracle.id ∧
        ((∃ error, (settings.loaded participantService adapters).findNamedOracle oracle w =
            (.error error, w)) ∨
          ∃ found, (settings.loaded participantService adapters).findNamedOracle oracle w =
            (.ok (some found), w)) := by
  simp only [findNamedOracle, IdFree]
  cases oracle.id.nonEmpty? with
  | none => exact Or.inl ⟨fun named h => (by cases h), rfl⟩
  | some named =>
    simp only [loaded, aggregate, IOracleFinder.on, Call.on, MongoOracleFinderRepo.finder,
      MongoOracleFinderRepo.getOracleById, ServiceWorld.finderPart, Option.some.injEq,
      forall_eq']
    cases w.finder.failure .findById with
    | some message => exact Or.inr ⟨fun h => (by cases h.1), Or.inl ⟨_, rfl⟩⟩
    | none =>
      cases w.finder.oracles.find? (fun o => o.id = named) with
      | some found => exact Or.inr ⟨fun h => (by cases h.2), Or.inr ⟨found, rfl⟩⟩
      | none => exact Or.inl ⟨⟨rfl, rfl⟩, rfl⟩

theorem getOracleByName_cases (name : JsString) :
    (NameFree w.finder name ∧
        (settings.loaded participantService adapters).oracleFinder.getOracleByName name w =
          (.ok none, w)) ∨
      ¬ NameFree w.finder name ∧
        ((∃ error, (settings.loaded participantService adapters).oracleFinder.getOracleByName
            name w = (.error error, w)) ∨
          ∃ found, (settings.loaded participantService adapters).oracleFinder.getOracleByName
            name w = (.ok (some found), w)) := by
  simp only [loaded, aggregate, IOracleFinder.on, Call.on, MongoOracleFinderRepo.finder,
    MongoOracleFinderRepo.getOracleByName, ServiceWorld.finderPart, NameFree]
  cases w.finder.failure .findByName with
  | some message => exact Or.inr ⟨fun h => (by cases h.1), Or.inl ⟨_, rfl⟩⟩
  | none =>
    cases w.finder.oracles.find? (fun o => fieldMatches o.name name) with
    | some found => exact Or.inr ⟨fun h => (by cases h.2), Or.inr ⟨found, rfl⟩⟩
    | none => exact Or.inl ⟨⟨rfl, rfl⟩, rfl⟩

theorem finder_addOracle_cases (added : Oracle) :
    (Insertable w.finder added ∧
        (settings.loaded participantService adapters).oracleFinder.addOracle added w =
          (.ok (), w.withOracles (w.finder.oracles ++ [added]))) ∨
      ¬ Insertable w.finder added ∧
        ∃ error, (settings.loaded participantService adapters).oracleFinder.addOracle added w =
          (.error error, w) := by
  simp only [loaded, aggregate, IOracleFinder.on, Call.on, MongoOracleFinderRepo.finder,
    MongoOracleFinderRepo.addOracle, ServiceWorld.finderPart, Insertable]
  cases w.finder.failure .findPresent with
  | some message => exact Or.inr ⟨fun h => (by cases h.1), _, rfl⟩
  | none =>
    cases w.finder.oracles.find? (MongoOracleFinderRepo.samePresent added) with
    | some found => exact Or.inr ⟨fun h => (by cases h.2.1), _, rfl⟩
    | none =>
      cases w.finder.failure .insertOne with
      | some message => exact Or.inr ⟨fun h => (by cases h.2.2), _, rfl⟩
      | none => exact Or.inl ⟨⟨rfl, rfl, rfl⟩, rfl⟩

/-- A registration either changes nothing, or has put the oracle into the registry
when it comes to the initialisation of its adapter. -/
theorem addOracle_cases (oracle : AddOracleDTO) (randomUUID : String) :
    (¬ Registers w.finder oracle randomUUID ∧
        ∃ error, (settings.loaded participantService adapters).addOracle oracle randomUUID w =
          (.error error, settings.loaded participantService adapters, w)) ∨
      Registers w.finder oracle randomUUID ∧
        ∃ adapter, settings.BuiltFor (newOracle oracle randomUUID) adapter ∧
          (settings.loaded participantService adapters).addOracle oracle randomUUID w =
            match adapter.init
                (w.withOracles (w.finder.oracles ++ [newOracle oracle randomUUID])) with
            | (.error error, w) => (.error error, settings.loaded participantService adapters, w)
            | (.ok _, w) =>
              (.ok (newOracle oracle randomUUID).id,
                settings.loaded participantService (adapters ++ [adapter]), w) := by
  rcases settings.findNamedOracle_cases participantService adapters w oracle with
    ⟨hidFree, hnamed⟩ | ⟨htaken, ⟨error, hnamed⟩ | ⟨found, hnamed⟩⟩
  · rcases settings.getOracleByName_cases participantService adapters w oracle.name with
      ⟨hnameFree, hname⟩ | ⟨htaken, ⟨error, hname⟩ | ⟨found, hname⟩⟩
    · by_cases hsupported : ∀ value, oracle.type ≠ .other value
      · obtain ⟨adapter, hbuilt⟩ := settings.builtFor_of_supported
          (show ∀ value, (newOracle oracle randomUUID).type ≠ .other value from hsupported)
        have hfactory : (settings.loaded participantService adapters).oracleProvidersFactory.create
            (newOracle oracle randomUUID) w = (.ok adapter, w) := hbuilt.created w
        rcases settings.finder_addOracle_cases participantService adapters w
            (newOracle oracle randomUUID) with ⟨hinsertable, hadd⟩ | ⟨hrejected, error, hadd⟩
        · refine Or.inr ⟨⟨hidFree, hnameFree, hsupported, hinsertable⟩, adapter, hbuilt, ?_⟩
          simp only [addOracle, hnamed, hname, hfactory, hadd]
          rcases adapter.init _ with ⟨_ | _, _⟩ <;> rfl
        · exact Or.inl ⟨fun h => hrejected h.insertable, error, by
            simp only [addOracle, hnamed, hname, hfactory, hadd]⟩
      · simp only [not_forall, not_not] at hsupported
        obtain ⟨value, htype⟩ := hsupported
        obtain ⟨error, hcreate⟩ := settings.create_of_other
          (show (newOracle oracle randomUUID).type = .other value from htype) w
        have hfactory : (settings.loaded participantService adapters).oracleProvidersFactory.create
            (newOracle oracle randomUUID) w = (.error error, w) := hcreate
        exact Or.inl ⟨fun h => h.supported value htype, error, by
          simp only [addOracle, hnamed, hname, hfactory]⟩
    · exact Or.inl ⟨fun h => htaken h.nameFree, _, by simp only [addOracle, hnamed, hname]; rfl⟩
    · exact Or.inl ⟨fun h => htaken h.nameFree, _, by simp only [addOracle, hnamed, hname]; rfl⟩
  · exact Or.inl ⟨fun h => htaken h.idFree, _, by simp only [addOracle, hnamed]; rfl⟩
  · exact Or.inl ⟨fun h => htaken h.idFree, _, by simp only [addOracle, hnamed]; rfl⟩

/-- A registration that got as far as the registry, with an adapter that can be
loaded. -/
theorem addOracle_of_starts {oracle : AddOracleDTO} {randomUUID : String}
    (hregisters : Registers w.finder oracle randomUUID)
    (hstarts : AdapterStarts w.builtin (newOracle oracle randomUUID)) :
    ∃ adapter : IOracleProviderAdapter (ServiceWorld T R),
      adapter.oracleId = (newOracle oracle randomUUID).id ∧
      (settings.loaded participantService adapters).addOracle oracle randomUUID w =
        (.ok (newOracle oracle randomUUID).id,
          settings.loaded participantService (adapters ++ [adapter]),
          w.withOracles (w.finder.oracles ++ [newOracle oracle randomUUID])) := by
  rcases settings.addOracle_cases participantService adapters w oracle randomUUID with
    ⟨hnot, -⟩ | ⟨-, adapter, hbuilt, hadd⟩
  · exact absurd hregisters hnot
  · refine ⟨adapter, hbuilt.oracleId_eq, ?_⟩
    rw [hadd, hbuilt.starts (w.withOracles (w.finder.oracles ++ [newOracle oracle randomUUID]))
      hstarts]

/-- A registration that got as far as the registry, with an adapter that cannot be
loaded. -/
theorem addOracle_of_not_starts {oracle : AddOracleDTO} {randomUUID : String}
    (hregisters : Registers w.finder oracle randomUUID)
    (hfails : ¬ AdapterStarts w.builtin (newOracle oracle randomUUID)) :
    ∃ error, (settings.loaded participantService adapters).addOracle oracle randomUUID w =
      (.error error, settings.loaded participantService adapters,
        w.withOracles (w.finder.oracles ++ [newOracle oracle randomUUID])) := by
  rcases settings.addOracle_cases participantService adapters w oracle randomUUID with
    ⟨hnot, -⟩ | ⟨-, adapter, hbuilt, hadd⟩
  · exact absurd hregisters hnot
  · obtain ⟨error, herror⟩ := hbuilt.fails
      (w.withOracles (w.finder.oracles ++ [newOracle oracle randomUUID])) hfails
    exact ⟨error, by rw [hadd, herror]⟩

theorem addOracle_of_not_registers {oracle : AddOracleDTO} {randomUUID : String}
    (h : ¬ Registers w.finder oracle randomUUID) :
    ∃ error, (settings.loaded participantService adapters).addOracle oracle randomUUID w =
      (.error error, settings.loaded participantService adapters, w) := by
  rcases settings.addOracle_cases participantService adapters w oracle randomUUID with
    ⟨-, hadd⟩ | ⟨hregisters, -⟩
  · exact hadd
  · exact absurd hregisters h

/-- A removal either changes nothing, or takes one oracle with the id out of the
registry and all adapters with the id out of the list. -/
theorem removeOracle_cases (id : String) :
    (¬ Removes w.finder id ∧ ∃ error,
        (settings.loaded participantService adapters).removeOracle id w =
          (.error error, settings.loaded participantService adapters, w)) ∨
      Removes w.finder id ∧
        (settings.loaded participantService adapters).removeOracle id w =
          (.ok (), settings.loaded participantService (adapters.filter fun o => o.oracleId ≠ id),
            w.withOracles (w.finder.oracles.eraseP fun o => o.id = id)) := by
  simp only [removeOracle, loaded, aggregate, IOracleFinder.on, Call.on,
    MongoOracleFinderRepo.finder, MongoOracleFinderRepo.getOracleById,
    MongoOracleFinderRepo.removeOracle, ServiceWorld.finderPart]
  cases hfindById : w.finder.failure .findById with
  | some message => exact Or.inl ⟨fun h => (by cases hfindById.symm.trans h.findById), _, rfl⟩
  | none =>
    dsimp only
    cases hfind : w.finder.oracles.find? (fun o => o.id = id) with
    | none =>
      refine Or.inl ⟨fun h => ?_, _, rfl⟩
      obtain ⟨oracle, horacle⟩ := h.found
      cases hfind.symm.trans horacle
    | some found =>
      dsimp only
      cases hdeleteOne : w.finder.failure .deleteOne with
      | some message => exact Or.inl ⟨fun h => (by cases hdeleteOne.symm.trans h.deleteOne), _, rfl⟩
      | none =>
        simp only [hfind]
        exact Or.inr ⟨⟨hfindById, ⟨found, hfind⟩, hdeleteOne⟩, rfl⟩

variable {settings participantService adapters w} in
/-- The finder returns an oracle of the registry. -/
theorem mem_of_finder_getOracle {w' : ServiceWorld T R} {partyType currency : JsString}
    {oracle : Oracle}
    (h : (settings.loaded participantService adapters).oracleFinder.getOracle partyType
      currency w = (.ok (some oracle), w')) : oracle ∈ w.finder.oracles := by
  have hfst : (MongoOracleFinderRepo.getOracle partyType currency w.finder).1 =
      .ok (some oracle) := congrArg Prod.fst h
  exact MongoOracleFinderRepo.mem_of_getOracle (Prod.ext hfst rfl)

/-! ## Loading the adapters of a list of oracles -/

variable {settings} in
/-- What the factory has built for a list of oracles. -/
theorem allCreated_of_builtFor {oracles : List Oracle}
    {adapters : List (IOracleProviderAdapter (ServiceWorld T R))} (w : ServiceWorld T R)
    (h : List.Forall₂ settings.BuiltFor oracles adapters) : settings.AllCreated adapters := by
  induction h with
  | nil => exact fun _ h => (by cases h)
  | cons hbuilt _ ih => exact settings.allCreated_append (hbuilt.allCreated w) ih

variable {settings} in
theorem map_oracleId_of_builtFor {oracles : List Oracle}
    {adapters : List (IOracleProviderAdapter (ServiceWorld T R))}
    (h : List.Forall₂ settings.BuiltFor oracles adapters) :
    adapters.map IOracleProviderAdapter.oracleId = oracles.map Oracle.id := by
  induction h with
  | nil => rfl
  | cons hbuilt _ ih => rw [List.map_cons, List.map_cons, hbuilt.oracleId_eq, ih]

/-- The start-up loop over oracles whose adapters can all be loaded. -/
theorem loadAdapters_of_starts {w : ServiceWorld T R} :
    ∀ {oracles : List Oracle} (adapters : List (IOracleProviderAdapter (ServiceWorld T R))),
      (∀ oracle ∈ oracles, AdapterStarts w.builtin oracle) →
      ∃ added, (settings.loaded participantService adapters).loadAdapters oracles w =
          (.ok (), settings.loaded participantService (adapters ++ added), w) ∧
        List.Forall₂ settings.BuiltFor oracles added := by
  intro oracles
  induction oracles with
  | nil =>
    intro adapters _
    exact ⟨[], by rw [loadAdapters, List.append_nil], .nil⟩
  | cons oracle oracles ih =>
    intro adapters hstarts
    have hstart := hstarts oracle (List.mem_cons_self ..)
    have hsupported : ∀ value, oracle.type ≠ .other value := by
      intro value htype
      simp only [AdapterStarts, htype] at hstart
    obtain ⟨adapter, hbuilt⟩ := settings.builtFor_of_supported hsupported
    obtain ⟨added, hload, hadded⟩ := ih (adapters ++ [adapter])
      fun o ho => hstarts o (List.mem_cons_of_mem _ ho)
    have hfactory : (settings.loaded participantService adapters).oracleProvidersFactory.create
        oracle w = (.ok adapter, w) := hbuilt.created w
    refine ⟨adapter :: added, ?_, .cons hbuilt hadded⟩
    rw [loadAdapters, hfactory]
    dsimp only
    rw [hbuilt.starts w hstart]
    dsimp only
    rw [← List.append_cons adapters adapter added] at hload
    exact hload

/-- The start-up loop fails when it comes to an oracle whose adapter cannot be loaded. -/
theorem loadAdapters_of_not_starts {w : ServiceWorld T R} :
    ∀ {oracles : List Oracle} (adapters : List (IOracleProviderAdapter (ServiceWorld T R))),
      (∃ oracle ∈ oracles, ¬ AdapterStarts w.builtin oracle) →
      ∃ error, ((settings.loaded participantService adapters).loadAdapters oracles w).1 =
        .error error := by
  intro oracles
  induction oracles with
  | nil =>
    rintro adapters ⟨oracle, hmem, _⟩
    cases hmem
  | cons oracle oracles ih =>
    rintro adapters ⟨failing, hmem, hfails⟩
    by_cases hsupported : ∀ value, oracle.type ≠ .other value
    · obtain ⟨adapter, hbuilt⟩ := settings.builtFor_of_supported hsupported
      have hfactory : (settings.loaded participantService
          adapters).oracleProvidersFactory.create oracle w = (.ok adapter, w) := hbuilt.created w
      rw [loadAdapters, hfactory]
      dsimp only
      by_cases hstart : AdapterStarts w.builtin oracle
      · rw [hbuilt.starts w hstart]
        dsimp only
        refine ih (adapters ++ [adapter]) ⟨failing, ?_, hfails⟩
        rcases List.mem_cons.mp hmem with rfl | hmem
        · exact absurd hstart hfails
        · exact hmem
      · obtain ⟨error, herror⟩ := hbuilt.fails w hstart
        rw [herror]
        exact ⟨error, rfl⟩
    · simp only [not_forall, not_not] at hsupported
      obtain ⟨value, htype⟩ := hsupported
      obtain ⟨error, herror⟩ := settings.create_of_other htype w
      have hfactory : (settings.loaded participantService
          adapters).oracleProvidersFactory.create oracle w = (.error error, w) := herror
      rw [loadAdapters, hfactory]
      exact ⟨error, rfl⟩

/-- The registry is within reach of the start-up. -/
def RegistryReadable (w : FinderWorld) : Prop :=
  w.failure .connect = none ∧ w.failure .find = none

theorem init_eq_of_readable (h : RegistryReadable w.finder) :
    (settings.loaded participantService adapters).init w =
      (settings.loaded participantService adapters).loadAdapters w.finder.oracles w := by
  simp only [init, loaded, aggregate, IOracleFinder.on, Call.on, MongoOracleFinderRepo.finder,
    MongoOracleFinderRepo.init, MongoOracleFinderRepo.getAllOracles, ServiceWorld.finderPart,
    h.1, h.2]

theorem init_of_not_readable (h : ¬ RegistryReadable w.finder) :
    ∃ error, ((settings.loaded participantService adapters).init w).1 = .error error := by
  simp only [init, loaded, aggregate, IOracleFinder.on, Call.on, MongoOracleFinderRepo.finder,
    MongoOracleFinderRepo.init, MongoOracleFinderRepo.getAllOracles, ServiceWorld.finderPart]
  cases hconnect : w.finder.failure .connect with
  | some message => exact ⟨_, rfl⟩
  | none =>
    dsimp only
    cases hfind : w.finder.failure .find with
    | some message => exact ⟨_, rfl⟩
    | none => exact absurd ⟨hconnect, hfind⟩ h

/-- **Start-up.** It succeeds exactly when the registry can be read and the adapter of
every registered oracle can be loaded, and it then has loaded those adapters. -/
theorem init_cases :
    (RegistryReadable w.finder ∧ (∀ oracle ∈ w.finder.oracles, AdapterStarts w.builtin oracle) ∧
        ∃ added, (settings.loaded participantService adapters).init w =
            (.ok (), settings.loaded participantService (adapters ++ added), w) ∧
          List.Forall₂ settings.BuiltFor w.finder.oracles added) ∨
      ¬ (RegistryReadable w.finder ∧
          ∀ oracle ∈ w.finder.oracles, AdapterStarts w.builtin oracle) ∧
        ∃ error, ((settings.loaded participantService adapters).init w).1 = .error error := by
  by_cases hreadable : RegistryReadable w.finder
  · rw [settings.init_eq_of_readable participantService adapters w hreadable]
    by_cases hstarts : ∀ oracle ∈ w.finder.oracles, AdapterStarts w.builtin oracle
    · exact Or.inl ⟨hreadable, hstarts,
        settings.loadAdapters_of_starts participantService adapters hstarts⟩
    · simp only [not_forall] at hstarts
      obtain ⟨oracle, hmem, hfails⟩ := hstarts
      exact Or.inr ⟨fun h => hfails (h.2 oracle hmem),
        settings.loadAdapters_of_not_starts participantService adapters ⟨oracle, hmem, hfails⟩⟩
  · exact Or.inr ⟨fun h => hreadable h.1,
      settings.init_of_not_readable participantService adapters w hreadable⟩

end OracleAdapterFactory

end AccountLookup

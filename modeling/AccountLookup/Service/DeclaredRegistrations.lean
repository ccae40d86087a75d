/-
# Registrations of the declared type

Requests whose id, currency and endpoint are strings, `null` or left out. Their registry holds
the documents of the oracles that the rest of the service works with, and the two agree on
whether it is fit for a restart.
-/

import AccountLookup.Service.Restart

namespace AccountLookup

open Library.Transition

/-- A request to one of the two routes that change the registry, with a body of the declared
type. -/
inductive OracleRequest
  | post (request : CreateOracleRequest) (randomUUID : UuidSource)
  | delete (request : DeleteOracleRequest)

/-- A request made during an outage. -/
structure OracleRequestStep where
  outage : Outage
  request : OracleRequest

namespace RunningService

variable {T R : Type}

/-- A service with an empty registry and nothing loaded. -/
def fresh (world : ServiceWorld T R) : RunningService T R := ⟨[], world.withOracles []⟩

end RunningService

/-- The document of an oracle. -/
def Oracle.document (oracle : Oracle) : OracleDocument where
  id := .string oracle.id
  name := oracle.name
  type := oracle.type
  partyType := oracle.partyType
  currency := oracle.currency.toJson
  endpoint := oracle.endpoint.toJson

namespace RegistryRequest

/-- What the request posts has the declared type. -/
def HasDeclaredBody : RegistryRequest → Prop
  | .post request _ => request.HasDeclaredTypes
  | .delete _ => True

/-- The request, its body read as the declared type. -/
def toOracleRequest : RegistryRequest → OracleRequest
  | .post request randomUUID => .post request.toCreateOracle randomUUID
  | .delete request => .delete request

end RegistryRequest

/-- The request, made during the same outage. -/
def RegistryRequestStep.toOracleRequestStep (a : RegistryRequestStep) : OracleRequestStep :=
  ⟨a.outage, a.request.toOracleRequest⟩

namespace OracleAdapterFactory

open AccountLookupAggregate OracleAdminExpressRoutes RunningService

variable {T R : Type} [LinearOrder T] [Add T] (settings : OracleAdapterFactory T R)
  (participantService : IParticipantServiceAdapter R) (routes : OracleAdminExpressRoutes)

/-- The service after one request. -/
def requestStep (s : RunningService T R) (a : OracleRequestStep) : RunningService T R :=
  match a.request with
  | .post request randomUUID =>
    let outcome := routes.createOracle request (randomUUID.draw s.registeredIds)
      (settings.loaded participantService s.adapters) (s.during a.outage).world
    ⟨outcome.2.1.oracleProvidersAdapters, outcome.2.2⟩
  | .delete request =>
    let outcome := routes.deleteOracle request
      (settings.loaded participantService s.adapters) (s.during a.outage).world
    ⟨outcome.2.1.oracleProvidersAdapters, outcome.2.2⟩

/-- A new aggregate starts up over the registry, nothing failing, and every oracle
that the finder then returns for a party resolves to a loaded adapter of its id. -/
def RestartSafe (s : RunningService T R) : Prop :=
  ∃ agg w, (settings.aggregate participantService).init (s.during Outage.none).world =
      (.ok (), agg, w) ∧
    ∀ partyType currency oracle w',
      agg.oracleFinder.getOracle partyType currency w = (.ok (some oracle), w') →
        ∃ adapter, agg.getOracleAdapter partyType currency w = (.ok adapter, w') ∧
          adapter.oracleId = oracle.id

variable {settings participantService routes}

/-- The loaded adapters cover the registry: every oracle that the finder returns
resolves to an adapter of its id. -/
theorem getOracleAdapter_of_loaded {adapters : List (IOracleProviderAdapter (ServiceWorld T R))}
    {w w' : ServiceWorld T R}
    (hloaded : adapters.map IOracleProviderAdapter.oracleId = w.finder.oracles.map Oracle.id)
    {partyType currency : JsString} {oracle : Oracle}
    (h : (settings.loaded participantService adapters).oracleFinder.getOracle partyType
      currency w = (.ok (some oracle), w')) :
    ∃ adapter, (settings.loaded participantService adapters).getOracleAdapter partyType
      currency w = (.ok adapter, w') ∧ adapter.oracleId = oracle.id := by
  have hmem : oracle.id ∈ adapters.map IOracleProviderAdapter.oracleId := by
    rw [hloaded]
    exact List.mem_map_of_mem (mem_of_finder_getOracle h)
  obtain ⟨witness, hwitness, hid⟩ := List.mem_map.mp hmem
  cases hfind : adapters.find? (fun adapter => adapter.oracleId = oracle.id) with
  | none => exact absurd hid (by simpa using List.find?_eq_none.mp hfind witness hwitness)
  | some adapter =>
    refine ⟨adapter, ?_, by simpa using List.find?_some hfind⟩
    have hfind' : (settings.loaded participantService adapters).oracleProvidersAdapters.find?
        (fun adapter => adapter.oracleId = oracle.id) = some adapter := hfind
    simp only [getOracleAdapter, h, hfind']

/-- **A registry is fit for a restart exactly when all its oracles are startable.** -/
theorem restartSafe_iff {s : RunningService T R} :
    settings.RestartSafe participantService s ↔
      ∀ oracle ∈ s.world.finder.oracles, Startable oracle := by
  have haggregate : settings.aggregate participantService =
      settings.loaded participantService [] := rfl
  have hstartable : (∀ oracle ∈ s.world.finder.oracles, Startable oracle) ↔
      ∀ oracle ∈ s.world.finder.oracles,
        AdapterStarts (s.during Outage.none).world.builtin oracle :=
    forall₂_congr fun oracle _ => (adapterStarts_iff_startable rfl rfl).symm
  rw [hstartable, RestartSafe, haggregate]
  rcases settings.init_cases participantService [] (s.during Outage.none).world with
    ⟨-, hstarts, added, hload, hbuilt⟩ | ⟨hnot, error, herror⟩
  · refine iff_of_true ⟨_, _, hload, ?_⟩ hstarts
    intro partyType currency oracle w' hget
    exact getOracleAdapter_of_loaded (map_oracleId_of_builtFor hbuilt) hget
  · refine iff_of_false ?_ fun hstarts => hnot ⟨⟨rfl, rfl⟩, hstarts⟩
    rintro ⟨agg, w, hinit, -⟩
    rw [hinit] at herror
    cases herror

/-- A registration that goes through appends the oracle, whether or not its adapter
can be loaded. -/
theorem oracles_addOracle {adapters : List (IOracleProviderAdapter (ServiceWorld T R))}
    {w : ServiceWorld T R} {oracle : AddOracleDTO} {randomUUID : String}
    (h : Registers w.finder oracle randomUUID) :
    ((settings.loaded participantService adapters).addOracle oracle
        randomUUID w).2.2.finder.oracles =
      w.finder.oracles ++ [newOracle oracle randomUUID] := by
  by_cases hstarts : AdapterStarts w.builtin (newOracle oracle randomUUID)
  · obtain ⟨adapter, -, hadd⟩ :=
      settings.addOracle_of_starts participantService adapters w h hstarts
    rw [hadd]
    rfl
  · obtain ⟨error, hadd⟩ := settings.addOracle_of_not_starts participantService adapters w h hstarts
    rw [hadd]
    rfl

/-- A registration that does not get as far as the registry leaves it alone. -/
theorem oracles_addOracle_of_not {adapters : List (IOracleProviderAdapter (ServiceWorld T R))}
    {w : ServiceWorld T R} {oracle : AddOracleDTO} {randomUUID : String}
    (h : ¬ Registers w.finder oracle randomUUID) :
    ((settings.loaded participantService adapters).addOracle oracle
        randomUUID w).2.2.finder.oracles = w.finder.oracles := by
  obtain ⟨error, hadd⟩ := settings.addOracle_of_not_registers participantService adapters w h
  rw [hadd]

/-- A removal takes the oracle out of the registry, or leaves that alone. -/
theorem oracles_removeOracle {adapters : List (IOracleProviderAdapter (ServiceWorld T R))}
    {w : ServiceWorld T R} {id : String} (h : Removes w.finder id) :
    ((settings.loaded participantService adapters).removeOracle id w).2.2.finder.oracles =
      w.finder.oracles.eraseP fun oracle => oracle.id = id := by
  rcases settings.removeOracle_cases participantService adapters w id with ⟨hnot, -⟩ | ⟨-, hremove⟩
  · exact absurd h hnot
  · rw [hremove]
    rfl

theorem oracles_removeOracle_of_not
    {adapters : List (IOracleProviderAdapter (ServiceWorld T R))} {w : ServiceWorld T R}
    {id : String} (h : ¬ Removes w.finder id) :
    ((settings.loaded participantService adapters).removeOracle id w).2.2.finder.oracles =
      w.finder.oracles := by
  rcases settings.removeOracle_cases participantService adapters w id with
    ⟨-, error, hremove⟩ | ⟨hremoves, -⟩
  · rw [hremove]
  · exact absurd hremoves h

end OracleAdapterFactory

namespace DocumentService

variable {T R : Type} {matching : DocumentMatching} {d : DocumentService} {s : RunningService T R}

/-- The registry holds the documents of the other's oracles. -/
def ShowsRegistry (d : DocumentService) (s : RunningService T R) : Prop :=
  d.documents = s.world.finder.oracles.map Oracle.document

theorem filter_truthy_toJson (value : JsString) :
    value.toJson.filter JsonValue.truthy = value.nonEmpty?.map JsonValue.string := by
  cases value with
  | undefined => rfl
  | null => rfl
  | str text => by_cases h : text = "" <;> simp [JsString.toJson, JsString.nonEmpty?,
      JsonValue.truthy, Option.filter, h]

theorem selects_string (stored wanted : String) :
    matching.selects (some (.string stored)) (some (.string wanted)) =
      decide (stored = wanted) := by
  rw [show some (JsonValue.string stored) = (JsString.str stored).toJson from rfl,
    show some (JsonValue.string wanted) = (JsString.str wanted).toJson from rfl,
    matching.selects_declared]
  simp [fieldMatches]

theorem ShowsRegistry.stringIds_eq (h : ShowsRegistry d s) : d.stringIds = s.registeredIds := by
  rw [stringIds, h, List.filterMap_map, RunningService.registeredIds, ← List.filterMap_eq_map]
  rfl

/-- What is registered of a body of the declared type. -/
theorem newOracle_of_declared {request : RegistrationRequest} (h : request.HasDeclaredTypes)
    (randomUUID : String) :
    request.newOracle randomUUID =
      (AccountLookupAggregate.newOracle request.toCreateOracle.body randomUUID).document := by
  have hid : request.registeredId randomUUID =
      .string (AccountLookupAggregate.registeredId request.toCreateOracle.body randomUUID) := by
    rw [RegistrationRequest.registeredId, ← h.id, filter_truthy_toJson,
      AccountLookupAggregate.registeredId]
    simp only [RegistrationRequest.toCreateOracle]
    cases (JsString.ofJson request.id).nonEmpty? <;> rfl
  have hendpoint : (if request.toCreateOracle.body.type = .builtin then some .null
      else request.endpoint) = (if request.toCreateOracle.body.type = .builtin then JsString.null
        else request.toCreateOracle.body.endpoint).toJson := by
    split
    · rfl
    · exact h.endpoint.symm
  rw [RegistrationRequest.newOracle, hid, hendpoint, ← h.currency]
  rfl

theorem samePresent_document (oracle stored : Oracle) :
    samePresent matching oracle.document stored.document =
      MongoOracleFinderRepo.samePresent oracle stored := by
  simp only [samePresent, MongoOracleFinderRepo.samePresent, Oracle.document, selects_string,
    matching.selects_declared]
  rfl

variable (matching) in
theorem ShowsRegistry.stores_iff (h : ShowsRegistry d s) {request : RegistrationRequest}
    (hdeclared : request.HasDeclaredTypes) (outage : Outage) (randomUUID : String) :
    d.Stores matching outage request randomUUID ↔
      Registers (s.during outage).world.finder request.toCreateOracle.body randomUUID := by
  have hdocuments : d.documents = s.world.finder.oracles.map Oracle.document := h
  have hidFree : d.findNamedOracle matching outage request = .ok none ↔
      IdFree (s.during outage).world.finder request.toCreateOracle.body.id := by
    rw [findNamedOracle, ← hdeclared.id, filter_truthy_toJson]
    simp only [IdFree, RegistrationRequest.toCreateOracle, RunningService.during]
    cases (JsString.ofJson request.id).nonEmpty? with
    | none => simp
    | some named =>
      simp only [Option.map_some, getOracleById, Option.some.injEq, forall_eq']
      cases outage.finder .findById with
      | some message => simp
      | none => simp [hdocuments, Oracle.document, selects_string]
  have hnameFree : d.getOracleByName outage request.toCreateOracle.body.name = .ok none ↔
      NameFree (s.during outage).world.finder request.toCreateOracle.body.name := by
    simp only [getOracleByName, NameFree, RunningService.during]
    cases outage.finder .findByName with
    | some message => simp
    | none => simp [hdocuments, Oracle.document]
  have hpresent : d.documents.find? (samePresent matching (request.newOracle randomUUID)) = none ↔
      s.world.finder.oracles.find? (MongoOracleFinderRepo.samePresent
        (AccountLookupAggregate.newOracle request.toCreateOracle.body randomUUID)) = none := by
    rw [newOracle_of_declared hdeclared, hdocuments, List.find?_map, Option.map_eq_none_iff]
    simp only [Function.comp_def, samePresent_document]
  constructor
  · intro hstores
    exact ⟨hidFree.mp hstores.idFree, hnameFree.mp hstores.nameFree, hstores.supported,
      hstores.findPresent, hpresent.mp hstores.notPresent, hstores.insertOne⟩
  · intro hregisters
    exact ⟨hidFree.mpr hregisters.idFree, hnameFree.mpr hregisters.nameFree, hregisters.supported,
      hregisters.insertable.1, hpresent.mpr hregisters.insertable.2.1, hregisters.insertable.2.2⟩

variable (matching) in
theorem ShowsRegistry.deletes_iff (h : ShowsRegistry d s) (outage : Outage) (id : String) :
    d.Deletes matching outage id ↔ Removes (s.during outage).world.finder id := by
  have hdocuments : d.documents = s.world.finder.oracles.map Oracle.document := h
  have hfound : ∀ oracle, d.getOracleById matching outage (.string id) = .ok (some oracle) ↔
      outage.finder .findById = none ∧ (s.world.finder.oracles.find? fun o => o.id = id).map
        Oracle.document = some oracle := by
    intro oracle
    simp only [getOracleById]
    cases outage.finder .findById with
    | some message => simp
    | none =>
      simp [hdocuments, List.find?_map, Function.comp_def, Oracle.document, selects_string]
  constructor
  · intro hdeletes
    obtain ⟨oracle, hget⟩ := hdeletes.found
    obtain ⟨hfindById, hfind⟩ := (hfound oracle).mp hget
    obtain ⟨found, hfind, -⟩ := Option.map_eq_some_iff.mp hfind
    exact ⟨hfindById, ⟨found, hfind⟩, hdeletes.deleteOne⟩
  · intro hremoves
    obtain ⟨found, hfind⟩ := hremoves.found
    refine ⟨⟨found.document, (hfound _).mpr ⟨hremoves.findById, ?_⟩⟩, hremoves.deleteOne⟩
    exact Option.map_eq_some_iff.mpr ⟨found, hfind, rfl⟩

open OracleAdminExpressRoutes

section Requests

variable [LinearOrder T] [Add T] {settings : OracleAdapterFactory T R}
  {participantService : IParticipantServiceAdapter R} {routes : OracleAdminExpressRoutes}

/-- **One request** of the declared type leaves the same registry behind. -/
theorem ShowsRegistry.requestStep (h : ShowsRegistry d s) {a : RegistryRequestStep}
    (hdeclared : a.request.HasDeclaredBody) :
    ShowsRegistry (d.requestStep routes matching a)
      (settings.requestStep participantService routes s a.toOracleRequestStep) := by
  have hdocuments : d.documents = s.world.finder.oracles.map Oracle.document := h
  obtain ⟨outage, request⟩ := a
  cases request with
  | post request randomUUID =>
    show (d.requestStep routes matching _).documents = (routes.createOracle request.toCreateOracle
      (randomUUID.draw s.registeredIds) (settings.loaded participantService s.adapters)
      (s.during outage).world).2.2.finder.oracles.map Oracle.document
    rw [requestStep_post, h.stringIds_eq]
    rcases routes.createOracle_world_cases request.toCreateOracle
        (randomUUID.draw s.registeredIds) (settings.loaded participantService s.adapters)
        (s.during outage).world with ⟨hpermitted, hvalid, hworld⟩ | ⟨hrefused, hworld⟩
    · have hstores := h.stores_iff matching hdeclared outage (randomUUID.draw s.registeredIds)
      rw [if_pos ⟨hpermitted, hvalid⟩, hworld]
      rcases d.addOracle_cases matching outage request (randomUUID.draw s.registeredIds) with
        ⟨hdone, hadd⟩ | ⟨hnot, hadd⟩
      · rw [hadd, OracleAdapterFactory.oracles_addOracle (hstores.mp hdone), List.map_append,
          newOracle_of_declared hdeclared, hdocuments]
        rfl
      · rw [hadd, OracleAdapterFactory.oracles_addOracle_of_not (mt hstores.mpr hnot), hdocuments]
        rfl
    · have hroles : request.toCreateOracle.platformRoleIds = request.platformRoleIds := rfl
      rw [hroles] at hrefused
      rw [if_neg hrefused, hworld, hdocuments]
      rfl
  | delete request =>
    show (d.requestStep routes matching _).documents = (routes.deleteOracle request
      (settings.loaded participantService s.adapters)
      (s.during outage).world).2.2.finder.oracles.map Oracle.document
    rw [requestStep_delete]
    rcases routes.deleteOracle_world_cases request (settings.loaded participantService s.adapters)
        (s.during outage).world with ⟨hpermitted, hvalid, hworld⟩ | ⟨hrefused, hworld⟩
    · have hdeletes := h.deletes_iff matching outage request.id
      rw [if_pos ⟨hpermitted, hvalid⟩, hworld]
      rcases d.removeOracle_cases matching outage request.id with ⟨hdone, hremove⟩ | ⟨hnot, hremove⟩
      · rw [hremove, OracleAdapterFactory.oracles_removeOracle (hdeletes.mp hdone), hdocuments,
          List.eraseP_map]
        simp only [Function.comp_def, Oracle.document, selects_string]
        rfl
      · rw [hremove, OracleAdapterFactory.oracles_removeOracle_of_not (mt hdeletes.mpr hnot),
          hdocuments]
        rfl
    · rw [if_neg hrefused, hworld, hdocuments]
      rfl

variable (settings participantService routes matching) in
/-- **Every run** of requests of the declared type has the registry that the rest of the
service works with. -/
theorem showsRegistry_run (world : ServiceWorld T R) {steps : List RegistryRequestStep}
    (hdeclared : ∀ a ∈ steps, a.request.HasDeclaredBody) :
    ShowsRegistry (run (DocumentService.requestStep routes matching) empty steps)
      (run (settings.requestStep participantService routes) (RunningService.fresh world)
        (steps.map RegistryRequestStep.toOracleRequestStep)) := by
  induction steps using List.reverseRecOn with
  | nil => rfl
  | append_singleton steps a ih =>
    rw [List.map_append, run_append, run_append]
    exact (ih fun other hother => hdeclared other (List.mem_append_left _ hother)).requestStep
      (hdeclared a (List.mem_append_right _ (List.mem_singleton.mpr rfl)))

/-- A registry is fit for a restart in the one sense exactly when it is in the other. -/
theorem ShowsRegistry.restartSafe_iff (h : ShowsRegistry d s) :
    d.RestartSafe ↔ settings.RestartSafe participantService s := by
  have hdocuments : d.documents = s.world.finder.oracles.map Oracle.document := h
  have hendpoint : ∀ value : JsString, value.toJson.any JsonValue.truthy = value.truthy := by
    intro value
    cases value <;> rfl
  have hbehind : ReferencesBehind d.documents := by
    intro before oracle after hsplit hreference
    have hmem : oracle ∈ d.documents := hsplit ▸ List.mem_append_right _ (List.mem_cons_self ..)
    rw [hdocuments] at hmem
    obtain ⟨stored, -, rfl⟩ := List.mem_map.mp hmem
    cases hreference
  rw [DocumentService.restartSafe_iff, and_iff_left hbehind, OracleAdapterFactory.restartSafe_iff,
    hdocuments, List.forall_mem_map]
  simp only [OracleDocument.Startable, Startable, Oracle.document, hendpoint]

end Requests

end DocumentService

end AccountLookup

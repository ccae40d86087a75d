/-
# The whole service keeps its directories

The pieces are put together: the aggregate with its registry, the factory's adapters, the
built-in stores, the client of the participants, and behind every endpoint a remote oracle
with a server in front of it. Over any run of messages, lookups, registrations and
removals, with restarts on either side, participants that come and go, and a cache that
forgets, what the service answers follows from three things alone: the participants, the
registered oracles, and a directory for every store.
-/

import AccountLookup.Domain.LookupService
import AccountLookup.HttpOracleSvc.RemoteDirectory
import AccountLookup.Implementations.BuiltinDirectory
import AccountLookup.Implementations.OracleRouting
import AccountLookup.Implementations.ParticipantAdapter
import AccountLookup.Service.AssociationEvents
import AccountLookup.Service.Replicas

namespace AccountLookup

open Library Library.Transition

/-- What the service reaches over HTTP: what the client of the participants gets for an id
now, and the remote oracle behind every endpoint. -/
structure Surroundings where
  participants : String → Except JsError (Option IParticipant)
  servers : String → RemoteOracleWorld

namespace Surroundings

/-- The remote oracle behind an endpoint. -/
def serverPart (endpoint : String) : Component Surroundings RemoteOracleWorld where
  get w := w.servers endpoint
  set w server := { w with servers := Function.update w.servers endpoint server }
  get_set _ _ := Function.update_self ..
  set_get w := by rw [Function.update_eq_self]

/-- The client of the participants. -/
def participantsClient : ParticipantsHttpClient Surroundings where
  getParticipantById fspId := fun w => (w.participants fspId, w)

/-- The HTTP library in a network of servers. Without a base URL there is nothing to send a
request to. -/
def httpClient (network : String → RemoteOracleServer) : HttpClient Surroundings where
  get baseURL url :=
    match baseURL with
    | .str endpoint => ((network endpoint).client.get baseURL url).on (serverPart endpoint)
    | _ => fun w => (.error ⟨.external, "Invalid URL"⟩, w)
  post baseURL url fspId :=
    match baseURL with
    | .str endpoint => ((network endpoint).client.post baseURL url fspId).on (serverPart endpoint)
    | _ => fun w => (.error ⟨.external, "Invalid URL"⟩, w)
  delete baseURL url fspId :=
    match baseURL with
    | .str endpoint =>
      ((network endpoint).client.delete baseURL url fspId).on (serverPart endpoint)
    | _ => fun w => (.error ⟨.external, "Invalid URL"⟩, w)

/-- Nobody is known, and every remote oracle starts without a file. -/
def blank : Surroundings := ⟨fun _ => .ok none, fun _ => RemoteOracleWorld.fresh⟩

end Surroundings

theorem PartyCall.on_on {W C : Type} (part : Component W C) (adapter : IOracleProviderAdapter C)
    (call : PartyCall) : call.on (adapter.on part) = (call.on adapter).on part := by
  cases call <;> rfl

/-- A remote adapter reaches the server of its endpoint. -/
theorem PartyCall.on_httpClient (network : String → RemoteOracleServer) {oracle : Oracle}
    {endpoint : String} (hendpoint : oracle.endpoint = .str endpoint) (call : PartyCall) :
    call.on (HttpOracleProvider.adapter ⟨oracle, Surroundings.httpClient network⟩) =
      (call.on ((network endpoint).adapterTo oracle)).on (Surroundings.serverPart endpoint) := by
  funext w
  cases call with
  | associateParticipant fspId party =>
    simp only [PartyCall.on, RemoteOracleServer.adapterTo, HttpOracleProvider.adapter,
      HttpOracleProvider.associateParticipant, Surroundings.httpClient, hendpoint, Call.on]
    generalize (network endpoint).client.post _ _ _ _ = outcome
    obtain ⟨result, after⟩ := outcome
    cases result <;> rfl
  | disassociateParticipant fspId party =>
    simp only [PartyCall.on, RemoteOracleServer.adapterTo, HttpOracleProvider.adapter,
      HttpOracleProvider.disassociateParticipant, Surroundings.httpClient, hendpoint, Call.on]
    generalize (network endpoint).client.delete _ _ _ _ = outcome
    obtain ⟨result, after⟩ := outcome
    cases result <;> rfl
  | getParticipantFspId party =>
    simp only [PartyCall.on, RemoteOracleServer.adapterTo, HttpOracleProvider.adapter,
      HttpOracleProvider.getParticipantFspId, Surroundings.httpClient, hendpoint, Call.on]
    generalize (network endpoint).client.get _ _ _ = outcome
    obtain ⟨result, after⟩ := outcome
    cases result <;> rfl

/-- Where the owners of a party are kept. -/
inductive OracleStore
  | builtin
  | remote (endpoint : String)
  deriving DecidableEq

/-- The store of an oracle; all built-in oracles have the same one. -/
def Oracle.store (oracle : Oracle) : Option OracleStore :=
  match oracle.type with
  | .builtin => some .builtin
  | .remoteHttp => oracle.endpoint.nonEmpty?.map .remote
  | .other _ => none

theorem Startable.exists_store {oracle : Oracle} (h : Startable oracle) :
    ∃ store, oracle.store = some store := by
  rcases h with htype | ⟨htype, hendpoint⟩
  · exact ⟨.builtin, by simp only [Oracle.store, htype]⟩
  · obtain ⟨endpoint, hstr, hne⟩ := JsString.truthy_iff.mp hendpoint
    refine ⟨.remote endpoint, ?_⟩
    simp only [Oracle.store, htype, JsString.nonEmpty?_eq_some_iff.mpr ⟨hstr, hne⟩,
      Option.map_some]

/-- The participant that an answer of the client makes known; after an error there is none. -/
def knownParticipant : Except JsError (Option IParticipant) → Option IParticipant
  | .ok result => result
  | .error _ => none

/-- The participants, the registered oracles, and the owners in every store. -/
structure ServiceView where
  participants : String → Option IParticipant
  registry : List Oracle
  owners : OracleStore → Directory

namespace ServiceView

/-- The store that a party is routed to. -/
def homeIn (registry : List Oracle) (party : Party) : Option OracleStore :=
  (MongoOracleFinderRepo.oracleFor (FinderWorld.holding registry) (.str party.partyType)
    (.ofOption party.currency)).bind Oracle.store

def lookupState (v : ServiceView) : LookupState OracleStore :=
  ⟨v.participants, homeIn v.registry, v.owners⟩

def empty : ServiceView := ⟨fun _ => none, [], fun _ => Directory.empty⟩

end ServiceView

/-- The settings of a service, and the servers in its network. -/
structure WholeService (T : Type) where
  redisCacheDurationSecs : T
  network : String → RemoteOracleServer

namespace WholeService

open AccountLookupAggregate OracleAdapterFactory

variable {T : Type} (service : WholeService T)

def settings : OracleAdapterFactory T Surroundings :=
  ⟨service.redisCacheDurationSecs, Surroundings.httpClient service.network⟩

def participantService : IParticipantServiceAdapter Surroundings :=
  ParticipantAdapter.adapter ⟨Surroundings.participantsClient⟩

variable [LinearOrder T] [Add T]

/-- The service shows the view: its adapters are those of the registered oracles, and every
store keeps its directory. -/
structure Shows (s : RunningService T Surroundings) (v : ServiceView) : Prop where
  registry : s.world.finder = FinderWorld.holding v.registry
  nodup : (v.registry.map Oracle.id).Nodup
  startable : ∀ oracle ∈ v.registry, Startable oracle
  built : List.Forall₂ service.settings.BuiltFor v.registry s.adapters
  participants : ∀ id, knownParticipant (s.world.remote.participants id) = v.participants id
  builtin : MongoOracleProviderRepo.RepresentsDirectory Party.IsOrdinary s.world.builtin
    (v.owners .builtin)
  remote : ∀ endpoint, RemoteOracleServer.RepresentsDirectory Party.IsOrdinary
    (s.world.remote.servers endpoint) (v.owners (.remote endpoint))

/-- The aggregate with the adapters. -/
abbrev aggregateWith (adapters : List (IOracleProviderAdapter (ServiceWorld T Surroundings))) :
    AccountLookupAggregate (ServiceWorld T Surroundings) :=
  service.settings.loaded participantService adapters

/-- The world behind the adapters shows the state of a lookup service. -/
def ShowsState (adapters : List (IOracleProviderAdapter (ServiceWorld T Surroundings)))
    (registry : List Oracle) (w : ServiceWorld T Surroundings) (s : LookupState OracleStore) :
    Prop :=
  service.Shows ⟨adapters, w⟩ ⟨s.participants, registry, s.owners⟩ ∧
    s.home = ServiceView.homeIn registry

variable {service} {adapters : List (IOracleProviderAdapter (ServiceWorld T Surroundings))}
  {registry : List Oracle} {w : ServiceWorld T Surroundings} {v : ServiceView}
  {state : LookupState OracleStore} {party : Party}

theorem ShowsState.getParticipantInfo (h : service.ShowsState adapters registry w state)
    (id : String) :
    (service.aggregateWith adapters).participantService.getParticipantInfo id w =
      (.ok (state.participants id), w) := by
  have hinfo : participantService.getParticipantInfo id w.remote =
      (.ok (knownParticipant (w.remote.participants id)), w.remote) := by
    simp only [participantService, ParticipantAdapter.adapter,
      ParticipantAdapter.getParticipantInfo, Surroundings.participantsClient]
    cases w.remote.participants id <;> rfl
  have hanswer : knownParticipant (w.remote.participants id) = state.participants id :=
    h.1.participants id
  rw [hanswer] at hinfo
  exact congrArg (fun outcome => (outcome.1, ServiceWorld.remotePart.set w outcome.2)) hinfo

/-- The finder answers with the oracle that the registry routes the party to. -/
theorem getOracle_eq (service : WholeService T)
    (adapters : List (IOracleProviderAdapter (ServiceWorld T Surroundings)))
    (h : w.finder = FinderWorld.holding registry) (partyType currency : JsString) :
    (∃ oracle ∈ registry,
        MongoOracleFinderRepo.oracleFor (FinderWorld.holding registry) partyType currency =
          some oracle ∧
        (service.aggregateWith adapters).oracleFinder.getOracle partyType currency w =
          (.ok (some oracle), w)) ∨
      MongoOracleFinderRepo.oracleFor (FinderWorld.holding registry) partyType currency = none ∧
        ∃ error, (service.aggregateWith adapters).oracleFinder.getOracle partyType currency w =
          (.error error, w) := by
  have hsame : ((service.aggregateWith adapters).oracleFinder.getOracle partyType currency w).2 =
      w := getOracle_snd partyType currency w
  have hfst : ((service.aggregateWith adapters).oracleFinder.getOracle partyType currency w).1 =
      (MongoOracleFinderRepo.getOracle partyType currency (FinderWorld.holding registry)).1 := by
    rw [← h]
    rfl
  rcases MongoOracleFinderRepo.getOracle_cases partyType currency (FinderWorld.holding registry)
    with ⟨oracle, hfor, hget⟩ | ⟨hnone, error, hget, -⟩
  · refine Or.inl ⟨oracle, ?_, hfor, Prod.ext (hfst.trans hget) hsame⟩
    exact MongoOracleFinderRepo.mem_of_getOracle (w := FinderWorld.holding registry)
      (Prod.ext hget rfl)
  · exact Or.inr ⟨hnone, error, Prod.ext (hfst.trans hget) hsame⟩

/-- Other built-in stores, which keep another directory. -/
theorem Shows.withBuiltin {s : RunningService T Surroundings} (h : service.Shows s v)
    {builtin : BuiltinWorld T} {d : Directory}
    (hbuiltin : MongoOracleProviderRepo.RepresentsDirectory Party.IsOrdinary builtin d) :
    service.Shows ⟨s.adapters, ServiceWorld.builtinPart.set s.world builtin⟩
      ⟨v.participants, v.registry, Function.update v.owners .builtin d⟩ := by
  refine ⟨h.registry, h.nodup, h.startable, h.built, h.participants, ?_, fun endpoint => ?_⟩
  · dsimp only
    rw [Function.update_self]
    exact hbuiltin
  · dsimp only
    rw [Function.update_of_ne (fun heq => (by cases heq))]
    exact h.remote endpoint

/-- Another oracle behind an endpoint, which keeps another directory. -/
theorem Shows.withServer {s : RunningService T Surroundings} (h : service.Shows s v)
    {endpoint : String} {server : RemoteOracleWorld} {d : Directory}
    (hserver : RemoteOracleServer.RepresentsDirectory Party.IsOrdinary server d) :
    service.Shows
      ⟨s.adapters, ServiceWorld.remotePart.set s.world
        ((Surroundings.serverPart endpoint).set s.world.remote server)⟩
      ⟨v.participants, v.registry, Function.update v.owners (.remote endpoint) d⟩ := by
  refine ⟨h.registry, h.nodup, h.startable, h.built, h.participants, ?_, fun other => ?_⟩
  · dsimp only
    rw [Function.update_of_ne (fun heq => (by cases heq))]
    exact h.builtin
  · dsimp only [ServiceWorld.remotePart, Surroundings.serverPart]
    by_cases hother : other = endpoint
    · subst hother
      rw [Function.update_self, Function.update_self]
      exact hserver
    · rw [Function.update_of_ne hother,
        Function.update_of_ne (fun heq => hother (OracleStore.remote.inj heq))]
      exact h.remote other

/-- The adapter of a registered oracle. -/
theorem ShowsState.exists_adapter (h : service.ShowsState adapters registry w state)
    {oracle : Oracle} (hmem : oracle ∈ registry) :
    ∃ adapter, adapters.find? (fun a => a.oracleId = oracle.id) = some adapter ∧
      service.settings.BuiltFor oracle adapter := by
  rcases find?_of_builtFor h.1.built oracle.id with
    ⟨hnone, -⟩ | ⟨record, adapter, hrecord, hadapter, hbuilt⟩
  · exact absurd (decide_eq_true rfl) (List.find?_eq_none.mp hnone oracle hmem)
  · have hid : record.id = oracle.id := by simpa using List.find?_some hrecord
    obtain rfl := List.inj_on_of_nodup_map h.1.nodup (List.mem_of_find?_eq_some hrecord) hmem hid
    exact ⟨adapter, hadapter, hbuilt⟩

/-- What the factory builds for an oracle acts on the store of the oracle. -/
theorem on_of_builtFor {oracle : Oracle}
    {adapter : IOracleProviderAdapter (ServiceWorld T Surroundings)}
    (hbuilt : service.settings.BuiltFor oracle adapter) (call : PartyCall)
    (w : ServiceWorld T Surroundings) :
    (oracle.store = some .builtin → ∃ repo : MongoOracleProviderRepo T,
        call.on adapter w = (call.on repo.adapter).on ServiceWorld.builtinPart w) ∧
      ∀ endpoint, oracle.store = some (.remote endpoint) →
        call.on adapter w = ((call.on ((service.network endpoint).adapterTo oracle)).on
          (Surroundings.serverPart endpoint)).on ServiceWorld.remotePart w := by
  have hcreated := hbuilt.created w
  cases htype : oracle.type with
  | builtin =>
    simp only [create, htype, Prod.mk.injEq, Except.ok.injEq, and_true] at hcreated
    subst hcreated
    refine ⟨fun _ => ⟨⟨oracle, service.settings.redisCacheDurationSecs⟩, ?_⟩, fun endpoint h => ?_⟩
    · rw [PartyCall.on_on]
    · simp only [Oracle.store, htype] at h
      cases h
  | remoteHttp =>
    simp only [create, htype, Prod.mk.injEq, Except.ok.injEq, and_true] at hcreated
    subst hcreated
    refine ⟨fun h => ?_, fun endpoint h => ?_⟩
    · simp only [Oracle.store, htype, Option.map_eq_some_iff] at h
      obtain ⟨endpoint, -, h⟩ := h
      cases h
    · simp only [Oracle.store, htype, Option.map_eq_some_iff, OracleStore.remote.injEq] at h
      obtain ⟨_, hnamed, rfl⟩ := h
      have hendpoint := (JsString.nonEmpty?_eq_some_iff.mp hnamed).1
      rw [PartyCall.on_on, settings, PartyCall.on_httpClient service.network hendpoint]
  | other value => simp [create, htype] at hcreated

/-- A call on a party does to its store what the directory prescribes, and nothing to the
rest. -/
theorem ShowsState.call [CanonicallyOrderedAdd T]
    (h : service.ShowsState adapters registry w state) {oracle : Oracle}
    {adapter : IOracleProviderAdapter (ServiceWorld T Surroundings)} {store : OracleStore}
    (hbuilt : service.settings.BuiltFor oracle adapter) (hstore : oracle.store = some store)
    {call : PartyCall} (hkind : call.party.IsOrdinary) (hnames : call.NamesParticipant)
    (horderly : (state.owners store).Orderly call)
    (hhome : state.home call.party = some store) :
    (state.owners store).Agrees call (call.on adapter w).1 ∧
      service.ShowsState adapters registry (call.on adapter w).2 (state.afterCall call) := by
  obtain ⟨hbuiltin, hremote⟩ := on_of_builtFor hbuilt call w
  have hafter : state.afterCall call = ⟨state.participants, state.home,
      Function.update state.owners store ((state.owners store).after call)⟩ := by
    rw [LookupState.afterCall, hhome]
  rw [hafter]
  cases store with
  | builtin =>
    obtain ⟨repo, hcall⟩ := hbuiltin hstore
    have hkeeps := MongoOracleProviderRepo.keepsDirectory_adapter repo
      MongoOracleProviderRepo.separated_isOrdinary
    rw [hcall]
    exact ⟨hkeeps.good _ _ (.call call) h.1.builtin ⟨hkind, hnames, horderly⟩,
      h.1.withBuiltin (hkeeps.next _ _ (.call call) h.1.builtin ⟨hkind, hnames, horderly⟩), h.2⟩
  | remote endpoint =>
    have hserver := h.1.remote endpoint
    have hkeeps := RemoteOracleServer.keepsDirectory_adapterTo (service.network endpoint) oracle
      RemoteOracleServer.addressed_isOrdinary
    rw [hremote endpoint hstore]
    exact ⟨hkeeps.good _ _ (.call call) hserver ⟨hkind, hnames, horderly⟩,
      h.1.withServer (hkeeps.next _ _ (.call call) hserver ⟨hkind, hnames, horderly⟩), h.2⟩

/-- **The collaborators of the service back its state.** -/
theorem backs [CanonicallyOrderedAdd T] (service : WholeService T)
    (adapters : List (IOracleProviderAdapter (ServiceWorld T Surroundings)))
    (registry : List Oracle) :
    (service.aggregateWith adapters).Backs Party.IsOrdinary
      (service.ShowsState adapters registry) := by
  constructor
  · exact fun w state id h => ⟨w, h.getParticipantInfo id, h⟩
  · intro w state party h _ hhome
    rw [h.2, ServiceView.homeIn, Option.bind_eq_none_iff] at hhome
    rcases getOracle_eq service adapters h.1.registry
        (.str party.partyType) (.ofOption party.currency) with
      ⟨oracle, hmem, hfor, -⟩ | ⟨-, error, hget⟩
    · obtain ⟨store, hstore⟩ := (h.1.startable oracle hmem).exists_store
      cases (hhome oracle hfor).symm.trans hstore
    · exact ⟨_, w, by simp only [getOracleAdapter, hget]; rfl, h⟩
  · intro w state party store h hkind hhome
    have hhome' := hhome
    rw [h.2, ServiceView.homeIn, Option.bind_eq_some_iff] at hhome'
    obtain ⟨oracle, hfor, hstore⟩ := hhome'
    rcases getOracle_eq service adapters h.1.registry
        (.str party.partyType) (.ofOption party.currency) with
      ⟨oracle', hmem, hfor', hget⟩ | ⟨hnone, -⟩
    · obtain rfl := Option.some.inj (hfor.symm.trans hfor')
      obtain ⟨adapter, hfind, hbuilt⟩ := h.exists_adapter hmem
      refine ⟨adapter, w, ?_, h, fun call hparty hnames horderly => ?_⟩
      · have hloaded : (service.aggregateWith adapters).oracleProvidersAdapters.find?
            (fun a => a.oracleId = oracle.id) = some adapter := hfind
        simp only [getOracleAdapter, hget, hloaded]
      · subst hparty
        exact h.call hbuilt hstore hkind hnames horderly hhome
    · cases hfor.symm.trans hnone

/-! ## What happens to the service -/

/-- A registered oracle has an adapter that can be loaded: the built-in stores are within
reach, and a remote oracle has an endpoint. -/
def Loadable (outage : Outage) : AdminCall → Prop
  | .addOracle oracle _ => outage.builtin .mongoConnect = none ∧
      outage.builtin .redisConnect = none ∧
      (oracle.type = .remoteHttp → oracle.endpoint.truthy = true)
  | .removeOracle _ => True

open Classical in
/-- The registry after a call of the administration. -/
noncomputable def registryAfter (registry : List Oracle) (outage : Outage) :
    AdminCall → List Oracle
  | .addOracle oracle randomUUID =>
    if Registers ⟨registry, outage.finder⟩ oracle (randomUUID.draw (registry.map Oracle.id)) then
      registry ++ [AccountLookupAggregate.newOracle oracle
        (randomUUID.draw (registry.map Oracle.id))]
    else registry
  | .removeOracle id =>
    if Removes ⟨registry, outage.finder⟩ id then registry.filter fun oracle => oracle.id ≠ id
    else registry

/-- What happens to a service: it is asked something, it is started anew, the participants
become known or unknown, a remote oracle is started anew, or its cache changes. -/
inductive ServiceInput (T : Type)
  | message (message : IMessage)
  | lookup (accountIdentifier : Party)
  | admin (a : AdminStep)
  | restart
  | participants (answers : String → Except JsError (Option IParticipant))
  | remoteRestart (endpoint : String)
  | cache (change : BuiltinWorld T → BuiltinWorld T)

variable (service)

/-- The service after an input. An outage is over when the call is. -/
def perform (s : RunningService T Surroundings) :
    ServiceInput T → RunningService T Surroundings
  | .message message =>
    { s with world := ((service.aggregateWith s.adapters).handleEvent message s.world).2 }
  | .lookup accountIdentifier =>
    { s with world :=
        ((service.aggregateWith s.adapters).getAccountLookUp accountIdentifier s.world).2 }
  | .admin a =>
    (service.settings.perform participantService (s.during a.outage) a.call).2.during Outage.none
  | .restart =>
    let outcome := (service.settings.aggregate participantService).init s.world
    ⟨outcome.2.1.oracleProvidersAdapters, outcome.2.2⟩
  | .participants answers =>
    { s with world := { s.world with remote := { s.world.remote with participants := answers } } }
  | .remoteRestart endpoint =>
    ⟨s.adapters, ServiceWorld.remotePart.set s.world
      ((Surroundings.serverPart endpoint).set s.world.remote
        ((service.network endpoint).restarted (s.world.remote.servers endpoint)))⟩
  | .cache change => { s with world := { s.world with builtin := change s.world.builtin } }

/-- The view after an input. -/
noncomputable def follow (v : ServiceView) : ServiceInput T → ServiceView
  | .message message =>
    ⟨(v.lookupState.afterMessage message).participants, v.registry,
      (v.lookupState.afterMessage message).owners⟩
  | .admin a => { v with registry := registryAfter v.registry a.outage a.call }
  | .participants answers => { v with participants := fun id => knownParticipant (answers id) }
  | _ => v

/-- Messages and lookups are about ordinary parties, no participant asks for a party of
another one, and a registered oracle can be loaded. -/
def Allowed (v : ServiceView) : ServiceInput T → Prop
  | .message message => ∀ request payload, message.accepted = some (request, payload) →
      v.lookupState.Orderly Party.IsOrdinary request payload
  | .lookup accountIdentifier => accountIdentifier.IsOrdinary
  | .admin a => Loadable a.outage a.call
  | .cache change => MongoOracleProviderRepo.CacheChange change
  | _ => True

/-- What the service answers is what the view prescribes, a call of the administration
succeeds exactly when it changes the registry, and a restart goes through. -/
def AnswersBy (s : RunningService T Surroundings) (v : ServiceView) : ServiceInput T → Prop
  | .message message => v.lookupState.Answers message
      ((service.aggregateWith s.adapters).handleEvent message s.world).1.event
  | .lookup accountIdentifier => ∀ answer,
      ((service.aggregateWith s.adapters).getAccountLookUp accountIdentifier s.world).1 =
          .ok answer ↔
        ∃ name, v.lookupState.owner accountIdentifier = some name ∧ answer = .str name
  | .admin a =>
    (service.settings.perform participantService (s.during a.outage) a.call).1 = .ok () ↔
      registryAfter v.registry a.outage a.call ≠ v.registry
  | .restart => ((service.settings.aggregate participantService).init s.world).1 = .ok ()
  | _ => True

variable {service} {s : RunningService T Surroundings}

/-- Other oracles in the registry, with adapters built for them, once the outage is over. -/
theorem Shows.readministered (h : service.Shows s v) (outage : Outage) {registry : List Oracle}
    {adapters : List (IOracleProviderAdapter (ServiceWorld T Surroundings))}
    (hnodup : (registry.map Oracle.id).Nodup) (hstartable : ∀ oracle ∈ registry, Startable oracle)
    (hbuilt : List.Forall₂ service.settings.BuiltFor registry adapters) :
    service.Shows ((⟨adapters, (s.during outage).world.withOracles registry⟩ :
      RunningService T Surroundings).during Outage.none) { v with registry := registry } :=
  ⟨rfl, hnodup, hstartable, hbuilt, h.participants,
    ⟨fun _ => rfl, h.builtin.collection, h.builtin.coherent⟩, h.remote⟩

theorem Shows.recovered (h : service.Shows s v) (outage : Outage) :
    service.Shows ((s.during outage).during Outage.none) v := by
  have hsame := h.readministered outage h.nodup h.startable h.built
  have hworld : (s.during outage).world.withOracles v.registry = (s.during outage).world := by
    have horacles : s.world.finder.oracles = v.registry := congrArg FinderWorld.oracles h.registry
    rw [← horacles]
    rfl
  rwa [hworld] at hsame

/-- **A call of the administration** leaves the registry that follows, with an adapter for
every oracle, and succeeds exactly when it changes the registry. -/
theorem Shows.admin (h : service.Shows s v) {outage : Outage} {call : AdminCall}
    (hloadable : Loadable outage call) :
    ((service.settings.perform participantService (s.during outage) call).1 = .ok () ↔
        registryAfter v.registry outage call ≠ v.registry) ∧
      service.Shows
        ((service.settings.perform participantService (s.during outage) call).2.during
          Outage.none)
        { v with registry := registryAfter v.registry outage call } := by
  have horacles : s.world.finder.oracles = v.registry := congrArg FinderWorld.oracles h.registry
  have hids : (s.during outage).registeredIds = v.registry.map Oracle.id :=
    congrArg (List.map Oracle.id) horacles
  have hfinder : (s.during outage).world.finder = ⟨v.registry, outage.finder⟩ := by
    rw [← horacles]
    rfl
  cases call with
  | addOracle oracle randomUUID =>
    obtain ⟨hmongo, hredis, hendpoint⟩ := hloadable
    dsimp only [registryAfter]
    rcases service.settings.perform_addOracle_cases participantService (s.during outage) oracle
        randomUUID with
      ⟨hnot, error, hperform⟩ | ⟨hregisters, adapter, hbuilt, hcases⟩
    · rw [hids, hfinder] at hnot
      rw [hperform, if_neg hnot]
      exact ⟨iff_of_false (fun herror => (by cases herror)) fun hne => hne rfl,
        h.recovered outage⟩
    · have hfresh := RunningService.newOracle_id_not_mem randomUUID hregisters
      rw [hids, hfinder] at hregisters
      rw [hids] at hbuilt hcases
      rw [hfinder] at hfresh hcases
      dsimp only at hfresh hcases
      have hstartable : Startable
          (newOracle oracle (randomUUID.draw (v.registry.map Oracle.id))) := by
        cases htype : oracle.type with
        | builtin => exact Or.inl htype
        | remoteHttp => simp [Startable, newOracle, htype, hendpoint htype]
        | other value => exact absurd htype (hregisters.supported value)
      have hstarts := (adapterStarts_iff_startable (w := (s.during outage).world.builtin) hmongo
        hredis).mpr hstartable
      rw [if_pos hregisters]
      rcases hcases with ⟨-, hperform⟩ | ⟨hfails, -⟩
      · rw [hperform]
        refine ⟨iff_of_true rfl (by simp), h.readministered outage ?_ ?_ ?_⟩
        · rw [List.map_append, List.map_singleton, ← List.concat_eq_append]
          exact h.nodup.concat hfresh
        · intro other hother
          rcases List.mem_append.mp hother with hold | hnew
          · exact h.startable other hold
          · exact List.mem_singleton.mp hnew ▸ hstartable
        · exact List.rel_append h.built (.cons hbuilt .nil)
      · exact absurd hstarts hfails
  | removeOracle id =>
    dsimp only [registryAfter]
    rcases service.settings.perform_removeOracle_cases participantService (s.during outage) id with
      ⟨hnot, error, hperform⟩ | ⟨hremoves, hperform⟩
    · rw [hfinder] at hnot
      rw [hperform, if_neg hnot]
      exact ⟨iff_of_false (fun herror => (by cases herror)) fun hne => hne rfl,
        h.recovered outage⟩
    · rw [hfinder] at hremoves
      rw [hperform, if_pos hremoves, hfinder, eraseP_eq_filter h.nodup]
      refine ⟨iff_of_true rfl fun hsame => ?_, h.readministered outage ?_ ?_ ?_⟩
      · obtain ⟨found, hfound⟩ := hremoves.found
        have hall := List.filter_eq_self.mp hsame found (List.mem_of_find?_eq_some hfound)
        have hid : found.id = id := by simpa using List.find?_some hfound
        exact of_decide_eq_true hall hid
      · exact h.nodup.sublist (List.filter_sublist.map _)
      · exact fun other hother => h.startable other (List.mem_filter.mp hother).1
      · apply List.rel_filter _ h.built
        intro record adapter hbuilt
        show decide (record.id ≠ id) = true ↔ decide (adapter.oracleId ≠ id) = true
        rw [hbuilt.oracleId_eq]

/-- A restart loads the adapters of the registered oracles. -/
theorem Shows.restart (h : service.Shows s v) :
    ((service.settings.aggregate participantService).init s.world).1 = .ok () ∧
      service.Shows (service.perform s .restart) v := by
  have haggregate : service.settings.aggregate participantService =
      service.settings.loaded participantService [] := rfl
  have hreadable : RegistryReadable s.world.finder := by
    rw [h.registry]
    exact ⟨rfl, rfl⟩
  have horacles : s.world.finder.oracles = v.registry := congrArg FinderWorld.oracles h.registry
  have hstarts : ∀ oracle ∈ s.world.finder.oracles, AdapterStarts s.world.builtin oracle := by
    intro oracle horacle
    rw [horacles] at horacle
    exact (adapterStarts_iff_startable (h.builtin.noFailure _) (h.builtin.noFailure _)).mpr
      (h.startable oracle horacle)
  rcases service.settings.init_cases participantService [] s.world with
    ⟨-, -, added, hinit, hbuilt⟩ | ⟨hnot, -⟩
  · rw [perform, haggregate, hinit]
    rw [horacles] at hbuilt
    exact ⟨rfl, h.registry, h.nodup, h.startable, hbuilt, h.participants, h.builtin, h.remote⟩
  · exact absurd ⟨hreadable, hstarts⟩ hnot

/-- **One input.** -/
theorem simulates [CanonicallyOrderedAdd T] (service : WholeService T) :
    Simulates service.perform follow service.Shows Allowed service.AnswersBy := by
  constructor
  · intro s v input h hallowed
    have hstate : service.ShowsState s.adapters v.registry s.world v.lookupState := ⟨h, rfl⟩
    have hbacks := service.backs s.adapters v.registry
    cases input with
    | message message => exact (hbacks.handleEvent hstate message hallowed).1
    | lookup accountIdentifier => exact (hbacks.getAccountLookUp hstate hallowed).1
    | admin a => exact (h.admin hallowed).1
    | restart => exact h.restart.1
    | participants answers => trivial
    | remoteRestart endpoint => trivial
    | cache change => trivial
  · intro s v input h hallowed
    have hstate : service.ShowsState s.adapters v.registry s.world v.lookupState := ⟨h, rfl⟩
    have hbacks := service.backs s.adapters v.registry
    cases input with
    | message message => exact (hbacks.handleEvent hstate message hallowed).2.1
    | lookup accountIdentifier => exact (hbacks.getAccountLookUp hstate hallowed).2.1
    | admin a => exact (h.admin hallowed).2
    | restart => exact h.restart.2
    | participants answers =>
      exact ⟨h.registry, h.nodup, h.startable, h.built, fun _ => rfl, h.builtin, h.remote⟩
    | remoteRestart endpoint =>
      have hserver := (h.remote endpoint).restarted (service.network endpoint)
      have hnext : service.Shows (service.perform s (.remoteRestart endpoint))
          ⟨v.participants, v.registry,
            Function.update v.owners (.remote endpoint) (v.owners (.remote endpoint))⟩ :=
        h.withServer hserver
      rwa [Function.update_eq_self] at hnext
    | cache change =>
      have hnext := h.withBuiltin (h.builtin.changed hallowed)
      rwa [Function.update_eq_self] at hnext

/-- A service that has just been set up: no oracle is registered and nobody is known. -/
def fresh (now : T) : RunningService T Surroundings :=
  ⟨[], ⟨FinderWorld.holding [], BuiltinWorld.empty now, Surroundings.blank⟩⟩

theorem shows_fresh (service : WholeService T) (now : T) :
    service.Shows (fresh now) ServiceView.empty :=
  ⟨rfl, List.nodup_nil, fun _ h => (by cases h), .nil, fun _ => rfl,
    MongoOracleProviderRepo.representsDirectory_empty _ now,
    fun _ => RemoteOracleServer.representsDirectory_fresh _⟩

/-- **The whole service keeps its directories.** In every run from a fresh service in which
messages and lookups are about ordinary parties, no participant asks for a party of another
one, and the oracles that are registered can be loaded, every message is answered as the
participants, the registry and the directories of the stores prescribe, every lookup names
the owner, and every restart goes through. -/
theorem answers_by_view_throughout [CanonicallyOrderedAdd T] (service : WholeService T)
    (now : T) (inputs : List (ServiceInput T))
    (hallowed : Along follow Allowed ServiceView.empty inputs) :
    Along (beside service.perform follow) (fun s input => service.AnswersBy s.1 s.2 input)
      (fresh now, ServiceView.empty) inputs :=
  (service.simulates.along inputs _ _ (service.shows_fresh now) hallowed).1

def sampleService : WholeService ℕ := ⟨10, fun _ => RemoteOracleServer.sampleServer⟩

/-- A request of a participant about the sample phone number. -/
def sampleMessage (request : RequestEvt) : IMessage where
  msgName := request.name
  msgType := .domainEvent
  payload := some { Payload.blank with
    partyId := .str "27713803912"
    partyType := .str "MSISDN"
    partySubType := .null
    currency := .str "USD"
    requesterFspId := .str "greenbank"
    ownerFspId := .str "greenbank" }
  inboundProtocolType := .undefined
  inboundProtocolOpaqueState := none

/-- Everybody is approved, an oracle is registered, and a participant takes a number and asks for
it, with restarts on either side. -/
def sampleServiceInputs : List (ServiceInput ℕ) :=
  [.participants fun id => .ok (some ⟨id, true, true⟩),
    .admin ⟨Outage.none, .addOracle
      ⟨.str "1", .str "builtin", .builtin, .str "MSISDN", .null, .null⟩ UuidSource.zeros⟩,
    .message (sampleMessage .participantAssociationRequestReceivedEvt),
    .restart,
    .remoteRestart "http://oracle",
    .message (sampleMessage .participantQueryReceivedEvt),
    .lookup samplePhoneNumber]

theorem orderly_sampleMessage {s : LookupState OracleStore} {request : RequestEvt}
    (h : ∀ call home, request.callOn ((sampleMessage request).payload.getD Payload.blank)
      samplePhoneNumber = some call → (s.owners home).Orderly call) :
    ∀ other payload, (sampleMessage request).accepted = some (other, payload) →
      s.Orderly Party.IsOrdinary other payload := by
  intro other payload haccepted
  simp only [IMessage.accepted, sampleMessage, if_true, RequestEvt.ofName_name,
    Option.some.injEq, Prod.mk.injEq] at haccepted
  obtain ⟨rfl, rfl⟩ := haccepted
  refine ⟨fun _ => ⟨samplePhoneNumber, rfl, samplePhoneNumber_isOrdinary⟩, ?_⟩
  intro _ party call home hparty hcall _
  obtain rfl := Option.some.inj hparty
  exact h call home hcall

theorem allowed_sampleServiceInputs :
    Along follow Allowed ServiceView.empty sampleServiceInputs := by
  refine ⟨trivial, ⟨rfl, rfl, fun h => (by cases h)⟩, orderly_sampleMessage ?_, trivial, trivial,
    orderly_sampleMessage ?_, samplePhoneNumber_isOrdinary, trivial⟩
  · intro call home hcall
    obtain rfl := Option.some.inj hcall
    exact Or.inl rfl
  · intro call home hcall
    cases hcall

theorem answers_by_view_sampleServiceInputs :
    Along (beside sampleService.perform follow)
      (fun s input => sampleService.AnswersBy s.1 s.2 input)
      (fresh 0, ServiceView.empty) sampleServiceInputs :=
  answers_by_view_throughout sampleService 0 sampleServiceInputs allowed_sampleServiceInputs

end WholeService

end AccountLookup

/-
# What an association event says about the store

A request to create or remove an association passes through the validation of the
owner, the routing to an oracle and the oracle's adapter, each of which may fail.
The built-in adapter writes to the database first and to the cache second, and the
aggregate reports any exception as an event saying that it was unable to act. The
event is true of the store except when exactly the cache call fails.
-/

import AccountLookup.Domain.Gate
import AccountLookup.Implementations.BuiltinRuns
import AccountLookup.Service.RegistryRuns

namespace AccountLookup

namespace AssociationChange

/-- The cache call that follows the database write. -/
def cacheCall : AssociationChange → BuiltinCall
  | .associate => .redisSetex
  | .disassociate => .redisDel

/-- The query object that the built-in adapter builds for the payload. -/
def query (payload : Payload) (change : AssociationChange) : LookupQuery :=
  MongoOracleProviderRepo.buildLookupQuery (change.read payload.partyId)
    (change.read payload.ownerFspId) (change.read payload.partyType)
    (change.read payload.partySubType) (change.read payload.currency)

/-- The database part of the change goes through and changes the collection: the
association is new and can be inserted, or it is found and can be deleted. -/
def Writes {T : Type} (w : BuiltinWorld T) (payload : Payload) : AssociationChange → Prop
  | .associate => w.failure .findOne = none ∧ w.failure .insertOne = none ∧
      w.parties.find? (query payload .associate).satisfiedBy = none
  | .disassociate => w.failure .deleteOne = none ∧
      ∃ d, w.parties.find? (query payload .disassociate).satisfiedBy = some d

section Builtin

variable {T : Type} [LinearOrder T] [Add T] (repo : MongoOracleProviderRepo T)
  (w : BuiltinWorld T) (payload : Payload)

/-- A call of the built-in adapter either writes, and then succeeds exactly when the
cache call does, or leaves the collection alone. -/
def WritesFirst (change : AssociationChange) : Prop :=
  (change.Writes w payload ∧ (change.call repo.adapter payload w).2.parties ≠ w.parties ∧
      ((change.call repo.adapter payload w).1 = .ok () ↔ w.failure change.cacheCall = none)) ∨
    ¬ change.Writes w payload ∧ (change.call repo.adapter payload w).2.parties = w.parties

theorem writesFirst_associate : WritesFirst repo w payload .associate := by
  simp only [WritesFirst, call, MongoOracleProviderRepo.adapter, Writes, query, read, cacheCall,
    id_eq, MongoOracleProviderRepo.associateParticipant]
  cases w.failure .findOne with
  | some message => exact Or.inr ⟨fun h => (by cases h.1), rfl⟩
  | none =>
    dsimp only
    cases w.parties.find? _ with
    | some d => exact Or.inr ⟨fun h => (by cases h.2.2), rfl⟩
    | none =>
      dsimp only
      cases w.failure .insertOne with
      | some message => exact Or.inr ⟨fun h => (by cases h.2.1), rfl⟩
      | none =>
        have hlonger : w.parties ++ [(MongoOracleProviderRepo.buildLookupQuery payload.partyId
            payload.ownerFspId payload.partyType payload.partySubType
            payload.currency).toDocument] ≠ w.parties := by simp
        dsimp only [MongoOracleProviderRepo.setToCache]
        cases w.failure .redisSetex with
        | some message =>
          exact Or.inl ⟨⟨rfl, rfl, rfl⟩, hlonger, fun h => (by cases h), fun h => (by cases h)⟩
        | none => exact Or.inl ⟨⟨rfl, rfl, rfl⟩, hlonger, fun _ => rfl, fun _ => rfl⟩

theorem writesFirst_disassociate : WritesFirst repo w payload .disassociate := by
  simp only [WritesFirst, call, MongoOracleProviderRepo.adapter, Writes, query, read, cacheCall,
    MongoOracleProviderRepo.disassociateParticipant]
  cases w.failure .deleteOne with
  | some message => exact Or.inr ⟨fun h => (by cases h.1), rfl⟩
  | none =>
    dsimp only [MongoOracleProviderRepo.delFromCache]
    cases hfind : w.parties.find? (MongoOracleProviderRepo.buildLookupQuery
        payload.partyId.orNull payload.ownerFspId.orNull payload.partyType.orNull
        payload.partySubType.orNull payload.currency.orNull).satisfiedBy with
    | none =>
      have hsame := List.eraseP_of_forall_not (List.find?_eq_none.mp hfind)
      refine Or.inr ⟨fun h => (by cases h.2.choose_spec), ?_⟩
      cases w.failure .redisDel <;> exact hsame
    | some d =>
      have hshorter : w.parties.eraseP (MongoOracleProviderRepo.buildLookupQuery
          payload.partyId.orNull payload.ownerFspId.orNull payload.partyType.orNull
          payload.partySubType.orNull payload.currency.orNull).satisfiedBy ≠ w.parties :=
        fun heq => List.eraseP_eq_self_iff.mp heq d (List.mem_of_find?_eq_some hfind)
          (List.find?_some hfind)
      cases w.failure .redisDel with
      | some message =>
        exact Or.inl ⟨⟨rfl, d, rfl⟩, hshorter, fun h => (by cases h), fun h => (by cases h)⟩
      | none => exact Or.inl ⟨⟨rfl, d, rfl⟩, hshorter, fun _ => rfl, fun _ => rfl⟩

theorem writesFirst (change : AssociationChange) : WritesFirst repo w payload change := by
  cases change with
  | associate => exact writesFirst_associate repo w payload
  | disassociate => exact writesFirst_disassociate repo w payload

end Builtin

end AssociationChange

namespace OracleAdapterFactory

open AccountLookupAggregate

variable {T R : Type} [LinearOrder T] [Add T] (settings : OracleAdapterFactory T R)
  (participantService : IParticipantServiceAdapter R)
  (adapters : List (IOracleProviderAdapter (ServiceWorld T R)))

/-- An event that answers neither request leaves the collection as it was. -/
def TellsTruth (message : IMessage) (w : ServiceWorld T R) : Prop :=
  let outcome := (settings.loaded participantService adapters).handleEvent message w
  (∀ change : AssociationChange, outcome.1.event.answers ≠ some change.request) →
    outcome.2.builtin.parties = w.builtin.parties

/-- The party of the payload is routed to a built-in oracle. -/
def RoutesToBuiltin (change : AssociationChange) (payload : Payload) (w : ServiceWorld T R) :
    Prop :=
  ∃ adapter w', (settings.loaded participantService adapters).RoutesTo
    (change.read payload.partyType) (change.read payload.currency) adapter w w' ∧
    adapter.type = .builtin

/-- The change goes through in the database of a built-in oracle and fails in the
cache. -/
structure HalfDone (change : AssociationChange) (payload : Payload) (w : ServiceWorld T R) :
    Prop where
  ownerPasses : ∃ w', (settings.loaded participantService adapters).ParticipantPasses
    payload.ownerFspId w w'
  routed : settings.RoutesToBuiltin participantService adapters change payload w
  writes : change.Writes w.builtin payload
  cacheFails : w.builtin.failure change.cacheCall ≠ none

variable {settings participantService adapters}

/-- The validation of a participant touches neither the registry nor the stores. -/
theorem stores_of_participantPasses {participantId : JsString} {w w₁ : ServiceWorld T R}
    (h : (settings.loaded participantService adapters).ParticipantPasses participantId w w₁) :
    w₁.finder = w.finder ∧ w₁.builtin = w.builtin := by
  obtain ⟨id, participant, -, -, hcall, -⟩ := h
  obtain rfl := congrArg Prod.snd hcall
  exact ⟨rfl, rfl⟩

theorem builtin_validateParticipantInfoOrGetErrorEvent
    (errorEvent : ParticipantFault → DomainEvent) (participantId : JsString)
    (w : ServiceWorld T R) :
    ((settings.loaded participantService adapters).validateParticipantInfoOrGetErrorEvent
      errorEvent participantId w).2.builtin = w.builtin := by
  rcases (settings.loaded participantService adapters).validateParticipantInfoOrGetErrorEvent_snd
    errorEvent participantId w with heq | ⟨id, heq⟩
  · rw [heq]
  · rw [heq]
    rfl

/-- The search of the registry leaves the world alone. -/
theorem getOracle_snd (partyType currency : JsString) (w : ServiceWorld T R) :
    ((settings.loaded participantService adapters).oracleFinder.getOracle partyType
      currency w).2 = w :=
  congrArg (ServiceWorld.finderPart.set w)
    (MongoOracleFinderRepo.registry_getOracle partyType currency w.finder)

theorem getOracleAdapter_snd (partyType currency : JsString) (w : ServiceWorld T R) :
    ((settings.loaded participantService adapters).getOracleAdapter partyType currency w).2 =
      w := by
  rw [getOracleAdapter_snd_eq]
  exact getOracle_snd partyType currency w

/-- A party is routed by the registry alone. -/
theorem routesTo_of_finder {partyType currency : JsString}
    {adapter : IOracleProviderAdapter (ServiceWorld T R)} {w w₁ w₂ : ServiceWorld T R}
    (h : (settings.loaded participantService adapters).RoutesTo partyType currency adapter w₁ w₂)
    (hfinder : w₁.finder = w.finder) :
    w₂ = w₁ ∧
      (settings.loaded participantService adapters).RoutesTo partyType currency adapter w w := by
  obtain ⟨oracle, hcall, hfind⟩ := h
  have hanswer : ((settings.loaded participantService adapters).oracleFinder.getOracle partyType
      currency w).1 = .ok (some oracle) := by
    have hfst : (MongoOracleFinderRepo.getOracle partyType currency w₁.finder).1 =
      .ok (some oracle) := congrArg Prod.fst hcall
    rw [hfinder] at hfst
    exact hfst
  refine ⟨?_, oracle, ?_, hfind⟩
  · exact (congrArg Prod.snd hcall).symm.trans (getOracle_snd partyType currency w₁)
  · exact Prod.ext hanswer (getOracle_snd partyType currency w)

/-- What a change does through an adapter that the factory built: a built-in one acts
on the built-in stores, any other leaves them alone. -/
theorem call_of_created {adapter : IOracleProviderAdapter (ServiceWorld T R)}
    (hcreated : ∃ oracle w, settings.create oracle w = (.ok adapter, w))
    (change : AssociationChange) (payload : Payload) (w : ServiceWorld T R) :
    (adapter.type = .builtin ∧ ∃ repo : MongoOracleProviderRepo T,
        (change.call adapter payload w).1 = (change.call repo.adapter payload w.builtin).1 ∧
        (change.call adapter payload w).2.builtin =
          (change.call repo.adapter payload w.builtin).2) ∨
      adapter.type ≠ .builtin ∧ (change.call adapter payload w).2.builtin = w.builtin := by
  obtain ⟨oracle, w₀, hcreate⟩ := hcreated
  cases htype : oracle.type with
  | builtin =>
    simp only [create, htype, Prod.mk.injEq, Except.ok.injEq, and_true] at hcreate
    subst hcreate
    refine Or.inl ⟨rfl, ⟨oracle, settings.redisCacheDurationSecs⟩, ?_⟩
    cases change <;> exact ⟨rfl, rfl⟩
  | remoteHttp =>
    simp only [create, htype, Prod.mk.injEq, Except.ok.injEq, and_true] at hcreate
    subst hcreate
    refine Or.inr ⟨by simp [IOracleProviderAdapter.on, HttpOracleProvider.adapter], ?_⟩
    cases change <;> rfl
  | other value => simp [create, htype] at hcreate

/-- A change that reached the adapter has been half done exactly when it has written
and is reported as failed. -/
theorem halfDone_iff_of_routed {change : AssociationChange} {payload : Payload}
    {adapter : IOracleProviderAdapter (ServiceWorld T R)} {w w₁ w₂ : ServiceWorld T R}
    (hall : settings.AllCreated adapters)
    (hpass : (settings.loaded participantService adapters).ParticipantPasses payload.ownerFspId
      w w₁)
    (hroute : (settings.loaded participantService adapters).RoutesTo
      (change.read payload.partyType) (change.read payload.currency) adapter w₁ w₂) :
    settings.HalfDone participantService adapters change payload w ↔
      (change.call adapter payload w₂).1 ≠ .ok () ∧
        (change.call adapter payload w₂).2.builtin.parties ≠ w.builtin.parties := by
  obtain ⟨hfinder, hbuiltin⟩ := stores_of_participantPasses hpass
  obtain ⟨rfl, hroute'⟩ := routesTo_of_finder hroute hfinder
  have hcreated := hall adapter (List.mem_of_find?_eq_some hroute.choose_spec.2)
  rcases call_of_created hcreated change payload w₂ with
    ⟨htype, repo, hresult, hstores⟩ | ⟨htype, hstores⟩
  · rw [hresult, hstores, hbuiltin]
    rcases AssociationChange.writesFirst repo w.builtin payload change with
      ⟨hwrites, hparties, hok⟩ | ⟨hwrites, hparties⟩
    · rw [and_iff_left hparties, ne_eq, hok]
      exact ⟨HalfDone.cacheFails, fun hcache =>
        ⟨⟨w₂, hpass⟩, ⟨adapter, w, hroute', htype⟩, hwrites, hcache⟩⟩
    · exact iff_of_false (fun h => hwrites h.writes) fun h => h.2 hparties
  · refine iff_of_false (fun h => ?_) fun h => h.2 (by rw [hstores, hbuiltin])
    obtain ⟨adapter', _, hroute'', htype'⟩ := h.routed
    obtain ⟨rfl, -⟩ := hroute'.unique hroute''
    exact htype htype'

/-- Whether the event of a handled change is true of the store. -/
theorem handled_truth_iff {change : AssociationChange} {payload : Payload} {event : DomainEvent}
    {w w' : ServiceWorld T R} (hall : settings.AllCreated adapters)
    (h : (settings.loaded participantService adapters).Handled change payload w event w') :
    (event.answers ≠ some change.request → w'.builtin.parties = w.builtin.parties) ↔
      ¬ settings.HalfDone participantService adapters change payload w := by
  cases h with
  | invalidOwner errorEvent hanswers hfail hworld =>
    refine iff_of_true (fun _ => ?_) fun hhalf => ?_
    · rw [← hworld, builtin_validateParticipantInfoOrGetErrorEvent]
    · obtain ⟨w₁, hpass⟩ := hhalf.ownerPasses
      exact hfail w₁ hpass
  | unrouted w₁ hanswers hpass hnone hworld =>
    obtain ⟨hfinder, hbuiltin⟩ := stores_of_participantPasses hpass
    refine iff_of_true (fun _ => ?_) fun hhalf => ?_
    · rw [← hworld, getOracleAdapter_snd, hbuiltin]
    · obtain ⟨adapter, w₂, hroute, -⟩ := hhalf.routed
      exact hnone adapter w₁ (routesTo_of_finder hroute hfinder.symm).2
  | refused adapter w₁ w₂ error hanswers hpass hroute hcall =>
    rw [halfDone_iff_of_routed hall hpass hroute, hcall, hanswers]
    simp
  | done adapter w₁ w₂ hanswers hpass hroute hcall =>
    rw [halfDone_iff_of_routed hall hpass hroute, hcall]
    simp [hanswers]

/-- The handler of a change answers no other request. -/
theorem answers_of_handled {change : AssociationChange} {payload : Payload} {event : DomainEvent}
    {w w' : ServiceWorld T R}
    (h : (settings.loaded participantService adapters).Handled change payload w event w') :
    (∀ other : AssociationChange, event.answers ≠ some other.request) ↔
      event.answers ≠ some change.request := by
  refine ⟨fun hnone => hnone change, fun hne other => ?_⟩
  cases h with
  | invalidOwner errorEvent hanswers hfail hworld => simp [hanswers]
  | unrouted w₁ hanswers hpass hnone hworld => simp [hanswers]
  | refused adapter w₁ w₂ error hanswers hpass hroute hcall => simp [hanswers]
  | done adapter w₁ w₂ hanswers hpass hroute hcall => exact absurd hanswers hne

/-- **An association event and the store.** The event for a request to create or to
remove an association is true of the collection exactly when the change has not been
half done. -/
theorem tellsTruth_iff_not_halfDone (hall : settings.AllCreated adapters)
    (change : AssociationChange) {message : IMessage}
    (hname : message.msgName = change.request.name) (w : ServiceWorld T R) :
    settings.TellsTruth participantService adapters message w ↔
      ¬ ∃ payload, message.payload = some payload ∧ message.msgType = .domainEvent ∧
        settings.HalfDone participantService adapters change payload w := by
  rcases validateMessageOrGetErrorEvent_cases message with
    ⟨payload, hpayload, htype, hvalid⟩ | ⟨event, hinvalid, -, hbad⟩
  · obtain ⟨event, w', hhandler, hhandled⟩ :=
      (settings.loaded participantService adapters).handlerOf_change change payload w
    have hofName : RequestEvt.ofName message.msgName = some change.request := by
      rw [hname, RequestEvt.ofName_name]
    simp only [TellsTruth, handleEvent, hvalid, hofName, hpayload, Option.getD_some, hhandler,
      answers_of_handled hhandled, htype, true_and, Option.some.injEq, exists_eq_left']
    exact handled_truth_iff hall hhandled
  · refine iff_of_true (fun _ => ?_) ?_
    · simp only [handleEvent, hinvalid]
    · rintro ⟨payload, hpayload, htype, -⟩
      exact hbad ⟨payload, hpayload, htype⟩

/-- A participant service for which everybody is approved and active. -/
def welcomingParticipants : IParticipantServiceAdapter Unit :=
  ⟨fun id w => (.ok (some ⟨id, true, true⟩), w)⟩

/-- A request of a participant to be associated with a phone number. -/
def sampleRequest : IMessage where
  msgName := "ParticipantAssociationRequestReceivedEvt"
  msgType := .domainEvent
  payload := some { Payload.blank with
    partyId := .str "27713803912"
    partyType := .str "MSISDN"
    ownerFspId := .str "greenbank" }
  inboundProtocolType := .undefined
  inboundProtocolOpaqueState := none

/-- A world with one built-in oracle and no association, in which a cache call fails. -/
def sampleWorldFailing (call : BuiltinCall) : ServiceWorld ℕ Unit where
  finder := ⟨[sampleRepo.oracle], fun _ => none⟩
  builtin := { BuiltinWorld.empty 0 with
    failure := fun other => if other = call then some "Connection is closed." else none }
  remote := ()

/-- The adapter of the sample oracle. -/
def sampleAdapter : IOracleProviderAdapter (ServiceWorld ℕ Unit) :=
  sampleRepo.adapter.on ServiceWorld.builtinPart

theorem allCreated_sampleAdapter : sampleSettings.AllCreated [sampleAdapter] := by
  intro adapter hadapter
  obtain rfl := List.mem_singleton.mp hadapter
  exact ⟨sampleRepo.oracle, sampleWorld, rfl⟩

/-- The association is stored, and reported as impossible. -/
theorem not_forall_tellsTruth :
    ¬ ∀ (settings : OracleAdapterFactory ℕ Unit)
      (participantService : IParticipantServiceAdapter Unit)
      (adapters : List (IOracleProviderAdapter (ServiceWorld ℕ Unit))) (change : AssociationChange)
      (message : IMessage) (payload : Payload) (w : ServiceWorld ℕ Unit),
      settings.AllCreated adapters → message.msgName = change.request.name →
      message.payload = some payload →
      settings.RoutesToBuiltin participantService adapters change payload w →
      settings.TellsTruth participantService adapters message w := by
  intro h
  have htruth := h sampleSettings welcomingParticipants [sampleAdapter] .associate sampleRequest _
    (sampleWorldFailing .redisSetex) allCreated_sampleAdapter rfl rfl
    ⟨sampleAdapter, _, ⟨sampleRepo.oracle, rfl, rfl⟩, rfl⟩
  have hanswers : ∀ change : AssociationChange, none ≠ some change.request :=
    fun change => Option.some_ne_none _ |>.symm
  exact List.cons_ne_nil _ _ (htruth hanswers)

/-- With the database out of reach the event is true. -/
theorem tellsTruth_findOne :
    sampleSettings.TellsTruth welcomingParticipants [sampleAdapter] sampleRequest
      (sampleWorldFailing .findOne) := by
  apply (tellsTruth_iff_not_halfDone allCreated_sampleAdapter .associate rfl _).mpr
  rintro ⟨payload, -, -, hhalf⟩
  exact hhalf.cacheFails rfl

end OracleAdapterFactory

end AccountLookup

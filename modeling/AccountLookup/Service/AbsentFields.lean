/-
# Absent and null properties

Two services run side by side on messages that differ only in whether an optional
property is absent or `null`. Most handlers identify the two before they go on; the
query of a participant and the request of an association pass them on as they are,
into the currency match of the finder and into the cache key of the built-in oracle.
The two runs agree as long as these two places treat both spellings alike.
-/

import Mathlib.Data.Option.Basic
import AccountLookup.Implementations.AbsentProperties
import AccountLookup.Implementations.OracleRouting
import AccountLookup.Service.AssociationEvents

namespace AccountLookup

open Library Library.Transition

/-- The payloads differ at most in whether the sub type, the currency or the
destination is absent or `null`. -/
structure Payload.Alike (first second : Payload) : Prop where
  partySubType : first.partySubType.orNull = second.partySubType.orNull
  currency : first.currency.orNull = second.currency.orNull
  destinationFspId : first.destinationFspId.orNull = second.destinationFspId.orNull
  others : second = { first with
    partySubType := second.partySubType
    currency := second.currency
    destinationFspId := second.destinationFspId }

theorem Payload.Alike.exists_eq {first second : Payload} (h : first.Alike second) :
    ∃ partySubType currency destinationFspId,
      second = { first with
        partySubType := partySubType
        currency := currency
        destinationFspId := destinationFspId } ∧
      first.partySubType.orNull = partySubType.orNull ∧ first.currency.orNull = currency.orNull ∧
      first.destinationFspId.orNull = destinationFspId.orNull :=
  ⟨_, _, _, h.others, h.partySubType, h.currency, h.destinationFspId⟩

/-- The messages differ at most in such properties of their payloads. -/
structure IMessage.Alike (first second : IMessage) : Prop where
  payload : Option.Rel Payload.Alike first.payload second.payload
  others : second = { first with payload := second.payload }

/-- The events are of one kind and name the same participants. -/
structure DomainEvent.Alike (first second : DomainEvent) : Prop where
  kind : first.msgName = second.msgName
  fspIds : first.fspIds.map JsString.orNull = second.fspIds.map JsString.orNull

variable {T R : Type}

namespace OracleAdapterFactory

open AccountLookupAggregate

/-- The loaded adapter of the oracle that a party is routed to. -/
def adapterFor (adapters : List (IOracleProviderAdapter (ServiceWorld T R))) (w : FinderWorld)
    (partyType currency : JsString) : Option (IOracleProviderAdapter (ServiceWorld T R)) :=
  (MongoOracleFinderRepo.oracleFor w partyType currency).bind fun oracle =>
    adapters.find? fun adapter => adapter.oracleId = oracle.id

/-- Both spellings of the currency lead to the same stores, or neither leads anywhere. -/
def RoutedAlike (adapters : List (IOracleProviderAdapter (ServiceWorld T R))) (w : FinderWorld)
    (partyType currency currency' : JsString) : Prop :=
  Option.Rel SameStores (adapterFor adapters w partyType currency)
    (adapterFor adapters w partyType currency')

theorem routedAlike_refl (adapters : List (IOracleProviderAdapter (ServiceWorld T R)))
    (w : FinderWorld) (partyType currency : JsString) :
    RoutedAlike adapters w partyType currency currency := by
  unfold RoutedAlike
  cases adapterFor adapters w partyType currency with
  | none => exact .none
  | some adapter => exact .some (Or.inl rfl)

variable [LinearOrder T]

/-- Both spellings lead to the same stores, and where these are the built-in ones, the
caches serve both lookups alike. -/
structure LookupAlike (adapters : List (IOracleProviderAdapter (ServiceWorld T R)))
    (first second : ServiceWorld T R)
    (partyType partyId partySubType partySubType' currency currency' : JsString) : Prop where
  routed : RoutedAlike adapters first.finder partyType currency currency'
  served : ∀ adapter, adapterFor adapters first.finder partyType currency = some adapter →
    adapter.type = .builtin → MongoOracleProviderRepo.ServedAlike first.builtin second.builtin
      partyType partyId partySubType partySubType' currency currency'

theorem LookupAlike.of_stores {adapters : List (IOracleProviderAdapter (ServiceWorld T R))}
    {w w' w₁ w₁' : ServiceWorld T R}
    {partyType partyId partySubType partySubType' currency currency' : JsString}
    (hlookup : LookupAlike adapters w w' partyType partyId partySubType partySubType' currency
      currency')
    (h₁ : w₁.finder = w.finder ∧ w₁.builtin = w.builtin) (h₁' : w₁'.builtin = w'.builtin) :
    LookupAlike adapters w₁ w₁' partyType partyId partySubType partySubType' currency
      currency' := by
  refine ⟨?_, ?_⟩
  · rw [h₁.1]
    exact hlookup.routed
  · rw [h₁.1, h₁.2, h₁']
    exact hlookup.served

variable [Add T] {settings : OracleAdapterFactory T R}
  {participantService : IParticipantServiceAdapter R}
  {adapters : List (IOracleProviderAdapter (ServiceWorld T R))}

variable (settings participantService adapters) in
theorem getOracleAdapter_of_adapterFor (partyType currency : JsString) (w : ServiceWorld T R) :
    (∃ adapter, adapterFor adapters w.finder partyType currency = some adapter ∧
        (settings.loaded participantService adapters).getOracleAdapter partyType currency w =
          (.ok adapter, w)) ∨
      adapterFor adapters w.finder partyType currency = none ∧
        ∃ error, (settings.loaded participantService adapters).getOracleAdapter partyType
          currency w = (.error error, w) := by
  have hsnd : ((settings.loaded participantService adapters).oracleFinder.getOracle partyType
      currency w).2 = w := getOracle_snd partyType currency w
  unfold adapterFor getOracleAdapter
  rcases MongoOracleFinderRepo.getOracle_cases partyType currency w.finder with
    ⟨oracle, horacle, hanswer⟩ | ⟨hnone, error, herror, -⟩
  · have hcall : (settings.loaded participantService adapters).oracleFinder.getOracle partyType
        currency w = (.ok (some oracle), w) := Prod.ext hanswer hsnd
    have hloaded : (settings.loaded participantService adapters).oracleProvidersAdapters =
        adapters := rfl
    simp only [hcall, horacle, Option.bind_some, hloaded]
    cases adapters.find? fun adapter => adapter.oracleId = oracle.id with
    | some adapter => exact Or.inl ⟨adapter, rfl, rfl⟩
    | none => exact Or.inr ⟨rfl, _, rfl⟩
  · have hcall : (settings.loaded participantService adapters).oracleFinder.getOracle partyType
        currency w = (.error error, w) := Prod.ext herror hsnd
    simp only [hcall, hnone, Option.bind_none]
    exact Or.inr ⟨trivial, _, rfl⟩

variable (settings participantService adapters) in
/-- Two validations of one participant find the same fault, or none. -/
theorem validateParticipantInfoOrGetErrorEvent_alike (h : w.SameButCache w')
    (participantId : JsString) :
    ∃ fault w₁ w₁', w₁.SameButCache w₁' ∧
      (∀ errorEvent,
        (settings.loaded participantService adapters).validateParticipantInfoOrGetErrorEvent
          errorEvent participantId w = (Option.map errorEvent fault, w₁)) ∧
      ∀ errorEvent,
        (settings.loaded participantService adapters).validateParticipantInfoOrGetErrorEvent
          errorEvent participantId w' = (Option.map errorEvent fault, w₁') := by
  cases participantId with
  | undefined => exact ⟨some .missingId, w, w', h, fun _ => rfl, fun _ => rfl⟩
  | null => exact ⟨some .missingId, w, w', h, fun _ => rfl, fun _ => rfl⟩
  | str id =>
    by_cases hid : id = ""
    · exact ⟨some .missingId, w, w', h, fun _ => by rw [hid]; rfl, fun _ => by rw [hid]; rfl⟩
    have hservice : ∀ v : ServiceWorld T R,
        (settings.loaded participantService adapters).participantService.getParticipantInfo id v =
          ((participantService.getParticipantInfo id v.remote).1,
            { v with remote := (participantService.getParticipantInfo id v.remote).2 }) :=
      fun _ => rfl
    simp only [validateParticipantInfoOrGetErrorEvent, if_neg hid, hservice, ← h.remote]
    have hworld : ∀ remote : R, ServiceWorld.SameButCache { w with remote := remote }
        { w' with remote := remote } := fun _ => ⟨h.finder, h.builtin, rfl⟩
    rcases participantService.getParticipantInfo id w.remote with ⟨_ | _ | participant, remote⟩
    · exact ⟨some .serviceError, _, _, hworld remote, fun _ => rfl, fun _ => rfl⟩
    · exact ⟨some .notFound, _, _, hworld remote, fun _ => rfl, fun _ => rfl⟩
    · dsimp only
      split_ifs
      · exact ⟨some .idMismatch, _, _, hworld remote, fun _ => rfl, fun _ => rfl⟩
      · exact ⟨some .notApproved, _, _, hworld remote, fun _ => rfl, fun _ => rfl⟩
      · exact ⟨some .notActive, _, _, hworld remote, fun _ => rfl, fun _ => rfl⟩
      · exact ⟨none, _, _, hworld remote, fun _ => rfl, fun _ => rfl⟩

/-- A validation without a fault has asked about a participant that passes. -/
theorem passes_of_validate {participantId : JsString} {w₁ : ServiceWorld T R}
    (h : ∀ errorEvent,
      (settings.loaded participantService adapters).validateParticipantInfoOrGetErrorEvent
        errorEvent participantId w = (none, w₁)) :
    (settings.loaded participantService adapters).ParticipantPasses participantId w w₁ := by
  have hnone := h (requesterErrorEvent .null .null .null .null)
  rcases (settings.loaded participantService adapters).validateParticipantInfoOrGetErrorEvent_cases
    (requesterErrorEvent .null .null .null .null) participantId w with
    ⟨w₂, hpasses, hpass⟩ | ⟨fault, w₂, hfault, -⟩
  · exact (Prod.mk.inj (hpasses.symm.trans hnone)).2 ▸ hpass
  · cases hfault.symm.trans hnone

variable (settings participantService) in
/-- Two routings find adapters with the same stores, or none. -/
theorem getOracleAdapter_alike (h : w.SameButCache w')
    (hrouted : RoutedAlike adapters w.finder partyType currency currency') :
    (∃ adapter adapter', adapter ∈ adapters ∧ adapter' ∈ adapters ∧
        adapterFor adapters w.finder partyType currency = some adapter ∧
        SameStores adapter adapter' ∧
        (settings.loaded participantService adapters).getOracleAdapter partyType currency w =
          (.ok adapter, w) ∧
        (settings.loaded participantService adapters).getOracleAdapter partyType currency' w' =
          (.ok adapter', w')) ∨
      ∃ error error',
        (settings.loaded participantService adapters).getOracleAdapter partyType currency w =
          (.error error, w) ∧
        (settings.loaded participantService adapters).getOracleAdapter partyType currency' w' =
          (.error error', w') := by
  have hsecond := getOracleAdapter_of_adapterFor settings participantService adapters partyType
    currency' w'
  rw [← h.finder] at hsecond
  unfold RoutedAlike at hrouted
  rcases getOracleAdapter_of_adapterFor settings participantService adapters partyType currency w
    with
    ⟨adapter, hfor, hcall⟩ | ⟨hfor, error, hcall⟩ <;>
  rcases hsecond with ⟨adapter', hfor', hcall'⟩ | ⟨hfor', error', hcall'⟩ <;>
  rw [hfor, hfor'] at hrouted
  · cases hrouted with
    | some hstores =>
      exact Or.inl ⟨adapter, adapter', mem_of_getOracleAdapter hcall,
        mem_of_getOracleAdapter hcall', hfor, hstores, hcall, hcall'⟩
  · cases hrouted
  · cases hrouted
  · exact Or.inr ⟨error, error', hcall, hcall'⟩

variable (participantService) in
theorem getParticipantIdFromOracle_alike (hall : settings.AllCreated adapters)
    (h : w.SameButCache w') (hsub : partySubType.orNull = partySubType'.orNull)
    (hcurrency : currency.orNull = currency'.orNull)
    (hlookup : LookupAlike adapters w w' partyType partyId partySubType partySubType' currency
      currency') :
    Lockstep Eq ServiceWorld.SameButCache
      ((settings.loaded participantService adapters).getParticipantIdFromOracle partyId partyType
        partySubType currency w)
      ((settings.loaded participantService adapters).getParticipantIdFromOracle partyId partyType
        partySubType' currency' w') := by
  unfold getParticipantIdFromOracle
  rcases getOracleAdapter_alike settings participantService h hlookup.routed with
    ⟨adapter, adapter', hmem, hmem', hfor, hstores, hcall, hcall'⟩ | ⟨error, error', hcall, hcall'⟩
  · rcases (getParticipantFspId_alike hstores (hall adapter hmem) (hall adapter' hmem') h hsub
        hcurrency (hlookup.served adapter hfor)).cases with
      ⟨fspId, _, w₁, w₁', hasked, hasked', rfl, hworld⟩ | ⟨error, error', w₁, w₁', hasked, hasked',
        hworld⟩
    · simp only [hcall, hcall', hasked, hasked']
      cases fspId.truthy with
      | true => exact .ok rfl hworld
      | false => exact .error hworld
    · simp only [hcall, hcall', hasked, hasked']
      exact .error hworld
  · simp only [hcall, hcall']
    exact .error h

theorem requesterErrorEvent_alike (partySubType partySubType' participantId : JsString)
    (fault : ParticipantFault) :
    (requesterErrorEvent partyId partyType partySubType participantId fault).Alike
      (requesterErrorEvent partyId partyType partySubType' participantId fault) := by
  cases fault <;> exact ⟨rfl, rfl⟩

theorem destinationErrorEvent_alike (partySubType partySubType' participantId : JsString)
    (fault : ParticipantFault) :
    (destinationErrorEvent partyId partyType partySubType participantId fault).Alike
      (destinationErrorEvent partyId partyType partySubType' participantId fault) := by
  cases fault <;> exact ⟨rfl, rfl⟩

variable (settings participantService adapters) in
/-- What two services must have in common before they handle a request in two
spellings: where the handler gets as far as an oracle, both get to the same one, and
are told the same. -/
def ReadsAlike (w w' : ServiceWorld T R) (payload payload' : Payload) : RequestEvt → Prop
  | .participantQueryReceivedEvt =>
    (∃ w₁, (settings.loaded participantService adapters).ParticipantPasses
        payload.requesterFspId w w₁) →
      LookupAlike adapters w w' payload.partyType payload.partyId payload.partySubType
        payload'.partySubType payload.currency payload'.currency
  | .partyQueryReceivedEvt =>
    (∃ w₁, (settings.loaded participantService adapters).ParticipantPasses
        payload.requesterFspId w w₁) → payload.destinationFspId.truthy = false →
      LookupAlike adapters w w' payload.partyType.orNull payload.partyId.orNull
        payload.partySubType.orNull payload'.partySubType.orNull payload.currency.orNull
        payload'.currency.orNull
  | .participantAssociationRequestReceivedEvt =>
    (∃ w₁, (settings.loaded participantService adapters).ParticipantPasses
        payload.ownerFspId w w₁) →
      RoutedAlike adapters w.finder payload.partyType payload.currency payload'.currency
  | _ => True

variable {payload payload' : Payload}

theorem relayBetweenParticipants_alike (h : w.SameButCache w') (hpayload : payload.Alike payload')
    {answer answer' : DomainEvent} (hanswer : answer.Alike answer') :
    Lockstep DomainEvent.Alike ServiceWorld.SameButCache
      ((settings.loaded participantService adapters).relayBetweenParticipants payload answer w)
      ((settings.loaded participantService adapters).relayBetweenParticipants payload' answer'
        w') := by
  obtain ⟨partySubType, currency, destinationFspId, rfl, hsub, -, hdestination⟩ :=
    hpayload.exists_eq
  obtain ⟨fault, w₁, w₁', h₁, hvalid, hvalid'⟩ := validateParticipantInfoOrGetErrorEvent_alike
    settings participantService adapters h payload.requesterFspId.orNull
  simp only [relayBetweenParticipants, validateRequesterParticipantInfoOrGetErrorEvent,
    validateDestinationParticipantInfoOrGetErrorEvent, ← hsub, ← hdestination, hvalid, hvalid']
  cases fault with
  | some fault => exact .ok (requesterErrorEvent_alike _ _ _ fault) h₁
  | none =>
    obtain ⟨fault, w₂, w₂', h₂, hvalid, hvalid'⟩ := validateParticipantInfoOrGetErrorEvent_alike
      settings participantService adapters h₁ payload.destinationFspId.orNull
    simp only [Option.map_none, hvalid, hvalid']
    cases fault with
    | some fault => exact .ok (destinationErrorEvent_alike _ _ _ fault) h₂
    | none => exact .ok hanswer h₂

variable (participantService) in
theorem partyQueryDestination_alike (hall : settings.AllCreated adapters)
    (h : w.SameButCache w') (hpayload : payload.Alike payload')
    (hlookup : payload.destinationFspId.truthy = false → LookupAlike adapters w w'
      payload.partyType.orNull payload.partyId.orNull payload.partySubType.orNull
      payload'.partySubType.orNull payload.currency.orNull payload'.currency.orNull) :
    (∃ fspId w₁ w₁',
        (settings.loaded participantService adapters).partyQueryDestination payload w =
          (.ok fspId, w₁) ∧
        (settings.loaded participantService adapters).partyQueryDestination payload' w' =
          (.ok fspId, w₁') ∧ w₁.SameButCache w₁') ∨
      ∃ event event' w₁ w₁',
        (settings.loaded participantService adapters).partyQueryDestination payload w =
          (.error event, w₁) ∧
        (settings.loaded participantService adapters).partyQueryDestination payload' w' =
          (.error event', w₁') ∧ event.Alike event' ∧ w₁.SameButCache w₁' := by
  obtain ⟨partySubType, currency, destinationFspId, rfl, hsub, hcurrency, hdestination⟩ :=
    hpayload.exists_eq
  simp only [partyQueryDestination, ← hdestination, JsString.truthy_orNull]
  cases htruthy : payload.destinationFspId.truthy with
  | true => exact Or.inl ⟨_, w, w', rfl, rfl, h⟩
  | false =>
    rcases (getParticipantIdFromOracle_alike participantService hall h
        (congrArg JsString.orNull hsub) (congrArg JsString.orNull hcurrency)
        (hlookup htruthy)).cases with
      ⟨fspId, _, w₁, w₁', hasked, hasked', rfl, h₁⟩ | ⟨error, error', w₁, w₁', hasked, hasked', h₁⟩
    · simp only [hasked, hasked']
      exact Or.inl ⟨fspId, w₁, w₁', rfl, rfl, h₁⟩
    · simp only [hasked, hasked']
      exact Or.inr ⟨_, _, w₁, w₁', rfl, rfl, ⟨rfl, rfl⟩, h₁⟩

theorem handlePartyQueryReceivedEvt_alike (hall : settings.AllCreated adapters)
    (h : w.SameButCache w') (hpayload : payload.Alike payload')
    (hreads : settings.ReadsAlike participantService adapters w w' payload payload'
      .partyQueryReceivedEvt) :
    Lockstep DomainEvent.Alike ServiceWorld.SameButCache
      ((settings.loaded participantService adapters).handlePartyQueryReceivedEvt payload w)
      ((settings.loaded participantService adapters).handlePartyQueryReceivedEvt payload' w') := by
  obtain ⟨partySubType, currency, destinationFspId, rfl, hsub, -, -⟩ := hpayload.exists_eq
  obtain ⟨fault, w₁, w₁', h₁, hvalid, hvalid'⟩ := validateParticipantInfoOrGetErrorEvent_alike
    settings participantService adapters h payload.requesterFspId.orNull
  simp only [handlePartyQueryReceivedEvt, validateRequesterParticipantInfoOrGetErrorEvent,
    validateDestinationParticipantInfoOrGetErrorEvent, hvalid, hvalid', ← hsub]
  cases fault with
  | some fault => exact .ok (requesterErrorEvent_alike _ _ _ fault) h₁
  | none =>
    have hpasses := passes_of_validate hvalid
    have hstores := stores_of_participantPasses hpasses
    have hstores' := stores_of_participantPasses (passes_of_validate hvalid')
    rcases partyQueryDestination_alike participantService hall h₁ hpayload fun hfalsy =>
        (hreads ⟨w₁, participantPasses_orNull.mp hpasses⟩ hfalsy).of_stores hstores hstores'.2
      with ⟨fspId, w₂, w₂', hfound, hfound', h₂⟩ | ⟨event, event', w₂, w₂', hfailed, hfailed',
        halike, h₂⟩
    · obtain ⟨fault, w₃, w₃', h₃, hvalid, hvalid'⟩ := validateParticipantInfoOrGetErrorEvent_alike
        settings participantService adapters h₂ fspId
      simp only [Option.map_none, hfound, hfound', hvalid, hvalid']
      cases fault with
      | some fault => exact .ok (destinationErrorEvent_alike _ _ _ fault) h₃
      | none => exact .ok ⟨rfl, rfl⟩ h₃
    · simp only [Option.map_none, hfailed, hfailed']
      exact .ok halike h₂

theorem handleParticipantQueryReceivedEvt_alike (hall : settings.AllCreated adapters)
    (h : w.SameButCache w') (hpayload : payload.Alike payload')
    (hreads : settings.ReadsAlike participantService adapters w w' payload payload'
      .participantQueryReceivedEvt) :
    Lockstep DomainEvent.Alike ServiceWorld.SameButCache
      ((settings.loaded participantService adapters).handleParticipantQueryReceivedEvt payload w)
      ((settings.loaded participantService adapters).handleParticipantQueryReceivedEvt payload'
        w') := by
  obtain ⟨partySubType, currency, destinationFspId, rfl, hsub, hcurrency, -⟩ := hpayload.exists_eq
  obtain ⟨fault, w₁, w₁', h₁, hvalid, hvalid'⟩ := validateParticipantInfoOrGetErrorEvent_alike
    settings participantService adapters h payload.requesterFspId
  simp only [handleParticipantQueryReceivedEvt, validateRequesterParticipantInfoOrGetErrorEvent,
    validateDestinationParticipantInfoOrGetErrorEvent, hvalid, hvalid']
  cases fault with
  | some fault => exact .ok (requesterErrorEvent_alike _ _ _ fault) h₁
  | none =>
    have hpasses := passes_of_validate hvalid
    have hstores := stores_of_participantPasses hpasses
    have hstores' := stores_of_participantPasses (passes_of_validate hvalid')
    rcases (getParticipantIdFromOracle_alike participantService hall h₁ hsub hcurrency
        ((hreads ⟨w₁, hpasses⟩).of_stores hstores hstores'.2)).cases with
      ⟨fspId, _, w₂, w₂', hfound, hfound', rfl, h₂⟩ | ⟨error, error', w₂, w₂', hfailed, hfailed',
        h₂⟩
    · obtain ⟨fault, w₃, w₃', h₃, hvalid, hvalid'⟩ := validateParticipantInfoOrGetErrorEvent_alike
        settings participantService adapters h₂ fspId
      simp only [Option.map_none, hfound, hfound', hvalid, hvalid']
      cases fault with
      | some fault => exact .ok (destinationErrorEvent_alike _ _ _ fault) h₃
      | none => exact .ok ⟨rfl, rfl⟩ h₃
    · simp only [Option.map_none, hfailed, hfailed']
      exact .ok ⟨rfl, rfl⟩ h₂

theorem handleParticipantAssociationRequestReceivedEvt_alike (hall : settings.AllCreated adapters)
    (h : w.SameButCache w') (hpayload : payload.Alike payload')
    (hreads : settings.ReadsAlike participantService adapters w w' payload payload'
      .participantAssociationRequestReceivedEvt) :
    Lockstep DomainEvent.Alike ServiceWorld.SameButCache
      ((settings.loaded participantService
        adapters).handleParticipantAssociationRequestReceivedEvt payload w)
      ((settings.loaded participantService
        adapters).handleParticipantAssociationRequestReceivedEvt payload' w') := by
  obtain ⟨partySubType, currency, destinationFspId, rfl, hsub, hcurrency, -⟩ := hpayload.exists_eq
  obtain ⟨fault, w₁, w₁', h₁, hvalid, hvalid'⟩ := validateParticipantInfoOrGetErrorEvent_alike
    settings participantService adapters h payload.ownerFspId
  simp only [handleParticipantAssociationRequestReceivedEvt,
    validateRequesterParticipantInfoOrGetErrorEvent, hvalid, hvalid']
  cases fault with
  | some fault => exact .ok (requesterErrorEvent_alike _ _ _ fault) h₁
  | none =>
    have hpasses := passes_of_validate hvalid
    have hrouted : RoutedAlike adapters w₁.finder payload.partyType payload.currency currency := by
      rw [(stores_of_participantPasses hpasses).1]
      exact hreads ⟨w₁, hpasses⟩
    rcases getOracleAdapter_alike settings participantService h₁ hrouted with
      ⟨adapter, adapter', hmem, hmem', -, hstores, hcall, hcall'⟩ | ⟨error, error', hcall, hcall'⟩
    · rcases (associateParticipant_alike payload.ownerFspId payload.partyType payload.partyId
          hstores (hall adapter hmem) (hall adapter' hmem') h₁ hsub hcurrency).cases with
        ⟨_, _, w₂, w₂', hdone, hdone', -, h₂⟩ | ⟨error, error', w₂, w₂', hdone, hdone', h₂⟩
      · simp only [Option.map_none, hcall, hcall', hdone, hdone']
        exact .ok ⟨rfl, rfl⟩ h₂
      · simp only [Option.map_none, hcall, hcall', hdone, hdone']
        exact .ok ⟨rfl, rfl⟩ h₂
    · simp only [Option.map_none, hcall, hcall']
      exact .ok ⟨rfl, rfl⟩ h₁

/-- The removal identifies the spellings before anything else. -/
theorem handleParticipantDisassociateRequestReceivedEvt_alike (hall : settings.AllCreated adapters)
    (h : w.SameButCache w') (hpayload : payload.Alike payload') :
    Lockstep DomainEvent.Alike ServiceWorld.SameButCache
      ((settings.loaded participantService
        adapters).handleParticipantDisassociateRequestReceivedEvt payload w)
      ((settings.loaded participantService
        adapters).handleParticipantDisassociateRequestReceivedEvt payload' w') := by
  obtain ⟨partySubType, currency, destinationFspId, rfl, hsub, hcurrency, -⟩ := hpayload.exists_eq
  obtain ⟨fault, w₁, w₁', h₁, hvalid, hvalid'⟩ := validateParticipantInfoOrGetErrorEvent_alike
    settings participantService adapters h payload.ownerFspId.orNull
  simp only [handleParticipantDisassociateRequestReceivedEvt,
    validateRequesterParticipantInfoOrGetErrorEvent, ← hsub, ← hcurrency, hvalid, hvalid']
  cases fault with
  | some fault => exact .ok (requesterErrorEvent_alike _ _ _ fault) h₁
  | none =>
    rcases getOracleAdapter_alike settings participantService h₁
        (routedAlike_refl adapters w₁.finder payload.partyType.orNull payload.currency.orNull) with
      ⟨adapter, adapter', hmem, hmem', -, hstores, hcall, hcall'⟩ | ⟨error, error', hcall, hcall'⟩
    · rcases (disassociateParticipant_alike payload.ownerFspId.orNull payload.partyType.orNull
          payload.partyId.orNull payload.partySubType.orNull payload.currency.orNull hstores
          (hall adapter hmem) (hall adapter' hmem') h₁).cases with
        ⟨_, _, w₂, w₂', hdone, hdone', -, h₂⟩ | ⟨error, error', w₂, w₂', hdone, hdone', h₂⟩
      · simp only [Option.map_none, hcall, hcall', hdone, hdone']
        exact .ok ⟨rfl, rfl⟩ h₂
      · simp only [Option.map_none, hcall, hcall', hdone, hdone']
        exact .ok ⟨rfl, rfl⟩ h₂
    · simp only [Option.map_none, hcall, hcall']
      exact .ok ⟨rfl, rfl⟩ h₁

theorem handlerOf_alike (hall : settings.AllCreated adapters) (h : w.SameButCache w')
    (hpayload : payload.Alike payload') (request : RequestEvt)
    (hreads : settings.ReadsAlike participantService adapters w w' payload payload' request) :
    Lockstep DomainEvent.Alike ServiceWorld.SameButCache
      ((settings.loaded participantService adapters).handlerOf request payload w)
      ((settings.loaded participantService adapters).handlerOf request payload' w') := by
  cases request with
  | partyQueryReceivedEvt => exact handlePartyQueryReceivedEvt_alike hall h hpayload hreads
  | partyInfoAvailableEvt =>
    refine relayBetweenParticipants_alike h hpayload ⟨rfl, ?_⟩
    obtain ⟨partySubType, currency, destinationFspId, rfl, -, -, hdestination⟩ :=
      hpayload.exists_eq
    simp only [DomainEvent.fspIds, List.map_cons, List.map_nil, hdestination]
  | participantQueryReceivedEvt =>
    exact handleParticipantQueryReceivedEvt_alike hall h hpayload hreads
  | participantAssociationRequestReceivedEvt =>
    exact handleParticipantAssociationRequestReceivedEvt_alike hall h hpayload hreads
  | participantDisassociateRequestReceivedEvt =>
    exact handleParticipantDisassociateRequestReceivedEvt_alike hall h hpayload
  | partyRejectedEvt => exact relayBetweenParticipants_alike h hpayload ⟨rfl, rfl⟩
  | participantRejectedEvt => exact relayBetweenParticipants_alike h hpayload ⟨rfl, rfl⟩

/-- The check before the dispatch passes both messages, or reports both alike. -/
theorem validateMessageOrGetErrorEvent_alike {message message' : IMessage}
    (hmessage : message.Alike message') :
    Option.Rel DomainEvent.Alike (validateMessageOrGetErrorEvent message)
      (validateMessageOrGetErrorEvent message') := by
  obtain ⟨msgName, msgType, payload, protocolType, opaqueState⟩ := message
  obtain ⟨msgName', msgType', payload', protocolType', opaqueState'⟩ := message'
  obtain ⟨hpayload, hothers⟩ := hmessage
  obtain ⟨rfl, rfl, -, rfl, rfl⟩ := IMessage.mk.inj hothers
  unfold validateMessageOrGetErrorEvent
  cases hpayload with
  | none => exact .some ⟨rfl, rfl⟩
  | some hpayload =>
    obtain ⟨partySubType, currency, destinationFspId, rfl, -⟩ := hpayload.exists_eq
    by_cases htype : msgType' = .domainEvent
    · simp only [Option.isNone_some, Bool.false_eq_true, if_false, htype, ne_eq, not_true]
      exact .none
    · simp only [Option.isNone_some, Bool.false_eq_true, if_false, htype, ne_eq, not_false_eq_true,
        if_true]
      exact .some ⟨rfl, rfl⟩

variable (settings participantService adapters) in
/-- What two services must have in common before they handle two messages that are alike:
where the messages get as far as a handler, its reads must agree. -/
def MessagesReadAlike (w w' : ServiceWorld T R) (message message' : IMessage) : Prop :=
  ∀ request payload payload', message.msgName = request.name → message.msgType = .domainEvent →
    message.payload = some payload → message'.payload = some payload' →
    settings.ReadsAlike participantService adapters w w' payload payload' request

theorem messagesReadAlike_of {message message' : IMessage} (request : RequestEvt)
    (hname : message.msgName = request.name) (hpayload : message.payload = some payload)
    (hpayload' : message'.payload = some payload')
    (hreads : settings.ReadsAlike participantService adapters w w' payload payload' request) :
    settings.MessagesReadAlike participantService adapters w w' message message' := by
  intro request' other other' hname' _ hother hother'
  obtain rfl := Option.some.inj (hpayload.symm.trans hother)
  obtain rfl := Option.some.inj (hpayload'.symm.trans hother')
  have hrequest : some request = some request' := by
    rw [← RequestEvt.ofName_name, ← RequestEvt.ofName_name, ← hname, hname']
  obtain rfl := Option.some.inj hrequest
  exact hreads

/-- **Two messages that are alike.** When the reads of the two services agree, so do the
events they publish, and the services then differ at most in what they have cached. -/
theorem handleEvent_alike (hall : settings.AllCreated adapters) (h : w.SameButCache w')
    {message message' : IMessage} (hmessage : message.Alike message')
    (hreads : settings.MessagesReadAlike participantService adapters w w' message message') :
    ((settings.loaded participantService adapters).handleEvent message w).1.event.Alike
        ((settings.loaded participantService adapters).handleEvent message' w').1.event ∧
      ((settings.loaded participantService adapters).handleEvent message w).2.SameButCache
        ((settings.loaded participantService adapters).handleEvent message' w').2 := by
  have hname : message'.msgName = message.msgName := by rw [hmessage.others]
  have hchecked := validateMessageOrGetErrorEvent_alike hmessage
  rcases validateMessageOrGetErrorEvent_cases message with
    ⟨payload, hpayload, htype, hvalid⟩ | ⟨event, hinvalid, -⟩
  · obtain ⟨payload', hpayload', halike⟩ : ∃ payload', message'.payload = some payload' ∧
        payload.Alike payload' := by
      have hrel := hmessage.payload
      rw [hpayload] at hrel
      cases hpayload' : message'.payload with
      | none => rw [hpayload'] at hrel; cases hrel
      | some payload' =>
        rw [hpayload'] at hrel
        cases hrel with
        | some halike => exact ⟨payload', rfl, halike⟩
    have hvalid' : validateMessageOrGetErrorEvent message' = none := by
      rw [hvalid] at hchecked
      cases hsecond : validateMessageOrGetErrorEvent message' with
      | none => rfl
      | some event => rw [hsecond] at hchecked; cases hchecked
    obtain ⟨partySubType, currency, destinationFspId, rfl, -⟩ := halike.exists_eq
    simp only [handleEvent, hvalid, hvalid', hname, hpayload, hpayload', Option.getD_some]
    cases hrequest : RequestEvt.ofName message.msgName with
    | none => exact ⟨⟨rfl, rfl⟩, h⟩
    | some request =>
      rcases (handlerOf_alike hall h halike request (hreads request payload _
          (RequestEvt.ofName_eq_some_iff.mp hrequest) htype hpayload hpayload')).cases with
        ⟨event, event', w₁, w₁', hhandled, hhandled', hevents, h₁⟩ |
          ⟨error, error', w₁, w₁', hhandled, hhandled', h₁⟩
      · simp only [hhandled, hhandled']
        exact ⟨hevents, h₁⟩
      · simp only [hhandled, hhandled']
        exact ⟨⟨rfl, rfl⟩, h₁⟩
  · rw [hinvalid] at hchecked
    cases hinvalid' : validateMessageOrGetErrorEvent message' with
    | none => rw [hinvalid'] at hchecked; cases hchecked
    | some event' =>
      rw [hinvalid'] at hchecked
      cases hchecked with
      | some hevents =>
        simp only [handleEvent, hinvalid, hinvalid']
        exact ⟨hevents, h⟩

end OracleAdapterFactory

/-! ## Runs -/

/-- What befalls two services that run side by side. -/
inductive TwinStep (T : Type)
  /-- Each is given its spelling of a message. -/
  | message (first second : IMessage) (alike : first.Alike second)
  /-- Each cache drops a key before its time. -/
  | expire (key key' : String)
  /-- The clock moves on to the given instant. -/
  | wait (until_ : T)

namespace ServiceWorld

variable [LinearOrder T]

def expire (w : ServiceWorld T R) (key : String) : ServiceWorld T R :=
  { w with builtin := { w.builtin with cache := w.builtin.cache.del key } }

def wait (w : ServiceWorld T R) (until_ : T) : ServiceWorld T R :=
  { w with builtin := { w.builtin with now := max w.builtin.now until_ } }

end ServiceWorld

namespace OracleAdapterFactory

variable [LinearOrder T] [Add T] (settings : OracleAdapterFactory T R)
  (participantService : IParticipantServiceAdapter R)
  (adapters : List (IOracleProviderAdapter (ServiceWorld T R)))

/-- The worlds of the two services after one step. -/
def twinStep (s : ServiceWorld T R × ServiceWorld T R) :
    TwinStep T → ServiceWorld T R × ServiceWorld T R
  | .message first second _ =>
    (((settings.loaded participantService adapters).handleEvent first s.1).2,
      ((settings.loaded participantService adapters).handleEvent second s.2).2)
  | .expire key key' => (s.1.expire key, s.2.expire key')
  | .wait until_ => (s.1.wait until_, s.2.wait until_)

/-- The two services publish events of one kind with the same participants. -/
def EventsAlike (s : ServiceWorld T R × ServiceWorld T R) : TwinStep T → Prop
  | .message first second _ =>
    ((settings.loaded participantService adapters).handleEvent first s.1).1.event.Alike
      ((settings.loaded participantService adapters).handleEvent second s.2).1.event
  | _ => True

/-- The spelling of a message changes neither the event nor the associations that are
stored after the step, in the built-in collection or by a remote oracle. -/
structure SpellingIrrelevant (s : ServiceWorld T R × ServiceWorld T R) (step : TwinStep T) :
    Prop where
  events : settings.EventsAlike participantService adapters s step
  parties : (settings.twinStep participantService adapters s step).1.builtin.parties =
    (settings.twinStep participantService adapters s step).2.builtin.parties
  remote : (settings.twinStep participantService adapters s step).1.remote =
    (settings.twinStep participantService adapters s step).2.remote

/-- The reads that the two services make in a step agree. -/
def StepReadsAlike (s : ServiceWorld T R × ServiceWorld T R) : TwinStep T → Prop
  | .message first second _ =>
    settings.MessagesReadAlike participantService adapters s.1 s.2 first second
  | _ => True

variable {settings participantService adapters}

theorem sameButCache_twinStep (hall : settings.AllCreated adapters)
    {s : ServiceWorld T R × ServiceWorld T R} (h : s.1.SameButCache s.2) {step : TwinStep T}
    (hreads : settings.StepReadsAlike participantService adapters s step) :
    (settings.twinStep participantService adapters s step).1.SameButCache
      (settings.twinStep participantService adapters s step).2 := by
  cases step with
  | message first second halike => exact (handleEvent_alike hall h halike hreads).2
  | expire key key' =>
    exact ⟨h.finder, ⟨h.builtin.parties, h.builtin.now, h.builtin.failure⟩, h.remote⟩
  | wait until_ =>
    have hnow : max s.1.builtin.now until_ = max s.2.builtin.now until_ := by rw [h.builtin.now]
    exact ⟨h.finder, ⟨h.builtin.parties, hnow, h.builtin.failure⟩, h.remote⟩

theorem spellingIrrelevant_of_stepReadsAlike (hall : settings.AllCreated adapters)
    {s : ServiceWorld T R × ServiceWorld T R} (h : s.1.SameButCache s.2) {step : TwinStep T}
    (hreads : settings.StepReadsAlike participantService adapters s step) :
    settings.SpellingIrrelevant participantService adapters s step := by
  have hafter := sameButCache_twinStep hall h hreads
  refine ⟨?_, hafter.builtin.parties, hafter.remote⟩
  cases step with
  | message first second halike => exact (handleEvent_alike hall h halike hreads).1
  | expire key key' => trivial
  | wait until_ => trivial

variable (participantService) in
/-- **Two spellings of one run.** When each step's reads agree, the spelling of the
messages is irrelevant throughout the run. -/
theorem spellingIrrelevant_throughout (hall : settings.AllCreated adapters)
    (w : ServiceWorld T R) (steps : List (TwinStep T))
    (hreads : Along (settings.twinStep participantService adapters)
      (settings.StepReadsAlike participantService adapters) (w, w) steps) :
    Along (settings.twinStep participantService adapters)
      (settings.SpellingIrrelevant participantService adapters) (w, w) steps := by
  refine along_of_invariant (fun s => s.1.SameButCache s.2) ?_ ?_ steps (w, w) ?_ hreads
  · exact fun s step h hreads => spellingIrrelevant_of_stepReadsAlike hall h hreads
  · exact fun s step h hreads => sameButCache_twinStep hall h hreads
  · exact ⟨rfl, ⟨rfl, rfl, rfl⟩, rfl⟩

/-- A message of a participant about its own phone number, with one spelling of the
optional properties. -/
def sampleSpelled (request : RequestEvt) (spelling : JsString) : IMessage where
  msgName := request.name
  msgType := .domainEvent
  payload := some { Payload.blank with
    partyId := .str "27713803912"
    partyType := .str "MSISDN"
    partySubType := spelling
    currency := spelling
    requesterFspId := .str "greenbank"
    ownerFspId := .str "greenbank" }
  inboundProtocolType := .undefined
  inboundProtocolOpaqueState := none

/-- The message with the properties absent, and with the properties `null`. -/
def sampleTwins (request : RequestEvt) : TwinStep ℕ :=
  .message (sampleSpelled request .undefined) (sampleSpelled request .null)
    ⟨.some ⟨rfl, rfl, rfl, rfl⟩, rfl⟩

/-- The association is created and removed. Where the properties are absent, its cache
entry has another key than the one that the removal deletes, and still answers. -/
theorem not_forall_spellingIrrelevant :
    ¬ ∀ (settings : OracleAdapterFactory ℕ Unit)
      (participantService : IParticipantServiceAdapter Unit)
      (adapters : List (IOracleProviderAdapter (ServiceWorld ℕ Unit))) (w : ServiceWorld ℕ Unit)
      (steps : List (TwinStep ℕ)), settings.AllCreated adapters → w.builtin.parties = [] →
      w.builtin.cache = TtlCache.empty →
      Along (settings.twinStep participantService adapters)
        (settings.SpellingIrrelevant participantService adapters) (w, w) steps := by
  intro h
  obtain ⟨-, -, hquery, -⟩ := h sampleSettings welcomingParticipants [sampleAdapter]
    (sampleWorld.withOracles [sampleRepo.oracle])
    [sampleTwins .participantAssociationRequestReceivedEvt,
      sampleTwins .participantDisassociateRequestReceivedEvt,
      sampleTwins .participantQueryReceivedEvt] allCreated_sampleAdapter rfl rfl
  have hkind : "ParticipantQueryResponseEvt" =
      "AccountLookUpUnableToGetParticipantFromOracleErrorEvent" := hquery.events.kind
  exact absurd hkind (by decide)

/-- Without the removal the spelling is irrelevant. -/
theorem spellingIrrelevant_associated :
    Along (sampleSettings.twinStep welcomingParticipants [sampleAdapter])
      (sampleSettings.SpellingIrrelevant welcomingParticipants [sampleAdapter])
      (sampleWorld.withOracles [sampleRepo.oracle], sampleWorld.withOracles [sampleRepo.oracle])
      [sampleTwins .participantAssociationRequestReceivedEvt,
        sampleTwins .participantQueryReceivedEvt] := by
  have hrouted : Option.Rel SameStores (some sampleAdapter) (some sampleAdapter) :=
    .some (Or.inl rfl)
  refine spellingIrrelevant_throughout welcomingParticipants allCreated_sampleAdapter _ _
    ⟨messagesReadAlike_of .participantAssociationRequestReceivedEvt rfl rfl rfl fun _ => hrouted,
      messagesReadAlike_of .participantQueryReceivedEvt rfl rfl rfl fun _ =>
        ⟨hrouted, fun _ _ _ _ hne => ?_⟩, trivial⟩
  exact absurd (by decide) hne

end OracleAdapterFactory

end AccountLookup

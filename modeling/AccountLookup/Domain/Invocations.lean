/-
# Which adapters are asked

A world is given a list of the adapters that have been asked in it, and every adapter
is made to enter itself there before it answers. The aggregate does on such a world
what it does without the list, and whatever it enters is the id of a loaded adapter.
-/

import AccountLookup.Domain.Collaborators
import AccountLookup.Domain.LookupEntryPoints

namespace AccountLookup

/-- A world, and the ids of the adapters asked in it so far. -/
structure Invocations (W : Type) where
  world : W
  invoked : List String

namespace Invocations

variable {W α : Type}

def worldPart : Component (Invocations W) W where
  get w := w.world
  set w world := { w with world := world }
  get_set _ _ := rfl
  set_get _ := rfl

/-- The call of an adapter, which enters the adapter. -/
def noted (oracleId : String) (call : Call W α) : Call (Invocations W) α := fun w =>
  ((call w.world).1, ⟨(call w.world).2, w.invoked ++ [oracleId]⟩)

end Invocations

open Invocations

/-- The adapter, entering itself whenever it is asked. -/
def IOracleProviderAdapter.recording {W : Type} (adapter : IOracleProviderAdapter W) :
    IOracleProviderAdapter (Invocations W) where
  oracleId := adapter.oracleId
  type := adapter.type
  init := noted adapter.oracleId adapter.init
  destroy := noted adapter.oracleId adapter.destroy
  healthCheck := noted adapter.oracleId adapter.healthCheck
  getParticipantFspId partyType partyId partySubType currency :=
    noted adapter.oracleId (adapter.getParticipantFspId partyType partyId partySubType currency)
  associateParticipant fspId partyType partyId partySubType currency :=
    noted adapter.oracleId
      (adapter.associateParticipant fspId partyType partyId partySubType currency)
  disassociateParticipant fspId partyType partyId partySubType currency :=
    noted adapter.oracleId
      (adapter.disassociateParticipant fspId partyType partyId partySubType currency)
  getAllAssociations := noted adapter.oracleId adapter.getAllAssociations
  searchAssociations fspId partyId partyType partySubType currency pageIndex pageSize :=
    noted adapter.oracleId (adapter.searchAssociations fspId partyId partyType partySubType
      currency pageIndex pageSize)
  getSearchKeywords := noted adapter.oracleId adapter.getSearchKeywords

namespace AccountLookupAggregate

variable {W α : Type} (agg : AccountLookupAggregate W)

/-- The aggregate, all of whose adapters enter themselves. -/
def recording : AccountLookupAggregate (Invocations W) where
  oracleFinder := agg.oracleFinder.on worldPart
  oracleProvidersFactory := ⟨fun oracle w =>
    let created := agg.oracleProvidersFactory.create oracle w.world
    (created.1.map IOracleProviderAdapter.recording, ⟨created.2, w.invoked⟩)⟩
  participantService := agg.participantService.on worldPart
  oracleProvidersAdapters := agg.oracleProvidersAdapters.map IOracleProviderAdapter.recording

/-- The ids of the loaded adapters. -/
def loadedIds : List String := agg.oracleProvidersAdapters.map IOracleProviderAdapter.oracleId

/-- The recorded outcome is the plain one, and what has been entered on the way are ids of
loaded adapters. -/
def Records (invoked : List String) (plain : α × W) (recorded : α × Invocations W) : Prop :=
  ∃ ids, (∀ id ∈ ids, id ∈ agg.loadedIds) ∧ recorded = (plain.1, ⟨plain.2, invoked ++ ids⟩)

variable {agg} in
theorem records_refl (invoked : List String) (plain : α × W) :
    agg.Records invoked plain (plain.1, ⟨plain.2, invoked⟩) :=
  ⟨[], fun _ h => (by cases h), by rw [List.append_nil]⟩

variable {agg} in
/-- One call of a loaded adapter. -/
theorem records_noted {adapter : IOracleProviderAdapter W}
    (h : adapter ∈ agg.oracleProvidersAdapters) (invoked : List String) (call : Call W α) (w : W) :
    agg.Records invoked (call w) (noted adapter.oracleId call ⟨w, invoked⟩) := by
  refine ⟨[adapter.oracleId], fun id hid => ?_, rfl⟩
  rw [List.mem_singleton.mp hid]
  exact List.mem_map_of_mem h

theorem validateParticipantInfoOrGetErrorEvent_recording
    (errorEvent : ParticipantFault → DomainEvent) (participantId : JsString) (w : W)
    (invoked : List String) :
    agg.recording.validateParticipantInfoOrGetErrorEvent errorEvent participantId ⟨w, invoked⟩ =
      ((agg.validateParticipantInfoOrGetErrorEvent errorEvent participantId w).1,
        ⟨(agg.validateParticipantInfoOrGetErrorEvent errorEvent participantId w).2,
          invoked⟩) := by
  cases participantId with
  | undefined => rfl
  | null => rfl
  | str id =>
    simp only [validateParticipantInfoOrGetErrorEvent, recording, IParticipantServiceAdapter.on,
      Call.on, worldPart]
    by_cases hid : id = ""
    · rw [if_pos hid, if_pos hid]
    · rw [if_neg hid, if_neg hid]
      rcases agg.participantService.getParticipantInfo id w with ⟨_ | _ | participant, w'⟩
      · rfl
      · rfl
      · dsimp only
        split_ifs <;> rfl

theorem getOracleAdapter_recording (partyType currency : JsString) (w : W)
    (invoked : List String) :
    agg.recording.getOracleAdapter partyType currency ⟨w, invoked⟩ =
      ((agg.getOracleAdapter partyType currency w).1.map IOracleProviderAdapter.recording,
        ⟨(agg.getOracleAdapter partyType currency w).2, invoked⟩) := by
  simp only [getOracleAdapter, recording, IOracleFinder.on, Call.on, worldPart]
  rcases agg.oracleFinder.getOracle partyType currency w with ⟨_ | _ | oracle, w'⟩
  · rfl
  · rfl
  · have hfind : (agg.oracleProvidersAdapters.map IOracleProviderAdapter.recording).find?
        (fun adapter => adapter.oracleId = oracle.id) =
          (agg.oracleProvidersAdapters.find? fun adapter => adapter.oracleId = oracle.id).map
            IOracleProviderAdapter.recording := List.find?_map
    dsimp only
    rw [hfind]
    cases agg.oracleProvidersAdapters.find? fun adapter => adapter.oracleId = oracle.id with
    | none => rfl
    | some adapter => rfl

theorem records_getParticipantIdFromOracle (partyId partyType partySubType currency : JsString)
    (w : W) (invoked : List String) :
    agg.Records invoked (agg.getParticipantIdFromOracle partyId partyType partySubType currency w)
      (agg.recording.getParticipantIdFromOracle partyId partyType partySubType currency
        ⟨w, invoked⟩) := by
  unfold getParticipantIdFromOracle
  rw [getOracleAdapter_recording]
  rcases hroute : agg.getOracleAdapter partyType currency w with ⟨error | adapter, w₁⟩
  · exact records_refl invoked _
  · obtain ⟨ids, hids, hrecorded⟩ := records_noted (mem_of_getOracleAdapter hroute) invoked
      (adapter.getParticipantFspId partyType partyId partySubType currency) w₁
    refine ⟨ids, hids, ?_⟩
    simp only [Except.map, IOracleProviderAdapter.recording, hrecorded]
    rcases adapter.getParticipantFspId partyType partyId partySubType currency w₁ with
      ⟨error | fspId, w₂⟩
    · rfl
    · dsimp only
      split <;> rfl

variable (payload : Payload) (w : W) (invoked : List String)

theorem records_partyQueryDestination :
    agg.Records invoked (agg.partyQueryDestination payload w)
      (agg.recording.partyQueryDestination payload ⟨w, invoked⟩) := by
  unfold partyQueryDestination
  dsimp only
  by_cases hdestination : payload.destinationFspId.orNull.truthy = true
  · rw [if_pos hdestination, if_pos hdestination]
    exact records_refl invoked _
  · rw [if_neg hdestination, if_neg hdestination]
    obtain ⟨ids, hids, hrecorded⟩ := agg.records_getParticipantIdFromOracle payload.partyId.orNull
      payload.partyType.orNull payload.partySubType.orNull payload.currency.orNull w invoked
    refine ⟨ids, hids, ?_⟩
    rw [hrecorded]
    rcases agg.getParticipantIdFromOracle payload.partyId.orNull payload.partyType.orNull
      payload.partySubType.orNull payload.currency.orNull w with ⟨error | fspId, w₁⟩ <;> rfl

theorem records_handlePartyQueryReceivedEvt :
    agg.Records invoked (agg.handlePartyQueryReceivedEvt payload w)
      (agg.recording.handlePartyQueryReceivedEvt payload ⟨w, invoked⟩) := by
  simp only [handlePartyQueryReceivedEvt, validateRequesterParticipantInfoOrGetErrorEvent,
    validateDestinationParticipantInfoOrGetErrorEvent,
    validateParticipantInfoOrGetErrorEvent_recording]
  rcases agg.validateParticipantInfoOrGetErrorEvent _ payload.requesterFspId.orNull w with
    ⟨_ | error, w₁⟩
  · obtain ⟨ids, hids, hrecorded⟩ := agg.records_partyQueryDestination payload w₁ invoked
    refine ⟨ids, hids, ?_⟩
    dsimp only
    rw [hrecorded]
    rcases agg.partyQueryDestination payload w₁ with ⟨error | destinationFspId, w₂⟩
    · rfl
    · dsimp only
      rw [validateParticipantInfoOrGetErrorEvent_recording]
      rcases agg.validateParticipantInfoOrGetErrorEvent _ destinationFspId w₂ with
        ⟨_ | error, w₃⟩ <;> rfl
  · exact records_refl invoked _

theorem records_handleParticipantQueryReceivedEvt :
    agg.Records invoked (agg.handleParticipantQueryReceivedEvt payload w)
      (agg.recording.handleParticipantQueryReceivedEvt payload ⟨w, invoked⟩) := by
  simp only [handleParticipantQueryReceivedEvt, validateRequesterParticipantInfoOrGetErrorEvent,
    validateDestinationParticipantInfoOrGetErrorEvent,
    validateParticipantInfoOrGetErrorEvent_recording]
  rcases agg.validateParticipantInfoOrGetErrorEvent _ payload.requesterFspId w with
    ⟨_ | error, w₁⟩
  · obtain ⟨ids, hids, hrecorded⟩ := agg.records_getParticipantIdFromOracle payload.partyId
      payload.partyType payload.partySubType payload.currency w₁ invoked
    refine ⟨ids, hids, ?_⟩
    dsimp only
    rw [hrecorded]
    rcases agg.getParticipantIdFromOracle payload.partyId payload.partyType payload.partySubType
      payload.currency w₁ with ⟨error | ownerFspId, w₂⟩
    · rfl
    · dsimp only
      rw [validateParticipantInfoOrGetErrorEvent_recording]
      rcases agg.validateParticipantInfoOrGetErrorEvent _ ownerFspId w₂ with
        ⟨_ | error, w₃⟩ <;> rfl
  · exact records_refl invoked _

theorem records_relayBetweenParticipants (answer : DomainEvent) :
    agg.Records invoked (agg.relayBetweenParticipants payload answer w)
      (agg.recording.relayBetweenParticipants payload answer ⟨w, invoked⟩) := by
  simp only [relayBetweenParticipants, validateRequesterParticipantInfoOrGetErrorEvent,
    validateDestinationParticipantInfoOrGetErrorEvent,
    validateParticipantInfoOrGetErrorEvent_recording]
  rcases agg.validateParticipantInfoOrGetErrorEvent _ payload.requesterFspId.orNull w with
    ⟨_ | error, w₁⟩
  · dsimp only
    rw [validateParticipantInfoOrGetErrorEvent_recording]
    rcases agg.validateParticipantInfoOrGetErrorEvent _ payload.destinationFspId.orNull w₁ with
      ⟨_ | error, w₂⟩
    · exact records_refl invoked _
    · exact records_refl invoked _
  · exact records_refl invoked _

theorem records_handleParticipantAssociationRequestReceivedEvt :
    agg.Records invoked (agg.handleParticipantAssociationRequestReceivedEvt payload w)
      (agg.recording.handleParticipantAssociationRequestReceivedEvt payload ⟨w, invoked⟩) := by
  simp only [handleParticipantAssociationRequestReceivedEvt,
    validateRequesterParticipantInfoOrGetErrorEvent,
    validateParticipantInfoOrGetErrorEvent_recording]
  rcases agg.validateParticipantInfoOrGetErrorEvent _ payload.ownerFspId w with ⟨_ | error, w₁⟩
  · dsimp only
    rw [getOracleAdapter_recording]
    rcases hroute : agg.getOracleAdapter payload.partyType payload.currency w₁ with
      ⟨error | adapter, w₂⟩
    · exact records_refl invoked _
    · obtain ⟨ids, hids, hrecorded⟩ := records_noted (mem_of_getOracleAdapter hroute) invoked
        (adapter.associateParticipant payload.ownerFspId payload.partyType payload.partyId
          payload.partySubType payload.currency) w₂
      refine ⟨ids, hids, ?_⟩
      simp only [Except.map, IOracleProviderAdapter.recording, hrecorded]
      rcases adapter.associateParticipant payload.ownerFspId payload.partyType payload.partyId
        payload.partySubType payload.currency w₂ with ⟨error | _, w₃⟩ <;> rfl
  · exact records_refl invoked _

theorem records_handleParticipantDisassociateRequestReceivedEvt :
    agg.Records invoked (agg.handleParticipantDisassociateRequestReceivedEvt payload w)
      (agg.recording.handleParticipantDisassociateRequestReceivedEvt payload ⟨w, invoked⟩) := by
  simp only [handleParticipantDisassociateRequestReceivedEvt,
    validateRequesterParticipantInfoOrGetErrorEvent,
    validateParticipantInfoOrGetErrorEvent_recording]
  rcases agg.validateParticipantInfoOrGetErrorEvent _ payload.ownerFspId.orNull w with
    ⟨_ | error, w₁⟩
  · dsimp only
    rw [getOracleAdapter_recording]
    rcases hroute : agg.getOracleAdapter payload.partyType.orNull payload.currency.orNull w₁ with
      ⟨error | adapter, w₂⟩
    · exact records_refl invoked _
    · obtain ⟨ids, hids, hrecorded⟩ := records_noted (mem_of_getOracleAdapter hroute) invoked
        (adapter.disassociateParticipant payload.ownerFspId.orNull payload.partyType.orNull
          payload.partyId.orNull payload.partySubType.orNull payload.currency.orNull) w₂
      refine ⟨ids, hids, ?_⟩
      simp only [Except.map, IOracleProviderAdapter.recording, hrecorded]
      rcases adapter.disassociateParticipant payload.ownerFspId.orNull payload.partyType.orNull
        payload.partyId.orNull payload.partySubType.orNull payload.currency.orNull w₂ with
        ⟨error | _, w₃⟩ <;> rfl
  · exact records_refl invoked _

theorem records_handlerOf (request : RequestEvt) :
    agg.Records invoked (agg.handlerOf request payload w)
      (agg.recording.handlerOf request payload ⟨w, invoked⟩) := by
  cases request with
  | partyQueryReceivedEvt => exact agg.records_handlePartyQueryReceivedEvt payload w invoked
  | partyInfoAvailableEvt => exact agg.records_relayBetweenParticipants payload w invoked _
  | participantQueryReceivedEvt =>
    exact agg.records_handleParticipantQueryReceivedEvt payload w invoked
  | participantAssociationRequestReceivedEvt =>
    exact agg.records_handleParticipantAssociationRequestReceivedEvt payload w invoked
  | participantDisassociateRequestReceivedEvt =>
    exact agg.records_handleParticipantDisassociateRequestReceivedEvt payload w invoked
  | partyRejectedEvt => exact agg.records_relayBetweenParticipants payload w invoked _
  | participantRejectedEvt => exact agg.records_relayBetweenParticipants payload w invoked _

/-- **The handling of a message is recorded.** -/
theorem records_handleEvent (message : IMessage) :
    agg.Records invoked (agg.handleEvent message w)
      (agg.recording.handleEvent message ⟨w, invoked⟩) := by
  unfold handleEvent
  dsimp only
  cases validateMessageOrGetErrorEvent message with
  | some errorMessage => exact records_refl invoked _
  | none =>
    cases RequestEvt.ofName message.msgName with
    | none => exact records_refl invoked _
    | some request =>
      obtain ⟨ids, hids, hrecorded⟩ :=
        agg.records_handlerOf (message.payload.getD Payload.blank) w invoked request
      refine ⟨ids, hids, ?_⟩
      dsimp only
      rw [hrecorded]
      rcases agg.handlerOf request (message.payload.getD Payload.blank) w with
        ⟨error | eventToPublish, w₁⟩ <;> rfl

/-- **A lookup is recorded.** -/
theorem records_getAccountLookUp (accountIdentifier : Party) :
    agg.Records invoked (agg.getAccountLookUp accountIdentifier w)
      (agg.recording.getAccountLookUp accountIdentifier ⟨w, invoked⟩) := by
  obtain ⟨ids, hids, hrecorded⟩ := agg.records_getParticipantIdFromOracle
    (.str accountIdentifier.partyId) (.str accountIdentifier.partyType)
    (.ofOption accountIdentifier.partySubType) (.ofOption accountIdentifier.currency) w invoked
  refine ⟨ids, hids, ?_⟩
  rw [getAccountLookUp, ownerOf, hrecorded, getAccountLookUp, ownerOf]
  rcases agg.getParticipantIdFromOracle (.str accountIdentifier.partyId)
    (.str accountIdentifier.partyType) (.ofOption accountIdentifier.partySubType)
    (.ofOption accountIdentifier.currency) w with ⟨error | fspId, w₁⟩
  · dsimp only
    split <;> rfl
  · rfl

/-- The ids of the adapters that the handling of a message asks. -/
def invokedByMessage (message : IMessage) : List String :=
  (agg.recording.handleEvent message ⟨w, []⟩).2.invoked

/-- The ids of the adapters that a lookup asks. -/
def invokedByLookup (accountIdentifier : Party) : List String :=
  (agg.recording.getAccountLookUp accountIdentifier ⟨w, []⟩).2.invoked

variable {agg} {w}

theorem Records.mem_loadedIds {plain : α × W} {recorded : α × Invocations W}
    (h : agg.Records [] plain recorded) {id : String} (hid : id ∈ recorded.2.invoked) :
    id ∈ agg.loadedIds := by
  obtain ⟨ids, hids, rfl⟩ := h
  exact hids id hid

/-- Only loaded adapters are asked. -/
theorem mem_loadedIds_of_invokedByMessage {message : IMessage} {id : String}
    (h : id ∈ agg.invokedByMessage w message) : id ∈ agg.loadedIds :=
  (agg.records_handleEvent w [] message).mem_loadedIds h

theorem mem_loadedIds_of_invokedByLookup {accountIdentifier : Party} {id : String}
    (h : id ∈ agg.invokedByLookup w accountIdentifier) : id ∈ agg.loadedIds :=
  (agg.records_getAccountLookUp w [] accountIdentifier).mem_loadedIds h

end AccountLookupAggregate

end AccountLookup

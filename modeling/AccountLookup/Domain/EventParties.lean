/-
# Every event names the party of its message

Whatever the collaborators answer, and on success and failure alike, the event that
the aggregate returns for a message carries the party id and the party type of the
message's payload; where the payload leaves one out, the event carries `null` or
leaves it out too.
-/

import AccountLookup.Domain.Collaborators

namespace AccountLookup

/-- The event carries the party id and the party type of the payload, absent and
`null` identified. -/
def DomainEvent.IsAbout (event : DomainEvent) (payload : Payload) : Prop :=
  event.partyId.orNull = payload.partyId.orNull ∧ event.partyType.orNull = payload.partyType.orNull

namespace AccountLookupAggregate

variable {W : Type} {agg : AccountLookupAggregate W} {payload : Payload} {w w' : W}
  {event : DomainEvent}

/-- An error event of a validator carries the party that the validator was given. -/
theorem isAbout_requesterErrorEvent {partyId partyType : JsString}
    (partySubType participantId : JsString) (hid : partyId.orNull = payload.partyId.orNull)
    (htype : partyType.orNull = payload.partyType.orNull) (fault : ParticipantFault) :
    (requesterErrorEvent partyId partyType partySubType participantId fault).IsAbout payload := by
  cases fault <;> exact ⟨hid, htype⟩

theorem isAbout_destinationErrorEvent {partyId partyType : JsString}
    (partySubType participantId : JsString) (hid : partyId.orNull = payload.partyId.orNull)
    (htype : partyType.orNull = payload.partyType.orNull) (fault : ParticipantFault) :
    (destinationErrorEvent partyId partyType partySubType participantId fault).IsAbout payload := by
  cases fault <;> exact ⟨hid, htype⟩

/-- What a validator reports is one of its error events. -/
theorem exists_fault_of_validateParticipantInfoOrGetErrorEvent
    {errorEvent : ParticipantFault → DomainEvent} {participantId : JsString}
    (h : agg.validateParticipantInfoOrGetErrorEvent errorEvent participantId w =
      (some event, w')) : ∃ fault, event = errorEvent fault := by
  rcases agg.validateParticipantInfoOrGetErrorEvent_cases errorEvent participantId w with
    ⟨w₁, hpass, -⟩ | ⟨fault, w₁, hfail, -⟩
  · cases hpass.symm.trans h
  · exact ⟨fault, (Option.some.inj (Prod.mk.inj (hfail.symm.trans h)).1).symm⟩

theorem isAbout_of_validateRequester {partyId partyType partySubType participantId : JsString}
    (hid : partyId.orNull = payload.partyId.orNull)
    (htype : partyType.orNull = payload.partyType.orNull)
    (h : agg.validateRequesterParticipantInfoOrGetErrorEvent partyId partyType partySubType
      participantId w = (some event, w')) : event.IsAbout payload := by
  obtain ⟨fault, rfl⟩ := exists_fault_of_validateParticipantInfoOrGetErrorEvent h
  exact isAbout_requesterErrorEvent _ _ hid htype fault

theorem isAbout_of_validateDestination {partyId partyType partySubType participantId : JsString}
    (hid : partyId.orNull = payload.partyId.orNull)
    (htype : partyType.orNull = payload.partyType.orNull)
    (h : agg.validateDestinationParticipantInfoOrGetErrorEvent partyId partyType partySubType
      participantId w = (some event, w')) : event.IsAbout payload := by
  obtain ⟨fault, rfl⟩ := exists_fault_of_validateParticipantInfoOrGetErrorEvent h
  exact isAbout_destinationErrorEvent _ _ hid htype fault

theorem isAbout_relayBetweenParticipants {answer : DomainEvent} (hanswer : answer.IsAbout payload)
    (h : agg.relayBetweenParticipants payload answer w = (.ok event, w')) :
    event.IsAbout payload := by
  simp only [relayBetweenParticipants] at h
  split at h
  · next hrequester =>
    cases h
    exact isAbout_of_validateRequester (by simp) (by simp) hrequester
  · split at h
    · next hdestination =>
      cases h
      exact isAbout_of_validateDestination (by simp) (by simp) hdestination
    · cases h
      exact hanswer

theorem isAbout_handlePartyQueryReceivedEvt
    (h : agg.handlePartyQueryReceivedEvt payload w = (.ok event, w')) : event.IsAbout payload := by
  simp only [handlePartyQueryReceivedEvt] at h
  split at h
  · next hrequester =>
    cases h
    exact isAbout_of_validateRequester (by simp) (by simp) hrequester
  · split at h
    · next error w₂ hdestination =>
      cases h
      simp only [partyQueryDestination] at hdestination
      split at hdestination
      · cases hdestination
      · split at hdestination
        · cases hdestination
          exact ⟨JsString.orNull_orNull _, JsString.orNull_orNull _⟩
        · cases hdestination
    · split at h
      · next hvalid =>
        cases h
        exact isAbout_of_validateDestination (by simp) (by simp) hvalid
      · cases h
        exact ⟨rfl, rfl⟩

theorem isAbout_handleParticipantQueryReceivedEvt
    (h : agg.handleParticipantQueryReceivedEvt payload w = (.ok event, w')) :
    event.IsAbout payload := by
  simp only [handleParticipantQueryReceivedEvt] at h
  split at h
  · next hrequester =>
    cases h
    exact isAbout_of_validateRequester rfl rfl hrequester
  · split at h
    · cases h
      exact ⟨rfl, rfl⟩
    · split at h
      · next hvalid =>
        cases h
        exact isAbout_of_validateDestination rfl rfl hvalid
      · cases h
        exact ⟨rfl, rfl⟩

theorem isAbout_handleParticipantAssociationRequestReceivedEvt
    (h : agg.handleParticipantAssociationRequestReceivedEvt payload w = (.ok event, w')) :
    event.IsAbout payload := by
  simp only [handleParticipantAssociationRequestReceivedEvt] at h
  split at h
  · next howner =>
    cases h
    exact isAbout_of_validateRequester rfl rfl howner
  · split at h
    · cases h
      exact ⟨rfl, rfl⟩
    · split at h
      · cases h
        exact ⟨rfl, rfl⟩
      · cases h
        exact ⟨rfl, rfl⟩

theorem isAbout_handleParticipantDisassociateRequestReceivedEvt
    (h : agg.handleParticipantDisassociateRequestReceivedEvt payload w = (.ok event, w')) :
    event.IsAbout payload := by
  simp only [handleParticipantDisassociateRequestReceivedEvt] at h
  split at h
  · next howner =>
    cases h
    exact isAbout_of_validateRequester (by simp) (by simp) howner
  · split at h
    · cases h
      exact ⟨JsString.orNull_orNull _, JsString.orNull_orNull _⟩
    · split at h
      · cases h
        exact ⟨JsString.orNull_orNull _, JsString.orNull_orNull _⟩
      · cases h
        exact ⟨rfl, rfl⟩

theorem isAbout_handlerOf {request : RequestEvt}
    (h : agg.handlerOf request payload w = (.ok event, w')) : event.IsAbout payload := by
  cases request with
  | partyQueryReceivedEvt => exact isAbout_handlePartyQueryReceivedEvt h
  | partyInfoAvailableEvt => exact isAbout_relayBetweenParticipants ⟨rfl, rfl⟩ h
  | participantQueryReceivedEvt => exact isAbout_handleParticipantQueryReceivedEvt h
  | participantAssociationRequestReceivedEvt =>
    exact isAbout_handleParticipantAssociationRequestReceivedEvt h
  | participantDisassociateRequestReceivedEvt =>
    exact isAbout_handleParticipantDisassociateRequestReceivedEvt h
  | partyRejectedEvt => exact isAbout_relayBetweenParticipants ⟨rfl, rfl⟩ h
  | participantRejectedEvt => exact isAbout_relayBetweenParticipants ⟨rfl, rfl⟩ h

theorem isAbout_of_validateMessage {message : IMessage}
    (h : validateMessageOrGetErrorEvent message = some event) :
    event.IsAbout (message.payload.getD Payload.blank) := by
  simp only [validateMessageOrGetErrorEvent] at h
  split at h
  · cases h
    exact ⟨JsString.orNull_orNull _, JsString.orNull_orNull _⟩
  · split at h
    · cases h
      exact ⟨JsString.orNull_orNull _, JsString.orNull_orNull _⟩
    · cases h

/-- **Every event names the party of its message.** A message without a payload counts
as one whose payload has no property. -/
theorem isAbout_handleEvent (agg : AccountLookupAggregate W) (message : IMessage) (w : W) :
    (agg.handleEvent message w).1.event.IsAbout (message.payload.getD Payload.blank) := by
  unfold handleEvent
  dsimp only
  split
  · next hinvalid => exact isAbout_of_validateMessage hinvalid
  · split
    · exact ⟨JsString.orNull_orNull _, JsString.orNull_orNull _⟩
    · split
      · next hhandler => exact isAbout_handlerOf hhandler
      · exact ⟨JsString.orNull_orNull _, JsString.orNull_orNull _⟩

end AccountLookupAggregate

end AccountLookup

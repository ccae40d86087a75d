/-
# What asking leaves alone

All handlers but two, and the lookups, only ask: they ask the participant service for a
participant, the finder for an oracle, and an adapter for the owner of a party. What these
three questions leave alone is left alone by everything that only asks, whatever is
answered and whichever of them throws.
-/

import AccountLookup.Domain.Gate
import AccountLookup.Domain.LookupService

namespace AccountLookup

/-- A dispatched message is a domain event with its payload. -/
theorem IMessage.of_accepted {message : IMessage} {request : RequestEvt} {payload : Payload}
    (h : message.accepted = some (request, payload)) :
    message.msgType = .domainEvent ∧ message.payload = some payload := by
  unfold IMessage.accepted at h
  split at h
  · next htype =>
    split at h
    · next found given hname hpayload =>
      obtain ⟨-, rfl⟩ := Prod.mk.inj (Option.some.inj h)
      exact ⟨htype, hpayload⟩
    · cases h
  · cases h

namespace AccountLookupAggregate

variable {W : Type}

/-- The three questions that the aggregate asks keep what is said of the world. -/
structure AskingKeeps (agg : AccountLookupAggregate W) (Inv : W → Prop) : Prop where
  participant : ∀ id w, Inv w → Inv (agg.participantService.getParticipantInfo id w).2
  oracle : ∀ partyType currency w, Inv w →
    Inv (agg.oracleFinder.getOracle partyType currency w).2
  fspId : ∀ adapter ∈ agg.oracleProvidersAdapters, ∀ partyType partyId partySubType currency w,
    Inv w → Inv (adapter.getParticipantFspId partyType partyId partySubType currency w).2

namespace AskingKeeps

variable {agg : AccountLookupAggregate W} {Inv : W → Prop} {w : W} {payload : Payload}

theorem validate (h : agg.AskingKeeps Inv) (hw : Inv w)
    (errorEvent : ParticipantFault → DomainEvent) (participantId : JsString) :
    Inv (agg.validateParticipantInfoOrGetErrorEvent errorEvent participantId w).2 := by
  rcases agg.validateParticipantInfoOrGetErrorEvent_snd errorEvent participantId w with
    hsame | ⟨id, hasked⟩
  · rwa [hsame]
  · rw [hasked]
    exact h.participant id w hw

theorem getOracleAdapter (h : agg.AskingKeeps Inv) (hw : Inv w) (partyType currency : JsString) :
    Inv (agg.getOracleAdapter partyType currency w).2 := by
  rw [getOracleAdapter_snd_eq]
  exact h.oracle partyType currency w hw

theorem getParticipantIdFromOracle (h : agg.AskingKeeps Inv) (hw : Inv w)
    (partyId partyType partySubType currency : JsString) :
    Inv (agg.getParticipantIdFromOracle partyId partyType partySubType currency w).2 := by
  have hrouted := h.getOracleAdapter hw partyType currency
  rw [AccountLookupAggregate.getParticipantIdFromOracle]
  rcases agg.getOracleAdapter_cases partyType currency w with
    ⟨adapter, w₁, hget, oracle, -, hfind⟩ | ⟨error, w₁, hget, -⟩
  · rw [hget] at hrouted ⊢
    have hasked := h.fspId adapter (List.mem_of_find?_eq_some hfind) partyType partyId
      partySubType currency w₁ hrouted
    dsimp only
    rcases hcall : adapter.getParticipantFspId partyType partyId partySubType currency w₁ with
      ⟨error | fspId, w₂⟩
    · rwa [hcall] at hasked
    · rw [hcall] at hasked
      dsimp only
      split
      · exact hasked
      · exact hasked
  · rw [hget] at hrouted ⊢
    exact hrouted

theorem partyQueryDestination (h : agg.AskingKeeps Inv) (hw : Inv w) (payload : Payload) :
    Inv (agg.partyQueryDestination payload w).2 := by
  have hasked := h.getParticipantIdFromOracle hw payload.partyId.orNull payload.partyType.orNull
    payload.partySubType.orNull payload.currency.orNull
  rw [AccountLookupAggregate.partyQueryDestination]
  split
  · exact hw
  · rcases hcall : agg.getParticipantIdFromOracle payload.partyId.orNull payload.partyType.orNull
      payload.partySubType.orNull payload.currency.orNull w with ⟨error | fspId, w₁⟩
    · rwa [hcall] at hasked
    · rwa [hcall] at hasked

/-- A check of a participant, and what is done once the participant has passed. -/
theorem validated (h : agg.AskingKeeps Inv) (hw : Inv w)
    (errorEvent : ParticipantFault → DomainEvent) (participantId : JsString)
    {rest : Call W DomainEvent} (hrest : ∀ w, Inv w → Inv (rest w).2) :
    Inv (match agg.validateParticipantInfoOrGetErrorEvent errorEvent participantId w with
      | (some error, w) => (.ok error, w)
      | (none, w) => rest w : Except JsError DomainEvent × W).2 := by
  have hvalid := h.validate hw errorEvent participantId
  rcases hcall : agg.validateParticipantInfoOrGetErrorEvent errorEvent participantId w with
    ⟨_ | error, w₁⟩
  · rw [hcall] at hvalid
    exact hrest w₁ hvalid
  · rwa [hcall] at hvalid

theorem relayBetweenParticipants (h : agg.AskingKeeps Inv) (hw : Inv w) (payload : Payload)
    (answer : DomainEvent) : Inv (agg.relayBetweenParticipants payload answer w).2 := by
  apply h.validated hw
  intro w₁ hw₁
  apply h.validated hw₁
  exact fun w₂ hw₂ => hw₂

theorem handlePartyQueryReceivedEvt (h : agg.AskingKeeps Inv) (hw : Inv w) (payload : Payload) :
    Inv (agg.handlePartyQueryReceivedEvt payload w).2 := by
  apply h.validated hw
  intro w₁ hw₁
  have hfound := h.partyQueryDestination hw₁ payload
  rcases hdestination : agg.partyQueryDestination payload w₁ with ⟨event | fspId, w₂⟩
  · rwa [hdestination] at hfound
  · rw [hdestination] at hfound
    apply h.validated hfound
    exact fun w₃ hw₃ => hw₃

theorem handleParticipantQueryReceivedEvt (h : agg.AskingKeeps Inv) (hw : Inv w)
    (payload : Payload) : Inv (agg.handleParticipantQueryReceivedEvt payload w).2 := by
  apply h.validated hw
  intro w₁ hw₁
  have hfound := h.getParticipantIdFromOracle hw₁ payload.partyId payload.partyType
    payload.partySubType payload.currency
  rcases hlookup : agg.getParticipantIdFromOracle payload.partyId payload.partyType
    payload.partySubType payload.currency w₁ with ⟨error | fspId, w₂⟩
  · rwa [hlookup] at hfound
  · rw [hlookup] at hfound
    apply h.validated hfound
    exact fun w₃ hw₃ => hw₃

/-- **A handler that is not the one of a change only asks.** -/
theorem handlerOf (h : agg.AskingKeeps Inv) (hw : Inv w) {request : RequestEvt}
    (hasks : ∀ change : AssociationChange, request ≠ change.request) (payload : Payload) :
    Inv (agg.handlerOf request payload w).2 := by
  cases request with
  | partyQueryReceivedEvt => exact h.handlePartyQueryReceivedEvt hw payload
  | participantQueryReceivedEvt => exact h.handleParticipantQueryReceivedEvt hw payload
  | partyInfoAvailableEvt => exact h.relayBetweenParticipants hw payload _
  | partyRejectedEvt => exact h.relayBetweenParticipants hw payload _
  | participantRejectedEvt => exact h.relayBetweenParticipants hw payload _
  | participantAssociationRequestReceivedEvt => exact absurd rfl (hasks .associate)
  | participantDisassociateRequestReceivedEvt => exact absurd rfl (hasks .disassociate)

theorem getAccountLookUp (h : agg.AskingKeeps Inv) (hw : Inv w) (accountIdentifier : Party) :
    Inv (agg.getAccountLookUp accountIdentifier w).2 := by
  have hasked := h.getParticipantIdFromOracle hw (.str accountIdentifier.partyId)
    (.str accountIdentifier.partyType) (.ofOption accountIdentifier.partySubType)
    (.ofOption accountIdentifier.currency)
  rw [AccountLookupAggregate.getAccountLookUp, ownerOf]
  rcases hcall : agg.getParticipantIdFromOracle (.str accountIdentifier.partyId)
      (.str accountIdentifier.partyType) (.ofOption accountIdentifier.partySubType)
      (.ofOption accountIdentifier.currency) w with ⟨error | fspId, w₁⟩
  · rw [hcall] at hasked
    dsimp only
    split
    · exact hasked
    · exact hasked
  · rw [hcall] at hasked
    exact hasked

/-- **A message only asks**, unless it is a request for a change that reaches its handler. -/
theorem handleEvent (h : agg.AskingKeeps Inv) (hw : Inv w) (message : IMessage) :
    Inv (agg.handleEvent message w).2 ∧ (∀ (change : AssociationChange) (payload : Payload),
        message.accepted ≠ some (change.request, payload)) ∨
      ∃ (change : AssociationChange) (payload : Payload) (event : DomainEvent),
        message.accepted = some (change.request, payload) ∧
        agg.Handled change payload w event (agg.handleEvent message w).2 := by
  rcases validateMessageOrGetErrorEvent_cases message with
    ⟨payload, hpayload, htype, hvalid⟩ | ⟨event, hinvalid, -, hbad⟩
  · cases hname : RequestEvt.ofName message.msgName with
    | none =>
      simp only [AccountLookupAggregate.handleEvent, hvalid, hname]
      refine Or.inl ⟨hw, fun change payload haccepted => ?_⟩
      simp only [IMessage.accepted, htype, if_true, hname] at haccepted
      cases haccepted
    | some request =>
      have haccepted : message.accepted = some (request, payload) := by
        simp only [IMessage.accepted, htype, if_true, hname, hpayload]
      simp only [AccountLookupAggregate.handleEvent, hvalid, hname, hpayload, Option.getD_some]
      by_cases hasks : ∀ change : AssociationChange, request ≠ change.request
      · have hkept := h.handlerOf hw hasks payload
        have hother : ∀ (change : AssociationChange) (payload : Payload),
            message.accepted ≠ some (change.request, payload) := by
          intro change payload' hchange
          obtain ⟨hrequest, -⟩ := Prod.mk.inj (Option.some.inj (haccepted.symm.trans hchange))
          exact hasks change hrequest
        rcases hhandler : agg.handlerOf request payload w with ⟨error | event, w'⟩
        · rw [hhandler] at hkept
          exact Or.inl ⟨hkept, hother⟩
        · rw [hhandler] at hkept
          exact Or.inl ⟨hkept, hother⟩
      · simp only [not_forall, not_not] at hasks
        obtain ⟨change, rfl⟩ := hasks
        obtain ⟨event, w', hhandler, hhandled⟩ := agg.handlerOf_change change payload w
        rw [hhandler]
        exact Or.inr ⟨change, payload, event, haccepted, hhandled⟩
  · simp only [AccountLookupAggregate.handleEvent, hinvalid]
    refine Or.inl ⟨hw, fun change payload haccepted => ?_⟩
    obtain ⟨htype, hpayload⟩ := IMessage.of_accepted haccepted
    exact hbad ⟨payload, hpayload, htype⟩

end AskingKeeps

end AccountLookupAggregate

end AccountLookup

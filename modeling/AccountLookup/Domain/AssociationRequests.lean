/-
# The two requests that change an association

The handlers that create and remove an association take the same way: they validate
the owner, route the party to an oracle and call the oracle's adapter, and report a
failure of any of the three as an event. They differ in the properties they turn into
`null` and in the call they make, so that both are described by one account of how a
handler comes to its event.
-/

import AccountLookup.Domain.Collaborators

namespace AccountLookup

/-- The two requests that change an association. -/
inductive AssociationChange
  | associate
  | disassociate
  deriving DecidableEq

namespace AssociationChange

/-- The request class. -/
def request : AssociationChange → RequestEvt
  | .associate => .participantAssociationRequestReceivedEvt
  | .disassociate => .participantDisassociateRequestReceivedEvt

/-- How the handler reads a property of the payload: the removal turns absent
properties into `null`. -/
def read : AssociationChange → JsString → JsString
  | .associate => id
  | .disassociate => JsString.orNull

/-- The call that the handler makes on the routed adapter. -/
def call {W : Type} (adapter : IOracleProviderAdapter W) (payload : Payload) :
    AssociationChange → Call W Unit
  | .associate => adapter.associateParticipant payload.ownerFspId payload.partyType
      payload.partyId payload.partySubType payload.currency
  | .disassociate => adapter.disassociateParticipant payload.ownerFspId.orNull
      payload.partyType.orNull payload.partyId.orNull payload.partySubType.orNull
      payload.currency.orNull

end AssociationChange

namespace AccountLookupAggregate

variable {W : Type} (agg : AccountLookupAggregate W)

/-- The four ways in which the handler of a change comes to its event. -/
inductive Handled (change : AssociationChange) (payload : Payload) (w : W) (event : DomainEvent)
    (w' : W) : Prop
  | invalidOwner (errorEvent : ParticipantFault → DomainEvent) (hanswers : event.answers = none)
      (hfail : ∀ w₁, ¬ agg.ParticipantPasses payload.ownerFspId w w₁)
      (hworld : (agg.validateParticipantInfoOrGetErrorEvent errorEvent
        (change.read payload.ownerFspId) w).2 = w')
  | unrouted (w₁ : W) (hanswers : event.answers = none)
      (hpass : agg.ParticipantPasses payload.ownerFspId w w₁)
      (hnone : ∀ adapter w₂, ¬ agg.RoutesTo (change.read payload.partyType)
        (change.read payload.currency) adapter w₁ w₂)
      (hworld : (agg.getOracleAdapter (change.read payload.partyType)
        (change.read payload.currency) w₁).2 = w')
  | refused (adapter : IOracleProviderAdapter W) (w₁ w₂ : W) (error : JsError)
      (hanswers : event.answers = none)
      (hpass : agg.ParticipantPasses payload.ownerFspId w w₁)
      (hroute : agg.RoutesTo (change.read payload.partyType) (change.read payload.currency)
        adapter w₁ w₂)
      (hcall : change.call adapter payload w₂ = (.error error, w'))
  | done (adapter : IOracleProviderAdapter W) (w₁ w₂ : W)
      (hanswers : event.answers = some change.request)
      (hpass : agg.ParticipantPasses payload.ownerFspId w w₁)
      (hroute : agg.RoutesTo (change.read payload.partyType) (change.read payload.currency)
        adapter w₁ w₂)
      (hcall : change.call adapter payload w₂ = (.ok (), w'))

variable {agg}

theorem handled_associate (payload : Payload) (w : W) :
    ∃ event w', agg.handleParticipantAssociationRequestReceivedEvt payload w = (.ok event, w') ∧
      agg.Handled .associate payload w event w' := by
  unfold handleParticipantAssociationRequestReceivedEvt
    validateRequesterParticipantInfoOrGetErrorEvent
  rcases agg.validateParticipantInfoOrGetErrorEvent_cases
      (requesterErrorEvent payload.partyId payload.partyType payload.partySubType
        payload.ownerFspId) payload.ownerFspId w with
    ⟨w₁, howner, hpass⟩ | ⟨fault, w₁, howner, hfail⟩
  · rcases agg.getOracleAdapter_cases payload.partyType payload.currency w₁ with
      ⟨adapter, w₂, hadapter, hroute⟩ | ⟨error, w₂, hadapter, hnone⟩
    · rcases hcall : adapter.associateParticipant payload.ownerFspId payload.partyType
          payload.partyId payload.partySubType payload.currency w₂ with ⟨error | _, w₃⟩
      · exact ⟨_, w₃, by simp only [howner, hadapter, hcall]; rfl,
          .refused adapter w₁ w₂ error rfl hpass hroute hcall⟩
      · exact ⟨_, w₃, by simp only [howner, hadapter, hcall]; rfl,
          .done adapter w₁ w₂ rfl hpass hroute hcall⟩
    · exact ⟨_, w₂, by simp only [howner, hadapter]; rfl,
        .unrouted w₁ rfl hpass hnone (congrArg Prod.snd hadapter)⟩
  · exact ⟨_, w₁, by simp only [howner]; rfl,
      .invalidOwner _ (answers_requesterErrorEvent ..) hfail (congrArg Prod.snd howner)⟩

theorem handled_disassociate (payload : Payload) (w : W) :
    ∃ event w', agg.handleParticipantDisassociateRequestReceivedEvt payload w =
        (.ok event, w') ∧ agg.Handled .disassociate payload w event w' := by
  unfold handleParticipantDisassociateRequestReceivedEvt
    validateRequesterParticipantInfoOrGetErrorEvent
  rcases agg.validateParticipantInfoOrGetErrorEvent_cases
      (requesterErrorEvent payload.partyId.orNull payload.partyType.orNull
        payload.partySubType.orNull payload.ownerFspId.orNull) payload.ownerFspId.orNull w with
    ⟨w₁, howner, hpass⟩ | ⟨fault, w₁, howner, hfail⟩
  · have howned := participantPasses_orNull.mp hpass
    rcases agg.getOracleAdapter_cases payload.partyType.orNull payload.currency.orNull w₁ with
      ⟨adapter, w₂, hadapter, hroute⟩ | ⟨error, w₂, hadapter, hnone⟩
    · rcases hcall : adapter.disassociateParticipant payload.ownerFspId.orNull
          payload.partyType.orNull payload.partyId.orNull payload.partySubType.orNull
          payload.currency.orNull w₂ with ⟨error | _, w₃⟩
      · exact ⟨_, w₃, by simp only [howner, hadapter, hcall]; rfl,
          .refused adapter w₁ w₂ error rfl howned hroute hcall⟩
      · exact ⟨_, w₃, by simp only [howner, hadapter, hcall]; rfl,
          .done adapter w₁ w₂ rfl howned hroute hcall⟩
    · exact ⟨_, w₂, by simp only [howner, hadapter]; rfl,
        .unrouted w₁ rfl howned hnone (congrArg Prod.snd hadapter)⟩
  · exact ⟨_, w₁, by simp only [howner]; rfl,
      .invalidOwner _ (answers_requesterErrorEvent ..)
        (fun w' => mt participantPasses_orNull.mpr (hfail w')) (congrArg Prod.snd howner)⟩

/-- **The handler of a change.** It does not throw, and comes to its event in one of
the four ways. -/
theorem handlerOf_change (change : AssociationChange) (payload : Payload) (w : W) :
    ∃ event w', agg.handlerOf change.request payload w = (.ok event, w') ∧
      agg.Handled change payload w event w' := by
  cases change with
  | associate => exact handled_associate payload w
  | disassociate => exact handled_disassociate payload w

end AccountLookupAggregate

end AccountLookup

/-
# The gate in front of every success event

A success event leaves the aggregate only when the participants involved have
passed the same check and, where an oracle is involved, the routed oracle has
answered. The gate of a request class is stated here on its own, as a chain of
calls on the collaborators from one world to the next, and shown to be exactly
the condition under which the dispatch publishes the matching success event.
-/

import AccountLookup.Domain.AssociationRequests

namespace AccountLookup

namespace AccountLookupAggregate

variable {W : Type} (agg : AccountLookupAggregate W)

/-- The destination of a party query: the payload's own when it is non-empty, the
oracle's answer otherwise. -/
def HasDestination (payload : Payload) (destination : JsString) (w w' : W) : Prop :=
  if payload.destinationFspId.truthy then destination = payload.destinationFspId ∧ w' = w
  else agg.OracleAnswers payload.partyId.orNull payload.partyType.orNull
    payload.partySubType.orNull payload.currency.orNull destination w w'

/-- Both participants named in the payload pass. -/
def BothPass (payload : Payload) (w : W) : Prop :=
  ∃ w₁ w₂, agg.ParticipantPasses payload.requesterFspId w w₁ ∧
    agg.ParticipantPasses payload.destinationFspId w₁ w₂

/-- The gate of each request class. -/
def Gate : RequestEvt → Payload → W → Prop
  | .partyQueryReceivedEvt, payload, w =>
      ∃ destination w₁ w₂ w₃, agg.ParticipantPasses payload.requesterFspId w w₁ ∧
        agg.HasDestination payload destination w₁ w₂ ∧
        agg.ParticipantPasses destination w₂ w₃
  | .partyInfoAvailableEvt, payload, w => agg.BothPass payload w
  | .partyRejectedEvt, payload, w => agg.BothPass payload w
  | .participantRejectedEvt, payload, w => agg.BothPass payload w
  | .participantQueryReceivedEvt, payload, w =>
      ∃ owner w₁ w₂ w₃, agg.ParticipantPasses payload.requesterFspId w w₁ ∧
        agg.OracleAnswers payload.partyId payload.partyType payload.partySubType
          payload.currency owner w₁ w₂ ∧
        agg.ParticipantPasses owner w₂ w₃
  | .participantAssociationRequestReceivedEvt, payload, w =>
      ∃ adapter w₁ w₂ w₃, agg.ParticipantPasses payload.ownerFspId w w₁ ∧
        agg.RoutesTo payload.partyType payload.currency adapter w₁ w₂ ∧
        adapter.associateParticipant payload.ownerFspId payload.partyType payload.partyId
          payload.partySubType payload.currency w₂ = (.ok (), w₃)
  | .participantDisassociateRequestReceivedEvt, payload, w =>
      ∃ adapter w₁ w₂ w₃, agg.ParticipantPasses payload.ownerFspId w w₁ ∧
        agg.RoutesTo payload.partyType.orNull payload.currency.orNull adapter w₁ w₂ ∧
        adapter.disassociateParticipant payload.ownerFspId.orNull payload.partyType.orNull
          payload.partyId.orNull payload.partySubType.orNull payload.currency.orNull w₂ =
            (.ok (), w₃)

variable {agg}

/-- The gates of the two changes have one form. -/
theorem gate_change {change : AssociationChange} {payload : Payload} {w : W} :
    agg.Gate change.request payload w ↔
      ∃ adapter w₁ w₂ w₃, agg.ParticipantPasses payload.ownerFspId w w₁ ∧
        agg.RoutesTo (change.read payload.partyType) (change.read payload.currency)
          adapter w₁ w₂ ∧
        change.call adapter payload w₂ = (.ok (), w₃) := by
  cases change with
  | associate => exact Iff.rfl
  | disassociate => exact Iff.rfl

variable (agg) in
/-- A call that returns an event rather than throwing: the answer to the request
when the gate is passed, an error event when it is not. -/
def Guarded (request : RequestEvt) (gate : Prop) (outcome : Except JsError DomainEvent × W) :
    Prop :=
  ∃ event w', outcome = (.ok event, w') ∧
    (event.answers = some request ∧ gate ∨ event.answers = none ∧ ¬ gate)

theorem guarded_relayBetweenParticipants {request : RequestEvt} {answer : DomainEvent}
    (hanswer : answer.answers = some request) (payload : Payload) (w : W) :
    Guarded request (agg.BothPass payload w)
      (agg.relayBetweenParticipants payload answer w) := by
  unfold relayBetweenParticipants validateRequesterParticipantInfoOrGetErrorEvent
    validateDestinationParticipantInfoOrGetErrorEvent
  rcases agg.validateParticipantInfoOrGetErrorEvent_cases
      (requesterErrorEvent payload.partyId.orNull payload.partyType.orNull
        payload.partySubType.orNull payload.requesterFspId.orNull)
      payload.requesterFspId.orNull w with
    ⟨w₁, hrequester, hpass⟩ | ⟨fault, w₁, hrequester, hfail⟩
  · rcases agg.validateParticipantInfoOrGetErrorEvent_cases
        (destinationErrorEvent payload.partyId.orNull payload.partyType.orNull
          payload.partySubType.orNull payload.destinationFspId.orNull)
        payload.destinationFspId.orNull w₁ with
      ⟨w₂, hdestination, hpass'⟩ | ⟨fault, w₂, hdestination, hfail'⟩
    · refine ⟨answer, w₂, by simp only [hrequester, hdestination], Or.inl ⟨hanswer, ?_⟩⟩
      exact ⟨w₁, w₂, participantPasses_orNull.mp hpass, participantPasses_orNull.mp hpass'⟩
    · refine ⟨_, w₂, by simp only [hrequester, hdestination]; rfl, Or.inr ⟨by simp, ?_⟩⟩
      rintro ⟨v₁, v₂, hgate, hgate'⟩
      obtain rfl := hpass.unique (participantPasses_orNull.mpr hgate)
      exact hfail' v₂ (participantPasses_orNull.mpr hgate')
  · refine ⟨_, w₁, by simp only [hrequester]; rfl, Or.inr ⟨by simp, ?_⟩⟩
    rintro ⟨v₁, _, hgate, _⟩
    exact hfail v₁ (participantPasses_orNull.mpr hgate)

/-- The destination of a party query is found, or the failing lookup is reported
by an error event. -/
theorem partyQueryDestination_cases (payload : Payload) (w : W) :
    (∃ destination w', agg.partyQueryDestination payload w = (.ok destination, w') ∧
        agg.HasDestination payload destination w w') ∨
      ∃ event w', agg.partyQueryDestination payload w = (.error event, w') ∧
        event.answers = none ∧
        ∀ destination w'', ¬ agg.HasDestination payload destination w w'' := by
  unfold partyQueryDestination HasDestination
  cases htruthy : payload.destinationFspId.truthy with
  | true =>
    obtain ⟨s, hs, _⟩ := JsString.truthy_iff.mp htruthy
    exact Or.inl ⟨payload.destinationFspId, w, by simp [hs, ← htruthy], by simp⟩
  | false =>
    simp only [JsString.truthy_orNull, htruthy, Bool.false_eq_true, if_false]
    rcases agg.getParticipantIdFromOracle_cases payload.partyId.orNull payload.partyType.orNull
        payload.partySubType.orNull payload.currency.orNull w with
      ⟨fspId, w', hlookup, hanswers⟩ | ⟨error, w', hlookup, hno⟩
    · exact Or.inl ⟨fspId, w', by rw [hlookup], hanswers⟩
    · exact Or.inr ⟨_, w', by rw [hlookup], rfl, hno⟩

theorem HasDestination.unique {payload : Payload} {first second : JsString} {w w₁ w₂ : W}
    (hfirst : agg.HasDestination payload first w w₁)
    (hsecond : agg.HasDestination payload second w w₂) : first = second ∧ w₁ = w₂ := by
  unfold HasDestination at hfirst hsecond
  split at hfirst
  · next htruthy =>
    rw [if_pos htruthy] at hsecond
    exact ⟨hfirst.1.trans hsecond.1.symm, hfirst.2.trans hsecond.2.symm⟩
  · next htruthy =>
    rw [if_neg htruthy] at hsecond
    exact hfirst.unique hsecond

theorem guarded_handlePartyQueryReceivedEvt (payload : Payload) (w : W) :
    Guarded .partyQueryReceivedEvt (agg.Gate .partyQueryReceivedEvt payload w)
      (agg.handlePartyQueryReceivedEvt payload w) := by
  unfold handlePartyQueryReceivedEvt validateRequesterParticipantInfoOrGetErrorEvent
    validateDestinationParticipantInfoOrGetErrorEvent
  rcases agg.validateParticipantInfoOrGetErrorEvent_cases
      (requesterErrorEvent payload.partyId.orNull payload.partyType.orNull
        payload.partySubType.orNull payload.requesterFspId.orNull)
      payload.requesterFspId.orNull w with
    ⟨w₁, hrequester, hpass⟩ | ⟨fault, w₁, hrequester, hfail⟩
  · rcases agg.partyQueryDestination_cases payload w₁ with
      ⟨destination, w₂, hdestination, hhas⟩ | ⟨event, w₂, hdestination, hevent, hnone⟩
    · rcases agg.validateParticipantInfoOrGetErrorEvent_cases
          (destinationErrorEvent payload.partyId.orNull payload.partyType.orNull
            payload.partySubType.orNull destination) destination w₂ with
        ⟨w₃, hvalid, hpass'⟩ | ⟨fault, w₃, hvalid, hfail'⟩
      · refine ⟨_, w₃, by simp only [hrequester, hdestination, hvalid]; rfl, Or.inl ⟨rfl, ?_⟩⟩
        exact ⟨destination, w₁, w₂, w₃, participantPasses_orNull.mp hpass, hhas, hpass'⟩
      · refine ⟨_, w₃, by simp only [hrequester, hdestination, hvalid]; rfl,
          Or.inr ⟨by simp, ?_⟩⟩
        rintro ⟨destination', v₁, v₂, v₃, hgate, hhas', hgate'⟩
        obtain rfl := hpass.unique (participantPasses_orNull.mpr hgate)
        obtain ⟨rfl, rfl⟩ := hhas.unique hhas'
        exact hfail' v₃ hgate'
    · refine ⟨event, w₂, by simp only [hrequester, hdestination], Or.inr ⟨hevent, ?_⟩⟩
      rintro ⟨destination', v₁, v₂, v₃, hgate, hhas', _⟩
      obtain rfl := hpass.unique (participantPasses_orNull.mpr hgate)
      exact hnone destination' v₂ hhas'
  · refine ⟨_, w₁, by simp only [hrequester]; rfl, Or.inr ⟨by simp, ?_⟩⟩
    rintro ⟨_, v₁, _, _, hgate, _⟩
    exact hfail v₁ (participantPasses_orNull.mpr hgate)

theorem guarded_handleParticipantQueryReceivedEvt (payload : Payload) (w : W) :
    Guarded .participantQueryReceivedEvt (agg.Gate .participantQueryReceivedEvt payload w)
      (agg.handleParticipantQueryReceivedEvt payload w) := by
  unfold handleParticipantQueryReceivedEvt validateRequesterParticipantInfoOrGetErrorEvent
    validateDestinationParticipantInfoOrGetErrorEvent
  rcases agg.validateParticipantInfoOrGetErrorEvent_cases
      (requesterErrorEvent payload.partyId payload.partyType payload.partySubType
        payload.requesterFspId) payload.requesterFspId w with
    ⟨w₁, hrequester, hpass⟩ | ⟨fault, w₁, hrequester, hfail⟩
  · rcases agg.getParticipantIdFromOracle_cases payload.partyId payload.partyType
        payload.partySubType payload.currency w₁ with
      ⟨owner, w₂, howner, hanswers⟩ | ⟨error, w₂, howner, hnone⟩
    · rcases agg.validateParticipantInfoOrGetErrorEvent_cases
          (destinationErrorEvent payload.partyId payload.partyType payload.partySubType owner)
          owner w₂ with
        ⟨w₃, hvalid, hpass'⟩ | ⟨fault, w₃, hvalid, hfail'⟩
      · refine ⟨_, w₃, by simp only [hrequester, howner, hvalid]; rfl, Or.inl ⟨rfl, ?_⟩⟩
        exact ⟨owner, w₁, w₂, w₃, hpass, hanswers, hpass'⟩
      · refine ⟨_, w₃, by simp only [hrequester, howner, hvalid]; rfl, Or.inr ⟨by simp, ?_⟩⟩
        rintro ⟨owner', v₁, v₂, v₃, hgate, hanswers', hgate'⟩
        obtain rfl := hpass.unique hgate
        obtain ⟨rfl, rfl⟩ := hanswers.unique hanswers'
        exact hfail' v₃ hgate'
    · refine ⟨_, w₂, by simp only [hrequester, howner]; rfl, Or.inr ⟨rfl, ?_⟩⟩
      rintro ⟨owner', v₁, v₂, v₃, hgate, hanswers', _⟩
      obtain rfl := hpass.unique hgate
      exact hnone owner' v₂ hanswers'
  · refine ⟨_, w₁, by simp only [hrequester]; rfl, Or.inr ⟨by simp, ?_⟩⟩
    rintro ⟨_, v₁, _, _, hgate, _⟩
    exact hfail v₁ hgate

/-- Of the four ways in which a change is handled, the last one alone is behind an open
gate. -/
theorem guarded_change (change : AssociationChange) (payload : Payload) (w : W) :
    Guarded change.request (agg.Gate change.request payload w)
      (agg.handlerOf change.request payload w) := by
  obtain ⟨event, w', houtcome, hhandled⟩ := agg.handlerOf_change change payload w
  refine ⟨event, w', houtcome, ?_⟩
  rw [gate_change]
  cases hhandled with
  | invalidOwner errorEvent hanswers hfail hworld =>
    refine Or.inr ⟨hanswers, ?_⟩
    rintro ⟨_, v₁, _, _, hpass, _⟩
    exact hfail v₁ hpass
  | unrouted w₁ hanswers hpass hnone hworld =>
    refine Or.inr ⟨hanswers, ?_⟩
    rintro ⟨adapter, v₁, v₂, _, hpass', hroute, _⟩
    obtain rfl := hpass.unique hpass'
    exact hnone adapter v₂ hroute
  | refused adapter w₁ w₂ error hanswers hpass hroute hcall =>
    refine Or.inr ⟨hanswers, ?_⟩
    rintro ⟨adapter', v₁, v₂, v₃, hpass', hroute', hcall'⟩
    obtain rfl := hpass.unique hpass'
    obtain ⟨rfl, rfl⟩ := hroute.unique hroute'
    simp [hcall] at hcall'
  | done adapter w₁ w₂ hanswers hpass hroute hcall =>
    exact Or.inl ⟨hanswers, adapter, w₁, w₂, w', hpass, hroute, hcall⟩

/-- No handler throws, and none answers its request past a closed gate or
withholds the answer behind an open one. -/
theorem guarded_handlerOf (request : RequestEvt) (payload : Payload) (w : W) :
    Guarded request (agg.Gate request payload w) (agg.handlerOf request payload w) := by
  cases request with
  | partyQueryReceivedEvt => exact guarded_handlePartyQueryReceivedEvt payload w
  | partyInfoAvailableEvt => exact guarded_relayBetweenParticipants rfl payload w
  | participantQueryReceivedEvt => exact guarded_handleParticipantQueryReceivedEvt payload w
  | participantAssociationRequestReceivedEvt =>
    exact guarded_change .associate payload w
  | participantDisassociateRequestReceivedEvt =>
    exact guarded_change .disassociate payload w
  | partyRejectedEvt => exact guarded_relayBetweenParticipants rfl payload w
  | participantRejectedEvt => exact guarded_relayBetweenParticipants rfl payload w

/-- The first check passes exactly a message with a payload and the type of a
domain event; its error events answer no request. -/
theorem validateMessageOrGetErrorEvent_cases (message : IMessage) :
    (∃ payload, message.payload = some payload ∧ message.msgType = .domainEvent ∧
        validateMessageOrGetErrorEvent message = none) ∨
      ∃ event, validateMessageOrGetErrorEvent message = some event ∧ event.answers = none ∧
        ¬ (∃ payload, message.payload = some payload ∧ message.msgType = .domainEvent) := by
  cases hpayload : message.payload with
  | none =>
    exact Or.inr ⟨_, by simp only [validateMessageOrGetErrorEvent, hpayload]; rfl, rfl, by simp⟩
  | some payload =>
    by_cases htype : message.msgType = .domainEvent
    · exact Or.inl ⟨payload, rfl, htype,
        by simp [validateMessageOrGetErrorEvent, hpayload, htype]⟩
    · have hinvalid : ∃ errorPayload, validateMessageOrGetErrorEvent message =
          some (.accountLookupBCInvalidMessageTypeErrorEvent errorPayload) :=
        ⟨_, by simp only [validateMessageOrGetErrorEvent, hpayload, Option.isNone_some,
          Bool.false_eq_true, if_false, ne_eq, htype, not_false_eq_true, if_true]; rfl⟩
      obtain ⟨errorPayload, hinvalid⟩ := hinvalid
      exact Or.inr ⟨_, hinvalid, rfl, by simp [htype]⟩

variable (agg) in
/-- **Gating of `handleEvent`.** For every behaviour of the collaborators, the
event published for a message is the success event that answers a given request
exactly when the message carries a payload, is a domain event, names that
request, and the gate of the request is passed. -/
theorem handleEvent_answers_iff_gate (message : IMessage) (w : W) (request : RequestEvt) :
    (agg.handleEvent message w).1.event.answers = some request ↔
      ∃ payload, message.payload = some payload ∧ message.msgType = .domainEvent ∧
        message.msgName = request.name ∧ agg.Gate request payload w := by
  rcases validateMessageOrGetErrorEvent_cases message with
    ⟨payload, hpayload, htype, hvalid⟩ | ⟨event, hinvalid, hanswers, hbad⟩
  · cases hname : RequestEvt.ofName message.msgName with
    | none =>
      have hne : message.msgName ≠ request.name := fun h => by
        rw [h, RequestEvt.ofName_name] at hname
        cases hname
      simp [handleEvent, hvalid, hname, hne, DomainEvent.answers]
    | some named =>
      have hnamed := RequestEvt.ofName_eq_some_iff.mp hname
      have hrequest : message.msgName = request.name ↔ named = request := by
        rw [← RequestEvt.ofName_eq_some_iff, hname, Option.some.injEq]
      obtain ⟨event, w', hhandler, hevent⟩ := agg.guarded_handlerOf named payload w
      simp only [handleEvent, hvalid, hname, hpayload, Option.getD_some, hhandler,
        Option.some.injEq, exists_eq_left', htype, true_and, hrequest]
      rcases hevent with ⟨hanswers, hgate⟩ | ⟨hanswers, hgate⟩
      · rw [hanswers, Option.some.injEq]
        exact ⟨fun h => ⟨h, h ▸ hgate⟩, And.left⟩
      · rw [hanswers]
        apply iff_of_false (by simp)
        rintro ⟨rfl, hopen⟩
        exact hgate hopen
  · simp only [handleEvent, hinvalid, hanswers]
    apply iff_of_false (by simp)
    rintro ⟨payload, hpayload, htype, -⟩
    exact hbad ⟨payload, hpayload, htype⟩

end AccountLookupAggregate

end AccountLookup

/-
# Messages that are delivered again

Messages come in lists, and a list may come again: because it was broken off, or because the
answers to it could not be sent. To each party a list of messages is a list of requests to
take it or to give it up. If no participant of the list asks for a party of another one, the
state after a last, complete delivery is that of a single one, whatever was delivered before.
The answers are not the same: a party that was taken by an earlier delivery, and that nobody
gives up, cannot be taken again, so its success event is not published a second time.
-/

import AccountLookup.Domain.LookupService
import AccountLookup.Library.Redelivery

namespace AccountLookup

open Library Library.Transition

namespace PartyCall

/-- What the call is to its own party. -/
def request : PartyCall → Redelivery.Request String
  | .associateParticipant fspId _ => .take fspId
  | .disassociateParticipant fspId _ => .giveUp fspId
  | .getParticipantFspId _ => .elsewhere

end PartyCall

theorem Directory.after_apply (d : Directory) (call : PartyCall) (party : Party) :
    d.after call party =
      if call.party = party then call.request.after (d party) else d party := by
  cases call with
  | getParticipantFspId other => exact (ite_self _).symm
  | associateParticipant fspId other =>
    show (if d other = none then Function.update d other (some fspId) else d) party =
      if other = party then (if d party = none then some fspId else d party) else d party
    by_cases hparty : other = party
    · subst hparty
      rw [if_pos rfl]
      by_cases hfree : d other = none
      · rw [if_pos hfree, if_pos hfree, Function.update_self]
      · rw [if_neg hfree, if_neg hfree]
    · rw [if_neg hparty]
      split
      · exact Function.update_of_ne (Ne.symm hparty) _ _
      · rfl
  | disassociateParticipant fspId other =>
    show (if d other = some fspId then Function.update d other none else d) party =
      if other = party then (if d party = some fspId then none else d party) else d party
    by_cases hparty : other = party
    · subst hparty
      rw [if_pos rfl]
      by_cases howned : d other = some fspId
      · rw [if_pos howned, if_pos howned, Function.update_self]
      · rw [if_neg howned, if_neg howned]
    · rw [if_neg hparty]
      split
      · exact Function.update_of_ne (Ne.symm hparty) _ _
      · rfl

theorem Directory.Orderly.request {d : Directory} {call : PartyCall} (h : d.Orderly call) :
    call.request.Orderly (d call.party) := by
  cases call with
  | associateParticipant fspId party => exact h
  | disassociateParticipant fspId party => trivial
  | getParticipantFspId party => trivial

theorem RequestEvt.party_of_callOn {request : RequestEvt} {payload : Payload} {party : Party}
    {call : PartyCall} (h : request.callOn payload party = some call) : call.party = party := by
  cases request with
  | participantAssociationRequestReceivedEvt =>
    obtain ⟨fspId, -, rfl⟩ := Option.map_eq_some_iff.mp h
    rfl
  | participantDisassociateRequestReceivedEvt =>
    obtain ⟨fspId, -, rfl⟩ := Option.map_eq_some_iff.mp h
    rfl
  | partyQueryReceivedEvt => cases h
  | partyInfoAvailableEvt => cases h
  | participantQueryReceivedEvt => cases h
  | partyRejectedEvt => cases h
  | participantRejectedEvt => cases h

namespace LookupState

variable {H : Type} (s : LookupState H)

/-- The call that a message comes down to. -/
def callOf (message : IMessage) : Option PartyCall :=
  match message.accepted with
  | none => none
  | some (request, payload) =>
    if s.passes (request.checked payload) then payload.party?.bind (request.callOn payload)
    else none

theorem callOf_eq_some_iff {message : IMessage} {call : PartyCall} :
    s.callOf message = some call ↔ ∃ request payload party,
      message.accepted = some (request, payload) ∧ s.passes (request.checked payload) = true ∧
        payload.party? = some party ∧ request.callOn payload party = some call := by
  rw [callOf]
  constructor
  · intro h
    cases haccepted : message.accepted with
    | none =>
      rw [haccepted] at h
      cases h
    | some accepted =>
      obtain ⟨request, payload⟩ := accepted
      rw [haccepted] at h
      dsimp only at h
      split at h
      · next hpass =>
        obtain ⟨party, hparty, hcall⟩ := Option.bind_eq_some_iff.mp h
        exact ⟨request, payload, party, rfl, hpass, hparty, hcall⟩
      · cases h
  · rintro ⟨request, payload, party, haccepted, hpass, hparty, hcall⟩
    rw [haccepted]
    show (if s.passes (request.checked payload) = true then
      payload.party?.bind (request.callOn payload) else none) = some call
    rw [if_pos hpass, hparty, Option.bind_some, hcall]

variable [DecidableEq H]

/-- What a message is to a party in a store. -/
def requestFor (home : H) (party : Party) (message : IMessage) : Redelivery.Request String :=
  match s.callOf message with
  | none => .elsewhere
  | some call => if call.party = party ∧ s.home party = some home then call.request else .elsewhere

theorem afterMessage_eq_callOf (message : IMessage) :
    s.afterMessage message = (s.callOf message).elim s s.afterCall := by
  rw [afterMessage, callOf]
  cases message.accepted with
  | none => rfl
  | some accepted =>
    obtain ⟨request, payload⟩ := accepted
    show s.afterRequest request payload =
      (if s.passes (request.checked payload) = true then
        payload.party?.bind (request.callOn payload) else none).elim s s.afterCall
    rw [afterRequest]
    split
    · rfl
    · rfl

/-- A call leaves the participants and the stores of the parties alone. -/
theorem afterCall_eq (call : PartyCall) :
    s.afterCall call = ⟨s.participants, s.home, (s.afterCall call).owners⟩ := by
  rw [afterCall]
  cases s.home call.party with
  | none => rfl
  | some home => rfl

theorem afterMessage_eq (message : IMessage) :
    s.afterMessage message = ⟨s.participants, s.home, (s.afterMessage message).owners⟩ := by
  rw [afterMessage_eq_callOf]
  cases s.callOf message with
  | none => rfl
  | some call => exact s.afterCall_eq call

theorem afterCall_owners (call : PartyCall) (home : H) (party : Party) :
    (s.afterCall call).owners home party =
      if call.party = party ∧ s.home party = some home then
        call.request.after (s.owners home party)
      else s.owners home party := by
  rw [afterCall]
  by_cases hparty : call.party = party
  · subst hparty
    cases hhome : s.home call.party with
    | none => rw [if_neg fun h => (by cases h.2)]
    | some other =>
      dsimp only
      by_cases hother : other = home
      · subst hother
        rw [Function.update_self, Directory.after_apply, if_pos rfl, if_pos ⟨rfl, rfl⟩]
      · rw [Function.update_of_ne (Ne.symm hother),
          if_neg fun h => hother (Option.some.inj h.2)]
  · rw [if_neg fun h => hparty h.1]
    cases s.home call.party with
    | none => rfl
    | some other =>
      dsimp only
      by_cases hother : other = home
      · subst hother
        rw [Function.update_self, Directory.after_apply, if_neg hparty]
      · rw [Function.update_of_ne (Ne.symm hother)]

theorem afterMessage_owners (message : IMessage) (home : H) (party : Party) :
    (s.afterMessage message).owners home party =
      (s.requestFor home party message).after (s.owners home party) := by
  rw [afterMessage_eq_callOf, requestFor]
  cases s.callOf message with
  | none => rfl
  | some call =>
    show (s.afterCall call).owners home party = _
    rw [afterCall_owners]
    dsimp only
    split
    · rfl
    · rfl

/-- What messages are to the parties does not change with the owners. -/
theorem requestFor_afterMessage (message : IMessage) :
    (s.afterMessage message).requestFor = s.requestFor := by
  rw [afterMessage_eq]
  rfl

/-- **A list of messages** is to each party a list of requests. -/
theorem run_afterMessage (messages : List IMessage) :
    run (·.afterMessage ·) s messages = ⟨s.participants, s.home, fun home party =>
      run Redelivery.Request.after (s.owners home party)
        (messages.map (s.requestFor home party))⟩ := by
  induction messages generalizing s with
  | nil => rfl
  | cons message messages ih =>
    rw [run_cons, ih, requestFor_afterMessage]
    have hsame := s.afterMessage_eq message
    have hparticipants := congrArg participants hsame
    have hhome := congrArg home hsame
    have howners : (s.afterMessage message).owners = fun home party =>
        (s.requestFor home party message).after (s.owners home party) := by
      funext home party
      exact s.afterMessage_owners message home party
    rw [hparticipants, hhome, howners]
    rfl

end LookupState

/-! ## The same messages again -/

namespace LookupState

variable {H : Type} [DecidableEq H] {s : LookupState H} {Kind : Party → Prop}
  {message : IMessage} {messages again : List IMessage}

/-- A message whose request, if it has one, is orderly. -/
def OrderlyMessage (s : LookupState H) (Kind : Party → Prop) (message : IMessage) : Prop :=
  ∀ request payload, message.accepted = some (request, payload) → s.Orderly Kind request payload

theorem OrderlyMessage.request (h : s.OrderlyMessage Kind message) (home : H) (party : Party) :
    (s.requestFor home party message).Orderly (s.owners home party) := by
  rw [requestFor]
  cases hcall : s.callOf message with
  | none => trivial
  | some call =>
    dsimp only
    split
    · next hmine =>
      obtain ⟨rfl, hhome⟩ := hmine
      obtain ⟨request, payload, party, haccepted, hpass, hparty, hcalled⟩ :=
        s.callOf_eq_some_iff.mp hcall
      obtain rfl := RequestEvt.party_of_callOn hcalled
      exact ((h request payload haccepted).orderly hpass _ call home hparty hcalled hhome).request
    · trivial

theorem orderly_requests (home : H) (party : Party)
    (horderly : Along (·.afterMessage ·) (OrderlyMessage · Kind) s messages) :
    Along Redelivery.Request.after Redelivery.Request.Orderly (s.owners home party)
      (messages.map (s.requestFor home party)) := by
  induction messages generalizing s with
  | nil => trivial
  | cons message messages ih =>
    obtain ⟨hmessage, hrest⟩ := horderly
    refine ⟨hmessage.request home party, ?_⟩
    have hlater := ih hrest
    rwa [requestFor_afterMessage, afterMessage_owners] at hlater

/-- **The same messages again.** However the messages of an orderly list are delivered before,
in part and in any order, a last, complete delivery leaves the state of a single one. -/
theorem run_run_eq (horderly : Along (·.afterMessage ·) (OrderlyMessage · Kind) s messages)
    (hagain : ∀ message ∈ again, message ∈ messages) :
    run (·.afterMessage ·) (run (·.afterMessage ·) s again) messages =
      run (·.afterMessage ·) s messages := by
  rw [run_afterMessage s messages, run_afterMessage _ messages, run_afterMessage s again]
  congr 1
  funext home party
  apply Redelivery.run_run_eq (orderly_requests home party horderly)
  intro request hrequest
  obtain ⟨message, hmessage, rfl⟩ := List.mem_map.mp hrequest
  exact List.mem_map_of_mem (hagain message hmessage)

/-- Each message is answered by an event of its own, which the state prescribes that the
messages before it have led to, with the correlation data of the message. -/
inductive AnsweredInTurn : LookupState H → List IMessage → List DomainEventMsg → Prop
  | nil {s : LookupState H} : AnsweredInTurn s [] []
  | cons {s : LookupState H} {message : IMessage} {messages : List IMessage}
      {event : DomainEventMsg} {events : List DomainEventMsg}
      (prescribed : s.Answers message event.event)
      (inboundProtocolType : event.inboundProtocolType = message.inboundProtocolType)
      (inboundProtocolOpaqueState :
        event.inboundProtocolOpaqueState = message.inboundProtocolOpaqueState)
      (rest : AnsweredInTurn (s.afterMessage message) messages events) :
      AnsweredInTurn s (message :: messages) (event :: events)

/-- The state in which a message is answered. -/
theorem AnsweredInTurn.exists_before {events : List DomainEventMsg} {event : DomainEventMsg}
    (h : s.AnsweredInTurn messages events) (hmem : (message, event) ∈ messages.zip events) :
    ∃ before, before <+: messages ∧
      (run (·.afterMessage ·) s before).Answers message event.event := by
  induction h with
  | nil => cases hmem
  | @cons s first messages answer events hprescribed _ _ _ ih =>
    rw [List.zip_cons_cons, List.mem_cons] at hmem
    rcases hmem with hfirst | hlater
    · obtain ⟨rfl, rfl⟩ := Prod.mk.inj hfirst
      exact ⟨[], List.nil_prefix, hprescribed⟩
    · obtain ⟨before, hbefore, hanswers⟩ := ih hlater
      exact ⟨first :: before, List.cons_prefix_cons.mpr ⟨rfl, hbefore⟩, hanswers⟩

/-- No message gives the party up. -/
def Kept (messages : List IMessage) (party : Party) : Prop :=
  ∀ message ∈ messages, ∀ payload,
    message.accepted = some (.participantDisassociateRequestReceivedEvt, payload) →
    payload.party? ≠ some party

theorem Kept.giveUp_not_mem {party : Party} (h : Kept messages party) (home : H)
    (owner : String) : .giveUp owner ∉ messages.map (s.requestFor home party) := by
  intro hmem
  obtain ⟨message, hmessage, hrequest⟩ := List.mem_map.mp hmem
  rw [requestFor] at hrequest
  cases hcall : s.callOf message with
  | none =>
    rw [hcall] at hrequest
    cases hrequest
  | some call =>
    rw [hcall] at hrequest
    dsimp only at hrequest
    split at hrequest
    · next hmine =>
      obtain ⟨request, payload, other, haccepted, -, hparty, hcalled⟩ :=
        s.callOf_eq_some_iff.mp hcall
      rw [← RequestEvt.party_of_callOn hcalled, hmine.1] at hparty
      cases request with
      | participantAssociationRequestReceivedEvt =>
        obtain ⟨fspId, -, rfl⟩ := Option.map_eq_some_iff.mp hcalled
        cases hrequest
      | participantDisassociateRequestReceivedEvt =>
        exact h message hmessage payload haccepted hparty
      | partyQueryReceivedEvt => cases hcalled
      | partyInfoAvailableEvt => cases hcalled
      | participantQueryReceivedEvt => cases hcalled
      | partyRejectedEvt => cases hcalled
      | participantRejectedEvt => cases hcalled
    · cases hrequest

/-- To its party, an association request of a participant that passes is a request to take
it. -/
theorem requestFor_association {home : H} {party : Party} {payload : Payload}
    (haccepted : message.accepted = some (.participantAssociationRequestReceivedEvt, payload))
    (hparty : payload.party? = some party) (hhome : s.home party = some home)
    (hpass : s.passes payload.ownerFspId = true) :
    ∃ fspId, s.requestFor home party message = .take fspId := by
  obtain ⟨fspId, howner, -⟩ := passes_iff.mp hpass
  have hcalled : RequestEvt.participantAssociationRequestReceivedEvt.callOn payload party =
      some (.associateParticipant fspId party) := by
    rw [RequestEvt.callOn, howner, Option.map_some]
  have hcall : s.callOf message = some (.associateParticipant fspId party) :=
    s.callOf_eq_some_iff.mpr ⟨_, payload, party, haccepted, hpass, hparty, hcalled⟩
  refine ⟨fspId, ?_⟩
  rw [requestFor, hcall]
  exact if_pos ⟨rfl, hhome⟩

/-- **A party is not taken twice.** If an association request was handled before, and nobody
gives its party up, then a later delivery does not answer it with its success event. -/
theorem AnsweredInTurn.answers_eq_none {events : List DomainEventMsg} {event : DomainEventMsg}
    {payload : Payload} {party : Party}
    (h : (run (·.afterMessage ·) s again).AnsweredInTurn messages events)
    (hkept : Kept messages party) (hagain : ∀ message ∈ again, message ∈ messages)
    (haccepted : message.accepted = some (.participantAssociationRequestReceivedEvt, payload))
    (hparty : payload.party? = some party) (hbefore : message ∈ again)
    (hmem : (message, event) ∈ messages.zip events) : event.event.answers = none := by
  obtain ⟨before, hbegins, hanswers⟩ := h.exists_before hmem
  rw [← run_append, run_afterMessage, Answers, haccepted] at hanswers
  by_contra hsome
  obtain ⟨request, hrequest⟩ := Option.ne_none_iff_exists'.mp hsome
  obtain ⟨-, hpass, party', home, hparty', hhome, hfree⟩ := hanswers.opens request hrequest
  obtain rfl := Option.some.inj (hparty.symm.trans hparty')
  obtain ⟨fspId, htake⟩ := requestFor_association haccepted hparty hhome hpass
  have hkept' : Kept (again ++ before) party := by
    intro other hother
    rcases List.mem_append.mp hother with hold | hnew
    · exact hkept other (hagain other hold)
    · exact hkept other (hbegins.subset hnew)
  apply Redelivery.run_ne_none_of_take (hkept'.giveUp_not_mem home) ?_ hfree
  · exact fspId
  · rw [← htake]
    exact List.mem_map_of_mem (List.mem_append_left before hbefore)

end LookupState

end AccountLookup

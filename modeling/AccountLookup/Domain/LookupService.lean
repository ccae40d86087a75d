/-
# What the service is for

The service answers who owns a party, and lets participants take parties and give them
up. What its callers may notice is a state of three parts: the participants and their
standing, the store that a party is kept in, and the directory of each store. Every
request asks one participant to pass, and comes down to one call on the directory of the
party's store; what is published follows from the state before.
-/

import AccountLookup.Domain.Directory
import AccountLookup.Domain.LookupEntryPoints

namespace AccountLookup

/-- A property that is `null` or a string. -/
def JsString.optional? : JsString → Option (Option String)
  | .undefined => none
  | .null => some none
  | .str value => some (some value)

theorem JsString.optional?_eq_some_iff {value : JsString} {text : Option String} :
    value.optional? = some text ↔ value = .ofOption text := by
  cases value <;> cases text <;> simp [JsString.optional?, JsString.ofOption]

/-- The party that a payload describes. -/
def Payload.party? (payload : Payload) : Option Party :=
  match payload.partyType, payload.partyId, payload.partySubType.optional?,
      payload.currency.optional? with
  | .str partyType, .str partyId, some partySubType, some currency =>
    some ⟨partyType, partyId, partySubType, currency⟩
  | _, _, _, _ => none

/-- The properties of a payload that describes a party. -/
structure Payload.Describes (payload : Payload) (party : Party) : Prop where
  partyType : payload.partyType = .str party.partyType
  partyId : payload.partyId = .str party.partyId
  partySubType : payload.partySubType = .ofOption party.partySubType
  currency : payload.currency = .ofOption party.currency

theorem Payload.describes_of_party? {payload : Payload} {party : Party}
    (h : payload.party? = some party) : payload.Describes party := by
  unfold Payload.party? at h
  split at h
  · next partyType partyId partySubType currency htype hid hsub hcurrency =>
    obtain rfl := Option.some.inj h
    exact ⟨htype, hid, JsString.optional?_eq_some_iff.mp hsub,
      JsString.optional?_eq_some_iff.mp hcurrency⟩
  · cases h

namespace RequestEvt

/-- The participant that a request asks to pass first. -/
def checked (request : RequestEvt) (payload : Payload) : JsString :=
  match request with
  | .participantAssociationRequestReceivedEvt => payload.ownerFspId
  | .participantDisassociateRequestReceivedEvt => payload.ownerFspId
  | _ => payload.requesterFspId

/-- The request asks the oracle of a party. -/
def AsksOracle (request : RequestEvt) (payload : Payload) : Prop :=
  match request with
  | .participantQueryReceivedEvt => True
  | .partyQueryReceivedEvt => payload.destinationFspId.truthy = false
  | .participantAssociationRequestReceivedEvt => True
  | .participantDisassociateRequestReceivedEvt => True
  | _ => False

/-- The call on the oracle of a party that a request comes down to. -/
def callOn (request : RequestEvt) (payload : Payload) (party : Party) : Option PartyCall :=
  match request with
  | .participantAssociationRequestReceivedEvt =>
    payload.ownerFspId.nonEmpty?.map fun fspId => .associateParticipant fspId party
  | .participantDisassociateRequestReceivedEvt =>
    payload.ownerFspId.nonEmpty?.map fun fspId => .disassociateParticipant fspId party
  | _ => none

end RequestEvt

/-- The call on the oracle that a change comes down to. -/
def AssociationChange.partyCall (change : AssociationChange) (fspId : String) (party : Party) :
    PartyCall :=
  match change with
  | .associate => .associateParticipant fspId party
  | .disassociate => .disassociateParticipant fspId party

namespace AssociationChange

variable {payload : Payload} {party : Party} {fspId : String}

theorem callOn_request (change : AssociationChange) (payload : Payload) (party : Party) :
    change.request.callOn payload party =
      payload.ownerFspId.nonEmpty?.map fun fspId => change.partyCall fspId party := by
  cases change <;> rfl

theorem checked_request (change : AssociationChange) (payload : Payload) :
    change.request.checked payload = payload.ownerFspId := by
  cases change <;> rfl

/-- The call that the handler makes, in terms of the party and its owner. -/
theorem on_partyCall {W : Type} (change : AssociationChange) (adapter : IOracleProviderAdapter W)
    (hdescribes : payload.Describes party) (howner : payload.ownerFspId = .str fspId) (w : W) :
    (change.partyCall fspId party).on adapter w =
      ((change.call adapter payload w).1.map fun _ => .null,
        (change.call adapter payload w).2) := by
  cases change with
  | associate =>
    simp only [call, howner, hdescribes.partyId, hdescribes.partyType,
      hdescribes.partySubType, hdescribes.currency]
    rfl
  | disassociate =>
    simp only [call, howner, hdescribes.partyId, hdescribes.partyType,
      hdescribes.partySubType, hdescribes.currency, JsString.orNull_str,
      JsString.orNull_ofOption]
    rfl

theorem read_eq (change : AssociationChange) (hdescribes : payload.Describes party) :
    change.read payload.partyType = .str party.partyType ∧
      change.read payload.currency = .ofOption party.currency := by
  rw [hdescribes.partyType, hdescribes.currency]
  cases change with
  | associate => exact ⟨rfl, rfl⟩
  | disassociate => exact ⟨rfl, JsString.orNull_ofOption _⟩

end AssociationChange

/-- The request and the payload of a message that is dispatched to a handler. -/
def IMessage.accepted (message : IMessage) : Option (RequestEvt × Payload) :=
  if message.msgType = .domainEvent then
    match RequestEvt.ofName message.msgName, message.payload with
    | some request, some payload => some (request, payload)
    | _, _ => none
  else none

/-- What the service shows of its world: the participants, the store of a party, and the
owners that each store knows. -/
structure LookupState (H : Type) where
  participants : String → Option IParticipant
  home : Party → Option H
  owners : H → Directory

namespace LookupState

variable {H : Type} (s : LookupState H)

/-- The participant is known under its own id, approved and active. -/
def passes : JsString → Bool
  | .str id =>
    match s.participants id with
    | some participant =>
      decide (id ≠ "") && decide (participant.id = id) && participant.approved &&
        participant.isActive
    | none => false
  | _ => false

/-- The owner that the store of the party knows. -/
def owner (party : Party) : Option String := (s.home party).bind fun h => s.owners h party

/-- The state after a call on the store of a party. -/
def afterCall [DecidableEq H] (call : PartyCall) : LookupState H :=
  match s.home call.party with
  | none => s
  | some h => { s with owners := Function.update s.owners h ((s.owners h).after call) }

/-- The state after a request. -/
def afterRequest [DecidableEq H] (request : RequestEvt) (payload : Payload) : LookupState H :=
  if s.passes (request.checked payload) then
    (payload.party?.bind (request.callOn payload)).elim s s.afterCall
  else s

/-- The participant that a request leads to. -/
def target (request : RequestEvt) (payload : Payload) : Option String :=
  match request with
  | .participantQueryReceivedEvt => payload.party?.bind s.owner
  | .partyQueryReceivedEvt => payload.destinationFspId.nonEmpty?.or (payload.party?.bind s.owner)
  | .partyInfoAvailableEvt => payload.destinationFspId.nonEmpty?
  | .partyRejectedEvt => payload.destinationFspId.nonEmpty?
  | .participantRejectedEvt => payload.destinationFspId.nonEmpty?
  | _ => none

/-- The request has to succeed: its participant passes; a party that is to be taken is free
in its store, one that is to be given up belongs to the participant, and where the request
leads to another participant, that one passes as well. -/
def Opens (request : RequestEvt) (payload : Payload) : Prop :=
  s.passes (request.checked payload) = true ∧
    match request with
    | .participantAssociationRequestReceivedEvt =>
      ∃ party h, payload.party? = some party ∧ s.home party = some h ∧ s.owners h party = none
    | .participantDisassociateRequestReceivedEvt =>
      ∃ party, payload.party? = some party ∧ s.owner party ≠ none ∧
        s.owner party = payload.ownerFspId.nonEmpty?
    | _ => ∃ name, s.target request payload = some name ∧ s.passes (.str name) = true

/-- The request may succeed. Giving up a party may also succeed when it is not owned. -/
def MayOpen (request : RequestEvt) (payload : Payload) : Prop :=
  match request with
  | .participantDisassociateRequestReceivedEvt =>
    s.passes (request.checked payload) = true ∧
      ∃ party, payload.party? = some party ∧ s.home party ≠ none
  | _ => s.Opens request payload

/-- What is published for a request: its success event where it has to succeed, no success
event where it may not, and no other participant than the one it leads to. -/
structure Prescribes (request : RequestEvt) (payload : Payload) (event : DomainEvent) :
    Prop where
  answers : s.Opens request payload → event.answers = some request
  opens : ∀ other, event.answers = some other → other = request ∧ s.MayOpen request payload
  names : ∀ (query : OwnerQuery) owner, query.request = request → query.Names owner event →
    ∃ name, s.target request payload = some name ∧ owner = .str name

/-- What is published for a message: an event that answers no request, unless the message is
dispatched to a handler. -/
def Answers (message : IMessage) (event : DomainEvent) : Prop :=
  match message.accepted with
  | none => event.answers = none
  | some (request, payload) => s.Prescribes request payload event

/-- The state after a message. -/
def afterMessage [DecidableEq H] (message : IMessage) : LookupState H :=
  match message.accepted with
  | none => s
  | some (request, payload) => s.afterRequest request payload

/-- A request about parties of the kind, by which no participant asks for a party of another
one. -/
structure Orderly (Kind : Party → Prop) (request : RequestEvt) (payload : Payload) : Prop where
  kind : request.AsksOracle payload → ∃ party, payload.party? = some party ∧ Kind party
  orderly : s.passes (request.checked payload) = true →
    ∀ party call h, payload.party? = some party → request.callOn payload party = some call →
      s.home party = some h → (s.owners h).Orderly call

end LookupState

namespace LookupState

variable {H : Type} {s : LookupState H} {request : RequestEvt} {payload : Payload}
  {event : DomainEvent}

theorem passes_orNull (participantId : JsString) :
    s.passes participantId.orNull = s.passes participantId := by
  cases participantId <;> rfl

theorem passes_iff {participantId : JsString} : s.passes participantId = true ↔
    ∃ name, participantId.nonEmpty? = some name ∧ s.passes (.str name) = true := by
  constructor
  · intro h
    cases participantId with
    | undefined => cases h
    | null => cases h
    | str name =>
      refine ⟨name, JsString.nonEmpty?_eq_some_iff.mpr ⟨rfl, ?_⟩, h⟩
      rintro rfl
      simp only [passes] at h
      split at h
      · simp at h
      · cases h
  · rintro ⟨name, hname, hpass⟩
    rw [(JsString.nonEmpty?_eq_some_iff.mp hname).1]
    exact hpass

theorem mayOpen_of_opens (h : s.Opens request payload) : s.MayOpen request payload := by
  cases request with
  | participantDisassociateRequestReceivedEvt =>
    obtain ⟨hpass, party, hparty, howned, -⟩ := h
    refine ⟨hpass, party, hparty, fun hhome => howned ?_⟩
    rw [owner, hhome, Option.bind_none]
  | partyQueryReceivedEvt => exact h
  | partyInfoAvailableEvt => exact h
  | participantQueryReceivedEvt => exact h
  | participantAssociationRequestReceivedEvt => exact h
  | partyRejectedEvt => exact h
  | participantRejectedEvt => exact h

/-- An error event is prescribed for a request that need not succeed. -/
theorem prescribes_of_refused (hanswers : event.answers = none)
    (hclosed : ¬ s.Opens request payload) : s.Prescribes request payload event := by
  refine ⟨fun hopens => absurd hopens hclosed, fun other hother => ?_, ?_⟩
  · rw [hanswers] at hother
    cases hother
  · rintro query owner - hnames
    have hnamed := hnames.answers
    rw [hanswers] at hnamed
    cases hnamed

/-- The success event of a change is prescribed where the request may succeed. -/
theorem prescribes_of_changed (hanswers : event.answers = some request)
    (hmay : s.MayOpen request payload) (hchange : ∀ query : OwnerQuery, query.request ≠ request) :
    s.Prescribes request payload event := by
  refine ⟨fun _ => hanswers, fun other hother => ?_, fun query owner hquery => ?_⟩
  · obtain rfl := Option.some.inj (hanswers.symm.trans hother)
    exact ⟨rfl, hmay⟩
  · exact absurd hquery (hchange query)

theorem opens_query_iff {query : OwnerQuery} : s.Opens query.request payload ↔
    s.passes payload.requesterFspId = true ∧
      ∃ name, s.target query.request payload = some name ∧ s.passes (.str name) = true := by
  cases query <;> exact Iff.rfl

/-- The success event of a query is prescribed where the participant that it leads to
passes. -/
theorem prescribes_of_named {query : OwnerQuery} {name : String}
    (hnames : query.Names (.str name) event) (hopens : s.Opens query.request payload)
    (htarget : s.target query.request payload = some name) :
    s.Prescribes query.request payload event := by
  refine ⟨fun _ => hnames.answers, fun other hother => ?_, fun query' owner hquery howner => ?_⟩
  · obtain rfl := Option.some.inj (hnames.answers.symm.trans hother)
    exact ⟨rfl, mayOpen_of_opens hopens⟩
  · obtain rfl : query' = query := by cases query <;> cases query' <;> cases hquery <;> rfl
    exact ⟨name, htarget, howner.unique hnames⟩

theorem not_opens_of_fails (h : s.passes (request.checked payload) = false) :
    ¬ s.Opens request payload := fun hopens =>
  absurd (h.symm.trans hopens.1) Bool.false_ne_true

section Change

variable {change : AssociationChange} {fspId : String} {party : Party} {home : H}
  {outcome : Except JsError JsString}

/-- A change fails only where it need not succeed. -/
theorem not_opens_of_refused
    (hparty : payload.party? = some party) (howner : payload.ownerFspId.nonEmpty? = some fspId)
    (hhome : s.home party = some home)
    (hagrees : (s.owners home).Agrees (change.partyCall fspId party) outcome)
    (hrefused : outcome ≠ .ok .null) : ¬ s.Opens change.request payload := by
  cases change with
  | associate =>
    rintro ⟨-, party', home', hparty', hhome', hfree⟩
    obtain rfl := Option.some.inj (hparty.symm.trans hparty')
    obtain rfl := Option.some.inj (hhome.symm.trans hhome')
    exact hrefused (hagrees.mpr hfree)
  | disassociate =>
    rintro ⟨-, party', hparty', -, howned⟩
    obtain rfl := Option.some.inj (hparty.symm.trans hparty')
    rw [owner, hhome, Option.bind_some, howner] at howned
    exact hrefused (hagrees howned)

/-- A change succeeds only where it may. -/
theorem mayOpen_of_done
    (hpass : s.passes payload.ownerFspId = true) (hparty : payload.party? = some party)
    (hhome : s.home party = some home)
    (hagrees : (s.owners home).Agrees (change.partyCall fspId party) outcome)
    (hdone : outcome = .ok .null) : s.MayOpen change.request payload := by
  cases change with
  | associate => exact ⟨hpass, party, home, hparty, hhome, hagrees.mp hdone⟩
  | disassociate =>
    exact ⟨hpass, party, hparty, by rw [hhome]; exact Option.some_ne_none home⟩

theorem not_opens_of_homeless (hparty : payload.party? = some party)
    (hhome : s.home party = none) : ¬ s.Opens change.request payload := by
  cases change with
  | associate =>
    rintro ⟨-, party', home, hparty', hhome', -⟩
    obtain rfl := Option.some.inj (hparty.symm.trans hparty')
    cases hhome.symm.trans hhome'
  | disassociate =>
    rintro ⟨-, party', hparty', howned, -⟩
    obtain rfl := Option.some.inj (hparty.symm.trans hparty')
    rw [owner, hhome, Option.bind_none] at howned
    exact howned rfl

end Change

variable [DecidableEq H]

theorem afterCall_of_homeless {call : PartyCall} (h : s.home call.party = none) :
    s.afterCall call = s := by
  rw [afterCall, h]

theorem afterRequest_of_no_call (h : ∀ party, request.callOn payload party = none) :
    s.afterRequest request payload = s := by
  have hnone : (payload.party?.bind (request.callOn payload)) = none :=
    Option.bind_eq_none_iff.mpr fun party _ => h party
  rw [afterRequest, hnone, Option.elim_none, ite_self]

theorem afterRequest_of_fails (h : s.passes (request.checked payload) = false) :
    s.afterRequest request payload = s := by
  rw [afterRequest, h]
  exact if_neg Bool.false_ne_true

theorem afterRequest_change {change : AssociationChange} {fspId : String} {party : Party}
    (hparty : payload.party? = some party)
    (howner : payload.ownerFspId.nonEmpty? = some fspId)
    (hpass : s.passes payload.ownerFspId = true) :
    s.afterRequest change.request payload = s.afterCall (change.partyCall fspId party) := by
  cases change with
  | associate =>
    simp only [afterRequest, AssociationChange.request, RequestEvt.checked, hpass,
      if_true, hparty, Option.bind_some, RequestEvt.callOn, howner, Option.map_some,
      Option.elim_some, AssociationChange.partyCall]
  | disassociate =>
    simp only [afterRequest, AssociationChange.request, RequestEvt.checked, hpass,
      if_true, hparty, Option.bind_some, RequestEvt.callOn, howner, Option.map_some,
      Option.elim_some, AssociationChange.partyCall]

end LookupState

/-! ## The aggregate in front of the stores -/

namespace AccountLookupAggregate

variable {W H : Type} [DecidableEq H]

/-- The collaborators back the state: the participant service tells the participants'
standing, a party is routed to an adapter exactly when it has a store, and that adapter keeps
the directory of the store. -/
structure Backs (agg : AccountLookupAggregate W) (Kind : Party → Prop)
    (Shows : W → LookupState H → Prop) : Prop where
  participant : ∀ w s id, Shows w s →
    ∃ w', agg.participantService.getParticipantInfo id w = (.ok (s.participants id), w') ∧
      Shows w' s
  unrouted : ∀ w s party, Shows w s → Kind party → s.home party = none →
    ∃ error w', agg.getOracleAdapter (.str party.partyType) (.ofOption party.currency) w =
      (.error error, w') ∧ Shows w' s
  routed : ∀ w s party h, Shows w s → Kind party → s.home party = some h →
    ∃ adapter w', agg.getOracleAdapter (.str party.partyType) (.ofOption party.currency) w =
        (.ok adapter, w') ∧ Shows w' s ∧
      ∀ call : PartyCall, call.party = party → call.NamesParticipant →
        (s.owners h).Orderly call →
        (s.owners h).Agrees call (call.on adapter w').1 ∧
          Shows (call.on adapter w').2 (s.afterCall call)

variable {agg : AccountLookupAggregate W} {Kind : Party → Prop}
  {Shows : W → LookupState H → Prop} {w : W} {s : LookupState H} {payload : Payload}
  {party : Party}

/-- A participant passes its check exactly when the state says so. -/
theorem Backs.validate (h : agg.Backs Kind Shows) (hw : Shows w s)
    (errorEvent : ParticipantFault → DomainEvent) (participantId : JsString) :
    ∃ w', Shows w' s ∧
      ((s.passes participantId = true ∧
          agg.validateParticipantInfoOrGetErrorEvent errorEvent participantId w = (none, w')) ∨
        s.passes participantId = false ∧ ∃ fault,
          agg.validateParticipantInfoOrGetErrorEvent errorEvent participantId w =
            (some (errorEvent fault), w')) := by
  cases participantId with
  | undefined => exact ⟨w, hw, Or.inr ⟨rfl, _, rfl⟩⟩
  | null => exact ⟨w, hw, Or.inr ⟨rfl, _, rfl⟩⟩
  | str id =>
    obtain ⟨w', hcall, hw'⟩ := h.participant w s id hw
    by_cases hid : id = ""
    · subst hid
      refine ⟨w, hw, Or.inr ⟨?_, _, rfl⟩⟩
      simp only [LookupState.passes]
      cases s.participants "" <;> rfl
    · refine ⟨w', hw', ?_⟩
      simp only [validateParticipantInfoOrGetErrorEvent, if_neg hid, hcall, LookupState.passes]
      cases s.participants id with
      | none => exact Or.inr ⟨rfl, _, rfl⟩
      | some participant =>
        by_cases hmatch : participant.id = id
        · cases happroved : participant.approved with
          | false => exact Or.inr ⟨by simp [happroved], .notApproved, by simp [hmatch, happroved]⟩
          | true =>
            cases hactive : participant.isActive with
            | false =>
              exact Or.inr ⟨by simp [hactive], .notActive, by simp [hmatch, happroved, hactive]⟩
            | true =>
              exact Or.inl ⟨by simp [hid, hmatch, happroved, hactive],
                by simp [hmatch, happroved, hactive]⟩
        · exact Or.inr ⟨by simp [hmatch], .idMismatch, by simp [hmatch]⟩

/-- The search of the oracles finds the owner that the state knows. -/
theorem Backs.search (h : agg.Backs Kind Shows) (hw : Shows w s) (hparty : Kind party) :
    ∃ w', Shows w' s ∧
      ((∃ name, s.owner party = some name ∧ agg.ownerOf party w = (.ok (.str name), w')) ∨
        s.owner party = none ∧ ∃ error, agg.ownerOf party w = (.error error, w')) := by
  rw [ownerOf, getParticipantIdFromOracle, LookupState.owner]
  cases hhome : s.home party with
  | none =>
    obtain ⟨error, w', hroute, hw'⟩ := h.unrouted w s party hw hparty hhome
    rw [hroute]
    exact ⟨w', hw', Or.inr ⟨rfl, error, rfl⟩⟩
  | some home =>
    obtain ⟨adapter, w', hroute, -, hcalls⟩ := h.routed w s party home hw hparty hhome
    obtain ⟨hagrees, hnext⟩ := hcalls (.getParticipantFspId party) rfl trivial trivial
    have hsame : s.afterCall (.getParticipantFspId party) = s := by
      simp only [LookupState.afterCall, PartyCall.party, hhome, Directory.after,
        Function.update_eq_self]
    rw [hsame] at hnext
    simp only [PartyCall.on] at hagrees hnext
    simp only [Directory.Agrees] at hagrees
    rw [hroute, Option.bind_some, ← hagrees]
    dsimp only
    rcases hlookup : adapter.getParticipantFspId (.str party.partyType) (.str party.partyId)
      (.ofOption party.partySubType) (.ofOption party.currency) w' with ⟨error | fspId, w''⟩
    · rw [hlookup] at hnext
      exact ⟨w'', hnext, Or.inr ⟨rfl, _, rfl⟩⟩
    · rw [hlookup] at hnext
      refine ⟨w'', hnext, ?_⟩
      cases htruthy : fspId.truthy with
      | false =>
        exact Or.inr ⟨JsString.nonEmpty?_eq_none_iff.mpr htruthy, _, by
          simp only [htruthy, Bool.false_eq_true, if_false]; rfl⟩
      | true =>
        obtain ⟨name, rfl, hname⟩ := JsString.truthy_iff.mp htruthy
        refine Or.inl ⟨name, JsString.nonEmpty?_eq_some_iff.mpr ⟨rfl, hname⟩, ?_⟩
        simp only [htruthy, if_true]

/-- The last check of a request that leads to another participant. -/
theorem Backs.forwarded (h : agg.Backs Kind Shows) (hw : Shows w s)
    (errorEvent : ParticipantFault → DomainEvent)
    (hanswers : ∀ fault, (errorEvent fault).answers = none) (participantId : JsString)
    (answer : DomainEvent) :
    ∃ event w',
      (match agg.validateParticipantInfoOrGetErrorEvent errorEvent participantId w with
        | (some error, w) => (.ok error, w)
        | (none, w) => (.ok answer, w) : Except JsError DomainEvent × W) = (.ok event, w') ∧
      Shows w' s ∧
      (s.passes participantId = true ∧ event = answer ∨
        s.passes participantId = false ∧ event.answers = none) := by
  obtain ⟨w', hw', ⟨hpass, hvalid⟩ | ⟨hfail, fault, hvalid⟩⟩ :=
    h.validate hw errorEvent participantId
  · exact ⟨answer, w', by rw [hvalid], hw', Or.inl ⟨hpass, rfl⟩⟩
  · exact ⟨errorEvent fault, w', by rw [hvalid], hw', Or.inr ⟨hfail, hanswers fault⟩⟩

variable {request : RequestEvt}

/-- Both participants of a relayed answer pass. -/
theorem Backs.relayed (h : agg.Backs Kind Shows) (hw : Shows w s) (payload : Payload)
    (answer : DomainEvent) :
    ∃ event w', agg.relayBetweenParticipants payload answer w = (.ok event, w') ∧ Shows w' s ∧
      (s.passes payload.requesterFspId = true ∧ s.passes payload.destinationFspId = true ∧
          event = answer ∨
        (s.passes payload.requesterFspId = true → s.passes payload.destinationFspId = false) ∧
          event.answers = none) := by
  unfold relayBetweenParticipants validateRequesterParticipantInfoOrGetErrorEvent
    validateDestinationParticipantInfoOrGetErrorEvent
  obtain ⟨w₁, hw₁, ⟨hpass, hvalid⟩ | ⟨hfail, fault, hvalid⟩⟩ := h.validate hw
    (requesterErrorEvent payload.partyId.orNull payload.partyType.orNull
      payload.partySubType.orNull payload.requesterFspId.orNull) payload.requesterFspId.orNull
  · rw [LookupState.passes_orNull] at hpass
    obtain ⟨event, w₂, hevent, hw₂, hcases⟩ := h.forwarded hw₁
      (destinationErrorEvent payload.partyId.orNull payload.partyType.orNull
        payload.partySubType.orNull payload.destinationFspId.orNull)
      (answers_destinationErrorEvent _ _ _ _) payload.destinationFspId.orNull answer
    rw [LookupState.passes_orNull] at hcases
    refine ⟨event, w₂, by simp only [hvalid]; exact hevent, hw₂, ?_⟩
    rcases hcases with ⟨hpass', rfl⟩ | ⟨hfail', hanswers⟩
    · exact Or.inl ⟨hpass, hpass', rfl⟩
    · exact Or.inr ⟨fun _ => hfail', hanswers⟩
  · rw [LookupState.passes_orNull] at hfail
    refine ⟨_, w₁, by simp only [hvalid]; rfl, hw₁, Or.inr ⟨fun hpass => ?_, ?_⟩⟩
    · exact absurd (hfail.symm.trans hpass) Bool.false_ne_true
    · exact answers_requesterErrorEvent ..

variable (agg Shows w s payload request) in
/-- The handler publishes what the state prescribes, and leaves the state that follows. -/
def DoesAsPrescribed : Prop :=
  ∃ event w', agg.handlerOf request payload w = (.ok event, w') ∧
    s.Prescribes request payload event ∧ Shows w' (s.afterRequest request payload)

theorem Backs.doesAsPrescribed_relay (h : agg.Backs Kind Shows) (hw : Shows w s)
    {answer : DomainEvent} (hanswer : answer.answers = some request)
    (hhandler : agg.handlerOf request payload w = agg.relayBetweenParticipants payload answer w)
    (hopens : s.Opens request payload ↔ s.passes payload.requesterFspId = true ∧
      s.passes payload.destinationFspId = true)
    (hsame : s.afterRequest request payload = s)
    (hquery : ∀ query : OwnerQuery, query.request ≠ request) :
    agg.DoesAsPrescribed Shows w s payload request := by
  obtain ⟨event, w', hevent, hw', hcases⟩ := h.relayed hw payload answer
  refine ⟨event, w', hhandler.trans hevent, ?_, by rwa [hsame]⟩
  rcases hcases with ⟨hpass, hpass', rfl⟩ | ⟨hfail, hnone⟩
  · exact LookupState.prescribes_of_changed hanswer
      (LookupState.mayOpen_of_opens (hopens.mpr ⟨hpass, hpass'⟩)) hquery
  · refine LookupState.prescribes_of_refused hnone fun hboth => ?_
    obtain ⟨hpass, hpass'⟩ := hopens.mp hboth
    exact absurd ((hfail hpass).symm.trans hpass') Bool.false_ne_true

/-- The search of a handler is the search for the party that the payload describes. -/
theorem Backs.searched (h : agg.Backs Kind Shows) (hw : Shows w s)
    (hparty : payload.party? = some party) (hkind : Kind party) :
    ∃ w', Shows w' s ∧
      ((∃ name, payload.party?.bind s.owner = some name ∧
          agg.getParticipantIdFromOracle payload.partyId payload.partyType payload.partySubType
            payload.currency w = (.ok (.str name), w')) ∨
        payload.party?.bind s.owner = none ∧ ∃ error,
          agg.getParticipantIdFromOracle payload.partyId payload.partyType payload.partySubType
            payload.currency w = (.error error, w')) := by
  have hdescribes := Payload.describes_of_party? hparty
  rw [hdescribes.partyId, hdescribes.partyType, hdescribes.partySubType, hdescribes.currency,
    hparty, Option.bind_some]
  exact h.search hw hkind

/-- A query after its requester has passed and the participant that it leads to is found. -/
theorem Backs.led (h : agg.Backs Kind Shows) (hw : Shows w s) {query : OwnerQuery}
    {name : String} {answer : DomainEvent} {errorEvent : ParticipantFault → DomainEvent}
    (hnames : query.Names (.str name) answer)
    (hanswers : ∀ fault, (errorEvent fault).answers = none)
    (hpass : s.passes payload.requesterFspId = true)
    (htarget : s.target query.request payload = some name) :
    ∃ event w',
      (match agg.validateParticipantInfoOrGetErrorEvent errorEvent (.str name) w with
        | (some error, w) => (.ok error, w)
        | (none, w) => (.ok answer, w) : Except JsError DomainEvent × W) = (.ok event, w') ∧
      s.Prescribes query.request payload event ∧ Shows w' s := by
  obtain ⟨event, w', hevent, hw', ⟨hpass', rfl⟩ | ⟨hfail, hnone⟩⟩ :=
    h.forwarded hw errorEvent hanswers (.str name) answer
  · exact ⟨event, w', hevent, LookupState.prescribes_of_named hnames
      (LookupState.opens_query_iff.mpr ⟨hpass, name, htarget, hpass'⟩) htarget, hw'⟩
  · refine ⟨event, w', hevent, LookupState.prescribes_of_refused hnone fun hopens => ?_, hw'⟩
    obtain ⟨-, name', htarget', hpass'⟩ := LookupState.opens_query_iff.mp hopens
    obtain rfl := Option.some.inj (htarget.symm.trans htarget')
    exact absurd (hfail.symm.trans hpass') Bool.false_ne_true

theorem Backs.doesAsPrescribed_participantQuery (h : agg.Backs Kind Shows) (hw : Shows w s)
    (hparty : payload.party? = some party) (hkind : Kind party) :
    agg.DoesAsPrescribed Shows w s payload .participantQueryReceivedEvt := by
  rw [DoesAsPrescribed, LookupState.afterRequest_of_no_call fun _ => rfl]
  simp only [handlerOf, handleParticipantQueryReceivedEvt,
    validateRequesterParticipantInfoOrGetErrorEvent,
    validateDestinationParticipantInfoOrGetErrorEvent]
  obtain ⟨w₁, hw₁, ⟨hpass, hvalid⟩ | ⟨hfail, fault, hvalid⟩⟩ := h.validate hw
    (requesterErrorEvent payload.partyId payload.partyType payload.partySubType
      payload.requesterFspId) payload.requesterFspId
  · rw [hvalid]
    dsimp only
    obtain ⟨w₂, hw₂, ⟨name, hname, hfound⟩ | ⟨hnone, error, hfound⟩⟩ :=
      h.searched hw₁ hparty hkind
    · rw [hfound]
      have hnames : OwnerQuery.participantQuery.Names (.str name) (.participantQueryResponseEvt
          ⟨payload.requesterFspId, .str name, payload.partyType, payload.partyId,
            payload.partySubType, payload.currency⟩) := ⟨_, rfl, rfl⟩
      exact h.led hw₂ hnames (answers_destinationErrorEvent _ _ _ _) hpass hname
    · rw [hfound]
      refine ⟨_, w₂, rfl, LookupState.prescribes_of_refused rfl ?_, hw₂⟩
      rintro ⟨-, name', hname', -⟩
      cases hnone.symm.trans hname'
  · rw [hvalid]
    exact ⟨_, w₁, rfl, LookupState.prescribes_of_refused (answers_requesterErrorEvent ..)
      (LookupState.not_opens_of_fails hfail), hw₁⟩

/-- The destination of a party query is the participant that it leads to. -/
theorem Backs.destined (h : agg.Backs Kind Shows) (hw : Shows w s)
    (hasks : payload.destinationFspId.truthy = false →
      ∃ party, payload.party? = some party ∧ Kind party) :
    ∃ w', Shows w' s ∧
      ((∃ name, s.target .partyQueryReceivedEvt payload = some name ∧
          agg.partyQueryDestination payload w = (.ok (.str name), w')) ∨
        s.target .partyQueryReceivedEvt payload = none ∧ ∃ event,
          agg.partyQueryDestination payload w = (.error event, w') ∧ event.answers = none) := by
  simp only [partyQueryDestination, JsString.truthy_orNull, LookupState.target]
  cases htruthy : payload.destinationFspId.truthy with
  | true =>
    obtain ⟨name, hname, hne⟩ := JsString.truthy_iff.mp htruthy
    have hnamed := JsString.nonEmpty?_eq_some_iff.mpr ⟨hname, hne⟩
    rw [hnamed, hname]
    exact ⟨w, hw, Or.inl ⟨name, rfl, rfl⟩⟩
  | false =>
    obtain ⟨party, hparty, hkind⟩ := hasks htruthy
    have hdescribes := Payload.describes_of_party? hparty
    rw [JsString.nonEmpty?_eq_none_iff.mpr htruthy, Option.none_or]
    simp only [Bool.false_eq_true, if_false]
    obtain ⟨w', hw', hcases⟩ := h.searched hw hparty hkind
    refine ⟨w', hw', ?_⟩
    rw [hdescribes.partyId, hdescribes.partyType, hdescribes.partySubType, hdescribes.currency]
      at hcases ⊢
    simp only [JsString.orNull_str, JsString.orNull_ofOption]
    rcases hcases with ⟨name, hname, hfound⟩ | ⟨hnone, error, hfound⟩
    · exact Or.inl ⟨name, hname, by rw [hfound]⟩
    · exact Or.inr ⟨hnone, _, by rw [hfound], rfl⟩

theorem Backs.doesAsPrescribed_partyQuery (h : agg.Backs Kind Shows) (hw : Shows w s)
    (hasks : payload.destinationFspId.truthy = false →
      ∃ party, payload.party? = some party ∧ Kind party) :
    agg.DoesAsPrescribed Shows w s payload .partyQueryReceivedEvt := by
  rw [DoesAsPrescribed, LookupState.afterRequest_of_no_call fun _ => rfl]
  simp only [handlerOf, handlePartyQueryReceivedEvt,
    validateRequesterParticipantInfoOrGetErrorEvent,
    validateDestinationParticipantInfoOrGetErrorEvent]
  obtain ⟨w₁, hw₁, ⟨hpass, hvalid⟩ | ⟨hfail, fault, hvalid⟩⟩ := h.validate hw
    (requesterErrorEvent payload.partyId.orNull payload.partyType.orNull
      payload.partySubType.orNull payload.requesterFspId.orNull) payload.requesterFspId.orNull
  · rw [hvalid]
    rw [LookupState.passes_orNull] at hpass
    dsimp only
    obtain ⟨w₂, hw₂, ⟨name, hname, hfound⟩ | ⟨hnone, event, hfound, hanswers⟩⟩ :=
      h.destined hw₁ hasks
    · rw [hfound]
      have hnames : OwnerQuery.partyQuery.Names (.str name) (.partyInfoRequestedEvt
          ⟨payload.requesterFspId, .str name, payload.partyType, payload.partyId,
            payload.partySubType, payload.currency⟩) := ⟨_, rfl, rfl⟩
      exact h.led hw₂ hnames (answers_destinationErrorEvent _ _ _ _) hpass hname
    · rw [hfound]
      refine ⟨event, w₂, rfl, LookupState.prescribes_of_refused hanswers ?_, hw₂⟩
      rintro ⟨-, name', hname', -⟩
      cases hnone.symm.trans hname'
  · rw [hvalid]
    rw [LookupState.passes_orNull] at hfail
    exact ⟨_, w₁, rfl, LookupState.prescribes_of_refused (answers_requesterErrorEvent ..)
      (LookupState.not_opens_of_fails hfail), hw₁⟩

theorem Backs.passes_of_participantPasses (h : agg.Backs Kind Shows) (hw : Shows w s)
    {participantId : JsString} {w₁ : W} (hpass : agg.ParticipantPasses participantId w w₁) :
    s.passes participantId = true ∧ Shows w₁ s := by
  have hvalid := validateParticipantInfoOrGetErrorEvent_of_passes
    (requesterErrorEvent .null .null .null .null) hpass
  obtain ⟨w', hw', ⟨hpasses, hvalid'⟩ | ⟨-, fault, hvalid'⟩⟩ := h.validate hw
    (requesterErrorEvent .null .null .null .null) participantId
  · obtain rfl : w₁ = w' := (Prod.mk.inj (hvalid.symm.trans hvalid')).2
    exact ⟨hpasses, hw'⟩
  · cases (Prod.mk.inj (hvalid.symm.trans hvalid')).1

theorem Backs.fails_of_not_participantPasses (h : agg.Backs Kind Shows) (hw : Shows w s)
    {participantId : JsString} (hfail : ∀ w₁, ¬ agg.ParticipantPasses participantId w w₁) :
    s.passes participantId = false := by
  obtain ⟨w', -, ⟨-, hvalid⟩ | ⟨hfails, -⟩⟩ := h.validate hw
    (requesterErrorEvent .null .null .null .null) participantId
  · rcases agg.validateParticipantInfoOrGetErrorEvent_cases
      (requesterErrorEvent .null .null .null .null) participantId w with
      ⟨w₁, -, hpass⟩ | ⟨fault, w₁, hvalid', -⟩
    · exact absurd hpass (hfail w₁)
    · cases (Prod.mk.inj (hvalid.symm.trans hvalid')).1
  · exact hfails

theorem Backs.routedTo (h : agg.Backs Kind Shows) (hw : Shows w s) (hkind : Kind party)
    {adapter : IOracleProviderAdapter W} {w₁ : W}
    (hroute : agg.RoutesTo (.str party.partyType) (.ofOption party.currency) adapter w w₁) :
    ∃ home, s.home party = some home ∧
      ∀ call : PartyCall, call.party = party → call.NamesParticipant →
        (s.owners home).Orderly call →
        (s.owners home).Agrees call (call.on adapter w₁).1 ∧
          Shows (call.on adapter w₁).2 (s.afterCall call) := by
  have hadapter : agg.getOracleAdapter (.str party.partyType) (.ofOption party.currency) w =
      (.ok adapter, w₁) := by
    rcases agg.getOracleAdapter_cases (.str party.partyType) (.ofOption party.currency) w with
      ⟨adapter', w', hget, hroute'⟩ | ⟨error, w', -, hnone⟩
    · obtain ⟨rfl, rfl⟩ := hroute.unique hroute'
      exact hget
    · exact absurd hroute (hnone adapter w₁)
  cases hhome : s.home party with
  | none =>
    obtain ⟨error, w', hget, -⟩ := h.unrouted w s party hw hkind hhome
    cases (Prod.mk.inj (hadapter.symm.trans hget)).1
  | some home =>
    obtain ⟨adapter', w', hget, -, hcalls⟩ := h.routed w s party home hw hkind hhome
    obtain ⟨hsame, rfl⟩ := Prod.mk.inj (hadapter.symm.trans hget)
    obtain rfl := Except.ok.inj hsame
    exact ⟨home, rfl, hcalls⟩

theorem Backs.unroutable (h : agg.Backs Kind Shows) (hw : Shows w s) (hkind : Kind party)
    (hnone : ∀ adapter w₁,
      ¬ agg.RoutesTo (.str party.partyType) (.ofOption party.currency) adapter w w₁) :
    s.home party = none ∧
      Shows (agg.getOracleAdapter (.str party.partyType) (.ofOption party.currency) w).2 s := by
  cases hhome : s.home party with
  | none =>
    obtain ⟨error, w', hget, hw'⟩ := h.unrouted w s party hw hkind hhome
    exact ⟨rfl, by rwa [hget]⟩
  | some home =>
    obtain ⟨adapter, w', hget, -⟩ := h.routed w s party home hw hkind hhome
    rcases agg.getOracleAdapter_cases (.str party.partyType) (.ofOption party.currency) w with
      ⟨adapter', w'', -, hroute⟩ | ⟨error, w'', hget', -⟩
    · exact absurd hroute (hnone adapter' w'')
    · cases (Prod.mk.inj (hget.symm.trans hget')).1

theorem Backs.shows_validate (h : agg.Backs Kind Shows) (hw : Shows w s)
    (errorEvent : ParticipantFault → DomainEvent) (participantId : JsString) :
    Shows (agg.validateParticipantInfoOrGetErrorEvent errorEvent participantId w).2 s := by
  obtain ⟨w', hw', ⟨-, hvalid⟩ | ⟨-, fault, hvalid⟩⟩ := h.validate hw errorEvent participantId
  · rwa [hvalid]
  · rwa [hvalid]

/-- A change does what the state prescribes, if no participant asks for a party of another
one. -/
theorem Backs.doesAsPrescribed_change (h : agg.Backs Kind Shows) (hw : Shows w s)
    (change : AssociationChange) (hparty : payload.party? = some party) (hkind : Kind party)
    (horderly : ∀ fspId home, payload.ownerFspId.nonEmpty? = some fspId →
      s.passes payload.ownerFspId = true → s.home party = some home →
      (s.owners home).Orderly (change.partyCall fspId party)) :
    agg.DoesAsPrescribed Shows w s payload change.request := by
  have hdescribes := Payload.describes_of_party? hparty
  obtain ⟨hreadType, hreadCurrency⟩ := change.read_eq hdescribes
  obtain ⟨event, w', hhandler, hhandled⟩ := agg.handlerOf_change change payload w
  refine ⟨event, w', hhandler, ?_⟩
  have hcalled : ∀ {adapter w₁ w₂}, agg.ParticipantPasses payload.ownerFspId w w₁ →
      agg.RoutesTo (change.read payload.partyType) (change.read payload.currency) adapter w₁ w₂ →
      ∃ fspId home, s.passes payload.ownerFspId = true ∧ s.home party = some home ∧
        payload.ownerFspId.nonEmpty? = some fspId ∧
        (s.owners home).Agrees (change.partyCall fspId party)
          ((change.call adapter payload w₂).1.map fun _ => .null) ∧
        Shows (change.call adapter payload w₂).2 (s.afterRequest change.request payload) := by
    intro adapter w₁ w₂ hpass hroute
    obtain ⟨hpasses, hw₁⟩ := h.passes_of_participantPasses hw hpass
    rw [hreadType, hreadCurrency] at hroute
    obtain ⟨home, hhome, hcalls⟩ := h.routedTo hw₁ hkind hroute
    obtain ⟨fspId, howner, -⟩ := LookupState.passes_iff.mp hpasses
    obtain ⟨hstr, hne⟩ := JsString.nonEmpty?_eq_some_iff.mp howner
    have hnames : (change.partyCall fspId party).NamesParticipant := by cases change <;> exact hne
    have hof : (change.partyCall fspId party).party = party := by cases change <;> rfl
    obtain ⟨hagrees, hnext⟩ := hcalls _ hof hnames (horderly fspId home howner hpasses hhome)
    rw [change.on_partyCall adapter hdescribes hstr] at hagrees hnext
    rw [LookupState.afterRequest_change hparty howner hpasses]
    exact ⟨fspId, home, hpasses, hhome, howner, hagrees, hnext⟩
  cases hhandled with
  | invalidOwner errorEvent hanswers hfail hworld =>
    have hfails := h.fails_of_not_participantPasses hw hfail
    rw [← change.checked_request payload] at hfails
    rw [LookupState.afterRequest_of_fails hfails, ← hworld]
    exact ⟨LookupState.prescribes_of_refused hanswers (LookupState.not_opens_of_fails hfails),
      h.shows_validate hw errorEvent _⟩
  | unrouted w₁ hanswers hpass hnone hworld =>
    obtain ⟨hpasses, hw₁⟩ := h.passes_of_participantPasses hw hpass
    rw [hreadType, hreadCurrency] at hnone hworld
    obtain ⟨hhome, hw'⟩ := h.unroutable hw₁ hkind hnone
    rw [hworld] at hw'
    obtain ⟨fspId, howner, -⟩ := LookupState.passes_iff.mp hpasses
    have hhomeless : s.home (change.partyCall fspId party).party = none := by
      cases change <;> exact hhome
    rw [LookupState.afterRequest_change hparty howner hpasses,
      LookupState.afterCall_of_homeless hhomeless]
    exact ⟨LookupState.prescribes_of_refused hanswers
      (LookupState.not_opens_of_homeless hparty hhome), hw'⟩
  | refused adapter w₁ w₂ error hanswers hpass hroute hcall =>
    obtain ⟨fspId, home, -, hhome, howner, hagrees, hnext⟩ := hcalled hpass hroute
    rw [hcall] at hagrees hnext
    refine ⟨LookupState.prescribes_of_refused hanswers ?_, hnext⟩
    exact LookupState.not_opens_of_refused hparty howner hhome hagrees fun hok => (by cases hok)
  | done adapter w₁ w₂ hanswers hpass hroute hcall =>
    obtain ⟨fspId, home, hpasses, hhome, -, hagrees, hnext⟩ := hcalled hpass hroute
    rw [hcall] at hagrees hnext
    refine ⟨LookupState.prescribes_of_changed hanswers ?_ fun query => ?_, hnext⟩
    · exact LookupState.mayOpen_of_done hpasses hparty hhome hagrees rfl
    · cases query <;> cases change <;> exact fun heq => (by cases heq)

theorem Backs.doesAsPrescribed (h : agg.Backs Kind Shows) (hw : Shows w s)
    (horderly : s.Orderly Kind request payload) :
    agg.DoesAsPrescribed Shows w s payload request := by
  have hchange : ∀ change : AssociationChange, change.request = request →
      change.request.AsksOracle payload → agg.DoesAsPrescribed Shows w s payload request := by
    rintro change rfl hasks
    obtain ⟨party, hparty, hkind⟩ := horderly.kind hasks
    refine h.doesAsPrescribed_change hw change hparty hkind fun fspId home howner hpass hhome => ?_
    refine horderly.orderly ?_ party _ home hparty ?_ hhome
    · rw [change.checked_request]
      exact hpass
    · rw [change.callOn_request, howner, Option.map_some]
  cases request with
  | partyQueryReceivedEvt => exact h.doesAsPrescribed_partyQuery hw horderly.kind
  | participantQueryReceivedEvt =>
    obtain ⟨party, hparty, hkind⟩ := horderly.kind trivial
    exact h.doesAsPrescribed_participantQuery hw hparty hkind
  | participantAssociationRequestReceivedEvt => exact hchange .associate rfl trivial
  | participantDisassociateRequestReceivedEvt => exact hchange .disassociate rfl trivial
  | partyInfoAvailableEvt =>
    exact h.doesAsPrescribed_relay hw rfl rfl (and_congr_right fun _ => LookupState.passes_iff.symm)
      (LookupState.afterRequest_of_no_call fun _ => rfl) fun query => by cases query <;> decide
  | partyRejectedEvt =>
    exact h.doesAsPrescribed_relay hw rfl rfl (and_congr_right fun _ => LookupState.passes_iff.symm)
      (LookupState.afterRequest_of_no_call fun _ => rfl) fun query => by cases query <;> decide
  | participantRejectedEvt =>
    exact h.doesAsPrescribed_relay hw rfl rfl (and_congr_right fun _ => LookupState.passes_iff.symm)
      (LookupState.afterRequest_of_no_call fun _ => rfl) fun query => by cases query <;> decide

/-- **One message.** -/
theorem Backs.handleEvent (h : agg.Backs Kind Shows) (hw : Shows w s) (message : IMessage)
    (horderly : ∀ request payload, message.accepted = some (request, payload) →
      s.Orderly Kind request payload) :
    s.Answers message (agg.handleEvent message w).1.event ∧
      Shows (agg.handleEvent message w).2 (s.afterMessage message) := by
  rw [LookupState.Answers, LookupState.afterMessage]
  rcases validateMessageOrGetErrorEvent_cases message with
    ⟨payload, hpayload, htype, hvalid⟩ | ⟨event, hinvalid, hanswers, hbad⟩
  · cases hname : RequestEvt.ofName message.msgName with
    | none =>
      have hnone : message.accepted = none := by
        simp only [IMessage.accepted, htype, if_true, hname]
      simp only [hnone, AccountLookupAggregate.handleEvent, hvalid, hname]
      exact ⟨rfl, hw⟩
    | some request =>
      have hsome : message.accepted = some (request, payload) := by
        simp only [IMessage.accepted, htype, if_true, hname, hpayload]
      obtain ⟨event, w', hhandler, hevent, hw'⟩ :=
        h.doesAsPrescribed hw (horderly request payload hsome)
      simp only [hsome, AccountLookupAggregate.handleEvent, hvalid, hname, hpayload,
        Option.getD_some, hhandler]
      exact ⟨hevent, hw'⟩
  · have hnone : message.accepted = none := by
      rw [IMessage.accepted]
      split
      · next htype =>
        split
        · next request payload _ hpayload => exact absurd ⟨payload, hpayload, htype⟩ hbad
        · rfl
      · rfl
    simp only [hnone, AccountLookupAggregate.handleEvent, hinvalid]
    exact ⟨hanswers, hw⟩

/-- **One lookup.** -/
theorem Backs.getAccountLookUp (h : agg.Backs Kind Shows) (hw : Shows w s)
    (hkind : Kind party) :
    (∀ answer, (agg.getAccountLookUp party w).1 = .ok answer ↔
        ∃ name, s.owner party = some name ∧ answer = .str name) ∧
      Shows (agg.getAccountLookUp party w).2 s := by
  rw [AccountLookupAggregate.getAccountLookUp]
  obtain ⟨w', hw', ⟨name, hname, hfound⟩ | ⟨hnone, error, hfound⟩⟩ := h.search hw hkind
  · rw [hfound, hname]
    refine ⟨fun answer => ⟨fun hanswer => ⟨name, rfl, (Except.ok.inj hanswer).symm⟩, ?_⟩, hw'⟩
    rintro ⟨name', hname', rfl⟩
    rw [Option.some.inj hname']
  · rw [hfound, hnone]
    dsimp only
    split
    · refine ⟨fun answer => iff_of_false (fun herror => (by cases herror)) ?_, hw'⟩
      rintro ⟨name, hname, -⟩
      cases hname
    · refine ⟨fun answer => iff_of_false (fun herror => (by cases herror)) ?_, hw'⟩
      rintro ⟨name, hname, -⟩
      cases hname

end AccountLookupAggregate

end AccountLookup

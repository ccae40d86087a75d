/-
# The three ways to look up a party

The HTTP route, the participant query and the party query all end in the same search
of the oracles, each with its own wrapping of errors and its own checks around it.
Asked about one party in one state, with a requester and an owner that pass their
checks, they name the same participant, and where the first one rejects, the other
two report that the oracle gave no participant.
-/

import AccountLookup.Domain.Gate

namespace AccountLookup

/-- The two queries by message. -/
inductive OwnerQuery
  | participantQuery
  | partyQuery

namespace OwnerQuery

/-- The request class. -/
def request : OwnerQuery → RequestEvt
  | .participantQuery => .participantQueryReceivedEvt
  | .partyQuery => .partyQueryReceivedEvt

/-- The event is the success event of the query and names the owner: a participant query
is answered with it, a party query is passed on to it. -/
def Names (owner : JsString) (event : DomainEvent) : OwnerQuery → Prop
  | .participantQuery =>
    ∃ payload, event = .participantQueryResponseEvt payload ∧ payload.ownerFspId = owner
  | .partyQuery =>
    ∃ payload, event = .partyInfoRequestedEvt payload ∧ payload.destinationFspId = owner

/-- Only a party query may name its destination itself. -/
def AsksForOwner (payload : Payload) : OwnerQuery → Prop
  | .participantQuery => True
  | .partyQuery => payload.destinationFspId.truthy = false

variable {query : OwnerQuery} {owner other : JsString} {event : DomainEvent}

/-- Naming an owner is answering the query. -/
theorem Names.answers (h : query.Names owner event) : event.answers = some query.request := by
  cases query with
  | participantQuery =>
    obtain ⟨payload, rfl, -⟩ := h
    rfl
  | partyQuery =>
    obtain ⟨payload, rfl, -⟩ := h
    rfl

theorem Names.unique (hfirst : query.Names owner event) (hsecond : query.Names other event) :
    owner = other := by
  cases query with
  | participantQuery =>
    obtain ⟨payload, rfl, rfl⟩ := hfirst
    obtain ⟨payload', heq, rfl⟩ := hsecond
    rw [DomainEvent.participantQueryResponseEvt.inj heq]
  | partyQuery =>
    obtain ⟨payload, rfl, rfl⟩ := hfirst
    obtain ⟨payload', heq, rfl⟩ := hsecond
    rw [DomainEvent.partyInfoRequestedEvt.inj heq]

end OwnerQuery

theorem JsString.orNull_ofOption (value : Option String) :
    (JsString.ofOption value).orNull = .ofOption value := by
  cases value <;> rfl

/-- The event that the oracle gave no participant. -/
def DomainEvent.IsNoParticipant (event : DomainEvent) : Prop :=
  ∃ payload, event = .accountLookUpUnableToGetParticipantFromOracleErrorEvent payload

namespace AccountLookupAggregate

variable {W : Type} (agg : AccountLookupAggregate W)

/-- The search of the oracles for a party. -/
def ownerOf (party : Party) : Call W JsString :=
  agg.getParticipantIdFromOracle (.str party.partyId) (.str party.partyType)
    (.ofOption party.partySubType) (.ofOption party.currency)

def getAccountLookUp (accountIdentifier : Party) : Call W JsString := fun w =>
  match agg.ownerOf accountIdentifier w with
  | (.error error, w) =>
    if error.cls = .participantNotFoundError then (.error error, w)
    else
      (.error ⟨.unableToGetParticipantFspIdError,
        s!"Unable to get participant fspId for partyId: {accountIdentifier.partyId}, " ++
          s!"partyType: {accountIdentifier.partyType}, " ++
          s!"currency: {(JsString.ofOption accountIdentifier.currency).toText}"⟩, w)
  | (.ok fspId, w) => (.ok fspId, w)

/-- The finder, and behind it every loaded adapter, answer a lookup alike in two
worlds. -/
structure AnswersAlike (w v : W) : Prop where
  getOracle : ∀ partyType currency, (agg.oracleFinder.getOracle partyType currency v).1 =
    (agg.oracleFinder.getOracle partyType currency w).1
  getParticipantFspId : ∀ adapter ∈ agg.oracleProvidersAdapters,
    ∀ partyType partyId partySubType currency,
      (adapter.getParticipantFspId partyType partyId partySubType currency
          (agg.oracleFinder.getOracle partyType currency v).2).1 =
        (adapter.getParticipantFspId partyType partyId partySubType currency
          (agg.oracleFinder.getOracle partyType currency w).2).1

/-- The message is a well-formed query about the party by a requester that passes its
check; the check leaves a world in which lookups are answered alike. -/
structure AskedBy (query : OwnerQuery) (party : Party) (message : IMessage) (payload : Payload)
    (w w₁ : W) : Prop where
  msgName : message.msgName = query.request.name
  msgType : message.msgType = .domainEvent
  payload_eq : message.payload = some payload
  partyId : payload.partyId = .str party.partyId
  partyType : payload.partyType = .str party.partyType
  partySubType : payload.partySubType = .ofOption party.partySubType
  currency : payload.currency = .ofOption party.currency
  asksForOwner : query.AsksForOwner payload
  requesterPasses : agg.ParticipantPasses payload.requesterFspId w w₁
  alike : agg.AnswersAlike w w₁

/-- The participant passes its check when the search of the oracles is over. -/
def ValidOwner (party : Party) (fspId : String) (w : W) : Prop :=
  ∃ w', agg.ParticipantPasses (.str fspId) (agg.ownerOf party w).2 w'

/-- What a query comes to after its requester has passed. -/
inductive LookedUp (query : OwnerQuery) (party : Party) (w : W) (event : DomainEvent) : Prop
  | noParticipant (error : JsError) (hlookup : (agg.ownerOf party w).1 = .error error)
      (hevent : event.IsNoParticipant)
  | invalidOwner (owner : JsString) (hlookup : (agg.ownerOf party w).1 = .ok owner)
      (hfail : ∀ w', ¬ agg.ParticipantPasses owner (agg.ownerOf party w).2 w')
      (hanswers : event.answers = none)
  | named (owner : JsString) (hlookup : (agg.ownerOf party w).1 = .ok owner)
      (hnames : query.Names owner event)

variable {agg} {query : OwnerQuery} {party : Party} {message : IMessage} {payload : Payload}
  {w w₁ : W} {fspId : String}

theorem getOracleAdapter_fst_of_alike {v : W} (h : agg.AnswersAlike w v)
    (partyType currency : JsString) :
    (agg.getOracleAdapter partyType currency v).1 =
      (agg.getOracleAdapter partyType currency w).1 := by
  have hfinder := h.getOracle partyType currency
  unfold getOracleAdapter
  rcases hv : agg.oracleFinder.getOracle partyType currency v with ⟨first, v'⟩
  rcases hw : agg.oracleFinder.getOracle partyType currency w with ⟨second, w'⟩
  rw [hv, hw] at hfinder
  obtain rfl : first = second := hfinder
  rcases first with _ | _ | oracle
  · rfl
  · rfl
  · dsimp only
    split <;> rfl

/-- The search gives the same answer where lookups are answered alike. -/
theorem ownerOf_fst_of_alike {v : W} (h : agg.AnswersAlike w v) (party : Party) :
    (agg.ownerOf party v).1 = (agg.ownerOf party w).1 := by
  have hroute := getOracleAdapter_fst_of_alike h (.str party.partyType) (.ofOption party.currency)
  have hv' := agg.getOracleAdapter_snd_eq (.str party.partyType) (.ofOption party.currency) v
  have hw' := agg.getOracleAdapter_snd_eq (.str party.partyType) (.ofOption party.currency) w
  unfold ownerOf getParticipantIdFromOracle
  rcases hv : agg.getOracleAdapter (.str party.partyType) (.ofOption party.currency) v with
    ⟨routed, v₁⟩
  rcases hw : agg.getOracleAdapter (.str party.partyType) (.ofOption party.currency) w with
    ⟨routed', w₁⟩
  rw [hv, hw] at hroute
  rw [hv] at hv'
  rw [hw] at hw'
  obtain rfl : routed = routed' := hroute
  cases routed with
  | error error => rfl
  | ok adapter =>
    have hanswer := h.getParticipantFspId adapter (mem_of_getOracleAdapter hw)
      (.str party.partyType) (.str party.partyId) (.ofOption party.partySubType)
      (.ofOption party.currency)
    rw [← hv', ← hw'] at hanswer
    dsimp only at hanswer ⊢
    rcases hcall : adapter.getParticipantFspId (.str party.partyType) (.str party.partyId)
      (.ofOption party.partySubType) (.ofOption party.currency) v₁ with ⟨answer, v₂⟩
    rcases hcall' : adapter.getParticipantFspId (.str party.partyType) (.str party.partyId)
      (.ofOption party.partySubType) (.ofOption party.currency) w₁ with ⟨answer', w₂⟩
    rw [hcall, hcall'] at hanswer
    obtain rfl : answer = answer' := hanswer
    cases answer with
    | error error => rfl
    | ok fspId =>
      dsimp only
      split <;> rfl

/-- The route resolves to what the search finds. -/
theorem getAccountLookUp_eq_ok_iff {answer : JsString} :
    (agg.getAccountLookUp party w).1 = .ok answer ↔ (agg.ownerOf party w).1 = .ok answer := by
  unfold getAccountLookUp
  rcases agg.ownerOf party w with ⟨error | found, w'⟩
  · dsimp only
    split <;> simp
  · exact Iff.rfl

theorem ownerOf_truthy {answer : JsString} (h : (agg.ownerOf party w).1 = .ok answer) :
    answer.truthy = true := by
  rcases agg.getParticipantIdFromOracle_cases (.str party.partyId) (.str party.partyType)
    (.ofOption party.partySubType) (.ofOption party.currency) w with
    ⟨found, w', hfound, hanswers⟩ | ⟨error, w', herror, -⟩
  · obtain ⟨_, _, _, _, htruthy⟩ := hanswers
    rw [ownerOf, hfound] at h
    exact Except.ok.inj h ▸ htruthy
  · rw [ownerOf, herror] at h
    cases h

theorem validateParticipantInfoOrGetErrorEvent_of_passes {participantId : JsString}
    (errorEvent : ParticipantFault → DomainEvent)
    (h : agg.ParticipantPasses participantId w w₁) :
    agg.validateParticipantInfoOrGetErrorEvent errorEvent participantId w = (none, w₁) := by
  rcases agg.validateParticipantInfoOrGetErrorEvent_cases errorEvent participantId w with
    ⟨w', hvalid, hpass⟩ | ⟨fault, w', -, hfail⟩
  · rw [hvalid, hpass.unique h]
  · exact absurd h (hfail w₁)

variable (agg) in
/-- The part that the handlers of both queries share, from the search of the oracles on. -/
theorem lookedUp_of_search (query : OwnerQuery) (party : Party) (w : W)
    (noParticipant : AccountLookUpUnableToGetParticipantFromOracleErrorPayload)
    (answer : JsString → DomainEvent) (hnames : ∀ owner, query.Names owner (answer owner)) :
    ∃ event w',
      (match agg.ownerOf party w with
        | (.error _, w) =>
          (.ok (.accountLookUpUnableToGetParticipantFromOracleErrorEvent noParticipant), w)
        | (.ok owner, w) =>
          match agg.validateDestinationParticipantInfoOrGetErrorEvent (.str party.partyId)
              (.str party.partyType) (.ofOption party.partySubType) owner w with
          | (some error, w) => (.ok error, w)
          | (none, w) => (.ok (answer owner), w) : Except JsError DomainEvent × W) =
        (.ok event, w') ∧
      agg.LookedUp query party w event := by
  rcases hlookup : agg.ownerOf party w with ⟨error | owner, w₁⟩
  · exact ⟨_, w₁, rfl, .noParticipant error (congrArg Prod.fst hlookup) ⟨_, rfl⟩⟩
  · unfold validateDestinationParticipantInfoOrGetErrorEvent
    rcases agg.validateParticipantInfoOrGetErrorEvent_cases (destinationErrorEvent
        (.str party.partyId) (.str party.partyType) (.ofOption party.partySubType) owner)
        owner w₁ with
      ⟨w₂, hvalid, -⟩ | ⟨fault, w₂, hvalid, hfail⟩
    · exact ⟨answer owner, w₂, by simp only [hvalid],
        .named owner (congrArg Prod.fst hlookup) (hnames owner)⟩
    · refine ⟨_, w₂, by simp only [hvalid]; rfl,
        .invalidOwner owner (congrArg Prod.fst hlookup) ?_ (answers_destinationErrorEvent ..)⟩
      rw [hlookup]
      exact hfail

theorem lookedUp_participantQuery
    (h : agg.AskedBy .participantQuery party message payload w w₁) :
    ∃ event w', agg.handleParticipantQueryReceivedEvt payload w = (.ok event, w') ∧
      agg.LookedUp .participantQuery party w₁ event := by
  simp only [handleParticipantQueryReceivedEvt, validateRequesterParticipantInfoOrGetErrorEvent,
    validateParticipantInfoOrGetErrorEvent_of_passes _ h.requesterPasses, h.partyId,
    h.partyType, h.partySubType, h.currency]
  exact agg.lookedUp_of_search .participantQuery party w₁ _ _ fun owner => ⟨_, rfl, rfl⟩

theorem lookedUp_partyQuery (h : agg.AskedBy .partyQuery party message payload w w₁) :
    ∃ event w', agg.handlePartyQueryReceivedEvt payload w = (.ok event, w') ∧
      agg.LookedUp .partyQuery party w₁ event := by
  have hdestination : payload.destinationFspId.truthy = false := h.asksForOwner
  have hsearch := agg.lookedUp_of_search .partyQuery party w₁
    ⟨.str party.partyId, .ofOption party.partySubType, .str party.partyType,
      .ofOption party.currency, .unableToGetParticipantFromOracle⟩
    (fun owner => .partyInfoRequestedEvt ⟨payload.requesterFspId, owner, .str party.partyType,
      .str party.partyId, .ofOption party.partySubType, .ofOption party.currency⟩)
    fun owner => ⟨_, rfl, rfl⟩
  simp only [handlePartyQueryReceivedEvt, validateRequesterParticipantInfoOrGetErrorEvent,
    validateParticipantInfoOrGetErrorEvent_of_passes _
      (participantPasses_orNull.mpr h.requesterPasses), partyQueryDestination,
    JsString.truthy_orNull, hdestination, Bool.false_eq_true, if_false, h.partyId, h.partyType,
    h.partySubType, h.currency, JsString.orNull_str, JsString.orNull_ofOption]
  unfold ownerOf at hsearch
  rcases hlookup : agg.getParticipantIdFromOracle (.str party.partyId) (.str party.partyType)
    (.ofOption party.partySubType) (.ofOption party.currency) w₁ with ⟨error | owner, w₂⟩
  · rw [hlookup] at hsearch
    exact hsearch
  · rw [hlookup] at hsearch
    exact hsearch

/-- **What a query comes to.** -/
theorem AskedBy.lookedUp (h : agg.AskedBy query party message payload w w₁) :
    agg.LookedUp query party w₁ (agg.handleEvent message w).1.event := by
  have hvalid : validateMessageOrGetErrorEvent message = none := by
    simp [validateMessageOrGetErrorEvent, h.payload_eq, h.msgType]
  have hname : RequestEvt.ofName message.msgName = some query.request :=
    RequestEvt.ofName_eq_some_iff.mpr h.msgName
  have hhandled : ∃ event w', agg.handlerOf query.request payload w = (.ok event, w') ∧
      agg.LookedUp query party w₁ event := by
    cases query with
    | participantQuery => exact lookedUp_participantQuery h
    | partyQuery => exact lookedUp_partyQuery h
  obtain ⟨event, w', hhandler, hlookedUp⟩ := hhandled
  simp only [handleEvent, hvalid, hname, h.payload_eq, Option.getD_some, hhandler]
  exact hlookedUp

/-- With a valid owner, the query names the participant exactly when the route resolves
to it. -/
theorem AskedBy.names_iff (h : agg.AskedBy query party message payload w w₁)
    (hvalid : agg.ValidOwner party fspId w₁) :
    (agg.getAccountLookUp party w).1 = .ok (.str fspId) ↔
      query.Names (.str fspId) (agg.handleEvent message w).1.event := by
  rw [getAccountLookUp_eq_ok_iff, ← ownerOf_fst_of_alike h.alike]
  cases h.lookedUp with
  | noParticipant error hlookup hevent =>
    rw [hlookup]
    obtain ⟨_, hevent⟩ := hevent
    refine iff_of_false (fun herror => by cases herror) fun hnames => ?_
    have hanswers := hnames.answers
    rw [hevent] at hanswers
    cases hanswers
  | invalidOwner owner hlookup hfail hanswers =>
    rw [hlookup]
    refine iff_of_false (fun howner => ?_) fun hnames => ?_
    · obtain ⟨w', hpass⟩ := hvalid
      exact hfail w' (Except.ok.inj howner ▸ hpass)
    · cases hanswers.symm.trans hnames.answers
  | named owner hlookup hnames =>
    rw [hlookup, Except.ok.injEq]
    constructor
    · rintro rfl
      exact hnames
    · exact hnames.unique

/-- Where the route rejects, the query reports that the oracle gave no participant. -/
theorem AskedBy.isNoParticipant (h : agg.AskedBy query party message payload w w₁)
    {error : JsError} (hreject : (agg.getAccountLookUp party w).1 = .error error) :
    (agg.handleEvent message w).1.event.IsNoParticipant := by
  have hrejects : ∀ answer, (agg.ownerOf party w₁).1 ≠ .ok answer := by
    intro answer hanswer
    rw [ownerOf_fst_of_alike h.alike, ← getAccountLookUp_eq_ok_iff, hreject] at hanswer
    cases hanswer
  cases h.lookedUp with
  | noParticipant error hlookup hevent => exact hevent
  | invalidOwner owner hlookup => exact absurd hlookup (hrejects owner)
  | named owner hlookup => exact absurd hlookup (hrejects owner)

/-- **The three ways agree.** The route resolves to a participant exactly when a
participant query names it and exactly when a party query is passed on to it; where the
route rejects, both report that the oracle gave no participant; and what it resolves to is
never empty. -/
theorem lookupEntryPoints_agree {participantQuery partyQuery : IMessage}
    {participantPayload partyPayload : Payload} {w₂ : W}
    (hparticipant : agg.AskedBy .participantQuery party participantQuery participantPayload w w₁)
    (hparty : agg.AskedBy .partyQuery party partyQuery partyPayload w w₂) :
    (∀ fspId, agg.ValidOwner party fspId w₁ →
      ((agg.getAccountLookUp party w).1 = .ok (.str fspId) ↔
        OwnerQuery.participantQuery.Names (.str fspId)
          (agg.handleEvent participantQuery w).1.event)) ∧
    (∀ fspId, agg.ValidOwner party fspId w₂ →
      ((agg.getAccountLookUp party w).1 = .ok (.str fspId) ↔
        OwnerQuery.partyQuery.Names (.str fspId) (agg.handleEvent partyQuery w).1.event)) ∧
    (∀ error, (agg.getAccountLookUp party w).1 = .error error →
      (agg.handleEvent participantQuery w).1.event.IsNoParticipant ∧
        (agg.handleEvent partyQuery w).1.event.IsNoParticipant) ∧
    ∀ answer, (agg.getAccountLookUp party w).1 = .ok answer → answer.truthy = true := by
  refine ⟨fun fspId hvalid => hparticipant.names_iff hvalid,
    fun fspId hvalid => hparty.names_iff hvalid, fun error hreject => ?_, fun answer hanswer => ?_⟩
  · exact ⟨hparticipant.isNoParticipant hreject, hparty.isNoParticipant hreject⟩
  · exact ownerOf_truthy (getAccountLookUp_eq_ok_iff.mp hanswer)

/-- An aggregate with one oracle, which names greenbank for every party, and a service
that knows every participant. -/
def sampleAggregate : AccountLookupAggregate Unit where
  oracleFinder :=
    { init := fun w => (.ok (), w)
      destroy := fun w => (.ok (), w)
      addOracle := fun _ w => (.ok (), w)
      removeOracle := fun _ w => (.ok (), w)
      getAllOracles := fun w => (.ok [], w)
      getOracleById := fun _ w => (.ok none, w)
      getOracleByName := fun _ w => (.ok none, w)
      getOracle := fun partyType currency w =>
        (.ok (some ⟨"1", .str "oracle", .builtin, partyType, currency, .null⟩), w) }
  oracleProvidersFactory := ⟨fun _ w => (.error ⟨.oracleTypeNotSupportedError, ""⟩, w)⟩
  participantService := ⟨fun fspId w => (.ok (some ⟨fspId, true, true⟩), w)⟩
  oracleProvidersAdapters :=
    [{ oracleId := "1"
       type := .builtin
       init := fun w => (.ok (), w)
       destroy := fun w => (.ok (), w)
       healthCheck := fun w => (.ok true, w)
       getParticipantFspId := fun _ _ _ _ w => (.ok (.str "greenbank"), w)
       associateParticipant := fun _ _ _ _ _ w => (.ok (), w)
       disassociateParticipant := fun _ _ _ _ _ w => (.ok (), w)
       getAllAssociations := fun w => (.ok [], w)
       searchAssociations := fun _ _ _ _ _ _ _ w => (.ok (.error ⟨.external, "timeout"⟩), w)
       getSearchKeywords := fun w => (.ok (.ok []), w) }]

/-- A query of bluebank about a phone number. -/
def sampleQuery (query : OwnerQuery) : IMessage where
  msgName := query.request.name
  msgType := .domainEvent
  payload := some { Payload.blank with
    partyId := .str "27713803912"
    partyType := .str "MSISDN"
    partySubType := .null
    currency := .null
    requesterFspId := .str "bluebank" }
  inboundProtocolType := .undefined
  inboundProtocolOpaqueState := none

theorem askedBy_sampleQuery (query : OwnerQuery) :
    sampleAggregate.AskedBy query ⟨"MSISDN", "27713803912", none, none⟩ (sampleQuery query)
      ((sampleQuery query).payload.getD Payload.blank) () () where
  msgName := rfl
  msgType := rfl
  payload_eq := rfl
  partyId := rfl
  partyType := rfl
  partySubType := rfl
  currency := rfl
  asksForOwner := by
    cases query with
    | participantQuery => trivial
    | partyQuery => rfl
  requesterPasses := ⟨"bluebank", ⟨"bluebank", true, true⟩, rfl, by decide, rfl, rfl, rfl, rfl⟩
  alike := ⟨fun _ _ => rfl, fun _ _ _ _ _ _ => rfl⟩

/-- All three ways lead to greenbank. -/
theorem lookupEntryPoints_greenbank :
    (sampleAggregate.getAccountLookUp ⟨"MSISDN", "27713803912", none, none⟩ ()).1 =
        .ok (.str "greenbank") ∧
      OwnerQuery.participantQuery.Names (.str "greenbank")
        (sampleAggregate.handleEvent (sampleQuery .participantQuery) ()).1.event ∧
      OwnerQuery.partyQuery.Names (.str "greenbank")
        (sampleAggregate.handleEvent (sampleQuery .partyQuery) ()).1.event := by
  have hresolves : (sampleAggregate.getAccountLookUp ⟨"MSISDN", "27713803912", none, none⟩ ()).1 =
      .ok (.str "greenbank") := rfl
  have hvalid : sampleAggregate.ValidOwner ⟨"MSISDN", "27713803912", none, none⟩ "greenbank" () :=
    ⟨(), "greenbank", ⟨"greenbank", true, true⟩, rfl, by decide, rfl, rfl, rfl, rfl⟩
  obtain ⟨hparticipant, hparty, -, -⟩ := lookupEntryPoints_agree
    (askedBy_sampleQuery .participantQuery) (askedBy_sampleQuery .partyQuery)
  exact ⟨hresolves, (hparticipant "greenbank" hvalid).mp hresolves,
    (hparty "greenbank" hvalid).mp hresolves⟩

end AccountLookupAggregate

end AccountLookup

/-
# The account lookup aggregate: message handling

The dispatch of a message to its handler, the seven handlers, the two validators
of a participant and the routing of a party to its oracle. Metrics and logging
are left out: they neither read nor change what is modelled here. Handlers are
calls, which may throw, because the dispatch catches what they throw.
-/

import AccountLookup.Domain.Messages

namespace AccountLookup

/-- The aggregate: its collaborators and the adapters it has loaded. -/
structure AccountLookupAggregate (W : Type) where
  oracleFinder : IOracleFinder W
  oracleProvidersFactory : IOracleProviderFactory W
  participantService : IParticipantServiceAdapter W
  oracleProvidersAdapters : List (IOracleProviderAdapter W)

/-- The ways in which a participant fails validation, in the order in which they
are looked for. -/
inductive ParticipantFault
  | missingId
  | serviceError
  | notFound
  | idMismatch
  | notApproved
  | notActive

/-- The error event for a requester. -/
def requesterErrorEvent (partyId partyType partySubType participantId : JsString) :
    ParticipantFault → DomainEvent
  | .missingId => .accountLookupBCInvalidRequesterParticipantErrorEvent
      ⟨partyId, partyType, partySubType, participantId, .invalidSourceParticipant⟩
  | .serviceError => .accountLookupBCInvalidRequesterParticipantErrorEvent
      ⟨partyId, partyType, partySubType, participantId, .invalidSourceParticipant⟩
  | .notFound => .accountLookupBCRequesterParticipantNotFoundErrorEvent
      ⟨partyId, partyType, partySubType, participantId, .sourceParticipantNotFound⟩
  | .idMismatch => .accountLookupBCRequiredRequesterParticipantIdMismatchErrorEvent
      ⟨partyId, partyType, partySubType, participantId, .requiredSourceParticipantIdMismatch⟩
  | .notApproved => .accountLookupBCRequiredRequesterParticipantIsNotApprovedErrorEvent
      ⟨partyId, partyType, partySubType, participantId, .requiredSourceParticipantNotApproved⟩
  | .notActive => .accountLookupBCRequiredRequesterParticipantIsNotActiveErrorEvent
      ⟨partyId, partyType, partySubType, participantId, .requiredSourceParticipantNotActive⟩

/-- The error event for a destination. -/
def destinationErrorEvent (partyId partyType partySubType participantId : JsString) :
    ParticipantFault → DomainEvent
  | .missingId => .accountLookupBCInvalidDestinationParticipantErrorEvent
      ⟨partyId, partyType, partySubType, participantId, .invalidDestinationParticipant⟩
  | .serviceError => .accountLookupBCInvalidDestinationParticipantErrorEvent
      ⟨partyId, partyType, partySubType, participantId, .invalidDestinationParticipant⟩
  | .notFound => .accountLookupBCDestinationParticipantNotFoundErrorEvent
      ⟨partyId, partyType, partySubType, participantId, .destinationParticipantNotFound⟩
  | .idMismatch => .accountLookupBCRequiredDestinationParticipantIdMismatchErrorEvent
      ⟨partyId, partyType, partySubType, participantId, .requiredDestinationParticipantIdMismatch⟩
  | .notApproved => .accountLookupBCRequiredDestinationParticipantIsNotApprovedErrorEvent
      ⟨partyId, partyType, partySubType, participantId, .requiredDestinationParticipantNotApproved⟩
  | .notActive => .accountLookupBCRequiredDestinationParticipantIsNotActiveErrorEvent
      ⟨partyId, partyType, partySubType, participantId, .requiredDestinationParticipantNotActive⟩

/-- How error texts render a currency: `currency ?? "Not Provided"`. -/
def currencyText (currency : JsString) : String :=
  if currency.nullish then "Not Provided" else currency.toText

namespace AccountLookupAggregate

variable {W : Type} (agg : AccountLookupAggregate W)

/-- The check of a message before its dispatch. -/
def validateMessageOrGetErrorEvent (message : IMessage) : Option DomainEvent :=
  let payload := message.payload.getD Payload.blank
  let partyId := payload.partyId.orNull
  let partyType := payload.partyType.orNull
  let partySubType := payload.partySubType.orNull
  let requesterFspId := payload.requesterFspId.orNull
  if message.payload.isNone then
    some (.accountLookupBCInvalidMessagePayloadErrorEvent
      ⟨partyId, partyType, partySubType, requesterFspId, .invalidMessagePayload⟩)
  else if message.msgType ≠ .domainEvent then
    some (.accountLookupBCInvalidMessageTypeErrorEvent
      ⟨partyId, partyType, partySubType, requesterFspId, .invalidMessageType⟩)
  else none

/-- The check of a participant that both validators make: the id is given, the
service answers with a participant of that id, and it is approved and active.
The two validators differ in the error events alone. -/
def validateParticipantInfoOrGetErrorEvent (errorEvent : ParticipantFault → DomainEvent)
    (participantId : JsString) (w : W) : Option DomainEvent × W :=
  match participantId with
  | .undefined => (some (errorEvent .missingId), w)
  | .null => (some (errorEvent .missingId), w)
  | .str id =>
    if id = "" then (some (errorEvent .missingId), w)
    else
      match agg.participantService.getParticipantInfo id w with
      | (.error _, w) => (some (errorEvent .serviceError), w)
      | (.ok none, w) => (some (errorEvent .notFound), w)
      | (.ok (some participant), w) =>
        if participant.id ≠ id then (some (errorEvent .idMismatch), w)
        else if participant.approved = false then (some (errorEvent .notApproved), w)
        else if participant.isActive = false then (some (errorEvent .notActive), w)
        else (none, w)

def validateDestinationParticipantInfoOrGetErrorEvent
    (partyId partyType partySubType participantId : JsString) (w : W) : Option DomainEvent × W :=
  agg.validateParticipantInfoOrGetErrorEvent
    (destinationErrorEvent partyId partyType partySubType participantId) participantId w

def validateRequesterParticipantInfoOrGetErrorEvent
    (partyId partyType partySubType participantId : JsString) (w : W) : Option DomainEvent × W :=
  agg.validateParticipantInfoOrGetErrorEvent
    (requesterErrorEvent partyId partyType partySubType participantId) participantId w

/-- The adapter of the oracle that the finder routes the party to. -/
def getOracleAdapter (partyType currency : JsString) : Call W (IOracleProviderAdapter W) :=
  fun w =>
    match agg.oracleFinder.getOracle partyType currency w with
    | (.error _, w) =>
      (.error ⟨.unableToGetOracleFromOracleFinderError,
        s!"Unable to get oracle for partyType: {partyType.toText} " ++
          s!"and currency: {currencyText currency}"⟩, w)
    | (.ok none, w) =>
      (.error ⟨.oracleNotFoundError,
        s!"Oracle for partyType: {partyType.toText} " ++
          s!"and currency: {currencyText currency} not found"⟩, w)
    | (.ok (some oracle), w) =>
      match agg.oracleProvidersAdapters.find? fun adapter => adapter.oracleId = oracle.id with
      | none =>
        (.error ⟨.noSuchOracleAdapterError,
          s!"Oracle adapter for {partyType.toText} " ++
            s!"and id: {oracle.id} not present in oracle list"⟩, w)
      | some oracleAdapter => (.ok oracleAdapter, w)

/-- The participant that the routed oracle names for the party. -/
def getParticipantIdFromOracle (partyId partyType partySubType currency : JsString) :
    Call W JsString := fun w =>
  match agg.getOracleAdapter partyType currency w with
  | (.error error, w) => (.error error, w)
  | (.ok oracleAdapter, w) =>
    match oracleAdapter.getParticipantFspId partyType partyId partySubType currency w with
    | (.error _, w) =>
      (.error ⟨.unableToGetParticipantFspIdError,
        s!"Unable to get participant fspId for partyId: {partyId.toText}, " ++
          s!"partyType: {partyType.toText}, currency: {currency.toText} from oracle"⟩, w)
    | (.ok fspId, w) =>
      if fspId.truthy then (.ok fspId, w)
      else
        (.error ⟨.participantNotFoundError,
          s!"PartyId:{partyId.toText} has no fspId associated in oracle"⟩, w)

/-! ## Handlers -/

/-- The destination of a party query: the one the payload names, else the one
the oracle answers. A failing lookup yields the event that reports it. -/
def partyQueryDestination (payload : Payload) (w : W) : Except DomainEvent JsString × W :=
  let partyId := payload.partyId.orNull
  let partyType := payload.partyType.orNull
  let partySubType := payload.partySubType.orNull
  let currency := payload.currency.orNull
  if payload.destinationFspId.orNull.truthy then (.ok payload.destinationFspId.orNull, w)
  else
    match agg.getParticipantIdFromOracle partyId partyType partySubType currency w with
    | (.error _, w) =>
      (.error (.accountLookUpUnableToGetParticipantFromOracleErrorEvent
        ⟨partyId, partySubType, partyType, currency, .unableToGetParticipantFromOracle⟩), w)
    | (.ok fspId, w) => (.ok fspId, w)

def handlePartyQueryReceivedEvt (payload : Payload) : Call W DomainEvent := fun w =>
  let requesterFspId := payload.requesterFspId.orNull
  let partyType := payload.partyType.orNull
  let partyId := payload.partyId.orNull
  let partySubType := payload.partySubType.orNull
  match agg.validateRequesterParticipantInfoOrGetErrorEvent
      partyId partyType partySubType requesterFspId w with
  | (some error, w) => (.ok error, w)
  | (none, w) =>
    match agg.partyQueryDestination payload w with
    | (.error error, w) => (.ok error, w)
    | (.ok destinationFspId, w) =>
      match agg.validateDestinationParticipantInfoOrGetErrorEvent
          partyId partyType partySubType destinationFspId w with
      | (some error, w) => (.ok error, w)
      | (none, w) =>
        (.ok (.partyInfoRequestedEvt
          { requesterFspId := payload.requesterFspId
            destinationFspId := destinationFspId
            partyType := payload.partyType
            partyId := payload.partyId
            partySubType := payload.partySubType
            currency := payload.currency }), w)

/-- The two checks made by the handlers that relay an answer between a requester
and a destination, both named in the payload; `answer` is what they publish when
both pass. -/
def relayBetweenParticipants (payload : Payload) (answer : DomainEvent) : Call W DomainEvent :=
  fun w =>
    let partyId := payload.partyId.orNull
    let partyType := payload.partyType.orNull
    let partySubType := payload.partySubType.orNull
    let requesterFspId := payload.requesterFspId.orNull
    let destinationFspId := payload.destinationFspId.orNull
    match agg.validateRequesterParticipantInfoOrGetErrorEvent
        partyId partyType partySubType requesterFspId w with
    | (some error, w) => (.ok error, w)
    | (none, w) =>
      match agg.validateDestinationParticipantInfoOrGetErrorEvent
          partyId partyType partySubType destinationFspId w with
      | (some error, w) => (.ok error, w)
      | (none, w) => (.ok answer, w)

def handlePartyInfoAvailableEvt (payload : Payload) : Call W DomainEvent :=
  agg.relayBetweenParticipants payload (.partyQueryResponseEvt
    { requesterFspId := payload.requesterFspId
      destinationFspId := payload.destinationFspId
      partyDoB := payload.partyDoB
      merchantClassificationCode := payload.merchantClassificationCode
      name := payload.name
      firstName := payload.firstName
      middleName := payload.middleName
      lastName := payload.lastName
      ownerFspId := payload.ownerFspId
      partyType := payload.partyType
      partyId := payload.partyId
      partySubType := payload.partySubType
      currency := payload.currency
      kycInfo := payload.kycInfo
      supportedCurrencies := payload.supportedCurrencies
      extensions := payload.extensions })

/-- What both rejection responses carry. -/
def rejectedResponsePayload (payload : Payload) : RejectedResponseEvtPayload where
  partyId := payload.partyId
  partyType := payload.partyType
  partySubType := payload.partySubType
  currency := payload.currency
  errorInformation := payload.errorInformation

def getPartyRejected (payload : Payload) : Call W DomainEvent :=
  agg.relayBetweenParticipants payload
    (.partyRejectedResponseEvt (rejectedResponsePayload payload))

def getParticipantRejected (payload : Payload) : Call W DomainEvent :=
  agg.relayBetweenParticipants payload
    (.participantRejectedResponseEvt (rejectedResponsePayload payload))

/-- Unlike the party query, this handler passes the optional properties on as
they are, absent ones included. -/
def handleParticipantQueryReceivedEvt (payload : Payload) : Call W DomainEvent := fun w =>
  let requesterFspId := payload.requesterFspId
  let partyType := payload.partyType
  let partyId := payload.partyId
  let partySubType := payload.partySubType
  let currency := payload.currency
  match agg.validateRequesterParticipantInfoOrGetErrorEvent
      partyId partyType partySubType requesterFspId w with
  | (some error, w) => (.ok error, w)
  | (none, w) =>
    match agg.getParticipantIdFromOracle partyId partyType partySubType currency w with
    | (.error _, w) =>
      (.ok (.accountLookUpUnableToGetParticipantFromOracleErrorEvent
        ⟨partyId, partySubType, partyType, currency, .unableToGetParticipantFromOracle⟩), w)
    | (.ok ownerFspId, w) =>
      match agg.validateDestinationParticipantInfoOrGetErrorEvent
          partyId partyType partySubType ownerFspId w with
      | (some error, w) => (.ok error, w)
      | (none, w) =>
        (.ok (.participantQueryResponseEvt
          { requesterFspId := payload.requesterFspId
            ownerFspId := ownerFspId
            partyType := payload.partyType
            partyId := payload.partyId
            partySubType := payload.partySubType
            currency := payload.currency }), w)

def handleParticipantAssociationRequestReceivedEvt (payload : Payload) : Call W DomainEvent :=
  fun w =>
    let ownerFspId := payload.ownerFspId
    let partyId := payload.partyId
    let partySubType := payload.partySubType
    let partyType := payload.partyType
    let currency := payload.currency
    match agg.validateRequesterParticipantInfoOrGetErrorEvent
        partyId partyType partySubType ownerFspId w with
    | (some error, w) => (.ok error, w)
    | (none, w) =>
      match agg.getOracleAdapter partyType currency w with
      | (.error _, w) =>
        (.ok (.accountLookupBCUnableToGetOracleAdapterErrorEvent
          ⟨partyId, partyType, currency, .unableToGetOracleAdapter⟩), w)
      | (.ok oracleAdapter, w) =>
        match oracleAdapter.associateParticipant
            ownerFspId partyType partyId partySubType currency w with
        | (.error _, w) =>
          (.ok (.accountLookupBCUnableToAssociateParticipantErrorEvent
            ⟨ownerFspId, partyType, partyId, currency, .unableToAssociateParticipant⟩), w)
        | (.ok _, w) =>
          (.ok (.participantAssociationCreatedEvt
            { partyId := payload.partyId
              ownerFspId := payload.ownerFspId
              partyType := payload.partyType
              partySubType := payload.partySubType
              extensions := payload.extensions }), w)

def handleParticipantDisassociateRequestReceivedEvt (payload : Payload) : Call W DomainEvent :=
  fun w =>
    let ownerFspId := payload.ownerFspId.orNull
    let partyId := payload.partyId.orNull
    let partyType := payload.partyType.orNull
    let partySubType := payload.partySubType.orNull
    let currency := payload.currency.orNull
    match agg.validateRequesterParticipantInfoOrGetErrorEvent
        partyId partyType partySubType ownerFspId w with
    | (some error, w) => (.ok error, w)
    | (none, w) =>
      match agg.getOracleAdapter partyType currency w with
      | (.error _, w) =>
        (.ok (.accountLookupBCUnableToGetOracleAdapterErrorEvent
          ⟨partyId, partyType, currency, .unableToGetOracleAdapter⟩), w)
      | (.ok oracleAdapter, w) =>
        match oracleAdapter.disassociateParticipant
            ownerFspId partyType partyId partySubType currency w with
        | (.error _, w) =>
          (.ok (.accountLookupBCUnableToDisassociateParticipantErrorEvent
            ⟨ownerFspId, partyId, partyType, currency, .unableToDisassociateParticipant⟩), w)
        | (.ok _, w) =>
          (.ok (.participantAssociationRemovedEvt
            { partyId := payload.partyId
              ownerFspId := payload.ownerFspId
              partyType := payload.partyType
              partySubType := payload.partySubType }), w)

/-- The handler of a request class. -/
def handlerOf : RequestEvt → Payload → Call W DomainEvent
  | .partyQueryReceivedEvt => agg.handlePartyQueryReceivedEvt
  | .partyInfoAvailableEvt => agg.handlePartyInfoAvailableEvt
  | .participantQueryReceivedEvt => agg.handleParticipantQueryReceivedEvt
  | .participantAssociationRequestReceivedEvt =>
      agg.handleParticipantAssociationRequestReceivedEvt
  | .participantDisassociateRequestReceivedEvt =>
      agg.handleParticipantDisassociateRequestReceivedEvt
  | .partyRejectedEvt => agg.getPartyRejected
  | .participantRejectedEvt => agg.getParticipantRejected

/-- Handle one message. Only a message that fails the first check gets its
correlation data here; the batch handler adds it to the other events. -/
def handleEvent (message : IMessage) (w : W) : DomainEventMsg × W :=
  let payload := message.payload.getD Payload.blank
  let partyId := payload.partyId.orNull
  let partySubType := payload.partySubType.orNull
  let partyType := payload.partyType.orNull
  let currency := payload.currency.orNull
  let requesterFspId := payload.requesterFspId.orNull
  match validateMessageOrGetErrorEvent message with
  | some errorMessage =>
    (⟨errorMessage, message.inboundProtocolType, message.inboundProtocolOpaqueState⟩, w)
  | none =>
    match RequestEvt.ofName message.msgName with
    | none =>
      (⟨.accountLookupBCInvalidMessageTypeErrorEvent
        ⟨partyId, partyType, partySubType, requesterFspId, .invalidMessagePayload⟩,
        .undefined, none⟩, w)
    | some request =>
      match agg.handlerOf request payload w with
      | (.ok eventToPublish, w) => (⟨eventToPublish, .undefined, none⟩, w)
      | (.error _, w) =>
        (⟨.accountLookUpUnknownErrorEvent
          ⟨partyId, partyType, currency, requesterFspId, .commandTypeUnknown⟩,
          .undefined, none⟩, w)

end AccountLookupAggregate

end AccountLookup

/-
# Messages and events

The requests the service consumes and the events it publishes, each with the
payload the source builds. Identifiers are three-valued strings, since a payload
comes from parsed JSON; values that the aggregate only passes through are kept
as their JSON text. Error codes are the names under which the source lists them.
-/

import AccountLookup.Domain.Interfaces

namespace AccountLookup

/-- A value passed through untouched: its JSON text, or absent. -/
abbrev JsonText : Type := Option String

/-- The message type; the source only asks whether it is `DOMAIN_EVENT`. -/
inductive MessageTypes
  | domainEvent
  | other (value : JsString)
  deriving DecidableEq

/-- The request classes, one for each branch of the dispatch. -/
inductive RequestEvt
  | partyQueryReceivedEvt
  | partyInfoAvailableEvt
  | participantQueryReceivedEvt
  | participantAssociationRequestReceivedEvt
  | participantDisassociateRequestReceivedEvt
  | partyRejectedEvt
  | participantRejectedEvt
  deriving DecidableEq

namespace RequestEvt

/-- The class name, which a message carries as its `msgName`. -/
def name : RequestEvt → String
  | .partyQueryReceivedEvt => "PartyQueryReceivedEvt"
  | .partyInfoAvailableEvt => "PartyInfoAvailableEvt"
  | .participantQueryReceivedEvt => "ParticipantQueryReceivedEvt"
  | .participantAssociationRequestReceivedEvt => "ParticipantAssociationRequestReceivedEvt"
  | .participantDisassociateRequestReceivedEvt => "ParticipantDisassociateRequestReceivedEvt"
  | .partyRejectedEvt => "PartyRejectedEvt"
  | .participantRejectedEvt => "ParticipantRejectedEvt"

/-- The request classes in the order of the dispatch. -/
def all : List RequestEvt :=
  [.partyQueryReceivedEvt, .partyInfoAvailableEvt, .participantQueryReceivedEvt,
    .participantAssociationRequestReceivedEvt, .participantDisassociateRequestReceivedEvt,
    .partyRejectedEvt, .participantRejectedEvt]

/-- The class a message name selects. -/
def ofName (msgName : String) : Option RequestEvt := all.find? fun r => r.name = msgName

theorem ofName_name (r : RequestEvt) : ofName r.name = some r := by
  cases r <;> decide

/-- A name selects a class exactly when it is the name of that class. -/
theorem ofName_eq_some_iff {msgName : String} {r : RequestEvt} :
    ofName msgName = some r ↔ msgName = r.name := by
  refine ⟨fun h => ?_, fun h => h ▸ ofName_name r⟩
  have hname := List.find?_some h
  exact (of_decide_eq_true hname).symm

end RequestEvt

/-- What the handlers read of a payload. One record serves all request classes;
a property that a class lacks is absent. -/
structure Payload where
  partyId : JsString
  partyType : JsString
  partySubType : JsString
  currency : JsString
  requesterFspId : JsString
  destinationFspId : JsString
  ownerFspId : JsString
  partyDoB : JsonText
  merchantClassificationCode : JsonText
  name : JsonText
  firstName : JsonText
  middleName : JsonText
  lastName : JsonText
  kycInfo : JsonText
  supportedCurrencies : JsonText
  extensions : JsonText
  errorInformation : JsonText

/-- A payload with no property set. -/
def Payload.blank : Payload where
  partyId := .undefined
  partyType := .undefined
  partySubType := .undefined
  currency := .undefined
  requesterFspId := .undefined
  destinationFspId := .undefined
  ownerFspId := .undefined
  partyDoB := none
  merchantClassificationCode := none
  name := none
  firstName := none
  middleName := none
  lastName := none
  kycInfo := none
  supportedCurrencies := none
  extensions := none
  errorInformation := none

/-- A consumed message. A missing or otherwise falsy payload is `none`. -/
structure IMessage where
  msgName : String
  msgType : MessageTypes
  payload : Option Payload
  inboundProtocolType : JsString
  inboundProtocolOpaqueState : JsonText

/-- The names of the error codes. -/
inductive AccountLookupErrorCodeNames
  | commandTypeUnknown
  | unableToAssociateParticipant
  | unableToDisassociateParticipant
  | destinationParticipantNotFound
  | sourceParticipantNotFound
  | invalidDestinationParticipant
  | invalidSourceParticipant
  | invalidMessagePayload
  | invalidMessageType
  | unableToGetOracleAdapter
  | unableToGetParticipantFromOracle
  | requiredSourceParticipantIdMismatch
  | requiredSourceParticipantNotApproved
  | requiredSourceParticipantNotActive
  | requiredDestinationParticipantIdMismatch
  | requiredDestinationParticipantNotApproved
  | requiredDestinationParticipantNotActive

structure PartyInfoRequestedEvtPayload where
  requesterFspId : JsString
  destinationFspId : JsString
  partyType : JsString
  partyId : JsString
  partySubType : JsString
  currency : JsString

structure PartyQueryResponseEvtPayload where
  requesterFspId : JsString
  destinationFspId : JsString
  partyDoB : JsonText
  merchantClassificationCode : JsonText
  name : JsonText
  firstName : JsonText
  middleName : JsonText
  lastName : JsonText
  ownerFspId : JsString
  partyType : JsString
  partyId : JsString
  partySubType : JsString
  currency : JsString
  kycInfo : JsonText
  supportedCurrencies : JsonText
  extensions : JsonText

structure ParticipantQueryResponseEvtPayload where
  requesterFspId : JsString
  ownerFspId : JsString
  partyType : JsString
  partyId : JsString
  partySubType : JsString
  currency : JsString

/-- The payload of both rejection responses. -/
structure RejectedResponseEvtPayload where
  partyId : JsString
  partyType : JsString
  partySubType : JsString
  currency : JsString
  errorInformation : JsonText

structure ParticipantAssociationCreatedEvtPayload where
  partyId : JsString
  ownerFspId : JsString
  partyType : JsString
  partySubType : JsString
  extensions : JsonText

structure ParticipantAssociationRemovedEvtPayload where
  partyId : JsString
  ownerFspId : JsString
  partyType : JsString
  partySubType : JsString

/-- The payload of the error events about a message or its requester. -/
structure RequesterErrorPayload where
  partyId : JsString
  partyType : JsString
  partySubType : JsString
  requesterFspId : JsString
  errorCode : AccountLookupErrorCodeNames

/-- The payload of the error events about a destination participant. -/
structure DestinationErrorPayload where
  partyId : JsString
  partyType : JsString
  partySubType : JsString
  destinationFspId : JsString
  errorCode : AccountLookupErrorCodeNames

structure AccountLookUpUnableToGetParticipantFromOracleErrorPayload where
  partyId : JsString
  partySubType : JsString
  partyType : JsString
  currency : JsString
  errorCode : AccountLookupErrorCodeNames

structure AccountLookUpUnknownErrorPayload where
  partyId : JsString
  partyType : JsString
  currency : JsString
  requesterFspId : JsString
  errorCode : AccountLookupErrorCodeNames

structure AccountLookupBCUnableToGetOracleAdapterErrorPayload where
  partyId : JsString
  partyType : JsString
  currency : JsString
  errorCode : AccountLookupErrorCodeNames

structure AccountLookupBCUnableToAssociateParticipantErrorPayload where
  fspIdToAssociate : JsString
  partyType : JsString
  partyId : JsString
  currency : JsString
  errorCode : AccountLookupErrorCodeNames

structure AccountLookupBCUnableToDisassociateParticipantErrorPayload where
  fspIdToDisassociate : JsString
  partyId : JsString
  partyType : JsString
  currency : JsString
  errorCode : AccountLookupErrorCodeNames

/-- The events the aggregate publishes. -/
inductive DomainEvent
  -- the seven answers to a request that went through
  | partyInfoRequestedEvt (payload : PartyInfoRequestedEvtPayload)
  | partyQueryResponseEvt (payload : PartyQueryResponseEvtPayload)
  | participantQueryResponseEvt (payload : ParticipantQueryResponseEvtPayload)
  | partyRejectedResponseEvt (payload : RejectedResponseEvtPayload)
  | participantRejectedResponseEvt (payload : RejectedResponseEvtPayload)
  | participantAssociationCreatedEvt (payload : ParticipantAssociationCreatedEvtPayload)
  | participantAssociationRemovedEvt (payload : ParticipantAssociationRemovedEvtPayload)
  -- errors about the message
  | accountLookUpUnknownErrorEvent (payload : AccountLookUpUnknownErrorPayload)
  | accountLookupBCInvalidMessagePayloadErrorEvent (payload : RequesterErrorPayload)
  | accountLookupBCInvalidMessageTypeErrorEvent (payload : RequesterErrorPayload)
  -- errors about the requester
  | accountLookupBCInvalidRequesterParticipantErrorEvent (payload : RequesterErrorPayload)
  | accountLookupBCRequesterParticipantNotFoundErrorEvent (payload : RequesterErrorPayload)
  | accountLookupBCRequiredRequesterParticipantIdMismatchErrorEvent
      (payload : RequesterErrorPayload)
  | accountLookupBCRequiredRequesterParticipantIsNotApprovedErrorEvent
      (payload : RequesterErrorPayload)
  | accountLookupBCRequiredRequesterParticipantIsNotActiveErrorEvent
      (payload : RequesterErrorPayload)
  -- errors about the destination
  | accountLookupBCInvalidDestinationParticipantErrorEvent (payload : DestinationErrorPayload)
  | accountLookupBCDestinationParticipantNotFoundErrorEvent (payload : DestinationErrorPayload)
  | accountLookupBCRequiredDestinationParticipantIdMismatchErrorEvent
      (payload : DestinationErrorPayload)
  | accountLookupBCRequiredDestinationParticipantIsNotApprovedErrorEvent
      (payload : DestinationErrorPayload)
  | accountLookupBCRequiredDestinationParticipantIsNotActiveErrorEvent
      (payload : DestinationErrorPayload)
  -- errors about the oracle
  | accountLookUpUnableToGetParticipantFromOracleErrorEvent
      (payload : AccountLookUpUnableToGetParticipantFromOracleErrorPayload)
  | accountLookupBCUnableToGetOracleAdapterErrorEvent
      (payload : AccountLookupBCUnableToGetOracleAdapterErrorPayload)
  | accountLookupBCUnableToAssociateParticipantErrorEvent
      (payload : AccountLookupBCUnableToAssociateParticipantErrorPayload)
  | accountLookupBCUnableToDisassociateParticipantErrorEvent
      (payload : AccountLookupBCUnableToDisassociateParticipantErrorPayload)

/-- The request class that a success event answers; the other events are errors
and answer none. -/
def DomainEvent.answers : DomainEvent → Option RequestEvt
  | .partyInfoRequestedEvt _ => some .partyQueryReceivedEvt
  | .partyQueryResponseEvt _ => some .partyInfoAvailableEvt
  | .participantQueryResponseEvt _ => some .participantQueryReceivedEvt
  | .partyRejectedResponseEvt _ => some .partyRejectedEvt
  | .participantRejectedResponseEvt _ => some .participantRejectedEvt
  | .participantAssociationCreatedEvt _ => some .participantAssociationRequestReceivedEvt
  | .participantAssociationRemovedEvt _ => some .participantDisassociateRequestReceivedEvt
  | _ => none

namespace DomainEvent

/-- The class name, which an event carries as its `msgName`. -/
def msgName : DomainEvent → String
  | .partyInfoRequestedEvt _ => "PartyInfoRequestedEvt"
  | .partyQueryResponseEvt _ => "PartyQueryResponseEvt"
  | .participantQueryResponseEvt _ => "ParticipantQueryResponseEvt"
  | .partyRejectedResponseEvt _ => "PartyRejectedResponseEvt"
  | .participantRejectedResponseEvt _ => "ParticipantRejectedResponseEvt"
  | .participantAssociationCreatedEvt _ => "ParticipantAssociationCreatedEvt"
  | .participantAssociationRemovedEvt _ => "ParticipantAssociationRemovedEvt"
  | .accountLookUpUnknownErrorEvent _ => "AccountLookUpUnknownErrorEvent"
  | .accountLookupBCInvalidMessagePayloadErrorEvent _ =>
    "AccountLookupBCInvalidMessagePayloadErrorEvent"
  | .accountLookupBCInvalidMessageTypeErrorEvent _ => "AccountLookupBCInvalidMessageTypeErrorEvent"
  | .accountLookupBCInvalidRequesterParticipantErrorEvent _ =>
    "AccountLookupBCInvalidRequesterParticipantErrorEvent"
  | .accountLookupBCRequesterParticipantNotFoundErrorEvent _ =>
    "AccountLookupBCRequesterParticipantNotFoundErrorEvent"
  | .accountLookupBCRequiredRequesterParticipantIdMismatchErrorEvent _ =>
    "AccountLookupBCRequiredRequesterParticipantIdMismatchErrorEvent"
  | .accountLookupBCRequiredRequesterParticipantIsNotApprovedErrorEvent _ =>
    "AccountLookupBCRequiredRequesterParticipantIsNotApprovedErrorEvent"
  | .accountLookupBCRequiredRequesterParticipantIsNotActiveErrorEvent _ =>
    "AccountLookupBCRequiredRequesterParticipantIsNotActiveErrorEvent"
  | .accountLookupBCInvalidDestinationParticipantErrorEvent _ =>
    "AccountLookupBCInvalidDestinationParticipantErrorEvent"
  | .accountLookupBCDestinationParticipantNotFoundErrorEvent _ =>
    "AccountLookupBCDestinationParticipantNotFoundErrorEvent"
  | .accountLookupBCRequiredDestinationParticipantIdMismatchErrorEvent _ =>
    "AccountLookupBCRequiredDestinationParticipantIdMismatchErrorEvent"
  | .accountLookupBCRequiredDestinationParticipantIsNotApprovedErrorEvent _ =>
    "AccountLookupBCRequiredDestinationParticipantIsNotApprovedErrorEvent"
  | .accountLookupBCRequiredDestinationParticipantIsNotActiveErrorEvent _ =>
    "AccountLookupBCRequiredDestinationParticipantIsNotActiveErrorEvent"
  | .accountLookUpUnableToGetParticipantFromOracleErrorEvent _ =>
    "AccountLookUpUnableToGetParticipantFromOracleErrorEvent"
  | .accountLookupBCUnableToGetOracleAdapterErrorEvent _ =>
    "AccountLookupBCUnableToGetOracleAdapterErrorEvent"
  | .accountLookupBCUnableToAssociateParticipantErrorEvent _ =>
    "AccountLookupBCUnableToAssociateParticipantErrorEvent"
  | .accountLookupBCUnableToDisassociateParticipantErrorEvent _ =>
    "AccountLookupBCUnableToDisassociateParticipantErrorEvent"

/-- The party id in the payload of an event. -/
def partyId : DomainEvent → JsString
  | .partyInfoRequestedEvt payload => payload.partyId
  | .partyQueryResponseEvt payload => payload.partyId
  | .participantQueryResponseEvt payload => payload.partyId
  | .partyRejectedResponseEvt payload
  | .participantRejectedResponseEvt payload =>
    payload.partyId
  | .participantAssociationCreatedEvt payload => payload.partyId
  | .participantAssociationRemovedEvt payload => payload.partyId
  | .accountLookUpUnknownErrorEvent payload => payload.partyId
  | .accountLookupBCInvalidMessagePayloadErrorEvent payload
  | .accountLookupBCInvalidMessageTypeErrorEvent payload
  | .accountLookupBCInvalidRequesterParticipantErrorEvent payload
  | .accountLookupBCRequesterParticipantNotFoundErrorEvent payload
  | .accountLookupBCRequiredRequesterParticipantIdMismatchErrorEvent payload
  | .accountLookupBCRequiredRequesterParticipantIsNotApprovedErrorEvent payload
  | .accountLookupBCRequiredRequesterParticipantIsNotActiveErrorEvent payload =>
    payload.partyId
  | .accountLookupBCInvalidDestinationParticipantErrorEvent payload
  | .accountLookupBCDestinationParticipantNotFoundErrorEvent payload
  | .accountLookupBCRequiredDestinationParticipantIdMismatchErrorEvent payload
  | .accountLookupBCRequiredDestinationParticipantIsNotApprovedErrorEvent payload
  | .accountLookupBCRequiredDestinationParticipantIsNotActiveErrorEvent payload =>
    payload.partyId
  | .accountLookUpUnableToGetParticipantFromOracleErrorEvent payload => payload.partyId
  | .accountLookupBCUnableToGetOracleAdapterErrorEvent payload => payload.partyId
  | .accountLookupBCUnableToAssociateParticipantErrorEvent payload => payload.partyId
  | .accountLookupBCUnableToDisassociateParticipantErrorEvent payload => payload.partyId

/-- The party type in the payload of an event. -/
def partyType : DomainEvent → JsString
  | .partyInfoRequestedEvt payload => payload.partyType
  | .partyQueryResponseEvt payload => payload.partyType
  | .participantQueryResponseEvt payload => payload.partyType
  | .partyRejectedResponseEvt payload
  | .participantRejectedResponseEvt payload =>
    payload.partyType
  | .participantAssociationCreatedEvt payload => payload.partyType
  | .participantAssociationRemovedEvt payload => payload.partyType
  | .accountLookUpUnknownErrorEvent payload => payload.partyType
  | .accountLookupBCInvalidMessagePayloadErrorEvent payload
  | .accountLookupBCInvalidMessageTypeErrorEvent payload
  | .accountLookupBCInvalidRequesterParticipantErrorEvent payload
  | .accountLookupBCRequesterParticipantNotFoundErrorEvent payload
  | .accountLookupBCRequiredRequesterParticipantIdMismatchErrorEvent payload
  | .accountLookupBCRequiredRequesterParticipantIsNotApprovedErrorEvent payload
  | .accountLookupBCRequiredRequesterParticipantIsNotActiveErrorEvent payload =>
    payload.partyType
  | .accountLookupBCInvalidDestinationParticipantErrorEvent payload
  | .accountLookupBCDestinationParticipantNotFoundErrorEvent payload
  | .accountLookupBCRequiredDestinationParticipantIdMismatchErrorEvent payload
  | .accountLookupBCRequiredDestinationParticipantIsNotApprovedErrorEvent payload
  | .accountLookupBCRequiredDestinationParticipantIsNotActiveErrorEvent payload =>
    payload.partyType
  | .accountLookUpUnableToGetParticipantFromOracleErrorEvent payload => payload.partyType
  | .accountLookupBCUnableToGetOracleAdapterErrorEvent payload => payload.partyType
  | .accountLookupBCUnableToAssociateParticipantErrorEvent payload => payload.partyType
  | .accountLookupBCUnableToDisassociateParticipantErrorEvent payload => payload.partyType

/-- The participants named in the payload of an event. -/
def fspIds : DomainEvent → List JsString
  | .partyInfoRequestedEvt payload => [payload.requesterFspId, payload.destinationFspId]
  | .partyQueryResponseEvt payload =>
    [payload.requesterFspId, payload.destinationFspId, payload.ownerFspId]
  | .participantQueryResponseEvt payload => [payload.requesterFspId, payload.ownerFspId]
  | .partyRejectedResponseEvt _
  | .participantRejectedResponseEvt _ =>
    []
  | .participantAssociationCreatedEvt payload => [payload.ownerFspId]
  | .participantAssociationRemovedEvt payload => [payload.ownerFspId]
  | .accountLookUpUnknownErrorEvent payload => [payload.requesterFspId]
  | .accountLookupBCInvalidMessagePayloadErrorEvent payload
  | .accountLookupBCInvalidMessageTypeErrorEvent payload
  | .accountLookupBCInvalidRequesterParticipantErrorEvent payload
  | .accountLookupBCRequesterParticipantNotFoundErrorEvent payload
  | .accountLookupBCRequiredRequesterParticipantIdMismatchErrorEvent payload
  | .accountLookupBCRequiredRequesterParticipantIsNotApprovedErrorEvent payload
  | .accountLookupBCRequiredRequesterParticipantIsNotActiveErrorEvent payload =>
    [payload.requesterFspId]
  | .accountLookupBCInvalidDestinationParticipantErrorEvent payload
  | .accountLookupBCDestinationParticipantNotFoundErrorEvent payload
  | .accountLookupBCRequiredDestinationParticipantIdMismatchErrorEvent payload
  | .accountLookupBCRequiredDestinationParticipantIsNotApprovedErrorEvent payload
  | .accountLookupBCRequiredDestinationParticipantIsNotActiveErrorEvent payload =>
    [payload.destinationFspId]
  | .accountLookUpUnableToGetParticipantFromOracleErrorEvent _ => []
  | .accountLookupBCUnableToGetOracleAdapterErrorEvent _ => []
  | .accountLookupBCUnableToAssociateParticipantErrorEvent payload => [payload.fspIdToAssociate]
  | .accountLookupBCUnableToDisassociateParticipantErrorEvent payload =>
    [payload.fspIdToDisassociate]

end DomainEvent

/-- A published event with the correlation data of the message it answers. -/
structure DomainEventMsg where
  event : DomainEvent
  inboundProtocolType : JsString
  inboundProtocolOpaqueState : JsonText

end AccountLookup

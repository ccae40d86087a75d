/-
# The handlers of the remote oracle

The three handlers of the routes about a party, and the server's reply to `GET`. The two
handlers that change the oracle are behind the check of the field `fspId`; they pass on what
the body holds under that name.
-/

import AccountLookup.HttpOracleSvc.RemoteOracle
import AccountLookup.HttpOracleSvc.RemoteOracleRoutes
import AccountLookup.Implementations.HttpOracleProvider
import AccountLookup.Service.RequestValidation

namespace AccountLookup

/-- The body of a reply of the remote oracle. -/
inductive RemoteReplyBody
  /-- The text of the status. -/
  | statusText
  | fspId (fspId : JsString)
  | error (msg : String)
  | validationErrors
  | health (healthy : Bool)

/-- A reply of the remote oracle. -/
structure RemoteReply where
  status : ℕ
  body : RemoteReplyBody

/-- What the adapter reads of a reply. -/
def RemoteReply.response (reply : RemoteReply) : HttpResponse where
  status := reply.status
  fspId :=
    match reply.body with
    | .fspId fspId => fspId
    | _ => .undefined
  associations := []

/-- The HTTP library resolves with a reply of status 2xx and rejects any other. -/
def RemoteReply.settle (reply : RemoteReply) : Except JsError HttpResponse :=
  if 200 ≤ reply.status ∧ reply.status < 300 then .ok reply.response
  else .error ⟨.external, s!"Request failed with status code {reply.status}"⟩

/-- A request to one of the two routes that change the oracle. -/
structure ParticipantsRequest where
  partyType : String
  partyId : String
  /-- The text of what the query holds under a name. -/
  query : String → JsString
  /-- Where the request holds `fspId`. -/
  fspId : FieldLocations

/-- What the handler reads of the request. -/
def ParticipantsRequest.express (request : ParticipantsRequest) :
    RemoteOracleExpressRoutes.ExpressRequest where
  partyType := request.partyType
  partyId := request.partyId
  query := request.query
  fspId := .ofJson request.fspId.body

namespace RemoteOracleExpressRoutes

/-- The validation of both routes. -/
def validParticipants (request : ParticipantsRequest) : Bool := request.fspId.nonEmptyString

def errorReply (error : JsError) : RemoteReply := ⟨500, .error error.message⟩

def getParticipantFspId (req : ExpressRequest) (w : RemoteOracleWorld) :
    RemoteReply × RemoteOracleWorld :=
  let params := extractRequestParams req
  match RemoteOracle.getParticipantFspId params.partyType params.partyId params.partySubType
      params.currency w with
  | (.error error, w) => (errorReply error, w)
  | (.ok fetched, w) =>
    if fetched.truthy then (⟨200, .fspId fetched⟩, w) else (⟨404, .statusText⟩, w)

variable (oracle : RemoteOracle)

def disassociateParticipant (request : ParticipantsRequest) (w : RemoteOracleWorld) :
    RemoteReply × RemoteOracleWorld :=
  if validParticipants request then
    let params := extractRequestParams request.express
    match oracle.disassociateParticipant params.fspId params.partyType params.partyId
        params.partySubType params.currency w with
    | (.error error, w) => (errorReply error, w)
    | (.ok _, w) => (⟨200, .statusText⟩, w)
  else (⟨422, .validationErrors⟩, w)

def associateParticipant (request : ParticipantsRequest) (w : RemoteOracleWorld) :
    RemoteReply × RemoteOracleWorld :=
  if validParticipants request then
    let params := extractRequestParams request.express
    match oracle.associateParticipant params.fspId params.partyType params.partyId
        params.partySubType params.currency w with
    | (.error error, w) => (errorReply error, w)
    | (.ok _, w) => (⟨200, .statusText⟩, w)
  else (⟨422, .validationErrors⟩, w)

def healthCheck (w : RemoteOracleWorld) : RemoteReply × RemoteOracleWorld :=
  match RemoteOracle.healthCheck w with
  | (.error error, w) => (errorReply error, w)
  | (.ok fetched, w) => (⟨200, .health fetched⟩, w)

/-- The path of the health route. -/
def matchHealth (path : List Char) : Bool :=
  match path.splitOn '/' with
  | [] :: fixed :: rest =>
    fixed.map Char.toLower = "health".toList ∧ (rest = [] ∨ rest = [[]])
  | _ => false

variable {oracle} {w : RemoteOracleWorld}

theorem getParticipantFspId_snd (req : ExpressRequest) : (getParticipantFspId req w).2 = w := by
  unfold getParticipantFspId RemoteOracle.getParticipantFspId
  dsimp only
  cases w.associations.get (RemoteOracle.createKey _) with
  | none => rfl
  | some association =>
    dsimp only
    split <;> rfl

theorem associateParticipant_snd {request : ParticipantsRequest}
    (hvalid : validParticipants request = true) :
    let params := extractRequestParams request.express
    (associateParticipant oracle request w).2 =
      (oracle.associateParticipant params.fspId params.partyType params.partyId
        params.partySubType params.currency w).2 := by
  rw [associateParticipant, if_pos hvalid]
  dsimp only
  split
  · next hcall => rw [hcall]
  · next hcall => rw [hcall]

theorem disassociateParticipant_snd {request : ParticipantsRequest}
    (hvalid : validParticipants request = true) :
    let params := extractRequestParams request.express
    (disassociateParticipant oracle request w).2 =
      (oracle.disassociateParticipant params.fspId params.partyType params.partyId
        params.partySubType params.currency w).2 := by
  rw [disassociateParticipant, if_pos hvalid]
  dsimp only
  split
  · next hcall => rw [hcall]
  · next hcall => rw [hcall]

end RemoteOracleExpressRoutes

end AccountLookup

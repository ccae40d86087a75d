/-
# What valid requests carry

A valid request to change the remote oracle carries a non-empty participant id, and a valid
registration a non-empty name and party type, exactly when the body is one of the places
that define the field: the handlers read the body alone. A run of the remote oracle whose
requests are all like that stores non-empty participant ids only.
-/

import AccountLookup.HttpOracleSvc.Persistence
import AccountLookup.HttpOracleSvc.RouteHandlers
import AccountLookup.Service.OracleAdminRoutes

namespace AccountLookup

open Library Library.Transition

namespace OracleAdminExpressRoutes

/-- The oracle that a valid registration hands over has a non-empty name and party type. -/
def HandsOverNames (request : RegistrationRequest) : Prop :=
  validCreateOracle request.toCreateOracle = true →
    request.toCreateOracle.body.name.truthy = true ∧
      request.toCreateOracle.body.partyType.truthy = true

theorem handsOverNames_iff (request : RegistrationRequest) :
    HandsOverNames request ↔
      (validCreateOracle request.toCreateOracle = true →
        ¬ request.name.MissingInBody ∧ ¬ request.partyType.MissingInBody) := by
  unfold HandsOverNames
  refine imp_congr_right fun hvalid => ?_
  simp only [validCreateOracle, Bool.and_eq_true] at hvalid
  obtain ⟨⟨hname, -⟩, hpartyType⟩ := hvalid
  have hname : request.name.nonEmptyString = true := hname
  have hpartyType : request.partyType.nonEmptyString = true := hpartyType
  exact and_congr (FieldLocations.truthy_body_iff hname)
    (FieldLocations.truthy_body_iff hpartyType)

end OracleAdminExpressRoutes

/-- A request to one of the routes about a party. -/
inductive ParticipantsCall
  | associateParticipant (request : ParticipantsRequest)
  | disassociateParticipant (request : ParticipantsRequest)
  | getParticipantFspId (req : RemoteOracleExpressRoutes.ExpressRequest)

/-- A request, made while the file can or cannot be written. -/
structure ParticipantsStep where
  writeFails : Bool
  call : ParticipantsCall

namespace RemoteOracleExpressRoutes

/-- What a handler passes to the oracle as the participant is a non-empty string. -/
def PassesFspId (request : ParticipantsRequest) : Prop :=
  validParticipants request = true → (extractRequestParams request.express).fspId.truthy = true

theorem passesFspId_iff (request : ParticipantsRequest) :
    PassesFspId request ↔
      (validParticipants request = true → ¬ request.fspId.MissingInBody) := by
  refine imp_congr_right fun hvalid => ?_
  have htruthy : (extractRequestParams request.express).fspId.truthy =
      (JsString.ofJson request.fspId.body).truthy := JsString.truthy_orNull _
  rw [htruthy]
  exact FieldLocations.truthy_body_iff hvalid

/-- The same of the requests that change the oracle. -/
def CallPassesFspId : ParticipantsCall → Prop
  | .associateParticipant request => PassesFspId request
  | .disassociateParticipant request => PassesFspId request
  | .getParticipantFspId _ => True

/-- If the request changes the oracle and is valid, its body defines the participant. -/
def NamesFspIdInBody : ParticipantsCall → Prop
  | .associateParticipant request =>
    validParticipants request = true → ¬ request.fspId.MissingInBody
  | .disassociateParticipant request =>
    validParticipants request = true → ¬ request.fspId.MissingInBody
  | .getParticipantFspId _ => True

theorem callPassesFspId_iff (call : ParticipantsCall) :
    CallPassesFspId call ↔ NamesFspIdInBody call := by
  cases call with
  | associateParticipant request => exact passesFspId_iff request
  | disassociateParticipant request => exact passesFspId_iff request
  | getParticipantFspId req => exact Iff.rfl

/-- The records all have a non-empty participant. -/
def HaveFspId (records : List Association) : Prop :=
  ∀ association ∈ records, association.fspId.truthy = true

/-- Every association in the map and in the file has a non-empty participant. -/
structure StoresFspIds (w : RemoteOracleWorld) : Prop where
  inMemory : HaveFspId w.associations.values
  inFile : ∀ records, w.file = .document (some records) → HaveFspId records

variable (oracle : RemoteOracle)

/-- The oracle after a request. -/
def serve (w : RemoteOracleWorld) (a : ParticipantsStep) : RemoteOracleWorld :=
  let w := { w with writeFails := a.writeFails }
  match a.call with
  | .associateParticipant request => (associateParticipant oracle request w).2
  | .disassociateParticipant request => (disassociateParticipant oracle request w).2
  | .getParticipantFspId req => (getParticipantFspId req w).2

variable {oracle} {w : RemoteOracleWorld}

/-- Writing the file changes nothing in memory. -/
theorem StoresFspIds.saveToFile {associations : OrderedMap String Association}
    (h : StoresFspIds w) (hvalues : HaveFspId associations.values) :
    StoresFspIds (oracle.saveToFile { w with associations := associations } |>.2) := by
  unfold RemoteOracle.saveToFile
  split
  · exact ⟨hvalues, h.inFile⟩
  · refine ⟨hvalues, fun records hrecords => ?_⟩
    obtain rfl := Option.some.inj (OracleFile.document.inj hrecords)
    exact hvalues

/-- An association that was not there is stored with its participant. -/
theorem StoresFspIds.callAssociateParticipant (h : StoresFspIds w) {fspId : JsString}
    (hfsp : fspId.truthy = true) (partyType partyId partySubType currency : JsString) :
    StoresFspIds
      (oracle.associateParticipant fspId partyType partyId partySubType currency w).2 := by
  unfold RemoteOracle.associateParticipant
  dsimp only
  split
  · exact h
  · next hget =>
    apply h.saveToFile
    intro association hassociation
    rw [OrderedMap.values, OrderedMap.entries_set_of_get_eq_none hget, List.map_append,
      List.mem_append] at hassociation
    rcases hassociation with hold | hnew
    · exact h.inMemory association hold
    · rw [List.mem_singleton.mp hnew]
      exact hfsp

/-- A removal stores nothing. -/
theorem StoresFspIds.callDisassociateParticipant (h : StoresFspIds w)
    (fspId partyType partyId partySubType currency : JsString) :
    StoresFspIds
      (oracle.disassociateParticipant fspId partyType partyId partySubType currency w).2 := by
  unfold RemoteOracle.disassociateParticipant
  dsimp only
  split
  · split
    · apply h.saveToFile
      intro association hassociation
      apply h.inMemory
      exact (List.Sublist.map Prod.snd List.filter_sublist).subset hassociation
    · exact h
  · exact h

theorem StoresFspIds.associateParticipant (h : StoresFspIds w) {request : ParticipantsRequest}
    (hpasses : PassesFspId request) :
    StoresFspIds (associateParticipant oracle request w).2 := by
  by_cases hvalid : validParticipants request = true
  · rw [associateParticipant_snd hvalid]
    exact h.callAssociateParticipant (hpasses hvalid) _ _ _ _
  · rw [RemoteOracleExpressRoutes.associateParticipant, if_neg hvalid]
    exact h

theorem StoresFspIds.disassociateParticipant (h : StoresFspIds w) (request : ParticipantsRequest) :
    StoresFspIds (disassociateParticipant oracle request w).2 := by
  by_cases hvalid : validParticipants request = true
  · rw [disassociateParticipant_snd hvalid]
    exact h.callDisassociateParticipant _ _ _ _ _
  · rw [RemoteOracleExpressRoutes.disassociateParticipant, if_neg hvalid]
    exact h

/-- **One request.** -/
theorem StoresFspIds.serve (h : StoresFspIds w) {a : ParticipantsStep}
    (hpasses : CallPassesFspId a.call) : StoresFspIds (serve oracle w a) := by
  have hduring : StoresFspIds { w with writeFails := a.writeFails } := ⟨h.inMemory, h.inFile⟩
  obtain ⟨writeFails, call⟩ := a
  cases call with
  | associateParticipant request => exact hduring.associateParticipant hpasses
  | disassociateParticipant request => exact hduring.disassociateParticipant request
  | getParticipantFspId req =>
    show StoresFspIds (getParticipantFspId req { w with writeFails := writeFails }).2
    rw [getParticipantFspId_snd]
    exact hduring

/-- The start on a file reads no record that the file does not hold. -/
theorem storesFspIds_init {file : OracleFile}
    (hfile : ∀ records, file = .document (some records) → HaveFspId records) :
    StoresFspIds (oracle.init (.onFile file)).2 := by
  cases file with
  | absent | unreadable | empty => exact ⟨fun _ h => (by cases h), fun _ h => (by cases h)⟩
  | document content =>
    cases content with
    | none => exact ⟨fun _ h => (by cases h), fun _ h => (by cases h)⟩
    | some records =>
      refine ⟨?_, hfile⟩
      have hvalues : HaveFspId (RemoteOracle.loadRecords records).values := by
        rw [RemoteOracle.loadRecords_eq_collect]
        refine OrderedMap.forall_mem_values_collect _ fun association hassociation => ?_
        obtain ⟨record, hrecord, rfl⟩ := List.mem_map.mp hassociation
        exact hfile records rfl record hrecord
      exact hvalues

/-- **What valid requests carry, and what a run of them stores.** -/
theorem validRequests_iff (registration : RegistrationRequest) (request : ParticipantsRequest)
    (oracle : RemoteOracle) (file : OracleFile)
    (hfile : ∀ records, file = .document (some records) → HaveFspId records)
    (steps : List ParticipantsStep) :
    (OracleAdminExpressRoutes.HandsOverNames registration ↔
      (OracleAdminExpressRoutes.validCreateOracle registration.toCreateOracle = true →
        ¬ registration.name.MissingInBody ∧ ¬ registration.partyType.MissingInBody)) ∧
    (PassesFspId request ↔
      (validParticipants request = true → ¬ request.fspId.MissingInBody)) ∧
    (Along (serve oracle)
        (fun w a => CallPassesFspId a.call ∧ StoresFspIds (serve oracle w a))
        (oracle.init (.onFile file)).2 steps ↔
      Along (serve oracle) (fun _ a => NamesFspIdInBody a.call)
        (oracle.init (.onFile file)).2 steps) := by
  refine ⟨OracleAdminExpressRoutes.handsOverNames_iff registration, passesFspId_iff request, ?_⟩
  apply along_iff_of_exact StoresFspIds _ _ steps _ (storesFspIds_init hfile)
  · intro w a h
    rw [callPassesFspId_iff, and_iff_left_iff_imp, ← callPassesFspId_iff]
    exact h.serve
  · intro w a h hnames
    exact h.serve ((callPassesFspId_iff a.call).mpr hnames)

/-- A field that only the headers define. -/
def headerField (value : String) : FieldLocations := ⟨none, none, some (.string value), none, none⟩

/-- A field that only the body defines. -/
def bodyField (value : String) : FieldLocations := ⟨some (.string value), none, none, none, none⟩

/-- A request about a fixed party. -/
def sampleParticipantsRequest (fspId : FieldLocations) : ParticipantsRequest :=
  ⟨"MSISDN", "27713803912", fun _ => .undefined, fspId⟩

/-- A name in the headers alone makes a registration without a name valid, a participant in
the headers alone stores one that is `null`. -/
theorem not_forall_validRequests :
    (¬ ∀ request : RegistrationRequest, OracleAdminExpressRoutes.HandsOverNames request) ∧
    (¬ ∀ request : ParticipantsRequest, PassesFspId request) ∧
    ¬ ∀ (oracle : RemoteOracle) (file : OracleFile),
      (∀ records, file = .document (some records) → HaveFspId records) →
      ∀ steps : List ParticipantsStep,
        StoresFspIds (run (serve oracle) (oracle.init (.onFile file)).2 steps) := by
  refine ⟨fun h => ?_, fun h => ?_, fun h => ?_⟩
  · have hnames := h ⟨[], headerField "remote", bodyField "builtin", bodyField "MSISDN", none,
      none, none⟩ (by decide)
    exact absurd hnames.1 (by decide)
  · exact absurd (h (sampleParticipantsRequest (headerField "greenbank")) (by decide)) (by decide)
  · have hstores := h ⟨"associations.json"⟩ .absent (fun _ h => (by cases h))
      [⟨false, .associateParticipant (sampleParticipantsRequest (headerField "greenbank"))⟩]
    exact absurd (hstores.inMemory ⟨.null, .str "MSISDN", .str "27713803912", .null, .null⟩
      (List.mem_singleton.mpr rfl)) (by decide)

/-- Names and a participant in the body are handed over, passed on and stored. -/
theorem validRequests_body :
    OracleAdminExpressRoutes.HandsOverNames ⟨[], bodyField "remote", bodyField "builtin",
      bodyField "MSISDN", none, none, none⟩ ∧
    PassesFspId (sampleParticipantsRequest (bodyField "greenbank")) ∧
    Along (serve ⟨"associations.json"⟩)
      (fun w a => CallPassesFspId a.call ∧ StoresFspIds (serve ⟨"associations.json"⟩ w a))
      ((⟨"associations.json"⟩ : RemoteOracle).init (.onFile .absent)).2
      [⟨false, .associateParticipant (sampleParticipantsRequest (bodyField "greenbank"))⟩] := by
  have hbody : ∀ value, ¬ (bodyField value).MissingInBody := fun value h => (by cases h)
  obtain ⟨hnames, hpasses, hstores⟩ := validRequests_iff
    ⟨[], bodyField "remote", bodyField "builtin", bodyField "MSISDN", none, none, none⟩
    (sampleParticipantsRequest (bodyField "greenbank")) ⟨"associations.json"⟩ .absent
    (fun _ h => (by cases h))
    [⟨false, .associateParticipant (sampleParticipantsRequest (bodyField "greenbank"))⟩]
  refine ⟨hnames.mpr fun _ => ⟨hbody "remote", hbody "MSISDN"⟩,
    hpasses.mpr fun _ => hbody "greenbank", hstores.mpr ⟨fun _ => hbody "greenbank", trivial⟩⟩

end RemoteOracleExpressRoutes

end AccountLookup

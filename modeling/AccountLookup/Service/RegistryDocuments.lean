/-
# Oracles as they are posted and stored

The checks in front of a registration look at the name, the type and the party type, and its
body is handed on as it arrived. The id, the currency and the endpoint may be any JSON value,
and the registry stores what was posted. An id is looked up in the database by a query and
compared with the ids of the loaded adapters by `===`, which an array or an object read from
the registry never passes.
-/

import AccountLookup.Service.OracleAdminRoutes
import AccountLookup.Service.RegistryRuns

namespace AccountLookup

/-- What a document of the registry holds of an oracle. -/
structure OracleDocument where
  id : JsonValue
  name : JsString
  type : OracleType
  partyType : JsString
  currency : Option JsonValue
  endpoint : Option JsonValue

/-- How a database query compares a stored property with the one asked for. Of values other
than strings nothing is assumed: an array may hold the item that is searched for, an object
query operators. A query that the database rejects is a call that fails. -/
structure DocumentMatching where
  selects : (stored wanted : Option JsonValue) → Bool
  selects_declared : ∀ stored wanted : JsString,
    selects stored.toJson wanted.toJson = fieldMatches stored wanted

/-- The operator `===` on properties, one of which may be left out. -/
def strictlyEqual : Option JsonValue → Option JsonValue → Bool
  | none, none => true
  | some first, some second => first.strictEquals second
  | _, _ => false

namespace RegistrationRequest

variable (oracle : RegistrationRequest)

/-- The id under which the oracle is registered: any truthy one given, or a new one. -/
def registeredId (randomUUID : String) : JsonValue :=
  match oracle.id.filter JsonValue.truthy with
  | some id => id
  | none => .string randomUUID

/-- The oracle that is registered. A built-in one has no endpoint. -/
def newOracle (randomUUID : String) : OracleDocument where
  id := oracle.registeredId randomUUID
  name := oracle.toCreateOracle.body.name
  type := oracle.toCreateOracle.body.type
  partyType := oracle.toCreateOracle.body.partyType
  currency := oracle.currency
  endpoint := if oracle.toCreateOracle.body.type = .builtin then some .null else oracle.endpoint

end RegistrationRequest

namespace OracleDocument

variable (oracle : OracleDocument)

/-- The factory. The adapter is known by its oracle. -/
def create : Except JsError OracleDocument :=
  match oracle.type with
  | .other _ =>
    .error ⟨.oracleTypeNotSupportedError,
      s!"Oracle type {oracle.type.toJs.toText} not supported"⟩
  | _ => .ok oracle

/-- The initialisation of the adapter. -/
def initAdapter (outage : Outage) : Except JsError Unit :=
  match oracle.type with
  | .remoteHttp =>
    if oracle.endpoint.any JsonValue.truthy then .ok ()
    else .error ⟨.unableToInitRemoteOracleProvider, "No endpoint defined for oracle"⟩
  | _ =>
    match outage.builtin .mongoConnect with
    | some message =>
      .error ⟨.unableToInitOracleProvider, s!"Unable to connect to the database: {message}"⟩
    | none =>
      match outage.builtin .redisConnect with
      | some message => .error ⟨.external, message⟩
      | none => .ok ()

end OracleDocument

/-- A running service: the documents of the registry, and the oracles whose adapters are
loaded. -/
structure DocumentService where
  documents : List OracleDocument
  adapters : List OracleDocument

namespace DocumentService

/-- The ids that are strings. -/
def stringIds (s : DocumentService) : List String :=
  s.documents.filterMap fun oracle =>
    match oracle.id with
    | .string id => some id
    | _ => none

variable (matching : DocumentMatching) (outage : Outage) (s : DocumentService)

def getOracleById (id : JsonValue) : Except JsError (Option OracleDocument) :=
  match outage.finder .findById with
  | some message => .error ⟨.unableToGetOracleError, s!"Unable to get oracle by id: {message}"⟩
  | none => .ok (s.documents.find? fun oracle => matching.selects (some oracle.id) (some id))

def getOracleByName (name : JsString) : Except JsError (Option OracleDocument) :=
  match outage.finder .findByName with
  | some message => .error ⟨.unableToGetOracleError, s!"Unable to get oracle by name: {message}"⟩
  | none => .ok (s.documents.find? fun oracle => fieldMatches oracle.name name)

/-- The query for an oracle that is already present. -/
def samePresent (oracle stored : OracleDocument) : Bool :=
  fieldMatches stored.partyType oracle.partyType &&
    stored.type = oracle.type &&
    matching.selects (some stored.id) (some oracle.id) &&
    fieldMatches stored.name oracle.name &&
    matching.selects stored.endpoint oracle.endpoint

/-- The insertion into the registry. -/
def insertOracle (oracle : OracleDocument) : Except JsError DocumentService :=
  match outage.finder .findPresent with
  | some message => .error ⟨.unableToGetOracleError, s!"Unable to get oracle: {message}"⟩
  | none =>
    match s.documents.find? (samePresent matching oracle) with
    | some _ =>
      .error ⟨.oracleAlreadyRegisteredError, s!"Oracle already present: {oracle.id.toText}"⟩
    | none =>
      match outage.finder .insertOne with
      | some message =>
        .error ⟨.unableToRegisterOracleError, s!"Unable to insert oracle: {message}"⟩
      | none => .ok { s with documents := s.documents ++ [oracle] }

/-- The search for an oracle with the id that a request names. -/
def findNamedOracle (oracle : RegistrationRequest) : Except JsError (Option OracleDocument) :=
  match oracle.id.filter JsonValue.truthy with
  | some id => s.getOracleById matching outage id
  | none => .ok none

def addOracle (oracle : RegistrationRequest) (randomUUID : String) :
    Except JsError JsonValue × DocumentService :=
  match s.findNamedOracle matching outage oracle with
  | .error error => (.error error, s)
  | .ok (some _) =>
    let id := (oracle.id.map JsonValue.toText).getD "undefined"
    (.error ⟨.duplicateOracleError, s!"Oracle with id {id} already exists"⟩, s)
  | .ok none =>
    match s.getOracleByName outage oracle.toCreateOracle.body.name with
    | .error error => (.error error, s)
    | .ok (some _) =>
      (.error ⟨.duplicateOracleError,
        s!"Oracle with name {oracle.toCreateOracle.body.name.toText} already exists"⟩, s)
    | .ok none =>
      match (oracle.newOracle randomUUID).create with
      | .error error => (.error error, s)
      | .ok addedOracleProvider =>
        match s.insertOracle matching outage (oracle.newOracle randomUUID) with
        | .error error => (.error error, s)
        | .ok s =>
          match addedOracleProvider.initAdapter outage with
          | .error error => (.error error, s)
          | .ok _ =>
            (.ok (oracle.newOracle randomUUID).id,
              { s with adapters := s.adapters ++ [addedOracleProvider] })

def removeOracle (id : String) : Except JsError Unit × DocumentService :=
  match s.getOracleById matching outage (.string id) with
  | .error error => (.error error, s)
  | .ok none =>
    (.error ⟨.oracleNotFoundError, s!"Oracle does not exist for given id {id}"⟩, s)
  | .ok (some _) =>
    -- The deletion asks what the search has just found, so it finds it too.
    match outage.finder .deleteOne with
    | some message =>
      (.error ⟨.unableToRemoveOracleError,
        s!"Unable to remove oracle with id {id} Unable to delete oracle: {message}"⟩, s)
    | none =>
      (.ok (),
        { documents := s.documents.eraseP fun oracle =>
            matching.selects (some oracle.id) (some (.string id))
          adapters := s.adapters.filter fun oracle => !oracle.id.strictEquals (.string id) })

/-- The loop of the start-up. -/
def loadAdapters : List OracleDocument → DocumentService → Except JsError Unit × DocumentService
  | [], s => (.ok (), s)
  | oracle :: oracles, s =>
    match oracle.create with
    | .error error => (.error error, s)
    | .ok oracleAdapter =>
      match oracleAdapter.initAdapter outage with
      | .error error => (.error error, s)
      | .ok _ => loadAdapters oracles { s with adapters := s.adapters ++ [oracleAdapter] }

/-- The start-up. -/
def init : Except JsError Unit × DocumentService :=
  match outage.finder .connect with
  | some message =>
    (.error ⟨.unableToInitOracleFinderError, s!"Unable to connect to the database: {message}"⟩, s)
  | none =>
    match outage.finder .find with
    | some message =>
      (.error ⟨.unableToGetOracleError, s!"Unable to get all oracles: {message}"⟩, s)
    | none => loadAdapters outage s.documents s

/-- The oracles of a party type, one with the very currency asked for first. -/
def selectOracle (partyType currency : JsString) : Option OracleDocument :=
  let oracles := s.documents.filter fun oracle => fieldMatches oracle.partyType partyType
  let mappedOraclesWithCurrency :=
    oracles.filter fun oracle => strictlyEqual oracle.currency currency.toJson
  let mappedOraclesWithoutCurrency :=
    oracles.filter fun oracle => !strictlyEqual oracle.currency currency.toJson
  mappedOraclesWithCurrency.head?.or mappedOraclesWithoutCurrency.head?

def getOracle (partyType currency : JsString) : Except JsError OracleDocument :=
  match outage.finder .findByPartyType with
  | some message => .error ⟨.unableToGetOracleError, s!"Unable to get oracle: {message}"⟩
  | none =>
    match s.selectOracle partyType currency with
    | some oracle => .ok oracle
    | none =>
      .error ⟨.noSuchOracleError,
        s!"Oracle with partyType {partyType.toText}  and currency {currency.toText} not found"⟩

def getOracleAdapter (partyType currency : JsString) : Except JsError OracleDocument :=
  match s.getOracle outage partyType currency with
  | .error _ =>
    .error ⟨.unableToGetOracleFromOracleFinderError,
      s!"Unable to get oracle for partyType: {partyType.toText} " ++
        s!"and currency: {currencyText currency}"⟩
  | .ok oracle =>
    match s.adapters.find? fun adapter => adapter.id.strictEquals oracle.id with
    | some oracleAdapter => .ok oracleAdapter
    | none =>
      .error ⟨.noSuchOracleAdapterError,
        s!"Oracle adapter for {partyType.toText} " ++
          s!"and id: {oracle.id.toText} not present in oracle list"⟩

/-- The registration gets as far as the registry: no oracle is found with its id or its name,
its kind is supported, and the database calls succeed. -/
structure Stores (oracle : RegistrationRequest) (randomUUID : String) : Prop where
  idFree : s.findNamedOracle matching outage oracle = .ok none
  nameFree : s.getOracleByName outage oracle.toCreateOracle.body.name = .ok none
  supported : ∀ value, oracle.toCreateOracle.body.type ≠ .other value
  findPresent : outage.finder .findPresent = none
  notPresent : s.documents.find? (samePresent matching (oracle.newOracle randomUUID)) = none
  insertOne : outage.finder .insertOne = none

/-- The removal finds the oracle, and the database calls succeed. -/
structure Deletes (id : String) : Prop where
  found : ∃ oracle, s.getOracleById matching outage (.string id) = .ok (some oracle)
  deleteOne : outage.finder .deleteOne = none

theorem create_cases (oracle : OracleDocument) :
    ((∀ value, oracle.type ≠ .other value) ∧ oracle.create = .ok oracle) ∨
      (∃ value, oracle.type = .other value) ∧ ∃ error, oracle.create = .error error := by
  unfold OracleDocument.create
  cases htype : oracle.type with
  | builtin => exact Or.inl ⟨fun value h => (by cases h), rfl⟩
  | remoteHttp => exact Or.inl ⟨fun value h => (by cases h), rfl⟩
  | other value => exact Or.inr ⟨⟨value, rfl⟩, _, rfl⟩

theorem insertOracle_cases (oracle : RegistrationRequest) (randomUUID : String)
    (hidFree : s.findNamedOracle matching outage oracle = .ok none)
    (hnameFree : s.getOracleByName outage oracle.toCreateOracle.body.name = .ok none)
    (hsupported : ∀ value, oracle.toCreateOracle.body.type ≠ .other value) :
    (s.Stores matching outage oracle randomUUID ∧
        s.insertOracle matching outage (oracle.newOracle randomUUID) =
          .ok { s with documents := s.documents ++ [oracle.newOracle randomUUID] }) ∨
      ¬ s.Stores matching outage oracle randomUUID ∧ ∃ error,
        s.insertOracle matching outage (oracle.newOracle randomUUID) = .error error := by
  unfold insertOracle
  cases hpresent : outage.finder .findPresent with
  | some message => exact Or.inr ⟨fun h => (by cases hpresent.symm.trans h.findPresent), _, rfl⟩
  | none =>
    cases hfind : s.documents.find? (samePresent matching (oracle.newOracle randomUUID)) with
    | some found => exact Or.inr ⟨fun h => (by cases hfind.symm.trans h.notPresent), _, rfl⟩
    | none =>
      cases hinsert : outage.finder .insertOne with
      | some message => exact Or.inr ⟨fun h => (by cases hinsert.symm.trans h.insertOne), _, rfl⟩
      | none => exact Or.inl ⟨⟨hidFree, hnameFree, hsupported, hpresent, hfind, hinsert⟩, rfl⟩

/-- **A registration** appends the oracle, whether or not its adapter can be loaded, or changes
nothing. -/
theorem addOracle_cases (oracle : RegistrationRequest) (randomUUID : String) :
    (s.Stores matching outage oracle randomUUID ∧
        (s.addOracle matching outage oracle randomUUID).2.documents =
          s.documents ++ [oracle.newOracle randomUUID]) ∨
      ¬ s.Stores matching outage oracle randomUUID ∧
        (s.addOracle matching outage oracle randomUUID).2 = s := by
  unfold addOracle
  cases hnamed : s.findNamedOracle matching outage oracle with
  | error error => exact Or.inr ⟨fun h => (by cases hnamed.symm.trans h.idFree), rfl⟩
  | ok named =>
    cases named with
    | some found => exact Or.inr ⟨fun h => (by cases hnamed.symm.trans h.idFree), rfl⟩
    | none =>
      cases hname : s.getOracleByName outage oracle.toCreateOracle.body.name with
      | error error => exact Or.inr ⟨fun h => (by cases hname.symm.trans h.nameFree), rfl⟩
      | ok named =>
        cases named with
        | some found => exact Or.inr ⟨fun h => (by cases hname.symm.trans h.nameFree), rfl⟩
        | none =>
          rcases create_cases (oracle.newOracle randomUUID) with
            ⟨hsupported, hcreate⟩ | ⟨⟨value, hother⟩, error, hcreate⟩
          · rcases s.insertOracle_cases matching outage oracle randomUUID hnamed hname
              hsupported with ⟨hstores, hinsert⟩ | ⟨hnot, error, hinsert⟩
            · refine Or.inl ⟨hstores, ?_⟩
              simp only [hcreate, hinsert]
              cases (oracle.newOracle randomUUID).initAdapter outage <;> rfl
            · refine Or.inr ⟨hnot, ?_⟩
              simp only [hcreate, hinsert]
          · refine Or.inr ⟨fun h => h.supported value hother, ?_⟩
            simp only [hcreate]

/-- **A removal** takes the first oracle away that the id selects, or changes nothing. -/
theorem removeOracle_cases (id : String) :
    (s.Deletes matching outage id ∧
        (s.removeOracle matching outage id).2.documents = s.documents.eraseP fun oracle =>
          matching.selects (some oracle.id) (some (.string id))) ∨
      ¬ s.Deletes matching outage id ∧ (s.removeOracle matching outage id).2 = s := by
  unfold removeOracle
  cases hget : s.getOracleById matching outage (.string id) with
  | error error =>
    refine Or.inr ⟨fun h => ?_, rfl⟩
    obtain ⟨oracle, hfound⟩ := h.found
    cases hget.symm.trans hfound
  | ok found =>
    cases found with
    | none =>
      refine Or.inr ⟨fun h => ?_, rfl⟩
      obtain ⟨oracle, hfound⟩ := h.found
      cases hget.symm.trans hfound
    | some oracle =>
      cases hdelete : outage.finder .deleteOne with
      | some message => exact Or.inr ⟨fun h => (by cases hdelete.symm.trans h.deleteOne), rfl⟩
      | none => exact Or.inl ⟨⟨⟨oracle, hget⟩, hdelete⟩, rfl⟩

end DocumentService

end AccountLookup

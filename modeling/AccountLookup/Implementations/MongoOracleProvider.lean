/-
# The built-in oracle

Associations live in a MongoDB collection shared by all built-in adapters, with
a Redis cache of answered lookups in front of it. Documents are kept in insertion
order, `findOne` and `deleteOne` act on the first match, and a query object
constrains only the properties it carries: the source deletes the sub type and
the currency from it when they are empty, which turns them into wildcards. Each
database or cache call may fail, with an error text of its own.
-/

import AccountLookup.Domain.Interfaces
import AccountLookup.Library.TtlCache

namespace AccountLookup

open Library

/-- A query object. A property the object does not carry is `none`. -/
structure LookupQuery where
  fspId : Option JsString
  partyType : Option JsString
  partyId : Option JsString
  partySubType : Option JsString
  currency : Option JsString

namespace LookupQuery

/-- Whether a document satisfies every property the query carries. -/
def satisfiedBy (query : LookupQuery) (document : Association) : Bool :=
  query.fspId.all (fieldMatches document.fspId) &&
    query.partyType.all (fieldMatches document.partyType) &&
    query.partyId.all (fieldMatches document.partyId) &&
    query.partySubType.all (fieldMatches document.partySubType) &&
    query.currency.all (fieldMatches document.currency)

/-- How a property is stored: one the object lacks stays missing, and `undefined`
is stored as `null`. -/
def storedField : Option JsString → JsString
  | none => .undefined
  | some value => value.orNull

/-- The document that inserting the object stores. -/
def toDocument (query : LookupQuery) : Association where
  fspId := storedField query.fspId
  partyType := storedField query.partyType
  partyId := storedField query.partyId
  partySubType := storedField query.partySubType
  currency := storedField query.currency

end LookupQuery

/-- A property that is deleted from a query object when it is falsy. -/
def deleteIfFalsy (value : JsString) : Option JsString :=
  if value.truthy then some value else none

/-- The database and cache calls that the adapter makes. -/
inductive BuiltinCall
  | mongoConnect
  | mongoClose
  | ping
  | findOne
  | insertOne
  | deleteOne
  | find
  /-- The page of a search. -/
  | findPage
  /-- All that a search finds. -/
  | findMatching
  | aggregate
  | redisConnect
  | redisGet
  | redisSetex
  | redisDel
  deriving DecidableEq

/-- The collection, the cache, the clock, for each call the error text with which it
fails now, if it does, and how the database matches a regular expression, case ignored. -/
structure BuiltinWorld (T : Type) where
  parties : List Association
  cache : TtlCache String Association T
  now : T
  failure : BuiltinCall → Option String
  matchesRegex : (regex : String) → JsString → Bool

/-- The built-in adapter of an oracle. -/
structure MongoOracleProviderRepo (T : Type) where
  oracle : Oracle
  redisCacheDurationSecs : T

namespace MongoOracleProviderRepo

variable {T : Type}

def init : Call (BuiltinWorld T) Unit := fun w =>
  match w.failure .mongoConnect with
  | some message =>
    (.error ⟨.unableToInitOracleProvider, s!"Unable to connect to the database: {message}"⟩, w)
  | none =>
    match w.failure .redisConnect with
    | some message => (.error ⟨.external, message⟩, w)
    | none => (.ok (), w)

def destroy : Call (BuiltinWorld T) Unit := fun w =>
  match w.failure .mongoClose with
  | some message =>
    (.error ⟨.unableToCloseDatabaseConnectionError,
      s!"Unable to close database connection: {message}"⟩, w)
  | none => (.ok (), w)

/-- The ping's outcome is discarded: its `catch` returns `false` to nobody. -/
def healthCheck : Call (BuiltinWorld T) Bool := fun w =>
  let _pinged : Bool := (w.failure .ping).isNone
  (.ok true, w)

def redisKeyPrefix : String := "mongoOracleProviderRepo"

def getKeyWithPrefix (partyType partyId partySubType currency : JsString) : String :=
  s!"{redisKeyPrefix}_{partyType.toText}_{partyId.toText}_{partySubType.toText}_{currency.toText}"

variable (repo : MongoOracleProviderRepo T)

def getFromCache [LinearOrder T] (partyType partyId partySubType currency : JsString) :
    Call (BuiltinWorld T) (Option Association) := fun w =>
  match w.failure .redisGet with
  | some message => (.error ⟨.external, message⟩, w)
  | none =>
    (.ok (w.cache.get w.now (getKeyWithPrefix partyType partyId partySubType currency)), w)

def setToCache [Add T] (record : Association) : Call (BuiltinWorld T) Unit := fun w =>
  match w.failure .redisSetex with
  | some message => (.error ⟨.external, message⟩, w)
  | none =>
    (.ok (), { w with
      cache := w.cache.setex
        (getKeyWithPrefix record.partyType record.partyId record.partySubType record.currency)
        record (w.now + repo.redisCacheDurationSecs) })

def delFromCache (record : Association) : Call (BuiltinWorld T) Unit := fun w =>
  match w.failure .redisDel with
  | some message => (.error ⟨.external, message⟩, w)
  | none =>
    (.ok (), { w with
      cache := w.cache.del
        (getKeyWithPrefix record.partyType record.partyId record.partySubType record.currency) })

/-- The query of a lookup: any participant, empty optional properties left open. -/
def lookupQuery (partyType partyId partySubType currency : JsString) : LookupQuery where
  fspId := none
  partyType := some partyType
  partyId := some partyId
  partySubType := deleteIfFalsy partySubType
  currency := deleteIfFalsy currency

def getParticipantFspId [LinearOrder T] [Add T]
    (partyType partyId partySubType currency : JsString) :
    Call (BuiltinWorld T) JsString := fun w =>
  match getFromCache partyType partyId partySubType currency w with
  | (.error error, w) => (.error error, w)
  | (.ok (some cacheData), w) => (.ok cacheData.fspId, w)
  | (.ok none, w) =>
    match w.failure .findOne with
    | some message =>
      (.error ⟨.unableToGetParticipantError,
        s!"Unable to get participant for partyType {partyType.toText} " ++
          s!"partyId {partyId.toText} and currency {currency.toText}: {message}"⟩, w)
    | none =>
      match w.parties.find? (lookupQuery partyType partyId partySubType currency).satisfiedBy with
      | none => (.ok .null, w)
      | some data =>
        match repo.setToCache ⟨data.fspId, partyType, partyId, partySubType, currency⟩ w with
        | (.error error, w) => (.error error, w)
        | (.ok _, w) => (.ok data.fspId, w)

def buildLookupQuery (partyId fspId partyType partySubType currency : JsString) :
    LookupQuery where
  fspId := some fspId
  partyType := some partyType
  partyId := some partyId
  partySubType := deleteIfFalsy partySubType
  currency := deleteIfFalsy currency

def associateParticipant [Add T] (fspId partyType partyId partySubType currency : JsString) :
    Call (BuiltinWorld T) Unit := fun w =>
  let query := buildLookupQuery partyId fspId partyType partySubType currency
  match w.failure .findOne with
  | some message => (.error ⟨.external, message⟩, w)
  | none =>
    match w.parties.find? query.satisfiedBy with
    | some _ =>
      (.error ⟨.participantAssociationAlreadyExistsError,
        s!"Participant association already exists for partyType {partyType.toText} " ++
          s!"partyId {partyId.toText} and currency {currency.toText}"⟩, w)
    | none =>
      match w.failure .insertOne with
      | some message =>
        (.error ⟨.unableToAssociateParticipantError,
          s!"Unable to store participant association for partyType {partyType.toText} " ++
            s!"partyId {partyId.toText}, currency {currency.toText}: {message}"⟩, w)
      | none =>
        repo.setToCache ⟨fspId, partyType, partyId, partySubType, currency⟩
          { w with parties := w.parties ++ [query.toDocument] }

def disassociateParticipant (fspId partyType partyId partySubType currency : JsString) :
    Call (BuiltinWorld T) Unit := fun w =>
  let query := buildLookupQuery partyId fspId partyType partySubType currency
  match w.failure .deleteOne with
  | some message =>
    (.error ⟨.unableToDisassociateParticipantError,
      s!"Unable to delete participant association for partyType {partyType.toText} " ++
        s!"partyId {partyId.toText}, currency {currency.toText}: {message}"⟩, w)
  | none =>
    delFromCache ⟨fspId, partyType, partyId, partySubType, currency⟩
      { w with parties := w.parties.eraseP query.satisfiedBy }

/-- The body of the loop over the documents: the sub type is not copied. -/
def listedAssociation (association : Association) : Association where
  fspId := association.fspId.orNull
  partyType := association.partyType.orNull
  partyId := association.partyId.orNull
  partySubType := .undefined
  currency := association.currency.orNull

def getAllAssociations : Call (BuiltinWorld T) (List Association) := fun w =>
  match w.failure .find with
  | some message =>
    (.error ⟨.unableToGetAssociationError, s!"Unable to get associations: {message}"⟩, w)
  | none =>
    (.ok (w.parties.map listedAssociation), w)

def MAX_ENTRIES_PER_PAGE : ℤ := 100

/-- A condition of a search, present when the search names a value for it. -/
def searchCondition (value : JsString) (condition : String → Bool) : Bool :=
  value.nonEmpty?.all condition

/-- The filter of a search. The party id and the sub type are regular expressions. -/
def searchFilter (w : BuiltinWorld T) (fspId partyId partyType partySubType currency : JsString)
    (document : Association) : Bool :=
  searchCondition fspId (fun value => fieldMatches document.fspId (.str value)) &&
    searchCondition partyId (fun regex => w.matchesRegex regex document.partyId) &&
    searchCondition partyType (fun value => fieldMatches document.partyType (.str value)) &&
    searchCondition partySubType (fun regex => w.matchesRegex regex document.partySubType) &&
    searchCondition currency (fun value => fieldMatches document.currency (.str value))

/-- The options of the query for a page. No document carries the date to sort by. -/
structure PageOptions where
  skip : JsNumber
  limit : ℕ

/-- The limits that the page size and the page index are kept within. -/
def clampPageSize (pageSize : Option JsNumber) : JsNumber :=
  (pageSize.getD (.int MAX_ENTRIES_PER_PAGE)).min (.int MAX_ENTRIES_PER_PAGE)

def clampPageIndex (pageIndex : Option JsNumber) : JsNumber :=
  (pageIndex.getD (.int 0)).max (.int 0)

def pageOptions (pageIndex pageSize : Option JsNumber) : PageOptions where
  skip := (clampPageIndex pageIndex).mul (clampPageSize pageSize)
  limit := 20

/-- The documents left after a skip. -/
def skipped {α : Type} (skip : JsNumber) (documents : List α) : List α :=
  match skip with
  | .int value => documents.drop value.toNat
  | .infinity true => []
  | _ => documents

/-- The documents that the query for a page answers with. -/
def findPage {α : Type} (options : PageOptions) (documents : List α) : List α :=
  (skipped options.skip documents).take options.limit

/-- The results of a search. A failure is caught, and what has been collected up to
there is returned. -/
def searchResults (w : BuiltinWorld T) (fspId partyId partyType partySubType currency : JsString)
    (pageIndex pageSize : Option JsNumber) : AssociationsSearchResults :=
  let matching :=
    w.parties.filter (searchFilter w fspId partyId partyType partySubType currency)
  let result := findPage (pageOptions pageIndex pageSize) matching
  let searchResults : AssociationsSearchResults :=
    { pageSize := clampPageSize pageSize
      pageIndex := clampPageIndex pageIndex
      totalPages := .int 0
      items := [] }
  match w.failure .findPage, w.failure .findMatching with
  | some _, _ => searchResults
  | none, some _ => { searchResults with items := result }
  | none, none =>
    { searchResults with
      items := result
      totalPages := JsNumber.ceilDiv matching.length (clampPageSize pageSize)
      pageSize := (clampPageSize pageSize).max (.int result.length) }

def searchAssociations (fspId partyId partyType partySubType currency : JsString)
    (pageIndex pageSize : Option JsNumber) :
    Call (BuiltinWorld T) (Except JsError AssociationsSearchResults) := fun w =>
  (.ok (.ok (searchResults w fspId partyId partyType partySubType currency pageIndex pageSize)), w)

/-- Each group of the aggregation adds its terms to three lists, and the three lists
once more to the result. The groups come here in the order of their first documents. -/
def getSearchKeywords : Call (BuiltinWorld T) (Except JsError (List SearchKeywords)) := fun w =>
  match w.failure .aggregate with
  | some _ => (.ok (.ok []), w)
  | none =>
    let groups := (w.parties.map fun association =>
      (association.partyType, association.currency, association.fspId)).eraseDups
    let keywords : List SearchKeywords :=
      [⟨"partyType", (groups.map fun group => group.1).eraseDups⟩,
        ⟨"currency", (groups.map fun group => group.2.1).eraseDups⟩,
        ⟨"fspId", (groups.map fun group => group.2.2).eraseDups⟩]
    (.ok (.ok (groups.flatMap fun _ => keywords)), w)

/-- The repository as an adapter. -/
def adapter [LinearOrder T] [Add T] : IOracleProviderAdapter (BuiltinWorld T) where
  oracleId := repo.oracle.id
  type := .builtin
  init := init
  destroy := destroy
  healthCheck := healthCheck
  getParticipantFspId := repo.getParticipantFspId
  associateParticipant := repo.associateParticipant
  disassociateParticipant := disassociateParticipant
  getAllAssociations := getAllAssociations
  searchAssociations := searchAssociations
  getSearchKeywords := getSearchKeywords

end MongoOracleProviderRepo

end AccountLookup

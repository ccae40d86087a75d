/-
# The oracle registry

The registry is a MongoDB collection of oracles. Documents are kept in insertion
order, `findOne` and `deleteOne` act on the first match, and a property given as
`null` or left out matches one that is `null` or missing. Each database call may
fail, with an error text of its own and without an effect.
-/

import AccountLookup.Domain.Interfaces

namespace AccountLookup

/-- The database calls that the finder makes, one for each place. -/
inductive FinderCall
  | connect
  | close
  /-- The search of `addOracle` for the oracle it is to insert. -/
  | findPresent
  | insertOne
  | deleteOne
  | find
  | findById
  | findByName
  | findByPartyType
  deriving DecidableEq

/-- The collection, and for each call the error text with which it fails now, if
it does. -/
structure FinderWorld where
  oracles : List Oracle
  failure : FinderCall → Option String

namespace MongoOracleFinderRepo

def init : Call FinderWorld Unit := fun w =>
  match w.failure .connect with
  | some message =>
    (.error ⟨.unableToInitOracleFinderError, s!"Unable to connect to the database: {message}"⟩, w)
  | none => (.ok (), w)

def destroy : Call FinderWorld Unit := fun w =>
  match w.failure .close with
  | some message =>
    (.error ⟨.unableToCloseDatabaseConnectionError,
      s!"Unable to close the database connection: {message}"⟩, w)
  | none => (.ok (), w)

/-- The query for an oracle that is already present; the currency is not in it. -/
def samePresent (oracle stored : Oracle) : Bool :=
  fieldMatches stored.partyType oracle.partyType &&
    stored.type = oracle.type &&
    stored.id = oracle.id &&
    fieldMatches stored.name oracle.name &&
    fieldMatches stored.endpoint oracle.endpoint

def addOracle (oracle : Oracle) : Call FinderWorld Unit := fun w =>
  match w.failure .findPresent with
  | some message => (.error ⟨.unableToGetOracleError, s!"Unable to get oracle: {message}"⟩, w)
  | none =>
    match w.oracles.find? (samePresent oracle) with
    | some _ =>
      (.error ⟨.oracleAlreadyRegisteredError, s!"Oracle already present: {oracle.id}"⟩, w)
    | none =>
      match w.failure .insertOne with
      | some message =>
        (.error ⟨.unableToRegisterOracleError, s!"Unable to insert oracle: {message}"⟩, w)
      | none => (.ok (), { w with oracles := w.oracles ++ [oracle] })

def removeOracle (id : String) : Call FinderWorld Unit := fun w =>
  match w.failure .deleteOne with
  | some message => (.error ⟨.unableToDeleteOracleError, s!"Unable to delete oracle: {message}"⟩, w)
  | none =>
    match w.oracles.find? (fun oracle => oracle.id = id) with
    | some _ => (.ok (), { w with oracles := w.oracles.eraseP fun oracle => oracle.id = id })
    | none => (.error ⟨.noSuchOracleError, s!"Oracle with id {id} not found"⟩, w)

def getAllOracles : Call FinderWorld (List Oracle) := fun w =>
  match w.failure .find with
  | some message => (.error ⟨.unableToGetOracleError, s!"Unable to get all oracles: {message}"⟩, w)
  | none => (.ok w.oracles, w)

def getOracleById (id : String) : Call FinderWorld (Option Oracle) := fun w =>
  match w.failure .findById with
  | some message =>
    (.error ⟨.unableToGetOracleError, s!"Unable to get oracle by id: {message}"⟩, w)
  | none => (.ok (w.oracles.find? fun oracle => oracle.id = id), w)

def getOracleByName (name : JsString) : Call FinderWorld (Option Oracle) := fun w =>
  match w.failure .findByName with
  | some message =>
    (.error ⟨.unableToGetOracleError, s!"Unable to get oracle by name: {message}"⟩, w)
  | none => (.ok (w.oracles.find? fun oracle => fieldMatches oracle.name name), w)

/-- The oracles of a party type, one with the very currency asked for first. -/
def getOracle (partyType currency : JsString) : Call FinderWorld (Option Oracle) := fun w =>
  match w.failure .findByPartyType with
  | some message => (.error ⟨.unableToGetOracleError, s!"Unable to get oracle: {message}"⟩, w)
  | none =>
    let oracles := w.oracles.filter fun oracle => fieldMatches oracle.partyType partyType
    let mappedOraclesWithCurrency := oracles.filter fun oracle => oracle.currency = currency
    let mappedOraclesWithoutCurrency := oracles.filter fun oracle => oracle.currency ≠ currency
    match mappedOraclesWithCurrency.head?.or mappedOraclesWithoutCurrency.head? with
    | some oracle => (.ok (some oracle), w)
    | none =>
      (.error ⟨.noSuchOracleError,
        s!"Oracle with partyType {partyType.toText}  and currency {currency.toText} not found"⟩, w)

/-- The repository as a finder. -/
def finder : IOracleFinder FinderWorld where
  init := init
  destroy := destroy
  addOracle := addOracle
  removeOracle := removeOracle
  getAllOracles := getAllOracles
  getOracleById := getOracleById
  getOracleByName := getOracleByName
  getOracle := getOracle

/-- The search leaves the registry alone. -/
theorem registry_getOracle (partyType currency : JsString) (w : FinderWorld) :
    (getOracle partyType currency w).2 = w := by
  unfold getOracle
  split
  · rfl
  · dsimp only
    split <;> rfl

/-- An oracle that the finder returns is registered. -/
theorem mem_of_getOracle {partyType currency : JsString} {w w' : FinderWorld} {oracle : Oracle}
    (h : getOracle partyType currency w = (.ok (some oracle), w')) : oracle ∈ w.oracles := by
  unfold getOracle at h
  split at h
  · cases h
  · dsimp only at h
    split at h
    · next hhead =>
      obtain rfl := Option.some.inj (Except.ok.inj (Prod.mk.inj h).1)
      rcases Option.or_eq_some_iff.mp hhead with hwith | ⟨-, hwithout⟩
      · exact (List.mem_filter.mp (List.mem_filter.mp (List.mem_of_mem_head? hwith)).1).1
      · exact (List.mem_filter.mp (List.mem_filter.mp (List.mem_of_mem_head? hwithout)).1).1
    · cases h

end MongoOracleFinderRepo

end AccountLookup

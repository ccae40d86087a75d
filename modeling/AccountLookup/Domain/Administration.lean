/-
# The account lookup aggregate: oracles and their administration

Start-up, shutdown, and the registration and removal of oracles. These change the
list of loaded adapters, so each yields the aggregate it leaves behind beside its
outcome and the world.
-/

import AccountLookup.Domain.Aggregate

namespace AccountLookup

namespace AccountLookupAggregate

variable {W : Type}

/-- The loop of the start-up: build, initialise and keep the adapter of each
oracle in turn, until one of them fails. -/
def loadAdapters : AccountLookupAggregate W → List Oracle →
    W → Except JsError Unit × AccountLookupAggregate W × W
  | agg, [], w => (.ok (), agg, w)
  | agg, oracle :: oracles, w =>
    match agg.oracleProvidersFactory.create oracle w with
    | (.error error, w) => (.error error, agg, w)
    | (.ok oracleAdapter, w) =>
      match oracleAdapter.init w with
      | (.error error, w) => (.error error, agg, w)
      | (.ok _, w) =>
        loadAdapters
          { agg with oracleProvidersAdapters := agg.oracleProvidersAdapters ++ [oracleAdapter] }
          oracles w

def init (agg : AccountLookupAggregate W) (w : W) :
    Except JsError Unit × AccountLookupAggregate W × W :=
  match agg.oracleFinder.init w with
  | (.error error, w) => (.error error, agg, w)
  | (.ok _, w) =>
    match agg.oracleFinder.getAllOracles w with
    | (.error error, w) => (.error error, agg, w)
    | (.ok oracles, w) => agg.loadAdapters oracles w

/-- Destroy the adapters in turn, until one of them fails. -/
def destroyAdapters : List (IOracleProviderAdapter W) → Call W Unit
  | [], w => (.ok (), w)
  | oracle :: adapters, w =>
    match oracle.destroy w with
    | (.error error, w) => (.error error, w)
    | (.ok _, w) => destroyAdapters adapters w

def destroy (agg : AccountLookupAggregate W) : Call W Unit := fun w =>
  match agg.oracleFinder.destroy w with
  | (.error error, w) => (.error error, w)
  | (.ok _, w) => destroyAdapters agg.oracleProvidersAdapters w

/-- The id under which an oracle is registered: the one given, or a new one. -/
def registeredId (oracle : AddOracleDTO) (randomUUID : String) : String :=
  match oracle.id.nonEmpty? with
  | some id => id
  | none => randomUUID

/-- The oracle that is registered. A built-in one has no endpoint. -/
def newOracle (oracle : AddOracleDTO) (randomUUID : String) : Oracle where
  id := registeredId oracle randomUUID
  name := oracle.name
  type := oracle.type
  partyType := oracle.partyType
  currency := oracle.currency
  endpoint := if oracle.type = .builtin then .null else oracle.endpoint

/-- The search for an oracle with the id that a request names. -/
def findNamedOracle (agg : AccountLookupAggregate W) (oracle : AddOracleDTO) :
    Call W (Option Oracle) := fun w =>
  match oracle.id.nonEmpty? with
  | some id => agg.oracleFinder.getOracleById id w
  | none => (.ok none, w)

/-- Register an oracle; `randomUUID` is what that function returns if it is
called. -/
def addOracle (agg : AccountLookupAggregate W) (oracle : AddOracleDTO) (randomUUID : String)
    (w : W) : Except JsError String × AccountLookupAggregate W × W :=
  match agg.findNamedOracle oracle w with
  | (.error error, w) => (.error error, agg, w)
  | (.ok (some _), w) =>
    (.error ⟨.duplicateOracleError, s!"Oracle with id {oracle.id.toText} already exists"⟩, agg, w)
  | (.ok none, w) =>
    match agg.oracleFinder.getOracleByName oracle.name w with
    | (.error error, w) => (.error error, agg, w)
    | (.ok (some _), w) =>
      (.error ⟨.duplicateOracleError,
        s!"Oracle with name {oracle.name.toText} already exists"⟩, agg, w)
    | (.ok none, w) =>
      match agg.oracleProvidersFactory.create (newOracle oracle randomUUID) w with
      | (.error error, w) => (.error error, agg, w)
      | (.ok addedOracleProvider, w) =>
        match agg.oracleFinder.addOracle (newOracle oracle randomUUID) w with
        | (.error error, w) => (.error error, agg, w)
        | (.ok _, w) =>
          match addedOracleProvider.init w with
          | (.error error, w) => (.error error, agg, w)
          | (.ok _, w) =>
            (.ok (newOracle oracle randomUUID).id,
              { agg with oracleProvidersAdapters :=
                  agg.oracleProvidersAdapters ++ [addedOracleProvider] }, w)

def removeOracle (agg : AccountLookupAggregate W) (id : String) (w : W) :
    Except JsError Unit × AccountLookupAggregate W × W :=
  match agg.oracleFinder.getOracleById id w with
  | (.error error, w) => (.error error, agg, w)
  | (.ok none, w) =>
    (.error ⟨.oracleNotFoundError, s!"Oracle does not exist for given id {id}"⟩, agg, w)
  | (.ok (some _), w) =>
    match agg.oracleFinder.removeOracle id w with
    | (.error error, w) =>
      (.error ⟨.unableToRemoveOracleError,
        s!"Unable to remove oracle with id {id} {error.message}"⟩, agg, w)
    | (.ok _, w) =>
      (.ok (), { agg with oracleProvidersAdapters :=
        agg.oracleProvidersAdapters.filter fun o => o.oracleId ≠ id }, w)

end AccountLookupAggregate

end AccountLookup

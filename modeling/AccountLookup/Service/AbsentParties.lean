/-
# Parties that an oracle does not hold

A lookup that comes to an oracle is to tell a party without an association from a failure,
whichever kind the oracle is. The built-in oracle answers `null` for such a party. The
remote oracle's route answers `404`, which the HTTP library turns into a rejection and the
adapter into an error, so the lookup reports a failure.
-/

import AccountLookup.HttpOracleSvc.RemoteOracleRuns
import AccountLookup.HttpOracleSvc.RouteHandlers
import AccountLookup.HttpOracleSvc.WireFormat
import AccountLookup.Implementations.BuiltinRuns
import AccountLookup.Service.AccountLookupRoutes
import AccountLookup.Service.RegistryRuns

namespace AccountLookup

open Library

namespace RemoteOracleExpressRoutes

/-- The URL leads to the handler, and the oracle has a participant under the key of what the
handler reads from it. -/
def Finds (url : String) (w : RemoteOracleWorld) : Prop :=
  matchHealth (UrlText.before '?' url.toList) = false ∧
    ∃ handler req association, receive ⟨.get, url, .undefined⟩ = some (handler, req) ∧
      w.associations.get (RemoteOracle.createKey (extractRequestParams req)) = some association ∧
      association.fspId.truthy = true

variable {oracle : Oracle} {party : Party} {w : RemoteOracleWorld}

end RemoteOracleExpressRoutes

namespace AccountLookupAggregate

open RemoteOracleExpressRoutes (urlOf sampleRemoteOracle)

variable {W : Type} (agg : AccountLookupAggregate W)

variable {agg} {party : Party} {w w' : W} {adapter : IOracleProviderAdapter W} {held : Prop}

/-- An aggregate in which every party is routed to one adapter. -/
def routedTo (adapter : IOracleProviderAdapter W) (oracle : Oracle) :
    AccountLookupAggregate W where
  oracleFinder :=
    { init := fun w => (.ok (), w)
      destroy := fun w => (.ok (), w)
      addOracle := fun _ w => (.ok (), w)
      removeOracle := fun _ w => (.ok (), w)
      getAllOracles := fun w => (.ok [oracle], w)
      getOracleById := fun _ w => (.ok (some oracle), w)
      getOracleByName := fun _ w => (.ok (some oracle), w)
      getOracle := fun _ _ w => (.ok (some oracle), w) }
  oracleProvidersFactory := ⟨fun _ w => (.error ⟨.oracleTypeNotSupportedError, ""⟩, w)⟩
  participantService := ⟨fun _ w => (.ok none, w)⟩
  oracleProvidersAdapters := [adapter]

end AccountLookupAggregate

end AccountLookup

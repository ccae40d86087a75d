/-
# The adapter factory and the world of a service

A running service reaches three things: the oracle registry, the stores of the
built-in oracle, and everything else, which the remote oracles and the participant
service are part of. The factory builds adapters that live in their component of
that world.
-/

import AccountLookup.Domain.Administration
import AccountLookup.Implementations.HttpOracleProvider
import AccountLookup.Implementations.MongoOracleFinder
import AccountLookup.Implementations.MongoOracleProvider

namespace AccountLookup

/-- The world that a service runs in. -/
structure ServiceWorld (T R : Type) where
  finder : FinderWorld
  builtin : BuiltinWorld T
  remote : R

namespace ServiceWorld

variable {T R : Type}

def finderPart : Component (ServiceWorld T R) FinderWorld where
  get w := w.finder
  set w finder := { w with finder := finder }
  get_set _ _ := rfl
  set_get _ := rfl

def builtinPart : Component (ServiceWorld T R) (BuiltinWorld T) where
  get w := w.builtin
  set w builtin := { w with builtin := builtin }
  get_set _ _ := rfl
  set_get _ := rfl

def remotePart : Component (ServiceWorld T R) R where
  get w := w.remote
  set w remote := { w with remote := remote }
  get_set _ _ := rfl
  set_get _ := rfl

end ServiceWorld

/-- The settings that the factory passes on, and the HTTP library. -/
structure OracleAdapterFactory (T R : Type) where
  redisCacheDurationSecs : T
  axios : HttpClient R

namespace OracleAdapterFactory

variable {T R : Type} [LinearOrder T] [Add T] (settings : OracleAdapterFactory T R)

def create (oracle : Oracle) :
    Call (ServiceWorld T R) (IOracleProviderAdapter (ServiceWorld T R)) := fun w =>
  match oracle.type with
  | .builtin =>
    (.ok ((MongoOracleProviderRepo.adapter ⟨oracle, settings.redisCacheDurationSecs⟩).on
      ServiceWorld.builtinPart), w)
  | .remoteHttp =>
    (.ok ((HttpOracleProvider.adapter ⟨oracle, settings.axios⟩).on ServiceWorld.remotePart), w)
  | .other _ =>
    (.error ⟨.oracleTypeNotSupportedError,
      s!"Oracle type {oracle.type.toJs.toText} not supported"⟩, w)

/-- A freshly constructed aggregate of the service. -/
def aggregate (participantService : IParticipantServiceAdapter R) :
    AccountLookupAggregate (ServiceWorld T R) where
  oracleFinder := MongoOracleFinderRepo.finder.on ServiceWorld.finderPart
  oracleProvidersFactory := ⟨settings.create⟩
  participantService := participantService.on ServiceWorld.remotePart
  oracleProvidersAdapters := []

end OracleAdapterFactory

end AccountLookup

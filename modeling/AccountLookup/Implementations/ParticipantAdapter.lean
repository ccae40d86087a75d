/-
# The adapter of the participant service

The participants live in a service of their own, which the aggregate reaches through a
client. The adapter in between turns every error of the client into the answer that the
participant is not known.
-/

import AccountLookup.Domain.Interfaces

namespace AccountLookup

/-- The client of the participant service. -/
structure ParticipantsHttpClient (W : Type) where
  getParticipantById : (fspId : String) → Call W (Option IParticipant)

structure ParticipantAdapter (W : Type) where
  externalParticipantClient : ParticipantsHttpClient W

namespace ParticipantAdapter

variable {W : Type} (participants : ParticipantAdapter W)

def getParticipantInfo (fspId : String) : Call W (Option IParticipant) := fun w =>
  match participants.externalParticipantClient.getParticipantById fspId w with
  | (.ok result, w) => (.ok result, w)
  | (.error _, w) => (.ok none, w)

/-- The adapter as the participant service of an aggregate. -/
def adapter : IParticipantServiceAdapter W := ⟨participants.getParticipantInfo⟩

end ParticipantAdapter

end AccountLookup

/-
# Built-in and remote oracles are interchangeable

Both kinds of oracle keep the directory of ordinary parties. So whoever uses one of them
for such parties, and asks for no party that belongs to another participant, learns
nothing that the other one would not have told as well, whatever their caches, their
clocks and the restarts of the remote service do meanwhile.
-/

import AccountLookup.HttpOracleSvc.RemoteDirectory
import AccountLookup.Implementations.BuiltinDirectory

namespace AccountLookup

open Library Library.Transition

/-- The calls of a run. -/
def callsOf {W : Type} (inputs : List (OracleInput W)) : List PartyCall :=
  inputs.filterMap fun
    | .call request => some request
    | .background _ => none

theorem map_fst_transcript {W : Type} (adapter : IOracleProviderAdapter W)
    (inputs : List (OracleInput W)) (w : W) :
    (transcript adapter w inputs).map Prod.fst = callsOf inputs := by
  induction inputs generalizing w with
  | nil => rfl
  | cons input inputs ih =>
    cases input with
    | call request => exact congrArg (request :: ·) (ih _)
    | background change => exact ih _

/-- What is allowed depends on the calls alone. -/
theorem along_allowed_iff {W : Type} {Kind : Party → Prop} {Background : (W → W) → Prop}
    (inputs : List (OracleInput W)) (d : Directory) :
    Along OracleInput.follow (OracleInput.Allowed Kind Background) d inputs ↔
      Along Directory.after
          (fun d call => Kind call.party ∧ call.NamesParticipant ∧ d.Orderly call)
          d (callsOf inputs) ∧
        ∀ change, OracleInput.background change ∈ inputs → Background change := by
  induction inputs generalizing d with
  | nil => exact iff_of_true trivial ⟨trivial, fun _ h => (by cases h)⟩
  | cons input inputs ih =>
    rw [along_cons, ih]
    cases input with
    | call request =>
      simp only [List.mem_cons, reduceCtorEq, false_or]
      exact and_assoc.symm
    | background change =>
      simp only [List.mem_cons, OracleInput.background.injEq, forall_eq_or_imp]
      exact and_left_comm

/-- **Interchangeable oracles.** Let the same calls on ordinary parties be made of a built-in
oracle and, through its client and server, of a remote one, both fresh, such that no
participant asks for a party of another one. Then they take the same parties, and every lookup
names the same owner. -/
theorem sayTheSame_builtin_remote {T : Type} [LinearOrder T] [Add T] [CanonicallyOrderedAdd T]
    (repo : MongoOracleProviderRepo T) (now : T) (server : RemoteOracleServer) (oracle : Oracle)
    (inputs : List (OracleInput (BuiltinWorld T))) (inputs' : List (OracleInput RemoteOracleWorld))
    (hcalls : callsOf inputs = callsOf inputs')
    (horderly : Along Directory.after
      (fun d call => call.party.IsOrdinary ∧ call.NamesParticipant ∧ d.Orderly call)
      Directory.empty (callsOf inputs))
    (hbuiltin : ∀ change, OracleInput.background change ∈ inputs →
      MongoOracleProviderRepo.CacheChange change)
    (hremote : ∀ change, OracleInput.background change ∈ inputs' → change = server.restarted) :
    List.Forall₂ (fun a b => a.1 = b.1 ∧ SayTheSame a.1 a.2 b.2)
      (transcript repo.adapter (BuiltinWorld.empty now) inputs)
      (transcript (server.adapterTo oracle) RemoteOracleWorld.fresh inputs') := by
  have hfirst := (MongoOracleProviderRepo.keepsDirectory_adapter repo
      MongoOracleProviderRepo.separated_isOrdinary).explains inputs _ _
    (MongoOracleProviderRepo.representsDirectory_empty _ now)
    ((along_allowed_iff inputs _).mpr ⟨horderly, hbuiltin⟩)
  have hsecond := (RemoteOracleServer.keepsDirectory_adapterTo server oracle
      RemoteOracleServer.addressed_isOrdinary).explains inputs' _ _
    (RemoteOracleServer.representsDirectory_fresh _)
    ((along_allowed_iff inputs' _).mpr ⟨hcalls ▸ horderly, hremote⟩)
  refine sayTheSame_of_explains hfirst hsecond ?_
  rw [map_fst_transcript, map_fst_transcript, hcalls]

/-- A number that is taken, looked up and given up, with the cache emptied on one side and the
service restarted on the other. -/
def sampleRemoteInputs : List (OracleInput RemoteOracleWorld) :=
  [.call (.associateParticipant "greenbank" samplePhoneNumber),
    .background RemoteOracleServer.sampleServer.restarted,
    .call (.getParticipantFspId samplePhoneNumber),
    .call (.associateParticipant "greenbank" samplePhoneNumber),
    .call (.disassociateParticipant "greenbank" samplePhoneNumber)]

theorem sayTheSame_sample :
    List.Forall₂ (fun a b => a.1 = b.1 ∧ SayTheSame a.1 a.2 b.2)
      (transcript sampleRepo.adapter (BuiltinWorld.empty 0)
        MongoOracleProviderRepo.samplePartyInputs)
      (transcript (RemoteOracleServer.sampleServer.adapterTo
        RemoteOracleExpressRoutes.sampleRemoteOracle) RemoteOracleWorld.fresh
        sampleRemoteInputs) := by
  have hparty := samplePhoneNumber_isOrdinary
  have hnamed : "greenbank" ≠ "" := by decide
  refine sayTheSame_builtin_remote sampleRepo 0
    RemoteOracleServer.sampleServer RemoteOracleExpressRoutes.sampleRemoteOracle _ _ rfl
    ⟨⟨hparty, hnamed, Or.inl rfl⟩, ⟨hparty, trivial, trivial⟩, ⟨hparty, hnamed, Or.inr rfl⟩,
      ⟨hparty, hnamed, trivial⟩, trivial⟩ (fun change hchange => ?_) fun change hchange => ?_
  · simp only [MongoOracleProviderRepo.samplePartyInputs, List.mem_cons, reduceCtorEq, false_or,
      OracleInput.background.injEq, List.not_mem_nil, or_false] at hchange
    rcases hchange with rfl | rfl
    · exact .expire _
    · exact .wait 20
  · simp only [sampleRemoteInputs, List.mem_cons, reduceCtorEq, false_or,
      OracleInput.background.injEq, List.not_mem_nil, or_false] at hchange
    exact hchange

end AccountLookup

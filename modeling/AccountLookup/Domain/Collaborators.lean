/-
# What the collaborators have to answer

The aggregate asks the participant service about the participants of a request, the
finder for the oracle of a party and the adapter of that oracle for the owner. What
counts as a good answer is stated for each of them as a step from one world to the
next, and the matching method of the aggregate is shown to go on exactly then.
-/

import Mathlib.Tactic.SplitIfs
import AccountLookup.Domain.Aggregate

namespace AccountLookup

namespace AccountLookupAggregate

variable {W : Type} (agg : AccountLookupAggregate W)

/-- The participant service, asked for a non-empty id, answers with a participant
of exactly that id that is approved and active. -/
def ParticipantPasses (participantId : JsString) (w w' : W) : Prop :=
  ∃ id participant, participantId = .str id ∧ id ≠ "" ∧
    agg.participantService.getParticipantInfo id w = (.ok (some participant), w') ∧
    participant.id = id ∧ participant.approved = true ∧ participant.isActive = true

/-- The finder answers with an oracle whose adapter is the one given. -/
def RoutesTo (partyType currency : JsString) (adapter : IOracleProviderAdapter W)
    (w w' : W) : Prop :=
  ∃ oracle, agg.oracleFinder.getOracle partyType currency w = (.ok (some oracle), w') ∧
    agg.oracleProvidersAdapters.find? (fun a => a.oracleId = oracle.id) = some adapter

/-- The adapter of the routed oracle answers with a non-empty participant id. -/
def OracleAnswers (partyId partyType partySubType currency fspId : JsString)
    (w w' : W) : Prop :=
  ∃ adapter w₁, agg.RoutesTo partyType currency adapter w w₁ ∧
    adapter.getParticipantFspId partyType partyId partySubType currency w₁ = (.ok fspId, w') ∧
    fspId.truthy = true

variable {agg}

theorem participantPasses_orNull {participantId : JsString} {w w' : W} :
    agg.ParticipantPasses participantId.orNull w w' ↔
      agg.ParticipantPasses participantId w w' := by
  cases participantId with
  | undefined => simp [ParticipantPasses]
  | null => rfl
  | str id => rfl

theorem participantPasses_str {id : String} {w w' : W} :
    agg.ParticipantPasses (.str id) w w' ↔ id ≠ "" ∧ ∃ participant,
      agg.participantService.getParticipantInfo id w = (.ok (some participant), w') ∧
      participant.id = id ∧ participant.approved = true ∧ participant.isActive = true := by
  constructor
  · rintro ⟨_, participant, hid, hne, hpasses⟩
    obtain rfl := JsString.str.inj hid
    exact ⟨hne, participant, hpasses⟩
  · rintro ⟨hne, participant, hpasses⟩
    exact ⟨id, participant, rfl, hne, hpasses⟩

/-- Either the participant passes and the validator is silent, or it reports one
of its faults. -/
theorem validateParticipantInfoOrGetErrorEvent_cases
    (errorEvent : ParticipantFault → DomainEvent) (participantId : JsString) (w : W) :
    (∃ w', agg.validateParticipantInfoOrGetErrorEvent errorEvent participantId w = (none, w') ∧
        agg.ParticipantPasses participantId w w') ∨
      ∃ fault w', agg.validateParticipantInfoOrGetErrorEvent errorEvent participantId w =
          (some (errorEvent fault), w') ∧
        ∀ w'', ¬ agg.ParticipantPasses participantId w w'' := by
  cases participantId with
  | undefined => exact Or.inr ⟨.missingId, w, rfl, by simp [ParticipantPasses]⟩
  | null => exact Or.inr ⟨.missingId, w, rfl, by simp [ParticipantPasses]⟩
  | str id =>
    by_cases hid : id = ""
    · exact Or.inr ⟨.missingId, w, by simp [validateParticipantInfoOrGetErrorEvent, hid],
        by simp [participantPasses_str, hid]⟩
    rcases hcall : agg.participantService.getParticipantInfo id w with ⟨_ | _ | participant, w'⟩
    · exact Or.inr ⟨.serviceError, w',
        by simp [validateParticipantInfoOrGetErrorEvent, hid, hcall],
        by simp [participantPasses_str, hcall]⟩
    · exact Or.inr ⟨.notFound, w',
        by simp [validateParticipantInfoOrGetErrorEvent, hid, hcall],
        by simp [participantPasses_str, hcall]⟩
    by_cases hmatch : participant.id = id
    · cases happroved : participant.approved with
      | false =>
        exact Or.inr ⟨.notApproved, w',
          by simp [validateParticipantInfoOrGetErrorEvent, hid, hcall, hmatch, happroved],
          by simp [participantPasses_str, hcall, happroved]⟩
      | true =>
        cases hactive : participant.isActive with
        | false =>
          exact Or.inr ⟨.notActive, w',
            by simp [validateParticipantInfoOrGetErrorEvent, hid, hcall, hmatch, happroved,
              hactive],
            by simp [participantPasses_str, hcall, hactive]⟩
        | true =>
          exact Or.inl ⟨w',
            by simp [validateParticipantInfoOrGetErrorEvent, hid, hcall, hmatch, happroved,
              hactive],
            id, participant, rfl, hid, hcall, hmatch, happroved, hactive⟩
    · exact Or.inr ⟨.idMismatch, w',
        by simp [validateParticipantInfoOrGetErrorEvent, hid, hcall, hmatch],
        by simp [participantPasses_str, hcall, hmatch]⟩

variable (agg) in
/-- The validators reach the world through the participant service alone. -/
theorem validateParticipantInfoOrGetErrorEvent_snd (errorEvent : ParticipantFault → DomainEvent)
    (participantId : JsString) (w : W) :
    (agg.validateParticipantInfoOrGetErrorEvent errorEvent participantId w).2 = w ∨
      ∃ id, (agg.validateParticipantInfoOrGetErrorEvent errorEvent participantId w).2 =
        (agg.participantService.getParticipantInfo id w).2 := by
  cases participantId with
  | undefined => exact Or.inl rfl
  | null => exact Or.inl rfl
  | str id =>
    by_cases hid : id = ""
    · exact Or.inl (by simp [validateParticipantInfoOrGetErrorEvent, hid])
    · refine Or.inr ⟨id, ?_⟩
      simp only [validateParticipantInfoOrGetErrorEvent, hid, if_false]
      rcases agg.participantService.getParticipantInfo id w with ⟨_ | _ | participant, w'⟩
      · rfl
      · rfl
      · dsimp only
        split_ifs <;> rfl

/-- A participant that passes leaves the service in one definite world. -/
theorem ParticipantPasses.unique {participantId : JsString} {w first second : W}
    (hfirst : agg.ParticipantPasses participantId w first)
    (hsecond : agg.ParticipantPasses participantId w second) : first = second := by
  obtain ⟨id, p, rfl, _, hcall, _⟩ := hfirst
  obtain ⟨id', p', hid, _, hcall', _⟩ := hsecond
  obtain rfl := JsString.str.inj hid
  exact congrArg Prod.snd (hcall.symm.trans hcall')

/-- Routing either finds the adapter or throws. -/
theorem getOracleAdapter_cases (partyType currency : JsString) (w : W) :
    (∃ adapter w', agg.getOracleAdapter partyType currency w = (.ok adapter, w') ∧
        agg.RoutesTo partyType currency adapter w w') ∨
      ∃ error w', agg.getOracleAdapter partyType currency w = (.error error, w') ∧
        ∀ adapter w'', ¬ agg.RoutesTo partyType currency adapter w w'' := by
  rcases hcall : agg.oracleFinder.getOracle partyType currency w with ⟨_ | _ | oracle, w'⟩
  · exact Or.inr ⟨_, w', by rw [getOracleAdapter, hcall], by simp [RoutesTo, hcall]⟩
  · exact Or.inr ⟨_, w', by rw [getOracleAdapter, hcall], by simp [RoutesTo, hcall]⟩
  cases hfind : agg.oracleProvidersAdapters.find? fun a => a.oracleId = oracle.id with
  | none =>
    refine Or.inr ⟨_, w', by simp only [getOracleAdapter, hcall, hfind]; rfl, ?_⟩
    rintro adapter w'' ⟨oracle', horacle, hadapter⟩
    obtain ⟨rfl, rfl⟩ : oracle = oracle' ∧ w' = w'' := by simpa [hcall] using horacle
    rw [hfind] at hadapter
    cases hadapter
  | some adapter =>
    exact Or.inl ⟨adapter, w', by simp only [getOracleAdapter, hcall, hfind],
      oracle, hcall, hfind⟩

/-- Routing yields one of the loaded adapters. -/
theorem mem_of_getOracleAdapter {partyType currency : JsString}
    {adapter : IOracleProviderAdapter W} {w w₁ : W}
    (h : agg.getOracleAdapter partyType currency w = (.ok adapter, w₁)) :
    adapter ∈ agg.oracleProvidersAdapters := by
  rcases agg.getOracleAdapter_cases partyType currency w with
    ⟨found, w', hfound, hroute⟩ | ⟨error, w', herror, -⟩
  · obtain ⟨oracle, -, hfind⟩ := hroute
    obtain rfl := Except.ok.inj (Prod.mk.inj (hfound.symm.trans h)).1
    exact List.mem_of_find?_eq_some hfind
  · cases herror.symm.trans h

variable (agg) in
/-- Routing hands on the world that the finder leaves behind. -/
theorem getOracleAdapter_snd_eq (partyType currency : JsString) (w : W) :
    (agg.getOracleAdapter partyType currency w).2 =
      (agg.oracleFinder.getOracle partyType currency w).2 := by
  unfold getOracleAdapter
  rcases agg.oracleFinder.getOracle partyType currency w with ⟨_ | _ | oracle, w'⟩
  · rfl
  · rfl
  · dsimp only
    split <;> rfl

theorem RoutesTo.unique {partyType currency : JsString} {first second : IOracleProviderAdapter W}
    {w w₁ w₂ : W} (hfirst : agg.RoutesTo partyType currency first w w₁)
    (hsecond : agg.RoutesTo partyType currency second w w₂) : first = second ∧ w₁ = w₂ := by
  obtain ⟨oracle, hcall, hfind⟩ := hfirst
  obtain ⟨oracle', hcall', hfind'⟩ := hsecond
  obtain ⟨rfl, rfl⟩ : oracle = oracle' ∧ w₁ = w₂ := by simpa [hcall] using hcall'
  exact ⟨Option.some.inj (hfind.symm.trans hfind'), rfl⟩

/-- The oracle lookup either answers with a non-empty participant id or throws. -/
theorem getParticipantIdFromOracle_cases
    (partyId partyType partySubType currency : JsString) (w : W) :
    (∃ fspId w',
        agg.getParticipantIdFromOracle partyId partyType partySubType currency w =
          (.ok fspId, w') ∧
        agg.OracleAnswers partyId partyType partySubType currency fspId w w') ∨
      ∃ error w',
        agg.getParticipantIdFromOracle partyId partyType partySubType currency w =
          (.error error, w') ∧
        ∀ fspId w'', ¬ agg.OracleAnswers partyId partyType partySubType currency fspId w w'' := by
  rcases agg.getOracleAdapter_cases partyType currency w with
    ⟨adapter, w₁, hadapter, hroute⟩ | ⟨error, w₁, hadapter, hroute⟩
  · rcases hcall : adapter.getParticipantFspId partyType partyId partySubType currency w₁ with
      ⟨_ | fspId, w'⟩
    · refine Or.inr ⟨_, w', by simp only [getParticipantIdFromOracle, hadapter, hcall]; rfl, ?_⟩
      rintro fspId w'' ⟨adapter', w₁', hroute', hcall', _⟩
      obtain ⟨rfl, rfl⟩ := hroute.unique hroute'
      simp [hcall] at hcall'
    · cases htruthy : fspId.truthy with
      | true =>
        exact Or.inl ⟨fspId, w',
          by simp only [getParticipantIdFromOracle, hadapter, hcall, htruthy, if_true],
          adapter, w₁, hroute, hcall, htruthy⟩
      | false =>
        refine Or.inr ⟨_, w',
          by simp only [getParticipantIdFromOracle, hadapter, hcall, htruthy]; rfl, ?_⟩
        rintro fspId' w'' ⟨adapter', w₁', hroute', hcall', htruthy'⟩
        obtain ⟨rfl, rfl⟩ := hroute.unique hroute'
        obtain ⟨rfl, rfl⟩ : fspId = fspId' ∧ w' = w'' := by simpa [hcall] using hcall'
        rw [htruthy] at htruthy'
        cases htruthy'
  · refine Or.inr ⟨error, w₁, by simp only [getParticipantIdFromOracle, hadapter], ?_⟩
    rintro fspId w'' ⟨adapter, w₁', hroute', _⟩
    exact hroute adapter w₁' hroute'

theorem OracleAnswers.unique {partyId partyType partySubType currency first second : JsString}
    {w w₁ w₂ : W} (hfirst : agg.OracleAnswers partyId partyType partySubType currency first w w₁)
    (hsecond : agg.OracleAnswers partyId partyType partySubType currency second w w₂) :
    first = second ∧ w₁ = w₂ := by
  obtain ⟨adapter, v, hroute, hcall, _⟩ := hfirst
  obtain ⟨adapter', v', hroute', hcall', _⟩ := hsecond
  obtain ⟨rfl, rfl⟩ := hroute.unique hroute'
  simpa [hcall] using hcall'

@[simp]
theorem answers_requesterErrorEvent (partyId partyType partySubType participantId : JsString)
    (fault : ParticipantFault) :
    (requesterErrorEvent partyId partyType partySubType participantId fault).answers = none := by
  cases fault <;> rfl

@[simp]
theorem answers_destinationErrorEvent (partyId partyType partySubType participantId : JsString)
    (fault : ParticipantFault) :
    (destinationErrorEvent partyId partyType partySubType participantId fault).answers = none := by
  cases fault <;> rfl

end AccountLookupAggregate

end AccountLookup

/-
# Interleaved calls on the built-in oracle

A call on a built-in adapter waits for each database and cache call it makes, and
other calls, of the same or of other adapters and service instances, take their
turns in between. Each call is taken apart at these waits: a turn makes one
database or cache call and decides how to go on. A call whose turns are not
interleaved with others is the call of the sequential oracle.
-/

import AccountLookup.Implementations.BuiltinCollection
import AccountLookup.Library.Interleaving

namespace AccountLookup

open Library Library.Transition

/-- A call on a built-in adapter, at one of its waits: named after the database or
cache call that is to be made next. -/
inductive BuiltinTask (T : Type)
  -- associateParticipant
  | findAssociation (repo : MongoOracleProviderRepo T) (fspId : String) (party : Party)
  | insertAssociation (repo : MongoOracleProviderRepo T) (fspId : String) (party : Party)
  | cacheAssociation (repo : MongoOracleProviderRepo T) (fspId : String) (party : Party)
  -- disassociateParticipant
  | deleteAssociation (fspId : String) (party : Party)
  | uncacheAssociation (fspId : String) (party : Party)
  -- getParticipantFspId
  | readCache (repo : MongoOracleProviderRepo T) (party : Party)
  | findParticipant (repo : MongoOracleProviderRepo T) (party : Party)
  | cacheParticipant (repo : MongoOracleProviderRepo T) (party : Party) (data : Association)
  | returned (outcome : Except JsError JsString)

/-- A turn: the task that takes it, and the database and cache calls that fail now. -/
structure BuiltinTurn where
  task : ℕ
  failure : BuiltinCall → Option String

namespace BuiltinTask

variable {T : Type}

def currencyText (party : Party) : String := (JsString.ofOption party.currency).toText

def alreadyExists (party : Party) : JsError :=
  ⟨.participantAssociationAlreadyExistsError,
    s!"Participant association already exists for partyType {party.partyType} " ++
      s!"partyId {party.partyId} and currency {currencyText party}"⟩

def unableToStore (party : Party) (message : String) : JsError :=
  ⟨.unableToAssociateParticipantError,
    s!"Unable to store participant association for partyType {party.partyType} " ++
      s!"partyId {party.partyId}, currency {currencyText party}: {message}"⟩

def unableToDelete (party : Party) (message : String) : JsError :=
  ⟨.unableToDisassociateParticipantError,
    s!"Unable to delete participant association for partyType {party.partyType} " ++
      s!"partyId {party.partyId}, currency {currencyText party}: {message}"⟩

def unableToGet (party : Party) (message : String) : JsError :=
  ⟨.unableToGetParticipantError,
    s!"Unable to get participant for partyType {party.partyType} " ++
      s!"partyId {party.partyId} and currency {currencyText party}: {message}"⟩

open MongoOracleProviderRepo in
/-- The next turn of a call. -/
def advance [LinearOrder T] [Add T] :
    BuiltinTask T → BuiltinWorld T → BuiltinTask T × BuiltinWorld T
  | .findAssociation repo fspId party, w =>
    match w.failure .findOne with
    | some message => (.returned (.error ⟨.external, message⟩), w)
    | none =>
      match w.parties.find? (party.filter fspId).satisfiedBy with
      | some _ => (.returned (.error (alreadyExists party)), w)
      | none => (.insertAssociation repo fspId party, w)
  | .insertAssociation repo fspId party, w =>
    match w.failure .insertOne with
    | some message => (.returned (.error (unableToStore party message)), w)
    | none =>
      (.cacheAssociation repo fspId party,
        { w with parties := w.parties ++ [party.document fspId] })
  | .cacheAssociation repo fspId party, w =>
    let outcome := repo.setToCache (party.record (.str fspId)) w
    (.returned (outcome.1.map fun _ => .null), outcome.2)
  | .deleteAssociation fspId party, w =>
    match w.failure .deleteOne with
    | some message => (.returned (.error (unableToDelete party message)), w)
    | none =>
      (.uncacheAssociation fspId party,
        { w with parties := w.parties.eraseP (party.filter fspId).satisfiedBy })
  | .uncacheAssociation fspId party, w =>
    let outcome := delFromCache (party.record (.str fspId)) w
    (.returned (outcome.1.map fun _ => .null), outcome.2)
  | .readCache repo party, w =>
    match getFromCache (.str party.partyType) (.str party.partyId) (.ofOption party.partySubType)
      (.ofOption party.currency) w with
    | (.error error, w) => (.returned (.error error), w)
    | (.ok (some cacheData), w) => (.returned (.ok cacheData.fspId), w)
    | (.ok none, w) => (.findParticipant repo party, w)
  | .findParticipant repo party, w =>
    match w.failure .findOne with
    | some message => (.returned (.error (unableToGet party message)), w)
    | none =>
      match w.parties.find? party.query.satisfiedBy with
      | none => (.returned (.ok .null), w)
      | some data => (.cacheParticipant repo party data, w)
  | .cacheParticipant repo party data, w =>
    let outcome := repo.setToCache (party.record data.fspId) w
    (.returned (outcome.1.map fun _ => data.fspId), outcome.2)
  | .returned outcome, w => (.returned outcome, w)

variable [LinearOrder T] [Add T]

/-- The pool after a turn. -/
def turn (pool : Pool (BuiltinTask T) (BuiltinWorld T)) (t : BuiltinTurn) :
    Pool (BuiltinTask T) (BuiltinWorld T) :=
  Pool.step advance ⟨pool.tasks, { pool.world with failure := t.failure }⟩ t.task

section

variable {pool : Pool (BuiltinTask T) (BuiltinWorld T)} {t : BuiltinTurn}

theorem turn_of_none (h : pool.tasks[t.task]? = none) :
    turn pool t = ⟨pool.tasks, { pool.world with failure := t.failure }⟩ :=
  Pool.step_of_none advance h

theorem turn_of_some {task : BuiltinTask T} (h : pool.tasks[t.task]? = some task) :
    ∃ before after, pool.tasks = before ++ task :: after ∧
      turn pool t =
        ⟨before ++ (advance task { pool.world with failure := t.failure }).1 :: after,
          (advance task { pool.world with failure := t.failure }).2⟩ := by
  obtain ⟨before, after, htasks, -, hstep⟩ :=
    @Pool.step_of_some _ _ advance ⟨pool.tasks, { pool.world with failure := t.failure }⟩ _ _ h
  exact ⟨before, after, htasks, hstep⟩

end

/-- **An uninterrupted association is the sequential one.** -/
theorem alone_findAssociation (repo : MongoOracleProviderRepo T) (fspId : String) (party : Party)
    (w : BuiltinWorld T) :
    Pool.alone advance 3 (.findAssociation repo fspId party) w =
      (.returned ((repo.associate fspId party w).1.map fun _ => .null),
        (repo.associate fspId party w).2) := by
  simp only [Pool.alone_succ, advance, MongoOracleProviderRepo.associate,
    MongoOracleProviderRepo.associateParticipant, Party.buildLookupQuery_eq_filter]
  cases w.failure .findOne with
  | some message => rfl
  | none =>
    cases w.parties.find? (party.filter fspId).satisfiedBy with
    | some d => rfl
    | none =>
      cases hinsert : w.failure .insertOne with
      | some message =>
        simp only [hinsert]
        rfl
      | none =>
        simp only [hinsert]
        rfl

/-- **An uninterrupted removal is the sequential one.** -/
theorem alone_deleteAssociation (fspId : String) (party : Party) (w : BuiltinWorld T) :
    Pool.alone advance 2 (.deleteAssociation fspId party) w =
      (.returned ((MongoOracleProviderRepo.disassociate fspId party w).1.map fun _ => .null),
        (MongoOracleProviderRepo.disassociate fspId party w).2) := by
  simp only [Pool.alone_succ, advance, MongoOracleProviderRepo.disassociate,
    MongoOracleProviderRepo.disassociateParticipant, Party.buildLookupQuery_eq_filter]
  cases w.failure .deleteOne with
  | some message => rfl
  | none => rfl

/-- **An uninterrupted lookup is the sequential one.** -/
theorem alone_readCache (repo : MongoOracleProviderRepo T) (party : Party) (w : BuiltinWorld T) :
    Pool.alone advance 3 (.readCache repo party) w =
      (.returned (repo.lookup party w).1, (repo.lookup party w).2) := by
  simp only [Pool.alone_succ, advance, MongoOracleProviderRepo.lookup,
    MongoOracleProviderRepo.getParticipantFspId, MongoOracleProviderRepo.getFromCache,
    Party.lookupQuery_eq_query]
  cases hredis : w.failure .redisGet with
  | some message => rfl
  | none =>
    cases w.cache.get w.now (MongoOracleProviderRepo.getKeyWithPrefix (.str party.partyType)
      (.str party.partyId) (.ofOption party.partySubType) (.ofOption party.currency)) with
    | some record => rfl
    | none =>
      dsimp only
      cases w.failure .findOne with
      | some message => rfl
      | none =>
        cases w.parties.find? party.query.satisfiedBy with
        | none => rfl
        | some d =>
          simp only [MongoOracleProviderRepo.setToCache]
          cases w.failure .redisSetex with
          | some message => rfl
          | none => rfl

end BuiltinTask

end AccountLookup

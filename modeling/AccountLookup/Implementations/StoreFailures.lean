/-
# Failures of the store

Which database and cache calls an operation of the built-in oracle makes, and what becomes
of it when one of them fails. Every call but the last has succeeded, so the operation is
rejected exactly when its last call fails, except where the failure is caught and dropped:
in a search and in the health check.
-/

import AccountLookup.Implementations.BuiltinRuns

namespace AccountLookup

/-- An operation of the built-in oracle, with its arguments. -/
inductive BuiltinOperation
  | getParticipantFspId (partyType partyId partySubType currency : JsString)
  | associateParticipant (fspId partyType partyId partySubType currency : JsString)
  | disassociateParticipant (fspId partyType partyId partySubType currency : JsString)
  | getAllAssociations
  | searchAssociations (fspId partyId partyType partySubType currency : JsString)
      (pageIndex pageSize : Option JsNumber)
  | healthCheck

/-- What an operation resolves to. -/
inductive BuiltinValue
  | fspId (fspId : JsString)
  | done
  | associations (associations : List Association)
  | page (results : AssociationsSearchResults)
  | healthy (healthy : Bool)

/-- The calls made from this one on: the ones after it are made if it succeeds. -/
def BuiltinWorld.callsFrom {T : Type} (w : BuiltinWorld T) (call : BuiltinCall)
    (next : List BuiltinCall) : List BuiltinCall :=
  call :: if (w.failure call).isSome then [] else next

namespace MongoOracleProviderRepo

variable {T : Type} [LinearOrder T] [Add T] (repo : MongoOracleProviderRepo T)

def perform : BuiltinOperation → Call (BuiltinWorld T) BuiltinValue
  | .getParticipantFspId partyType partyId partySubType currency, w =>
    let outcome := repo.getParticipantFspId partyType partyId partySubType currency w
    (outcome.1.map .fspId, outcome.2)
  | .associateParticipant fspId partyType partyId partySubType currency, w =>
    let outcome := repo.associateParticipant fspId partyType partyId partySubType currency w
    (outcome.1.map fun _ => .done, outcome.2)
  | .disassociateParticipant fspId partyType partyId partySubType currency, w =>
    let outcome := disassociateParticipant fspId partyType partyId partySubType currency w
    (outcome.1.map fun _ => .done, outcome.2)
  | .getAllAssociations, w =>
    let outcome := getAllAssociations w
    (outcome.1.map .associations, outcome.2)
  | .searchAssociations fspId partyId partyType partySubType currency pageIndex pageSize, w =>
    match searchAssociations fspId partyId partyType partySubType currency pageIndex pageSize w with
    | (.error error, w) => (.error error, w)
    | (.ok results, w) => (results.map .page, w)
  | .healthCheck, w =>
    let outcome := healthCheck w
    (outcome.1.map .healthy, outcome.2)

/-- The calls that an operation makes, in order. -/
def callsMade : BuiltinOperation → BuiltinWorld T → List BuiltinCall
  | .getParticipantFspId partyType partyId partySubType currency, w =>
    w.callsFrom .redisGet <|
      match w.cache.get w.now (getKeyWithPrefix partyType partyId partySubType currency) with
      | some _ => []
      | none =>
        w.callsFrom .findOne <|
          match w.parties.find? (lookupQuery partyType partyId partySubType currency).satisfiedBy
            with
          | some _ => [.redisSetex]
          | none => []
  | .associateParticipant fspId partyType partyId partySubType currency, w =>
    w.callsFrom .findOne <|
      match w.parties.find?
        (buildLookupQuery partyId fspId partyType partySubType currency).satisfiedBy with
      | some _ => []
      | none => w.callsFrom .insertOne [.redisSetex]
  | .disassociateParticipant .., w => w.callsFrom .deleteOne [.redisDel]
  | .getAllAssociations, _ => [.find]
  | .searchAssociations .., w => w.callsFrom .findPage [.findMatching]
  | .healthCheck, _ => [.ping]

/-- The calls of an operation whose failure is caught and dropped. -/
def droppedCalls : BuiltinOperation → List BuiltinCall
  | .searchAssociations .. => [.findPage, .findMatching]
  | .healthCheck => [.ping]
  | _ => []

/-- The operation is rejected, or it resolves to the answer that the store is not healthy. -/
def SaysFailed (outcome : Except JsError BuiltinValue) : Prop :=
  (∃ error, outcome = .error error) ∨ outcome = .ok (.healthy false)

/-- If a call that the operation makes fails, the operation says so. -/
def ReportsFailures (operation : BuiltinOperation) (w : BuiltinWorld T) : Prop :=
  (∃ call ∈ callsMade operation w, w.failure call ≠ none) → SaysFailed (repo.perform operation w).1

section Calls

omit [LinearOrder T] [Add T]

variable {w : BuiltinWorld T} {call : BuiltinCall} {next : List BuiltinCall}

theorem exists_callsFrom_failed_iff :
    (∃ made ∈ w.callsFrom call next, w.failure made ≠ none) ↔
      w.failure call ≠ none ∨ ∃ made ∈ next, w.failure made ≠ none := by
  unfold BuiltinWorld.callsFrom
  rw [List.exists_mem_cons_iff]
  cases hcall : w.failure call with
  | none => simp
  | some message => simp

theorem forall_mem_callsFrom_iff {p : BuiltinCall → Prop} :
    (∀ made ∈ w.callsFrom call next, p made) ↔
      p call ∧ (w.failure call = none → ∀ made ∈ next, p made) := by
  unfold BuiltinWorld.callsFrom
  rw [List.forall_mem_cons]
  cases hcall : w.failure call with
  | none => simp
  | some message => simp

end Calls

variable {repo} {w : BuiltinWorld T}

/-- **No other call matters.** An operation comes to the same whether or not calls fail that it
does not make. -/
theorem perform_congr {operation : BuiltinOperation} {failure : BuiltinCall → Option String}
    (h : ∀ call ∈ callsMade operation w, failure call = w.failure call) :
    (repo.perform operation { w with failure := failure }).1 = (repo.perform operation w).1 := by
  cases operation with
  | getParticipantFspId partyType partyId partySubType currency =>
    simp only [callsMade, forall_mem_callsFrom_iff] at h
    obtain ⟨hget, h⟩ := h
    simp only [perform, getParticipantFspId, getFromCache, hget]
    cases hredis : w.failure .redisGet with
    | some message => rfl
    | none =>
      have h := h hredis
      cases hcache : w.cache.get w.now
        (getKeyWithPrefix partyType partyId partySubType currency) with
      | some cacheData => rfl
      | none =>
        simp only [hcache, forall_mem_callsFrom_iff] at h ⊢
        obtain ⟨hfind, h⟩ := h
        simp only [hfind]
        cases hmongo : w.failure .findOne with
        | some message => rfl
        | none =>
          have h := h hmongo
          cases hdata : w.parties.find?
            (lookupQuery partyType partyId partySubType currency).satisfiedBy with
          | none => rfl
          | some data =>
            simp only [hdata, List.forall_mem_singleton] at h
            simp only [setToCache, h]
            cases w.failure .redisSetex with
            | some message => rfl
            | none => rfl
  | associateParticipant fspId partyType partyId partySubType currency =>
    simp only [callsMade, forall_mem_callsFrom_iff] at h
    obtain ⟨hfind, h⟩ := h
    simp only [perform, associateParticipant, hfind]
    cases hmongo : w.failure .findOne with
    | some message => rfl
    | none =>
      have h := h hmongo
      cases hdata : w.parties.find?
        (buildLookupQuery partyId fspId partyType partySubType currency).satisfiedBy with
      | some data => rfl
      | none =>
        simp only [hdata, forall_mem_callsFrom_iff, List.forall_mem_singleton] at h
        obtain ⟨hinsert, h⟩ := h
        simp only [hinsert]
        cases hstored : w.failure .insertOne with
        | some message => rfl
        | none =>
          simp only [setToCache, h hstored]
          cases w.failure .redisSetex with
          | some message => rfl
          | none => rfl
  | disassociateParticipant fspId partyType partyId partySubType currency =>
    simp only [callsMade, forall_mem_callsFrom_iff, List.forall_mem_singleton] at h
    obtain ⟨hdelete, h⟩ := h
    simp only [perform, disassociateParticipant, hdelete]
    cases hmongo : w.failure .deleteOne with
    | some message => rfl
    | none =>
      simp only [delFromCache, h hmongo]
      cases w.failure .redisDel with
      | some message => rfl
      | none => rfl
  | getAllAssociations =>
    have hfind := h .find (List.mem_singleton.mpr rfl)
    simp only [perform, getAllAssociations, hfind]
    cases w.failure .find with
    | some message => rfl
    | none => rfl
  | searchAssociations fspId partyId partyType partySubType currency pageIndex pageSize =>
    simp only [callsMade, forall_mem_callsFrom_iff, List.forall_mem_singleton] at h
    obtain ⟨hpage, h⟩ := h
    simp only [perform, searchAssociations, searchResults, hpage]
    cases hfound : w.failure .findPage with
    | some message => rfl
    | none =>
      simp only [h hfound]
      cases w.failure .findMatching with
      | some message => rfl
      | none => rfl
  | healthCheck => rfl

/-- Where no failure is dropped, a failure is an error. -/
theorem error_of_failed {operation : BuiltinOperation} (hdropped : droppedCalls operation = [])
    (h : ∃ call ∈ callsMade operation w, w.failure call ≠ none) :
    ∃ error, (repo.perform operation w).1 = .error error := by
  have hsome : ∀ {call : BuiltinCall}, w.failure call ≠ none →
      ∃ message, w.failure call = some message := Option.ne_none_iff_exists'.mp
  cases operation with
  | getParticipantFspId partyType partyId partySubType currency =>
    simp only [callsMade, exists_callsFrom_failed_iff] at h
    simp only [perform, getParticipantFspId, getFromCache]
    cases hredis : w.failure .redisGet with
    | some message => exact ⟨_, rfl⟩
    | none =>
      have h := h.resolve_left (not_not.mpr hredis)
      cases hcache : w.cache.get w.now
        (getKeyWithPrefix partyType partyId partySubType currency) with
      | some cacheData => simp [hcache] at h
      | none =>
        simp only [hcache, exists_callsFrom_failed_iff] at h ⊢
        cases hmongo : w.failure .findOne with
        | some message => exact ⟨_, rfl⟩
        | none =>
          have h := h.resolve_left (not_not.mpr hmongo)
          cases hdata : w.parties.find?
            (lookupQuery partyType partyId partySubType currency).satisfiedBy with
          | none => simp [hdata] at h
          | some data =>
            simp only [hdata, List.mem_singleton, exists_eq_left] at h
            obtain ⟨message, hmessage⟩ := hsome h
            simp only [setToCache, hmessage]
            exact ⟨_, rfl⟩
  | associateParticipant fspId partyType partyId partySubType currency =>
    simp only [callsMade, exists_callsFrom_failed_iff] at h
    simp only [perform, associateParticipant]
    cases hmongo : w.failure .findOne with
    | some message => exact ⟨_, rfl⟩
    | none =>
      have h := h.resolve_left (not_not.mpr hmongo)
      cases hdata : w.parties.find?
        (buildLookupQuery partyId fspId partyType partySubType currency).satisfiedBy with
      | some data => exact ⟨_, rfl⟩
      | none =>
        simp only [hdata, exists_callsFrom_failed_iff, List.mem_singleton, exists_eq_left] at h
        cases hstored : w.failure .insertOne with
        | some message => exact ⟨_, rfl⟩
        | none =>
          obtain ⟨message, hmessage⟩ := hsome (h.resolve_left (not_not.mpr hstored))
          simp only [setToCache, hmessage]
          exact ⟨_, rfl⟩
  | disassociateParticipant fspId partyType partyId partySubType currency =>
    simp only [callsMade, exists_callsFrom_failed_iff, List.mem_singleton, exists_eq_left] at h
    simp only [perform, disassociateParticipant]
    cases hmongo : w.failure .deleteOne with
    | some message => exact ⟨_, rfl⟩
    | none =>
      obtain ⟨message, hmessage⟩ := hsome (h.resolve_left (not_not.mpr hmongo))
      simp only [delFromCache, hmessage]
      exact ⟨_, rfl⟩
  | getAllAssociations =>
    simp only [callsMade, List.mem_singleton, exists_eq_left] at h
    obtain ⟨message, hmessage⟩ := hsome h
    simp only [perform, getAllAssociations, hmessage]
    exact ⟨_, rfl⟩
  | searchAssociations fspId partyId partyType partySubType currency pageIndex pageSize =>
    cases hdropped
  | healthCheck => cases hdropped

/-- A search and a health check always resolve, and not to the answer that something failed. -/
theorem not_saysFailed_of_dropped {operation : BuiltinOperation}
    (hdropped : droppedCalls operation ≠ []) : ¬ SaysFailed (repo.perform operation w).1 := by
  cases operation with
  | searchAssociations fspId partyId partyType partySubType currency pageIndex pageSize =>
    rintro (⟨error, h⟩ | h)
    · cases h
    · cases h
  | healthCheck =>
    rintro (⟨error, h⟩ | h)
    · cases h
    · cases h
  | getParticipantFspId => exact absurd rfl hdropped
  | associateParticipant => exact absurd rfl hdropped
  | disassociateParticipant => exact absurd rfl hdropped
  | getAllAssociations => exact absurd rfl hdropped

omit [Add T] in
/-- A dropped failure occurs exactly when one of the calls would fail. -/
theorem exists_failed_iff_of_dropped {operation : BuiltinOperation}
    (hdropped : droppedCalls operation ≠ []) :
    (∃ call ∈ callsMade operation w, w.failure call ≠ none) ↔
      ∃ call ∈ droppedCalls operation, w.failure call ≠ none := by
  cases operation with
  | searchAssociations fspId partyId partyType partySubType currency pageIndex pageSize =>
    simp only [callsMade, exists_callsFrom_failed_iff, droppedCalls, List.mem_cons,
      List.not_mem_nil, or_false, exists_eq_left, exists_eq_or_imp]
  | healthCheck => rfl
  | getParticipantFspId => exact absurd rfl hdropped
  | associateParticipant => exact absurd rfl hdropped
  | disassociateParticipant => exact absurd rfl hdropped
  | getAllAssociations => exact absurd rfl hdropped

/-- **When a failing store is reported.** An operation says that a call has failed exactly when
no failure of its calls is dropped: the two queries of a search and the ping of the health
check have to succeed. -/
theorem reportsFailures_iff (repo : MongoOracleProviderRepo T) (operation : BuiltinOperation)
    (w : BuiltinWorld T) :
    repo.ReportsFailures operation w ↔
      ∀ call ∈ droppedCalls operation, w.failure call = none := by
  by_cases hdropped : droppedCalls operation = []
  · rw [hdropped]
    exact iff_of_true (fun h => Or.inl (error_of_failed hdropped h)) (List.forall_mem_nil _)
  · rw [ReportsFailures, exists_failed_iff_of_dropped hdropped,
      imp_iff_not (not_saysFailed_of_dropped hdropped)]
    simp only [not_exists, not_and, not_not]

/-- A store that does not answer the ping is healthy all the same. -/
theorem not_forall_reportsFailures :
    ¬ ∀ (repo : MongoOracleProviderRepo ℕ) (operation : BuiltinOperation) (w : BuiltinWorld ℕ),
      repo.ReportsFailures operation w := by
  intro h
  have hping := h sampleRepo .healthCheck
    { BuiltinWorld.empty 0 with failure := fun call =>
        if call = .ping then some "connection closed" else none }
  have hdropped : droppedCalls .healthCheck ≠ [] := List.cons_ne_nil _ _
  exact not_saysFailed_of_dropped hdropped (hping ⟨.ping, List.mem_singleton.mpr rfl, by simp⟩)

end MongoOracleProviderRepo

end AccountLookup

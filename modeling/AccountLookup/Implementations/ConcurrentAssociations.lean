/-
# Concurrent identical associations

Any number of calls that associate the same party with the same participant run
interleaved on one collection. Each looks for the association before it stores
it, and nothing keeps two of them from looking before either has stored: the
collection then holds the association twice, and a removal leaves one behind. The
association is accepted once exactly when no `insertOne` goes through while the
collection already holds it.
-/

import AccountLookup.Implementations.BuiltinTasks

namespace AccountLookup

open Library Library.Transition

variable {T : Type}

namespace BuiltinTask

/-- The call has returned and has not thrown. -/
def succeeded : BuiltinTask T → Bool
  | .returned (.ok _) => true
  | _ => false

/-- The call has stored its association and has not thrown since. -/
def accepted : BuiltinTask T → Bool
  | .cacheAssociation _ _ _ => true
  | task => task.succeeded

/-- The document is one of the association. -/
def isAssociation (fspId : String) (party : Party) (d : Association) : Bool :=
  d.fiveTuple = party.fiveTuple fspId

/-- The association has been accepted at most once, is stored at most once, and is
gone after one successful removal. -/
structure AcceptedOnce (fspId : String) (party : Party)
    (pool : Pool (BuiltinTask T) (BuiltinWorld T)) : Prop where
  succeeded_le : pool.tasks.countP succeeded ≤ 1
  stored_le : pool.world.parties.countP (isAssociation fspId party) ≤ 1
  removed : ∀ failure,
    let outcome := MongoOracleProviderRepo.disassociate fspId party
      { pool.world with failure := failure }
    outcome.1 = .ok () → ∀ d ∈ outcome.2.parties, d.fiveTuple ≠ party.fiveTuple fspId

/-- An `insertOne` that goes through finds no such association in the collection. -/
def InsertsFresh (fspId : String) (party : Party) (pool : Pool (BuiltinTask T) (BuiltinWorld T))
    (t : BuiltinTurn) : Prop :=
  ∀ repo, pool.tasks[t.task]? = some (.insertAssociation repo fspId party) →
    t.failure .insertOne = none → ∀ d ∈ pool.world.parties, d.fiveTuple ≠ party.fiveTuple fspId

/-- The task is a call that associates this party with this participant. -/
def Associates (fspId : String) (party : Party) : BuiltinTask T → Prop
  | .findAssociation _ fspId' party' | .insertAssociation _ fspId' party'
  | .cacheAssociation _ fspId' party' => fspId' = fspId ∧ party' = party
  | .returned _ => True
  | _ => False

/-- What holds between turns: the accepted calls have each stored a document, there is
at most one, and once a call is about to store, the filter of a removal finds
nothing else. -/
structure Racing (fspId : String) (party : Party)
    (pool : Pool (BuiltinTask T) (BuiltinWorld T)) : Prop where
  associates : ∀ task ∈ pool.tasks, Associates fspId party task
  accepted_le : pool.tasks.countP accepted ≤
    pool.world.parties.countP (isAssociation fspId party)
  stored_le : pool.world.parties.countP (isAssociation fspId party) ≤ 1
  exact_filter : ((∃ d ∈ pool.world.parties, d.fiveTuple = party.fiveTuple fspId) ∨
      ∃ repo, .insertAssociation repo fspId party ∈ pool.tasks) →
    ∀ d ∈ pool.world.parties, (party.filter fspId).satisfiedBy d = true →
      d.fiveTuple = party.fiveTuple fspId

variable {fspId : String} {party : Party} {pool pool' : Pool (BuiltinTask T) (BuiltinWorld T)}

theorem accepted_of_succeeded {task : BuiltinTask T} (h : task.succeeded = true) :
    task.accepted = true := by
  cases task <;> first | exact h | cases h

theorem isAssociation_iff {d : Association} :
    isAssociation fspId party d = true ↔ d.fiveTuple = party.fiveTuple fspId :=
  decide_eq_true_iff

/-- Removing the first match of an exact filter leaves none of at most one document. -/
theorem not_mem_eraseP {parties : List Association}
    (hle : parties.countP (isAssociation fspId party) ≤ 1)
    (hexact : (∃ d ∈ parties, d.fiveTuple = party.fiveTuple fspId) →
      ∀ d ∈ parties, (party.filter fspId).satisfiedBy d = true →
        d.fiveTuple = party.fiveTuple fspId) :
    ∀ d ∈ parties.eraseP (party.filter fspId).satisfiedBy,
      d.fiveTuple ≠ party.fiveTuple fspId := by
  intro d hd htuple
  have hmem := List.mem_of_mem_eraseP hd
  have hmatch := Party.satisfiedBy_of_fiveTuple_eq htuple
  obtain ⟨first, hfirst⟩ := Option.isSome_iff_exists.mp
    (List.find?_isSome.mpr ⟨d, hmem, hmatch⟩)
  obtain ⟨before, after, rfl, -, hfound, herase⟩ :=
    FirstMatch.exists_split_of_find?_eq_some hfirst
  have hfirsttuple := hexact ⟨d, hmem, htuple⟩ first (by simp) hfound
  rw [herase] at hd
  have hpositive : 0 < (before ++ after).countP (isAssociation fspId party) :=
    List.countP_pos_iff.mpr ⟨d, hd, isAssociation_iff.mpr htuple⟩
  rw [List.countP_append] at hpositive
  rw [List.countP_append, List.countP_cons, if_pos (isAssociation_iff.mpr hfirsttuple)] at hle
  omega

theorem Racing.acceptedOnce (h : Racing fspId party pool) : AcceptedOnce fspId party pool where
  succeeded_le := by
    refine le_trans (List.countP_mono_left fun task _ => ?_) (h.accepted_le.trans h.stored_le)
    exact accepted_of_succeeded
  stored_le := h.stored_le
  removed := by
    intro failure outcome hok d hd
    refine not_mem_eraseP h.stored_le (fun hstored => h.exact_filter (Or.inl hstored)) d ?_
    simp only [outcome, MongoOracleProviderRepo.disassociate,
      MongoOracleProviderRepo.disassociateParticipant] at hok hd
    cases hdelete : failure .deleteOne with
    | some message => simp [hdelete] at hok
    | none =>
      simp only [hdelete, MongoOracleProviderRepo.delFromCache] at hok hd
      cases hdel : failure .redisDel with
      | some message => simp [hdel] at hok
      | none =>
        simp only [hdel] at hd
        exact hd

/-- Calls of several adapters that associate the party, none of them begun. -/
def associations (repos : List (MongoOracleProviderRepo T)) (fspId : String) (party : Party)
    (w : BuiltinWorld T) : Pool (BuiltinTask T) (BuiltinWorld T) :=
  ⟨repos.map fun repo => .findAssociation repo fspId party, w⟩

theorem racing_associations (repos : List (MongoOracleProviderRepo T)) {w : BuiltinWorld T}
    (hnone : ∀ d ∈ w.parties, d.fiveTuple ≠ party.fiveTuple fspId) :
    Racing fspId party (associations repos fspId party w) := by
  have hzero : w.parties.countP (isAssociation fspId party) = 0 :=
    List.countP_eq_zero.mpr fun d hd hassociation => hnone d hd (isAssociation_iff.mp hassociation)
  refine ⟨fun task htask => ?_, ?_, hzero.le.trans zero_le_one, ?_⟩
  · obtain ⟨repo, -, rfl⟩ := List.mem_map.mp htask
    exact ⟨rfl, rfl⟩
  · refine le_of_eq_of_le (List.countP_eq_zero.mpr fun task htask => ?_) (Nat.zero_le _)
    obtain ⟨repo, -, rfl⟩ := List.mem_map.mp htask
    exact Bool.false_ne_true
  · rintro (⟨d, hd, htuple⟩ | ⟨repo, hmem⟩)
    · exact absurd htuple (hnone d hd)
    · obtain ⟨repo', -, hrepo⟩ := List.mem_map.mp hmem
      cases hrepo

/-- What a turn can do to a pool of such calls. -/
inductive Raced (fspId : String) (party : Party) (pool : Pool (BuiltinTask T) (BuiltinWorld T))
    (t : BuiltinTurn) : Pool (BuiltinTask T) (BuiltinWorld T) → Prop
  /-- No task takes the turn. -/
  | idle (w' : BuiltinWorld T) (htask : pool.tasks[t.task]? = none)
      (hparties : w'.parties = pool.world.parties) : Raced fspId party pool t ⟨pool.tasks, w'⟩
  /-- A call goes on or returns without storing anything; it is about to store the
  association only if its filter has found nothing. -/
  | resumed (task task' : BuiltinTask T) (before after : List (BuiltinTask T))
      (w' : BuiltinWorld T)
      (htasks : pool.tasks = before ++ task :: after)
      (hnot : ∀ repo, pool.tasks[t.task]? = some (.insertAssociation repo fspId party) →
        t.failure .insertOne ≠ none)
      (hassociates : Associates fspId party task')
      (haccepted : task'.accepted = true → task.accepted = true)
      (hinsert : ∀ repo, task' = .insertAssociation repo fspId party →
        pool.world.parties.find? (party.filter fspId).satisfiedBy = none)
      (hparties : w'.parties = pool.world.parties) :
      Raced fspId party pool t ⟨before ++ task' :: after, w'⟩
  /-- An `insertOne` goes through. -/
  | inserted (repo : MongoOracleProviderRepo T) (before after : List (BuiltinTask T))
      (w' : BuiltinWorld T)
      (htasks : pool.tasks = before ++ .insertAssociation repo fspId party :: after)
      (htask : pool.tasks[t.task]? = some (.insertAssociation repo fspId party))
      (hok : t.failure .insertOne = none)
      (hparties : w'.parties = pool.world.parties ++ [party.document fspId]) :
      Raced fspId party pool t ⟨before ++ .cacheAssociation repo fspId party :: after, w'⟩

theorem parties_setToCache [Add T] (repo : MongoOracleProviderRepo T) (record : Association)
    (w : BuiltinWorld T) : (repo.setToCache record w).2.parties = w.parties := by
  rw [MongoOracleProviderRepo.setToCache]
  cases w.failure .redisSetex <;> rfl

theorem Raced.racing {t : BuiltinTurn} (hraced : Raced fspId party pool t pool')
    (h : Racing fspId party pool) (hfresh : InsertsFresh fspId party pool t) :
    Racing fspId party pool' := by
  cases hraced with
  | idle w' _ hparties =>
    exact ⟨h.associates, hparties ▸ h.accepted_le, hparties ▸ h.stored_le,
      hparties ▸ h.exact_filter⟩
  | resumed task task' before after w' htasks _ hassociates haccepted hinsert hparties =>
    refine ⟨fun other hother => ?_, ?_, hparties ▸ h.stored_le, fun hpremise => ?_⟩
    · rcases Pool.eq_or_mem_of_mem_turned htasks hother with rfl | hold
      · exact hassociates
      · exact h.associates other hold
    · rw [hparties]
      refine le_trans ?_ h.accepted_le
      rw [htasks, List.countP_append, List.countP_append, List.countP_cons, List.countP_cons]
      cases hnext : task'.accepted with
      | false => simp
      | true => simp [haccepted hnext]
    · intro d hd hmatch
      rw [hparties] at hpremise hd
      rcases hpremise with hstored | ⟨repo, hmem⟩
      · exact h.exact_filter (Or.inl hstored) d hd hmatch
      · rcases Pool.eq_or_mem_of_mem_turned htasks hmem with hnext | hold
        · -- the call has just looked for the association and found nothing
          exact absurd hmatch (List.find?_eq_none.mp (hinsert repo hnext.symm) d hd)
        · exact h.exact_filter (Or.inr ⟨repo, hold⟩) d hd hmatch
  | inserted repo before after w' htasks htask hok hparties =>
    have hnone : pool.world.parties.countP (isAssociation fspId party) = 0 :=
      List.countP_eq_zero.mpr fun d hd hassociation =>
        hfresh repo htask hok d hd (isAssociation_iff.mp hassociation)
    have hone : w'.parties.countP (isAssociation fspId party) = 1 := by
      rw [hparties, List.countP_append, hnone, List.countP_singleton,
        if_pos (isAssociation_iff.mpr Party.fiveTuple_document)]
    have haccepted := h.accepted_le
    rw [hnone, htasks, List.countP_append, List.countP_cons] at haccepted
    refine ⟨fun other hother => ?_, ?_, hone.le, fun _ d hd hmatch => ?_⟩
    · rcases Pool.eq_or_mem_of_mem_turned htasks hother with rfl | hold
      · exact ⟨rfl, rfl⟩
      · exact h.associates other hold
    · have hcaches : (cacheAssociation repo fspId party).accepted = true := rfl
      rw [hone, List.countP_append, List.countP_cons, if_pos hcaches]
      omega
    · rw [hparties] at hd
      rcases List.mem_append.mp hd with hold | hnew
      · exact h.exact_filter (Or.inr ⟨repo, htasks ▸ by simp⟩) d hold hmatch
      · rw [List.mem_singleton.mp hnew]
        exact Party.fiveTuple_document

variable [LinearOrder T] [Add T]

theorem raced_turn (t : BuiltinTurn) (h : ∀ task ∈ pool.tasks, Associates fspId party task) :
    Raced fspId party pool t (turn pool t) := by
  cases htask : pool.tasks[t.task]? with
  | none =>
    rw [turn_of_none htask]
    exact .idle _ htask rfl
  | some task =>
    obtain ⟨before, after, htasks, hturn⟩ := turn_of_some htask
    have hassociates := h task (List.mem_of_getElem? htask)
    rw [hturn]
    cases task with
    | findAssociation repo fspId' party' =>
      obtain ⟨rfl, rfl⟩ := hassociates
      have hnot : ∀ repo, pool.tasks[t.task]? = some (.insertAssociation repo fspId' party') →
          t.failure .insertOne ≠ none := fun _ hsome => (by cases htask.symm.trans hsome)
      simp only [advance]
      cases t.failure .findOne with
      | some message =>
        exact .resumed _ _ before after _ htasks hnot trivial (fun h => (by cases h))
          (fun _ h => (by cases h)) rfl
      | none =>
        cases hfind : pool.world.parties.find? (party'.filter fspId').satisfiedBy with
        | some d =>
          exact .resumed _ _ before after _ htasks hnot trivial (fun h => (by cases h))
            (fun _ h => (by cases h)) rfl
        | none =>
          exact .resumed _ _ before after _ htasks hnot ⟨rfl, rfl⟩ (fun h => (by cases h))
            (fun _ _ => hfind) rfl
    | insertAssociation repo fspId' party' =>
      obtain ⟨rfl, rfl⟩ := hassociates
      simp only [advance]
      cases hinsert : t.failure .insertOne with
      | some message =>
        exact .resumed _ _ before after _ htasks (fun _ _ => by rw [hinsert]; simp) trivial
          (fun h => (by cases h)) (fun _ h => (by cases h)) rfl
      | none => exact .inserted repo before after _ htasks htask hinsert rfl
    | cacheAssociation repo fspId' party' =>
      refine .resumed _ _ before after _ htasks ?_ trivial (fun _ => rfl) (fun _ h => (by cases h))
        (parties_setToCache repo _ _)
      exact fun _ hsome => (by cases htask.symm.trans hsome)
    | returned outcome =>
      refine .resumed _ _ before after _ htasks ?_ trivial id (fun _ h => (by cases h)) rfl
      exact fun _ hsome => (by cases htask.symm.trans hsome)
    | deleteAssociation => cases hassociates
    | uncacheAssociation => cases hassociates
    | readCache => cases hassociates
    | findParticipant => cases hassociates
    | cacheParticipant => cases hassociates

/-- A turn keeps the association accepted once exactly when it meets the condition. -/
theorem acceptedOnce_turn_iff {t : BuiltinTurn} (h : Racing fspId party pool) :
    AcceptedOnce fspId party (turn pool t) ↔ InsertsFresh fspId party pool t := by
  have hraced := raced_turn t h.associates
  constructor
  · intro haccepted
    have hstored := haccepted.stored_le
    revert hstored
    generalize turn pool t = pool' at hraced
    intro hstored repo htask hok d hd htuple
    cases hraced with
    | idle w' hnone => cases htask.symm.trans hnone
    | resumed task task' before after w' _ hnot => exact hnot repo htask hok
    | inserted repo' before after w' _ _ _ hparties =>
      have hpositive : 0 < pool.world.parties.countP (isAssociation fspId party) :=
        List.countP_pos_iff.mpr ⟨d, hd, isAssociation_iff.mpr htuple⟩
      rw [hparties, List.countP_append, List.countP_singleton,
        if_pos (isAssociation_iff.mpr Party.fiveTuple_document)] at hstored
      omega
  · intro hfresh
    exact (hraced.racing h hfresh).acceptedOnce

/-- **Identical associations are accepted once exactly when every insertion that goes
through is fresh.** -/
theorem acceptedOnce_iff (repos : List (MongoOracleProviderRepo T)) (fspId : String)
    (party : Party) (w : BuiltinWorld T)
    (hnone : ∀ d ∈ w.parties, d.fiveTuple ≠ party.fiveTuple fspId) (turns : List BuiltinTurn) :
    (∀ before, before <+: turns →
        AcceptedOnce fspId party (run turn (associations repos fspId party w) before)) ↔
      Along turn (InsertsFresh fspId party) (associations repos fspId party w) turns := by
  have hstart := racing_associations repos hnone
  rw [forall_prefix_iff_along, and_iff_right hstart.acceptedOnce]
  exact along_iff_of_exact (Racing fspId party) (fun _ _ h => acceptedOnce_turn_iff h)
    (fun _ t h hfresh => (raced_turn t h.associates).racing h hfresh) turns _ hstart

/-- A turn of the task in which nothing fails. -/
def smooth (task : ℕ) : BuiltinTurn := ⟨task, fun _ => none⟩

/-- Two calls that both look for the association before either stores it. -/
def racingTurns : List BuiltinTurn := [0, 1, 0, 1, 0, 1].map smooth

theorem not_forall_acceptedOnce :
    ¬ ∀ (repos : List (MongoOracleProviderRepo ℕ)) (fspId : String) (party : Party)
      (w : BuiltinWorld ℕ) (turns : List BuiltinTurn),
      (∀ d ∈ w.parties, d.fiveTuple ≠ party.fiveTuple fspId) →
        AcceptedOnce fspId party (run turn (associations repos fspId party w) turns) := by
  intro h
  have hsucceeded := (h [sampleRepo, sampleRepo] "greenbank" ⟨"MSISDN", "27713803912", none, none⟩
    (BuiltinWorld.empty 0) racingTurns fun _ hd => (by cases hd)).succeeded_le
  exact absurd hsucceeded (by decide)

/-- The second call looks for the association when the first has stored it. -/
theorem acceptedOnce_one_after_the_other :
    Along turn (InsertsFresh "greenbank" ⟨"MSISDN", "27713803912", none, none⟩)
        (associations [sampleRepo, sampleRepo] "greenbank"
          ⟨"MSISDN", "27713803912", none, none⟩ (BuiltinWorld.empty 0))
        ([0, 0, 1, 0].map smooth) ∧
      ∀ before, before <+: [0, 0, 1, 0].map smooth →
        AcceptedOnce "greenbank" ⟨"MSISDN", "27713803912", none, none⟩
          (run turn (associations [sampleRepo, sampleRepo] "greenbank"
            ⟨"MSISDN", "27713803912", none, none⟩ (BuiltinWorld.empty 0)) before) := by
  have hfresh : Along turn (InsertsFresh "greenbank" ⟨"MSISDN", "27713803912", none, none⟩)
      (associations [sampleRepo, sampleRepo] "greenbank"
        ⟨"MSISDN", "27713803912", none, none⟩ (BuiltinWorld.empty 0))
      ([0, 0, 1, 0].map smooth) := by
    refine ⟨?_, ?_, ?_, ?_, trivial⟩
    · intro repo htask
      cases htask
    · intro repo _ _ d hd
      cases hd
    · intro repo htask
      cases htask
    · intro repo htask
      cases htask
  exact ⟨hfresh, (acceptedOnce_iff _ _ _ _ (fun _ hd => (by cases hd)) _).mpr hfresh⟩

end BuiltinTask

end AccountLookup

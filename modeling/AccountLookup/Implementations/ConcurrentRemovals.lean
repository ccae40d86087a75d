/-
# Lookups around a removal

A removal deletes the association from the collection and then the party's key
from the cache, while lookups of the party run interleaved with it. A lookup that
found the association before it was deleted may write it to the cache after the
key was deleted, and the cache then serves a participant that has left. The
removal leaves nothing behind exactly when no such write is made.
-/

import AccountLookup.Implementations.BuiltinTasks

namespace AccountLookup

open Library Library.Transition

variable {T : Type}

namespace BuiltinTask

/-- The removal, the first task of the pool, has returned and has not thrown. -/
def Departed (pool : Pool (BuiltinTask T) (BuiltinWorld T)) : Prop :=
  ∃ value, pool.tasks.head? = some (.returned (.ok value))

/-- After the removal the cache has no entry for the party, and the next lookup by
any adapter finds no participant. -/
def LeavesNothing [LinearOrder T] [Add T] (party : Party)
    (pool : Pool (BuiltinTask T) (BuiltinWorld T)) : Prop :=
  Departed pool →
    pool.world.cache.entry party.key = none ∧
      ∀ repo : MongoOracleProviderRepo T,
        (repo.lookup party { pool.world with failure := fun _ => none }).1 = .ok .null

/-- The party is associated with no other participant than this. -/
def OwnedBy (parties : List Association) (party : Party) (fspId : String) : Prop :=
  ∀ d ∈ parties, party.Describes d → d.fspId = .str fspId

/-- The party is associated once, with this participant. -/
def AssociatedOnce (parties : List Association) (party : Party) (fspId : String) : Prop :=
  ∃ before d after, parties = before ++ d :: after ∧ d.fspId = .str fspId ∧
    party.Describes d ∧ ∀ other ∈ before ++ after, ¬ party.Describes other

/-- The turn keeps what the removal has achieved: the removal returns when no
association of the party is left, and no lookup writes an answer to the cache once
it has returned. -/
structure RemovesCleanly (party : Party) (pool : Pool (BuiltinTask T) (BuiltinWorld T))
    (t : BuiltinTurn) : Prop where
  last : ∀ fspId, pool.tasks[t.task]? = some (.uncacheAssociation fspId party) →
    t.failure .redisDel = none → ∀ d ∈ pool.world.parties, ¬ party.Describes d
  inTime : ∀ repo data, pool.tasks[t.task]? = some (.cacheParticipant repo party data) →
    t.failure .redisSetex = none → ¬ Departed pool

/-- No lookup writes an answer to the cache once the removal has returned. -/
def WritesInTime (party : Party) (pool : Pool (BuiltinTask T) (BuiltinWorld T))
    (t : BuiltinTurn) : Prop :=
  ∀ repo data, pool.tasks[t.task]? = some (.cacheParticipant repo party data) →
    t.failure .redisSetex = none → ¬ Departed pool

/-- The task is a removal of this participant's association of the party. -/
def Removes (fspId : String) (party : Party) : BuiltinTask T → Prop
  | .deleteAssociation fspId' party' | .uncacheAssociation fspId' party' =>
    fspId' = fspId ∧ party' = party
  | .returned _ => True
  | _ => False

/-- The task is a lookup of the party. -/
def LooksUp (party : Party) : BuiltinTask T → Prop
  | .readCache _ party' | .findParticipant _ party' | .cacheParticipant _ party' _ =>
    party' = party
  | .returned _ => True
  | _ => False

/-- Nothing of the party is cached or stored. -/
structure Gone (party : Party) (w : BuiltinWorld T) : Prop where
  uncached : w.cache.entry party.key = none
  deleted : ∀ d ∈ w.parties, ¬ party.Describes d

/-- The first task is the removal, and the others are lookups. -/
def RemovalFirst (fspId : String) (party : Party) (tasks : List (BuiltinTask T)) : Prop :=
  ∃ removal lookups, tasks = removal :: lookups ∧ Removes fspId party removal ∧
    ∀ task ∈ lookups, LooksUp party task

/-- What holds between turns: a removal and lookups, one owner of the party, and
nothing of it left once the removal has returned. -/
structure Removing (fspId : String) (party : Party)
    (pool : Pool (BuiltinTask T) (BuiltinWorld T)) : Prop where
  tasks : RemovalFirst fspId party pool.tasks
  owned : OwnedBy pool.world.parties party fspId
  gone : Departed pool → Gone party pool.world

variable {fspId : String} {party : Party} {pool : Pool (BuiltinTask T) (BuiltinWorld T)}
  {t : BuiltinTurn}

theorem departed_cons {task : BuiltinTask T} {tasks : List (BuiltinTask T)}
    {w : BuiltinWorld T} :
    Departed ⟨task :: tasks, w⟩ ↔ ∃ value, task = .returned (.ok value) := by
  simp only [Departed, List.head?_cons, Option.some.injEq]

/-- A removal and lookups by several adapters, none of them begun. -/
def removal (fspId : String) (party : Party) (repos : List (MongoOracleProviderRepo T))
    (w : BuiltinWorld T) : Pool (BuiltinTask T) (BuiltinWorld T) :=
  ⟨.deleteAssociation fspId party :: repos.map fun repo => .readCache repo party, w⟩

theorem removing_removal (repos : List (MongoOracleProviderRepo T)) {w : BuiltinWorld T}
    (h : OwnedBy w.parties party fspId) : Removing fspId party (removal fspId party repos w) := by
  refine ⟨⟨_, _, rfl, ⟨rfl, rfl⟩, fun task htask => ?_⟩, h, fun hdeparted => ?_⟩
  · obtain ⟨repo, -, rfl⟩ := List.mem_map.mp htask
    rfl
  · obtain ⟨value, hvalue⟩ := departed_cons.mp hdeparted
    cases hvalue

/-- The association of the party is the only one until it is deleted. -/
structure OnlyOne (fspId : String) (party : Party)
    (pool : Pool (BuiltinTask T) (BuiltinWorld T)) : Prop where
  undeleted : pool.tasks.head? = some (.deleteAssociation fspId party) →
    AssociatedOnce pool.world.parties party fspId
  deleted : pool.tasks.head? = some (.uncacheAssociation fspId party) →
    ∀ d ∈ pool.world.parties, ¬ party.Describes d

theorem AssociatedOnce.ownedBy {parties : List Association}
    (h : AssociatedOnce parties party fspId) : OwnedBy parties party fspId := by
  obtain ⟨before, d, after, rfl, hfsp, -, hothers⟩ := h
  intro other hother hdescribes
  rcases List.mem_append.mp hother with hbefore | hrest
  · exact absurd hdescribes (hothers other (List.mem_append_left _ hbefore))
  · rcases List.mem_cons.mp hrest with rfl | hafter
    · exact hfsp
    · exact absurd hdescribes (hothers other (List.mem_append_right _ hafter))

/-- Deleting the only association of the party leaves none. -/
theorem AssociatedOnce.not_describes {parties : List Association}
    (h : AssociatedOnce parties party fspId) :
    ∀ d ∈ parties.eraseP (party.filter fspId).satisfiedBy, ¬ party.Describes d := by
  obtain ⟨before, d, after, rfl, hfsp, hdescribes, hothers⟩ := h
  have hbefore : ∀ other ∈ before, ¬ (party.filter fspId).satisfiedBy other = true :=
    fun other hother hmatch =>
      hothers other (List.mem_append_left _ hother) (Party.satisfiedBy_filter.mp hmatch).2
  rwa [List.eraseP_append_right _ hbefore,
    List.eraseP_cons_of_pos (Party.satisfiedBy_filter.mpr ⟨hfsp, hdescribes⟩)]

theorem OnlyOne.removesCleanly_iff (h : OnlyOne fspId party pool)
    (hfirst : RemovalFirst fspId party pool.tasks) :
    RemovesCleanly party pool t ↔ WritesInTime party pool t := by
  refine ⟨RemovesCleanly.inTime, fun htime => ⟨fun fspId' htask _ => h.deleted ?_, htime⟩⟩
  obtain ⟨removal, lookups, htasks, hremoval, hlookups⟩ := hfirst
  rw [htasks] at htask ⊢
  cases hindex : t.task with
  | zero =>
    rw [hindex] at htask
    obtain rfl : removal = .uncacheAssociation fspId' party := Option.some.inj htask
    rw [List.head?_cons, hremoval.1]
  | succ index =>
    rw [hindex, List.getElem?_cons_succ] at htask
    cases hlookups _ (List.mem_of_getElem? htask)

section

variable [Add T]

/-- What a turn does to a removal and its lookups. -/
inductive Removed (fspId : String) (party : Party) (pool : Pool (BuiltinTask T) (BuiltinWorld T))
    (t : BuiltinTurn) : Pool (BuiltinTask T) (BuiltinWorld T) → Prop
  /-- Nothing of the party is touched, and the removal does not return. -/
  | quiet (tasks : List (BuiltinTask T))
      (hhead : tasks.head? = pool.tasks.head? ∨
        ∃ outcome, tasks.head? = some (.returned outcome))
      (hremoval : Departed ⟨tasks, pool.world⟩ → Departed pool)
      (hlast : ∀ fspId, pool.tasks[t.task]? = some (.uncacheAssociation fspId party) →
        t.failure .redisDel ≠ none)
      (hwrite : ∀ repo data, pool.tasks[t.task]? = some (.cacheParticipant repo party data) →
        t.failure .redisSetex ≠ none) :
      Removed fspId party pool t ⟨tasks, { pool.world with failure := t.failure }⟩
  | deleted (lookups : List (BuiltinTask T))
      (htasks : pool.tasks = .deleteAssociation fspId party :: lookups) (htask : t.task = 0) :
      Removed fspId party pool t
        ⟨.uncacheAssociation fspId party :: lookups,
          { pool.world with
            parties := pool.world.parties.eraseP (party.filter fspId).satisfiedBy
            failure := t.failure }⟩
  | uncached (lookups : List (BuiltinTask T))
      (htasks : pool.tasks = .uncacheAssociation fspId party :: lookups) (htask : t.task = 0)
      (hok : t.failure .redisDel = none) :
      Removed fspId party pool t
        ⟨.returned (.ok .null) :: lookups,
          { pool.world with cache := pool.world.cache.del party.key, failure := t.failure }⟩
  | cached (repo : MongoOracleProviderRepo T) (data : Association)
      (removal : BuiltinTask T) (lookups lookups' : List (BuiltinTask T))
      (htasks : pool.tasks = removal :: lookups)
      (htask : pool.tasks[t.task]? = some (.cacheParticipant repo party data))
      (hok : t.failure .redisSetex = none) :
      Removed fspId party pool t
        ⟨removal :: lookups',
          repo.afterLookup data.fspId party { pool.world with failure := t.failure }⟩

variable {pool' : Pool (BuiltinTask T) (BuiltinWorld T)}

theorem Removed.owned (hremoved : Removed fspId party pool t pool')
    (h : OwnedBy pool.world.parties party fspId) : OwnedBy pool'.world.parties party fspId := by
  cases hremoved with
  | deleted => exact fun d hd => h d (List.mem_of_mem_eraseP hd)
  | quiet => exact h
  | uncached => exact h
  | cached => exact h

/-- A turn leaves the party gone after its removal exactly when it is clean. -/
theorem Removed.gone_iff (hremoved : Removed fspId party pool t pool')
    (h : Removing fspId party pool) :
    (Departed pool' → Gone party pool'.world) ↔ RemovesCleanly party pool t := by
  cases hremoved with
  | quiet tasks _ hremoval hlast hwrite =>
    refine iff_of_true (fun hdeparted => ?_)
      ⟨fun fspId htask hok => ?_, fun repo data htask hok => ?_⟩
    · have hgone := h.gone (hremoval hdeparted)
      exact ⟨hgone.uncached, hgone.deleted⟩
    · exact absurd hok (hlast fspId htask)
    · exact absurd hok (hwrite repo data htask)
  | deleted lookups htasks htask =>
    have htask : pool.tasks[t.task]? = some (.deleteAssociation fspId party) := by
      rw [htasks, htask]
      rfl
    refine iff_of_true (fun hdeparted => ?_) ⟨fun fspId hsome => ?_, fun repo data hsome => ?_⟩
    · obtain ⟨value, hvalue⟩ := departed_cons.mp hdeparted
      cases hvalue
    · cases htask.symm.trans hsome
    · cases htask.symm.trans hsome
  | uncached lookups htasks htask hok =>
    have htask : pool.tasks[t.task]? = some (.uncacheAssociation fspId party) := by
      rw [htasks, htask]
      rfl
    constructor
    · intro hgone
      refine ⟨fun _ _ _ => (hgone (departed_cons.mpr ⟨.null, rfl⟩)).deleted, ?_⟩
      intro repo data hsome
      cases htask.symm.trans hsome
    · intro hclean _
      refine ⟨?_, hclean.last fspId htask hok⟩
      rw [TtlCache.entry_del, if_pos rfl]
  | cached repo data removal lookups lookups' htasks htask hok =>
    have hdeparted : Departed pool ↔ Departed (T := T) ⟨removal :: lookups', pool.world⟩ := by
      rw [Departed, htasks]
      rfl
    constructor
    · intro hgone
      refine ⟨fun fspId hsome => (by cases htask.symm.trans hsome), fun _ _ _ _ hpool => ?_⟩
      have hentry := (hgone (hdeparted.mp hpool)).uncached
      simp only [MongoOracleProviderRepo.afterLookup, TtlCache.entry_setex, if_pos] at hentry
      cases hentry
    · intro hclean hpool
      exact absurd (hdeparted.mpr hpool) (hclean.inTime repo data htask hok)

theorem Removed.onlyOne {pool' : Pool (BuiltinTask T) (BuiltinWorld T)}
    (hremoved : Removed fspId party pool t pool') (h : OnlyOne fspId party pool) :
    OnlyOne fspId party pool' := by
  cases hremoved with
  | quiet tasks hhead =>
    rcases hhead with hsame | ⟨outcome, hreturned⟩
    · exact ⟨fun hfirst => h.undeleted (hsame ▸ hfirst), fun hfirst => h.deleted (hsame ▸ hfirst)⟩
    · exact ⟨fun hfirst => (by cases hreturned.symm.trans hfirst),
        fun hfirst => (by cases hreturned.symm.trans hfirst)⟩
  | deleted lookups htasks =>
    have honce := h.undeleted (by rw [htasks, List.head?_cons])
    exact ⟨fun hfirst => (by cases hfirst), fun _ => honce.not_describes⟩
  | uncached => exact ⟨fun hfirst => (by cases hfirst), fun hfirst => (by cases hfirst)⟩
  | cached repo data removal lookups lookups' htasks =>
    exact ⟨fun hfirst => h.undeleted (htasks ▸ hfirst), fun hfirst => h.deleted (htasks ▸ hfirst)⟩

end

variable [LinearOrder T] [Add T]

/-- The cache is clear and every lookup answers with `null` exactly when nothing of the
party is there. -/
theorem uncached_and_lookups_iff_gone {w : BuiltinWorld T}
    (howned : OwnedBy w.parties party fspId) :
    (w.cache.entry party.key = none ∧ ∀ repo : MongoOracleProviderRepo T,
        (repo.lookup party { w with failure := fun _ => none }).1 = .ok .null) ↔
      Gone party w := by
  have hlookup : ∀ repo : MongoOracleProviderRepo T, w.cache.entry party.key = none →
      (repo.lookup party { w with failure := fun _ => none }).1 =
        .ok ((w.parties.find? party.query.satisfiedBy).elim .null Association.fspId) := by
    intro repo hentry
    have hget : w.cache.get w.now party.key = none := by rw [TtlCache.get, hentry]
    rw [MongoOracleProviderRepo.lookup_eq (fun _ => rfl)]
    simp only [hget]
    cases w.parties.find? party.query.satisfiedBy with
    | none => rfl
    | some d => rfl
  constructor
  · rintro ⟨hentry, hnull⟩
    refine ⟨hentry, fun d hd hdescribes => ?_⟩
    have hanswer := (hlookup ⟨sampleRepo.oracle, w.now⟩ hentry).symm.trans (hnull _)
    cases hfind : w.parties.find? party.query.satisfiedBy with
    | none =>
      exact List.find?_eq_none.mp hfind d hd (Party.satisfiedBy_query.mpr hdescribes)
    | some first =>
      have hfirst := howned first (List.mem_of_find?_eq_some hfind)
        (Party.satisfiedBy_query.mp (List.find?_some hfind))
      rw [hfind, Option.elim_some, hfirst] at hanswer
      cases hanswer
  · rintro ⟨hentry, hdeleted⟩
    refine ⟨hentry, fun repo => ?_⟩
    have hfind : w.parties.find? party.query.satisfiedBy = none :=
      List.find?_eq_none.mpr fun d hd hmatch => hdeleted d hd (Party.satisfiedBy_query.mp hmatch)
    rw [hlookup repo hentry, hfind, Option.elim_none]

/-- A turn of a lookup leaves the cache and the collection as they are, or it writes
an answer to the cache. -/
theorem advance_looksUp {task : BuiltinTask T} (h : LooksUp party task) (w : BuiltinWorld T) :
    LooksUp party (advance task w).1 ∧
      (((advance task w).2 = w ∧
          ∀ repo data, task = .cacheParticipant repo party data → w.failure .redisSetex ≠ none) ∨
        ∃ repo data, task = .cacheParticipant repo party data ∧ w.failure .redisSetex = none ∧
          (advance task w).2 = repo.afterLookup data.fspId party w) := by
  cases task with
  | readCache repo party' =>
    obtain rfl := h
    simp only [advance, MongoOracleProviderRepo.getFromCache]
    cases w.failure .redisGet with
    | some message => exact ⟨trivial, Or.inl ⟨rfl, fun _ _ h => (by cases h)⟩⟩
    | none =>
      dsimp only
      cases w.cache.get w.now (MongoOracleProviderRepo.getKeyWithPrefix (.str party'.partyType)
        (.str party'.partyId) (.ofOption party'.partySubType) (.ofOption party'.currency)) with
      | some cacheData => exact ⟨trivial, Or.inl ⟨rfl, fun _ _ h => (by cases h)⟩⟩
      | none => exact ⟨rfl, Or.inl ⟨rfl, fun _ _ h => (by cases h)⟩⟩
  | findParticipant repo party' =>
    obtain rfl := h
    simp only [advance]
    cases w.failure .findOne with
    | some message => exact ⟨trivial, Or.inl ⟨rfl, fun _ _ h => (by cases h)⟩⟩
    | none =>
      cases w.parties.find? party'.query.satisfiedBy with
      | none => exact ⟨trivial, Or.inl ⟨rfl, fun _ _ h => (by cases h)⟩⟩
      | some data => exact ⟨rfl, Or.inl ⟨rfl, fun _ _ h => (by cases h)⟩⟩
  | cacheParticipant repo party' data =>
    obtain rfl := h
    refine ⟨trivial, ?_⟩
    simp only [advance, MongoOracleProviderRepo.setToCache]
    cases hset : w.failure .redisSetex with
    | some message => exact Or.inl ⟨rfl, fun _ _ _ h => (by cases h)⟩
    | none => exact Or.inr ⟨repo, data, rfl, rfl, rfl⟩
  | returned outcome => exact ⟨trivial, Or.inl ⟨rfl, fun _ _ h => (by cases h)⟩⟩
  | findAssociation => cases h
  | insertAssociation => cases h
  | cacheAssociation => cases h
  | deleteAssociation => cases h
  | uncacheAssociation => cases h

/-- A turn of a removal deletes the association, or it returns from deleting the key of
the party, or it changes nothing and does not return. -/
theorem advance_removes {task : BuiltinTask T} (h : Removes fspId party task)
    (w : BuiltinWorld T) :
    Removes fspId party (advance task w).1 ∧
      ((task = .deleteAssociation fspId party ∧ w.failure .deleteOne = none ∧
          advance task w = (.uncacheAssociation fspId party,
            { w with parties := w.parties.eraseP (party.filter fspId).satisfiedBy })) ∨
        (task = .uncacheAssociation fspId party ∧ w.failure .redisDel = none ∧
          advance task w = (.returned (.ok .null), { w with cache := w.cache.del party.key })) ∨
        ∃ outcome, advance task w = (.returned outcome, w) ∧
          (∀ value, outcome = .ok value → task = .returned (.ok value)) ∧
          ∀ fspId, task = .uncacheAssociation fspId party → w.failure .redisDel ≠ none) := by
  cases task with
  | deleteAssociation fspId' party' =>
    obtain ⟨rfl, rfl⟩ := h
    dsimp only [advance]
    cases w.failure .deleteOne with
    | some message =>
      exact ⟨trivial, Or.inr (Or.inr ⟨_, rfl, fun _ h => (by cases h), fun _ h => (by cases h)⟩)⟩
    | none => exact ⟨⟨rfl, rfl⟩, Or.inl ⟨rfl, rfl, rfl⟩⟩
  | uncacheAssociation fspId' party' =>
    obtain ⟨rfl, rfl⟩ := h
    refine ⟨trivial, Or.inr ?_⟩
    dsimp only [advance, MongoOracleProviderRepo.delFromCache]
    cases w.failure .redisDel with
    | some message => exact Or.inr ⟨_, rfl, fun _ h => (by cases h), fun _ _ h => (by cases h)⟩
    | none => exact Or.inl ⟨rfl, rfl, rfl⟩
  | returned outcome =>
    exact ⟨trivial, Or.inr (Or.inr ⟨outcome, rfl, fun _ h => congrArg returned h,
      fun _ h => (by cases h)⟩)⟩
  | findAssociation => cases h
  | insertAssociation => cases h
  | cacheAssociation => cases h
  | readCache => cases h
  | findParticipant => cases h
  | cacheParticipant => cases h

theorem leavesNothing_iff {party : Party} {pool : Pool (BuiltinTask T) (BuiltinWorld T)}
    (howned : OwnedBy pool.world.parties party fspId) :
    LeavesNothing party pool ↔ (Departed pool → Gone party pool.world) :=
  imp_congr_right fun _ => uncached_and_lookups_iff_gone howned

theorem removed_turn (t : BuiltinTurn) (h : RemovalFirst fspId party pool.tasks) :
    RemovalFirst fspId party (turn pool t).tasks ∧ Removed fspId party pool t (turn pool t) := by
  obtain ⟨tasks, w⟩ := pool
  obtain ⟨removal, lookups, rfl, hremoval, hlookups⟩ := h
  obtain ⟨index, failure⟩ := t
  cases index with
  | zero =>
    rw [turn, Pool.step_zero]
    obtain ⟨hremoves, hcases⟩ := advance_removes hremoval { w with failure := failure }
    refine ⟨⟨_, lookups, rfl, hremoves, hlookups⟩, ?_⟩
    rcases hcases with ⟨rfl, -, heq⟩ | ⟨rfl, hok, heq⟩ | ⟨outcome, heq, hreturned, hlast⟩
    · rw [heq]
      exact .deleted lookups rfl rfl
    · rw [heq]
      exact .uncached lookups rfl rfl hok
    · rw [heq]
      refine .quiet _ (Or.inr ⟨outcome, rfl⟩) ?_
        (fun fspId htask => hlast fspId (Option.some.inj htask)) ?_
      · rw [departed_cons, departed_cons]
        rintro ⟨value, hvalue⟩
        exact ⟨value, hreturned value (returned.inj hvalue)⟩
      · intro repo data htask
        obtain rfl : removal = .cacheParticipant repo party data := Option.some.inj htask
        cases hremoval
  | succ index =>
    rw [turn, Pool.step_succ]
    cases htask : lookups[index]? with
    | none =>
      rw [Pool.step_of_none advance htask]
      refine ⟨⟨removal, lookups, rfl, hremoval, hlookups⟩, .quiet _ (Or.inl rfl) id ?_ ?_⟩
      · intro fspId hsome
        cases htask.symm.trans hsome
      · intro repo data hsome
        cases htask.symm.trans hsome
    | some task =>
      have hlooksUp := hlookups task (List.mem_of_getElem? htask)
      obtain ⟨hnext, hcases⟩ := advance_looksUp hlooksUp { w with failure := failure }
      obtain ⟨before, after, htasks, -, hstep⟩ :=
        @Pool.step_of_some _ _ advance ⟨lookups, { w with failure := failure }⟩ _ _ htask
      have hsplit : lookups = before ++ task :: after := htasks
      rw [hstep]
      refine ⟨⟨removal, _, rfl, hremoval, fun other hother => ?_⟩, ?_⟩
      · rcases Pool.eq_or_mem_of_mem_turned hsplit hother with rfl | hold
        · exact hnext
        · exact hlookups other hold
      · rcases hcases with ⟨hworld, hwrite⟩ | ⟨repo, data, rfl, hok, hworld⟩
        · rw [hworld]
          refine .quiet _ (Or.inl rfl) (fun h => h) ?_ ?_
          · intro fspId hsome
            obtain rfl := Option.some.inj (htask.symm.trans hsome)
            cases hlooksUp
          · intro repo data hsome
            exact hwrite repo data (Option.some.inj (htask.symm.trans hsome))
        · rw [hworld]
          exact .cached repo data removal lookups _ rfl htask hok

/-- A turn after which the removal leaves nothing is exactly a clean turn. -/
theorem leavesNothing_turn_iff (t : BuiltinTurn) (h : Removing fspId party pool) :
    LeavesNothing party (turn pool t) ↔ RemovesCleanly party pool t := by
  have hremoved := (removed_turn t h.tasks).2
  rw [leavesNothing_iff (hremoved.owned h.owned)]
  exact hremoved.gone_iff h

theorem removing_turn (t : BuiltinTurn) (h : Removing fspId party pool)
    (hclean : RemovesCleanly party pool t) : Removing fspId party (turn pool t) := by
  obtain ⟨htasks, hremoved⟩ := removed_turn t h.tasks
  exact ⟨htasks, hremoved.owned h.owned, (hremoved.gone_iff h).mpr hclean⟩

/-- **A removal leaves nothing behind exactly when every turn is clean.** From its
return on, the cache has no entry for the party and lookups find no participant. -/
theorem leavesNothing_iff_removesCleanly (fspId : String) (party : Party)
    (repos : List (MongoOracleProviderRepo T)) (w : BuiltinWorld T)
    (howned : OwnedBy w.parties party fspId) (turns : List BuiltinTurn) :
    (∀ before, before <+: turns →
        LeavesNothing party (run turn (removal fspId party repos w) before)) ↔
      Along turn (RemovesCleanly party) (removal fspId party repos w) turns := by
  have hstart := removing_removal repos howned
  rw [forall_prefix_iff_along, and_iff_right ((leavesNothing_iff howned).mpr hstart.gone)]
  exact along_iff_of_exact (Removing fspId party) (fun _ t h => leavesNothing_turn_iff t h)
    (fun _ t h hclean => removing_turn t h hclean) turns _ hstart

/-- A removal of the only association of the party leaves nothing behind exactly when
no lookup writes to the cache after it. -/
theorem leavesNothing_iff_writesInTime (fspId : String) (party : Party)
    (repos : List (MongoOracleProviderRepo T)) (w : BuiltinWorld T)
    (honce : AssociatedOnce w.parties party fspId) (turns : List BuiltinTurn) :
    (∀ before, before <+: turns →
        LeavesNothing party (run turn (removal fspId party repos w) before)) ↔
      Along turn (WritesInTime party) (removal fspId party repos w) turns := by
  have hstart := removing_removal repos honce.ownedBy
  rw [forall_prefix_iff_along, and_iff_right ((leavesNothing_iff honce.ownedBy).mpr hstart.gone)]
  refine along_iff_of_exact (fun pool => Removing fspId party pool ∧ OnlyOne fspId party pool)
    (fun pool t h => ?_) (fun pool t h htime => ?_) turns _ ⟨hstart, fun _ => honce, ?_⟩
  · exact (leavesNothing_turn_iff t h.1).trans (h.2.removesCleanly_iff h.1.tasks)
  · exact ⟨removing_turn t h.1 ((h.2.removesCleanly_iff h.1.tasks).mpr htime),
      (removed_turn t h.1.tasks).2.onlyOne h.2⟩
  · exact fun hfirst => (by cases hfirst)

/-! ## A late write -/

/-- A party with a sub type and a currency. -/
def leavingParty : Party := ⟨"MSISDN", "27713803912", some "PERSONAL", some "EUR"⟩

/-- The party is associated with one participant, and nothing is cached. -/
def leavingWorld : BuiltinWorld ℕ :=
  { BuiltinWorld.empty 0 with parties := [leavingParty.document "greenbank"] }

theorem associatedOnce_leavingWorld :
    AssociatedOnce leavingWorld.parties leavingParty "greenbank" :=
  ⟨[], leavingParty.document "greenbank", [], rfl, rfl,
    (Party.satisfiedBy_filter.mp Party.satisfiedBy_filter_document).2, fun _ h => (by cases h)⟩

/-- A lookup finds the association, the removal runs, and the lookup caches its
answer. -/
def lateWrite : List BuiltinTurn :=
  [1, 1, 0, 0, 1].map fun task => ⟨task, fun _ => none⟩

theorem not_forall_leavesNothing :
    ¬ ∀ (fspId : String) (party : Party) (repos : List (MongoOracleProviderRepo ℕ))
      (w : BuiltinWorld ℕ) (turns : List BuiltinTurn), AssociatedOnce w.parties party fspId →
        (∀ task ∈ (run turn (removal fspId party repos w) turns).tasks,
          ∃ value, task = .returned (.ok value)) →
        LeavesNothing party (run turn (removal fspId party repos w) turns) := by
  intro h
  have hnothing := h "greenbank" leavingParty [sampleRepo] leavingWorld lateWrite
    associatedOnce_leavingWorld (by
      rintro task htask
      have htasks : task ∈ [returned (.ok .null), returned (.ok (.str "greenbank"))] := htask
      simp only [List.mem_cons, List.not_mem_nil, or_false] at htasks
      rcases htasks with rfl | rfl
      · exact ⟨_, rfl⟩
      · exact ⟨_, rfl⟩)
  exact absurd ((hnothing ⟨.null, rfl⟩).2 sampleRepo) (by decide)

/-- A lookup finds the association and caches its answer, and the removal deletes both. -/
def earlyWrite : List BuiltinTurn :=
  [1, 1, 0, 1, 0].map fun task => ⟨task, fun _ => none⟩

/-- The lookup caches its answer before the removal deletes the key. -/
theorem leavesNothing_early_write :
    Along turn (RemovesCleanly leavingParty)
        (removal "greenbank" leavingParty [sampleRepo] leavingWorld) earlyWrite ∧
      ∀ before, before <+: earlyWrite → LeavesNothing leavingParty
        (run turn (removal "greenbank" leavingParty [sampleRepo] leavingWorld) before) := by
  have hclean : Along turn (RemovesCleanly leavingParty)
      (removal "greenbank" leavingParty [sampleRepo] leavingWorld) earlyWrite := by
    refine ⟨⟨fun fspId htask => ?_, fun repo data htask => ?_⟩,
      ⟨fun fspId htask => ?_, fun repo data htask => ?_⟩,
      ⟨fun fspId htask => ?_, fun repo data htask => ?_⟩,
      ⟨fun fspId htask => ?_, fun repo data _ _ hdeparted => ?cached⟩,
      ⟨fun fspId _ _ d hd => ?deleted, fun repo data htask => ?_⟩, trivial⟩
    case cached =>
      obtain ⟨value, hvalue⟩ := hdeparted
      cases hvalue
    case deleted => cases hd
    all_goals cases htask
  exact ⟨hclean, (leavesNothing_iff_removesCleanly _ _ _ _ associatedOnce_leavingWorld.ownedBy
    _).mpr hclean⟩

end BuiltinTask

end AccountLookup

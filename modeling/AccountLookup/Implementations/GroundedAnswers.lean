/-
# Answers that somebody gave

Calls of all kinds, by any number of adapters and service instances, share a collection and
a cache; they begin when they like, their turns interleave, their database and cache calls
fail, the clock moves and the cache forgets. What a lookup answers is never made up: it was
held by the collection at some moment before, for a party with the same cache key, and was
put there by an association call; and a lookup that answers that there is nobody has looked
when there was nobody.
-/

import AccountLookup.Domain.Directory
import AccountLookup.Implementations.ConcurrentAssociations
import AccountLookup.Implementations.ConcurrentRemovals

namespace AccountLookup

open Library Library.Transition

variable {T : Type}

/-- What happens to the calls and the stores that they share. -/
inductive SharedInput (T : Type)
  /-- A call begins. -/
  | call (repo : MongoOracleProviderRepo T) (request : PartyCall)
  | turn (t : BuiltinTurn)
  /-- The cache drops a key before its time. -/
  | expire (key : String)
  /-- The clock moves on to the given instant. -/
  | wait (instant : T)

namespace BuiltinTask

/-- A call that has not had a turn. -/
def begun (repo : MongoOracleProviderRepo T) : PartyCall → BuiltinTask T
  | .associateParticipant fspId party => .findAssociation repo fspId party
  | .disassociateParticipant fspId party => .deleteAssociation fspId party
  | .getParticipantFspId party => .readCache repo party

/-- The calls and the stores after an input. -/
def share [LinearOrder T] [Add T] (pool : Pool (BuiltinTask T) (BuiltinWorld T)) :
    SharedInput T → Pool (BuiltinTask T) (BuiltinWorld T)
  | .call repo request => ⟨pool.tasks ++ [begun repo request], pool.world⟩
  | .turn t => turn pool t
  | .expire key => ⟨pool.tasks, { pool.world with cache := pool.world.cache.del key }⟩
  | .wait instant => ⟨pool.tasks, { pool.world with now := max pool.world.now instant }⟩

/-- The collection holds the participant for a party with the key. -/
def Held (parties : List Association) (key : String) (fspId : JsString) : Prop :=
  ∃ (party : Party) (d : Association), party.key = key ∧ d ∈ parties ∧ party.Describes d ∧
    d.fspId = fspId

/-- The cache has the participant under the key. -/
def Cached (w : BuiltinWorld T) (key : String) (fspId : JsString) : Prop :=
  ∃ e, w.cache.entry key = some e ∧ e.value.fspId = fspId

/-- The call is about to write the participant to the cache. -/
def Carries (key : String) (fspId : JsString) : BuiltinTask T → Prop
  | .cacheAssociation _ fspId' party => party.key = key ∧ .str fspId' = fspId
  | .cacheParticipant _ party data => party.key = key ∧ data.fspId = fspId
  | _ => False

/-- The cache has the entry under the key, or a call is about to write its participant. -/
def Known (pool : Pool (BuiltinTask T) (BuiltinWorld T))
    (known : String × TtlEntry Association T) : Prop :=
  pool.world.cache.entry known.1 = some known.2 ∨
    ∃ task ∈ pool.tasks, task.Carries known.1 known.2.value.fspId

/-- The association call will store the document. -/
def Brings (d : Association) : BuiltinTask T → Prop
  | .findAssociation _ fspId party | .insertAssociation _ fspId party =>
    party.document fspId = d
  | _ => False

/-- The adapter of a call that may still write to the cache. -/
def adapter : BuiltinTask T → Option (MongoOracleProviderRepo T)
  | .findAssociation repo _ _ | .insertAssociation repo _ _ | .cacheAssociation repo _ _
  | .readCache repo _ | .findParticipant repo _ | .cacheParticipant repo _ _ => some repo
  | .deleteAssociation _ _ | .uncacheAssociation _ _ | .returned _ => none

/-- What a turn of a call does to the stores. -/
inductive StoreEffect [Add T] (task : BuiltinTask T) (w : BuiltinWorld T) :
    BuiltinWorld T → Prop
  | kept : StoreEffect task w w
  | stored (d : Association) (hbrings : task.Brings d) :
    StoreEffect task w { w with parties := w.parties ++ [d] }
  | removed (p : Association → Bool) :
    StoreEffect task w { w with parties := w.parties.eraseP p }
  | cached (repo : MongoOracleProviderRepo T) (party : Party) (fspId : JsString)
    (hadapter : task.adapter = some repo) (hcarries : task.Carries party.key fspId) :
    StoreEffect task w
      { w with
        cache := w.cache.setex party.key (party.record fspId)
          (w.now + repo.redisCacheDurationSecs) }
  | uncached (key : String) : StoreEffect task w { w with cache := w.cache.del key }

/-- How a call goes on after a turn that has left the world behind. -/
inductive GoesOn (w : BuiltinWorld T) : BuiltinTask T → BuiltinTask T → Prop
  | returned (task : BuiltinTask T) (outcome : Except JsError JsString) :
    GoesOn w task (.returned outcome)
  | checked (repo : MongoOracleProviderRepo T) (fspId : String) (party : Party) :
    GoesOn w (.findAssociation repo fspId party) (.insertAssociation repo fspId party)
  | stored (repo : MongoOracleProviderRepo T) (fspId : String) (party : Party)
    (hmem : party.document fspId ∈ w.parties) :
    GoesOn w (.insertAssociation repo fspId party) (.cacheAssociation repo fspId party)
  | removed (fspId : String) (party : Party) :
    GoesOn w (.deleteAssociation fspId party) (.uncacheAssociation fspId party)
  | missed (repo : MongoOracleProviderRepo T) (party : Party) :
    GoesOn w (.readCache repo party) (.findParticipant repo party)
  | found (repo : MongoOracleProviderRepo T) (party : Party) (data : Association)
    (hmem : data ∈ w.parties) (hdescribes : party.Describes data) :
    GoesOn w (.findParticipant repo party) (.cacheParticipant repo party data)

section Turns

variable {w : BuiltinWorld T} {key : String} {fspId : JsString}

theorem effect_setToCache [Add T] {task : BuiltinTask T} {repo : MongoOracleProviderRepo T}
    {party : Party} (hadapter : task.adapter = some repo)
    (hcarries : task.Carries party.key fspId) :
    StoreEffect task w (repo.setToCache (party.record fspId) w).2 := by
  rw [MongoOracleProviderRepo.setToCache]
  cases w.failure .redisSetex with
  | some message => exact .kept
  | none => exact .cached repo party fspId hadapter hcarries

theorem effect_delFromCache [Add T] {task : BuiltinTask T} {record : Association} :
    StoreEffect task w (MongoOracleProviderRepo.delFromCache record w).2 := by
  rw [MongoOracleProviderRepo.delFromCache]
  cases w.failure .redisDel with
  | some message => exact .kept
  | none => exact .uncached _

section Entries

variable [Add T] {task : BuiltinTask T} {w' : BuiltinWorld T}

/-- What the cache has after a turn it had before, or the call has just written it. -/
theorem StoreEffect.entry_cases (heffect : StoreEffect task w w') {e : TtlEntry Association T}
    (h : w'.cache.entry key = some e) :
    w.cache.entry key = some e ∨ task.Carries key e.value.fspId := by
  cases heffect with
  | kept => exact Or.inl h
  | stored d hbrings => exact Or.inl h
  | removed p => exact Or.inl h
  | cached repo party fspId hadapter hcarries =>
    rw [TtlCache.entry_setex] at h
    split at h
    · next hkey =>
      obtain rfl := Option.some.inj h
      exact Or.inr (hkey ▸ hcarries)
    · exact Or.inl h
  | uncached deleted =>
    rw [TtlCache.entry_del] at h
    split at h
    · cases h
    · exact Or.inl h

/-- What the collection holds after a turn it held before, or the call has brought it. -/
theorem StoreEffect.mem_parties (heffect : StoreEffect task w w') {d : Association}
    (h : d ∈ w'.parties) : d ∈ w.parties ∨ task.Brings d := by
  cases heffect with
  | kept => exact Or.inl h
  | stored d' hbrings =>
    rcases List.mem_append.mp h with hold | hnew
    · exact Or.inl hold
    · obtain rfl := List.mem_singleton.mp hnew
      exact Or.inr hbrings
  | removed p => exact Or.inl (List.mem_of_mem_eraseP h)
  | cached repo party fspId hadapter hcarries => exact Or.inl h
  | uncached deleted => exact Or.inl h

end Entries

section Calls

variable {task task' : BuiltinTask T}

/-- What a call is about to write after a turn it was about to write before, or the
collection holds it. -/
theorem GoesOn.carries (hgoes : GoesOn w task task') (h : task'.Carries key fspId) :
    task.Carries key fspId ∨ Held w.parties key fspId := by
  cases hgoes with
  | returned task outcome => exact False.elim h
  | checked repo fspId' party => exact False.elim h
  | stored repo fspId' party hmem =>
    obtain ⟨hkey, rfl⟩ := h
    have hdescribes : party.Describes (party.document fspId') :=
      (Party.satisfiedBy_filter.mp Party.satisfiedBy_filter_document).2
    exact Or.inr ⟨party, party.document fspId', hkey, hmem, hdescribes, rfl⟩
  | removed fspId' party => exact False.elim h
  | missed repo party => exact False.elim h
  | found repo party data hmem hdescribes =>
    exact Or.inr ⟨party, data, h.1, hmem, hdescribes, h.2⟩

/-- A call brings nothing that it did not bring before. -/
theorem GoesOn.brings (hgoes : GoesOn w task task') {d : Association} (h : task'.Brings d) :
    task.Brings d := by
  cases hgoes with
  | returned task outcome => exact False.elim h
  | checked repo fspId' party => exact h
  | stored repo fspId' party hmem => exact False.elim h
  | removed fspId' party => exact False.elim h
  | missed repo party => exact False.elim h
  | found repo party data hmem hdescribes => exact False.elim h

/-- A call stays with its adapter. -/
theorem GoesOn.adapter_eq (hgoes : GoesOn w task task') {repo : MongoOracleProviderRepo T}
    (h : task'.adapter = some repo) : task.adapter = some repo := by
  cases hgoes with
  | returned task outcome => cases h
  | checked repo' fspId' party => exact h
  | stored repo' fspId' party hmem => exact h
  | removed fspId' party => cases h
  | missed repo' party => exact h
  | found repo' party data hmem hdescribes => exact h

end Calls

variable [LinearOrder T] [Add T]

/-- **What a turn does to the stores.** -/
theorem effect_advance (task : BuiltinTask T) (w : BuiltinWorld T) :
    StoreEffect task w (advance task w).2 := by
  cases task with
  | findAssociation repo fspId party =>
    simp only [advance]
    cases w.failure .findOne with
    | some message => exact .kept
    | none =>
      cases w.parties.find? (party.filter fspId).satisfiedBy with
      | some d => exact .kept
      | none => exact .kept
  | insertAssociation repo fspId party =>
    simp only [advance]
    cases w.failure .insertOne with
    | some message => exact .kept
    | none => exact .stored _ rfl
  | cacheAssociation repo fspId party => exact effect_setToCache rfl ⟨rfl, rfl⟩
  | deleteAssociation fspId party =>
    simp only [advance]
    cases w.failure .deleteOne with
    | some message => exact .kept
    | none => exact .removed _
  | uncacheAssociation fspId party => exact effect_delFromCache
  | readCache repo party =>
    simp only [advance, MongoOracleProviderRepo.getFromCache]
    cases w.failure .redisGet with
    | some message => exact .kept
    | none =>
      rcases w.cache.get w.now _ with _ | cacheData
      · exact .kept
      · exact .kept
  | findParticipant repo party =>
    simp only [advance]
    cases w.failure .findOne with
    | some message => exact .kept
    | none =>
      cases w.parties.find? party.query.satisfiedBy with
      | none => exact .kept
      | some data => exact .kept
  | cacheParticipant repo party data => exact effect_setToCache rfl ⟨rfl, rfl⟩
  | returned outcome => exact .kept

/-- **How a turn moves its call on.** -/
theorem goesOn_advance (task : BuiltinTask T) (w : BuiltinWorld T) :
    GoesOn (advance task w).2 task (advance task w).1 := by
  cases task with
  | findAssociation repo fspId party =>
    simp only [advance]
    cases w.failure .findOne with
    | some message => exact .returned _ _
    | none =>
      cases w.parties.find? (party.filter fspId).satisfiedBy with
      | some d => exact .returned _ _
      | none => exact .checked repo fspId party
  | insertAssociation repo fspId party =>
    simp only [advance]
    cases w.failure .insertOne with
    | some message => exact .returned _ _
    | none => exact .stored repo fspId party (by simp)
  | cacheAssociation repo fspId party => exact .returned _ _
  | deleteAssociation fspId party =>
    simp only [advance]
    cases w.failure .deleteOne with
    | some message => exact .returned _ _
    | none => exact .removed fspId party
  | uncacheAssociation fspId party => exact .returned _ _
  | readCache repo party =>
    simp only [advance]
    rcases MongoOracleProviderRepo.getFromCache _ _ _ _ w with ⟨_ | _ | _, w'⟩
    · exact .returned _ _
    · exact .missed repo party
    · exact .returned _ _
  | findParticipant repo party =>
    simp only [advance]
    cases w.failure .findOne with
    | some message => exact .returned _ _
    | none =>
      cases hfind : w.parties.find? party.query.satisfiedBy with
      | none => exact .returned _ _
      | some data =>
        exact .found repo party data (List.mem_of_find?_eq_some hfind)
          (Party.satisfiedBy_query.mp (List.find?_some hfind))
  | cacheParticipant repo party data => exact .returned _ _
  | returned outcome => exact .returned _ _

/-- What an input does to the calls and the stores. -/
inductive Shared (pool : Pool (BuiltinTask T) (BuiltinWorld T)) :
    SharedInput T → Pool (BuiltinTask T) (BuiltinWorld T) → Prop
  | began (repo : MongoOracleProviderRepo T) (request : PartyCall) :
    Shared pool (.call repo request) ⟨pool.tasks ++ [begun repo request], pool.world⟩
  | moved (t : BuiltinTurn) (before after : List (BuiltinTask T)) (task task' : BuiltinTask T)
    (w' : BuiltinWorld T) (htasks : pool.tasks = before ++ task :: after)
    (hgoes : GoesOn w' task task')
    (heffect : StoreEffect task { pool.world with failure := t.failure } w') :
    Shared pool (.turn t) ⟨before ++ task' :: after, w'⟩
  | unmoved (t : BuiltinTurn) :
    Shared pool (.turn t) ⟨pool.tasks, { pool.world with failure := t.failure }⟩
  | expired (key : String) :
    Shared pool (.expire key) ⟨pool.tasks, { pool.world with cache := pool.world.cache.del key }⟩
  | waited (instant : T) :
    Shared pool (.wait instant) ⟨pool.tasks, { pool.world with now := max pool.world.now instant }⟩

/-- **What an input does.** -/
theorem shared_share (pool : Pool (BuiltinTask T) (BuiltinWorld T)) (input : SharedInput T) :
    Shared pool input (share pool input) := by
  cases input with
  | call repo request => exact .began repo request
  | turn t =>
    rw [share]
    cases htask : pool.tasks[t.task]? with
    | none =>
      rw [turn_of_none htask]
      exact .unmoved t
    | some task =>
      obtain ⟨before, after, htasks, hturn⟩ := turn_of_some htask
      rw [hturn]
      exact .moved t before after task _ _ htasks (goesOn_advance task _) (effect_advance task _)
  | expire key => exact .expired key
  | wait instant => exact .waited instant

variable {pool pool' : Pool (BuiltinTask T) (BuiltinWorld T)} {input : SharedInput T}

/-- What is known after an input was known before, or the collection holds it now. -/
theorem Shared.known (hshared : Shared pool input pool')
    {known : String × TtlEntry Association T} (h : Known pool' known) :
    Known pool known ∨ Held pool'.world.parties known.1 known.2.value.fspId := by
  cases hshared with
  | began repo request =>
    rcases h with hcached | ⟨task, htask, hcarries⟩
    · exact Or.inl (Or.inl hcached)
    · rcases List.mem_append.mp htask with hold | hnew
      · exact Or.inl (Or.inr ⟨task, hold, hcarries⟩)
      · obtain rfl := List.mem_singleton.mp hnew
        cases request <;> exact absurd hcarries id
  | moved t before after task task' w' htasks hgoes heffect =>
    have hmem : task ∈ pool.tasks := htasks ▸ List.mem_append_right _ List.mem_cons_self
    rcases h with hcached | ⟨other, hother, hcarries⟩
    · rcases heffect.entry_cases hcached with hbefore | hcarried
      · exact Or.inl (Or.inl hbefore)
      · exact Or.inl (Or.inr ⟨task, hmem, hcarried⟩)
    · rcases Pool.eq_or_mem_of_mem_turned htasks hother with rfl | hold
      · rcases hgoes.carries hcarries with hcarried | hheld
        · exact Or.inl (Or.inr ⟨task, hmem, hcarried⟩)
        · exact Or.inr hheld
      · exact Or.inl (Or.inr ⟨other, hold, hcarries⟩)
  | unmoved t => exact Or.inl h
  | expired key =>
    rcases h with hentry | hcarries
    · rw [TtlCache.entry_del] at hentry
      split at hentry
      · cases hentry
      · exact Or.inl (Or.inl hentry)
    · exact Or.inl (Or.inr hcarries)
  | waited instant => exact Or.inl h

/-! ## What a lookup answers -/

/-- The lookup with the index has returned the answer. -/
def Answered (index : ℕ) (pool : Pool (BuiltinTask T) (BuiltinWorld T)) (answer : JsString) :
    Prop :=
  pool.tasks[index]? = some (.returned (.ok answer))

/-- The answer is in an entry of the cache that is served, or has just been written, or
nobody is associated with the party. -/
def Finds (party : Party) (w : BuiltinWorld T) (answer : JsString) : Prop :=
  (∃ e, w.cache.entry party.key = some e ∧ e.value.fspId = answer ∧
    (w.now ≤ e.expiresAt ∨ ∃ duration, e.expiresAt = w.now + duration)) ∨
    answer = .null ∧ ∀ d ∈ w.parties, ¬ party.Describes d

/-- A lookup that returns finds its answer when it does. -/
theorem finds_advance {party : Party} {task : BuiltinTask T} {w : BuiltinWorld T}
    {answer : JsString} (hlookup : LooksUp party task)
    (h : (advance task w).1 = .returned (.ok answer)) :
    task = .returned (.ok answer) ∨ Finds party (advance task w).2 answer := by
  cases task with
  | readCache repo party' =>
    obtain rfl := hlookup
    simp only [advance, MongoOracleProviderRepo.getFromCache] at h ⊢
    cases hfail : w.failure .redisGet with
    | some message =>
      simp only [hfail] at h
      cases h
    | none =>
      cases hget : w.cache.get w.now party'.key with
      | none =>
        simp only [hfail, Party.getKeyWithPrefix_eq_key, hget] at h
        cases h
      | some cacheData =>
        simp only [hfail, Party.getKeyWithPrefix_eq_key, hget] at h ⊢
        obtain ⟨e, hentry, hlive, rfl⟩ := TtlCache.get_eq_some_iff.mp hget
        injection h with houtcome
        exact Or.inr (Or.inl ⟨e, hentry, Except.ok.inj houtcome, Or.inl hlive⟩)
  | findParticipant repo party' =>
    obtain rfl := hlookup
    simp only [advance] at h ⊢
    cases hfail : w.failure .findOne with
    | some message =>
      simp only [hfail] at h
      cases h
    | none =>
      cases hfind : w.parties.find? party'.query.satisfiedBy with
      | none =>
        simp only [hfail, hfind] at h ⊢
        injection h with houtcome
        refine Or.inr (Or.inr ⟨(Except.ok.inj houtcome).symm, fun d hd hdescribes => ?_⟩)
        exact List.find?_eq_none.mp hfind d hd (Party.satisfiedBy_query.mpr hdescribes)
      | some data =>
        simp only [hfail, hfind] at h
        cases h
  | cacheParticipant repo party' data =>
    obtain rfl := hlookup
    simp only [advance, MongoOracleProviderRepo.setToCache] at h ⊢
    cases hfail : w.failure .redisSetex with
    | some message =>
      simp only [hfail] at h
      cases h
    | none =>
      simp only [hfail] at h ⊢
      injection h with houtcome
      have hanswer : data.fspId = answer := Except.ok.inj houtcome
      have hset : (w.cache.setex party'.key (party'.record data.fspId)
          (w.now + repo.redisCacheDurationSecs)).entry party'.key =
          some ⟨party'.record data.fspId, w.now + repo.redisCacheDurationSecs⟩ :=
        (TtlCache.entry_setex ..).trans (if_pos rfl)
      exact Or.inr (Or.inl ⟨_, hset, hanswer, Or.inr ⟨_, rfl⟩⟩)
  | returned outcome => exact Or.inl h
  | findAssociation repo fspId party' => exact absurd hlookup id
  | insertAssociation repo fspId party' => exact absurd hlookup id
  | cacheAssociation repo fspId party' => exact absurd hlookup id
  | deleteAssociation fspId party' => exact absurd hlookup id
  | uncacheAssociation fspId party' => exact absurd hlookup id

/-- The task with the index is a lookup of the party. -/
def LooksUpAt (index : ℕ) (party : Party) (pool : Pool (BuiltinTask T) (BuiltinWorld T)) :
    Prop :=
  ∃ task, pool.tasks[index]? = some task ∧ LooksUp party task

/-- Only a turn of its own moves a call on. -/
theorem getElem?_share {pool : Pool (BuiltinTask T) (BuiltinWorld T)} {index : ℕ}
    {task : BuiltinTask T} (h : pool.tasks[index]? = some task) (input : SharedInput T) :
    (share pool input).tasks[index]? = some task ∨
      ∃ failure, (share pool input).tasks[index]? =
          some (advance task { pool.world with failure := failure }).1 ∧
        (share pool input).world = (advance task { pool.world with failure := failure }).2 := by
  cases input with
  | call repo request =>
    have hlt := (List.getElem?_eq_some_iff.mp h).1
    exact Or.inl ((List.getElem?_append_left hlt).trans h)
  | turn t =>
    have hturned := Pool.getElem?_step advance
      ⟨pool.tasks, { pool.world with failure := t.failure }⟩ t.task index
    by_cases hindex : t.task = index
    · subst hindex
      obtain ⟨before, after, -, hturn⟩ := turn_of_some h
      rw [if_pos rfl, h, Option.map_some] at hturned
      refine Or.inr ⟨t.failure, hturned, ?_⟩
      dsimp only [share]
      rw [hturn]
    · rw [if_neg hindex] at hturned
      exact Or.inl (hturned.trans h)
  | expire key => exact Or.inl h
  | wait instant => exact Or.inl h

theorem looksUpAt_share {index : ℕ} {party : Party}
    {pool : Pool (BuiltinTask T) (BuiltinWorld T)} (h : LooksUpAt index party pool)
    (input : SharedInput T) : LooksUpAt index party (share pool input) := by
  obtain ⟨task, htask, hlookup⟩ := h
  rcases getElem?_share htask input with hsame | ⟨failure, hmoved, -⟩
  · exact ⟨task, hsame, hlookup⟩
  · exact ⟨_, hmoved, (advance_looksUp hlookup _).1⟩

theorem answered_share {index : ℕ} {party : Party}
    {pool : Pool (BuiltinTask T) (BuiltinWorld T)} (h : LooksUpAt index party pool)
    (input : SharedInput T) (answer : JsString)
    (hanswered : Answered index (share pool input) answer) :
    Answered index pool answer ∨ Finds party (share pool input).world answer := by
  obtain ⟨task, htask, hlookup⟩ := h
  rcases getElem?_share htask input with hsame | ⟨failure, hmoved, hworld⟩
  · exact Or.inl (htask.trans (hsame.symm.trans hanswered))
  · rcases finds_advance hlookup (Option.some.inj (hmoved.symm.trans hanswered)) with
      rfl | hfinds
    · exact Or.inl htask
    · rw [hworld]
      exact Or.inr hfinds

/-- What a lookup answers it found at some moment since it began. -/
theorem exists_finds (pool : Pool (BuiltinTask T) (BuiltinWorld T))
    {repo : MongoOracleProviderRepo T} {party : Party} {after : List (SharedInput T)}
    {answer : JsString}
    (h : Answered pool.tasks.length
      (run share (share pool (.call repo (.getParticipantFspId party))) after) answer) :
    ∃ within, within <+: after ∧
      Finds party (run share (share pool (.call repo (.getParticipantFspId party))) within).world
        answer := by
  have hbegun : (share pool (.call repo (.getParticipantFspId party))).tasks[pool.tasks.length]? =
      some (.readCache repo party) := List.getElem?_concat_length
  rcases fact_or_established share (LooksUpAt pool.tasks.length party)
    (Answered pool.tasks.length) (fun pool answer => Finds party pool.world answer)
    (fun pool input hlookup => looksUpAt_share hlookup input)
    (fun pool input answer hlookup => answered_share hlookup input answer) after _
    ⟨_, hbegun, rfl⟩ answer h with hfirst | hfound
  · cases hbegun.symm.trans hfirst
  · exact hfound

/-- What the cache has was known before, or the collection has held it since. -/
theorem known_or_held (pool : Pool (BuiltinTask T) (BuiltinWorld T))
    {inputs : List (SharedInput T)} {key : String} {e : TtlEntry Association T}
    (h : (run share pool inputs).world.cache.entry key = some e) :
    Known pool (key, e) ∨ ∃ since, since <+: inputs ∧
      Held (run share pool since).world.parties key e.value.fspId :=
  fact_or_established share (fun _ => True) Known
    (fun pool known => Held pool.world.parties known.1 known.2.value.fspId)
    (fun _ _ _ => trivial) (fun pool input _ _ hknown => (shared_share pool input).known hknown)
    inputs pool trivial (key, e) (Or.inl h)

/-- A call has asked for the document to be stored. -/
def AskedFor (d : Association) (inputs : List (SharedInput T)) : Prop :=
  ∃ repo fspId party, SharedInput.call repo (.associateParticipant fspId party) ∈ inputs ∧
    party.document fspId = d

/-- The collection holds the document, or a call is going to store it. -/
def Stocked (d : Association) (pool : Pool (BuiltinTask T) (BuiltinWorld T)) : Prop :=
  d ∈ pool.world.parties ∨ ∃ task ∈ pool.tasks, task.Brings d

/-- What is stocked after an input was stocked before, or the input asks for it. -/
theorem Shared.stocked (hshared : Shared pool input pool') {d : Association}
    (h : Stocked d pool') : Stocked d pool ∨ AskedFor d [input] := by
  cases hshared with
  | began repo request =>
    rcases h with hmem | ⟨task, htask, hbrings⟩
    · exact Or.inl (Or.inl hmem)
    · rcases List.mem_append.mp htask with hold | hnew
      · exact Or.inl (Or.inr ⟨task, hold, hbrings⟩)
      · obtain rfl := List.mem_singleton.mp hnew
        cases request with
        | associateParticipant fspId party =>
          exact Or.inr ⟨repo, fspId, party, List.mem_singleton_self _, hbrings⟩
        | disassociateParticipant fspId party => exact absurd hbrings id
        | getParticipantFspId party => exact absurd hbrings id
  | moved t before after task task' w' htasks hgoes heffect =>
    have hmem : task ∈ pool.tasks := htasks ▸ List.mem_append_right _ List.mem_cons_self
    rcases h with hstored | ⟨other, hother, hbrought⟩
    · rcases heffect.mem_parties hstored with hbefore | hbringing
      · exact Or.inl (Or.inl hbefore)
      · exact Or.inl (Or.inr ⟨task, hmem, hbringing⟩)
    · rcases Pool.eq_or_mem_of_mem_turned htasks hother with rfl | hold
      · exact Or.inl (Or.inr ⟨task, hmem, hgoes.brings hbrought⟩)
      · exact Or.inl (Or.inr ⟨other, hold, hbrought⟩)
  | unmoved t => exact Or.inl h
  | expired key => exact Or.inl h
  | waited instant => exact Or.inl h

/-- What the collection holds, and what is going to be stored, was there at the start or a
call has asked for it. -/
theorem mem_or_askedFor (w : BuiltinWorld T) (d : Association) (inputs : List (SharedInput T))
    (h : Stocked d (run share ⟨[], w⟩ inputs)) : d ∈ w.parties ∨ AskedFor d inputs := by
  induction inputs using List.reverseRecOn with
  | nil =>
    rcases h with hmem | ⟨task, htask, -⟩
    · exact Or.inl hmem
    · cases htask
  | append_singleton inputs input ih =>
    rw [run_append, run_cons, run_nil] at h
    rcases (shared_share _ input).stocked h with hbefore | hasked
    · rcases ih hbefore with hstart | ⟨repo, fspId, party, hcall, hdocument⟩
      · exact Or.inl hstart
      · exact Or.inr ⟨repo, fspId, party, List.mem_append_left _ hcall, hdocument⟩
    · obtain ⟨repo, fspId, party, hcall, hdocument⟩ := hasked
      exact Or.inr ⟨repo, fspId, party, List.mem_append_right _ hcall, hdocument⟩

/-- **Every answer was given by somebody.** However calls on shared stores begin and
interleave, whichever of their database and cache calls fail, and whatever the clock and the
cache do: a participant that a lookup answers with was cached at the start, or was held by
the collection at some moment of the run for a party with the same cache key, in a document
that was there at the start or that an association call had asked for; otherwise the lookup
answers that there is nobody, and at some moment of the lookup nobody was associated. -/
theorem answers_grounded (w : BuiltinWorld T) (before after : List (SharedInput T))
    (repo : MongoOracleProviderRepo T) (party : Party) (answer : JsString)
    (h : Answered (run share ⟨[], w⟩ before).tasks.length
      (run share ⟨[], w⟩ (before ++ .call repo (.getParticipantFspId party) :: after)) answer) :
    Cached w party.key answer ∨
      (∃ (earlier : List (SharedInput T)) (other : Party) (d : Association),
        earlier <+: before ++ .call repo (.getParticipantFspId party) :: after ∧
        other.key = party.key ∧ d ∈ (run share ⟨[], w⟩ earlier).world.parties ∧
        other.Describes d ∧ d.fspId = answer ∧ (d ∈ w.parties ∨ AskedFor d earlier)) ∨
      answer = .null ∧ ∃ during, during <+: after ∧
        ∀ d ∈ (run share ⟨[], w⟩
          (before ++ .call repo (.getParticipantFspId party) :: during)).world.parties,
          ¬ party.Describes d := by
  -- the run up to the call, and from there on
  have hsplit : ∀ inputs : List (SharedInput T),
      run share ⟨[], w⟩ (before ++ .call repo (.getParticipantFspId party) :: inputs) =
        run share (share (run share ⟨[], w⟩ before) (.call repo (.getParticipantFspId party)))
          inputs := fun inputs => by rw [run_append, run_cons]
  rw [hsplit] at h
  obtain ⟨during, hduring, hfinds⟩ := exists_finds _ h
  rw [← hsplit] at hfinds
  rcases hfinds with ⟨e, hentry, rfl, -⟩ | ⟨hnull, hnobody⟩
  · rcases known_or_held _ hentry with hstart | ⟨earlier, hearlier, hheld⟩
    · rcases hstart with hcached | ⟨task, htask, -⟩
      · exact Or.inl ⟨e, hcached, rfl⟩
      · cases htask
    · obtain ⟨other, d, hkey, hmem, hdescribes, hanswer⟩ := hheld
      have hwithin : before ++ .call repo (.getParticipantFspId party) :: during <+:
          before ++ .call repo (.getParticipantFspId party) :: after :=
        (List.prefix_append_right_inj before).mpr (List.cons_prefix_cons.mpr ⟨rfl, hduring⟩)
      exact Or.inr (Or.inl ⟨earlier, other, d, hearlier.trans hwithin, hkey, hmem, hdescribes,
        hanswer, mem_or_askedFor w d earlier (Or.inl hmem)⟩)
  · exact Or.inr (Or.inr ⟨hnull, during, hduring, hnobody⟩)

end Turns

/-- A participant takes the sample number, and has it stored but not yet cached. -/
def sampleBefore : List (SharedInput ℕ) :=
  [.call sampleRepo (.associateParticipant "greenbank" samplePhoneNumber),
    .turn ⟨0, fun _ => none⟩, .turn ⟨0, fun _ => none⟩]

/-- A lookup finds the number in the collection while the cache is still without it. -/
def sampleAfter : List (SharedInput ℕ) :=
  [.turn ⟨1, fun _ => none⟩, .turn ⟨1, fun _ => none⟩, .turn ⟨0, fun _ => none⟩,
    .turn ⟨1, fun _ => none⟩]

theorem answers_grounded_samplePhoneNumber :
    Cached (BuiltinWorld.empty 0) samplePhoneNumber.key (.str "greenbank") ∨
      (∃ (earlier : List (SharedInput ℕ)) (other : Party) (d : Association),
        earlier <+: sampleBefore ++
          .call sampleRepo (.getParticipantFspId samplePhoneNumber) :: sampleAfter ∧
        other.key = samplePhoneNumber.key ∧
        d ∈ (run share ⟨[], BuiltinWorld.empty 0⟩ earlier).world.parties ∧
        other.Describes d ∧ d.fspId = .str "greenbank" ∧
        (d ∈ (BuiltinWorld.empty 0).parties ∨ AskedFor d earlier)) ∨
      JsString.str "greenbank" = .null ∧ ∃ during, during <+: sampleAfter ∧
        ∀ d ∈ (run share ⟨[], BuiltinWorld.empty 0⟩ (sampleBefore ++
          .call sampleRepo (.getParticipantFspId samplePhoneNumber) :: during)).world.parties,
          ¬ samplePhoneNumber.Describes d :=
  answers_grounded (BuiltinWorld.empty 0) sampleBefore sampleAfter sampleRepo samplePhoneNumber
    (.str "greenbank") rfl

end BuiltinTask

end AccountLookup

/-
# Answers that are recent

Calls on a shared collection and cache interleave, fail and are delayed as before. What the
collection has given up can still be answered for two reasons only: the cache serves an
entry until it expires, and a call that found or stored a document before may write it to
the cache later. So once no call under way is about to write a participant, and the cache
duration has passed, a lookup answers with the participant only when the collection has held
it in the meantime.
-/

import Mathlib.Algebra.Order.Group.Nat
import AccountLookup.Implementations.GroundedAnswers

namespace AccountLookup

open Library Library.Transition

variable {T : Type}

/-- The adapter of a call that begins keeps to the cache duration. -/
def SharedInput.ServesFor [LE T] (duration : T) : SharedInput T → Prop
  | .call repo _ => repo.redisCacheDurationSecs ≤ duration
  | .turn _ | .expire _ | .wait _ => True

namespace BuiltinTask

/-- What the call may write to the cache is served for the duration at most. -/
def ServesFor [LE T] (duration : T) (task : BuiltinTask T) : Prop :=
  ∀ repo, task.adapter = some repo → repo.redisCacheDurationSecs ≤ duration

variable [LinearOrder T] [Add T]

/-- Neither the cache nor a call under way has anything served for longer than the duration. -/
structure KeepsTo (duration : T) (pool : Pool (BuiltinTask T) (BuiltinWorld T)) : Prop where
  cache : pool.world.cache.Within pool.world.now duration
  calls : ∀ task ∈ pool.tasks, task.ServesFor duration

section Turns

variable {task : BuiltinTask T} {w w' : BuiltinWorld T} {duration : T}

omit [LinearOrder T] in
theorem StoreEffect.now_eq (heffect : StoreEffect task w w') : w'.now = w.now := by
  cases heffect <;> rfl

/-- A turn of a call that serves what it writes for the duration at most. -/
theorem StoreEffect.within [AddLeftMono T] (heffect : StoreEffect task w w')
    (hserves : task.ServesFor duration) (h : w.cache.Within w.now duration) :
    w'.cache.Within w'.now duration := by
  cases heffect with
  | kept => exact h
  | stored d hbrings => exact h
  | removed p => exact h
  | cached repo party fspId hadapter hcarries =>
    exact h.setex (add_le_add_right (hserves repo hadapter) w.now) _ _
  | uncached key => exact h.del key

end Turns

variable {pool pool' : Pool (BuiltinTask T) (BuiltinWorld T)} {input : SharedInput T}
  {duration : T}

/-- The clock never goes back. -/
theorem Shared.now_le (hshared : Shared pool input pool') :
    pool.world.now ≤ pool'.world.now := by
  cases hshared with
  | began repo request => exact le_refl _
  | moved t before after task task' w' htasks hgoes heffect => exact heffect.now_eq.ge
  | unmoved t => exact le_refl _
  | expired key => exact le_refl _
  | waited instant => exact le_max_left _ _

theorem now_le_run (inputs : List (SharedInput T)) :
    pool.world.now ≤ (run share pool inputs).world.now := by
  refine run_invariant share (fun reached => pool.world.now ≤ reached.world.now) ?_ inputs pool
    (le_refl _)
  intro reached input hle
  exact hle.trans (shared_share reached input).now_le

variable [AddLeftMono T] [AddRightMono T]

/-- **The cache duration is kept by every input.** -/
theorem KeepsTo.shared (h : KeepsTo duration pool) (hserves : input.ServesFor duration)
    (hshared : Shared pool input pool') : KeepsTo duration pool' := by
  obtain ⟨hcache, hcalls⟩ := h
  cases hshared with
  | began repo request =>
    refine ⟨hcache, fun task htask => ?_⟩
    rcases List.mem_append.mp htask with hold | hnew
    · exact hcalls task hold
    · obtain rfl := List.mem_singleton.mp hnew
      intro repo' hadapter
      cases request with
      | associateParticipant fspId party =>
        obtain rfl := Option.some.inj hadapter
        exact hserves
      | disassociateParticipant fspId party => cases hadapter
      | getParticipantFspId party =>
        obtain rfl := Option.some.inj hadapter
        exact hserves
  | moved t before after task task' w' htasks hgoes heffect =>
    have htask := hcalls task (htasks ▸ List.mem_append_right _ List.mem_cons_self)
    refine ⟨heffect.within htask hcache, fun other hother => ?_⟩
    rcases Pool.eq_or_mem_of_mem_turned htasks hother with rfl | hold
    · exact fun repo hadapter => htask repo (hgoes.adapter_eq hadapter)
    · exact hcalls other hold
  | unmoved t => exact ⟨hcache, hcalls⟩
  | expired key => exact ⟨hcache.del key, hcalls⟩
  | waited instant => exact ⟨hcache.later (le_max_left _ _), hcalls⟩

theorem KeepsTo.run (h : KeepsTo duration pool) {inputs : List (SharedInput T)}
    (hserves : ∀ input ∈ inputs, input.ServesFor duration) :
    KeepsTo duration (run share pool inputs) := by
  refine run_invariant_along (KeepsTo duration) (fun reached input hkeeps hinput =>
    hkeeps.shared hinput (shared_share reached input)) inputs pool h
      ((along_iff_forall_split pool inputs).mpr ?_)
  rintro before input after rfl
  exact hserves input (List.mem_append_right _ List.mem_cons_self)

/-- **Answers are recent, whatever overlaps.** Take any moment of any run of calls on shared
stores at which no call under way is about to write the participant to the cache. A lookup
that begins when more than the cache duration has passed answers with the participant only
when the collection has held it, for a party with the same cache key, at that moment or
since; otherwise it answers that there is nobody, and at some moment of the lookup nobody was
associated. -/
theorem answers_recent [CanonicallyOrderedAdd T] (duration : T) (w : BuiltinWorld T)
    (hcache : w.cache.Within w.now duration) (before during after : List (SharedInput T))
    (hserves : ∀ input ∈ before, input.ServesFor duration) (repo : MongoOracleProviderRepo T)
    (party : Party) (answer : JsString)
    (hidle : ∀ task ∈ (run share ⟨[], w⟩ before).tasks, ¬ task.Carries party.key answer)
    (hlater : (run share ⟨[], w⟩ before).world.now + duration <
      (run share ⟨[], w⟩ (before ++ during)).world.now)
    (h : Answered (run share ⟨[], w⟩ (before ++ during)).tasks.length
      (run share ⟨[], w⟩ (before ++ during ++ .call repo (.getParticipantFspId party) :: after))
      answer) :
    (∃ since, since <+: during ++ .call repo (.getParticipantFspId party) :: after ∧
      Held (run share ⟨[], w⟩ (before ++ since)).world.parties party.key answer) ∨
      answer = .null ∧ ∃ within, within <+: after ∧
        ∀ d ∈ (run share ⟨[], w⟩ (before ++ during ++
          .call repo (.getParticipantFspId party) :: within)).world.parties,
          ¬ party.Describes d := by
  have hkeeps : KeepsTo duration (run share ⟨[], w⟩ before) :=
    KeepsTo.run ⟨hcache, fun task htask => (by cases htask)⟩ hserves
  simp only [run_append, run_cons] at h hlater ⊢
  generalize run share ⟨[], w⟩ before = moment at *
  obtain ⟨within, hwithin, hfinds⟩ := exists_finds _ h
  rcases hfinds with ⟨e, hentry, rfl, hlive⟩ | ⟨hnull, hnobody⟩
  · refine Or.inl ?_
    -- the lookup finds the entry when the cache duration has passed
    have hpassed : moment.world.now + duration < (run share (share (run share moment during)
        (.call repo (.getParticipantFspId party))) within).world.now :=
      hlater.trans_le (now_le_run (.call repo (.getParticipantFspId party) :: within))
    have hlive' := hlive.elim id fun ⟨_, hset⟩ => hset.symm ▸ le_self_add
    rw [← run_cons, ← run_append] at hentry
    rcases known_or_held moment hentry with hknown | ⟨since, hsince, hheld⟩
    · rcases hknown with hcached | ⟨task, htask, hcarries⟩
      · exact absurd hcached (hkeeps.cache.entry_ne hpassed hlive')
      · exact absurd hcarries (hidle task htask)
    · have hbefore : during ++ .call repo (.getParticipantFspId party) :: within <+:
          during ++ .call repo (.getParticipantFspId party) :: after :=
        (List.prefix_append_right_inj during).mpr (List.cons_prefix_cons.mpr ⟨rfl, hwithin⟩)
      exact ⟨since, hsince.trans hbefore, hheld⟩
  · exact Or.inr ⟨hnull, within, hwithin, hnobody⟩

/-- A participant gives the sample number up, and the cache entry stays behind. -/
def sampleGivenUp : List (SharedInput ℕ) :=
  [.call sampleRepo (.associateParticipant "greenbank" samplePhoneNumber),
    .turn ⟨0, fun _ => none⟩, .turn ⟨0, fun _ => none⟩, .turn ⟨0, fun _ => none⟩,
    .call sampleRepo (.disassociateParticipant "greenbank" samplePhoneNumber),
    .turn ⟨1, fun _ => none⟩,
    .turn ⟨1, fun call => if call = .redisDel then some "connection lost" else none⟩]

/-- Another one takes it without reaching the cache, and the cache duration passes. -/
def sampleTakenOver : List (SharedInput ℕ) :=
  [.call sampleRepo (.associateParticipant "bluebank" samplePhoneNumber),
    .turn ⟨2, fun _ => none⟩, .turn ⟨2, fun _ => none⟩,
    .turn ⟨2, fun call => if call = .redisSetex then some "connection lost" else none⟩,
    .wait 11]

/-- A lookup with a turn at a time. -/
def sampleTurns : List (SharedInput ℕ) :=
  [.turn ⟨3, fun _ => none⟩, .turn ⟨3, fun _ => none⟩, .turn ⟨3, fun _ => none⟩]

theorem answers_recent_samplePhoneNumber :
    (∃ since, since <+: sampleTakenOver ++
        .call sampleRepo (.getParticipantFspId samplePhoneNumber) :: sampleTurns ∧
      Held (run share ⟨[], BuiltinWorld.empty 0⟩ (sampleGivenUp ++ since)).world.parties
        samplePhoneNumber.key (.str "bluebank")) ∨
      JsString.str "bluebank" = .null ∧ ∃ within, within <+: sampleTurns ∧
        ∀ d ∈ (run share ⟨[], BuiltinWorld.empty 0⟩ (sampleGivenUp ++ sampleTakenOver ++
          .call sampleRepo (.getParticipantFspId samplePhoneNumber) :: within)).world.parties,
          ¬ samplePhoneNumber.Describes d := by
  refine answers_recent 10 (BuiltinWorld.empty 0) (TtlCache.within_empty _ _) sampleGivenUp
    sampleTakenOver sampleTurns ?_ sampleRepo samplePhoneNumber (.str "bluebank") ?_ (by decide) rfl
  · intro input hinput
    simp only [sampleGivenUp, List.mem_cons, List.not_mem_nil, or_false] at hinput
    rcases hinput with rfl | rfl | rfl | rfl | rfl | rfl | rfl <;>
      first | exact trivial | exact (by decide : sampleRepo.redisCacheDurationSecs ≤ 10)
  · intro task htask
    have htasks : (run share ⟨[], BuiltinWorld.empty 0⟩ sampleGivenUp).tasks =
        [.returned (.ok .null), .returned (.error ⟨.external, "connection lost"⟩)] := rfl
    rw [htasks] at htask
    rcases List.mem_pair.mp htask with rfl | rfl <;> exact id

end BuiltinTask

end AccountLookup

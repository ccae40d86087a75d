/-
# Bounded staleness of the built-in oracle

Every cache entry stems from a past state of the collection, in which the party it
was set for had an association of the cached participant. A lookup that is served
an entry set for its own party therefore answers with a participant that the
collection held at most the cache duration ago.
-/

import Mathlib.Algebra.Order.Group.Nat
import AccountLookup.Implementations.BuiltinRuns

namespace AccountLookup

open Library Library.Transition

/-- A named value found in a property is named by that property. -/
theorem JsString.nonEmpty?_of_eq_str {value stored : JsString} {s : String}
    (hs : value.nonEmpty? = some s) (h : stored = .str s) : stored.nonEmpty? = some s :=
  nonEmpty?_eq_some_iff.mpr ⟨h, (nonEmpty?_eq_some_iff.mp hs).2⟩

/-- A party that describes another party's record describes what that party does. -/
theorem Party.describes_of_describes_record {party other : Party} {fspId : JsString}
    {d : Association} (hrecord : party.Describes (other.record fspId))
    (hd : other.Describes d) : party.Describes d := by
  obtain ⟨htype, hid, hsub, hcurrency⟩ := hrecord
  refine ⟨hd.1.trans htype, hd.2.1.trans hid, fun s hs => ?_, fun s hs => ?_⟩
  · exact hd.2.2.1 s (JsString.nonEmpty?_of_eq_str hs (hsub s hs))
  · exact hd.2.2.2 s (JsString.nonEmpty?_of_eq_str hs (hcurrency s hs))

namespace MongoOracleProviderRepo

variable {T : Type} [LinearOrder T]

/-- A lookup finds no cached record, or one set for a party that it describes. -/
def FindsOwnRecord (w : BuiltinWorld T) (s : FaultyStep T) : Prop :=
  ∀ party record, s.step = .getParticipantFspId party →
    w.cache.get w.now party.key = some record → party.Describes record

variable [Add T] (repo : MongoOracleProviderRepo T)

/-- The collection held, at most the cache duration ago, an association of the
participant that the party describes. -/
def RecentlyHeld (start : BuiltinWorld T) (steps : List (FaultyStep T)) (party : Party)
    (fspId : JsString) : Prop :=
  ∃ earlier, earlier <+: steps ∧
    (run repo.faultyStep start earlier).now ≤ (run repo.faultyStep start steps).now ∧
    (run repo.faultyStep start steps).now ≤
      (run repo.faultyStep start earlier).now + repo.redisCacheDurationSecs ∧
    ∃ d ∈ (run repo.faultyStep start earlier).parties, d.fspId = fspId ∧ party.Describes d

/-- Every participant that a lookup of the run answers with was recently held. -/
def AnswersRecentlyHeld (start : BuiltinWorld T) (steps : List (FaultyStep T)) : Prop :=
  ∀ before failure party after fspId,
    steps = before ++ ⟨failure, .getParticipantFspId party⟩ :: after →
    (repo.lookup party { run repo.faultyStep start before with failure := failure }).1 =
      .ok fspId → fspId ≠ .null → repo.RecentlyHeld start before party fspId

variable {repo}

/-- What a lookup answers with comes from the cache or from the collection. -/
theorem lookup_eq_ok {w : BuiltinWorld T} {party : Party} {fspId : JsString}
    (h : (repo.lookup party w).1 = .ok fspId) (hnull : fspId ≠ .null) :
    (∃ record, w.cache.get w.now party.key = some record ∧ record.fspId = fspId) ∨
      ∃ d ∈ w.parties, d.fspId = fspId ∧ party.Describes d := by
  simp only [lookup, getParticipantFspId, getFromCache, Party.getKeyWithPrefix_eq_key,
    Party.lookupQuery_eq_query] at h
  cases hredis : w.failure .redisGet with
  | some message => simp [hredis] at h
  | none =>
    simp only [hredis] at h
    cases hget : w.cache.get w.now party.key with
    | some record =>
      rw [hget] at h
      exact Or.inl ⟨record, rfl, Except.ok.inj h⟩
    | none =>
      simp only [hget] at h
      cases hmongo : w.failure .findOne with
      | some message => simp [hmongo] at h
      | none =>
        simp only [hmongo] at h
        cases hfind : w.parties.find? party.query.satisfiedBy with
        | none => simp [hfind, Ne.symm hnull] at h
        | some d =>
          refine Or.inr ⟨d, List.mem_of_find?_eq_some hfind, ?_,
            Party.satisfiedBy_query.mp (List.find?_some hfind)⟩
          simp only [hfind, setToCache] at h
          cases hset : w.failure .redisSetex with
          | some message => simp [hset] at h
          | none =>
            simp only [hset] at h
            exact Except.ok.inj h

/-- The clock of a run never goes back. -/
theorem now_le_of_prefix (start : BuiltinWorld T) {earlier steps : List (FaultyStep T)}
    (hearlier : earlier <+: steps) :
    (run repo.faultyStep start earlier).now ≤ (run repo.faultyStep start steps).now := by
  obtain ⟨rest, rfl⟩ := hearlier
  rw [run_append]
  refine run_invariant repo.faultyStep
    (fun w => (run repo.faultyStep start earlier).now ≤ w.now) ?_ rest _ (le_refl _)
  intro w s hle
  exact hle.trans (repo.step_effect { w with failure := s.failure } s.step).now_le

variable (repo)

/-- **Answers are recent.** When every lookup of a run that is served from the
cache finds a record set for a party that it describes, each answer names a
participant that the collection recently held for the party. -/
theorem answersRecentlyHeld_of_findsOwnRecord [CanonicallyOrderedAdd T] (now : T)
    (steps : List (FaultyStep T))
    (hown : Along repo.faultyStep FindsOwnRecord (BuiltinWorld.empty now) steps) :
    repo.AnswersRecentlyHeld (BuiltinWorld.empty now) steps := by
  rintro before failure party after fspId hsteps hanswer hnull
  have hfinds := (along_iff_forall_split _ _).mp hown before _ after hsteps party
  rcases lookup_eq_ok hanswer hnull with ⟨record, hget, rfl⟩ | ⟨d, hd, hfsp, hdescribes⟩
  · obtain ⟨e, hentry, hlive, rfl⟩ := TtlCache.get_eq_some_iff.mp hget
    -- the served entry was set at the end of some prefix of the run so far
    obtain ⟨earlier, hearlier, other, d, -, hd, hother, rfl⟩ :=
      exists_prefix_of_established repo.faultyStep
        (fun w (b : String × _) => w.cache.entry b.1 = some b.2)
        (fun w b => repo.JustCached w b.1 b.2)
        (fun w s b h => (repo.step_effect { w with failure := s.failure } s.step).entry_cases h)
        (fun _ h => by cases h) before ⟨party.key, e⟩ hentry
    refine ⟨earlier, hearlier, now_le_of_prefix _ hearlier, hlive, d, hd, rfl, ?_⟩
    exact Party.describes_of_describes_record (hfinds _ rfl hget) hother
  · exact ⟨before, List.prefix_refl before, le_refl _, le_self_add, d, hd, hfsp, hdescribes⟩

/-- Two parties whose identifiers render to the same key. -/
def collidingRun : List (FaultyStep ℕ) :=
  [⟨fun _ => none, .associateParticipant "greenbank" ⟨"MSISDN", "green_acc", some "1", none⟩⟩,
    ⟨fun _ => none, .getParticipantFspId ⟨"MSISDN", "green", some "acc_1", none⟩⟩]

/-- The collection never held an association of the party that is answered. -/
theorem collidingRun_not_answersRecentlyHeld :
    ¬ sampleRepo.AnswersRecentlyHeld (BuiltinWorld.empty 0) collidingRun := by
  intro h
  obtain ⟨earlier, hearlier, -, -, d, hd, -, -, hid, -⟩ :=
    h (collidingRun.take 1) _ _ [] (.str "greenbank") rfl (by decide) (by decide)
  have hcases : earlier = [] ∨ earlier = collidingRun.take 1 := by
    cases earlier with
    | nil => exact Or.inl rfl
    | cons s rest =>
      obtain ⟨rfl, hrest⟩ := List.cons_prefix_cons.mp hearlier
      exact Or.inr (by rw [List.prefix_nil.mp hrest]; rfl)
  rcases hcases with rfl | rfl
  · cases hd
  · obtain rfl := List.mem_singleton.mp
      (show d ∈ [(⟨"MSISDN", "green_acc", some "1", none⟩ : Party).document "greenbank"] from hd)
    exact absurd hid (by decide)

theorem not_forall_answersRecentlyHeld :
    ¬ ∀ (repo : MongoOracleProviderRepo ℕ) (now : ℕ) (steps : List (FaultyStep ℕ)),
      repo.AnswersRecentlyHeld (BuiltinWorld.empty now) steps := fun h =>
  collidingRun_not_answersRecentlyHeld (h sampleRepo 0 collidingRun)

/-- An association that is looked up, from the cache, under its own identifier. -/
theorem answersRecentlyHeld_own_record :
    sampleRepo.AnswersRecentlyHeld (BuiltinWorld.empty 0)
      [⟨fun _ => none, .associateParticipant "greenbank" ⟨"MSISDN", "green_acc_1", none, none⟩⟩,
        ⟨fun _ => none, .getParticipantFspId ⟨"MSISDN", "green_acc_1", none, none⟩⟩] := by
  refine answersRecentlyHeld_of_findsOwnRecord sampleRepo 0 _
    ⟨fun _ _ h => (by cases h), fun party record hparty hget => ?_, trivial⟩
  cases hparty
  obtain rfl := Option.some.inj hget
  exact ⟨rfl, rfl, fun _ hs => (by cases hs), fun _ hs => (by cases hs)⟩

end MongoOracleProviderRepo

end AccountLookup

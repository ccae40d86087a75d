/-
# The cache of the built-in oracle

A lookup reads through the cache, so the cache is invisible to it exactly while
no entry still served contradicts the collection. The cache is keyed by the text
of the whole identifier and the collection is searched with empty properties left
open: the run theorem says which steps keep the two in agreement.
-/

import Mathlib.Algebra.Order.Group.Nat
import AccountLookup.Implementations.BuiltinRuns

namespace AccountLookup

open Library Library.Transition

/-- The participant that the collection answers a lookup with. -/
def Party.answer (parties : List Association) (party : Party) : JsString :=
  (parties.find? party.query.satisfiedBy).elim .null Association.fspId

/-- The first association that a lookup of the party matches is one of the
participant. -/
def Party.FirstMatchOf (party : Party) (parties : List Association) (fspId : String) : Prop :=
  ∃ d, parties.find? party.query.satisfiedBy = some d ∧ d.fspId = .str fspId

namespace Party

variable {party : Party} {parties : List Association} {fspId : String}

theorem answer_eq_str_iff :
    party.answer parties = .str fspId ↔ party.FirstMatchOf parties fspId := by
  unfold answer FirstMatchOf
  cases parties.find? party.query.satisfiedBy with
  | none => simp
  | some d => simp

/-- A match that exists is not displaced by a later association. -/
theorem FirstMatchOf.concat (h : party.FirstMatchOf parties fspId) (d : Association) :
    party.FirstMatchOf (parties ++ [d]) fspId := by
  obtain ⟨first, hfind, hfsp⟩ := h
  exact ⟨first, by rw [FirstMatch.find?_concat, hfind], hfsp⟩

open MongoOracleProviderRepo

/-- The texts that a cache key is put together from. -/
def keyPieces (party : Party) : List (List Char) :=
  [redisKeyPrefix.toList, party.partyType.toList, party.partyId.toList,
    (JsString.ofOption party.partySubType).toText.toList,
    (JsString.ofOption party.currency).toText.toList]

theorem toList_key (party : Party) : party.key.toList = ['_'].intercalate party.keyPieces := by
  have hseparator : "_".toList = ['_'] := rfl
  simp only [key, getKeyWithPrefix, keyPieces, JsString.toText, toString, String.toList_append,
    hseparator, List.intercalate_cons_cons, List.intercalate_singleton, List.append_assoc]

/-- A separator in one of the pieces is one more in the key. -/
theorem plain_iff_count_key (party : Party) :
    (∀ piece ∈ party.keyPieces, '_' ∉ piece) ↔ party.key.toList.count '_' = 4 := by
  have hplain : redisKeyPrefix.toList.count '_' = 0 := by decide
  rw [toList_key]
  simp only [keyPieces, List.forall_mem_cons, List.not_mem_nil, false_implies, implies_true,
    and_true, ← List.count_eq_zero, List.intercalate_cons_cons, List.intercalate_singleton,
    List.count_append, List.count_singleton_self, hplain, true_and]
  omega

/-- A key whose pieces have no separator in them is put together from no others. -/
theorem keyPieces_eq {party other : Party} (hplain : ∀ piece ∈ party.keyPieces, '_' ∉ piece)
    (hkey : other.key = party.key) : other.keyPieces = party.keyPieces := by
  have hother : ∀ piece ∈ other.keyPieces, '_' ∉ piece := by
    rw [plain_iff_count_key, hkey, ← plain_iff_count_key]
    exact hplain
  rw [← List.splitOn_intercalate '_' hother (List.cons_ne_nil _ _), ← toList_key, hkey, toList_key,
    List.splitOn_intercalate '_' hplain (List.cons_ne_nil _ _)]

end Party

namespace MongoOracleProviderRepo

variable {T : Type} [LinearOrder T]

/-- No entry still served contradicts the collection. -/
def CacheCoherent (w : BuiltinWorld T) : Prop :=
  TtlCache.Coherent Party.key (Party.answer w.parties) Association.fspId w.cache w.now

/-- A step after which the cache still agrees with the collection. What it caches
answers every party with the same key, and a removal does not change the
participant that another key, still cached, is answered with. -/
def CacheSafe (w : BuiltinWorld T) : BuiltinStep T → Prop
  | .associateParticipant fspId party =>
    w.parties.find? (party.filter fspId).satisfiedBy = none →
      ∀ other : Party, other.key = party.key →
        other.FirstMatchOf (w.parties ++ [party.document fspId]) fspId
  | .disassociateParticipant fspId party =>
    ∀ (other : Party) (owner : String), other.key ≠ party.key →
      (w.cache.get w.now other.key).isSome → other.FirstMatchOf w.parties owner →
        other.FirstMatchOf (w.parties.eraseP (party.filter fspId).satisfiedBy) owner
  | .getParticipantFspId party =>
    ∀ (other : Party) (owner : String), other.key = party.key →
      w.cache.get w.now party.key = none → party.FirstMatchOf w.parties owner →
        other.FirstMatchOf w.parties owner
  | .expire _ => True
  | .wait _ => True

theorem cacheCoherent_empty (now : T) : CacheCoherent (BuiltinWorld.empty now) :=
  TtlCache.coherent_empty now

/-- What is cached names a participant, so a cached key is answered by a match. -/
theorem firstMatchOf_of_cached {w : BuiltinWorld T} (hw : WellFormed w) (hc : CacheCoherent w)
    {other : Party} {v : Association} (hget : w.cache.get w.now other.key = some v) :
    ∃ owner, v.fspId = .str owner ∧ other.FirstMatchOf w.parties owner := by
  obtain ⟨e, hentry, _, rfl⟩ := TtlCache.get_eq_some_iff.mp hget
  obtain ⟨owner, howner⟩ := hw.cached other.key e hentry
  exact ⟨owner, howner, Party.answer_eq_str_iff.mp ((hc other e.value hget).trans howner)⟩

theorem cacheCoherent_disassociate_iff {w : BuiltinWorld T} (hw : WellFormed w)
    (hok : w.NoFailure) (hc : CacheCoherent w) (fspId : String) (party : Party) :
    CacheCoherent (disassociate fspId party w).2 ↔
      CacheSafe w (.disassociateParticipant fspId party) := by
  rw [disassociate_eq hok]
  refine TtlCache.coherent_del_iff.trans ⟨?_, ?_⟩
  · intro h other owner hkey hcached hfirst
    obtain ⟨v, hget⟩ := Option.isSome_iff_exists.mp hcached
    have howner := (hc other v hget).symm.trans (Party.answer_eq_str_iff.mpr hfirst)
    exact Party.answer_eq_str_iff.mp ((h other v hkey hget).trans howner)
  · intro h other v hkey hget
    obtain ⟨owner, howner, hfirst⟩ := firstMatchOf_of_cached hw hc hget
    rw [howner]
    exact Party.answer_eq_str_iff.mpr (h other owner hkey (by rw [hget]; rfl) hfirst)

variable [Add T] (repo : MongoOracleProviderRepo T)

/-- Every lookup returns what it would return with an empty cache. -/
def Transparent (w : BuiltinWorld T) : Prop :=
  ∀ party, (repo.lookup party w).1 = (repo.lookup party { w with cache := TtlCache.empty }).1

variable {repo}

/-- A lookup reads through the cache. -/
theorem lookup_fst {w : BuiltinWorld T} (h : w.NoFailure) (party : Party) :
    (repo.lookup party w).1 = .ok (TtlCache.readThrough Party.key (Party.answer w.parties)
      Association.fspId w.cache w.now party) := by
  rw [lookup_eq h, TtlCache.readThrough, Party.answer]
  cases w.cache.get w.now party.key with
  | some record => rfl
  | none =>
    cases w.parties.find? party.query.satisfiedBy with
    | none => rfl
    | some d => rfl

theorem transparent_iff_cacheCoherent {w : BuiltinWorld T} (h : w.NoFailure) :
    repo.Transparent w ↔ CacheCoherent w := by
  unfold CacheCoherent
  rw [← TtlCache.readThrough_eq_answer_iff_coherent]
  refine forall_congr' fun party => ?_
  have hempty : BuiltinWorld.NoFailure { w with cache := TtlCache.empty } := h
  rw [lookup_fst h, lookup_fst hempty, Except.ok.injEq]
  rfl

variable [CanonicallyOrderedAdd T]

theorem cacheCoherent_associate_iff {w : BuiltinWorld T} (hw : WellFormed w)
    (hok : w.NoFailure) (hc : CacheCoherent w) (fspId : String) (party : Party) :
    CacheCoherent (repo.associate fspId party w).2 ↔
      CacheSafe w (.associateParticipant fspId party) := by
  cases hfind : w.parties.find? (party.filter fspId).satisfiedBy with
  | some d =>
    obtain ⟨error, herror⟩ := associate_eq_of_some repo hok hfind
    rw [herror]
    exact ⟨fun _ hnone => absurd (hfind.symm.trans hnone) (by simp), fun _ => hc⟩
  | none =>
    rw [associate_eq_of_none repo hok hfind]
    refine (TtlCache.coherent_setex_iff le_self_add).trans ⟨?_, ?_⟩
    · rintro ⟨hset, -⟩ - other hkey
      exact Party.answer_eq_str_iff.mp (hset other hkey)
    · intro h
      refine ⟨fun other hkey => Party.answer_eq_str_iff.mpr (h hfind other hkey), ?_⟩
      intro other v _ hget
      obtain ⟨owner, howner, hfirst⟩ := firstMatchOf_of_cached hw hc hget
      rw [howner]
      exact Party.answer_eq_str_iff.mpr (hfirst.concat _)

theorem cacheCoherent_lookup_iff {w : BuiltinWorld T} (hw : WellFormed w)
    (hok : w.NoFailure) (hc : CacheCoherent w) (party : Party) :
    CacheCoherent (repo.lookup party w).2 ↔ CacheSafe w (.getParticipantFspId party) := by
  rw [lookup_eq hok]
  cases hget : w.cache.get w.now party.key with
  | some record =>
    exact ⟨fun _ _ _ _ hnone => absurd (hget.symm.trans hnone) (by simp), fun _ => hc⟩
  | none =>
    cases hfind : w.parties.find? party.query.satisfiedBy with
    | none =>
      refine ⟨fun _ _ _ _ _ hfirst => ?_, fun _ => hc⟩
      obtain ⟨d, hsome, _⟩ := hfirst
      exact absurd (hfind.symm.trans hsome) (by simp)
    | some d =>
      obtain ⟨stored, fspId, hd⟩ := hw.stored d (List.mem_of_find?_eq_some hfind)
      have hfsp : d.fspId = .str fspId := by rw [hd]; rfl
      refine (TtlCache.coherent_setex_iff le_self_add).trans ⟨?_, ?_⟩
      · rintro ⟨hset, -⟩ other owner hkey - ⟨first, hfirst, howner⟩
        obtain rfl := Option.some.inj (hfind.symm.trans hfirst)
        exact Party.answer_eq_str_iff.mp ((hset other hkey).trans howner)
      · intro h
        refine ⟨fun other hkey => ?_, fun other v _ hv => hc other v hv⟩
        exact (Party.answer_eq_str_iff.mpr (h other fspId hkey hget ⟨d, hfind, hfsp⟩)).trans
          hfsp.symm

/-- **One step.** From a coherent cache, a step leads to a coherent cache exactly
when it is safe. -/
theorem cacheCoherent_step_iff {w : BuiltinWorld T} (hw : WellFormed w) (hok : w.NoFailure)
    (hc : CacheCoherent w) (s : BuiltinStep T) : CacheCoherent (repo.step w s) ↔ CacheSafe w s := by
  cases s with
  | associateParticipant fspId party => exact cacheCoherent_associate_iff hw hok hc fspId party
  | disassociateParticipant fspId party =>
    exact cacheCoherent_disassociate_iff hw hok hc fspId party
  | getParticipantFspId party => exact cacheCoherent_lookup_iff hw hok hc party
  | expire key => exact iff_of_true (TtlCache.Coherent.del hc key) trivial
  | wait instant => exact iff_of_true (TtlCache.Coherent.later hc (le_max_left _ _)) trivial

/-- The cache is invisible throughout a run exactly when every step is safe. -/
theorem transparent_throughout_iff_cacheSafe (repo : MongoOracleProviderRepo T) (now : T)
    (steps : List (BuiltinStep T)) :
    (∀ before, before <+: steps →
        repo.Transparent (run repo.step (BuiltinWorld.empty now) before)) ↔
      Along repo.step CacheSafe (BuiltinWorld.empty now) steps := by
  have hexact : Along repo.step (fun w s => repo.Transparent (repo.step w s))
        (BuiltinWorld.empty now) steps ↔
      Along repo.step CacheSafe (BuiltinWorld.empty now) steps := by
    refine along_iff_of_exact (fun w => WellFormed w ∧ w.NoFailure ∧ CacheCoherent w)
      ?_ ?_ steps _ ⟨wellFormed_empty now, fun _ => rfl, cacheCoherent_empty now⟩
    · rintro w s ⟨hw, hok, hc⟩
      rw [transparent_iff_cacheCoherent (repo.noFailure_step w s hok)]
      exact cacheCoherent_step_iff hw hok hc s
    · rintro w s ⟨hw, hok, hc⟩ hsafe
      exact ⟨repo.wellFormed_step w s hw, repo.noFailure_step w s hok,
        (cacheCoherent_step_iff hw hok hc s).mpr hsafe⟩
  rw [forall_prefix_iff_along repo.Transparent, hexact, and_iff_right]
  exact (transparent_iff_cacheCoherent fun _ => rfl).mpr (cacheCoherent_empty now)

/-- An association under a currency, a lookup that leaves the currency open, and
the removal of the association. -/
def staleRun : List (BuiltinStep ℕ) :=
  [.associateParticipant "greenbank" ⟨"MSISDN", "27713803912", none, some "EUR"⟩,
    .getParticipantFspId ⟨"MSISDN", "27713803912", none, none⟩,
    .disassociateParticipant "greenbank" ⟨"MSISDN", "27713803912", none, some "EUR"⟩]

/-- The open lookup still answers with the removed association. -/
theorem staleRun_not_transparent :
    ¬ sampleRepo.Transparent (run sampleRepo.step (BuiltinWorld.empty 0) staleRun) := by
  intro h
  have hcached : (sampleRepo.lookup ⟨"MSISDN", "27713803912", none, none⟩
      (run sampleRepo.step (BuiltinWorld.empty 0) staleRun)).1 = .ok (.str "greenbank") := by
    decide
  have huncached : (sampleRepo.lookup ⟨"MSISDN", "27713803912", none, none⟩
      { run sampleRepo.step (BuiltinWorld.empty 0) staleRun with
        cache := TtlCache.empty }).1 = .ok .null := by
    decide
  have hsame := h ⟨"MSISDN", "27713803912", none, none⟩
  rw [hcached, huncached] at hsame
  cases hsame

theorem not_forall_transparent :
    ¬ ∀ (repo : MongoOracleProviderRepo ℕ) (now : ℕ) (steps : List (BuiltinStep ℕ)),
      repo.Transparent (run repo.step (BuiltinWorld.empty now) steps) := fun h =>
  staleRun_not_transparent (h sampleRepo 0 staleRun)

/-- A party with a sub type and a currency. -/
def wholeParty : Party := ⟨"MSISDN", "27713803912", some "PERSONAL", some "EUR"⟩

theorem eq_wholeParty_of_key_eq {other : Party} (h : other.key = wholeParty.key) :
    other = wholeParty := by
  have hpieces := Party.keyPieces_eq (by decide) h
  obtain ⟨partyType, partyId, partySubType, currency⟩ := other
  simp only [Party.keyPieces, wholeParty, List.cons.injEq, String.toList_inj, true_and,
    and_true] at hpieces
  obtain ⟨rfl, rfl, hsub, hcurrency⟩ := hpieces
  cases partySubType with
  | none => exact absurd hsub (by decide)
  | some subType =>
    cases currency with
    | none => exact absurd hcurrency (by decide)
    | some text =>
      obtain rfl : subType = "PERSONAL" := hsub
      obtain rfl : text = "EUR" := hcurrency
      rfl

/-- An association, lookups before and after the cache has lost it, its removal, and one more
lookup. -/
def freshRun : List (BuiltinStep ℕ) :=
  [.associateParticipant "greenbank" wholeParty, .getParticipantFspId wholeParty, .wait 20,
    .getParticipantFspId wholeParty, .disassociateParticipant "greenbank" wholeParty,
    .getParticipantFspId wholeParty]

/-- All steps of that run are safe, and the cache is never seen. -/
theorem freshRun_transparent :
    Along sampleRepo.step CacheSafe (BuiltinWorld.empty 0) freshRun ∧
      ∀ before, before <+: freshRun →
        sampleRepo.Transparent (run sampleRepo.step (BuiltinWorld.empty 0) before) := by
  have hlookup : ∀ w : BuiltinWorld ℕ, CacheSafe w (.getParticipantFspId wholeParty) := by
    intro w other owner hkey _ hfirst
    rwa [eq_wholeParty_of_key_eq hkey]
  have hsafe : Along sampleRepo.step CacheSafe (BuiltinWorld.empty 0) freshRun := by
    refine ⟨?_, hlookup _, trivial, hlookup _, ?_, hlookup _, trivial⟩
    · intro _ other hkey
      rw [eq_wholeParty_of_key_eq hkey]
      exact ⟨_, rfl, rfl⟩
    · intro other owner hne hcached
      have hentry : (run sampleRepo.step (BuiltinWorld.empty 0)
          (freshRun.take 4)).cache.entry other.key = none := by
        show ((TtlCache.empty.setex wholeParty.key _ _).setex wholeParty.key _ _).entry other.key =
          none
        rw [TtlCache.entry_setex, if_neg hne, TtlCache.entry_setex, if_neg hne]
        rfl
      have hget : (run sampleRepo.step (BuiltinWorld.empty 0) (freshRun.take 4)).cache.get 20
          other.key = none := by
        rw [TtlCache.get, hentry]
      cases (congrArg Option.isSome hget).symm.trans hcached
  exact ⟨hsafe, (transparent_throughout_iff_cacheSafe sampleRepo 0 freshRun).mpr hsafe⟩

end MongoOracleProviderRepo

end AccountLookup

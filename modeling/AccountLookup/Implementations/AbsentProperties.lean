/-
# Absent and null properties in the oracles' adapters

Two worlds that differ at most in what is cached, and two calls of an adapter whose
optional properties differ at most in being absent or `null`. The URL of a remote
oracle and the queries of the built-in one carry a property only when it counts, so
that the calls agree; the key of the cache tells the two spellings apart, and a lookup
agrees only where the two caches serve alike.
-/

import AccountLookup.Implementations.OracleAdapterFactory
import AccountLookup.Library.Lockstep

namespace AccountLookup

open Library

variable {T R : Type}

/-- The built-in stores differ at most in what is cached. -/
structure BuiltinWorld.SameButCache (first second : BuiltinWorld T) : Prop where
  parties : first.parties = second.parties
  now : first.now = second.now
  failure : first.failure = second.failure

/-- The worlds differ at most in what is cached. -/
structure ServiceWorld.SameButCache (first second : ServiceWorld T R) : Prop where
  finder : first.finder = second.finder
  builtin : first.builtin.SameButCache second.builtin
  remote : first.remote = second.remote

/-- Calls on a part of two worlds are in lockstep when the part keeps them so. -/
theorem lockstep_on {W C α : Type} {P : α → α → Prop} {Q : C → C → Prop} {Q' : W → W → Prop}
    {part : Component W C} {call call' : Call C α} {w w' : W}
    (h : Lockstep P Q (call (part.get w)) (call' (part.get w')))
    (hset : ∀ c c', Q c c' → Q' (part.set w c) (part.set w' c')) :
    Lockstep P Q' (call.on part w) (call'.on part w') :=
  ⟨h.outcome, hset _ _ h.world⟩

namespace ServiceWorld.SameButCache

variable {α : Type} {w w' : ServiceWorld T R}

theorem lockstep_builtin (h : w.SameButCache w') {call call' : Call (BuiltinWorld T) α}
    (hcall : Lockstep Eq BuiltinWorld.SameButCache (call w.builtin) (call' w'.builtin)) :
    Lockstep Eq ServiceWorld.SameButCache (call.on builtinPart w) (call'.on builtinPart w') := by
  apply lockstep_on hcall
  intro builtin builtin' hbuiltin
  exact ⟨h.finder, hbuiltin, h.remote⟩

theorem lockstep_remote (h : w.SameButCache w') {call call' : Call R α}
    (hcall : ∀ remote, Lockstep Eq Eq (call remote) (call' remote)) :
    Lockstep Eq ServiceWorld.SameButCache (call.on remotePart w) (call'.on remotePart w') := by
  have hsame : Lockstep Eq Eq (call w.remote) (call' w'.remote) := h.remote ▸ hcall w.remote
  apply lockstep_on hsame
  intro remote remote' hremote
  exact ⟨h.finder, h.builtin, hremote⟩

end ServiceWorld.SameButCache

theorem JsString.truthy_congr {value value' : JsString} (h : value.orNull = value'.orNull) :
    value.truthy = value'.truthy := by
  rw [← truthy_orNull, h, truthy_orNull]

/-- Values that are identified and count are equal. -/
theorem JsString.eq_of_truthy {value value' : JsString} (h : value.orNull = value'.orNull)
    (htruthy : value.truthy = true) : value = value' := by
  cases value <;> cases value' <;> simp_all

/-- What is made of a value that counts does not tell identified values apart. -/
theorem JsString.ite_truthy_congr {α : Type} {value value' : JsString} (make : JsString → α)
    (other : α) (h : value.orNull = value'.orNull) :
    (if value.truthy then make value else other) =
      if value'.truthy then make value' else other := by
  cases htruthy : value.truthy with
  | true => rw [← eq_of_truthy h htruthy, htruthy]
  | false => rw [← truthy_congr h, htruthy, if_neg Bool.false_ne_true, if_neg Bool.false_ne_true]

namespace MongoOracleProviderRepo

/-- The participant that the cache serves for a lookup. -/
def served [LinearOrder T] (w : BuiltinWorld T)
    (partyType partyId partySubType currency : JsString) : Option JsString :=
  (w.cache.get w.now (getKeyWithPrefix partyType partyId partySubType currency)).map
    Association.fspId

/-- The caches serve the two lookups alike, or where only one or each another is served,
it is the participant of the document that the database finds for both. -/
def ServedAlike [LinearOrder T] (first second : BuiltinWorld T)
    (partyType partyId partySubType partySubType' currency currency' : JsString) : Prop :=
  let hit := served first partyType partyId partySubType currency
  let hit' := served second partyType partyId partySubType' currency'
  first.failure .redisGet = none → hit ≠ hit' →
    first.failure .findOne = none ∧ first.failure .redisSetex = none ∧
      ∃ d, first.parties.find?
          (lookupQuery partyType partyId partySubType currency).satisfiedBy = some d ∧
        hit.getD d.fspId = d.fspId ∧ hit'.getD d.fspId = d.fspId

theorem deleteIfFalsy_congr {value value' : JsString} (h : value.orNull = value'.orNull) :
    deleteIfFalsy value = deleteIfFalsy value' :=
  JsString.ite_truthy_congr some none h

variable {first second : BuiltinWorld T}
  {fspId partyType partyId partySubType partySubType' currency currency' : JsString}

theorem lookupQuery_congr (hsub : partySubType.orNull = partySubType'.orNull)
    (hcurrency : currency.orNull = currency'.orNull) :
    lookupQuery partyType partyId partySubType currency =
      lookupQuery partyType partyId partySubType' currency' := by
  rw [lookupQuery, lookupQuery, deleteIfFalsy_congr hsub, deleteIfFalsy_congr hcurrency]

theorem buildLookupQuery_congr (hsub : partySubType.orNull = partySubType'.orNull)
    (hcurrency : currency.orNull = currency'.orNull) :
    buildLookupQuery partyId fspId partyType partySubType currency =
      buildLookupQuery partyId fspId partyType partySubType' currency' := by
  rw [buildLookupQuery, buildLookupQuery, deleteIfFalsy_congr hsub, deleteIfFalsy_congr hcurrency]

/-- The worlds of two calls agree when the calls change nothing but the cache. -/
theorem setToCache_alike [Add T] (repo repo' : MongoOracleProviderRepo T)
    (h : first.SameButCache second) (record record' : Association) :
    Lockstep Eq BuiltinWorld.SameButCache (repo.setToCache record first)
      (repo'.setToCache record' second) := by
  unfold setToCache
  rw [← h.failure]
  cases first.failure .redisSetex with
  | some message => exact .error h
  | none => exact .ok rfl ⟨h.parties, h.now, rfl⟩

theorem delFromCache_alike (h : first.SameButCache second) (record record' : Association) :
    Lockstep Eq BuiltinWorld.SameButCache (delFromCache record first)
      (delFromCache record' second) := by
  unfold delFromCache
  rw [← h.failure]
  cases first.failure .redisDel with
  | some message => exact .error h
  | none => exact .ok rfl ⟨h.parties, h.now, rfl⟩

theorem associateParticipant_alike [Add T] (repo repo' : MongoOracleProviderRepo T)
    (h : first.SameButCache second) (hsub : partySubType.orNull = partySubType'.orNull)
    (hcurrency : currency.orNull = currency'.orNull) :
    Lockstep Eq BuiltinWorld.SameButCache
      (repo.associateParticipant fspId partyType partyId partySubType currency first)
      (repo'.associateParticipant fspId partyType partyId partySubType' currency' second) := by
  unfold associateParticipant
  rw [← h.failure, ← h.parties, ← buildLookupQuery_congr hsub hcurrency]
  cases first.failure .findOne with
  | some message => exact .error h
  | none =>
    dsimp only
    cases first.parties.find? (buildLookupQuery partyId fspId partyType partySubType
        currency).satisfiedBy with
    | some d => exact .error h
    | none =>
      dsimp only
      cases first.failure .insertOne with
      | some message => exact .error h
      | none =>
        apply setToCache_alike repo repo'
        exact ⟨rfl, h.now, rfl⟩

theorem disassociateParticipant_alike (h : first.SameButCache second) :
    Lockstep Eq BuiltinWorld.SameButCache
      (disassociateParticipant fspId partyType partyId partySubType currency first)
      (disassociateParticipant fspId partyType partyId partySubType currency second) := by
  unfold disassociateParticipant
  rw [← h.failure, ← h.parties]
  cases first.failure .deleteOne with
  | some message => exact .error h
  | none =>
    apply delFromCache_alike
    exact ⟨rfl, h.now, rfl⟩

variable [LinearOrder T] [Add T]

/-- What the cache serves is the answer. -/
theorem getParticipantFspId_of_served {w : BuiltinWorld T} {owner : JsString}
    (repo : MongoOracleProviderRepo T) (hget : w.failure .redisGet = none)
    (hserved : served w partyType partyId partySubType currency = some owner) :
    repo.getParticipantFspId partyType partyId partySubType currency w = (.ok owner, w) := by
  obtain ⟨record, hrecord, rfl⟩ := Option.map_eq_some_iff.mp hserved
  simp only [getParticipantFspId, getFromCache, hget, hrecord]

/-- What the cache does not serve is read from the database, and nothing but the cache
changes. -/
theorem getParticipantFspId_of_not_served {w : BuiltinWorld T} {d : Association}
    (repo : MongoOracleProviderRepo T) (hget : w.failure .redisGet = none)
    (hfind : w.failure .findOne = none) (hset : w.failure .redisSetex = none)
    (hserved : served w partyType partyId partySubType currency = none)
    (hd : w.parties.find? (lookupQuery partyType partyId partySubType currency).satisfiedBy =
      some d) :
    ∃ w', repo.getParticipantFspId partyType partyId partySubType currency w =
      (.ok d.fspId, w') ∧ w'.SameButCache w := by
  have hmiss := Option.map_eq_none_iff.mp hserved
  simp only [getParticipantFspId, getFromCache, hget, hmiss, hfind, hd, setToCache, hset]
  exact ⟨_, rfl, rfl, rfl, rfl⟩

/-- When the database answers, the lookup yields the participant of the document it
finds, provided that the cache serves no other. -/
theorem getParticipantFspId_eq_found {w : BuiltinWorld T} {d : Association}
    (repo : MongoOracleProviderRepo T) (hget : w.failure .redisGet = none)
    (hfind : w.failure .findOne = none) (hset : w.failure .redisSetex = none)
    (hserved : (served w partyType partyId partySubType currency).getD d.fspId = d.fspId)
    (hd : w.parties.find? (lookupQuery partyType partyId partySubType currency).satisfiedBy =
      some d) :
    ∃ w', repo.getParticipantFspId partyType partyId partySubType currency w =
      (.ok d.fspId, w') ∧ w'.SameButCache w := by
  cases hhit : served w partyType partyId partySubType currency with
  | none => exact getParticipantFspId_of_not_served repo hget hfind hset hhit hd
  | some owner =>
    rw [hhit, Option.getD_some] at hserved
    exact ⟨w, hserved ▸ getParticipantFspId_of_served repo hget hhit, rfl, rfl, rfl⟩

/-- Two lookups that neither cache serves. -/
theorem getParticipantFspId_alike_of_not_served (repo repo' : MongoOracleProviderRepo T)
    (h : first.SameButCache second) (hsub : partySubType.orNull = partySubType'.orNull)
    (hcurrency : currency.orNull = currency'.orNull)
    (hmiss : served first partyType partyId partySubType currency = none)
    (hmiss' : served second partyType partyId partySubType' currency' = none)
    (hget : first.failure .redisGet = none) :
    Lockstep Eq BuiltinWorld.SameButCache
      (repo.getParticipantFspId partyType partyId partySubType currency first)
      (repo'.getParticipantFspId partyType partyId partySubType' currency' second) := by
  have hmiss := Option.map_eq_none_iff.mp hmiss
  have hmiss' := Option.map_eq_none_iff.mp hmiss'
  simp only [getParticipantFspId, getFromCache, ← h.failure, hget, hmiss, hmiss', ← h.parties,
    ← lookupQuery_congr hsub hcurrency]
  cases first.failure .findOne with
  | some message => exact .error h
  | none =>
    dsimp only
    cases first.parties.find? (lookupQuery partyType partyId partySubType
        currency).satisfiedBy with
    | none => exact .ok rfl h
    | some d =>
      dsimp only
      rcases (setToCache_alike repo repo' h
          ⟨d.fspId, partyType, partyId, partySubType, currency⟩
          ⟨d.fspId, partyType, partyId, partySubType', currency'⟩).cases with
        ⟨_, _, w, w', hset, hset', -, hworld⟩ | ⟨error, error', w, w', hset, hset', hworld⟩
      · rw [hset, hset']
        exact .ok rfl hworld
      · rw [hset, hset']
        exact .error hworld

theorem getParticipantFspId_alike (repo repo' : MongoOracleProviderRepo T)
    (h : first.SameButCache second) (hsub : partySubType.orNull = partySubType'.orNull)
    (hcurrency : currency.orNull = currency'.orNull)
    (hserved : ServedAlike first second partyType partyId partySubType partySubType' currency
      currency') :
    Lockstep Eq BuiltinWorld.SameButCache
      (repo.getParticipantFspId partyType partyId partySubType currency first)
      (repo'.getParticipantFspId partyType partyId partySubType' currency' second) := by
  cases hget : first.failure .redisGet with
  | some message =>
    have hget' : second.failure .redisGet = some message := h.failure ▸ hget
    simp only [getParticipantFspId, getFromCache, hget, hget']
    exact .error h
  | none =>
    have hget' : second.failure .redisGet = none := h.failure ▸ hget
    by_cases hsame : served first partyType partyId partySubType currency =
        served second partyType partyId partySubType' currency'
    · cases hhit : served first partyType partyId partySubType currency with
      | none =>
        exact getParticipantFspId_alike_of_not_served repo repo' h hsub hcurrency hhit
          (hsame.symm.trans hhit) hget
      | some owner =>
        rw [getParticipantFspId_of_served repo hget hhit,
          getParticipantFspId_of_served repo' hget' (hsame.symm.trans hhit)]
        exact .ok rfl h
    · obtain ⟨hfind, hset, d, hd, hhit, hhit'⟩ := hserved hget hsame
      have hd' : second.parties.find? (lookupQuery partyType partyId partySubType'
          currency').satisfiedBy = some d := by
        rw [← h.parties, ← lookupQuery_congr hsub hcurrency, hd]
      obtain ⟨w, hcall, hw⟩ := getParticipantFspId_eq_found repo hget hfind hset hhit hd
      obtain ⟨w', hcall', hw'⟩ := getParticipantFspId_eq_found repo' hget' (h.failure ▸ hfind)
        (h.failure ▸ hset) hhit' hd'
      rw [hcall, hcall']
      exact .ok rfl ⟨hw.parties.trans (h.parties.trans hw'.parties.symm),
        hw.now.trans (h.now.trans hw'.now.symm),
        hw.failure.trans (h.failure.trans hw'.failure.symm)⟩

end MongoOracleProviderRepo

/-! ## The remote oracle -/

namespace HttpOracleProvider

variable {provider : HttpOracleProvider R}
  {fspId partyType partyId partySubType partySubType' currency currency' : JsString}

/-- The URL carries a property only when it counts. -/
theorem participantsUrl_congr (hsub : partySubType.orNull = partySubType'.orNull)
    (hcurrency : currency.orNull = currency'.orNull) :
    participantsUrl partyType partyId partySubType currency =
      participantsUrl partyType partyId partySubType' currency' := by
  have hsubUrl := JsString.ite_truthy_congr (fun v => s!"?partySubType=/{v.toText}") "" hsub
  have hcurrencyUrl := JsString.ite_truthy_congr (fun v => s!"?currency={v.toText}") "" hcurrency
  unfold participantsUrl
  exact congrArg₂ (· ++ ·) (congrArg _ hsubUrl) hcurrencyUrl

theorem getParticipantFspId_alike (hsub : partySubType.orNull = partySubType'.orNull)
    (hcurrency : currency.orNull = currency'.orNull) (remote : R) :
    Lockstep Eq Eq (provider.getParticipantFspId partyType partyId partySubType currency remote)
      (provider.getParticipantFspId partyType partyId partySubType' currency' remote) := by
  simp only [getParticipantFspId, ← participantsUrl_congr hsub hcurrency]
  rcases provider.axios.get provider.oracle.endpoint
    (participantsUrl partyType partyId partySubType currency) remote with ⟨_ | response, remote'⟩
  · exact .error rfl
  · exact .ok rfl rfl

theorem associateParticipant_alike (hsub : partySubType.orNull = partySubType'.orNull)
    (hcurrency : currency.orNull = currency'.orNull) (remote : R) :
    Lockstep Eq Eq
      (provider.associateParticipant fspId partyType partyId partySubType currency remote)
      (provider.associateParticipant fspId partyType partyId partySubType' currency' remote) := by
  simp only [associateParticipant, ← participantsUrl_congr hsub hcurrency]
  rcases provider.axios.post provider.oracle.endpoint
    (participantsUrl partyType partyId partySubType currency) fspId remote with
    ⟨_ | response, remote'⟩
  · exact .error rfl
  · exact .ok rfl rfl

end HttpOracleProvider

namespace OracleAdapterFactory

/-- Two adapters that are one, or that share the built-in stores. -/
def SameStores (first second : IOracleProviderAdapter (ServiceWorld T R)) : Prop :=
  first = second ∨ first.type = .builtin ∧ second.type = .builtin

variable [LinearOrder T] [Add T] {settings : OracleAdapterFactory T R}

/-- What the factory has built lives in the built-in stores or behind HTTP. -/
theorem adapter_of_created {adapter : IOracleProviderAdapter (ServiceWorld T R)}
    (hcreated : ∃ oracle w, settings.create oracle w = (.ok adapter, w)) :
    (∃ repo : MongoOracleProviderRepo T, adapter = repo.adapter.on ServiceWorld.builtinPart) ∨
      ∃ provider : HttpOracleProvider R,
        adapter = provider.adapter.on ServiceWorld.remotePart := by
  obtain ⟨oracle, w, hcreate⟩ := hcreated
  cases htype : oracle.type with
  | builtin =>
    simp only [create, htype] at hcreate
    exact Or.inl ⟨_, (Except.ok.inj (Prod.mk.inj hcreate).1).symm⟩
  | remoteHttp =>
    simp only [create, htype] at hcreate
    exact Or.inr ⟨_, (Except.ok.inj (Prod.mk.inj hcreate).1).symm⟩
  | other value => simp [create, htype] at hcreate

/-- Adapters with the same stores are both in the built-in stores, or are one client. -/
theorem SameStores.cases {first second : IOracleProviderAdapter (ServiceWorld T R)}
    (h : SameStores first second)
    (hfirst : ∃ oracle w, settings.create oracle w = (.ok first, w))
    (hsecond : ∃ oracle w, settings.create oracle w = (.ok second, w)) :
    (∃ repo repo' : MongoOracleProviderRepo T,
        first = repo.adapter.on ServiceWorld.builtinPart ∧
        second = repo'.adapter.on ServiceWorld.builtinPart) ∨
      ∃ provider : HttpOracleProvider R,
        first = provider.adapter.on ServiceWorld.remotePart ∧ second = first := by
  rcases adapter_of_created hfirst with ⟨repo, rfl⟩ | ⟨provider, rfl⟩
  · rcases adapter_of_created hsecond with ⟨repo', rfl⟩ | ⟨provider', rfl⟩
    · exact Or.inl ⟨repo, repo', rfl, rfl⟩
    · rcases h with heq | ⟨-, htype⟩
      · exact Or.inl ⟨repo, repo, rfl, heq.symm⟩
      · cases htype
  · rcases h with heq | ⟨htype, -⟩
    · exact Or.inr ⟨provider, rfl, heq.symm⟩
    · cases htype

variable {first second : IOracleProviderAdapter (ServiceWorld T R)} {w w' : ServiceWorld T R}
  {fspId partyType partyId partySubType partySubType' currency currency' : JsString}

theorem getParticipantFspId_alike (hstores : SameStores first second)
    (hfirst : ∃ oracle w, settings.create oracle w = (.ok first, w))
    (hsecond : ∃ oracle w, settings.create oracle w = (.ok second, w))
    (h : w.SameButCache w') (hsub : partySubType.orNull = partySubType'.orNull)
    (hcurrency : currency.orNull = currency'.orNull)
    (hserved : first.type = .builtin → MongoOracleProviderRepo.ServedAlike w.builtin w'.builtin
      partyType partyId partySubType partySubType' currency currency') :
    Lockstep Eq ServiceWorld.SameButCache
      (first.getParticipantFspId partyType partyId partySubType currency w)
      (second.getParticipantFspId partyType partyId partySubType' currency' w') := by
  rcases hstores.cases hfirst hsecond with ⟨repo, repo', rfl, rfl⟩ | ⟨provider, rfl, rfl⟩
  · exact h.lockstep_builtin (MongoOracleProviderRepo.getParticipantFspId_alike repo repo'
      h.builtin hsub hcurrency (hserved rfl))
  · exact h.lockstep_remote (HttpOracleProvider.getParticipantFspId_alike hsub hcurrency)

variable (fspId partyType partyId) in
theorem associateParticipant_alike (hstores : SameStores first second)
    (hfirst : ∃ oracle w, settings.create oracle w = (.ok first, w))
    (hsecond : ∃ oracle w, settings.create oracle w = (.ok second, w))
    (h : w.SameButCache w') (hsub : partySubType.orNull = partySubType'.orNull)
    (hcurrency : currency.orNull = currency'.orNull) :
    Lockstep Eq ServiceWorld.SameButCache
      (first.associateParticipant fspId partyType partyId partySubType currency w)
      (second.associateParticipant fspId partyType partyId partySubType' currency' w') := by
  rcases hstores.cases hfirst hsecond with ⟨repo, repo', rfl, rfl⟩ | ⟨provider, rfl, rfl⟩
  · exact h.lockstep_builtin (MongoOracleProviderRepo.associateParticipant_alike repo repo'
      h.builtin hsub hcurrency)
  · exact h.lockstep_remote (HttpOracleProvider.associateParticipant_alike hsub hcurrency)

variable (fspId partyType partyId partySubType currency) in
/-- The removal is given no spelling to tell apart. -/
theorem disassociateParticipant_alike (hstores : SameStores first second)
    (hfirst : ∃ oracle w, settings.create oracle w = (.ok first, w))
    (hsecond : ∃ oracle w, settings.create oracle w = (.ok second, w))
    (h : w.SameButCache w') :
    Lockstep Eq ServiceWorld.SameButCache
      (first.disassociateParticipant fspId partyType partyId partySubType currency w)
      (second.disassociateParticipant fspId partyType partyId partySubType currency w') := by
  rcases hstores.cases hfirst hsecond with ⟨repo, repo', rfl, rfl⟩ | ⟨provider, rfl, rfl⟩
  · exact h.lockstep_builtin (MongoOracleProviderRepo.disassociateParticipant_alike h.builtin)
  · exact h.lockstep_remote fun remote => Lockstep.refl _

end OracleAdapterFactory

end AccountLookup

/-
# Runs of the built-in oracle

Callers identify a party by a type, an id and two optional properties. A run
interleaves their calls with the loss of cache entries and the passing of time;
in a faulty run any database and cache call may fail at any step. What one step
can do is said once here, and the shape of the documents and cache entries that
runs produce is derived from it.
-/

import AccountLookup.Implementations.MongoOracleProvider
import AccountLookup.Library.FirstMatch
import AccountLookup.Library.Transition

namespace AccountLookup

open Library

namespace Party

variable (party : Party)

/-- The cache key of the party. -/
def key : String :=
  MongoOracleProviderRepo.getKeyWithPrefix (.str party.partyType) (.str party.partyId)
    (.ofOption party.partySubType) (.ofOption party.currency)

/-- The query of a lookup of the party. -/
def query : LookupQuery :=
  MongoOracleProviderRepo.lookupQuery (.str party.partyType) (.str party.partyId)
    (.ofOption party.partySubType) (.ofOption party.currency)

/-- The query object of an association of the party with a participant: the
filter of the duplicate check and of the removal, and what is inserted. -/
def filter (fspId : String) : LookupQuery :=
  MongoOracleProviderRepo.buildLookupQuery (.str party.partyId) (.str fspId)
    (.str party.partyType) (.ofOption party.partySubType) (.ofOption party.currency)

/-- The document stored for an association of the party. -/
def document (fspId : String) : Association := (party.filter fspId).toDocument

/-- The sub type that the party names, `null` and the empty string naming none. -/
def namedSubType : Option String := (JsString.ofOption party.partySubType).nonEmpty?

/-- The currency that the party names. -/
def namedCurrency : Option String := (JsString.ofOption party.currency).nonEmpty?

/-- The association is of the party's type and id, and has the sub type and the
currency that the party names. -/
def Describes (d : Association) : Prop :=
  d.partyType = .str party.partyType ∧ d.partyId = .str party.partyId ∧
    (∀ s, party.namedSubType = some s → d.partySubType = .str s) ∧
    (∀ s, party.namedCurrency = some s → d.currency = .str s)

end Party

/-- One step of a run. -/
inductive BuiltinStep (T : Type)
  | associateParticipant (fspId : String) (party : Party)
  | disassociateParticipant (fspId : String) (party : Party)
  | getParticipantFspId (party : Party)
  /-- The cache drops a key before its time. -/
  | expire (key : String)
  /-- The clock moves on to the given instant. -/
  | wait (until_ : T)

/-- A step made while the given database and cache calls fail. -/
structure FaultyStep (T : Type) where
  failure : BuiltinCall → Option String
  step : BuiltinStep T

/-- No association, nothing cached, no failure. -/
def BuiltinWorld.empty {T : Type} (now : T) : BuiltinWorld T where
  parties := []
  cache := TtlCache.empty
  now := now
  failure := fun _ => none
  matchesRegex regex value := value = .str regex

/-- A built-in oracle whose cache entries last ten ticks. -/
def sampleRepo : MongoOracleProviderRepo ℕ :=
  ⟨⟨"1", .str "MSISDN", .builtin, .str "MSISDN", .undefined, .undefined⟩, 10⟩

/-- Every database and cache call succeeds. -/
def BuiltinWorld.NoFailure {T : Type} (w : BuiltinWorld T) : Prop := ∀ call, w.failure call = none

namespace Party

open MongoOracleProviderRepo

variable {party : Party} {fspId : String} {d : Association}

theorem getKeyWithPrefix_eq_key : getKeyWithPrefix (.str party.partyType) (.str party.partyId)
    (.ofOption party.partySubType) (.ofOption party.currency) = party.key := rfl

theorem lookupQuery_eq_query : lookupQuery (.str party.partyType) (.str party.partyId)
    (.ofOption party.partySubType) (.ofOption party.currency) = party.query := rfl

theorem buildLookupQuery_eq_filter : buildLookupQuery (.str party.partyId) (.str fspId)
    (.str party.partyType) (.ofOption party.partySubType) (.ofOption party.currency) =
      party.filter fspId := rfl

/-- An optional property constrains a query when it names something. -/
theorem all_deleteIfFalsy (stored wanted : JsString) :
    (deleteIfFalsy wanted).all (fieldMatches stored) = true ↔
      ∀ s, wanted.nonEmpty? = some s → stored = .str s := by
  cases htruthy : wanted.truthy with
  | false => simp [deleteIfFalsy, htruthy, JsString.nonEmpty?_eq_none_iff.mpr htruthy]
  | true =>
    obtain ⟨s, rfl, hs⟩ := JsString.truthy_iff.mp htruthy
    simp [deleteIfFalsy, htruthy, fieldMatches, JsString.nonEmpty?, hs]

/-- A lookup matches the associations that the party describes. -/
theorem satisfiedBy_query : party.query.satisfiedBy d = true ↔ party.Describes d := by
  simp only [query, lookupQuery, LookupQuery.satisfiedBy, Option.all_none, Option.all_some,
    Bool.true_and, Bool.and_eq_true, all_deleteIfFalsy, fieldMatches, decide_eq_true_eq, and_assoc,
    Describes, namedSubType, namedCurrency]

/-- The filter of an association matches like a lookup, for one participant. -/
theorem satisfiedBy_filter :
    (party.filter fspId).satisfiedBy d = true ↔ d.fspId = .str fspId ∧ party.Describes d := by
  simp only [filter, buildLookupQuery, LookupQuery.satisfiedBy, Option.all_some,
    Bool.and_eq_true, all_deleteIfFalsy, fieldMatches, decide_eq_true_eq, and_assoc,
    Describes, namedSubType, namedCurrency]

@[simp] theorem document_fspId : (party.document fspId).fspId = .str fspId := rfl
@[simp] theorem document_partyType : (party.document fspId).partyType = .str party.partyType := rfl
@[simp] theorem document_partyId : (party.document fspId).partyId = .str party.partyId := rfl

/-- An optional property is stored when it names something and missing otherwise. -/
theorem storedField_deleteIfFalsy (value : JsString) :
    LookupQuery.storedField (deleteIfFalsy value) = value.nonEmpty?.elim .undefined .str := by
  cases htruthy : value.truthy with
  | false =>
    rw [JsString.nonEmpty?_eq_none_iff.mpr htruthy]
    simp [deleteIfFalsy, htruthy, LookupQuery.storedField]
  | true =>
    obtain ⟨s, rfl, hs⟩ := JsString.truthy_iff.mp htruthy
    simp [deleteIfFalsy, htruthy, LookupQuery.storedField, JsString.nonEmpty?, hs]

theorem document_partySubType :
    (party.document fspId).partySubType = party.namedSubType.elim .undefined .str :=
  storedField_deleteIfFalsy (.ofOption party.partySubType)

theorem document_currency :
    (party.document fspId).currency = party.namedCurrency.elim .undefined .str :=
  storedField_deleteIfFalsy (.ofOption party.currency)

/-- A party's own document satisfies its own filter. -/
theorem satisfiedBy_filter_document : (party.filter fspId).satisfiedBy (party.document fspId) := by
  rw [satisfiedBy_filter, Describes, document_partySubType, document_currency]
  exact ⟨rfl, rfl, rfl, fun s hs => by rw [hs, Option.elim_some],
    fun s hs => by rw [hs, Option.elim_some]⟩

end Party

/-- A document of the shape that associations have when they are stored. -/
def Association.IsStored (d : Association) : Prop :=
  ∃ (party : Party) (fspId : String), d = party.document fspId

namespace MongoOracleProviderRepo

variable {T : Type}

def disassociate (fspId : String) (party : Party) : Call (BuiltinWorld T) Unit :=
  disassociateParticipant (.str fspId) (.str party.partyType) (.str party.partyId)
    (.ofOption party.partySubType) (.ofOption party.currency)

/-- A removal drops the first document its filter finds, and the party's own
cache key. -/
theorem disassociate_eq {w : BuiltinWorld T} (h : w.NoFailure) (fspId : String) (party : Party) :
    disassociate fspId party w = (.ok (), { w with
      parties := w.parties.eraseP (party.filter fspId).satisfiedBy
      cache := w.cache.del party.key }) := by
  simp only [disassociate, disassociateParticipant, delFromCache, h .deleteOne, h .redisDel,
    Party.buildLookupQuery_eq_filter, Party.getKeyWithPrefix_eq_key]

/-- The documents are stored associations, and what is cached names a participant. -/
structure WellFormed (w : BuiltinWorld T) : Prop where
  stored : ∀ d ∈ w.parties, d.IsStored
  cached : ∀ k e, w.cache.entry k = some e → ∃ fspId, e.value.fspId = .str fspId

theorem wellFormed_empty (now : T) : WellFormed (BuiltinWorld.empty now) :=
  ⟨fun _ h => (by cases h), fun _ _ h => (by cases h)⟩

variable [Add T] (repo : MongoOracleProviderRepo T)

def associate (fspId : String) (party : Party) : Call (BuiltinWorld T) Unit :=
  repo.associateParticipant (.str fspId) (.str party.partyType) (.str party.partyId)
    (.ofOption party.partySubType) (.ofOption party.currency)

/-- The world after an association has been stored and cached. -/
def afterAssociate (fspId : String) (party : Party) (w : BuiltinWorld T) : BuiltinWorld T :=
  { w with
    parties := w.parties ++ [party.document fspId]
    cache := w.cache.setex party.key (party.record (.str fspId))
      (w.now + repo.redisCacheDurationSecs) }

/-- The world after a lookup's answer has been cached. -/
def afterLookup (fspId : JsString) (party : Party) (w : BuiltinWorld T) : BuiltinWorld T :=
  { w with
    cache := w.cache.setex party.key (party.record fspId)
      (w.now + repo.redisCacheDurationSecs) }

/-- An association is rejected when its filter finds a document. -/
theorem associate_eq_of_some {w : BuiltinWorld T} {fspId : String} {party : Party}
    {d : Association} (h : w.NoFailure)
    (hfind : w.parties.find? (party.filter fspId).satisfiedBy = some d) :
    ∃ error, repo.associate fspId party w = (.error error, w) := by
  exact ⟨_, by
    simp only [associate, associateParticipant, h .findOne, Party.buildLookupQuery_eq_filter,
      hfind]
    rfl⟩

/-- An association is stored and cached when its filter finds nothing. -/
theorem associate_eq_of_none {w : BuiltinWorld T} {fspId : String} {party : Party}
    (h : w.NoFailure) (hfind : w.parties.find? (party.filter fspId).satisfiedBy = none) :
    repo.associate fspId party w = (.ok (), repo.afterAssociate fspId party w) := by
  simp only [associate, associateParticipant, setToCache, h .findOne, h .insertOne, h .redisSetex,
    Party.buildLookupQuery_eq_filter, hfind, Party.getKeyWithPrefix_eq_key]
  rfl

variable [LinearOrder T]

def lookup (party : Party) : Call (BuiltinWorld T) JsString :=
  repo.getParticipantFspId (.str party.partyType) (.str party.partyId)
    (.ofOption party.partySubType) (.ofOption party.currency)

/-- The world after one step. -/
def step (w : BuiltinWorld T) : BuiltinStep T → BuiltinWorld T
  | .associateParticipant fspId party => (repo.associate fspId party w).2
  | .disassociateParticipant fspId party => (disassociate fspId party w).2
  | .getParticipantFspId party => (repo.lookup party w).2
  | .expire key => { w with cache := w.cache.del key }
  | .wait instant => { w with now := max w.now instant }

/-- The world after one step in which some calls may fail. -/
def faultyStep (w : BuiltinWorld T) (s : FaultyStep T) : BuiltinWorld T :=
  repo.step { w with failure := s.failure } s.step

variable {repo}

/-- A lookup answers from the cache, or from the first matching document, which
it then caches, or with `null`. -/
theorem lookup_eq {w : BuiltinWorld T} (h : w.NoFailure) (party : Party) :
    repo.lookup party w =
      match w.cache.get w.now party.key with
      | some record => (.ok record.fspId, w)
      | none =>
        match w.parties.find? party.query.satisfiedBy with
        | none => (.ok .null, w)
        | some data => (.ok data.fspId, repo.afterLookup data.fspId party w) := by
  simp only [lookup, getParticipantFspId, getFromCache, h .redisGet,
    Party.getKeyWithPrefix_eq_key, Party.lookupQuery_eq_query]
  cases w.cache.get w.now party.key with
  | some record => rfl
  | none =>
    simp only [h .findOne]
    cases w.parties.find? party.query.satisfiedBy with
    | none => rfl
    | some data =>
      simp only [setToCache, h .redisSetex]
      rfl

/-! ## What one step can do -/

variable (repo)

/-- What a step can do to the world, whichever database and cache calls fail. A
failed call may leave an association stored or removed with the cache untouched. -/
inductive Effect (w : BuiltinWorld T) : BuiltinStep T → BuiltinWorld T → Prop
  | unchanged (s : BuiltinStep T) : Effect w s w
  | stored (fspId : String) (party : Party)
      (hfind : w.parties.find? (party.filter fspId).satisfiedBy = none) :
      Effect w (.associateParticipant fspId party)
        { w with parties := w.parties ++ [party.document fspId] }
  | storedAndCached (fspId : String) (party : Party)
      (hfind : w.parties.find? (party.filter fspId).satisfiedBy = none) :
      Effect w (.associateParticipant fspId party) (repo.afterAssociate fspId party w)
  | removed (fspId : String) (party : Party) :
      Effect w (.disassociateParticipant fspId party)
        { w with parties := w.parties.eraseP (party.filter fspId).satisfiedBy }
  | removedAndUncached (fspId : String) (party : Party) :
      Effect w (.disassociateParticipant fspId party)
        { w with
          parties := w.parties.eraseP (party.filter fspId).satisfiedBy
          cache := w.cache.del party.key }
  | lookupCached (party : Party) (d : Association)
      (hfind : w.parties.find? party.query.satisfiedBy = some d) :
      Effect w (.getParticipantFspId party) (repo.afterLookup d.fspId party w)
  | expired (key : String) : Effect w (.expire key) { w with cache := w.cache.del key }
  | waited (instant : T) : Effect w (.wait instant) { w with now := max w.now instant }

theorem effect_associate (w : BuiltinWorld T) (fspId : String) (party : Party) :
    repo.Effect w (.associateParticipant fspId party) (repo.associate fspId party w).2 := by
  have hsame : repo.Effect w (.associateParticipant fspId party) w := .unchanged _
  simp only [associate, associateParticipant, Party.buildLookupQuery_eq_filter]
  cases w.failure .findOne with
  | some message => exact hsame
  | none =>
    cases hfind : w.parties.find? (party.filter fspId).satisfiedBy with
    | some d => exact hsame
    | none =>
      cases w.failure .insertOne with
      | some message => exact hsame
      | none =>
        simp only [setToCache]
        cases w.failure .redisSetex with
        | some message => exact .stored fspId party hfind
        | none => exact .storedAndCached fspId party hfind

theorem effect_disassociate (w : BuiltinWorld T) (fspId : String) (party : Party) :
    repo.Effect w (.disassociateParticipant fspId party) (disassociate fspId party w).2 := by
  have hsame : repo.Effect w (.disassociateParticipant fspId party) w := .unchanged _
  simp only [disassociate, disassociateParticipant, Party.buildLookupQuery_eq_filter]
  cases w.failure .deleteOne with
  | some message => exact hsame
  | none =>
    simp only [delFromCache]
    cases w.failure .redisDel with
    | some message => exact .removed fspId party
    | none => exact .removedAndUncached fspId party

theorem effect_lookup (w : BuiltinWorld T) (party : Party) :
    repo.Effect w (.getParticipantFspId party) (repo.lookup party w).2 := by
  have hsame : repo.Effect w (.getParticipantFspId party) w := .unchanged _
  simp only [lookup, getParticipantFspId, getFromCache, Party.getKeyWithPrefix_eq_key,
    Party.lookupQuery_eq_query]
  cases w.failure .redisGet with
  | some message => exact hsame
  | none =>
    dsimp only
    cases w.cache.get w.now party.key with
    | some record => exact hsame
    | none =>
      dsimp only
      cases w.failure .findOne with
      | some message => exact hsame
      | none =>
        cases hfind : w.parties.find? party.query.satisfiedBy with
        | none => exact hsame
        | some d =>
          simp only [setToCache]
          cases w.failure .redisSetex with
          | some message => exact hsame
          | none => exact .lookupCached party d hfind

/-- The entry has just been set, for a party, from an association it describes. -/
def JustCached (w : BuiltinWorld T) (k : String) (e : TtlEntry Association T) : Prop :=
  ∃ (party : Party) (d : Association), k = party.key ∧ d ∈ w.parties ∧ party.Describes d ∧
    e = ⟨party.record d.fspId, w.now + repo.redisCacheDurationSecs⟩

/-- **What one step can do.** -/
theorem step_effect (w : BuiltinWorld T) (s : BuiltinStep T) :
    repo.Effect w s (repo.step w s) := by
  cases s with
  | associateParticipant fspId party => exact repo.effect_associate w fspId party
  | disassociateParticipant fspId party => exact repo.effect_disassociate w fspId party
  | getParticipantFspId party => exact repo.effect_lookup w party
  | expire key => exact .expired key
  | wait instant => exact .waited instant

variable {repo}

theorem Effect.stored_of_stored {w w' : BuiltinWorld T} {s : BuiltinStep T}
    (heffect : repo.Effect w s w') (h : ∀ d ∈ w.parties, d.IsStored) :
    ∀ d ∈ w'.parties, d.IsStored := by
  intro d hd
  cases heffect with
  | unchanged => exact h d hd
  | stored fspId party | storedAndCached fspId party =>
    rcases List.mem_append.mp hd with hd | hd
    · exact h d hd
    · exact ⟨party, fspId, List.mem_singleton.mp hd⟩
  | removed | removedAndUncached => exact h d (List.mem_of_mem_eraseP hd)
  | lookupCached => exact h d hd
  | expired => exact h d hd
  | waited => exact h d hd

/-- A cache entry was there before, or it has just been set. -/
theorem Effect.entry_cases {w w' : BuiltinWorld T} {s : BuiltinStep T}
    (heffect : repo.Effect w s w') {k : String} {e : TtlEntry Association T}
    (he : w'.cache.entry k = some e) :
    w.cache.entry k = some e ∨ repo.JustCached w' k e := by
  cases heffect with
  | unchanged | stored | removed | waited => exact Or.inl he
  | storedAndCached fspId party =>
    simp only [afterAssociate, TtlCache.entry_setex] at he
    split at he
    · next hk =>
      refine Or.inr ⟨party, party.document fspId, hk, List.mem_append_right _ (by simp), ?_,
        (Option.some.inj he).symm⟩
      exact (Party.satisfiedBy_filter.mp Party.satisfiedBy_filter_document).2
    · exact Or.inl he
  | removedAndUncached =>
    simp only [TtlCache.entry_del] at he
    split at he
    · cases he
    · exact Or.inl he
  | lookupCached party d hfind =>
    simp only [afterLookup, TtlCache.entry_setex] at he
    split at he
    · next hk =>
      exact Or.inr ⟨party, d, hk, List.mem_of_find?_eq_some hfind,
        Party.satisfiedBy_query.mp (List.find?_some hfind), (Option.some.inj he).symm⟩
    · exact Or.inl he
  | expired =>
    simp only [TtlCache.entry_del] at he
    split at he
    · cases he
    · exact Or.inl he

theorem Effect.failure_eq {w w' : BuiltinWorld T} {s : BuiltinStep T}
    (heffect : repo.Effect w s w') : w'.failure = w.failure := by
  cases heffect <;> rfl

theorem Effect.now_le {w w' : BuiltinWorld T} {s : BuiltinStep T}
    (heffect : repo.Effect w s w') : w.now ≤ w'.now := by
  cases heffect with
  | waited instant => exact le_max_left _ _
  | _ => exact le_refl _

theorem Effect.wellFormed {w w' : BuiltinWorld T} {s : BuiltinStep T}
    (heffect : repo.Effect w s w') (h : WellFormed w) : WellFormed w' := by
  have hstored := heffect.stored_of_stored h.stored
  refine ⟨hstored, fun k e he => ?_⟩
  rcases heffect.entry_cases he with hold | ⟨party, d, -, hd, -, rfl⟩
  · exact h.cached k e hold
  · obtain ⟨owner, fspId, rfl⟩ := hstored d hd
    exact ⟨fspId, rfl⟩

theorem wellFormed_step (repo : MongoOracleProviderRepo T) (w : BuiltinWorld T)
    (s : BuiltinStep T) (h : WellFormed w) : WellFormed (repo.step w s) :=
  (repo.step_effect w s).wellFormed h

theorem noFailure_step (repo : MongoOracleProviderRepo T) (w : BuiltinWorld T)
    (s : BuiltinStep T) (h : w.NoFailure) : (repo.step w s).NoFailure := fun call =>
  (congrFun (repo.step_effect w s).failure_eq call).trans (h call)

end MongoOracleProviderRepo

end AccountLookup

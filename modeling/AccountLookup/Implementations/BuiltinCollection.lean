/-
# The collection of the built-in oracle

What the stored associations amount to when absent, `null` and empty properties
are identified: which participants own a party, and when the operations act on
the collection as on a set of five-tuples. No five-tuple is ever stored twice, so
all that can go wrong is that an open property of a request matches an
association of another party, or that the same party is stored for two owners.
-/

import Mathlib.Algebra.Order.Group.Nat
import Mathlib.Order.BooleanAlgebra.Set
import AccountLookup.Implementations.BuiltinRuns

namespace AccountLookup

open Library Library.Transition Library.FirstMatch

/-- A party identifier with absent, `null` and empty properties identified. -/
structure Quadruple where
  partyType : JsString
  partyId : JsString
  partySubType : Option String
  currency : Option String
  deriving DecidableEq

/-- An association with absent, `null` and empty properties identified. -/
structure FiveTuple where
  fspId : JsString
  quadruple : Quadruple
  deriving DecidableEq

def Association.quadruple (d : Association) : Quadruple :=
  ⟨d.partyType, d.partyId, d.partySubType.nonEmpty?, d.currency.nonEmpty?⟩

def Association.fiveTuple (d : Association) : FiveTuple := ⟨d.fspId, d.quadruple⟩

def Party.quadruple (party : Party) : Quadruple :=
  ⟨.str party.partyType, .str party.partyId, party.namedSubType, party.namedCurrency⟩

def Party.fiveTuple (party : Party) (fspId : String) : FiveTuple := ⟨.str fspId, party.quadruple⟩

namespace Party

variable {party : Party} {fspId : String} {d : Association}

theorem nonEmpty?_elim (value : JsString) :
    (value.nonEmpty?.elim JsString.undefined .str).nonEmpty? = value.nonEmpty? := by
  cases hvalue : value.nonEmpty? with
  | none => rfl
  | some s =>
    exact JsString.nonEmpty?_eq_some_iff.mpr ⟨rfl, (JsString.nonEmpty?_eq_some_iff.mp hvalue).2⟩

theorem quadruple_document : (party.document fspId).quadruple = party.quadruple := by
  rw [Association.quadruple, document_partySubType, document_currency]
  exact congrArg₂ (Quadruple.mk _ _) (nonEmpty?_elim _) (nonEmpty?_elim _)

theorem fiveTuple_document : (party.document fspId).fiveTuple = party.fiveTuple fspId :=
  congrArg (FiveTuple.mk _) quadruple_document

/-- An association with the party's own quadruple is described by the party. -/
theorem describes_of_quadruple_eq (h : d.quadruple = party.quadruple) : party.Describes d := by
  obtain ⟨htype, hid, hsub, hcurrency⟩ := Quadruple.mk.inj h
  exact ⟨htype, hid, fun s hs => (JsString.nonEmpty?_eq_some_iff.mp (hsub.trans hs)).1,
    fun s hs => (JsString.nonEmpty?_eq_some_iff.mp (hcurrency.trans hs)).1⟩

/-- The filter of a request matches the five-tuple of the request. -/
theorem satisfiedBy_of_fiveTuple_eq (h : d.fiveTuple = party.fiveTuple fspId) :
    (party.filter fspId).satisfiedBy d = true := by
  obtain ⟨hfsp, hquadruple⟩ := FiveTuple.mk.inj h
  exact satisfiedBy_filter.mpr ⟨hfsp, describes_of_quadruple_eq hquadruple⟩

end Party

/-- Every quadruple is associated with at most one participant. -/
def UniqueOwner (parties : List Association) : Prop :=
  ∀ d ∈ parties, ∀ d' ∈ parties, d.quadruple = d'.quadruple → d.fspId = d'.fspId

namespace MongoOracleProviderRepo

variable {T : Type}

/-- The five-tuples in the collection. -/
def storedTuples (w : BuiltinWorld T) : Set FiveTuple := labels Association.fiveTuple w.parties

/-- The first association that the request's filter matches, if it matches any,
has the five-tuple of the request. -/
def MatchesExactly (w : BuiltinWorld T) (fspId : String) (party : Party) : Prop :=
  ∀ d, w.parties.find? (party.filter fspId).satisfiedBy = some d →
    d.fiveTuple = party.fiveTuple fspId

/-- No stored association has a sub type. -/
def NoSubTypes (w : BuiltinWorld T) : Prop := ∀ d ∈ w.parties, d.partySubType.nonEmpty? = none

/-- No five-tuple is stored twice. -/
def TuplesNodup (w : BuiltinWorld T) : Prop := (w.parties.map Association.fiveTuple).Nodup

theorem fiveTuple_not_mem {w : BuiltinWorld T} {fspId : String} {party : Party}
    (hfind : w.parties.find? (party.filter fspId).satisfiedBy = none) :
    party.fiveTuple fspId ∉ storedTuples w := by
  rintro ⟨d, hd, htuple⟩
  exact List.find?_eq_none.mp hfind d hd (Party.satisfiedBy_of_fiveTuple_eq htuple)

theorem tuplesNodup_concat {parties : List Association} {fspId : String} {party : Party}
    (h : (parties.map Association.fiveTuple).Nodup)
    (hfind : parties.find? (party.filter fspId).satisfiedBy = none) :
    ((parties ++ [party.document fspId]).map Association.fiveTuple).Nodup := by
  rw [List.map_append, List.map_singleton, Party.fiveTuple_document]
  refine List.nodup_append.mpr ⟨h, List.nodup_singleton _, ?_⟩
  rintro tuple htuple _ hnew rfl
  obtain ⟨d, hd, hdtuple⟩ := List.mem_map.mp htuple
  refine List.find?_eq_none.mp hfind d hd (Party.satisfiedBy_of_fiveTuple_eq ?_)
  exact hdtuple.trans (List.mem_singleton.mp hnew)

theorem storedTuples_disassociate_of_none {w : BuiltinWorld T} (hok : w.NoFailure)
    {fspId : String} {party : Party}
    (hfind : w.parties.find? (party.filter fspId).satisfiedBy = none) :
    storedTuples (disassociate fspId party w).2 = storedTuples w := by
  rw [disassociate_eq hok]
  exact congrArg (labels _) (eraseP_eq_self_of_find?_eq_none hfind)

theorem storedTuples_disassociate_of_some {w : BuiltinWorld T} (hok : w.NoFailure)
    (hnodup : TuplesNodup w) {fspId : String} {party : Party} {d : Association}
    (hfind : w.parties.find? (party.filter fspId).satisfiedBy = some d) :
    storedTuples (disassociate fspId party w).2 = storedTuples w \ {d.fiveTuple} := by
  rw [disassociate_eq hok]
  exact labels_eraseP hnodup hfind

theorem uniqueOwner_concat_iff {parties : List Association} {fspId : String} {party : Party}
    (h : UniqueOwner parties) (hfind : parties.find? (party.filter fspId).satisfiedBy = none) :
    UniqueOwner (parties ++ [party.document fspId]) ↔
      ∀ d ∈ parties, d.quadruple ≠ party.quadruple := by
  have hnew : ∀ d ∈ parties, d.quadruple = party.quadruple → d.fspId ≠ .str fspId := by
    intro d hd hquadruple hfsp
    refine List.find?_eq_none.mp hfind d hd (Party.satisfiedBy_filter.mpr ⟨hfsp, ?_⟩)
    exact Party.describes_of_quadruple_eq hquadruple
  constructor
  · intro hunique d hd hquadruple
    refine hnew d hd hquadruple (hunique d (List.mem_append_left _ hd) (party.document fspId)
      (List.mem_append_right _ (by simp)) (hquadruple.trans Party.quadruple_document.symm))
  · intro hfresh d hd d' hd' hquadruple
    rcases List.mem_append.mp hd with hd | hd <;> rcases List.mem_append.mp hd' with hd' | hd'
    · exact h d hd d' hd' hquadruple
    · obtain rfl := List.mem_singleton.mp hd'
      exact absurd (hquadruple.trans Party.quadruple_document) (hfresh d hd)
    · obtain rfl := List.mem_singleton.mp hd
      exact absurd (hquadruple.symm.trans Party.quadruple_document) (hfresh d' hd')
    · rw [List.mem_singleton.mp hd, List.mem_singleton.mp hd']

/-- How the listing renders a stored association. -/
theorem fiveTuple_listed {d : Association} (hd : d.IsStored) :
    (listedAssociation d).fiveTuple =
      ⟨d.fspId, { d.quadruple with partySubType := none }⟩ := by
  obtain ⟨party, fspId, rfl⟩ := hd
  rw [listedAssociation, Association.fiveTuple, Association.quadruple, Association.quadruple,
    Party.document_currency]
  cases party.namedCurrency <;> rfl

/-- The listing is complete exactly when no sub type is stored. -/
theorem labels_listed_iff {parties : List Association} (hstored : ∀ d ∈ parties, d.IsStored) :
    labels Association.fiveTuple (parties.map listedAssociation) =
        labels Association.fiveTuple parties ↔
      ∀ d ∈ parties, d.partySubType.nonEmpty? = none := by
  constructor
  · intro h d hd
    have hmem : d.fiveTuple ∈ labels Association.fiveTuple (parties.map listedAssociation) := by
      rw [h]
      exact ⟨d, hd, rfl⟩
    obtain ⟨_, hlisted, htuple⟩ := hmem
    obtain ⟨d', hd', rfl⟩ := List.mem_map.mp hlisted
    rw [fiveTuple_listed (hstored d' hd')] at htuple
    exact (congrArg (fun tuple : FiveTuple => tuple.quadruple.partySubType) htuple).symm
  · intro h
    have hsame : ∀ d ∈ parties, (listedAssociation d).fiveTuple = d.fiveTuple := by
      intro d hd
      rw [fiveTuple_listed (hstored d hd), Association.fiveTuple, Association.quadruple, h d hd]
    ext tuple
    constructor
    · rintro ⟨_, hlisted, rfl⟩
      obtain ⟨d, hd, rfl⟩ := List.mem_map.mp hlisted
      exact ⟨d, hd, (hsame d hd).symm⟩
    · rintro ⟨d, hd, rfl⟩
      exact ⟨listedAssociation d, List.mem_map_of_mem hd, hsame d hd⟩

/-- The listing returns exactly the stored five-tuples. -/
def ListsSet (w : BuiltinWorld T) : Prop :=
  ∃ listed, (getAllAssociations w).1 = .ok listed ∧
    labels Association.fiveTuple listed = storedTuples w

theorem listsSet_iff {w : BuiltinWorld T} (hok : w.NoFailure) (hw : WellFormed w) :
    ListsSet w ↔ NoSubTypes w := by
  have hlisted : (getAllAssociations w).1 = .ok (w.parties.map listedAssociation) := by
    simp only [getAllAssociations, hok .find]
  rw [ListsSet, hlisted]
  refine Iff.trans ⟨?_, fun h => ⟨_, rfl, h⟩⟩ (labels_listed_iff hw.stored)
  rintro ⟨listed, hsame, h⟩
  obtain rfl := Except.ok.inj hsame
  exact h

/-- The database calls of an association succeed, and its filter finds nothing. -/
def Stores (w : BuiltinWorld T) (fspId : String) (party : Party) : Prop :=
  w.failure .findOne = none ∧ w.failure .insertOne = none ∧
    w.parties.find? (party.filter fspId).satisfiedBy = none

variable [Add T] {repo : MongoOracleProviderRepo T}

theorem parties_associate_of_stores {w : BuiltinWorld T} {fspId : String} {party : Party}
    (h : Stores w fspId party) :
    (repo.associate fspId party w).2.parties = w.parties ++ [party.document fspId] := by
  obtain ⟨hfindOne, hinsertOne, hfind⟩ := h
  simp only [associate, associateParticipant, hfindOne, hinsertOne,
    Party.buildLookupQuery_eq_filter, hfind, setToCache]
  cases w.failure .redisSetex with
  | none => rfl
  | some message => rfl

theorem parties_associate_of_not_stores {w : BuiltinWorld T} {fspId : String} {party : Party}
    (h : ¬ Stores w fspId party) : (repo.associate fspId party w).2.parties = w.parties := by
  simp only [associate, associateParticipant, Party.buildLookupQuery_eq_filter]
  cases hfindOne : w.failure .findOne with
  | some message => rfl
  | none =>
    cases hfind : w.parties.find? (party.filter fspId).satisfiedBy with
    | some d => rfl
    | none =>
      cases hinsertOne : w.failure .insertOne with
      | some message => rfl
      | none => exact absurd ⟨hfindOne, hinsertOne, hfind⟩ h

theorem storedTuples_associate {w : BuiltinWorld T} (hok : w.NoFailure) {fspId : String}
    {party : Party} (hfind : w.parties.find? (party.filter fspId).satisfiedBy = none) :
    storedTuples (repo.associate fspId party w).2 =
      insert (party.fiveTuple fspId) (storedTuples w) := by
  rw [storedTuples, parties_associate_of_stores ⟨hok _, hok _, hfind⟩, labels_concat,
    Party.fiveTuple_document, storedTuples]

variable (repo)

/-- The two requests act on the collection as on a set of five-tuples: an
association adds its own unless it is there, and a removal takes its own away. -/
structure RequestsActOnSet (w : BuiltinWorld T) (fspId : String) (party : Party) : Prop where
  succeeds : (repo.associate fspId party w).1 = .ok () ↔ party.fiveTuple fspId ∉ storedTuples w
  adds : (repo.associate fspId party w).1 = .ok () →
    storedTuples (repo.associate fspId party w).2 =
      insert (party.fiveTuple fspId) (storedTuples w)
  removes : storedTuples (disassociate fspId party w).2 =
    storedTuples w \ {party.fiveTuple fspId}

variable {repo}

theorem requestsActOnSet_iff {w : BuiltinWorld T} (hok : w.NoFailure) (hnodup : TuplesNodup w)
    (fspId : String) (party : Party) :
    repo.RequestsActOnSet w fspId party ↔ MatchesExactly w fspId party := by
  cases hfind : w.parties.find? (party.filter fspId).satisfiedBy with
  | none =>
    have hfresh := fiveTuple_not_mem hfind
    have hstored := associate_eq_of_none repo hok hfind
    have hremoved := storedTuples_disassociate_of_none hok hfind
    refine iff_of_true ⟨?_, fun _ => storedTuples_associate hok hfind, ?_⟩ ?_
    · exact iff_of_true (congrArg Prod.fst hstored) hfresh
    · exact hremoved.trans (Set.sdiff_singleton_eq_self hfresh).symm
    · intro d hd
      exact absurd (hfind.symm.trans hd) (by simp)
  | some d =>
    obtain ⟨error, hrejected⟩ := associate_eq_of_some repo hok hfind
    have hfails : (repo.associate fspId party w).1 ≠ .ok () := by
      rw [hrejected]
      exact fun h => (by cases h)
    have hmem : d.fiveTuple ∈ storedTuples w := ⟨d, List.mem_of_find?_eq_some hfind, rfl⟩
    have hremoved := storedTuples_disassociate_of_some hok hnodup hfind
    constructor
    · intro h d' hd'
      obtain rfl := Option.some.inj (hfind.symm.trans hd')
      -- otherwise the removed association would survive its own removal
      by_contra hne
      have hsurvives : d.fiveTuple ∈ storedTuples w \ {party.fiveTuple fspId} := ⟨hmem, hne⟩
      rw [← h.removes, hremoved] at hsurvives
      exact hsurvives.2 rfl
    · intro h
      have hsame := h d hfind
      refine ⟨iff_of_false hfails (not_not_intro (hsame ▸ hmem)), fun h => absurd h hfails, ?_⟩
      rw [hremoved, hsame]

variable [LinearOrder T]

/-- Only an association adds to the collection. -/
theorem Effect.parties_subset {w w' : BuiltinWorld T} {s : BuiltinStep T}
    (heffect : repo.Effect w s w') (hs : ∀ fspId party, s ≠ .associateParticipant fspId party) :
    ∀ d ∈ w'.parties, d ∈ w.parties := by
  intro d hd
  cases heffect with
  | stored fspId party | storedAndCached fspId party => exact absurd rfl (hs fspId party)
  | removed | removedAndUncached => exact List.mem_of_mem_eraseP hd
  | unchanged => exact hd
  | lookupCached => exact hd
  | expired => exact hd
  | waited => exact hd

theorem Effect.tuplesNodup {w w' : BuiltinWorld T} {s : BuiltinStep T}
    (heffect : repo.Effect w s w') (h : TuplesNodup w) : TuplesNodup w' := by
  cases heffect with
  | stored _ _ hfind | storedAndCached _ _ hfind => exact tuplesNodup_concat h hfind
  | removed | removedAndUncached => exact h.sublist (List.eraseP_sublist.map _)
  | unchanged => exact h
  | lookupCached => exact h
  | expired => exact h
  | waited => exact h

/-- A step that does not store a quadruple which is already associated. -/
def RespectsOwner (w : BuiltinWorld T) (s : FaultyStep T) : Prop :=
  ∀ fspId party, s.step = .associateParticipant fspId party →
    Stores { w with failure := s.failure } fspId party →
      ∀ d ∈ w.parties, d.quadruple ≠ party.quadruple

theorem uniqueOwner_faultyStep_iff {w : BuiltinWorld T} (h : UniqueOwner w.parties)
    (s : FaultyStep T) : UniqueOwner (repo.faultyStep w s).parties ↔ RespectsOwner w s := by
  by_cases hs : ∃ fspId party, s.step = .associateParticipant fspId party
  · obtain ⟨fspId, party, hs⟩ := hs
    have hrespects : RespectsOwner w s ↔ (Stores { w with failure := s.failure } fspId party →
        ∀ d ∈ w.parties, d.quadruple ≠ party.quadruple) := by
      refine ⟨fun h => h fspId party hs, fun h fspId' party' hs' => ?_⟩
      obtain ⟨rfl, rfl⟩ := BuiltinStep.associateParticipant.inj (hs.symm.trans hs')
      exact h
    rw [hrespects, faultyStep, hs, step]
    by_cases hstores : Stores { w with failure := s.failure } fspId party
    · rw [parties_associate_of_stores hstores, uniqueOwner_concat_iff h hstores.2.2]
      exact ⟨fun h _ => h, fun h => h hstores⟩
    · rw [parties_associate_of_not_stores hstores]
      exact ⟨fun _ h => absurd h hstores, fun _ => h⟩
  · have hne : ∀ fspId party, s.step ≠ .associateParticipant fspId party :=
      fun fspId party h => hs ⟨fspId, party, h⟩
    have hsubset := (repo.step_effect { w with failure := s.failure } s.step).parties_subset hne
    refine iff_of_true (fun d hd d' hd' => h d (hsubset d hd) d' (hsubset d' hd')) ?_
    exact fun fspId party h => absurd h (hne fspId party)

/-- **Owners are unique throughout a run exactly when every step respects them.** -/
theorem uniqueOwner_throughout_iff_respectsOwner (repo : MongoOracleProviderRepo T) (now : T)
    (steps : List (FaultyStep T)) :
    (∀ before, before <+: steps →
        UniqueOwner (run repo.faultyStep (BuiltinWorld.empty now) before).parties) ↔
      Along repo.faultyStep RespectsOwner (BuiltinWorld.empty now) steps := by
  have hempty : UniqueOwner (BuiltinWorld.empty now).parties := fun _ h => (by cases h)
  refine (forall_prefix_iff_along (fun w : BuiltinWorld T => UniqueOwner w.parties) _
    steps).trans ?_
  rw [and_iff_right hempty]
  refine along_iff_of_exact (fun w => UniqueOwner w.parties) ?_ ?_ steps _ hempty
  · intro w s h
    exact uniqueOwner_faultyStep_iff h s
  · intro w s h hrespects
    exact (uniqueOwner_faultyStep_iff h s).mpr hrespects

/-- A second participant takes over a party that is already associated. -/
theorem not_forall_uniqueOwner :
    ¬ ∀ (repo : MongoOracleProviderRepo ℕ) (now : ℕ) (steps : List (FaultyStep ℕ)),
      UniqueOwner (run repo.faultyStep (BuiltinWorld.empty now) steps).parties := by
  intro h
  have hunique := h sampleRepo 0
    [⟨fun _ => none,
        .associateParticipant "greenbank" ⟨"MSISDN", "27713803912", none, some "EUR"⟩⟩,
      ⟨fun _ => none,
        .associateParticipant "bluebank" ⟨"MSISDN", "27713803912", none, some "EUR"⟩⟩]
  exact absurd (hunique _ (List.mem_cons_self ..) _ (List.mem_cons_of_mem _ (List.mem_cons_self ..))
    (by decide)) (by decide)

/-! ## Set semantics -/

variable (repo)

/-- **The collection is a set of five-tuples exactly when matches are exact.** For a
request in a reachable world, the operations treat the collection as a set of
five-tuples exactly when the first match of the request is the request's own
five-tuple and no sub type is stored. -/
theorem actsOnSet_iff_matchesExactly (now : T) (steps : List (BuiltinStep T)) (fspId : String)
    (party : Party) :
    repo.RequestsActOnSet (run repo.step (BuiltinWorld.empty now) steps) fspId party ∧
        ListsSet (run repo.step (BuiltinWorld.empty now) steps) ↔
      MatchesExactly (run repo.step (BuiltinWorld.empty now) steps) fspId party ∧
        NoSubTypes (run repo.step (BuiltinWorld.empty now) steps) := by
  have hinv := run_invariant repo.step
    (fun w => WellFormed w ∧ w.NoFailure ∧ TuplesNodup w)
    (fun w s ⟨hw, hok, hnodup⟩ => ⟨repo.wellFormed_step w s hw, repo.noFailure_step w s hok,
      (repo.step_effect w s).tuplesNodup hnodup⟩)
    steps (BuiltinWorld.empty now) ⟨wellFormed_empty now, fun _ => rfl, List.nodup_nil⟩
  obtain ⟨hw, hok, hnodup⟩ := hinv
  exact and_congr (requestsActOnSet_iff hok hnodup fspId party) (listsSet_iff hok hw)

/-- An association without a currency is rejected while one with a currency is
stored. -/
theorem not_forall_actsOnSet :
    ¬ ∀ (repo : MongoOracleProviderRepo ℕ) (now : ℕ) (steps : List (BuiltinStep ℕ))
      (fspId : String) (party : Party),
      repo.RequestsActOnSet (run repo.step (BuiltinWorld.empty now) steps) fspId party ∧
        ListsSet (run repo.step (BuiltinWorld.empty now) steps) := by
  intro h
  obtain ⟨hacts, -⟩ := h sampleRepo 0
    [.associateParticipant "greenbank" ⟨"MSISDN", "27713803912", none, some "EUR"⟩]
    "greenbank" ⟨"MSISDN", "27713803912", none, none⟩
  refine absurd (hacts.succeeds.mpr ?_) (by decide)
  rintro ⟨d, hd, htuple⟩
  obtain rfl := List.mem_singleton.mp hd
  exact absurd htuple (by decide)

end MongoOracleProviderRepo

end AccountLookup

/-
# The built-in oracle keeps a directory

The collection stands for the directory of its owners if it holds exactly one document
for every owned party. That takes parties which cannot be mistaken for one another: none
that leaves open what another one names, and no two with one cache key. On such parties
the cache in front of the collection is never seen, entries may be lost and time may
pass, and the built-in adapter keeps the directory over every orderly run.
-/

import AccountLookup.Domain.Directory
import AccountLookup.Implementations.BuiltinCache

namespace AccountLookup

open Library Library.Transition

/-- No party of the kind is mistaken for another one by a query or by the cache. -/
structure Party.Separated (Kind : Party → Prop) : Prop where
  described : ∀ party other fspId, Kind party → Kind other →
    party.Describes (other.document fspId) → other = party
  key : ∀ party other, Kind party → Kind other → other.key = party.key → other = party

namespace MongoOracleProviderRepo

/-- The collection holds one document for every owned party, and no other. -/
structure CollectionOf (Kind : Party → Prop) (parties : List Association) (d : Directory) :
    Prop where
  nodup : parties.Nodup
  mem_iff : ∀ document, document ∈ parties ↔
    ∃ party fspId, d party = some fspId ∧ document = party.document fspId
  kind : ∀ party fspId, d party = some fspId → Kind party ∧ fspId ≠ ""

variable {Kind : Party → Prop} {parties : List Association} {d : Directory} {party : Party}
  {fspId : String}

theorem collectionOf_empty (Kind : Party → Prop) : CollectionOf Kind [] Directory.empty :=
  ⟨List.nodup_nil, fun _ => ⟨fun h => (by cases h), fun ⟨_, _, h, _⟩ => (by cases h)⟩,
    fun _ _ h => (by cases h)⟩

/-- A document of one party is a document of no other party. -/
theorem document_inj (hkind : Party.Separated Kind) {other : Party} {fspId' : String}
    (hparty : Kind party) (hother : Kind other)
    (h : party.document fspId = other.document fspId') : party = other ∧ fspId = fspId' := by
  have hdescribes : other.Describes (party.document fspId) := by
    rw [h]
    exact (Party.satisfiedBy_filter.mp Party.satisfiedBy_filter_document).2
  exact ⟨hkind.described other party fspId hother hparty hdescribes,
    JsString.str.inj (congrArg Association.fspId h)⟩

namespace CollectionOf

variable (hcollection : CollectionOf Kind parties d) (hkind : Party.Separated Kind)
  (hparty : Kind party)

include hcollection hkind hparty

/-- Whatever a query of the party matches is the document of its owner. -/
theorem eq_document_of_describes {document : Association} (hmem : document ∈ parties)
    (hdescribes : party.Describes document) :
    ∃ fspId, d party = some fspId ∧ document = party.document fspId := by
  obtain ⟨other, owner, howner, rfl⟩ := (hcollection.mem_iff document).mp hmem
  obtain rfl := hkind.described party other owner hparty (hcollection.kind other owner howner).1
    hdescribes
  exact ⟨owner, howner, rfl⟩

/-- A lookup finds the document of the owner. -/
theorem find?_query :
    parties.find? party.query.satisfiedBy = (d party).map party.document := by
  cases hfind : parties.find? party.query.satisfiedBy with
  | some document =>
    obtain ⟨owner, howner, rfl⟩ := hcollection.eq_document_of_describes hkind hparty
      (List.mem_of_find?_eq_some hfind) (Party.satisfiedBy_query.mp (List.find?_some hfind))
    rw [howner, Option.map_some]
  | none =>
    cases howner : d party with
    | none => rfl
    | some owner =>
      have hmem := (hcollection.mem_iff _).mpr ⟨party, owner, howner, rfl⟩
      refine absurd (Party.satisfiedBy_query.mpr ?_) (List.find?_eq_none.mp hfind _ hmem)
      exact (Party.satisfiedBy_filter.mp Party.satisfiedBy_filter_document).2

/-- The filter of a change finds the document of the owner, if that is the participant. -/
theorem find?_filter (fspId : String) :
    parties.find? (party.filter fspId).satisfiedBy =
      if d party = some fspId then some (party.document fspId) else none := by
  cases hfind : parties.find? (party.filter fspId).satisfiedBy with
  | some document =>
    obtain ⟨hfsp, hdescribes⟩ := Party.satisfiedBy_filter.mp (List.find?_some hfind)
    obtain ⟨owner, howner, rfl⟩ := hcollection.eq_document_of_describes hkind hparty
      (List.mem_of_find?_eq_some hfind) hdescribes
    obtain rfl : owner = fspId := JsString.str.inj hfsp
    rw [if_pos howner]
  | none =>
    rw [if_neg]
    intro howner
    have hmem := (hcollection.mem_iff _).mpr ⟨party, fspId, howner, rfl⟩
    exact List.find?_eq_none.mp hfind _ hmem Party.satisfiedBy_filter_document

/-- A new document is one of the new owner. -/
theorem insert (hfsp : fspId ≠ "") (hfree : d party = none) :
    CollectionOf Kind (parties ++ [party.document fspId])
      (Function.update d party (some fspId)) := by
  have hkept : ∀ other owner, d other = some owner →
      Function.update d party (some fspId) other = some owner := by
    intro other owner howner
    have hne : other ≠ party := by
      rintro rfl
      cases hfree.symm.trans howner
    rw [Function.update_of_ne hne, howner]
  refine ⟨?_, fun document => ⟨fun hmem => ?_, ?_⟩, fun other owner howner => ?_⟩
  · refine List.nodup_append.mpr ⟨hcollection.nodup, List.nodup_singleton _, ?_⟩
    rintro document hold new hnew rfl
    obtain ⟨other, owner, howner, heq⟩ := (hcollection.mem_iff document).mp hold
    rw [List.mem_singleton.mp hnew] at heq
    obtain ⟨rfl, -⟩ := document_inj hkind hparty (hcollection.kind other owner howner).1 heq
    cases hfree.symm.trans howner
  · rcases List.mem_append.mp hmem with hold | hnew
    · obtain ⟨other, owner, howner, rfl⟩ := (hcollection.mem_iff document).mp hold
      exact ⟨other, owner, hkept other owner howner, rfl⟩
    · exact ⟨party, fspId, Function.update_self .., List.mem_singleton.mp hnew⟩
  · rintro ⟨other, owner, howner, rfl⟩
    by_cases hother : other = party
    · subst hother
      rw [Function.update_self] at howner
      obtain rfl := Option.some.inj howner
      exact List.mem_append_right _ (List.mem_singleton_self _)
    · rw [Function.update_of_ne hother] at howner
      exact List.mem_append_left _ ((hcollection.mem_iff _).mpr ⟨other, owner, howner, rfl⟩)
  · by_cases hother : other = party
    · subst hother
      rw [Function.update_self] at howner
      exact ⟨hparty, Option.some.inj howner ▸ hfsp⟩
    · rw [Function.update_of_ne hother] at howner
      exact hcollection.kind other owner howner

/-- Without the document of its owner a party is free. -/
theorem erase (howned : d party = some fspId) :
    CollectionOf Kind (parties.eraseP (party.filter fspId).satisfiedBy)
      (Function.update d party none) := by
  have hfind := hcollection.find?_filter hkind hparty fspId
  rw [if_pos howned] at hfind
  obtain ⟨before, after, rfl, -, -, herase⟩ := FirstMatch.exists_split_of_find?_eq_some hfind
  have hnodup := hcollection.nodup
  rw [List.nodup_middle, List.nodup_cons] at hnodup
  have hmem : ∀ document, document ∈ before ++ after ↔
      document ∈ before ++ party.document fspId :: after ∧
        document ≠ party.document fspId := by
    intro document
    simp only [List.mem_append, List.mem_cons]
    constructor
    · intro hdocument
      refine ⟨hdocument.imp_right Or.inr, ?_⟩
      rintro rfl
      exact hnodup.1 (List.mem_append.mpr hdocument)
    · rintro ⟨hbefore | rfl | hafter, hne⟩
      · exact Or.inl hbefore
      · exact absurd rfl hne
      · exact Or.inr hafter
  rw [herase]
  refine ⟨hnodup.2, fun document => ?_, fun other owner howner => ?_⟩
  · rw [hmem, hcollection.mem_iff]
    constructor
    · rintro ⟨⟨other, owner, howner, rfl⟩, hne⟩
      refine ⟨other, owner, ?_, rfl⟩
      rw [Function.update_of_ne, howner]
      rintro rfl
      exact hne (by rw [Option.some.inj (howned.symm.trans howner)])
    · rintro ⟨other, owner, howner, rfl⟩
      have hother : other ≠ party := by
        rintro rfl
        rw [Function.update_self] at howner
        cases howner
      rw [Function.update_of_ne hother] at howner
      refine ⟨⟨other, owner, howner, rfl⟩, fun heq => hother ?_⟩
      exact (document_inj hkind (hcollection.kind other owner howner).1 hparty heq).1
  · have hother : other ≠ party := by
      rintro rfl
      rw [Function.update_self] at howner
      cases howner
    rw [Function.update_of_ne hother] at howner
    exact hcollection.kind other owner howner

end CollectionOf

section World

variable {T : Type} [LinearOrder T]

/-- The collection is the one of the directory, and no entry still served contradicts it. -/
structure RepresentsDirectory (Kind : Party → Prop) (w : BuiltinWorld T) (d : Directory) :
    Prop where
  noFailure : w.NoFailure
  collection : CollectionOf Kind w.parties d
  coherent : TtlCache.Coherent (fun party : { party // Kind party } => party.1.key)
    (fun party => JsString.ofOption (d party.1)) Association.fspId w.cache w.now

/-- The cache loses an entry, or time passes. -/
inductive CacheChange : (BuiltinWorld T → BuiltinWorld T) → Prop
  | expire (key : String) : CacheChange fun w => { w with cache := w.cache.del key }
  | wait (instant : T) : CacheChange fun w => { w with now := max w.now instant }

theorem representsDirectory_empty (Kind : Party → Prop) (now : T) :
    RepresentsDirectory Kind (BuiltinWorld.empty now) Directory.empty :=
  ⟨fun _ => rfl, collectionOf_empty Kind, TtlCache.coherent_empty now⟩

/-- A change of the cache is not seen. -/
theorem RepresentsDirectory.changed {w : BuiltinWorld T} (h : RepresentsDirectory Kind w d)
    {change : BuiltinWorld T → BuiltinWorld T} (hchange : CacheChange change) :
    RepresentsDirectory Kind (change w) d := by
  cases hchange with
  | expire key => exact ⟨h.noFailure, h.collection, h.coherent.del key⟩
  | wait instant => exact ⟨h.noFailure, h.collection, h.coherent.later (le_max_left _ _)⟩

variable [Add T] {repo : MongoOracleProviderRepo T} {w : BuiltinWorld T}
  (h : RepresentsDirectory Kind w d) (hkind : Party.Separated Kind) (hparty : Kind party)

include h hkind hparty

/-- A lookup answers with the owner, from the cache or from the collection. -/
theorem RepresentsDirectory.lookup_fst :
    (repo.lookup party w).1 = .ok (.ofOption (d party)) := by
  have hanswer : party.answer w.parties = .ofOption (d party) := by
    rw [Party.answer, h.collection.find?_query hkind hparty]
    cases d party with
    | none => rfl
    | some fspId => rfl
  rw [MongoOracleProviderRepo.lookup_fst h.noFailure, TtlCache.readThrough, hanswer]
  cases hget : w.cache.get w.now party.key with
  | none => rfl
  | some record => exact congrArg Except.ok (h.coherent ⟨party, hparty⟩ record hget).symm

/-- Looking a party up leaves the directory as it is. -/
theorem RepresentsDirectory.lookup_snd [CanonicallyOrderedAdd T] :
    RepresentsDirectory Kind (repo.lookup party w).2 d := by
  rw [lookup_eq h.noFailure]
  cases w.cache.get w.now party.key with
  | some record => exact h
  | none =>
    rw [h.collection.find?_query hkind hparty]
    cases howner : d party with
    | none => exact h
    | some fspId =>
      refine ⟨h.noFailure, h.collection, (TtlCache.coherent_setex_iff le_self_add).mpr ⟨?_, ?_⟩⟩
      · intro other hkey
        rw [hkind.key party other.1 hparty other.2 hkey, howner]
        rfl
      · exact fun other record _ hget => h.coherent other record hget

/-- A free party is taken. -/
theorem RepresentsDirectory.associate [CanonicallyOrderedAdd T] (hfsp : fspId ≠ "")
    (hfree : d party = none) :
    repo.associate fspId party w = (.ok (), repo.afterAssociate fspId party w) ∧
      RepresentsDirectory Kind (repo.afterAssociate fspId party w)
        (Function.update d party (some fspId)) := by
  have hfind := h.collection.find?_filter hkind hparty fspId
  rw [hfree, if_neg (by simp)] at hfind
  refine ⟨associate_eq_of_none repo h.noFailure hfind, h.noFailure,
    h.collection.insert hkind hparty hfsp hfree,
    (TtlCache.coherent_setex_iff le_self_add).mpr ⟨?_, ?_⟩⟩
  · intro other hkey
    rw [hkind.key party other.1 hparty other.2 hkey, Function.update_self]
    rfl
  · intro other record hkey hget
    have hother : other.1 ≠ party := fun heq => hkey (heq ▸ rfl)
    rw [Function.update_of_ne hother]
    exact h.coherent other record hget

omit [Add T] in
/-- An owner gives up its party; for anyone else nothing happens. -/
theorem RepresentsDirectory.disassociate (fspId : String) :
    RepresentsDirectory Kind (disassociate fspId party w).2
      (d.after (.disassociateParticipant fspId party)) := by
  rw [disassociate_eq h.noFailure, Directory.after]
  split
  · next howned =>
    refine ⟨h.noFailure, h.collection.erase hkind hparty howned,
      TtlCache.coherent_del_iff.mpr ?_⟩
    intro other record hkey hget
    have hother : other.1 ≠ party := fun heq => hkey (heq ▸ rfl)
    rw [Function.update_of_ne hother]
    exact h.coherent other record hget
  · next howned =>
    have hfind := h.collection.find?_filter hkind hparty fspId
    rw [if_neg howned] at hfind
    refine ⟨h.noFailure, ?_, TtlCache.Coherent.del h.coherent party.key⟩
    change CollectionOf Kind (w.parties.eraseP _) d
    rw [FirstMatch.eraseP_eq_self_of_find?_eq_none hfind]
    exact h.collection

end World

section Adapter

variable {T : Type} [LinearOrder T] [Add T] [CanonicallyOrderedAdd T]
  {repo : MongoOracleProviderRepo T} {w : BuiltinWorld T} {call : PartyCall}

theorem agrees_on_adapter (hkind : Party.Separated Kind) (h : RepresentsDirectory Kind w d)
    (hparty : Kind call.party) (hnames : call.NamesParticipant) (horderly : d.Orderly call) :
    d.Agrees call (call.on repo.adapter w).1 := by
  cases call with
  | associateParticipant fspId party =>
    replace hparty : Kind party := hparty
    change (repo.associate fspId party w).1.map (fun _ => JsString.null) = .ok .null ↔
      d party = none
    rcases horderly with hfree | howned
    · rw [(h.associate hkind hparty hnames hfree).1]
      exact iff_of_true rfl hfree
    · have hfind := h.collection.find?_filter hkind hparty fspId
      rw [if_pos howned] at hfind
      obtain ⟨error, herror⟩ := associate_eq_of_some repo h.noFailure hfind
      rw [herror]
      exact iff_of_false (fun herr => (by cases herr)) fun hnone => (by
        cases howned.symm.trans hnone)
  | disassociateParticipant fspId party =>
    change d party = some fspId →
      (disassociate fspId party w).1.map (fun _ => JsString.null) = .ok .null
    rw [disassociate_eq h.noFailure]
    exact fun _ => rfl
  | getParticipantFspId party =>
    replace hparty : Kind party := hparty
    change ownerNamed (repo.lookup party w).1 = d party
    rw [h.lookup_fst hkind hparty]
    exact ownerNamed_ofOption fun hempty => (h.collection.kind party "" hempty).2 rfl

theorem representsDirectory_on_adapter (hkind : Party.Separated Kind)
    (h : RepresentsDirectory Kind w d) (hparty : Kind call.party)
    (hnames : call.NamesParticipant) (horderly : d.Orderly call) :
    RepresentsDirectory Kind (call.on repo.adapter w).2 (d.after call) := by
  cases call with
  | associateParticipant fspId party =>
    replace hparty : Kind party := hparty
    change RepresentsDirectory Kind (repo.associate fspId party w).2 _
    rw [Directory.after]
    rcases horderly with hfree | howned
    · rw [if_pos hfree, (h.associate hkind hparty hnames hfree).1]
      exact (h.associate hkind hparty hnames hfree).2
    · have hfind := h.collection.find?_filter hkind hparty fspId
      rw [if_pos howned] at hfind
      obtain ⟨error, herror⟩ := associate_eq_of_some repo h.noFailure hfind
      rw [if_neg (by rw [howned]; exact Option.some_ne_none fspId), herror]
      exact h
  | disassociateParticipant fspId party => exact h.disassociate hkind hparty fspId
  | getParticipantFspId party => exact h.lookup_snd hkind hparty

/-- **The built-in adapter keeps a directory** of parties that are not mistaken for one
another. -/
theorem keepsDirectory_adapter (repo : MongoOracleProviderRepo T)
    (hkind : Party.Separated Kind) :
    KeepsDirectory repo.adapter Kind CacheChange (RepresentsDirectory Kind) := by
  constructor
  · intro w d input h hallowed
    cases input with
    | call request => exact agrees_on_adapter hkind h hallowed.1 hallowed.2.1 hallowed.2.2
    | background change => trivial
  · intro w d input h hallowed
    cases input with
    | call request =>
      exact representsDirectory_on_adapter hkind h hallowed.1 hallowed.2.1 hallowed.2.2
    | background change => exact h.changed hallowed

end Adapter

/-! ## Ordinary parties -/

theorem separated_isOrdinary : Party.Separated Party.IsOrdinary := by
  constructor
  · intro party other fspId hparty hother hdescribes
    obtain ⟨htype, hid, -, hcurrency⟩ := hdescribes
    obtain ⟨currency, hsome, hword⟩ := hparty.currency
    obtain ⟨currency', hsome', hword'⟩ := hother.currency
    have hnamed : ∀ {p : Party} {text : String}, p.currency = some text → IsWord text →
        p.namedCurrency = some text := by
      intro p text htext hword
      rw [Party.namedCurrency, htext]
      exact JsString.nonEmpty?_eq_some_iff.mpr ⟨rfl, hword.1⟩
    have hsame := hcurrency currency (hnamed hsome hword)
    rw [Party.document_currency, hnamed hsome' hword', Option.elim_some] at hsame
    cases party
    cases other
    simp only [Party.mk.injEq]
    exact ⟨JsString.str.inj htype, JsString.str.inj hid,
      hother.partySubType.trans hparty.partySubType.symm,
      hsome'.trans ((congrArg some (JsString.str.inj hsame)).trans hsome.symm)⟩
  · intro party other hparty hother hkey
    obtain ⟨currency, hsome, hword⟩ := hparty.currency
    obtain ⟨currency', hsome', hword'⟩ := hother.currency
    have hplain : ∀ piece ∈ party.keyPieces, '_' ∉ piece := by
      simp only [Party.keyPieces, hparty.partySubType, hsome, JsString.ofOption, JsString.toText,
        List.forall_mem_cons, List.not_mem_nil, false_implies, implies_true, and_true]
      exact ⟨by decide, hparty.partyType.not_mem rfl, hparty.partyId.not_mem rfl, by decide,
        hword.not_mem rfl⟩
    have hsame := Party.keyPieces_eq hplain hkey
    simp only [Party.keyPieces, hparty.partySubType, hother.partySubType, hsome, hsome',
      JsString.ofOption, JsString.toText, List.cons.injEq, String.toList_inj, true_and,
      and_true] at hsame
    cases party
    cases other
    simp only [Party.mk.injEq]
    exact ⟨hsame.1, hsame.2.1, hother.partySubType.trans hparty.partySubType.symm,
      hsome'.trans ((congrArg some hsame.2.2).trans hsome.symm)⟩

/-- A participant takes a phone number and is refused a second time; after the cache has lost
the entry and time has passed, it gives the number up. -/
def samplePartyInputs : List (OracleInput (BuiltinWorld ℕ)) :=
  [.call (.associateParticipant "greenbank" samplePhoneNumber),
    .call (.getParticipantFspId samplePhoneNumber),
    .call (.associateParticipant "greenbank" samplePhoneNumber),
    .background fun w => { w with cache := w.cache.del samplePhoneNumber.key },
    .background fun w => { w with now := max w.now 20 },
    .call (.disassociateParticipant "greenbank" samplePhoneNumber)]

end MongoOracleProviderRepo

end AccountLookup

/-
# Calls that keep apart

Calls on the built-in oracle that overlap can go wrong: two associations of one party are
both accepted, and a lookup puts back what a disassociation takes out. They are kept apart
when associations of a party do not overlap with other changes of it, nor disassociations
with any other call on it. Then each turn of each call does what a directory prescribes that
changes at the moments at which calls take effect: the collection stays the one of the
directory, the cache serves owners only, and every call under way fits the directory, whatever
else is under way on other parties.
-/

import AccountLookup.Domain.Deliveries
import AccountLookup.Implementations.BuiltinDirectory
import AccountLookup.Implementations.GroundedAnswers

namespace AccountLookup

open Library Library.Transition MongoOracleProviderRepo

variable {T : Type}

namespace BuiltinTask

/-- The call, as long as it has not taken effect. -/
def pending : BuiltinTask T → Option PartyCall
  | .findAssociation _ fspId party | .insertAssociation _ fspId party =>
    some (.associateParticipant fspId party)
  | .deleteAssociation fspId party => some (.disassociateParticipant fspId party)
  | .readCache _ party | .findParticipant _ party => some (.getParticipantFspId party)
  | .cacheAssociation _ _ _ | .uncacheAssociation _ _ | .cacheParticipant _ _ _
  | .returned _ => none

/-- The call under way is about the party. -/
def Concerns (party : Party) : BuiltinTask T → Prop
  | .findAssociation _ _ other | .insertAssociation _ _ other | .cacheAssociation _ _ other
  | .deleteAssociation _ other | .uncacheAssociation _ other
  | .readCache _ other | .findParticipant _ other | .cacheParticipant _ other _ => other = party
  | .returned _ => False

/-- The call under way changes who owns the party. -/
def Alters (party : Party) : BuiltinTask T → Prop
  | .findAssociation _ _ other | .insertAssociation _ _ other | .cacheAssociation _ _ other
  | .deleteAssociation _ other | .uncacheAssociation _ other => other = party
  | _ => False

/-- The call under way gives the party up. -/
def GivesUp (party : Party) : BuiltinTask T → Prop
  | .deleteAssociation _ other | .uncacheAssociation _ other => other = party
  | _ => False

/-- Two calls under way do not get into each other's way. -/
structure Apart (task other : BuiltinTask T) : Prop where
  alters : ∀ party, task.Alters party → ¬ other.Alters party
  givesUp : ∀ party, task.GivesUp party → ¬ other.Concerns party
  concerns : ∀ party, task.Concerns party → ¬ other.GivesUp party

/-- The call may begin next to those under way: no participant asks for a party of another
one, and the call keeps apart from the others. -/
def MayBegin (pool : Pool (BuiltinTask T) (BuiltinWorld T)) : PartyCall → Prop
  | .associateParticipant fspId party =>
    (∀ task ∈ pool.tasks, ¬ task.Alters party) ∧
      ∀ d ∈ pool.world.parties, party.Describes d → d.fspId = .str fspId
  | .disassociateParticipant _ party => ∀ task ∈ pool.tasks, ¬ task.Concerns party
  | .getParticipantFspId party => ∀ task ∈ pool.tasks, ¬ task.GivesUp party

/-- A call on a party of the kind begins when it may, and no database or cache call fails. -/
def KeepsApart (Kind : Party → Prop) (pool : Pool (BuiltinTask T) (BuiltinWorld T)) :
    SharedInput T → Prop
  | .call _ request => Kind request.party ∧ request.NamesParticipant ∧ MayBegin pool request
  | .turn t => ∀ call, t.failure call = none
  | .expire _ | .wait _ => True

theorem Apart.symm {task other : BuiltinTask T} (h : Apart task other) : Apart other task :=
  ⟨fun party hother htask => h.alters party htask hother,
    fun party hother htask => h.concerns party htask hother,
    fun party hother htask => h.givesUp party htask hother⟩

theorem GivesUp.alters {party : Party} {task : BuiltinTask T} (h : task.GivesUp party) :
    task.Alters party := by
  cases task <;> first | exact h | exact False.elim h

theorem Alters.concerns {party : Party} {task : BuiltinTask T} (h : task.Alters party) :
    task.Concerns party := by
  cases task <;> first | exact h | exact False.elim h

/-- The call under way is one that the directory allows where it is. -/
def Fits (Kind : Party → Prop) (d : Directory) : BuiltinTask T → Prop
  | .findAssociation _ fspId party =>
    Kind party ∧ fspId ≠ "" ∧ (d party = none ∨ d party = some fspId)
  | .insertAssociation _ fspId party => Kind party ∧ fspId ≠ "" ∧ d party = none
  | .cacheAssociation _ fspId party => Kind party ∧ d party = some fspId
  | .deleteAssociation _ party | .uncacheAssociation _ party
  | .readCache _ party | .findParticipant _ party => Kind party
  | .cacheParticipant _ party data =>
    Kind party ∧ ∃ fspId, d party = some fspId ∧ data.fspId = .str fspId
  | .returned _ => True

/-- The call took effect on the directory, and its outcome will be the one it prescribes. -/
def Promises (d : Directory) (request : PartyCall) : BuiltinTask T → Prop
  | .cacheAssociation _ _ _ | .uncacheAssociation _ _ => d.Agrees request (.ok .null)
  | .cacheParticipant _ _ data => d.Agrees request (.ok data.fspId)
  | .returned outcome => d.Agrees request outcome
  | _ => False

/-- The call that takes effect when it moves on. -/
def effect (task task' : BuiltinTask T) : Option PartyCall :=
  match task.pending, task'.pending with
  | some request, none => some request
  | _, _ => none

/-- The directory when a call has moved on. -/
def next (d : Directory) (task task' : BuiltinTask T) : Directory :=
  run Directory.after d (effect task task').toList

/-- The call under way is about to take the party out of the cache. -/
def Uncaches (party : Party) : BuiltinTask T → Prop
  | .uncacheAssociation _ other => other = party
  | _ => False

/-- What the cache serves of the party is its owner. -/
def Serves [LinearOrder T] (d : Directory) (w : BuiltinWorld T) (party : Party) : Prop :=
  ∀ record, w.cache.get w.now party.key = some record →
    ∃ fspId, d party = some fspId ∧ record.fspId = .str fspId

section Directory

variable {Kind : Party → Prop} {d : Directory} {task other : BuiltinTask T} {party : Party}
  {request : PartyCall}

theorem pending_of_effect (h : effect task task' = some request) :
    task.pending = some request := by
  rw [effect] at h
  split at h
  · next hpending hdone => exact hpending.trans h
  · cases h

/-- A call that has not taken effect alters its party, or looks it up. -/
theorem alters_or_looksUp (h : task.pending = some request) :
    task.Alters request.party ∨ request = .getParticipantFspId request.party := by
  cases task with
  | findAssociation | insertAssociation | deleteAssociation =>
    obtain rfl := Option.some.inj h
    exact Or.inl rfl
  | readCache | findParticipant =>
    obtain rfl := Option.some.inj h
    exact Or.inr rfl
  | cacheAssociation | uncacheAssociation | cacheParticipant | returned => cases h

theorem givesUp_of_pending {fspId : String}
    (h : task.pending = some (.disassociateParticipant fspId party)) : task.GivesUp party := by
  cases task with
  | deleteAssociation => cases h; rfl
  | findAssociation | insertAssociation | readCache | findParticipant => cases h
  | cacheAssociation | uncacheAssociation | cacheParticipant | returned => cases h

/-- What a call does not alter stays. -/
theorem next_of_not_alters (d : Directory) (task' : BuiltinTask T) (h : ¬ task.Alters party) :
    next d task task' party = d party := by
  rw [next]
  cases heffect : effect task task' with
  | none => rfl
  | some request =>
    show d.after request party = d party
    rcases alters_or_looksUp (pending_of_effect heffect) with halters | hlookup
    · have hparty : request.party ≠ party := fun heq => h (heq ▸ halters)
      rw [Directory.after_apply, if_neg hparty]
    · rw [hlookup]
      rfl

/-- An owner stays the owner unless the party is given up. -/
theorem next_of_owned (task' : BuiltinTask T) (h : ¬ task.GivesUp party) {fspId : String}
    (howned : d party = some fspId) : next d task task' party = some fspId := by
  rw [next]
  cases heffect : effect task task' with
  | none => exact howned
  | some request =>
    show d.after request party = some fspId
    rw [Directory.after_apply, howned]
    split
    · next hparty =>
      cases request with
      | associateParticipant fspId' party' => rfl
      | disassociateParticipant fspId' party' =>
        obtain rfl : party' = party := hparty
        exact absurd (givesUp_of_pending (pending_of_effect heffect)) h
      | getParticipantFspId party' => rfl
    · rfl

/-- The other calls fit the directory as they did before. -/
theorem Fits.next (hother : other.Fits Kind d) (hapart : Apart task other)
    (task' : BuiltinTask T) : other.Fits Kind (next d task task') := by
  have hkept : ∀ party, other.Alters party → BuiltinTask.next d task task' party = d party :=
    fun party halters => next_of_not_alters d task' fun htask => hapart.alters party htask halters
  cases other with
  | findAssociation repo fspId party =>
    obtain ⟨hparty, hfspId, hfree⟩ := hother
    exact ⟨hparty, hfspId, by rwa [hkept party rfl]⟩
  | insertAssociation repo fspId party =>
    obtain ⟨hparty, hfspId, hfree⟩ := hother
    exact ⟨hparty, hfspId, by rwa [hkept party rfl]⟩
  | cacheAssociation repo fspId party =>
    obtain ⟨hparty, howned⟩ := hother
    exact ⟨hparty, by rwa [hkept party rfl]⟩
  | cacheParticipant repo party data =>
    obtain ⟨hparty, fspId, howned, hfspId⟩ := hother
    have hgivesUp : ¬ task.GivesUp party := fun htask => hapart.givesUp party htask rfl
    exact ⟨hparty, fspId, next_of_owned task' hgivesUp howned, hfspId⟩
  | deleteAssociation fspId party => exact hother
  | uncacheAssociation fspId party => exact hother
  | readCache repo party => exact hother
  | findParticipant repo party => exact hother
  | returned outcome => trivial

end Directory

section Calls

variable {Kind : Party → Prop} {d : Directory} {pool : Pool (BuiltinTask T) (BuiltinWorld T)}
  {task task' : BuiltinTask T} {party : Party} {before after : List (BuiltinTask T)}

theorem Fits.kind (h : task.Fits Kind d) (hconcerns : task.Concerns party) : Kind party := by
  cases task <;> first | exact hconcerns ▸ h.1 | exact hconcerns ▸ h | exact False.elim hconcerns

theorem Uncaches.givesUp (h : task.Uncaches party) : task.GivesUp party := by
  cases task <;> first | exact h | exact False.elim h

/-- A call that may begin keeps apart from those under way. -/
theorem MayBegin.apart {request : PartyCall} (h : MayBegin pool request)
    (repo : MongoOracleProviderRepo T) (hmem : task ∈ pool.tasks) :
    Apart task (begun repo request) := by
  cases request with
  | associateParticipant fspId party =>
    have hnot := h.1 task hmem
    exact ⟨fun other halters heq => hnot (heq ▸ halters),
      fun other hgivesUp heq => hnot (heq ▸ hgivesUp.alters), fun other hconcerns => id⟩
  | disassociateParticipant fspId party =>
    have hnot := h task hmem
    exact ⟨fun other halters heq => hnot (heq ▸ halters.concerns),
      fun other hgivesUp heq => hnot (heq ▸ hgivesUp.alters.concerns),
      fun other hconcerns heq => hnot (heq ▸ hconcerns)⟩
  | getParticipantFspId party =>
    have hnot := h task hmem
    exact ⟨fun other halters => id, fun other hgivesUp heq => hnot (heq ▸ hgivesUp),
      fun other hconcerns => id⟩

/-- A call that may begin fits the directory of the collection. -/
theorem MayBegin.fits {request : PartyCall} (h : MayBegin pool request)
    (hcollection : CollectionOf Kind pool.world.parties d) (hparty : Kind request.party)
    (hnames : request.NamesParticipant) (repo : MongoOracleProviderRepo T) :
    (begun repo request).Fits Kind d := by
  cases request with
  | associateParticipant fspId party =>
    refine ⟨hparty, hnames, ?_⟩
    cases howner : d party with
    | none => exact Or.inl rfl
    | some owner =>
      have hmem := (hcollection.mem_iff _).mpr ⟨party, owner, howner, rfl⟩
      have hdescribes : party.Describes (party.document owner) :=
        (Party.satisfiedBy_filter.mp Party.satisfiedBy_filter_document).2
      rw [JsString.str.inj (h.2 _ hmem hdescribes)]
      exact Or.inr rfl
  | disassociateParticipant fspId party => exact hparty
  | getParticipantFspId party => exact hparty

theorem mem_replaced {other : BuiltinTask T} (h : other ∈ before ++ task' :: after) :
    other = task' ∨ other ∈ before ++ after := by
  rw [List.mem_append, List.mem_cons] at h
  rw [List.mem_append]
  tauto

end Calls

/-! ## Turns -/

section Turn

variable [Add T]

/-- What a turn does, with nothing failing, when the collection is the one of the directory. -/
inductive Proceeds (d : Directory) (w : BuiltinWorld T) :
    BuiltinTask T → BuiltinTask T → BuiltinWorld T → Prop
  | taken (repo : MongoOracleProviderRepo T) (fspId : String) (party : Party) (error : JsError)
    (howned : d party = some fspId) :
    Proceeds d w (.findAssociation repo fspId party) (.returned (.error error)) w
  | free (repo : MongoOracleProviderRepo T) (fspId : String) (party : Party)
    (hfree : d party = none) :
    Proceeds d w (.findAssociation repo fspId party) (.insertAssociation repo fspId party) w
  | inserted (repo : MongoOracleProviderRepo T) (fspId : String) (party : Party) :
    Proceeds d w (.insertAssociation repo fspId party) (.cacheAssociation repo fspId party)
      { w with parties := w.parties ++ [party.document fspId] }
  | associated (repo : MongoOracleProviderRepo T) (fspId : String) (party : Party) :
    Proceeds d w (.cacheAssociation repo fspId party) (.returned (.ok .null))
      { w with
        cache := w.cache.setex party.key (party.record (.str fspId))
          (w.now + repo.redisCacheDurationSecs) }
  | deleted (fspId : String) (party : Party) :
    Proceeds d w (.deleteAssociation fspId party) (.uncacheAssociation fspId party)
      { w with parties := w.parties.eraseP (party.filter fspId).satisfiedBy }
  | disassociated (fspId : String) (party : Party) :
    Proceeds d w (.uncacheAssociation fspId party) (.returned (.ok .null))
      { w with cache := w.cache.del party.key }
  | hit (repo : MongoOracleProviderRepo T) (party : Party) (fspId : String)
    (howned : d party = some fspId) :
    Proceeds d w (.readCache repo party) (.returned (.ok (.str fspId))) w
  | missed (repo : MongoOracleProviderRepo T) (party : Party) :
    Proceeds d w (.readCache repo party) (.findParticipant repo party) w
  | nobody (repo : MongoOracleProviderRepo T) (party : Party) (hfree : d party = none) :
    Proceeds d w (.findParticipant repo party) (.returned (.ok .null)) w
  | found (repo : MongoOracleProviderRepo T) (party : Party) (fspId : String)
    (howned : d party = some fspId) :
    Proceeds d w (.findParticipant repo party)
      (.cacheParticipant repo party (party.document fspId)) w
  | cached (repo : MongoOracleProviderRepo T) (party : Party) (data : Association) :
    Proceeds d w (.cacheParticipant repo party data) (.returned (.ok data.fspId))
      { w with
        cache := w.cache.setex party.key (party.record data.fspId)
          (w.now + repo.redisCacheDurationSecs) }
  | returned (outcome : Except JsError JsString) :
    Proceeds d w (.returned outcome) (.returned outcome) w

variable {Kind : Party → Prop} {d : Directory} {w w' : BuiltinWorld T}
  {task task' other : BuiltinTask T} {party : Party} {request : PartyCall}

theorem Proceeds.concerns (h : Proceeds d w task task' w') (hconcerns : task'.Concerns party) :
    task.Concerns party := by
  cases h <;> first | exact hconcerns | exact False.elim hconcerns

theorem Proceeds.alters (h : Proceeds d w task task' w') (halters : task'.Alters party) :
    task.Alters party := by
  cases h <;> first | exact halters | exact False.elim halters

theorem Proceeds.givesUp (h : Proceeds d w task task' w') (hgivesUp : task'.GivesUp party) :
    task.GivesUp party := by
  cases h <;> first | exact hgivesUp | exact False.elim hgivesUp

/-- A call keeps apart from another one as it moves on. -/
theorem Proceeds.apart (h : Proceeds d w task task' w') (hapart : Apart task other) :
    Apart task' other :=
  ⟨fun party htask => hapart.alters party (h.alters htask),
    fun party htask => hapart.givesUp party (h.givesUp htask),
    fun party htask => hapart.concerns party (h.concerns htask)⟩

/-- A call that takes effect has the outcome that the directory prescribes. -/
theorem Proceeds.promises (h : Proceeds d w task task' w') (hfits : task.Fits Kind d)
    (hnamed : ∀ party, d party ≠ some "") (heffect : effect task task' = some request) :
    Promises d request task' := by
  cases h with
  | taken repo fspId party error howned =>
    obtain rfl := Option.some.inj heffect
    refine iff_of_false (fun hok => (by cases hok)) fun hfree => ?_
    cases howned.symm.trans hfree
  | free repo fspId party hfree => cases heffect
  | inserted repo fspId party =>
    obtain rfl := Option.some.inj heffect
    exact iff_of_true rfl hfits.2.2
  | associated repo fspId party => cases heffect
  | deleted fspId party =>
    obtain rfl := Option.some.inj heffect
    exact fun _ => rfl
  | disassociated fspId party => cases heffect
  | hit repo party fspId howned =>
    obtain rfl := Option.some.inj heffect
    show ownerNamed (.ok (.ofOption (some fspId))) = d party
    rw [← howned]
    exact ownerNamed_ofOption (hnamed party)
  | missed repo party => cases heffect
  | nobody repo party hfree =>
    obtain rfl := Option.some.inj heffect
    exact hfree.symm
  | found repo party fspId howned =>
    obtain rfl := Option.some.inj heffect
    show ownerNamed (.ok (.ofOption (some fspId))) = d party
    rw [← howned]
    exact ownerNamed_ofOption (hnamed party)
  | cached repo party data => cases heffect
  | returned outcome => cases heffect

/-- A call keeps its promise. -/
theorem Promises.proceeds {d₀ : Directory} (h : Promises d₀ request task)
    (hproceeds : Proceeds d w task task' w') : Promises d₀ request task' := by
  cases hproceeds <;> first | exact h | exact False.elim h

/-- A call that has not taken effect still has to, or takes effect. -/
theorem Proceeds.pending_or_effect (h : Proceeds d w task task' w')
    (hpending : task.pending = some request) :
    task'.pending = some request ∧ effect task task' = none ∨
      effect task task' = some request := by
  cases h <;> first | exact Or.inl ⟨hpending, rfl⟩ | exact Or.inr hpending

/-- A call that moves on fits the directory that it leaves behind. -/
theorem Proceeds.fits (h : Proceeds d w task task' w') (hfits : task.Fits Kind d) :
    task'.Fits Kind (BuiltinTask.next d task task') := by
  cases h with
  | taken repo fspId party error howned => trivial
  | free repo fspId party hfree => exact ⟨hfits.1, hfits.2.1, hfree⟩
  | inserted repo fspId party =>
    obtain ⟨hparty, -, hfree⟩ := hfits
    show Kind party ∧ d.after (.associateParticipant fspId party) party = some fspId
    rw [Directory.after, if_pos hfree, Function.update_self]
    exact ⟨hparty, rfl⟩
  | associated repo fspId party => trivial
  | deleted fspId party => exact hfits
  | disassociated fspId party => trivial
  | hit repo party fspId howned => trivial
  | missed repo party => exact hfits
  | nobody repo party hfree => trivial
  | found repo party fspId howned => exact ⟨hfits, fspId, howned, rfl⟩
  | cached repo party data => trivial
  | returned outcome => trivial

/-- The collection is the one of the directory that the call leaves behind. -/
theorem Proceeds.collectionOf (h : Proceeds d w task task' w') (hkind : Party.Separated Kind)
    (hcollection : CollectionOf Kind w.parties d) (hfits : task.Fits Kind d) :
    CollectionOf Kind w'.parties (BuiltinTask.next d task task') := by
  cases h with
  | taken repo fspId party error howned =>
    show CollectionOf Kind w.parties (d.after (.associateParticipant fspId party))
    rw [Directory.after, if_neg (by rw [howned]; exact Option.some_ne_none fspId)]
    exact hcollection
  | inserted repo fspId party =>
    obtain ⟨hparty, hfspId, hfree⟩ := hfits
    show CollectionOf Kind (w.parties ++ [party.document fspId])
      (d.after (.associateParticipant fspId party))
    rw [Directory.after, if_pos hfree]
    exact hcollection.insert hkind hparty hfspId hfree
  | deleted fspId party =>
    show CollectionOf Kind (w.parties.eraseP (party.filter fspId).satisfiedBy)
      (d.after (.disassociateParticipant fspId party))
    rw [Directory.after]
    split
    · next howned => exact hcollection.erase hkind hfits howned
    · next howned =>
      have hfind := hcollection.find?_filter hkind hfits fspId
      rw [if_neg howned] at hfind
      rwa [FirstMatch.eraseP_eq_self_of_find?_eq_none hfind]
  | free repo fspId party hfree => exact hcollection
  | associated repo fspId party => exact hcollection
  | disassociated fspId party => exact hcollection
  | hit repo party fspId howned => exact hcollection
  | missed repo party => exact hcollection
  | nobody repo party hfree => exact hcollection
  | found repo party fspId howned => exact hcollection
  | cached repo party data => exact hcollection
  | returned outcome => exact hcollection

variable [LinearOrder T]

/-- **What a turn does, with nothing failing.** -/
theorem proceeds_advance (hkind : Party.Separated Kind)
    (hcollection : CollectionOf Kind w.parties d) (hok : w.NoFailure)
    (hserves : ∀ party, ¬ task.Uncaches party → task.Concerns party → Serves d w party)
    (hfits : task.Fits Kind d) :
    Proceeds d w task (advance task w).1 (advance task w).2 := by
  cases task with
  | findAssociation repo fspId party =>
    obtain ⟨hparty, -, hfree⟩ := hfits
    simp only [advance, hok .findOne, hcollection.find?_filter hkind hparty fspId]
    rcases hfree with hfree | howned
    · rw [hfree, if_neg (Option.some_ne_none fspId).symm]
      exact .free repo fspId party hfree
    · rw [if_pos howned]
      exact .taken repo fspId party _ howned
  | insertAssociation repo fspId party =>
    simp only [advance, hok .insertOne]
    exact .inserted repo fspId party
  | cacheAssociation repo fspId party =>
    simp only [advance, setToCache, hok .redisSetex]
    exact .associated repo fspId party
  | deleteAssociation fspId party =>
    simp only [advance, hok .deleteOne]
    exact .deleted fspId party
  | uncacheAssociation fspId party =>
    simp only [advance, delFromCache, hok .redisDel]
    exact .disassociated fspId party
  | readCache repo party =>
    simp only [advance, getFromCache, hok .redisGet, Party.getKeyWithPrefix_eq_key]
    cases hget : w.cache.get w.now party.key with
    | some record =>
      obtain ⟨fspId, howned, hfspId⟩ := hserves party id rfl record hget
      simp only [hfspId]
      exact .hit repo party fspId howned
    | none => exact .missed repo party
  | findParticipant repo party =>
    simp only [advance, hok .findOne, hcollection.find?_query hkind hfits]
    cases howner : d party with
    | none => exact .nobody repo party howner
    | some fspId => exact .found repo party fspId howner
  | cacheParticipant repo party data =>
    simp only [advance, setToCache, hok .redisSetex]
    exact .cached repo party data
  | returned outcome => exact .returned outcome

/-- What the cache serves stays the owner, but for a party that is to be taken out of it. -/
theorem Proceeds.serves (h : Proceeds d w task task' w') (hkind : Party.Separated Kind)
    (hfits : task.Fits Kind d) (hparty : Kind party)
    (hserves : ¬ task.Uncaches party → Serves d w party) (huncaches : ¬ task'.Uncaches party) :
    Serves (next d task task') w' party := by
  -- a write under the key of the call's own party
  have hset : ∀ {other : Party} {owner : String} {expiresAt : T}, Kind other →
      d other = some owner → Serves d w party →
      Serves d { w with cache := w.cache.setex other.key (other.record (.str owner)) expiresAt }
        party := by
    intro other owner expiresAt hother howned hbefore record hget
    rw [TtlCache.get_setex] at hget
    split at hget
    · next hkey =>
      obtain rfl := hkind.key other party hother hparty hkey
      split at hget
      · obtain rfl := Option.some.inj hget
        exact ⟨owner, howned, rfl⟩
      · cases hget
    · exact hbefore record hget
  cases h with
  | taken repo fspId other error howned =>
    intro record hget
    obtain ⟨owner, howner, hfspId⟩ := hserves id record hget
    exact ⟨owner, next_of_owned _ id howner, hfspId⟩
  | inserted repo fspId other =>
    intro record hget
    obtain ⟨owner, howner, hfspId⟩ := hserves id record hget
    exact ⟨owner, next_of_owned _ id howner, hfspId⟩
  | associated repo fspId other => exact hset hfits.1 hfits.2 (hserves id)
  | deleted fspId other =>
    intro record hget
    have hgivesUp : ¬ (deleteAssociation fspId other : BuiltinTask T).GivesUp party := huncaches
    obtain ⟨owner, howner, hfspId⟩ := hserves id record hget
    exact ⟨owner, next_of_owned _ hgivesUp howner, hfspId⟩
  | disassociated fspId other =>
    intro record hget
    rw [TtlCache.get_del] at hget
    split at hget
    · cases hget
    · next hkey => exact hserves (fun heq => hkey (heq ▸ rfl)) record hget
  | cached repo other data =>
    obtain ⟨hother, owner, howned, hfspId⟩ := hfits
    rw [hfspId]
    exact hset hother howned (hserves id)
  | free repo fspId other hfree => exact hserves id
  | hit repo other fspId howned => exact hserves id
  | missed repo other => exact hserves id
  | nobody repo other hfree => exact hserves id
  | found repo other fspId howned => exact hserves id
  | returned outcome => exact hserves id

end Turn

section Runs

variable [LinearOrder T] [Add T]

/-- The call that takes effect in a turn, with the index of its task. -/
def point (pool : Pool (BuiltinTask T) (BuiltinWorld T)) : SharedInput T → Option (ℕ × PartyCall)
  | .turn t =>
    pool.tasks[t.task]?.bind fun task =>
      (effect task (advance task { pool.world with failure := t.failure }).1).map (t.task, ·)
  | .call _ _ | .expire _ | .wait _ => none

/-- The directory after a call, given with the index of its task. -/
def recorded (d : Directory) (call : ℕ × PartyCall) : Directory := d.after call.2

theorem run_recorded (d : Directory) (i : ℕ) (effect : Option PartyCall) :
    run recorded d (effect.map (i, ·)).toList = run Directory.after d effect.toList := by
  cases effect with
  | none => rfl
  | some request => rfl

/-- The calls under way and the stores are sound with respect to a directory. -/
structure Sound (Kind : Party → Prop) (pool : Pool (BuiltinTask T) (BuiltinWorld T))
    (d : Directory) : Prop where
  apart : pool.tasks.Pairwise Apart
  fits : ∀ task ∈ pool.tasks, task.Fits Kind d
  collection : CollectionOf Kind pool.world.parties d
  serves : ∀ party, Kind party → (∀ task ∈ pool.tasks, ¬ task.Uncaches party) →
    Serves d pool.world party

variable {Kind : Party → Prop} {d : Directory} {pool : Pool (BuiltinTask T) (BuiltinWorld T)}

omit [Add T] in
theorem sound_empty (Kind : Party → Prop) (now : T) :
    Sound Kind ⟨[], BuiltinWorld.empty now⟩ Directory.empty :=
  ⟨.nil, fun task htask => (by cases htask), collectionOf_empty Kind,
    fun party hparty hnone record hget => (by cases hget)⟩

/-- A turn of a call among sound ones is as prescribed. -/
theorem Sound.proceeds (h : Sound Kind pool d) (hkind : Party.Separated Kind) {t : BuiltinTurn}
    (hok : ∀ call, t.failure call = none) {task : BuiltinTask T}
    (htask : pool.tasks[t.task]? = some task) :
    Proceeds d { pool.world with failure := t.failure } task
      (advance task { pool.world with failure := t.failure }).1
      (advance task { pool.world with failure := t.failure }).2 := by
  have hmem := List.mem_of_getElem? htask
  refine proceeds_advance hkind h.collection hok (fun party huncaches hconcerns => ?_)
    (h.fits task hmem)
  refine h.serves party ((h.fits task hmem).kind hconcerns) fun other hother hother' => ?_
  obtain ⟨before, after, htasks, -⟩ := turn_of_some htask
  have hapart := h.apart
  rw [htasks, List.pairwise_middle Apart.symm, List.pairwise_cons] at hapart
  rw [htasks] at hother
  rcases mem_replaced hother with rfl | hothers
  · exact huncaches hother'
  · exact (hapart.1 other hothers).concerns party hconcerns hother'.givesUp

/-- **A turn keeps the calls and the stores sound.** -/
theorem Sound.turned (h : Sound Kind pool d) (hkind : Party.Separated Kind) {t : BuiltinTurn}
    (hok : ∀ call, t.failure call = none) {task : BuiltinTask T}
    (htask : pool.tasks[t.task]? = some task) :
    Sound Kind (share pool (.turn t))
      (next d task (advance task { pool.world with failure := t.failure }).1) := by
  have hproceeds := h.proceeds hkind hok htask
  have hmem := List.mem_of_getElem? htask
  obtain ⟨before, after, htasks, hturn⟩ := turn_of_some htask
  have hapart := h.apart
  rw [htasks, List.pairwise_middle Apart.symm, List.pairwise_cons] at hapart
  have hother : ∀ other ∈ before ++ after, other ∈ pool.tasks := by
    intro other hother
    rw [htasks]
    exact (List.sublist_cons_self task after).append_left before |>.mem hother
  show Sound Kind (turn pool t) _
  rw [hturn]
  constructor
  · rw [List.pairwise_middle Apart.symm, List.pairwise_cons]
    exact ⟨fun other hothers => hproceeds.apart (hapart.1 other hothers), hapart.2⟩
  · intro other hmem'
    rcases mem_replaced hmem' with rfl | hothers
    · exact hproceeds.fits (h.fits task hmem)
    · exact (h.fits other (hother other hothers)).next (hapart.1 other hothers) _
  · exact hproceeds.collectionOf hkind h.collection (h.fits task hmem)
  · intro party hparty hnone
    refine hproceeds.serves hkind (h.fits task hmem) hparty (fun huncaches => ?_)
      (hnone _ (List.mem_append_right _ List.mem_cons_self))
    refine h.serves party hparty fun other hmem' => ?_
    rw [htasks] at hmem'
    rcases mem_replaced hmem' with rfl | hothers
    · exact huncaches
    · refine hnone other ?_
      exact (List.sublist_cons_self _ after).append_left before |>.mem hothers

/-- **Every input keeps the calls and the stores sound.** -/
theorem Sound.share (h : Sound Kind pool d) (hkind : Party.Separated Kind)
    {input : SharedInput T} (hinput : KeepsApart Kind pool input) :
    Sound Kind (share pool input) (run recorded d (point pool input).toList) := by
  cases input with
  | call repo request =>
    obtain ⟨hparty, hnames, hmay⟩ := hinput
    refine ⟨List.pairwise_append.mpr ⟨h.apart, List.pairwise_singleton _ _, ?_⟩, ?_,
      h.collection, ?_⟩
    · intro task htask new hnew
      obtain rfl := List.mem_singleton.mp hnew
      exact hmay.apart repo htask
    · intro task htask
      rcases List.mem_append.mp htask with hold | hnew
      · exact h.fits task hold
      · obtain rfl := List.mem_singleton.mp hnew
        exact hmay.fits h.collection hparty hnames repo
    · intro party hparty' hnone
      exact h.serves party hparty' fun task htask => hnone task (List.mem_append_left _ htask)
  | turn t =>
    cases htask : pool.tasks[t.task]? with
    | none =>
      have hpoint : point pool (.turn t) = none := by rw [point, htask]; rfl
      rw [hpoint, BuiltinTask.share, turn_of_none htask]
      exact ⟨h.apart, h.fits, h.collection, h.serves⟩
    | some task =>
      have hnext : run recorded d (point pool (.turn t)).toList =
          next d task (advance task { pool.world with failure := t.failure }).1 := by
        rw [point, htask]
        exact run_recorded d t.task _
      rw [hnext]
      exact h.turned hkind hinput htask
  | expire key =>
    refine ⟨h.apart, h.fits, h.collection, fun party hparty hnone record hget => ?_⟩
    rw [BuiltinTask.share, TtlCache.get_del] at hget
    split at hget
    · cases hget
    · exact h.serves party hparty hnone record hget
  | wait instant =>
    refine ⟨h.apart, h.fits, h.collection, fun party hparty hnone record hget => ?_⟩
    exact h.serves party hparty hnone record
      (TtlCache.get_eq_some_of_le (le_max_left _ _) hget)

end Runs

end BuiltinTask

end AccountLookup

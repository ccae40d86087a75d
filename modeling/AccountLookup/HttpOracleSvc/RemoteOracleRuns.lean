/-
# Runs of the remote oracle

The remote oracle set against what it stands for: a map from whole party
identifiers to participants, in which the last successful call on an identifier
decides. Both run side by side on the same calls. The oracle finds its records
through a rendered key, so it behaves as that map exactly while every call finds
under its key nothing or a record of its own identifier.
-/

import AccountLookup.HttpOracleSvc.RemoteOracle
import AccountLookup.Library.Transition

namespace AccountLookup

open Library Library.Transition

/-- A call on a remote oracle. -/
inductive RemoteStep
  | associateParticipant (fspId : String) (party : Party)
  | disassociateParticipant (fspId : String) (party : Party)
  | getParticipantFspId (party : Party)

/-- No association, no file, and the file can be written. -/
def RemoteOracleWorld.fresh : RemoteOracleWorld where
  associations := OrderedMap.empty
  file := .absent
  writeFails := false

/-- The world after a change that has been written to the file. -/
def RemoteOracleWorld.saved (w : RemoteOracleWorld)
    (associations : OrderedMap String Association) : RemoteOracleWorld :=
  { w with associations := associations, file := .document (some associations.values) }

/-- The key under which the party is recorded. -/
def Party.remoteKey (party : Party) : String := RemoteOracle.createKey (party.record .undefined)

/-- The record is one of exactly this identifier. -/
def Association.IsFor (association : Association) (party : Party) : Prop :=
  association = party.record association.fspId

theorem JsString.ofOption_injective : Function.Injective JsString.ofOption := by
  intro first second h
  cases first <;> cases second <;> simp_all [JsString.ofOption]

/-- A record determines its identifier and its participant. -/
theorem Party.record_inj {party other : Party} {fspId fspId' : JsString}
    (h : party.record fspId = other.record fspId') : party = other ∧ fspId = fspId' := by
  obtain ⟨hfsp, htype, hid, hsub, hcurrency⟩ := Association.mk.inj h
  refine ⟨?_, hfsp⟩
  cases party
  cases other
  simp only [Party.mk.injEq]
  exact ⟨JsString.str.inj htype, JsString.str.inj hid, JsString.ofOption_injective hsub,
    JsString.ofOption_injective hcurrency⟩

namespace RemoteOracle

def lookup (party : Party) : Call RemoteOracleWorld JsString :=
  getParticipantFspId (.str party.partyType) (.str party.partyId) (.ofOption party.partySubType)
    (.ofOption party.currency)

variable (oracle : RemoteOracle)

def associate (fspId : String) (party : Party) : Call RemoteOracleWorld Unit :=
  oracle.associateParticipant (.str fspId) (.str party.partyType) (.str party.partyId)
    (.ofOption party.partySubType) (.ofOption party.currency)

def disassociate (fspId : String) (party : Party) : Call RemoteOracleWorld Unit :=
  oracle.disassociateParticipant (.str fspId) (.str party.partyType) (.str party.partyId)
    (.ofOption party.partySubType) (.ofOption party.currency)

variable {oracle}

theorem createKey_eq_remoteKey {party : Party} :
    createKey ⟨.undefined, .str party.partyType, .str party.partyId,
      .ofOption party.partySubType, .ofOption party.currency⟩ = party.remoteKey := rfl

theorem lookup_eq (w : RemoteOracleWorld) (party : Party) :
    lookup party w =
      (.ok ((w.associations.get party.remoteKey).elim .null Association.fspId), w) := by
  simp only [lookup, getParticipantFspId, createKey_eq_remoteKey]
  cases w.associations.get party.remoteKey with
  | none => rfl
  | some association => rfl

theorem associate_eq_of_some (oracle : RemoteOracle) {w : RemoteOracleWorld} (fspId : String)
    {party : Party}
    {association : Association} (h : w.associations.get party.remoteKey = some association) :
    ∃ error, oracle.associate fspId party w = (.error error, w) := by
  exact ⟨_, by
    simp only [associate, associateParticipant, createKey_eq_remoteKey, h]
    rfl⟩

theorem associate_eq_of_none {w : RemoteOracleWorld} {fspId : String} {party : Party}
    (h : w.associations.get party.remoteKey = none) :
    oracle.associate fspId party w = oracle.saveToFile { w with
      associations := w.associations.set party.remoteKey (party.record (.str fspId)) } := by
  simp only [associate, associateParticipant, createKey_eq_remoteKey, h]
  rfl

/-- A removal goes through when the record under the key names the participant. -/
theorem disassociate_eq_of_some {w : RemoteOracleWorld} {fspId : String} {party : Party}
    {association : Association} (h : w.associations.get party.remoteKey = some association)
    (hfsp : association.fspId = .str fspId) :
    oracle.disassociate fspId party w = oracle.saveToFile { w with
      associations := w.associations.delete party.remoteKey } := by
  simp only [disassociate, disassociateParticipant, createKey_eq_remoteKey, h, if_pos hfsp]

theorem disassociate_eq_of_not (oracle : RemoteOracle) {w : RemoteOracleWorld} {fspId : String}
    {party : Party}
    (h : ∀ association, w.associations.get party.remoteKey = some association →
      association.fspId ≠ .str fspId) :
    ∃ error, oracle.disassociate fspId party w = (.error error, w) := by
  cases hget : w.associations.get party.remoteKey with
  | none =>
    exact ⟨_, by
      simp only [disassociate, disassociateParticipant, createKey_eq_remoteKey, hget]
      rfl⟩
  | some association =>
    exact ⟨_, by
      simp only [disassociate, disassociateParticipant, createKey_eq_remoteKey, hget,
        if_neg (h association hget)]
      rfl⟩

theorem saveToFile_with {w : RemoteOracleWorld} (h : w.writeFails = false)
    (associations : OrderedMap String Association) :
    oracle.saveToFile { w with associations := associations } = (.ok (), w.saved associations) := by
  rw [saveToFile, if_neg (by rw [h]; exact Bool.false_ne_true)]
  rfl

/-! ## The map that the oracle stands for -/

/-- The oracle beside the map of the last successful call on each identifier. -/
structure Tracked where
  world : RemoteOracleWorld
  latest : Party → Option String

/-- A fresh oracle, and no identifier associated. -/
def Tracked.fresh : Tracked := ⟨RemoteOracleWorld.fresh, fun _ => none⟩

variable (oracle)

/-- One call: a successful change is recorded in the map. -/
def trackedStep (t : Tracked) : RemoteStep → Tracked
  | .associateParticipant fspId party =>
    match oracle.associate fspId party t.world with
    | (.ok _, world) => ⟨world, Function.update t.latest party (some fspId)⟩
    | (.error _, world) => ⟨world, t.latest⟩
  | .disassociateParticipant fspId party =>
    match oracle.disassociate fspId party t.world with
    | (.ok _, world) => ⟨world, Function.update t.latest party none⟩
    | (.error _, world) => ⟨world, t.latest⟩
  | .getParticipantFspId party => ⟨(lookup party t.world).2, t.latest⟩

/-- The call has the outcome that the map prescribes. -/
def AgreesWithMap (t : Tracked) : RemoteStep → Prop
  | .associateParticipant fspId party =>
    (oracle.associate fspId party t.world).1 = .ok () ↔ t.latest party = none
  | .disassociateParticipant fspId party =>
    (oracle.disassociate fspId party t.world).1 = .ok () ↔ t.latest party = some fspId
  | .getParticipantFspId party =>
    (lookup party t.world).1 = .ok (.ofOption (t.latest party))

/-- What the call finds under its key is a record of its own identifier; a removal
may also find a record of another participant. -/
def MeetsOwnRecord (t : Tracked) : RemoteStep → Prop
  | .associateParticipant _ party | .getParticipantFspId party =>
    ∀ association, t.world.associations.get party.remoteKey = some association →
      association.IsFor party
  | .disassociateParticipant fspId party =>
    ∀ association, t.world.associations.get party.remoteKey = some association →
      association.fspId = .str fspId → association.IsFor party

/-- The oracle represents the map: an identifier is associated exactly when its
record is found under its key. -/
structure Represents (t : Tracked) : Prop where
  writable : t.world.writeFails = false
  named : ∀ k association, t.world.associations.get k = some association →
    ∃ fspId, association.fspId = .str fspId
  latest_iff : ∀ party fspId, t.latest party = some fspId ↔
    t.world.associations.get party.remoteKey = some (party.record (.str fspId))

theorem represents_fresh : Represents Tracked.fresh :=
  ⟨rfl, fun _ _ h => (by cases h), fun _ _ => ⟨fun h => (by cases h), fun h => (by cases h)⟩⟩

variable {oracle} {t : Tracked} {fspId : String} {party : Party}

/-- A key without a record is the key of no associated identifier. -/
theorem Represents.latest_eq_none (h : Represents t) {other : Party}
    (hget : t.world.associations.get other.remoteKey = none) : t.latest other = none := by
  cases hlatest : t.latest other with
  | none => rfl
  | some fspId => exact absurd (hget.symm.trans ((h.latest_iff other fspId).mp hlatest)) (by simp)

/-- The identifier of the record under a key is associated with its participant,
and no other identifier with that key is associated. -/
theorem Represents.latest_eq_some_iff (h : Represents t) {other : Party}
    (hget : t.world.associations.get other.remoteKey = some (party.record (.str fspId)))
    (owner : String) : t.latest other = some owner ↔ other = party ∧ owner = fspId := by
  rw [h.latest_iff, hget, Option.some.injEq]
  constructor
  · intro heq
    obtain ⟨hparty, hfsp⟩ := Party.record_inj heq
    exact ⟨hparty.symm, (JsString.str.inj hfsp).symm⟩
  · rintro ⟨rfl, rfl⟩
    rfl

/-- Under a key with a record, an identifier is associated exactly when the record
is its own. -/
theorem Represents.isFor_iff (h : Represents t) {association : Association} {owner : String}
    (hget : t.world.associations.get party.remoteKey = some association)
    (howner : association.fspId = .str owner) :
    association.IsFor party ↔ t.latest party = some owner := by
  rw [h.latest_iff, hget, Option.some.injEq, Association.IsFor, howner]

theorem agreesWithMap_lookup_iff (h : Represents t) :
    oracle.AgreesWithMap t (.getParticipantFspId party) ↔
      MeetsOwnRecord t (.getParticipantFspId party) := by
  rw [AgreesWithMap, lookup_eq, MeetsOwnRecord]
  cases hget : t.world.associations.get party.remoteKey with
  | none =>
    rw [h.latest_eq_none hget]
    exact iff_of_true rfl fun _ hsome => (by cases hsome)
  | some association =>
    obtain ⟨owner, howner⟩ := h.named _ _ hget
    have hown := h.isFor_iff hget howner
    constructor
    · rintro hagrees _ hsome
      obtain rfl := Option.some.inj hsome
      refine hown.mpr (JsString.ofOption_injective ?_)
      exact (Except.ok.inj hagrees).symm.trans howner
    · intro hmeets
      rw [hown.mp (hmeets association rfl), Option.elim_some, howner]
      rfl

theorem agreesWithMap_associate_iff (h : Represents t) :
    oracle.AgreesWithMap t (.associateParticipant fspId party) ↔
      MeetsOwnRecord t (.associateParticipant fspId party) := by
  rw [AgreesWithMap, MeetsOwnRecord]
  cases hget : t.world.associations.get party.remoteKey with
  | none =>
    rw [associate_eq_of_none hget, saveToFile_with h.writable]
    exact iff_of_true (iff_of_true rfl (h.latest_eq_none hget)) fun _ hsome => (by cases hsome)
  | some association =>
    obtain ⟨owner, howner⟩ := h.named _ _ hget
    obtain ⟨error, herror⟩ := associate_eq_of_some oracle fspId hget
    have hown := h.isFor_iff hget howner
    rw [herror]
    constructor
    · rintro hagrees _ hsome
      obtain rfl := Option.some.inj hsome
      obtain ⟨latest, hlatest⟩ := Option.ne_none_iff_exists'.mp
        (mt hagrees.mpr fun herr => (by cases herr))
      have hrecord := (h.latest_iff party latest).mp hlatest
      rw [Option.some.inj (hget.symm.trans hrecord)]
      rfl
    · intro hmeets
      refine iff_of_false (fun herr => (by cases herr)) ?_
      rw [hown.mp (hmeets association rfl)]
      exact fun hsome => (by cases hsome)

theorem agreesWithMap_disassociate_iff (h : Represents t) :
    oracle.AgreesWithMap t (.disassociateParticipant fspId party) ↔
      MeetsOwnRecord t (.disassociateParticipant fspId party) := by
  rw [AgreesWithMap, MeetsOwnRecord]
  by_cases hnamed : ∃ association, t.world.associations.get party.remoteKey = some association ∧
      association.fspId = .str fspId
  · obtain ⟨association, hget, hfsp⟩ := hnamed
    rw [disassociate_eq_of_some hget hfsp, saveToFile_with h.writable, ← h.isFor_iff hget hfsp]
    constructor
    · intro hagrees _ hsome _
      obtain rfl := Option.some.inj (hget.symm.trans hsome)
      exact hagrees.mp rfl
    · intro hmeets
      exact iff_of_true rfl (hmeets association hget hfsp)
  · have hnot : ∀ association, t.world.associations.get party.remoteKey = some association →
        association.fspId ≠ .str fspId := fun association hget hfsp =>
      hnamed ⟨association, hget, hfsp⟩
    obtain ⟨error, herror⟩ := disassociate_eq_of_not oracle hnot
    rw [herror]
    refine iff_of_true (iff_of_false (fun herr => (by cases herr)) ?_)
      fun association hget hfsp => absurd hfsp (hnot association hget)
    exact fun hlatest => hnot _ ((h.latest_iff party fspId).mp hlatest) rfl

theorem agreesWithMap_iff (h : Represents t) (s : RemoteStep) :
    oracle.AgreesWithMap t s ↔ MeetsOwnRecord t s := by
  cases s with
  | associateParticipant fspId party => exact agreesWithMap_associate_iff h
  | disassociateParticipant fspId party => exact agreesWithMap_disassociate_iff h
  | getParticipantFspId party => exact agreesWithMap_lookup_iff h

theorem represents_associated (h : Represents t)
    (hget : t.world.associations.get party.remoteKey = none) :
    Represents ⟨t.world.saved (t.world.associations.set party.remoteKey
      (party.record (.str fspId))), Function.update t.latest party (some fspId)⟩ := by
  refine ⟨h.writable, fun k association hk => ?_, fun other owner => ?_⟩
  · simp only [RemoteOracleWorld.saved, OrderedMap.get_set] at hk
    split at hk
    · obtain rfl := Option.some.inj hk
      exact ⟨fspId, rfl⟩
    · exact h.named k association hk
  · simp only [RemoteOracleWorld.saved, OrderedMap.get_set, Function.update_apply]
    by_cases hother : other = party
    · subst hother
      rw [if_pos rfl, if_pos rfl, Option.some.injEq, Option.some.injEq]
      exact ⟨fun heq => by rw [heq], fun heq => JsString.str.inj (Party.record_inj heq).2⟩
    · rw [if_neg hother]
      by_cases hkey : other.remoteKey = party.remoteKey
      · -- the key was free, so no identifier with it was associated before
        rw [if_pos hkey, h.latest_eq_none (hkey ▸ hget)]
        refine iff_of_false (fun hsome => (by cases hsome)) fun heq => hother ?_
        exact (Party.record_inj (Option.some.inj heq)).1.symm
      · rw [if_neg hkey]
        exact h.latest_iff other owner

theorem represents_disassociated (h : Represents t)
    (hget : t.world.associations.get party.remoteKey = some (party.record (.str fspId))) :
    Represents ⟨t.world.saved (t.world.associations.delete party.remoteKey),
      Function.update t.latest party none⟩ := by
  refine ⟨h.writable, fun k association hk => ?_, fun other owner => ?_⟩
  · simp only [RemoteOracleWorld.saved, OrderedMap.get_delete] at hk
    split at hk
    · cases hk
    · exact h.named k association hk
  · simp only [RemoteOracleWorld.saved, OrderedMap.get_delete, Function.update_apply]
    by_cases hother : other = party
    · rw [if_pos hother, if_pos (congrArg Party.remoteKey hother)]
      exact iff_of_false (fun hsome => (by cases hsome)) fun hsome => (by cases hsome)
    · rw [if_neg hother]
      by_cases hkey : other.remoteKey = party.remoteKey
      · rw [if_pos hkey]
        refine iff_of_false (fun hlatest => hother ?_) fun hsome => (by cases hsome)
        exact ((h.latest_eq_some_iff (hkey ▸ hget) owner).mp hlatest).1
      · rw [if_neg hkey]
        exact h.latest_iff other owner

theorem represents_trackedStep (h : Represents t) (s : RemoteStep) (hmeets : MeetsOwnRecord t s) :
    Represents (oracle.trackedStep t s) := by
  cases s with
  | associateParticipant fspId party =>
    cases hget : t.world.associations.get party.remoteKey with
    | none =>
      rw [trackedStep, associate_eq_of_none hget, saveToFile_with h.writable]
      exact represents_associated h hget
    | some association =>
      obtain ⟨error, herror⟩ := associate_eq_of_some oracle fspId hget
      rw [trackedStep, herror]
      exact h
  | disassociateParticipant fspId party =>
    by_cases hnamed : ∃ association,
        t.world.associations.get party.remoteKey = some association ∧
          association.fspId = .str fspId
    · obtain ⟨association, hget, hfsp⟩ := hnamed
      rw [trackedStep, disassociate_eq_of_some hget hfsp, saveToFile_with h.writable]
      have hown : association = party.record (.str fspId) := hfsp ▸ hmeets association hget hfsp
      exact represents_disassociated h (hown ▸ hget)
    · obtain ⟨error, herror⟩ := disassociate_eq_of_not oracle
        fun association hget hfsp => hnamed ⟨association, hget, hfsp⟩
      rw [trackedStep, herror]
      exact h
  | getParticipantFspId party =>
    rw [trackedStep, lookup_eq]
    exact h

/-- **The oracle is the map exactly when every call meets its own record.** -/
theorem agreesWithMap_throughout_iff (oracle : RemoteOracle) (steps : List RemoteStep) :
    Along oracle.trackedStep oracle.AgreesWithMap Tracked.fresh steps ↔
      Along oracle.trackedStep MeetsOwnRecord Tracked.fresh steps :=
  along_iff_of_exact Represents (fun _ s h => agreesWithMap_iff h s)
    (fun _ s h hmeets => represents_trackedStep h s hmeets) steps Tracked.fresh represents_fresh

/-- The sub type is not part of the key: a lookup for another sub type finds the
record. -/
theorem not_forall_agreesWithMap :
    ¬ ∀ (oracle : RemoteOracle) (steps : List RemoteStep),
      Along oracle.trackedStep oracle.AgreesWithMap Tracked.fresh steps := by
  intro h
  obtain ⟨-, hlookup, -⟩ := h ⟨"associations.json"⟩
    [.associateParticipant "greenbank" ⟨"MSISDN", "27713803912", some "PERSONAL", none⟩,
      .getParticipantFspId ⟨"MSISDN", "27713803912", some "BUSINESS", none⟩]
  have hfound : JsString.str "greenbank" = .null := Except.ok.inj hlookup
  cases hfound

end RemoteOracle

end AccountLookup

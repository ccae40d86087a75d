/-
# Ownership in the remote oracle

The record under a key belongs to the participant that it names. Calls on the oracle
overlap, each write to the file may fail after the map was changed, and calls fail on
duplicates and on wrong owners. Through all of that a record stays under its key until
a removal that names its own participant, and a new one comes under the key only while
it is free.
-/

import AccountLookup.HttpOracleSvc.OverlappingWrites
import AccountLookup.Library.Handover

namespace AccountLookup

open Library Library.Transition

/-- A turn of a task, and whether a write that is to take effect in it fails. -/
structure RemoteTurn where
  task : ℕ
  writeFails : Bool

namespace RemoteOracle

variable (oracle : RemoteOracle)

/-- The pool after the turn. -/
def taken (pool : Pool RemoteTask RemoteOracleWorld) (t : RemoteTurn) :
    Pool RemoteTask RemoteOracleWorld :=
  oracle.turn { pool with world := { pool.world with writeFails := t.writeFails } } t.task

/-- The pool of the calls after these turns, on an oracle that was started on the file. -/
def served (file : OracleFile) (calls : List RemoteStep) (turns : List RemoteTurn) :
    Pool RemoteTask RemoteOracleWorld :=
  run oracle.taken (issued (oracle.init (.onFile file)).2 calls) turns

/-- The call begins in the turn. -/
def Begins (pool : Pool RemoteTask RemoteOracleWorld) (t : RemoteTurn) (s : RemoteStep) : Prop :=
  pool.tasks[t.task]? = some (.called s)

/-- The record under the key. -/
def recordUnder (k : String) (pool : Pool RemoteTask RemoteOracleWorld) : Option Association :=
  pool.world.associations.get k

/-- A removal begins that names the record's participant on an identifier with the key. -/
def OwnerRemoves (k : String) (pool : Pool RemoteTask RemoteOracleWorld) (t : RemoteTurn)
    (record : Association) : Prop :=
  ∃ fspId party, Begins pool t (.disassociateParticipant fspId party) ∧ party.remoteKey = k ∧
    record.fspId = .str fspId

/-- An association begins that writes the record on an identifier with the key. -/
def Associates (k : String) (pool : Pool RemoteTask RemoteOracleWorld) (t : RemoteTurn)
    (record : Association) : Prop :=
  ∃ fspId party, Begins pool t (.associateParticipant fspId party) ∧ party.remoteKey = k ∧
    record = party.record (.str fspId)

variable {oracle} {pool : Pool RemoteTask RemoteOracleWorld} {k : String}

/-- Only a call that changes the map touches it, and it does so when it begins. -/
theorem associations_turn (oracle : RemoteOracle) (pool : Pool RemoteTask RemoteOracleWorld)
    (i : ℕ) :
    (oracle.turn pool i).world.associations = pool.world.associations ∨
      ∃ s, pool.tasks[i]? = some (.called s) ∧ Changes pool.world.associations s ∧
        (oracle.turn pool i).world.associations = newContent pool.world.associations s := by
  cases htask : pool.tasks[i]? with
  | none =>
    rw [turn, Pool.step_of_none oracle.advance htask]
    exact Or.inl rfl
  | some task =>
    obtain ⟨before, after, -, -, hstep⟩ := Pool.step_of_some oracle.advance htask
    rw [turn, hstep]
    cases task with
    | called s =>
      by_cases hs : Changes pool.world.associations s
      · refine Or.inr ⟨s, rfl, hs, ?_⟩
        rw [advance, start_eq_of_changes hs]
      · refine Or.inl ?_
        rw [advance, start_eq_of_not_changes hs]
    | writing records =>
      refine Or.inl ?_
      rw [advance]
      split <;> rfl
    | written => exact Or.inl rfl
    | returned outcome => exact Or.inl rfl

/-- **A turn leaves the record under a key, or its owner's removal frees the key, or an
association takes a free key.** -/
theorem handsOver_taken (oracle : RemoteOracle) (k : String)
    (pool : Pool RemoteTask RemoteOracleWorld) (t : RemoteTurn) :
    HandsOver oracle.taken (recordUnder k) (OwnerRemoves k) (Associates k) pool t := by
  rcases associations_turn oracle
    { pool with world := { pool.world with writeFails := t.writeFails } } t.task with
    hsame | ⟨s, hbegins, hs, hcontent⟩
  · exact .keeps (congrArg (OrderedMap.get · k) hsame)
  · have hafter : recordUnder k (oracle.taken pool t) =
        (newContent pool.world.associations s).get k := congrArg (OrderedMap.get · k) hcontent
    cases s with
    | associateParticipant fspId party =>
      rw [newContent, OrderedMap.get_set] at hafter
      by_cases hk : party.remoteKey = k
      · subst hk
        rw [if_pos rfl] at hafter
        exact .admits _ hs hafter ⟨fspId, party, hbegins, rfl, rfl⟩
      · rw [if_neg (Ne.symm hk)] at hafter
        exact .keeps hafter
    | disassociateParticipant fspId party =>
      rw [newContent, OrderedMap.get_delete] at hafter
      obtain ⟨record, hrecord, hfsp⟩ := hs
      by_cases hk : party.remoteKey = k
      · subst hk
        rw [if_pos rfl] at hafter
        exact .releases record hrecord hafter ⟨fspId, party, hbegins, rfl, hfsp⟩
      · rw [if_neg (Ne.symm hk)] at hafter
        exact .keeps hafter
    | getParticipantFspId party => cases hs

/-- What a lookup that finds a participant has read. -/
theorem recordUnder_of_lookup {party : Party} {fspId : String} (hkey : party.remoteKey = k)
    (h : (lookup party pool.world).1 = .ok (.str fspId)) :
    ∃ record, recordUnder k pool = some record ∧ record.fspId = .str fspId := by
  subst hkey
  rw [lookup_eq] at h
  have hvalue := Except.ok.inj h
  cases hget : pool.world.associations.get party.remoteKey with
  | none =>
    rw [hget] at hvalue
    cases hvalue
  | some record =>
    rw [hget] at hvalue
    exact ⟨record, hget, hvalue⟩

/-- **Ownership changes hands only through the owner.** Between a lookup on a key that
answers one participant and a later one that answers another, a removal naming the first
began on the key, and an association naming the second after it. A record that a turn
takes from its key is removed by a call naming its participant. -/
theorem changesHands_through_owner (oracle : RemoteOracle) (file : OracleFile)
    (calls : List RemoteStep) (k : String) (before between : List RemoteTurn) :
    (∀ (first second : Party) (f g : String), first.remoteKey = k → second.remoteKey = k →
      (lookup first (oracle.served file calls before).world).1 = .ok (.str f) →
      (lookup second (oracle.served file calls (before ++ between)).world).1 = .ok (.str g) →
      f ≠ g →
      ∃ start removal middle addition rest removed associated,
        between = start ++ removal :: (middle ++ addition :: rest) ∧
        removed.remoteKey = k ∧ associated.remoteKey = k ∧
        Begins (oracle.served file calls (before ++ start)) removal
          (.disassociateParticipant f removed) ∧
        Begins (oracle.served file calls (before ++ (start ++ removal :: middle))) addition
          (.associateParticipant g associated)) ∧
    ∀ (t : RemoteTurn) (record : Association),
      recordUnder k (oracle.served file calls before) = some record →
      recordUnder k (oracle.served file calls (before ++ [t])) ≠ some record →
      OwnerRemoves k (oracle.served file calls before) t record := by
  have hlaw := handsOver_taken oracle k
  refine ⟨fun first second f g hfirst hsecond hf hg hne => ?_, fun t record hheld hgone => ?_⟩
  · obtain ⟨owned, howned, hownedFsp⟩ := recordUnder_of_lookup hfirst hf
    obtain ⟨taken, htaken, htakenFsp⟩ := recordUnder_of_lookup hsecond hg
    have hrecords : owned ≠ taken := by
      rintro rfl
      exact hne (JsString.str.inj (hownedFsp.symm.trans htakenFsp))
    rw [served, run_append] at htaken
    obtain ⟨start, removal, middle, addition, rest, hsplit, hremoves, hassociates⟩ :=
      exists_release_admission hlaw howned htaken hrecords
    obtain ⟨f', removed, hremoval, hremoved, hf'⟩ := hremoves
    obtain ⟨g', associated, haddition, hassociated, rfl⟩ := hassociates
    obtain rfl : f = f' := JsString.str.inj (hownedFsp.symm.trans hf')
    obtain rfl : g' = g := JsString.str.inj htakenFsp
    refine ⟨start, removal, middle, addition, rest, removed, associated, hsplit, hremoved,
      hassociated, ?_, ?_⟩
    · rwa [served, run_append]
    · rwa [served, run_append]
  · rw [served, run_append, run_cons, run_nil] at hgone
    exact ((hlaw _ t).released hheld hgone).1

/-- A party of a file with one record, and the calls that hand it over. -/
def handedParty : Party := ⟨"MSISDN", "27713803912", none, some "USD"⟩

def handedFile : OracleFile := .document (some [handedParty.record (.str "greenbank")])

def handingCalls : List RemoteStep :=
  [.disassociateParticipant "greenbank" handedParty, .associateParticipant "bluebank" handedParty]

/-- The party changes hands although the first write fails. -/
theorem changesHands_handedParty :
    ∃ start removal middle addition rest removed associated,
      [(⟨0, true⟩ : RemoteTurn), ⟨0, true⟩, ⟨1, false⟩] =
        start ++ removal :: (middle ++ addition :: rest) ∧
      removed.remoteKey = handedParty.remoteKey ∧ associated.remoteKey = handedParty.remoteKey ∧
      Begins ((⟨"associations.json"⟩ : RemoteOracle).served handedFile handingCalls ([] ++ start))
        removal (.disassociateParticipant "greenbank" removed) ∧
      Begins ((⟨"associations.json"⟩ : RemoteOracle).served handedFile handingCalls
        ([] ++ (start ++ removal :: middle))) addition
        (.associateParticipant "bluebank" associated) :=
  (changesHands_through_owner ⟨"associations.json"⟩ handedFile handingCalls
    handedParty.remoteKey [] [⟨0, true⟩, ⟨0, true⟩, ⟨1, false⟩]).1 handedParty handedParty
    "greenbank" "bluebank" rfl rfl (by decide +kernel) (by decide +kernel) (by decide)

end RemoteOracle

end AccountLookup

/-
# The remote oracle's file

The file holds the records of the map without their keys; loading files every
record anew under the key that it determines. A map whose records are all filed
under their own keys, with no absent optional property, is therefore recovered
from its records, and the loader and every call keep the map of that kind. A call
changes the map first and writes the file afterwards, and when that write fails
the change of the map stands.
-/

import AccountLookup.HttpOracleSvc.RemoteOracleRuns

namespace AccountLookup

open Library Library.Transition

/-- The record as the loader keeps it. -/
def Association.normalised (record : Association) : Association :=
  { record with
    partySubType := record.partySubType.orNull
    currency := record.currency.orNull }

/-- An oracle started anew on a file that can be written. -/
def RemoteOracleWorld.onFile (file : OracleFile) : RemoteOracleWorld where
  associations := OrderedMap.empty
  file := file
  writeFails := false

/-- The map that a file stands for, unless it cannot be read. -/
def OracleFile.associations? : OracleFile → Option (OrderedMap String Association)
  | .absent | .empty | .document none => some OrderedMap.empty
  | .unreadable => none
  | .document (some records) => some (RemoteOracle.loadRecords records)

/-- The map in memory is the one that the file stands for. -/
def RemoteOracleWorld.MemoryMatchesFile (w : RemoteOracleWorld) : Prop :=
  w.file.associations? = some w.associations

namespace RemoteOracle

/-- A call with the value it returns; a change returns `null`. -/
def perform (oracle : RemoteOracle) : RemoteStep → Call RemoteOracleWorld JsString
  | .associateParticipant fspId party => fun w =>
    let outcome := oracle.associate fspId party w
    (outcome.1.map fun _ => .null, outcome.2)
  | .disassociateParticipant fspId party => fun w =>
    let outcome := oracle.disassociate fspId party w
    (outcome.1.map fun _ => .null, outcome.2)
  | .getParticipantFspId party => lookup party

/-- The world after the call, whatever its outcome. -/
def performed (oracle : RemoteOracle) (w : RemoteOracleWorld) (s : RemoteStep) :
    RemoteOracleWorld := (oracle.perform s w).2

/-- The map after the call has done its work. -/
def newContent (associations : OrderedMap String Association) :
    RemoteStep → OrderedMap String Association
  | .associateParticipant fspId party =>
    associations.set party.remoteKey (party.record (.str fspId))
  | .disassociateParticipant _ party => associations.delete party.remoteKey
  | .getParticipantFspId _ => associations

/-- The call passes its check and has something to change: an association finds
no record under its key, a removal finds one of its participant. -/
def Changes (associations : OrderedMap String Association) : RemoteStep → Prop
  | .associateParticipant _ party => associations.get party.remoteKey = none
  | .disassociateParticipant fspId party =>
    ∃ association, associations.get party.remoteKey = some association ∧
      association.fspId = .str fspId
  | .getParticipantFspId _ => False

/-- The call fails without a trace, or returns with its work done on the map and on
the file. -/
def AllOrNothing (oracle : RemoteOracle) (w : RemoteOracleWorld) (s : RemoteStep) : Prop :=
  match oracle.perform s w with
  | (.ok _, after) => after.associations = newContent w.associations s ∧ after.MemoryMatchesFile
  | (.error _, after) => after.associations = w.associations ∧ after.file = w.file

/-- The map can be recovered from its records: each is filed under its own key and
names its optional properties, if only as `null`. -/
structure WellFiled (associations : OrderedMap String Association) : Prop where
  keyed : associations.Keyed createKey
  normalised : ∀ association ∈ associations.values, association.normalised = association

theorem loadRecords_eq_collect (records : List Association) :
    loadRecords records = OrderedMap.collect createKey (records.map Association.normalised) := by
  rw [OrderedMap.collect, List.foldl_map]
  rfl

theorem normalised_normalised (record : Association) :
    record.normalised.normalised = record.normalised := by
  simp only [Association.normalised, JsString.orNull_orNull]

theorem wellFiled_loadRecords (records : List Association) : WellFiled (loadRecords records) := by
  rw [loadRecords_eq_collect]
  refine ⟨OrderedMap.keyed_collect _, OrderedMap.forall_mem_values_collect _ fun v hv => ?_⟩
  obtain ⟨record, -, rfl⟩ := List.mem_map.mp hv
  exact normalised_normalised record

theorem wellFiled_empty : WellFiled OrderedMap.empty :=
  ⟨OrderedMap.keyed_empty, fun _ h => (by cases h)⟩

/-- Whatever a file stands for can be written to a file again. -/
theorem wellFiled_of_associations? {file : OracleFile}
    {associations : OrderedMap String Association} (h : file.associations? = some associations) :
    WellFiled associations := by
  cases file with
  | absent | empty =>
    obtain rfl := Option.some.inj h
    exact wellFiled_empty
  | unreadable => cases h
  | document content =>
    cases content with
    | none =>
      obtain rfl := Option.some.inj h
      exact wellFiled_empty
    | some records =>
      obtain rfl := Option.some.inj h
      exact wellFiled_loadRecords records

/-- **Loading undoes saving.** -/
theorem WellFiled.loadRecords_values {associations : OrderedMap String Association}
    (h : WellFiled associations) : loadRecords associations.values = associations := by
  rw [loadRecords_eq_collect, List.map_congr_left h.normalised, List.map_id']
  exact OrderedMap.collect_values h.keyed

theorem WellFiled.memoryMatchesFile_saved {associations : OrderedMap String Association}
    (h : WellFiled associations) (w : RemoteOracleWorld) :
    (w.saved associations).MemoryMatchesFile :=
  congrArg some h.loadRecords_values

theorem normalised_record (party : Party) (fspId : JsString) :
    (party.record fspId).normalised = party.record fspId := by
  simp only [Association.normalised, Party.record]
  cases party.partySubType <;> cases party.currency <;> rfl

theorem WellFiled.newContent {associations : OrderedMap String Association}
    (h : WellFiled associations) {s : RemoteStep} (hs : Changes associations s) :
    WellFiled (newContent associations s) := by
  cases s with
  | associateParticipant fspId party =>
    refine ⟨OrderedMap.Keyed.set (v := party.record (.str fspId)) h.keyed hs,
      fun association hmem => ?_⟩
    rw [RemoteOracle.newContent, OrderedMap.values, OrderedMap.entries_set_of_get_eq_none hs,
      List.map_append, List.mem_append] at hmem
    rcases hmem with hold | hnew
    · exact h.normalised association hold
    · rw [List.mem_singleton.mp hnew]
      exact normalised_record party _
  | disassociateParticipant fspId party =>
    refine ⟨h.keyed.delete _, fun association hmem => h.normalised association ?_⟩
    exact (List.Sublist.map Prod.snd List.filter_sublist).subset hmem
  | getParticipantFspId party => exact h

variable {oracle : RemoteOracle} {w : RemoteOracleWorld} {s : RemoteStep}

/-- A call that has nothing to change leaves the world alone; if it returns at all,
it has nothing to do. -/
theorem perform_eq_of_not_changes (oracle : RemoteOracle) (h : ¬ Changes w.associations s) :
    ∃ outcome, oracle.perform s w = (outcome, w) ∧
      ∀ value, outcome = .ok value → newContent w.associations s = w.associations := by
  cases s with
  | associateParticipant fspId party =>
    obtain ⟨association, hget⟩ := Option.ne_none_iff_exists'.mp h
    obtain ⟨error, herror⟩ := associate_eq_of_some oracle fspId hget
    exact ⟨.error error, by simp only [perform, herror]; rfl, fun _ h => (by cases h)⟩
  | disassociateParticipant fspId party =>
    obtain ⟨error, herror⟩ := disassociate_eq_of_not oracle
      fun association hget hfsp => h ⟨association, hget, hfsp⟩
    exact ⟨.error error, by simp only [perform, herror]; rfl, fun _ h => (by cases h)⟩
  | getParticipantFspId party => exact ⟨_, lookup_eq w party, fun _ _ => rfl⟩

/-- A call that passes its check puts the new content into the map, then writes it. -/
theorem perform_eq_of_changes (h : Changes w.associations s) :
    oracle.perform s w =
      let outcome := oracle.saveToFile { w with associations := newContent w.associations s }
      (outcome.1.map fun _ => .null, outcome.2) := by
  cases s with
  | associateParticipant fspId party =>
    simp only [perform, associate_eq_of_none h]
    rfl
  | disassociateParticipant fspId party =>
    obtain ⟨association, hget, hfsp⟩ := h
    simp only [perform, disassociate_eq_of_some hget hfsp]
    rfl
  | getParticipantFspId party => cases h

theorem perform_eq_of_written (h : Changes w.associations s) (hwrite : w.writeFails = false) :
    oracle.perform s w = (.ok .null, w.saved (newContent w.associations s)) := by
  rw [perform_eq_of_changes h, saveToFile_with hwrite]
  rfl

theorem perform_eq_of_not_written (oracle : RemoteOracle) (h : Changes w.associations s)
    (hwrite : w.writeFails = true) :
    ∃ error, oracle.perform s w =
      (.error error, { w with associations := newContent w.associations s }) := by
  exact ⟨_, by
    simp only [perform_eq_of_changes h, saveToFile, if_pos hwrite]
    rfl⟩

theorem newContent_ne_self (h : Changes w.associations s) :
    newContent w.associations s ≠ w.associations := by
  cases s with
  | associateParticipant fspId party =>
    apply OrderedMap.set_ne_self
    rw [show w.associations.get party.remoteKey = none from h]
    exact fun hsome => (by cases hsome)
  | disassociateParticipant fspId party =>
    obtain ⟨association, hget, -⟩ := h
    apply OrderedMap.delete_ne_self
    rw [hget]
    exact fun hnone => (by cases hnone)
  | getParticipantFspId party => cases h

/-- **A call is all or nothing exactly when no failing write follows a change.** -/
theorem allOrNothing_iff (oracle : RemoteOracle) (w : RemoteOracleWorld) (s : RemoteStep)
    (hmatch : w.MemoryMatchesFile) :
    oracle.AllOrNothing w s ↔ ¬ (Changes w.associations s ∧ w.writeFails = true) := by
  by_cases hs : Changes w.associations s
  · cases hwrite : w.writeFails with
    | false =>
      rw [AllOrNothing, perform_eq_of_written hs hwrite]
      have hfiled := (wellFiled_of_associations? hmatch).newContent hs
      exact iff_of_true ⟨rfl, hfiled.memoryMatchesFile_saved w⟩ fun h => (by cases h.2)
    | true =>
      obtain ⟨error, herror⟩ := perform_eq_of_not_written oracle hs hwrite
      rw [AllOrNothing, herror]
      exact iff_of_false (fun h => newContent_ne_self hs h.1) fun h => h ⟨hs, rfl⟩
  · obtain ⟨outcome, houtcome, hdone⟩ := perform_eq_of_not_changes oracle hs
    rw [AllOrNothing, houtcome]
    refine iff_of_true ?_ fun h => hs h.1
    cases outcome with
    | error error => exact ⟨rfl, rfl⟩
    | ok value => exact ⟨(hdone value rfl).symm, hmatch⟩

/-- An oracle without associations whose file cannot be written. -/
def unwritable : RemoteOracleWorld := { RemoteOracleWorld.fresh with writeFails := true }

/-- A rejected association is in the map all the same. -/
theorem not_forall_allOrNothing :
    ¬ ∀ (oracle : RemoteOracle) (w : RemoteOracleWorld) (s : RemoteStep),
      w.MemoryMatchesFile → oracle.AllOrNothing w s := by
  intro h
  obtain ⟨hmap, -⟩ := h ⟨"associations.json"⟩ unwritable
    (.associateParticipant "greenbank" ⟨"MSISDN", "27713803912", none, none⟩) rfl
  exact absurd (congrArg (fun m => m.entries.length) hmap) (by decide)

/-- With a file that can be written, an association is recorded in both places. -/
theorem allOrNothing_writable :
    (⟨"associations.json"⟩ : RemoteOracle).AllOrNothing RemoteOracleWorld.fresh
      (.associateParticipant "greenbank" ⟨"MSISDN", "27713803912", none, none⟩) :=
  (allOrNothing_iff ⟨"associations.json"⟩ RemoteOracleWorld.fresh _ rfl).mpr
    fun h => (by cases h.2)

/-- Starting on a file reads the map that the file stands for. -/
theorem init_onFile {file : OracleFile} {associations : OrderedMap String Association}
    (h : file.associations? = some associations) :
    oracle.init (.onFile file) = (.ok (), { RemoteOracleWorld.onFile file with
      associations := associations }) := by
  cases file with
  | absent | empty =>
    obtain rfl := Option.some.inj h
    rfl
  | unreadable => cases h
  | document content =>
    cases content with
    | none | some records =>
      obtain rfl := Option.some.inj h
      rfl

/-- A call whose write succeeds keeps the map and the file in step. -/
theorem memoryMatchesFile_performed (hmatch : w.MemoryMatchesFile)
    (hwrite : w.writeFails = false) (s : RemoteStep) :
    (oracle.performed w s).MemoryMatchesFile ∧ (oracle.performed w s).writeFails = false := by
  by_cases hs : Changes w.associations s
  · rw [performed, perform_eq_of_written hs hwrite]
    exact ⟨((wellFiled_of_associations? hmatch).newContent hs).memoryMatchesFile_saved w, hwrite⟩
  · obtain ⟨outcome, houtcome, -⟩ := perform_eq_of_not_changes oracle hs
    rw [performed, houtcome]
    exact ⟨hmatch, hwrite⟩

/-- The oracle started on a file, after the calls in order. -/
def reached (oracle : RemoteOracle) (file : OracleFile) (steps : List RemoteStep) :
    RemoteOracleWorld := run oracle.performed (oracle.init (.onFile file)).2 steps

/-- The map and the file stay in step from the start. -/
theorem memoryMatchesFile_reached (oracle : RemoteOracle) {file : OracleFile}
    (hfile : file ≠ .unreadable) (steps : List RemoteStep) :
    (oracle.reached file steps).MemoryMatchesFile ∧
      (oracle.reached file steps).writeFails = false := by
  refine run_invariant oracle.performed (fun w => w.MemoryMatchesFile ∧ w.writeFails = false)
    (fun w s h => memoryMatchesFile_performed h.1 h.2 s) steps _ ?_
  obtain ⟨associations, hload⟩ : ∃ associations, file.associations? = some associations := by
    cases file with
    | absent | empty => exact ⟨_, rfl⟩
    | unreadable => exact absurd rfl hfile
    | document content => cases content <;> exact ⟨_, rfl⟩
  rw [init_onFile hload]
  exact ⟨hload, rfl⟩

/-- **A restart changes nothing.** After any calls since it was started on a
readable file, the oracle started anew on its current file is in the state it was
in, so every further call goes as it would have gone. -/
theorem init_onFile_reached (oracle : RemoteOracle) (file : OracleFile)
    (hfile : file ≠ .unreadable) (steps : List RemoteStep) :
    oracle.init (.onFile (oracle.reached file steps).file) =
      (.ok (), oracle.reached file steps) := by
  obtain ⟨hmatch, hwrite⟩ := memoryMatchesFile_reached oracle hfile steps
  rw [init_onFile hmatch, RemoteOracleWorld.onFile, ← hwrite]

/-- A file with two records of one key. -/
def duplicateFile : OracleFile :=
  .document (some
    [⟨.str "greenbank", .str "MSISDN", .str "27713803912", .undefined, .null⟩,
      ⟨.str "bluebank", .str "MSISDN", .str "27713803912", .null, .undefined⟩])

/-- The first record is loaded, removed and replaced by another with a sub type. -/
theorem init_onFile_reached_duplicateFile :
    (⟨"associations.json"⟩ : RemoteOracle).init (.onFile
      ((⟨"associations.json"⟩ : RemoteOracle).reached duplicateFile
        [.disassociateParticipant "greenbank" ⟨"MSISDN", "27713803912", none, none⟩,
          .associateParticipant "bluebank"
            ⟨"MSISDN", "27713803912", some "PERSONAL", none⟩]).file) =
      (.ok (), (⟨"associations.json"⟩ : RemoteOracle).reached duplicateFile
        [.disassociateParticipant "greenbank" ⟨"MSISDN", "27713803912", none, none⟩,
          .associateParticipant "bluebank"
            ⟨"MSISDN", "27713803912", some "PERSONAL", none⟩]) :=
  init_onFile_reached _ _ (fun h => (by cases h)) _

end RemoteOracle

end AccountLookup

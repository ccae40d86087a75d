/-
# Overlapping writes of the remote oracle

A call that changes the map hands the whole map to a write of its own and waits
for it, while other calls go on changing the map and starting writes. The file
ends up with the records of the write that takes effect last. Whenever no write
is outstanding, the file holds the map exactly if that write started when the map
already was what it has become.
-/

import AccountLookup.HttpOracleSvc.Persistence
import AccountLookup.Library.Interleaving

namespace AccountLookup

open Library Library.Transition

/-- A call on the remote oracle, at one of its waits. -/
inductive RemoteTask
  | called (s : RemoteStep)
  /-- A write of these records is to take effect. -/
  | writing (records : List Association)
  /-- The write has taken effect, and the call is to resume. -/
  | written
  | returned (outcome : Except JsError JsString)

namespace RemoteOracle

/-- The records of the map are handed to `writeFile`. -/
def beginSave (w : RemoteOracleWorld) : RemoteTask × RemoteOracleWorld :=
  (.writing w.associations.values, w)

variable (oracle : RemoteOracle)

/-- A call up to its first wait: everything but the write. -/
def start (s : RemoteStep) (w : RemoteOracleWorld) : RemoteTask × RemoteOracleWorld :=
  let rejected := (.returned (oracle.perform s w).1, w)
  match s with
  | .associateParticipant fspId party =>
    match w.associations.get party.remoteKey with
    | some _ => rejected
    | none =>
      beginSave { w with
        associations := w.associations.set party.remoteKey (party.record (.str fspId)) }
  | .disassociateParticipant fspId party =>
    match w.associations.get party.remoteKey with
    | some association =>
      if association.fspId = .str fspId then
        beginSave { w with associations := w.associations.delete party.remoteKey }
      else rejected
    | none => rejected
  | .getParticipantFspId party => (.returned (lookup party w).1, w)

/-- The next turn of a call. -/
def advance : RemoteTask → RemoteOracleWorld → RemoteTask × RemoteOracleWorld
  | .called s, w => oracle.start s w
  | .writing records, w =>
    if w.writeFails then
      (.returned (.error
        ⟨.error, s!"Failed to save associations to file \"{oracle.filePath}\""⟩), w)
    else (.written, { w with file := .document (some records) })
  | .written, w => (.returned (.ok .null), w)
  | .returned outcome, w => (.returned outcome, w)

/-- The pool after the task at the index has taken its turn. -/
def turn (pool : Pool RemoteTask RemoteOracleWorld) (i : ℕ) : Pool RemoteTask RemoteOracleWorld :=
  pool.step oracle.advance i

/-- Calls that have been issued and not begun. -/
def issued (w : RemoteOracleWorld) (calls : List RemoteStep) :
    Pool RemoteTask RemoteOracleWorld := ⟨calls.map .called, w⟩

variable {oracle} {w : RemoteOracleWorld} {s : RemoteStep}

theorem start_eq_of_changes (h : Changes w.associations s) :
    oracle.start s w =
      (.writing (newContent w.associations s).values,
        { w with associations := newContent w.associations s }) := by
  cases s with
  | associateParticipant fspId party =>
    simp only [start, show w.associations.get party.remoteKey = none from h]
    rfl
  | disassociateParticipant fspId party =>
    obtain ⟨association, hget, hfsp⟩ := h
    simp only [start, hget, if_pos hfsp]
    rfl
  | getParticipantFspId party => cases h

theorem start_eq_of_not_changes (h : ¬ Changes w.associations s) :
    oracle.start s w = (.returned (oracle.perform s w).1, w) := by
  cases s with
  | associateParticipant fspId party =>
    obtain ⟨association, hget⟩ := Option.ne_none_iff_exists'.mp h
    simp only [start, hget]
  | disassociateParticipant fspId party =>
    cases hget : w.associations.get party.remoteKey with
    | none => simp only [start, hget]
    | some association =>
      have hfsp : ¬ association.fspId = .str fspId := fun hfsp => h ⟨association, hget, hfsp⟩
      simp only [start, hget, if_neg hfsp]
  | getParticipantFspId party => rfl

/-- **A call that is not interrupted is the call of the sequential oracle.** -/
theorem alone_called (oracle : RemoteOracle) (s : RemoteStep) (w : RemoteOracleWorld) :
    Pool.alone oracle.advance 3 (.called s) w =
      (.returned (oracle.perform s w).1, (oracle.perform s w).2) := by
  by_cases hs : Changes w.associations s
  · have hstart : oracle.start s w = _ := start_eq_of_changes hs
    simp only [Pool.alone_succ, advance, hstart, perform_eq_of_changes hs, saveToFile]
    cases w.writeFails <;> rfl
  · obtain ⟨outcome, houtcome, -⟩ := perform_eq_of_not_changes oracle hs
    have hstart : oracle.start s w = _ := start_eq_of_not_changes hs
    simp only [Pool.alone_succ, advance, hstart, houtcome]
    rfl

/-- None of the tasks is waiting for its write. -/
def NoneWriting (tasks : List RemoteTask) : Prop :=
  ∀ records, RemoteTask.writing records ∉ tasks

/-- While no write is outstanding, the file holds the map. -/
def DurableAtRest (pool : Pool RemoteTask RemoteOracleWorld) : Prop :=
  NoneWriting pool.tasks → pool.world.MemoryMatchesFile

/-- Every call has returned, and none has thrown. -/
def AllAcknowledged (pool : Pool RemoteTask RemoteOracleWorld) : Prop :=
  ∀ task ∈ pool.tasks, ∃ value, task = .returned (.ok value)

/-- If the turn lets the last outstanding write take effect, the map still has the
records that this write took from it. -/
def LastWriteIsCurrent (pool : Pool RemoteTask RemoteOracleWorld) (i : ℕ) : Prop :=
  ∀ records, pool.tasks[i]? = some (.writing records) → NoneWriting (pool.tasks.eraseIdx i) →
    records = pool.world.associations.values

/-- No call begins while a write is outstanding. -/
def Queued (pool : Pool RemoteTask RemoteOracleWorld) (i : ℕ) : Prop :=
  ∀ s, pool.tasks[i]? = some (.called s) → NoneWriting pool.tasks

theorem noneWriting_append {first second : List RemoteTask} :
    NoneWriting (first ++ second) ↔ NoneWriting first ∧ NoneWriting second := by
  simp only [NoneWriting, List.mem_append, not_or, forall_and]

theorem noneWriting_insert_iff {before after : List RemoteTask} {task : RemoteTask}
    (h : ∀ records, task ≠ .writing records) :
    NoneWriting (before ++ task :: after) ↔ NoneWriting (before ++ after) := by
  have htask : NoneWriting [task] := fun records hmem =>
    h records (List.mem_singleton.mp hmem).symm
  rw [← List.singleton_append, noneWriting_append, noneWriting_append, noneWriting_append,
    and_iff_right htask]

theorem not_noneWriting {before after : List RemoteTask} {records : List Association} :
    ¬ NoneWriting (before ++ .writing records :: after) := fun h => h records (by simp)

/-- What holds between turns: writes succeed, the map and every outstanding write
can be loaded, and the file holds the map when no write is outstanding. -/
structure Consistent (pool : Pool RemoteTask RemoteOracleWorld) : Prop where
  writable : pool.world.writeFails = false
  wellFiled : WellFiled pool.world.associations
  outstanding : ∀ records, RemoteTask.writing records ∈ pool.tasks →
    ∃ associations, WellFiled associations ∧ records = associations.values
  atRest : DurableAtRest pool

variable {pool : Pool RemoteTask RemoteOracleWorld} {i : ℕ}

/-- What a turn can do to a pool whose writes succeed. -/
inductive Turned (pool : Pool RemoteTask RemoteOracleWorld) (i : ℕ) :
    Pool RemoteTask RemoteOracleWorld → Prop
  /-- The turn touches neither the map nor the file. -/
  | quiet (pool' : Pool RemoteTask RemoteOracleWorld)
      (htask : ∀ records, pool.tasks[i]? ≠ some (.writing records))
      (hworld : pool'.world = pool.world)
      (hwriting : ∀ records, RemoteTask.writing records ∈ pool'.tasks ↔
        RemoteTask.writing records ∈ pool.tasks) : Turned pool i pool'
  /-- A call changes the map and starts to write it. -/
  | begun (s : RemoteStep) (before after : List RemoteTask)
      (htask : pool.tasks[i]? = some (.called s)) (hs : Changes pool.world.associations s)
      (htasks : pool.tasks = before ++ .called s :: after) :
      Turned pool i
        ⟨before ++ .writing (newContent pool.world.associations s).values :: after,
          { pool.world with associations := newContent pool.world.associations s }⟩
  /-- A write takes effect. -/
  | landed (records : List Association) (before after : List RemoteTask)
      (htask : pool.tasks[i]? = some (.writing records))
      (htasks : pool.tasks = before ++ .writing records :: after)
      (hothers : pool.tasks.eraseIdx i = before ++ after) :
      Turned pool i
        ⟨before ++ .written :: after, { pool.world with file := .document (some records) }⟩

theorem turned_turn (oracle : RemoteOracle) (hwrite : pool.world.writeFails = false) (i : ℕ) :
    Turned pool i (oracle.turn pool i) := by
  cases htask : pool.tasks[i]? with
  | none =>
    rw [turn, Pool.step_of_none oracle.advance htask]
    exact .quiet pool (fun _ h => (by cases htask.symm.trans h)) rfl fun _ => Iff.rfl
  | some task =>
    obtain ⟨before, after, htasks, hothers, hstep⟩ := Pool.step_of_some oracle.advance htask
    rw [turn, hstep]
    have hquiet : ∀ outcome, (∀ records, task ≠ .writing records) →
        Turned pool i ⟨before ++ .returned outcome :: after, pool.world⟩ := by
      intro outcome hnot
      refine .quiet _ (fun records h => hnot records ?_) rfl fun records => ?_
      · exact Option.some.inj (htask.symm.trans h)
      · simp [htasks, (hnot records).symm]
    cases task with
    | called s =>
      by_cases hs : Changes pool.world.associations s
      · rw [advance, start_eq_of_changes hs]
        exact .begun s before after htask hs htasks
      · rw [advance, start_eq_of_not_changes hs]
        exact hquiet _ fun _ h => (by cases h)
    | writing records =>
      rw [advance, if_neg (by rw [hwrite]; exact Bool.false_ne_true)]
      exact .landed records before after htask htasks hothers
    | written => exact hquiet _ fun _ h => (by cases h)
    | returned outcome => exact hquiet _ fun _ h => (by cases h)

variable {pool' : Pool RemoteTask RemoteOracleWorld}

theorem noneWriting_iff
    (h : ∀ records, RemoteTask.writing records ∈ pool'.tasks ↔
      RemoteTask.writing records ∈ pool.tasks) :
    NoneWriting pool'.tasks ↔ NoneWriting pool.tasks :=
  forall_congr' fun records => not_congr (h records)

/-- The records of a loadable map load to another loadable map only if they are its
records. -/
theorem loadRecords_eq_iff {records : List Association}
    {associations : OrderedMap String Association} (h : WellFiled associations)
    (hrecords : ∃ taken, WellFiled taken ∧ records = taken.values) :
    loadRecords records = associations ↔ records = associations.values := by
  constructor
  · obtain ⟨taken, htaken, rfl⟩ := hrecords
    rw [htaken.loadRecords_values]
    rintro rfl
    rfl
  · rintro rfl
    exact h.loadRecords_values

/-- A turn leaves the file up to date exactly when it meets the condition. -/
theorem Turned.atRest_iff (hturned : Turned pool i pool') (h : Consistent pool) :
    DurableAtRest pool' ↔ LastWriteIsCurrent pool i := by
  cases hturned with
  | quiet _ htask hworld hwriting =>
    refine iff_of_true ?_ fun records hrecords => absurd hrecords (htask records)
    rw [DurableAtRest, noneWriting_iff hwriting, hworld]
    exact h.atRest
  | begun s before after htask =>
    refine iff_of_true (fun hnone => absurd hnone not_noneWriting) fun records hrecords => ?_
    cases htask.symm.trans hrecords
  | landed records before after htask htasks hothers =>
    have hload := loadRecords_eq_iff h.wellFiled (h.outstanding records (htasks ▸ by simp))
    have hnone : NoneWriting (before ++ .written :: after) ↔ NoneWriting (before ++ after) :=
      noneWriting_insert_iff fun _ h => (by cases h)
    rw [DurableAtRest, hnone]
    constructor
    · intro hdurable records' hrecords' hquiet
      obtain rfl : records = records' := by
        simpa using htask.symm.trans hrecords'
      exact hload.mp (Option.some.inj (hdurable (hothers ▸ hquiet)))
    · intro hcurrent hquiet
      exact congrArg some (hload.mpr (hcurrent records htask (hothers.symm ▸ hquiet)))

theorem Turned.consistent (hturned : Turned pool i pool') (h : Consistent pool)
    (hcurrent : LastWriteIsCurrent pool i) : Consistent pool' := by
  have hrest := (hturned.atRest_iff h).mpr hcurrent
  cases hturned with
  | quiet _ _ hworld hwriting =>
    refine ⟨hworld ▸ h.writable, hworld ▸ h.wellFiled, fun records hmem => ?_, hrest⟩
    exact h.outstanding records ((hwriting records).mp hmem)
  | begun s before after _ hs htasks =>
    refine ⟨h.writable, h.wellFiled.newContent hs, fun records hmem => ?_, hrest⟩
    rcases Pool.eq_or_mem_of_mem_turned htasks hmem with hnew | hold
    · exact ⟨_, h.wellFiled.newContent hs, RemoteTask.writing.inj hnew⟩
    · exact h.outstanding records hold
  | landed _ before after _ htasks =>
    refine ⟨h.writable, h.wellFiled, fun records hmem => h.outstanding records ?_, hrest⟩
    rcases Pool.eq_or_mem_of_mem_turned htasks hmem with hnew | hold
    · cases hnew
    · exact hold

theorem noneWriting_issued (w : RemoteOracleWorld) (calls : List RemoteStep) :
    NoneWriting (issued w calls).tasks := by
  intro records hmem
  obtain ⟨s, -, hs⟩ := List.mem_map.mp hmem
  cases hs

theorem consistent_issued (hmatch : w.MemoryMatchesFile) (hwrite : w.writeFails = false)
    (calls : List RemoteStep) : Consistent (issued w calls) :=
  ⟨hwrite, wellFiled_of_associations? hmatch,
    fun records hmem => absurd hmem (noneWriting_issued w calls records), fun _ => hmatch⟩

/-- **The file is up to date at rest exactly when every last write is current.** Once
all calls have returned, no write is outstanding, and the file holds the map. -/
theorem durableAtRest_iff (oracle : RemoteOracle) (w : RemoteOracleWorld)
    (hmatch : w.MemoryMatchesFile) (hwrite : w.writeFails = false) (calls : List RemoteStep)
    (turns : List ℕ) :
    (∀ before, before <+: turns → DurableAtRest (run oracle.turn (issued w calls) before)) ↔
      Along oracle.turn LastWriteIsCurrent (issued w calls) turns := by
  have hstart := consistent_issued hmatch hwrite calls
  rw [forall_prefix_iff_along, and_iff_right hstart.atRest]
  exact along_iff_of_exact Consistent
    (fun _ i h => (turned_turn oracle h.writable i).atRest_iff h)
    (fun _ i h => (turned_turn oracle h.writable i).consistent h) turns _ hstart

/-! ## Queued calls -/

/-- The outstanding writes all write what the map holds. -/
def OnlyCurrent (pool : Pool RemoteTask RemoteOracleWorld) : Prop :=
  ∀ records, RemoteTask.writing records ∈ pool.tasks → records = pool.world.associations.values

theorem OnlyCurrent.lastWriteIsCurrent (h : OnlyCurrent pool) (i : ℕ) :
    LastWriteIsCurrent pool i :=
  fun records htask _ => h records (List.mem_of_getElem? htask)

theorem Turned.onlyCurrent (hturned : Turned pool i pool') (hcurrent : OnlyCurrent pool)
    (hqueued : Queued pool i) : OnlyCurrent pool' := by
  intro records
  cases hturned with
  | quiet _ _ hworld hwriting =>
    intro hmem
    rw [hworld]
    exact hcurrent records ((hwriting records).mp hmem)
  | begun s before after htask _ htasks =>
    intro hmem
    have hnone := hqueued s htask records
    rw [htasks] at hnone
    rcases List.mem_append.mp hmem with hbefore | hmem
    · exact absurd (List.mem_append_left _ hbefore) hnone
    · rcases List.mem_cons.mp hmem with hnew | hafter
      · exact RemoteTask.writing.inj hnew
      · exact absurd (List.mem_append_right _ (List.mem_cons_of_mem _ hafter)) hnone
  | landed _ before after _ htasks =>
    intro hmem
    apply hcurrent records
    rcases Pool.eq_or_mem_of_mem_turned htasks hmem with hnew | hold
    · cases hnew
    · exact hold

theorem AllAcknowledged.noneWriting (h : AllAcknowledged pool) : NoneWriting pool.tasks := by
  intro records hmem
  obtain ⟨value, hvalue⟩ := h _ hmem
  cases hvalue

/-- With a queue in front of the oracle, nothing acknowledged is lost. -/
theorem memoryMatchesFile_of_queued (oracle : RemoteOracle) (w : RemoteOracleWorld)
    (hmatch : w.MemoryMatchesFile) (hwrite : w.writeFails = false) (calls : List RemoteStep)
    (turns : List ℕ) (hqueued : Along oracle.turn Queued (issued w calls) turns)
    (hdone : AllAcknowledged (run oracle.turn (issued w calls) turns)) :
    (run oracle.turn (issued w calls) turns).world.MemoryMatchesFile := by
  have hinvariant := run_invariant_along (fun pool => Consistent pool ∧ OnlyCurrent pool)
    (fun pool i h hstep =>
      have hturned := turned_turn oracle h.1.writable i
      ⟨hturned.consistent h.1 (h.2.lastWriteIsCurrent i), hturned.onlyCurrent h.2 hstep⟩)
    turns (issued w calls)
    ⟨consistent_issued hmatch hwrite calls,
      fun records hmem => absurd hmem (noneWriting_issued w calls records)⟩ hqueued
  exact hinvariant.1.atRest hdone.noneWriting

/-- Two associations of different parties. -/
def overlappingCalls : List RemoteStep :=
  [.associateParticipant "greenbank" ⟨"MSISDN", "27713803912", none, none⟩,
    .associateParticipant "bluebank" ⟨"MSISDN", "27713803913", none, none⟩]

/-- The first association is acknowledged, and its write takes effect last: the file
has no record of the second. -/
theorem not_forall_durable :
    ¬ ∀ (oracle : RemoteOracle) (w : RemoteOracleWorld) (calls : List RemoteStep)
      (turns : List ℕ), w.MemoryMatchesFile → w.writeFails = false →
        AllAcknowledged (run oracle.turn (issued w calls) turns) →
        (run oracle.turn (issued w calls) turns).world.MemoryMatchesFile := by
  intro h
  have hlost := h ⟨"associations.json"⟩ RemoteOracleWorld.fresh overlappingCalls
    [0, 1, 1, 0, 1, 0] rfl rfl (by
      rintro task htask
      have htasks : task ∈ [RemoteTask.returned (.ok .null), .returned (.ok .null)] := htask
      simp only [List.mem_cons, List.not_mem_nil, or_false, or_self] at htasks
      exact ⟨.null, htasks⟩)
  exact absurd (congrArg (Option.map fun m => m.entries.length) hlost) (by decide)

/-- Two overlapping associations whose writes take effect in the order of their starts: the
last write has all of the map. -/
theorem durableAtRest_overlapping :
    Along (⟨"associations.json"⟩ : RemoteOracle).turn LastWriteIsCurrent
        (issued RemoteOracleWorld.fresh overlappingCalls) [0, 1, 0, 1, 1, 0] ∧
      ∀ before, before <+: [0, 1, 0, 1, 1, 0] → DurableAtRest
        (run (⟨"associations.json"⟩ : RemoteOracle).turn
          (issued RemoteOracleWorld.fresh overlappingCalls) before) := by
  have hcurrent : Along (⟨"associations.json"⟩ : RemoteOracle).turn LastWriteIsCurrent
      (issued RemoteOracleWorld.fresh overlappingCalls) [0, 1, 0, 1, 1, 0] := by
    refine ⟨?_, ?_, ?_, ?_, ?_, ?_, trivial⟩
    · intro records htask
      cases htask
    · intro records htask
      cases htask
    · intro records _ hnone
      exact absurd (List.mem_singleton.mpr rfl) (hnone _)
    · rintro records ⟨⟩ -
      rfl
    · intro records htask
      cases htask
    · intro records htask
      cases htask
  exact ⟨hcurrent, (durableAtRest_iff ⟨"associations.json"⟩ RemoteOracleWorld.fresh rfl rfl
    overlappingCalls [0, 1, 0, 1, 1, 0]).mpr hcurrent⟩

end RemoteOracle

end AccountLookup

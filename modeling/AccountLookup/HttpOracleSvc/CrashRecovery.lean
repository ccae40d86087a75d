/-
# What a crash leaves of the remote oracle

The oracle's process may end at any moment, with writes outstanding and others failed.
What is left is the file, which holds what the last write that took effect took down. The
oracle that is started on it has the map of an earlier moment: what the calls made of the
map, in the order in which they began, up to a call whose write took effect. So a restart
never finds a mixture of calls, and never one call without those before it.
-/

import AccountLookup.HttpOracleSvc.Linearizability

namespace AccountLookup

open Library Library.Transition

namespace RemoteOracle

/-- The write of the task has taken effect. -/
def Landed (pool : Pool RemoteTask RemoteOracleWorld) (i : ℕ) : Prop :=
  pool.tasks[i]? = some .written ∨ pool.tasks[i]? = some (.returned (.ok .null))

variable {oracle : RemoteOracle} {file : OracleFile} {associations : OrderedMap String Association}
  {pool : Pool RemoteTask RemoteOracleWorld} {t : RemoteTurn} {i : ℕ}

/-- A write that has taken effect has done so for good. -/
theorem Landed.taken (h : Landed pool i) (t : RemoteTurn) : Landed (oracle.taken pool t) i := by
  unfold Landed at h ⊢
  rw [getElem?_taken]
  split
  · rcases h with hwritten | hreturned
    · rw [hwritten]
      exact Or.inr rfl
    · rw [hreturned]
      exact Or.inr rfl
  · exact h

/-- A turn leaves the file alone, or a write takes effect in it. -/
theorem file_taken (oracle : RemoteOracle) (pool : Pool RemoteTask RemoteOracleWorld)
    (t : RemoteTurn) :
    (oracle.taken pool t).world.file = pool.world.file ∨
      ∃ records, pool.tasks[t.task]? = some (.writing records) ∧
        (oracle.taken pool t).world.file = .document (some records) ∧
        Landed (oracle.taken pool t) t.task := by
  have htask := getElem?_taken oracle pool t t.task
  rw [if_pos rfl] at htask
  unfold Landed
  rw [htask]
  simp only [taken, turn, Pool.step]
  cases pool.tasks[t.task]? with
  | none => exact Or.inl rfl
  | some task =>
    cases task with
    | called s =>
      refine Or.inl ?_
      dsimp only [advance]
      by_cases hs : Changes pool.world.associations s
      · have hstart : oracle.start s { pool.world with writeFails := t.writeFails } = _ :=
          start_eq_of_changes hs
        rw [hstart]
      · have hstart : oracle.start s { pool.world with writeFails := t.writeFails } = _ :=
          start_eq_of_not_changes hs
        rw [hstart]
    | writing records =>
      cases hwrite : t.writeFails with
      | true => exact Or.inl (by simp only [advance, if_true])
      | false =>
        refine Or.inr ⟨records, rfl, ?_, Or.inl ?_⟩
        · simp only [advance, Bool.false_eq_true, if_false]
        · simp only [advance, Bool.false_eq_true, if_false, Option.map_some]
    | written => exact Or.inl rfl
    | returned outcome => exact Or.inl rfl

theorem wellFiled_sequential (h : WellFiled associations) (s : RemoteStep) :
    WellFiled (oracle.sequential associations s).2 := by
  by_cases hs : Changes associations s
  · rw [sequential_of_changes hs]
    exact h.newContent hs
  · rw [sequential_of_not_changes oracle hs ⟨associations, .absent, false⟩ rfl]
    exact h

theorem wellFiled_replay (h : WellFiled associations) (calls : List (ℕ × RemoteStep)) :
    WellFiled (oracle.replay associations calls) :=
  run_invariant oracle.replayed WellFiled (fun _ call hmap => wellFiled_sequential hmap call.2)
    calls associations h

/-- What the oracle starts with is what a readable file stands for. -/
theorem associations?_eq_initial (oracle : RemoteOracle) (hfile : file ≠ .unreadable) :
    file.associations? = some (oracle.initial file) := by
  cases file with
  | absent | empty => rfl
  | unreadable => exact absurd rfl hfile
  | document content => cases content <;> rfl

/-- The last of the calls has changed the map and written the file. -/
def LastWritten (oracle : RemoteOracle) (file : OracleFile)
    (pool : Pool RemoteTask RemoteOracleWorld) (kept : List (ℕ × RemoteStep)) : Prop :=
  kept = [] ∨ ∃ before i s, kept = before ++ [(i, s)] ∧
    Changes (oracle.replay (oracle.initial file) before) s ∧ Landed pool i

/-- The file stands for what the first calls of the order have made of the map. -/
theorem exists_kept (oracle : RemoteOracle) (hfile : file ≠ .unreadable)
    (calls : List RemoteStep) (turns : List RemoteTurn) :
    ∃ kept rest, oracle.order file calls turns = kept ++ rest ∧
      oracle.LastWritten file (oracle.served file calls turns) kept ∧
      (oracle.served file calls turns).world.file.associations? =
        some (oracle.replay (oracle.initial file) kept) := by
  induction turns using List.reverseRecOn with
  | nil =>
    have hload := associations?_eq_initial oracle hfile
    refine ⟨[], [], rfl, Or.inl rfl, ?_⟩
    have hstart : (oracle.served file calls []).world.file = file := by
      rw [served, init_onFile hload]
      rfl
    rw [hstart, hload]
    rfl
  | append_singleton turns t ih =>
    obtain ⟨kept, rest, horder, hlast, hloads⟩ := ih
    rw [served_concat, order_concat]
    rcases file_taken oracle (oracle.served file calls turns) t with
      hsame | ⟨records, htask, hwritten, hlanded⟩
    · refine ⟨kept, rest ++ _, by rw [horder, List.append_assoc], ?_, hsame ▸ hloads⟩
      rcases hlast with hnone | ⟨before, i, s, hkept, hchanges, hlanded⟩
      · exact Or.inl hnone
      · exact Or.inr ⟨before, i, s, hkept, hchanges, hlanded.taken t⟩
    · rcases task_served oracle file calls turns t.task _ htask with
        ⟨s, hs, -⟩ | ⟨before, s, after, hplace, hchanges, rfl⟩
      · cases hs
      · -- the write took down what its call had made of the map
        have hinitial := wellFiled_of_associations? (associations?_eq_initial oracle hfile)
        have hreplay : WellFiled (oracle.replay (oracle.initial file) before) :=
          wellFiled_replay hinitial before
        have hmap := hreplay.newContent hchanges
        have hkept : oracle.replay (oracle.initial file) (before ++ [(t.task, s)]) =
            newContent (oracle.replay (oracle.initial file) before) s := by
          rw [replay, run_append, run_cons, run_nil]
          exact congrArg Prod.snd (sequential_of_changes hchanges)
        refine ⟨before ++ [(t.task, s)],
          after ++ (beginning (oracle.served file calls turns) t).toList, ?_,
          Or.inr ⟨before, t.task, s, rfl, hchanges, hlanded⟩, ?_⟩
        · rw [hplace, List.append_assoc, List.append_assoc]
          rfl
        · rw [hwritten, hkept]
          exact congrArg some hmap.loadRecords_values

/-- **A crash leaves a beginning of the order.** Whatever the calls, the order of the turns
and the writes that fail, an oracle that is started anew on the file as it is then has exactly
what the calls before some point of the order have made of the map, and the last of these has
written the file. -/
theorem restart_recovers_order (oracle : RemoteOracle) {file : OracleFile}
    (hfile : file ≠ .unreadable) (calls : List RemoteStep) (turns : List RemoteTurn) :
    ∃ kept rest, oracle.order file calls turns = kept ++ rest ∧
      oracle.LastWritten file (oracle.served file calls turns) kept ∧
      oracle.init (.onFile (oracle.served file calls turns).world.file) =
        (.ok (), { RemoteOracleWorld.onFile (oracle.served file calls turns).world.file with
          associations := oracle.replay (oracle.initial file) kept }) := by
  obtain ⟨kept, rest, horder, hlast, hloads⟩ := exists_kept oracle hfile calls turns
  exact ⟨kept, rest, horder, hlast, init_onFile hloads⟩

/-- Two overlapping associations, of which the second has written the file and the first has
not. -/
def interruptedTurns : List RemoteTurn := [⟨0, false⟩, ⟨1, false⟩, ⟨1, false⟩]

theorem restart_recovers_interrupted :
    ∃ kept rest, (⟨"associations.json"⟩ : RemoteOracle).order .absent overlappingCalls
        interruptedTurns = kept ++ rest ∧
      (⟨"associations.json"⟩ : RemoteOracle).LastWritten .absent
        ((⟨"associations.json"⟩ : RemoteOracle).served .absent overlappingCalls interruptedTurns)
        kept ∧
      (⟨"associations.json"⟩ : RemoteOracle).init (.onFile
          ((⟨"associations.json"⟩ : RemoteOracle).served .absent overlappingCalls
            interruptedTurns).world.file) =
        (.ok (), { RemoteOracleWorld.onFile ((⟨"associations.json"⟩ : RemoteOracle).served .absent
            overlappingCalls interruptedTurns).world.file with
          associations := (⟨"associations.json"⟩ : RemoteOracle).replay
            ((⟨"associations.json"⟩ : RemoteOracle).initial .absent) kept }) :=
  restart_recovers_order ⟨"associations.json"⟩ (fun h => (by cases h)) overlappingCalls
    interruptedTurns

end RemoteOracle

end AccountLookup

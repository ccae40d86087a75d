/-
# The remote oracle is linearizable

Calls on the remote oracle overlap: each changes the map and then waits for a write
that may fail. There is still one order of the calls that explains all that is seen of
them. It is the order in which the calls begin: the map is what the calls make of it one
after the other, and every call returns what it returns in its place of that order,
or that its own write has failed. A call that has returned comes before every call that
begins later, and no call waits for another one.
-/

import AccountLookup.HttpOracleSvc.Ownership
import AccountLookup.Library.History

namespace AccountLookup

open Library Library.Transition

namespace RemoteOracle

variable (oracle : RemoteOracle)

/-- The call on an oracle with this map whose writes succeed. -/
def sequential (associations : OrderedMap String Association) (s : RemoteStep) :
    Except JsError JsString × OrderedMap String Association :=
  let outcome := oracle.perform s ⟨associations, .absent, false⟩
  (outcome.1, outcome.2.associations)

/-- The map after a call, given with the index of its task. -/
def replayed (associations : OrderedMap String Association) (call : ℕ × RemoteStep) :
    OrderedMap String Association := (oracle.sequential associations call.2).2

/-- The map after calls made one after the other. -/
def replay (associations : OrderedMap String Association) (calls : List (ℕ × RemoteStep)) :
    OrderedMap String Association := run oracle.replayed associations calls

/-- What a call returns whose write fails. -/
def notSaved : Except JsError JsString :=
  .error ⟨.error, s!"Failed to save associations to file \"{oracle.filePath}\""⟩

/-- The call that begins in the turn. -/
def beginning (pool : Pool RemoteTask RemoteOracleWorld) (t : RemoteTurn) :
    Option (ℕ × RemoteStep) :=
  match pool.tasks[t.task]? with
  | some (.called s) => some (t.task, s)
  | _ => none

/-- The calls in the order in which they begin. -/
def order (file : OracleFile) (calls : List RemoteStep) (turns : List RemoteTurn) :
    List (ℕ × RemoteStep) :=
  history oracle.taken beginning (issued (oracle.init (.onFile file)).2 calls) turns

/-- The map that the oracle starts with. -/
def initial (file : OracleFile) : OrderedMap String Association :=
  (oracle.init (.onFile file)).2.associations

/-- In one of the turns the task's write fails. -/
def WriteFailed (turns : List RemoteTurn) (i : ℕ) : Prop :=
  ∃ t ∈ turns, t.task = i ∧ t.writeFails = true

/-- The calls in this order explain what is seen of the oracle after the turns. -/
structure Explains (file : OracleFile) (calls : List RemoteStep) (turns : List RemoteTurn)
    (order : List (ℕ × RemoteStep)) : Prop where
  /-- The order is one of issued calls, each at most once. -/
  issued : ∀ call ∈ order, calls[call.1]? = some call.2
  once : (order.map Prod.fst).Nodup
  /-- The map is what the calls make of it. -/
  content : (oracle.served file calls turns).world.associations =
    oracle.replay (oracle.initial file) order
  /-- A call that has returned has its place in the order, and its outcome is the one of that
  place, unless its write has failed. -/
  returned : ∀ i outcome, (oracle.served file calls turns).tasks[i]? = some (.returned outcome) →
    ∃ before s after, order = before ++ (i, s) :: after ∧
      (outcome = (oracle.sequential (oracle.replay (oracle.initial file) before) s).1 ∨
        Changes (oracle.replay (oracle.initial file) before) s ∧ outcome = oracle.notSaved ∧
          WriteFailed turns i)

variable {oracle} {associations : OrderedMap String Association} {s : RemoteStep}
  {pool : Pool RemoteTask RemoteOracleWorld} {t : RemoteTurn} {i : ℕ}

theorem sequential_of_changes (h : Changes associations s) :
    oracle.sequential associations s = (.ok .null, newContent associations s) := by
  have hperform : oracle.perform s ⟨associations, .absent, false⟩ =
      (.ok .null, RemoteOracleWorld.saved ⟨associations, .absent, false⟩
        (newContent associations s)) := perform_eq_of_written h rfl
  rw [sequential, hperform]
  rfl

theorem sequential_of_not_changes (oracle : RemoteOracle) (h : ¬ Changes associations s)
    (w : RemoteOracleWorld) (hw : w.associations = associations) :
    oracle.sequential associations s = ((oracle.perform s w).1, associations) := by
  subst hw
  have hperform : oracle.perform s ⟨w.associations, .absent, false⟩ =
      ((oracle.perform s w).1, ⟨w.associations, .absent, false⟩) := by
    cases s with
    | associateParticipant fspId party =>
      obtain ⟨association, hget⟩ := Option.ne_none_iff_exists'.mp h
      simp only [perform, associate, associateParticipant, createKey_eq_remoteKey, hget]
    | disassociateParticipant fspId party =>
      simp only [perform, disassociate, disassociateParticipant, createKey_eq_remoteKey]
      cases hget : w.associations.get party.remoteKey with
      | none => rfl
      | some association =>
        have hfsp : ¬ association.fspId = .str fspId := fun hfsp => h ⟨association, hget, hfsp⟩
        simp only [if_neg hfsp]
    | getParticipantFspId party => simp only [perform, lookup_eq]
  rw [sequential, hperform]

theorem beginning_eq_some_iff {call : ℕ × RemoteStep} :
    beginning pool t = some call ↔ t.task = call.1 ∧ Begins pool t call.2 := by
  obtain ⟨i, s⟩ := call
  unfold beginning Begins
  split
  · next s' htask =>
    simp only [Option.some.injEq, Prod.mk.injEq, htask, RemoteTask.called.injEq]
  · next hnot =>
    exact iff_of_false (fun h => (by cases h)) fun h => hnot s h.2

/-- The task at an index moves in its own turns only. -/
theorem getElem?_taken (oracle : RemoteOracle) (pool : Pool RemoteTask RemoteOracleWorld)
    (t : RemoteTurn) (i : ℕ) :
    (oracle.taken pool t).tasks[i]? =
      if t.task = i then pool.tasks[i]?.map fun task =>
        (oracle.advance task { pool.world with writeFails := t.writeFails }).1
      else pool.tasks[i]? := Pool.getElem?_step oracle.advance _ t.task i

/-- What a call that begins leaves behind. -/
theorem taken_of_begins (oracle : RemoteOracle) (h : Begins pool t s) :
    oracle.taken pool t =
      let outcome := oracle.start s { pool.world with writeFails := t.writeFails }
      ⟨pool.tasks.set t.task outcome.1, outcome.2⟩ := by
  have htask : pool.tasks[t.task]? = some (.called s) := h
  simp only [taken, turn, Pool.step, htask, advance]

/-- A call that begins makes of the map what it makes of it alone. -/
theorem associations_of_begins (oracle : RemoteOracle) (h : Begins pool t s) :
    (oracle.taken pool t).world.associations =
      (oracle.sequential pool.world.associations s).2 := by
  rw [taken_of_begins oracle h]
  by_cases hs : Changes pool.world.associations s
  · have hstart : oracle.start s { pool.world with writeFails := t.writeFails } = _ :=
      start_eq_of_changes hs
    rw [sequential_of_changes hs, hstart]
  · have hstart : oracle.start s { pool.world with writeFails := t.writeFails } = _ :=
      start_eq_of_not_changes hs
    rw [sequential_of_not_changes oracle hs pool.world rfl, hstart]

theorem actsAtPoints (oracle : RemoteOracle) :
    ActsAtPoints oracle.taken beginning (fun pool => pool.world.associations)
      oracle.replayed := by
  intro pool t
  cases hbegins : beginning pool t with
  | none =>
    rcases associations_turn oracle
      { pool with world := { pool.world with writeFails := t.writeFails } } t.task with
      hsame | ⟨s, htask, -, -⟩
    · exact hsame
    · have hsome : beginning pool t = some (t.task, s) := beginning_eq_some_iff.mpr ⟨rfl, htask⟩
      cases hbegins.symm.trans hsome
  | some call =>
    exact associations_of_begins oracle (beginning_eq_some_iff.mp hbegins).2

variable (oracle) in
/-- What the task of a call can be that began on a map, and whose write may have failed. -/
def Progress (associations : OrderedMap String Association) (s : RemoteStep) (failed : Prop) :
    RemoteTask → Prop
  | .called _ => False
  | .writing records =>
    Changes associations s ∧ records = (newContent associations s).values
  | .written => Changes associations s
  | .returned outcome =>
    outcome = (oracle.sequential associations s).1 ∨
      Changes associations s ∧ outcome = oracle.notSaved ∧ failed

theorem Progress.mono {failed failed' : Prop} (h : failed → failed') {task : RemoteTask}
    (hprogress : oracle.Progress associations s failed task) :
    oracle.Progress associations s failed' task := by
  cases task with
  | called s' => exact hprogress
  | writing records => exact hprogress
  | written => exact hprogress
  | returned outcome => exact hprogress.imp_right fun ⟨hs, hnot, hfailed⟩ => ⟨hs, hnot, h hfailed⟩

/-- A call that begins makes progress on the map that it finds. -/
theorem progress_start (oracle : RemoteOracle) (s : RemoteStep) (w : RemoteOracleWorld)
    (failed : Prop) :
    oracle.Progress w.associations s failed (oracle.start s w).1 := by
  by_cases hs : Changes w.associations s
  · rw [start_eq_of_changes hs]
    exact ⟨hs, rfl⟩
  · rw [start_eq_of_not_changes hs]
    exact Or.inl (congrArg Prod.fst (sequential_of_not_changes oracle hs w rfl)).symm

theorem Progress.advance {failed : Prop} {task : RemoteTask}
    (h : oracle.Progress associations s failed task) (w : RemoteOracleWorld) :
    oracle.Progress associations s (failed ∨ w.writeFails = true) (oracle.advance task w).1 := by
  cases task with
  | called s' => cases h
  | writing records =>
    rw [RemoteOracle.advance]
    split
    · next hwrite => exact Or.inr ⟨h.1, rfl, Or.inr hwrite⟩
    · exact h.1
  | written => exact Or.inl (congrArg Prod.fst (sequential_of_changes h)).symm
  | returned outcome => exact h.mono Or.inl

/-! ## The order explains what is seen -/

variable {file : OracleFile} {calls : List RemoteStep} {turns : List RemoteTurn}

theorem served_concat (oracle : RemoteOracle) (file : OracleFile) (calls : List RemoteStep)
    (turns : List RemoteTurn) (t : RemoteTurn) :
    oracle.served file calls (turns ++ [t]) = oracle.taken (oracle.served file calls turns) t := by
  rw [served, run_append]
  rfl

theorem order_concat (oracle : RemoteOracle) (file : OracleFile) (calls : List RemoteStep)
    (turns : List RemoteTurn) (t : RemoteTurn) :
    oracle.order file calls (turns ++ [t]) =
      oracle.order file calls turns ++ (beginning (oracle.served file calls turns) t).toList := by
  rw [order, history_append, history_cons, history_nil, List.append_nil]
  rfl

/-- The map is what the calls make of it in their order. -/
theorem associations_served (oracle : RemoteOracle) (file : OracleFile)
    (calls : List RemoteStep) (turns : List RemoteTurn) :
    (oracle.served file calls turns).world.associations =
      oracle.replay (oracle.initial file) (oracle.order file calls turns) :=
  view_run_eq (actsAtPoints oracle) _ turns

/-- A task still is its call, or it has a place in the order and makes progress on the map of
that place. -/
theorem task_served (oracle : RemoteOracle) (file : OracleFile) (calls : List RemoteStep)
    (turns : List RemoteTurn) (i : ℕ) (task : RemoteTask)
    (h : (oracle.served file calls turns).tasks[i]? = some task) :
    (∃ s, task = .called s ∧ calls[i]? = some s) ∨
      ∃ before s after, oracle.order file calls turns = before ++ (i, s) :: after ∧
        oracle.Progress (oracle.replay (oracle.initial file) before) s (WriteFailed turns i)
          task := by
  induction turns using List.reverseRecOn generalizing task with
  | nil =>
    refine Or.inl ?_
    have htask : (calls.map RemoteTask.called)[i]? = some task := h
    rw [List.getElem?_map] at htask
    obtain ⟨s, hs, rfl⟩ := Option.map_eq_some_iff.mp htask
    exact ⟨s, rfl, hs⟩
  | append_singleton turns t ih =>
    have hfailed : WriteFailed turns i → WriteFailed (turns ++ [t]) i :=
      fun ⟨t', ht', hfails⟩ => ⟨t', List.mem_append_left _ ht', hfails⟩
    rw [served_concat, getElem?_taken] at h
    rw [order_concat]
    split at h
    · next hturn =>
      obtain ⟨task', htask', rfl⟩ := Option.map_eq_some_iff.mp h
      rcases ih task' htask' with ⟨s, rfl, -⟩ | ⟨before, s, after, horder, hprogress⟩
      · -- the call begins in this turn
        have hbegins : beginning (oracle.served file calls turns) t = some (i, s) :=
          beginning_eq_some_iff.mpr ⟨hturn, by rw [Begins, hturn]; exact htask'⟩
        refine Or.inr ⟨oracle.order file calls turns, s, [], by rw [hbegins]; rfl, ?_⟩
        rw [← associations_served oracle file calls turns]
        exact progress_start oracle s _ _
      · refine Or.inr ⟨before, s, after ++ _, by rw [horder, List.append_assoc]; rfl, ?_⟩
        refine (hprogress.advance _).mono fun hor => hor.elim hfailed fun hwrite => ?_
        exact ⟨t, List.mem_append_right _ (List.mem_singleton_self t), hturn, hwrite⟩
    · rcases ih task h with hcalled | ⟨before, s, after, horder, hprogress⟩
      · exact Or.inl hcalled
      · exact Or.inr ⟨before, s, after ++ _, by rw [horder, List.append_assoc]; rfl,
          hprogress.mono hfailed⟩

theorem begins_served {s : RemoteStep} (h : Begins (oracle.served file calls turns) t s) :
    calls[t.task]? = some s := by
  rcases task_served oracle file calls turns t.task _ h with
    ⟨s', hs', hissued⟩ | ⟨_, _, _, _, hcalled⟩
  · exact (RemoteTask.called.inj hs') ▸ hissued
  · exact absurd hcalled id

theorem issued_of_mem_order (oracle : RemoteOracle) (file : OracleFile)
    (calls : List RemoteStep) (turns : List RemoteTurn) {call : ℕ × RemoteStep}
    (h : call ∈ oracle.order file calls turns) : calls[call.1]? = some call.2 := by
  induction turns using List.reverseRecOn with
  | nil => cases h
  | append_singleton turns t ih =>
    rw [order_concat] at h
    rcases List.mem_append.mp h with hold | hnew
    · exact ih hold
    · obtain ⟨hturn, hbegins⟩ := beginning_eq_some_iff.mp (Option.mem_toList.mp hnew)
      exact hturn ▸ begins_served hbegins

/-- The turns that a task has still to take. -/
def RemoteTask.turnsLeft : RemoteTask → ℕ
  | .called _ => 3
  | .writing _ => 2
  | .written => 1
  | .returned _ => 0

theorem turnsLeft_advance (oracle : RemoteOracle) (task : RemoteTask) (w : RemoteOracleWorld) :
    RemoteTask.turnsLeft (oracle.advance task w).1 ≤ RemoteTask.turnsLeft task - 1 := by
  cases task with
  | called s =>
    rw [advance]
    by_cases hs : Changes w.associations s
    · rw [start_eq_of_changes hs]
      exact le_refl 2
    · rw [start_eq_of_not_changes hs]
      exact Nat.zero_le _
  | writing records =>
    rw [advance]
    split
    · exact Nat.zero_le _
    · exact le_refl 1
  | written => exact le_refl 0
  | returned outcome => exact le_refl 0

/-- A turn of the call at an index brings it nearer to its end, and no other turn touches it. -/
theorem turnsLeft_taken (oracle : RemoteOracle) {i : ℕ} (pool : Pool RemoteTask RemoteOracleWorld)
    (t : RemoteTurn) (task : RemoteTask) (htask : pool.tasks[i]? = some task) :
    ∃ task', (oracle.taken pool t).tasks[i]? = some task' ∧
      RemoteTask.turnsLeft task' ≤
        RemoteTask.turnsLeft task - if decide (t.task = i) = true then 1 else 0 := by
  rw [getElem?_taken, htask]
  by_cases hturn : t.task = i
  · rw [if_pos hturn, decide_eq_true hturn]
    exact ⟨_, rfl, turnsLeft_advance oracle task _⟩
  · rw [if_neg hturn, decide_eq_false hturn]
    exact ⟨task, rfl, le_refl _⟩

/-- A call has begun once it has a turn behind it. -/
theorem not_called_advance (oracle : RemoteOracle) (task : RemoteTask) (w : RemoteOracleWorld)
    (s : RemoteStep) : (oracle.advance task w).1 ≠ .called s := by
  intro h
  have hle := turnsLeft_advance oracle task w
  rw [h] at hle
  have hmax : RemoteTask.turnsLeft task ≤ 3 := by cases task <;> simp [RemoteTask.turnsLeft]
  have hcalled : RemoteTask.turnsLeft (.called s) = 3 := rfl
  omega

/-- The task at an index waits for its call to begin. -/
def IsCalled (pool : Pool RemoteTask RemoteOracleWorld) (i : ℕ) : Prop :=
  ∃ s, pool.tasks[i]? = some (.called s)

theorem nodup_order (oracle : RemoteOracle) (file : OracleFile) (calls : List RemoteStep)
    (turns : List RemoteTurn) : ((oracle.order file calls turns).map Prod.fst).Nodup := by
  have hpoint : ∀ pool t call, beginning pool t = some call →
      IsCalled pool call.1 ∧ ¬ IsCalled (oracle.taken pool t) call.1 := by
    intro pool t call hbegins
    obtain ⟨hturn, hcalled⟩ := beginning_eq_some_iff.mp hbegins
    refine ⟨⟨call.2, hturn ▸ hcalled⟩, ?_⟩
    rintro ⟨s, hs⟩
    rw [getElem?_taken, if_pos hturn] at hs
    obtain ⟨task, -, htask⟩ := Option.map_eq_some_iff.mp hs
    exact not_called_advance oracle task _ s htask
  have hstep : ∀ pool t i, IsCalled (oracle.taken pool t) i → IsCalled pool i := by
    rintro pool t i ⟨s, hs⟩
    rw [getElem?_taken] at hs
    split at hs
    · obtain ⟨task, -, htask⟩ := Option.map_eq_some_iff.mp hs
      exact absurd htask (not_called_advance oracle task _ s)
    · exact ⟨s, hs⟩
  exact nodup_history hpoint hstep _ turns

/-- A call that has taken three turns has returned. -/
theorem returned_of_turns (oracle : RemoteOracle) (file : OracleFile) (calls : List RemoteStep)
    (turns : List RemoteTurn) {i : ℕ} (hi : i < calls.length)
    (hturns : 3 ≤ turns.countP fun t => t.task = i) :
    ∃ outcome, (oracle.served file calls turns).tasks[i]? = some (.returned outcome) := by
  have hcalled : (calls.map RemoteTask.called)[i]? = some (.called calls[i]) := by
    rw [List.getElem?_map, List.getElem?_eq_getElem hi]
    rfl
  obtain ⟨task, htask, hleft⟩ : ∃ task, (oracle.served file calls turns).tasks[i]? = some task ∧
      RemoteTask.turnsLeft task ≤ RemoteTask.turnsLeft (.called calls[i]) - _ :=
    Pool.left_run (turnsLeft_taken oracle) turns hcalled
  have hzero : RemoteTask.turnsLeft task = 0 := by
    have hstart : RemoteTask.turnsLeft (.called calls[i]) = 3 := rfl
    omega
  cases task with
  | returned outcome => exact ⟨outcome, htask⟩
  | called | writing | written => cases hzero

/-- **The remote oracle is linearizable.** Whatever the file, the calls, the order of the
turns and the writes that fail, the order in which the calls begin explains what is seen: the
map is what the calls make of it one after the other, and every outcome is the one of the
call's place, unless the call's own write has failed. More turns only append to the order, and
a call that has taken three turns of its own has returned. -/
theorem linearizable (oracle : RemoteOracle) (file : OracleFile) (calls : List RemoteStep)
    (turns : List RemoteTurn) :
    oracle.Explains file calls turns (oracle.order file calls turns) ∧
      (∀ more, oracle.order file calls turns <+: oracle.order file calls (turns ++ more)) ∧
      ∀ i, i < calls.length → 3 ≤ turns.countP (fun t => t.task = i) →
        ∃ outcome, (oracle.served file calls turns).tasks[i]? = some (.returned outcome) := by
  refine ⟨⟨fun call hcall => issued_of_mem_order oracle file calls turns hcall,
    nodup_order oracle file calls turns, associations_served oracle file calls turns,
    fun i outcome hreturned => ?_⟩, fun more => ?_, fun i hi hturns => ?_⟩
  · rcases task_served oracle file calls turns i _ hreturned with
      ⟨s, hs, -⟩ | ⟨before, s, after, horder, hprogress⟩
    · cases hs
    · exact ⟨before, s, after, horder, hprogress⟩
  · exact history_isPrefix (List.prefix_append turns more)
  · exact returned_of_turns oracle file calls turns hi hturns

end RemoteOracle

end AccountLookup

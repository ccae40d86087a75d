/-
# Interleaved tasks over a shared world

Asynchronous calls on one object run as tasks that take turns: between two
turns a task waits, and in its turn it runs up to its next wait, reading and
changing a world that all tasks share. A pool takes one such turn after another,
in an order that nobody controls, so a run of the pool is given by the list of
the turns taken. What a turn can do to a pool is said once here.
-/

import Mathlib.Data.List.Basic
import Mathlib.Logic.Function.Iterate
import AccountLookup.Library.Transition

namespace Library

universe u v

/-- Tasks, each at one of its waits, and the world they share. -/
@[ext]
structure Pool (P : Type u) (W : Type v) where
  tasks : List P
  world : W

namespace Pool

variable {P : Type u} {W : Type v} (advance : P → W → P × W)

/-- The task at the index takes its next turn. Without such a task nothing
happens. -/
def step (pool : Pool P W) (i : ℕ) : Pool P W :=
  match pool.tasks[i]? with
  | none => pool
  | some task =>
    let turn := advance task pool.world
    ⟨pool.tasks.set i turn.1, turn.2⟩

/-- A task that is given its turns without anyone else in between. -/
def alone (turns : ℕ) (task : P) (w : W) : P × W :=
  (fun s : P × W => advance s.1 s.2)^[turns] (task, w)

@[simp]
theorem alone_zero (task : P) (w : W) : alone advance 0 task w = (task, w) := rfl

@[simp]
theorem alone_succ (turns : ℕ) (task : P) (w : W) :
    alone advance (turns + 1) task w =
      alone advance turns (advance task w).1 (advance task w).2 := rfl

variable {pool : Pool P W} {i : ℕ}

theorem step_of_none (h : pool.tasks[i]? = none) : pool.step advance i = pool := by
  rw [step, h]

/-- **What a turn does**: the task at the index moves on and the others stay. -/
theorem step_of_some {task : P} (h : pool.tasks[i]? = some task) :
    ∃ before after, pool.tasks = before ++ task :: after ∧
      pool.tasks.eraseIdx i = before ++ after ∧
      pool.step advance i = ⟨before ++ (advance task pool.world).1 :: after,
        (advance task pool.world).2⟩ := by
  obtain ⟨hi, htask⟩ := List.getElem?_eq_some_iff.mp h
  refine ⟨pool.tasks.take i, pool.tasks.drop (i + 1), ?_, List.eraseIdx_eq_take_drop_succ _ _, ?_⟩
  · rw [← htask, List.getElem_cons_drop, List.take_append_drop]
  · rw [step, h]
    simp only [List.set_eq_take_append_cons_drop, if_pos hi]

/-- A turn moves its task and no other. -/
theorem getElem?_step (pool : Pool P W) (i j : ℕ) :
    (pool.step advance i).tasks[j]? =
      if i = j then pool.tasks[j]?.map fun task => (advance task pool.world).1
      else pool.tasks[j]? := by
  cases htask : pool.tasks[i]? with
  | none =>
    rw [step_of_none advance htask]
    split
    · next hij => rw [← hij, htask, Option.map_none]
    · rfl
  | some task =>
    have hi : i < pool.tasks.length := (List.getElem?_eq_some_iff.mp htask).1
    simp only [step, htask, List.getElem?_set]
    split
    · next hij => rw [← hij, htask, Option.map_some]
    · rfl

@[simp]
theorem length_step (pool : Pool P W) (i : ℕ) :
    (pool.step advance i).tasks.length = pool.tasks.length := by
  rw [step]
  split
  · rfl
  · exact List.length_set

/-- A turn of the first task. -/
theorem step_zero (task : P) (tasks : List P) (w : W) :
    step advance ⟨task :: tasks, w⟩ 0 = ⟨(advance task w).1 :: tasks, (advance task w).2⟩ := rfl

/-- A turn of a later task. -/
theorem step_succ (task : P) (tasks : List P) (w : W) (i : ℕ) :
    step advance ⟨task :: tasks, w⟩ (i + 1) =
      ⟨task :: (step advance ⟨tasks, w⟩ i).tasks, (step advance ⟨tasks, w⟩ i).world⟩ := by
  simp only [step, List.getElem?_cons_succ]
  cases tasks[i]? with
  | none => rfl
  | some other => rfl

/-- After a turn every task is the one that took it, as it is now, or was there before. -/
theorem eq_or_mem_of_mem_turned {tasks before after : List P} {task task' other : P}
    (htasks : tasks = before ++ task :: after) (h : other ∈ before ++ task' :: after) :
    other = task' ∨ other ∈ tasks := by
  rw [htasks]
  rcases List.mem_append.mp h with hbefore | hrest
  · exact Or.inr (List.mem_append_left _ hbefore)
  · rcases List.mem_cons.mp hrest with hnew | hafter
    · exact Or.inl hnew
    · exact Or.inr (List.mem_append_right _ (List.mem_cons_of_mem _ hafter))

/-- **A task gets done.** Where every turn of the task at an index takes one off what the task
has left, and nothing else adds to it, a run takes off as much as it has turns of the task. -/
theorem left_run {A : Type*} {next : Pool P W → A → Pool P W} {isTurn : A → Bool} {left : P → ℕ}
    (hnext : ∀ (pool : Pool P W) (a : A) (task : P), pool.tasks[i]? = some task →
      ∃ task', (next pool a).tasks[i]? = some task' ∧
        left task' ≤ left task - if isTurn a = true then 1 else 0)
    (inputs : List A) {task : P} (htask : pool.tasks[i]? = some task) :
    ∃ task', (Transition.run next pool inputs).tasks[i]? = some task' ∧
      left task' ≤ left task - inputs.countP isTurn := by
  induction inputs generalizing pool task with
  | nil => exact ⟨task, htask, le_refl _⟩
  | cons a inputs ih =>
    obtain ⟨moved, hmoved, hturn⟩ := hnext pool a task htask
    obtain ⟨task', htask', hrest⟩ := ih hmoved
    refine ⟨task', htask', ?_⟩
    rw [List.countP_cons]
    omega

end Pool

end Library

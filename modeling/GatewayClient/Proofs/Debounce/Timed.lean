import GatewayClient.Proofs.Runs.Armed
import Mathlib.Data.List.Induction

/-!
# GatewayClient.Proofs.Debounce.Timed

Runs on a clock. Each step has its time, and a flush task is to run when its delay has passed
since it was armed. A timeline is punctual if it keeps to that:

```
time never goes back, and never goes past the moment of a task that is sure to run
a flush is the run of such a task, at its moment
```

A task that was cancelled before its moment does not run. At most one task is then sure to run,
however often the generations have come round.
-/

namespace GatewayClient.Runs

/-! ## timelines -/

/-- A step with the time at which it was taken, in milliseconds. -/
structure Dated where
  time : Nat
  step : Step

/-- The moments at which the flush tasks are to run, in the order of their arming. -/
def moments (timeline : List Dated) : List Nat :=
  timeline.flatMap (fun d =>
    (armings d.step.outcome.commands).map (fun delay => d.time + delay.toNat))

/-- The flush tasks that stand around a connection after its steps, with their moments. -/
def alarms (timeline : List Dated) : List (ArmedFlush × Nat) :=
  (Surroundings.past (timeline.map Dated.step)).flushes.zip (moments timeline)

/-- Whether time can go on until `now`: it does not go back, and no task that is sure to run is
missed. -/
def Reaches (timeline : List Dated) (now : Nat) : Prop :=
  (∀ d ∈ timeline, d.time ≤ now) ∧ ∀ a ∈ alarms timeline, a.1.isDue = true → now ≤ a.2

/-- The task whose report an action is. -/
def Action.task? : Action → Option Nat
  | .flush task _ _ => some task
  | _ => none

/-- Whether a step comes in time after others. A flush that runs is sure to run, and its moment
has come. -/
def InTime (past : List Dated) (d : Dated) : Prop :=
  Reaches past d.time ∧ ∀ task ∈ d.step.action.task?,
    ∃ a ∈ (alarms past)[task]?, a.1.isDue = true ∧ a.2 = d.time

/-- Whether steps come in time, one after the other, after others. -/
def PunctualAfter (past : List Dated) : List Dated → Prop
  | [] => True
  | d :: rest => InTime past d ∧ PunctualAfter (past ++ [d]) rest

/-- Whether all steps come in time. -/
def Punctual (timeline : List Dated) : Prop := PunctualAfter [] timeline

instance (timeline : List Dated) (now : Nat) : Decidable (Reaches timeline now) :=
  inferInstanceAs (Decidable (_ ∧ _))

instance (past : List Dated) (d : Dated) : Decidable (InTime past d) :=
  inferInstanceAs (Decidable (_ ∧ _))

/-- Decides punctuality step by step. -/
def PunctualAfter.decide : (past rest : List Dated) → Decidable (PunctualAfter past rest)
  | _, [] => isTrue trivial
  | past, d :: rest =>
    have := PunctualAfter.decide (past ++ [d]) rest
    inferInstanceAs (Decidable (InTime past d ∧ PunctualAfter (past ++ [d]) rest))

instance (timeline : List Dated) : Decidable (Punctual timeline) := PunctualAfter.decide [] timeline

theorem punctualAfter_append (past xs ys : List Dated) :
    PunctualAfter past (xs ++ ys) ↔ PunctualAfter past xs ∧ PunctualAfter (past ++ xs) ys := by
  induction xs generalizing past with
  | nil => simp [PunctualAfter]
  | cons d rest ih => simp [PunctualAfter, ih, and_assoc]

/-- A timeline goes on punctually with each step that is in time. -/
theorem punctual_snoc (timeline : List Dated) (d : Dated) :
    Punctual (timeline ++ [d]) ↔ Punctual timeline ∧ InTime timeline d := by
  simp [Punctual, punctualAfter_append, PunctualAfter]

@[simp] theorem moments_append (xs ys : List Dated) :
    moments (xs ++ ys) = moments xs ++ moments ys := List.flatMap_append

theorem moments_single (d : Dated) : moments [d] =
    (armings d.step.outcome.commands).map (fun delay => d.time + delay.toNat) :=
  List.flatMap_singleton _ _

/-! ## lives on a clock -/

/-- Every task has its moment. -/
theorem Life.length_moments (life : Life (timeline.map Dated.step) x around) :
    (moments timeline).length = around.flushes.length := by
  induction timeline using List.reverseRecOn generalizing x around with
  | nil =>
    rw [life.around_eq]
    rfl
  | append_singleton timeline d ih =>
    rw [List.map_append] at life
    obtain ⟨x, before, earlier, change, -, rfl⟩ := life.unsnoc
    have consumed : (before.consume d.step.outcome.attempt d.step.action).flushes.length =
        before.flushes.length := by
      cases d.step.action <;> simp [Surroundings.consume]
    rw [moments_append, moments_single, List.length_append, List.length_map, ih earlier,
      Surroundings.after, length_flushes_follow, consumed]

/-- The task that a step in time runs is sure to run. -/
theorem Life.runs_in_time (life : Life (timeline.map Dated.step) x around)
    (timely : InTime timeline d) (flushed : d.step.action = .flush task generation pushes) :
    ∃ f, around.flushes[task]? = some f ∧ f.isDue = true ∧
      (moments timeline)[task]? = some d.time := by
  obtain ⟨⟨f, moment⟩, there, due, now⟩ := timely.2 task (by rw [flushed]; rfl)
  rw [Option.mem_def, alarms, ← life.around_eq, List.getElem?_zip_eq_some] at there
  obtain rfl : moment = d.time := now
  exact ⟨f, there.1, due, there.2⟩

/-- On a punctual timeline at most one task is sure to run, the one armed last. -/
theorem Life.sole (life : Life (timeline.map Dated.step) x around)
    (punctual : Punctual timeline) : Sole x.connection.timer around.flushes := by
  induction timeline using List.reverseRecOn generalizing x around with
  | nil =>
    generalize none : [].map Dated.step = steps at life
    cases life with
    | born id url hook settings => exact .of_idle (List.forall_mem_nil _) 0
    | next life change key => simp at none
  | append_singleton timeline d ih =>
    rw [List.map_append] at life
    obtain ⟨x, before, earlier, change, -, rfl⟩ := life.unsnoc
    obtain ⟨punctual, timely⟩ := (punctual_snoc timeline d).mp punctual
    refine (ih earlier punctual).tick change.tick ?_
    intro task generation pushes flushed
    obtain ⟨f, found, due, -⟩ := earlier.runs_in_time timely flushed
    exact ⟨f, found, due⟩

end GatewayClient.Runs

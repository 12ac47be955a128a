import GatewayClient.Proofs.Runs.Armed
import Mathlib.Data.List.Induction

/-!
# GatewayClient.Proofs.Debounce.Generations

A debounce timer by itself, over a scheduler that is free to do the worst: any task that was ever
armed may begin to run at any later moment, whether it was cancelled or not. Generations decide
which one is let through:

```
schedule, ..., schedule, start, start, ...      the task of the last schedule, and no other
schedule, ..., cancel, start, start, ...        no task
```

`Wound` is the invariant: the generation counts the calls, the tasks carry the counts of the
calls that armed them, and the only task that is neither cancelled nor let through is the one
that the timer holds.
-/

namespace GatewayClient.Debounce

open Runs

/-! ## histories -/

/-- What happens to a timer: a call, or a task that begins to run and asks to be let through.
Tasks are numbered in the order of their arming. -/
inductive Move where
  | schedule (delay : UInt64)
  | cancel
  | start (task : Nat)

/-- Whether a move is a call. -/
def Move.isCall : Move → Bool
  | .start _ => false
  | _ => true

/-- Whether a move arms a task. -/
def Move.arms : Move → Bool
  | .schedule _ => true
  | _ => false

/-- A timer with its tasks, in the order of their arming. A task is spent once it was let
through. -/
structure Alarm where
  timer : DebounceTimer
  tasks : List ArmedFlush
deriving DecidableEq

namespace Alarm

/-- The timer before its first call. -/
def new : Alarm := ⟨DebounceTimer.start, []⟩

/-- Makes a move. -/
def move (a : Alarm) : Move → Alarm
  | .schedule delay =>
    let (timer, replaced) := a.timer.arm
    ⟨timer, withdrawn replaced a.tasks ++ [.fresh timer.generation delay]⟩
  | .cancel =>
    let (timer, held) := a.timer.cancel
    ⟨timer, withdrawn held a.tasks⟩
  | .start task =>
    match a.tasks[task]? with
    | none => a
    | some f =>
      match a.timer.fire? f.generation with
      | none => a
      | some timer => ⟨timer, reported task a.tasks⟩

/-- The timer after a history. -/
def after (history : List Move) : Alarm := history.foldl move new

theorem after_append (xs ys : List Move) : after (xs ++ ys) = ys.foldl move (after xs) :=
  List.foldl_append

theorem after_concat (history : List Move) (m : Move) :
    after (history ++ [m]) = (after history).move m := by
  rw [after_append]
  rfl

/-! ## one move -/

variable {a : Alarm} {task : Nat} {f : ArmedFlush}

theorem move_schedule (a : Alarm) (delay : UInt64) : a.move (.schedule delay) =
    ⟨⟨a.timer.generation + 1, some (a.timer.generation + 1)⟩,
      withdrawn a.timer.pending a.tasks ++ [.fresh (a.timer.generation + 1) delay]⟩ := rfl

theorem move_cancel (a : Alarm) :
    a.move .cancel = ⟨⟨a.timer.generation + 1, none⟩, withdrawn a.timer.pending a.tasks⟩ := rfl

/-- A task that is not let through changes nothing. -/
theorem move_rejected (there : a.tasks[task]? = some f)
    (rejected : a.timer.fire? f.generation = none) : a.move (.start task) = a := by
  simp [move, there, rejected]

/-- What a start comes to: nothing, or the task has the current generation and is let through. -/
theorem move_start (a : Alarm) (task : Nat) :
    a.move (.start task) = a ∨
      ∃ f, a.tasks[task]? = some f ∧ f.generation = a.timer.generation ∧
        a.move (.start task) = ⟨⟨a.timer.generation, none⟩, reported task a.tasks⟩ := by
  cases there : a.tasks[task]? with
  | none => exact .inl (by simp [move, there])
  | some f =>
    by_cases current : f.generation = a.timer.generation
    · exact .inr ⟨f, rfl, current, by simp [move, there, DebounceTimer.fire?, current]⟩
    · exact .inl (move_rejected there (by simp [DebounceTimer.fire?, current]))

/-- A call begins a generation, and a start does not. -/
theorem generation_move (a : Alarm) (m : Move) :
    (a.move m).timer.generation =
      if m.isCall then a.timer.generation + 1 else a.timer.generation := by
  cases m with
  | schedule delay => rfl
  | cancel => rfl
  | start task =>
    rcases a.move_start task with same | ⟨f, -, -, admitted⟩
    · rw [same]
      rfl
    · rw [admitted]
      rfl

/-- Tasks keep their generations, and a new one has the generation that its call began. -/
theorem generations_move (a : Alarm) (m : Move) :
    (a.move m).tasks.map ArmedFlush.generation = a.tasks.map ArmedFlush.generation ++
      if m.arms then [a.timer.generation + 1] else [] := by
  cases m with
  | schedule delay =>
    rw [move_schedule, List.map_append, generations_withdrawn]
    rfl
  | cancel =>
    rw [move_cancel, generations_withdrawn]
    exact (List.append_nil _).symm
  | start task =>
    rcases a.move_start task with same | ⟨f, -, -, admitted⟩
    · rw [same]
      exact (List.append_nil _).symm
    · rw [admitted, generations_reported]
      exact (List.append_nil _).symm

/-! ## whole histories -/

/-- Tasks are armed by the calls that schedule them, one by each. -/
theorem length_after (history : List Move) :
    (after history).tasks.length = history.countP Move.arms := by
  induction history using List.reverseRecOn with
  | nil => rfl
  | append_singleton history m ih =>
    have grown := congrArg List.length ((after history).generations_move m)
    rw [List.length_append, List.length_map, List.length_map, ih] at grown
    rw [after_concat, grown, List.countP_append]
    cases m <;> rfl

/-- A task has the same generation for ever. -/
theorem generations_foldl (a : Alarm) (moves : List Move) :
    a.tasks.map ArmedFlush.generation <+:
      (moves.foldl move a).tasks.map ArmedFlush.generation := by
  induction moves generalizing a with
  | nil => exact List.prefix_refl _
  | cons m rest ih =>
    have first : a.tasks.map ArmedFlush.generation <+:
        (a.move m).tasks.map ArmedFlush.generation := ⟨_, (a.generations_move m).symm⟩
    exact first.trans (ih _)

/-- The generation counts the calls, as long as it has not come round. -/
theorem generation_after (history : List Move) (few : history.countP Move.isCall < UInt64.size) :
    (after history).timer.generation.toNat = history.countP Move.isCall := by
  induction history using List.reverseRecOn with
  | nil => rfl
  | append_singleton history m ih =>
    rw [List.countP_append] at few ⊢
    have before := ih (by omega)
    rw [after_concat, generation_move]
    cases m with
    | start task => exact before
    | _ =>
      change _ + 1 < UInt64.size at few
      exact (toNat_succ (by rw [before]; exact few)).trans (congrArg (· + 1) before)

/-- The task that a call has armed carries the count of that call. -/
theorem task_after (pre post : List Move) (delay : UInt64)
    (few : pre.countP Move.isCall + 1 < UInt64.size) :
    ∃ f, (after (pre ++ .schedule delay :: post)).tasks[pre.countP Move.arms]? = some f ∧
      f.generation.toNat = pre.countP Move.isCall + 1 := by
  have counted := generation_after pre (by omega)
  have next := toNat_succ (g := (after pre).timer.generation) (by rw [counted]; exact few)
  -- it was the last task when it was armed, and the later moves leave it where it is
  have fresh : ((after pre).move (.schedule delay)).tasks.map ArmedFlush.generation =
      (after pre).tasks.map ArmedFlush.generation ++ [(after pre).timer.generation + 1] :=
    (after pre).generations_move (.schedule delay)
  have kept := generations_foldl ((after pre).move (.schedule delay)) post
  rw [fresh] at kept
  obtain ⟨more, kept⟩ := kept
  have there : ((after (pre ++ .schedule delay :: post)).tasks.map
      ArmedFlush.generation)[pre.countP Move.arms]? = some ((after pre).timer.generation + 1) := by
    rw [after_append, List.foldl_cons, ← kept, ← length_after]
    simp
  rw [List.getElem?_map, Option.map_eq_some_iff] at there
  obtain ⟨f, found, own⟩ := there
  exact ⟨f, found, by rw [own, next, counted]⟩

end Alarm

/-! ## the invariant -/

/-- A timer with its tasks: they agree on the generations, and no task is sure to run but the
one that was armed last. -/
structure Wound (a : Alarm) : Prop where
  armed : Armed a.timer a.tasks
  sole : Sole a.timer a.tasks

namespace Wound

variable {a : Alarm}

theorem schedule (wound : Wound a) (few : a.timer.generation.toNat + 1 < UInt64.size)
    (delay : UInt64) : Wound (a.move (.schedule delay)) := by
  have next := toNat_succ few
  rw [Alarm.move_schedule]
  exact ⟨wound.armed.rearm (by omega) delay, .arm wound.sole.idle_withdrawn _ _⟩

theorem cancel (wound : Wound a) (few : a.timer.generation.toNat + 1 < UInt64.size) :
    Wound (a.move .cancel) := by
  have next := toNat_succ few
  rw [Alarm.move_cancel]
  exact ⟨wound.armed.cancel (by omega), .of_idle wound.sole.idle_withdrawn _⟩

/-- A task that starts is not let through, or is the last one. Which one starts does not matter:
the others have other generations. -/
theorem start (wound : Wound a) (task : Nat) : Wound (a.move (.start task)) := by
  rcases a.move_start task with same | ⟨f, found, current, admitted⟩
  · rw [same]
    exact wound
  · rw [admitted]
    have armed := wound.armed.fire found current
    exact ⟨armed, .of_idle armed.idle _⟩

/-- The task that is sure to run is cancelled by the next call. -/
theorem cancelled (wound : Wound a) {task : Nat} {f : ArmedFlush} (found : a.tasks[task]? = some f)
    (due : f.isDue = true) {m : Move} (call : m.isCall = true) :
    (a.move m).tasks[task]? = some { f with cancelled := true } := by
  have marked := getElem?_withdrawn found
  rw [← (wound.sole.due task f found due).1] at marked
  cases m with
  | schedule delay =>
    rw [Alarm.move_schedule, List.getElem?_append_left (List.getElem?_eq_some_iff.mp marked).1]
    exact marked
  | cancel => exact marked
  | start task => contradiction

end Wound

/-- Every history keeps the invariant, as long as the generations have not come round. -/
theorem wound_after (history : List Move) (few : history.countP Move.isCall < UInt64.size) :
    Wound (Alarm.after history) := by
  induction history using List.reverseRecOn with
  | nil => exact ⟨⟨nofun, List.nodup_nil, nofun, nofun⟩, .of_idle (List.forall_mem_nil _) 0⟩
  | append_singleton history m ih =>
    rw [List.countP_append] at few
    have counted := Alarm.generation_after history (by omega)
    rw [Alarm.after_concat]
    cases m with
    | schedule delay =>
      change _ + 1 < UInt64.size at few
      exact (ih (by omega)).schedule (by omega) delay
    | cancel =>
      change _ + 1 < UInt64.size at few
      exact (ih (by omega)).cancel (by omega)
    | start task => exact (ih (by omega)).start task

/-- **Generations**: as long as fewer than `2^64` calls were made, a task that asks is let
through exactly if no call came after the one that armed it. One that is not let through changes
nothing. So at most one task is neither cancelled nor let through: it is the one armed last, the
timer holds it, and the next call cancels it. -/
theorem fire_iff_newest (history : List Move) (few : history.countP Move.isCall < UInt64.size) :
    (∀ pre delay post, history = pre ++ .schedule delay :: post →
      ∃ f, (Alarm.after history).tasks[pre.countP Move.arms]? = some f ∧
        (((Alarm.after history).timer.fire? f.generation).isSome ↔
          ∀ m ∈ post, m.isCall = false)) ∧
    (∀ task f, (Alarm.after history).tasks[task]? = some f →
      (Alarm.after history).timer.fire? f.generation = none →
      Alarm.after (history ++ [.start task]) = Alarm.after history) ∧
    (∀ task f, (Alarm.after history).tasks[task]? = some f → f.isDue = true →
      task + 1 = (Alarm.after history).tasks.length ∧
      (Alarm.after history).timer.pending = some f.generation ∧
      ∀ m : Move, m.isCall = true →
        (Alarm.after (history ++ [m])).tasks[task]? = some { f with cancelled := true }) := by
  have wound := wound_after history few
  refine ⟨?_, ?_, ?_⟩
  · rintro pre delay post rfl
    have counted := Alarm.generation_after _ few
    have calls : (pre ++ .schedule delay :: post).countP Move.isCall =
        pre.countP Move.isCall + 1 + post.countP Move.isCall := by
      rw [List.countP_append, List.countP_cons]
      change _ + (_ + 1) = _
      omega
    rw [calls] at few counted
    obtain ⟨f, found, own⟩ := Alarm.task_after pre post delay (by omega)
    refine ⟨f, found, ?_⟩
    calc ((Alarm.after _).timer.fire? f.generation).isSome
        ↔ f.generation = (Alarm.after (pre ++ .schedule delay :: post)).timer.generation := by
          simp [DebounceTimer.fire?]
      _ ↔ post.countP Move.isCall = 0 := by
          rw [← UInt64.toNat_inj, own, counted]
          omega
      _ ↔ ∀ m ∈ post, m.isCall = false := by simp [List.countP_eq_zero]
  · intro task f found rejected
    rw [Alarm.after_concat, Alarm.move_rejected found rejected]
  · intro task f found due
    obtain ⟨pending, last⟩ := wound.sole.due task f found due
    refine ⟨last, pending, fun m call => ?_⟩
    rw [Alarm.after_concat]
    exact wound.cancelled found due call

/-- A task that had begun to run when it was replaced is not let through, and leaves the timer to
its successor. -/
theorem fire_iff_newest_replaced :
    ∃ early late, (Alarm.after [.schedule 100, .schedule 100, .start 0]).tasks = [early, late] ∧
      (Alarm.after [.schedule 100, .schedule 100, .start 0]).timer.fire? early.generation = none ∧
      late.isDue = true ∧
      (Alarm.after [.schedule 100, .schedule 100, .start 0]).timer.pending =
        some late.generation := by
  have few : [Move.schedule 100, .schedule 100, .start 0].countP Move.isCall < UInt64.size := by
    decide
  obtain ⟨answers, -, held⟩ := fire_iff_newest [.schedule 100, .schedule 100, .start 0] few
  obtain ⟨early, first, rejected⟩ := answers [] 100 [.schedule 100, .start 0] rfl
  have shown : (Alarm.after [.schedule 100, .schedule 100, .start 0]).tasks =
      [⟨1, 100, true, false⟩, ⟨2, 100, false, false⟩] := by
    decide
  obtain ⟨-, pending, -⟩ := held 1 ⟨2, 100, false, false⟩ (by rw [shown]; rfl) rfl
  obtain rfl : (⟨1, 100, true, false⟩ : ArmedFlush) = early := by
    rw [shown] at first
    exact Option.some.inj first
  have stale : ¬ ((Alarm.after [.schedule 100, .schedule 100, .start 0]).timer.fire? 1).isSome :=
    fun admitted => absurd (rejected.mp admitted (.schedule 100) List.mem_cons_self) nofun
  exact ⟨_, _, shown, Option.not_isSome_iff_eq_none.mp stale, rfl, pending⟩

end GatewayClient.Debounce

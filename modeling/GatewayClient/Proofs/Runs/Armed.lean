import GatewayClient.Proofs.Runs.Tasks
import Mathlib.Data.List.Nodup

/-!
# GatewayClient.Proofs.Runs.Armed

The flush tasks of a connection and its timer. As long as the generations have not come round,
every task is armed under a generation of its own, and at most one task is due, the one that the
timer holds:

```
timer ⟨g, some g⟩    the task of generation g, and no other, may be due
timer ⟨g, none⟩      no task is due
```
-/

namespace GatewayClient.Runs

/-! ## reports -/

/-- What stands around a connection after its steps. -/
def Surroundings.past (trace : List Step) : Surroundings :=
  trace.foldl (fun around e => around.after e.action e.outcome) Surroundings.empty

theorem Life.around_eq (life : Life trace x around) : around = Surroundings.past trace := by
  induction life with
  | born id url hook settings => rfl
  | next life change key ih =>
    rw [Surroundings.past, List.foldl_append, ← Surroundings.past, ← ih]
    rfl

/-- Whether every flush that runs is a task that was armed under its generation. -/
def Reporting (trace : List Step) : Prop :=
  ∀ pre e post, trace = pre ++ e :: post →
    ∀ task generation pushes, e.action = .flush task generation pushes →
      ∃ f, (Surroundings.past pre).flushes[task]? = some f ∧ f.generation = generation

theorem Reporting.init (reporting : Reporting (trace ++ [last])) : Reporting trace :=
  fun pre e post cut => reporting pre e (post ++ [last]) (by simp [cut])

/-- In every run the flushes that run are tasks of their connection. -/
theorem Run.reporting (run : Run trace s) (key : ConnectionKey) : Reporting (onKey key trace) := by
  induction run with
  | start host settings => exact fun pre e post cut => absurd cut (by simp [onKey])
  | connection run config ih => exact ih
  | configure run patch ih => exact ih
  | generate run ih => exact ih
  | rehost run host ih => exact ih
  | @step trace s own action s' last run taken ih =>
    obtain ⟨x, y, member, -, -, shape, permitted, -⟩ := change_of_take? taken
    by_cases here : own = key
    · subst here
      rw [onKey_append, onKey_own (by rw [shape])]
      intro pre e post cut
      rcases snoc_eq_append_cons.mp cut with ⟨-, rfl, rfl⟩ | ⟨rest, -, shorter⟩
      · rintro task generation pushes flushed
        have called : action = .flush task generation pushes := by
          rw [shape] at flushed
          exact flushed
        subst called
        simp only [System.permits, Bool.and_eq_true, Option.any_eq_true, beq_iff_eq] at permitted
        obtain ⟨-, f, reported, same, -⟩ := permitted
        rw [← (run.lives.life member).around_eq]
        exact ⟨f, reported, same⟩
      · exact ih pre e rest shorter
    · rw [onKey_append, onKey_other (by rw [shape]; exact here), List.append_nil]
      exact ih

/-! ## the timer and its tasks -/

/-- A timer among the flush tasks: their generations are distinct and past, and only the one that
the timer holds is due. -/
structure Armed (timer : DebounceTimer) (flushes : List ArmedFlush) : Prop where
  held : ∀ g, timer.pending = some g → g = timer.generation
  distinct : (flushes.map ArmedFlush.generation).Nodup
  past : ∀ f ∈ flushes, f.generation.toNat ≤ timer.generation.toNat
  due : ∀ f ∈ flushes, f.isDue = true → timer.pending = some f.generation

namespace Armed

variable {timer : DebounceTimer} {flushes : List ArmedFlush}

/-- A timer that holds none has no task that is due. -/
theorem idle (armed : Armed ⟨g, none⟩ flushes) : Idle flushes := by
  intro f member
  cases due : f.isDue with
  | false => rfl
  | true => exact absurd (armed.due f member due) nofun

/-- Tasks of the same generations are as distinct and as past. -/
theorem of_generations (armed : Armed timer flushes)
    (same : flushes'.map ArmedFlush.generation = flushes.map ArmedFlush.generation)
    (later : timer.generation.toNat ≤ timer'.generation.toNat)
    (held : ∀ g, timer'.pending = some g → g = timer'.generation)
    (due : ∀ f ∈ flushes', f.isDue = true → timer'.pending = some f.generation) :
    Armed timer' flushes' := by
  refine ⟨held, by rw [same]; exact armed.distinct, fun f member => ?_, due⟩
  have named : f.generation ∈ flushes.map ArmedFlush.generation := by
    rw [← same]
    exact List.mem_map_of_mem member
  obtain ⟨before, old, own⟩ := List.mem_map.mp named
  rw [← own]
  exact Nat.le_trans (armed.past before old) later

/-- Whoever cancels the task that the timer holds leaves none that is due. -/
theorem cancel (armed : Armed timer flushes) (later : timer.generation.toNat ≤ g.toNat) :
    Armed ⟨g, none⟩ (withdrawn timer.pending flushes) := by
  refine armed.of_generations (generations_withdrawn _ flushes) later nofun ?_
  intro f member due
  rw [idle_withdrawn armed.due f member] at due
  contradiction

/-- A task is armed under a new generation when none is due. -/
theorem arm (armed : Armed ⟨g, none⟩ flushes) (newer : g.toNat < h.toNat) (delay : UInt64) :
    Armed ⟨h, some h⟩ (flushes ++ [.fresh h delay]) := by
  have unused : h ∉ flushes.map ArmedFlush.generation := by
    intro used
    obtain ⟨f, member, own⟩ := List.mem_map.mp used
    have bound := armed.past f member
    rw [own] at bound
    exact Nat.not_lt_of_le bound newer
  constructor
  · exact fun _ same => (Option.some.inj same).symm
  · rw [List.map_append]
    exact armed.distinct.append (List.nodup_singleton _) (List.disjoint_singleton.mpr unused)
  · intro f member
    rcases List.mem_append.mp member with old | new
    · exact Nat.le_of_lt (Nat.lt_of_le_of_lt (armed.past f old) newer)
    · obtain rfl := List.mem_singleton.mp new
      exact Nat.le_refl _
  · intro f member due
    rcases List.mem_append.mp member with old | new
    · rw [armed.idle f old] at due
      contradiction
    · rw [List.mem_singleton.mp new]
      rfl

/-- Arming a task in the place of the one that the timer holds. -/
theorem rearm (armed : Armed timer flushes) (newer : timer.generation.toNat < g.toNat)
    (delay : UInt64) : Armed ⟨g, some g⟩ (withdrawn timer.pending flushes ++ [.fresh g delay]) :=
  (armed.cancel (Nat.le_refl _)).arm newer delay

/-- A task that reports leaves the others as they are. -/
theorem report (armed : Armed timer flushes) (task : Nat) :
    Armed timer (reported task flushes) := by
  refine armed.of_generations (generations_reported task flushes) (Nat.le_refl _) armed.held ?_
  intro f member due
  obtain ⟨i, found⟩ := List.mem_iff_getElem?.mp member
  exact armed.due f (List.mem_of_getElem? (due_reported found due).2) due

/-- Once the timer lets a task through, none is due. -/
theorem fire (armed : Armed timer flushes) (found : flushes[task]? = some f)
    (own : f.generation = timer.generation) :
    Armed ⟨timer.generation, none⟩ (reported task flushes) := by
  refine armed.of_generations (generations_reported task flushes) (Nat.le_refl _) nofun ?_
  intro other member due
  obtain ⟨i, here⟩ := List.mem_iff_getElem?.mp member
  obtain ⟨apart, before⟩ := due_reported here due
  have held := armed.held _ (armed.due other (List.mem_of_getElem? before) due)
  -- the other one would have the generation of the one that reports
  have alike : (flushes.map ArmedFlush.generation)[i]? =
      (flushes.map ArmedFlush.generation)[task]? := by
    simp [before, found, held, own]
  have bound : i < (flushes.map ArmedFlush.generation).length := by
    simpa using (List.getElem?_eq_some_iff.mp before).1
  exact absurd ((List.getElem?_inj bound armed.distinct).mp alike) apart

end Armed

/-! ## steps -/

/-- The next generation is later, unless the generations come round. -/
theorem toNat_succ {g : UInt64} (few : g.toNat + 1 < UInt64.size) :
    (g + 1).toNat = g.toNat + 1 := by
  rw [UInt64.toNat_add]
  exact Nat.mod_eq_of_lt few

theorem toNat_succ_le (g : UInt64) : (g + 1).toNat ≤ g.toNat + 1 := by
  rw [UInt64.toNat_add]
  exact Nat.mod_le _ _

/-- A step goes on by two generations at most. -/
theorem Tick.generation_le (step : Tick c flushes action timer flushes' delays) :
    timer.generation.toNat ≤ c.timer.generation.toNat + 2 := by
  have once := toNat_succ_le c.timer.generation
  have twice := toNat_succ_le (c.timer.generation + 1)
  cases step with
  | called asks => exact Nat.le_trans twice (Nat.add_le_add_right once 1)
  | hurried stream frame named full read => exact Nat.le_trans once (Nat.le_succ _)
  | dropped => exact Nat.le_trans once (Nat.le_succ _)
  | again unknown => exact Nat.le_trans once (Nat.le_succ _)
  | _ => exact Nat.le_add_right _ _

theorem Life.generation_le (life : Life trace x around) :
    x.connection.timer.generation.toNat ≤ 2 * trace.length := by
  induction life with
  | born id url hook settings => exact Nat.le_refl 0
  | next life change key ih =>
    have step := change.tick.generation_le
    rw [List.length_append, List.length_singleton]
    omega

/-- Each step keeps timer and tasks together. -/
theorem Armed.tick (armed : Armed c.timer flushes)
    (step : Tick c flushes action timer flushes' delays)
    (few : c.timer.generation.toNat + 2 < UInt64.size)
    (reports : ∀ task generation pushes, action = .flush task generation pushes →
      ∃ f, flushes[task]? = some f ∧ f.generation = generation) : Armed timer flushes' := by
  have once := toNat_succ (g := c.timer.generation) (by omega)
  have twice := toNat_succ (g := c.timer.generation + 1) (by omega)
  cases step with
  | rest still aside => exact armed
  | called asks => exact armed.rearm (by omega) _
  | hurried stream frame named full read => exact armed.rearm (by omega) _
  | dropped => exact armed.cancel (by omega)
  | stale found own old => exact armed.report _
  | fired =>
    obtain ⟨f, found, own⟩ := reports _ _ _ rfl
    exact armed.fire found own
  | again unknown =>
    obtain ⟨f, found, own⟩ := reports _ _ _ rfl
    exact (armed.fire found own).arm (by omega) _

/-! ## all runs -/

theorem Life.armed (life : Life trace x around) (reporting : Reporting trace)
    (few : 2 * trace.length < UInt64.size) : Armed x.connection.timer around.flushes := by
  induction life with
  | born id url hook settings => exact ⟨nofun, List.nodup_nil, nofun, nofun⟩
  | @next trace x around action outcome y life change key ih =>
    rw [List.length_append, List.length_singleton] at few
    have bound := life.generation_le
    refine (ih reporting.init (by omega)).tick change.tick (by omega) ?_
    intro task generation pushes flushed
    rw [life.around_eq]
    exact reporting trace _ [] rfl task generation pushes flushed

/-- **Timers**: in every run, as long as the generations have not come round, the tasks of a
connection have distinct generations, and none is due but the one that its timer holds. -/
theorem Run.armed (run : Run trace s) (known : s.manager.get? key = some c)
    (few : 2 * (onKey key trace).length < UInt64.size) : Armed c.timer (s.around key).flushes := by
  obtain ⟨dropped, -, life⟩ := life_of_run run known
  exact life.armed (run.reporting key) few

end GatewayClient.Runs

import GatewayClient.Proofs.Runs.Surroundings

/-!
# GatewayClient.Proofs.Runs.Tasks

What a step does to the timer of its connection and to the flush tasks. `Tick` lists the ways,
and `Change.tick` says that every change is one of them:

```
a call                   the held task is cancelled, one is armed for the batch delay
a session, with changes  the held task is cancelled, one is armed without delay
the end of the handle    the held task is cancelled
a flush                  its task is spent; if the timer lets it through, the timer holds none,
                         or the one that tries again
anything else            nothing
```
-/

namespace GatewayClient

open Connection (openFrame)

namespace Runs

/-- Whether an action is a call that changes the configuration. A call that names no channel is
refused, and is none. -/
def Action.isCall : Action → Bool
  | .subscribe request => !request.channel.isEmpty
  | .unsubscribe _ _ => true
  | _ => false

/-- Whether an action is the report of a flush task. -/
def Action.isFlush : Action → Bool
  | .flush _ _ _ => true
  | _ => false

/-- The tasks after the one that a timer held was cancelled. -/
def withdrawn (held : Option UInt64) (flushes : List ArmedFlush) : List ArmedFlush :=
  flushes.map (fun f => if held = some f.generation then { f with cancelled := true } else f)

/-- The tasks after one of them has reported. -/
def reported (task : Nat) (flushes : List ArmedFlush) : List ArmedFlush :=
  flushes.modify task (fun f => { f with spent := true })

/-- A task as it is armed. -/
def ArmedFlush.fresh (generation delay : UInt64) : ArmedFlush := ⟨generation, delay, false, false⟩

/-- Whether no task is sure to run. -/
def Idle (flushes : List ArmedFlush) : Prop := ∀ f ∈ flushes, f.isDue = false

section tasks

variable {held : Option UInt64} {flushes : List ArmedFlush} {task : Nat} {f : ArmedFlush}

/-- Withdrawing a task changes no generation. -/
theorem generations_withdrawn (held : Option UInt64) (flushes : List ArmedFlush) :
    (withdrawn held flushes).map ArmedFlush.generation = flushes.map ArmedFlush.generation := by
  rw [withdrawn, List.map_map]
  apply List.map_congr_left
  intro f _
  simp only [Function.comp_apply]
  split <;> rfl

/-- The task that the timer held is cancelled in its place. -/
theorem getElem?_withdrawn (found : flushes[task]? = some f) :
    (withdrawn (some f.generation) flushes)[task]? = some { f with cancelled := true } := by
  simp [withdrawn, found]

/-- If no task but the one that the timer held was sure to run, none is once it was
withdrawn. -/
theorem idle_withdrawn (sole : ∀ f ∈ flushes, f.isDue = true → held = some f.generation) :
    Idle (withdrawn held flushes) := by
  intro f member
  obtain ⟨before, old, rfl⟩ := List.mem_map.mp member
  split
  · simp [ArmedFlush.isDue]
  · next other =>
    cases due : before.isDue with
    | false => rfl
    | true => exact absurd (sole before old due) other

/-- A report changes no generation. -/
theorem generations_reported (task : Nat) (flushes : List ArmedFlush) :
    (reported task flushes).map ArmedFlush.generation = flushes.map ArmedFlush.generation := by
  apply List.ext_getElem?
  intro i
  simp only [reported, List.getElem?_map, List.getElem?_modify]
  cases flushes[i]? with
  | none => rfl
  | some f => by_cases here : task = i <;> simp [here]

/-- A task that is sure to run while another one reports was sure to run before. -/
theorem due_reported (found : (reported task flushes)[i]? = some f) (due : f.isDue = true) :
    i ≠ task ∧ flushes[i]? = some f := by
  by_cases here : i = task
  · subst here
    rw [reported, List.getElem?_modify_eq] at found
    obtain ⟨before, -, rfl⟩ := Option.map_eq_some_iff.mp found
    simp [ArmedFlush.isDue] at due
  · rw [reported, List.getElem?_modify_ne _ _ (Ne.symm here)] at found
    exact ⟨here, found⟩

end tasks

/-- What a step does to the timer of a connection and to its tasks, and the delays of the tasks
that it arms. -/
inductive Tick (c : Connection) (flushes : List ArmedFlush) :
    Action → DebounceTimer → List ArmedFlush → List UInt64 → Prop
  | rest (still : action.isFlush = false) (aside : action.isCall = false) :
      Tick c flushes action c.timer flushes []
  | called (asks : action.isCall = true) :
      Tick c flushes action ⟨c.timer.generation + 1 + 1, some (c.timer.generation + 1 + 1)⟩
        (withdrawn c.timer.pending flushes ++
          [.fresh (c.timer.generation + 1 + 1) c.settings.batchDelay])
        [c.settings.batchDelay]
  | hurried (stream : StreamId) (frame : EventStream.Frame) (named : frame.event = openFrame)
      (full : Text.isAllBlank frame.data = false) (read : Session.read frame.data = .ok session) :
      Tick c flushes (.receive stream frame)
        ⟨c.timer.generation + 1, some (c.timer.generation + 1)⟩
        (withdrawn c.timer.pending flushes ++ [.fresh (c.timer.generation + 1) 0]) [0]
  | dropped :
      Tick c flushes .drop ⟨c.timer.generation + 1, none⟩ (withdrawn c.timer.pending flushes) []
  | stale (found : flushes[task]? = some f) (own : f.generation = generation)
      (old : generation ≠ c.timer.generation) :
      Tick c flushes (.flush task generation pushes) c.timer (reported task flushes) []
  | fired : Tick c flushes (.flush task c.timer.generation pushes) c.fired
      (reported task flushes) []
  | again (unknown : c.session = none) :
      Tick c flushes (.flush task c.timer.generation true)
        ⟨c.timer.generation + 1, some (c.timer.generation + 1)⟩
        (reported task flushes ++
          [.fresh (c.timer.generation + 1) c.settings.sessionRetryDelay])
        [c.settings.sessionRetryDelay]

/-! ## commands -/

/-- The delays under which commands arm flush tasks. -/
def armings (commands : List Command) : List UInt64 :=
  commands.filterMap (fun
    | .armFlush delay _ => some delay
    | _ => none)

theorem armings_of_deeds {commands ds : List Command} (done : deeds commands = ds) :
    armings commands = armings ds := by
  subst done
  simp only [armings, deeds, List.filterMap_filter]
  congr 1
  funext command
  cases command <;> rfl

theorem armings_append (xs ys : List Command) : armings (xs ++ ys) = armings xs ++ armings ys :=
  List.filterMap_append

theorem armings_map_call (f : α → Invocation) (xs : List α) :
    armings (xs.map (fun x => .call (f x))) = [] := by
  simp [armings]

theorem armings_map_cancelFlush (xs : List UInt64) : armings (xs.map .cancelFlush) = [] := by
  simp [armings]

/-- Every task that is armed stands behind the others. -/
theorem length_flushes_follow (around : Surroundings) (commands : List Command) :
    (around.follow commands).flushes.length =
      around.flushes.length + (armings commands).length := by
  induction commands generalizing around with
  | nil => rfl
  | cons command rest ih =>
    rw [Surroundings.follow_cons, ih]
    cases command <;> simp [Surroundings.obey, armings, Nat.add_assoc, Nat.add_comm]

/-- Cancelling the task that a timer holds withdraws it. -/
theorem flushes_cancel (timer : DebounceTimer) (around : Surroundings) :
    (around.follow (timer.pending.toList.map .cancelFlush)).flushes =
      withdrawn timer.pending around.flushes := by
  cases timer.pending with
  | none => simp [withdrawn]
  | some g =>
    change around.flushes.map _ = _
    simp only [withdrawn, Option.some.injEq, eq_comm]

/-- Cancelling the task that a timer holds, and arming one in its place. -/
theorem flushes_rearm (timer : DebounceTimer) (around : Surroundings)
    (delay generation : UInt64) :
    (around.follow (timer.pending.toList.map .cancelFlush ++
        [.armFlush delay generation])).flushes =
      withdrawn timer.pending around.flushes ++ [.fresh generation delay] := by
  rw [Surroundings.follow_append]
  exact congrArg (· ++ [ArmedFlush.fresh generation delay]) (flushes_cancel timer around)

theorem armings_rearm (timer : DebounceTimer) (delay generation : UInt64) :
    armings (timer.pending.toList.map .cancelFlush ++ [.armFlush delay generation]) =
      [delay] := by
  rw [armings_append, armings_map_cancelFlush]
  rfl

/-! ## changes -/

/-- A change does to timer and tasks what a tick does. -/
theorem Change.tick (change : Change around x action outcome y) :
    Tick x.connection around.flushes action y.connection.timer
      (around.after action outcome).flushes (armings outcome.commands) := by
  cases change with
  | nameless request commands unnamed quiet =>
    rw [Surroundings.after_of_deeds quiet, armings_of_deeds quiet]
    exact .rest rfl (by simp [Action.isCall, unnamed])
  | @subscribe c request commands named done =>
    rw [Surroundings.after_of_deeds done, armings_of_deeds done, Connection.rearming,
      flushes_rearm, armings_rearm]
    exact .called (by simp [Action.isCall, named])
  | @unsubscribe c callback listener commands done =>
    rw [Surroundings.after_of_deeds done, armings_of_deeds done, Connection.rearming,
      flushes_rearm, armings_rearm]
    exact .called rfl
  | connectOpened attempt id commands waited current done =>
    rw [Surroundings.after_of_deeds done, armings_of_deeds done]
    exact .rest rfl rfl
  | disconnectOpen stream commands opened done =>
    rw [Surroundings.after_of_deeds done, armings_of_deeds done]
    exact .rest rfl rfl
  | @drop c commands done =>
    rw [Surroundings.after_of_deeds done, armings_of_deeds done, Surroundings.follow_append,
      flushes_cancel, armings_append, armings_map_cancelFlush]
    cases c.stream <;> exact .dropped
  | @opened c stream frame session commands reader named full read done =>
    rw [Surroundings.after_of_deeds done, armings_of_deeds done, Connection.greeting,
      Surroundings.follow_append, armings_append, Connection.hookCalls,
      Surroundings.follow_map_call, armings_map_call, List.append_nil]
    simp only [Connection.withSession]
    split
    · rw [flushes_rearm, armings_rearm]
      exact .hurried stream frame named full read
    · exact .rest rfl rfl
  | acknowledged stream frame ack commands named read done =>
    rw [Surroundings.after_of_deeds done, armings_of_deeds done, Surroundings.follow_map_call,
      armings_map_call]
    exact .rest rfl rfl
  | reloaded stream frame commands named done =>
    rw [Surroundings.after_of_deeds done, armings_of_deeds done]
    exact .rest rfl rfl
  | @event c stream frame commands unreserved done =>
    obtain ⟨matched, same⟩ := c.eventCalls_eq_map frame.event frame.data
    rw [Surroundings.after_of_deeds done, armings_of_deeds done, same,
      Surroundings.follow_map_call, armings_map_call]
    exact .rest rfl rfl
  | flushStale task generation pushes commands found own stale quiet =>
    rw [Surroundings.after_of_deeds quiet, armings_of_deeds quiet]
    exact .stale found own stale
  | flushWaiting task commands unknown done =>
    rw [Surroundings.after_of_deeds done, armings_of_deeds done]
    exact .again unknown
  | flushKept task commands unknown quiet =>
    rw [Surroundings.after_of_deeds quiet, armings_of_deeds quiet]
    exact .fired
  | flushHomeless task pushes commands known homeless quiet =>
    rw [Surroundings.after_of_deeds quiet, armings_of_deeds quiet]
    exact .fired
  | flushIdle task pushes commands known idle quiet =>
    rw [Surroundings.after_of_deeds quiet, armings_of_deeds quiet]
    exact .fired
  | flushSent task pushes commands known found waits running done =>
    rw [Surroundings.after_of_deeds done, armings_of_deeds done]
    exact .fired
  | flushLost task pushes commands known found waits stopped quiet =>
    rw [Surroundings.after_of_deeds quiet, armings_of_deeds quiet]
    exact .fired
  | beginPost batch rest idle running waiting => exact .rest rfl rfl
  | loseSender => exact .rest rfl rfl
  | endPost batch result commands posting quiet =>
    rw [Surroundings.after_of_deeds quiet, armings_of_deeds quiet]
    exact .rest rfl rfl
  | _ =>
    rw [Surroundings.after_of_deeds ‹deeds _ = []›, armings_of_deeds ‹deeds _ = []›]
    exact .rest rfl rfl

/-! ## the one task that is sure to run -/

/-- A timer among its tasks: no task is sure to run but the one that the timer holds, which was
armed last. -/
structure Sole (timer : DebounceTimer) (flushes : List ArmedFlush) : Prop where
  held : ∀ g, timer.pending = some g → g = timer.generation
  due : ∀ task f, flushes[task]? = some f → f.isDue = true →
    timer.pending = some f.generation ∧ task + 1 = flushes.length

namespace Sole

variable {timer : DebounceTimer} {flushes : List ArmedFlush} {task : Nat} {f : ArmedFlush}

theorem of_idle (idle : Idle flushes) (generation : UInt64) : Sole ⟨generation, none⟩ flushes := by
  refine ⟨nofun, fun task f found due => ?_⟩
  rw [idle f (List.mem_of_getElem? found)] at due
  contradiction

/-- A task that is armed when none is sure to run. -/
theorem arm (idle : Idle flushes) (generation delay : UInt64) :
    Sole ⟨generation, some generation⟩ (flushes ++ [.fresh generation delay]) := by
  refine ⟨fun _ same => (Option.some.inj same).symm, fun task f found due => ?_⟩
  rw [List.getElem?_append] at found
  split at found
  · rw [idle f (List.mem_of_getElem? found)] at due
    contradiction
  · obtain ⟨bound, rfl⟩ := List.getElem?_eq_some_iff.mp found
    rw [List.length_singleton] at bound
    refine ⟨by simp [ArmedFlush.fresh], ?_⟩
    rw [List.length_append, List.length_singleton]
    omega

theorem idle_withdrawn (sole : Sole timer flushes) : Idle (withdrawn timer.pending flushes) :=
  Runs.idle_withdrawn (fun f member due =>
    have ⟨_, found⟩ := List.mem_iff_getElem?.mp member
    (sole.due _ f found due).1)

/-- Once the task that was sure to run has reported, none is. -/
theorem idle_reported (sole : Sole timer flushes) (found : flushes[task]? = some f)
    (due : f.isDue = true) : Idle (reported task flushes) := by
  intro g member
  obtain ⟨i, here⟩ := List.mem_iff_getElem?.mp member
  cases sure : g.isDue with
  | false => rfl
  | true =>
    obtain ⟨apart, before⟩ := due_reported here sure
    have last := (sole.due task f found due).2
    have also := (sole.due i g before sure).2
    omega

/-- The timer lets the task that is sure to run through. -/
theorem current (sole : Sole timer flushes) (found : flushes[task]? = some f)
    (due : f.isDue = true) : f.generation = timer.generation :=
  sole.held _ (sole.due task f found due).1

/-- If only tasks report that are sure to run, each step leaves one at most. -/
theorem tick (sole : Sole c.timer flushes) (step : Tick c flushes action timer flushes' delays)
    (sure : ∀ task generation pushes, action = .flush task generation pushes →
      ∃ f, flushes[task]? = some f ∧ f.isDue = true) : Sole timer flushes' := by
  cases step with
  | rest still aside => exact sole
  | called asks => exact .arm sole.idle_withdrawn _ _
  | hurried stream frame named full read => exact .arm sole.idle_withdrawn _ _
  | dropped => exact .of_idle sole.idle_withdrawn _
  | stale found own old =>
    obtain ⟨f, here, due⟩ := sure _ _ _ rfl
    obtain rfl := Option.some.inj (found.symm.trans here)
    exact absurd (own.symm.trans (sole.current found due)) old
  | fired =>
    obtain ⟨f, here, due⟩ := sure _ _ _ rfl
    exact .of_idle (sole.idle_reported here due) _
  | again unknown =>
    obtain ⟨f, here, due⟩ := sure _ _ _ rfl
    exact .arm (sole.idle_reported here due) _ _

end Sole

end Runs

end GatewayClient

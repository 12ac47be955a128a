import GatewayClient.DebounceTimer
import GatewayClient.Simulation.Agenda

/-!
# GatewayClient.Simulation.TimerBench

A debounce timer on a bench, with its tasks and others beside it. On a clock, tasks run when
their time has come and cancelled ones do not run. By hand, tasks only queue: each can be
started whether it was cancelled or not, as a task can that had begun to run before it was
cancelled.
-/

namespace GatewayClient.Simulation

/-- How tasks are run. -/
inductive Mode where
  | clock
  | hand
deriving DecidableEq

/-- Whose task it is: the timer's, armed under a generation, or another one, which is delayed
or works in the background. -/
inductive TaskKind where
  | timer (generation : UInt64)
  | delayed
  | background
deriving DecidableEq

/-- What has become of a task. A task on the clock begins to wait when it first runs, and one
that was cancelled is found out when the clock next runs. -/
inductive TaskState where
  | fresh
  | waiting
  | cancelled
  | ended
deriving DecidableEq

/-- A task that notes its label when it runs. -/
structure BenchTask where
  label : String
  kind : TaskKind
  delay : UInt64
  state : TaskState

/-- Whether a task is still to run and was not cancelled. -/
def BenchTask.isLive (t : BenchTask) : Bool := t.state == .fresh || t.state == .waiting

/-- Whether a task has something to wait for before it notes its label. Work in the background
without delay has not. -/
def BenchTask.waits (t : BenchTask) : Bool := t.kind != .background || t.delay != 0

/-- A timer, unless it was dropped, with all tasks, the clock, the queue of tasks that are
started by hand, the other tasks in their order, and what was noted since the last step. -/
structure TimerBench where
  mode : Mode
  timer : Option DebounceTimer
  tasks : List BenchTask
  agenda : Agenda Nat
  queue : List Nat
  others : List Nat
  noted : List (String × TaskKind)
  delays : List UInt64

/-- A step on the bench. -/
inductive BenchStep where
  | schedule (label : String) (delay : UInt64)
  | cancel
  | drop
  | delayed (label : String) (delay : UInt64)
  | background (label : String) (delay : UInt64)
  | cancelOther (index : Nat)
  | otherPending (index : Nat)
  | advance (millis : Nat)
  | settle
  | runNext
  | runLive
  | live

/-- The answer to a step. -/
inductive BenchAnswer where
  | done
  | flag (b : Bool)
  | count (n : Nat)

namespace TimerBench

/-- The bench at the start. -/
def start (mode : Mode) : TimerBench :=
  { mode, timer := some DebounceTimer.start, tasks := [], agenda := Agenda.empty, queue := []
    others := [], noted := [], delays := [] }

/-- Whether a task is still to run, as far as can be seen. -/
def isPending (b : TimerBench) (task : Nat) : Bool :=
  b.tasks[task]?.any (fun t =>
    t.isLive || (t.state == .cancelled && (b.mode == .clock || t.kind == .background)))

/-- Sets the state of a task. -/
def setState (b : TimerBench) (task : Nat) (state : TaskState) : TimerBench :=
  { b with tasks := b.tasks.modify task (fun t => { t with state }) }

/-- Cancels a task that has not ended. -/
def cancelTask (b : TimerBench) (task : Nat) : TimerBench :=
  if b.isPending task then
    { b.setState task .cancelled with agenda := b.agenda.cancel (· == task) task }
  else b

/-- Runs a task, cancelled or not. -/
def runTask (b : TimerBench) (task : Nat) : TimerBench :=
  match b.tasks[task]? with
  | none => b
  | some t => { b.setState task .ended with noted := b.noted ++ [(t.label, t.kind)] }

/-- Adds a task on the clock, or to the queue. -/
def addTask (b : TimerBench) (label : String) (kind : TaskKind) (delay : UInt64) : TimerBench :=
  let task := b.tasks.length
  let b := { b with tasks := b.tasks ++ [BenchTask.mk label kind delay .fresh] }
  if kind = .background ∨ b.mode = .clock then { b with agenda := b.agenda.wake task }
  else { b with queue := b.queue ++ [task], delays := b.delays ++ [delay] }

/-- The task that the timer armed under a generation. -/
def armedTask? (b : TimerBench) (generation : UInt64) : Option Nat :=
  (List.range b.tasks.length).reverse.find?
    (fun task => b.tasks[task]?.any (fun t => t.kind == .timer generation))

/-- Whether the timer is armed: its task is still to run. -/
def armed (b : TimerBench) (timer : DebounceTimer) : Bool :=
  (timer.pending.bind b.armedTask?).any b.isPending

/-- Cancels the task of a generation, if there is one. -/
def cancelArmed (b : TimerBench) (generation : Option UInt64) : TimerBench :=
  (generation.bind b.armedTask?).elim b b.cancelTask

/-- Lets a task on the clock begin to wait, or run. -/
def pollTask (task : Nat) (b : TimerBench) : TimerBench :=
  match b.tasks[task]? with
  | none => b
  | some t =>
    match t.state with
    | .fresh =>
      if t.waits then
        { b.setState task .waiting with agenda := b.agenda.schedule t.delay.toNat task }
      else b.runTask task
    | .waiting => b.runTask task
    | .cancelled | .ended => b

/-- Runs the clock up to a time. Tasks that were cancelled have ended when it stops. -/
def runClock (b : TimerBench) (limit fuel : Nat) : TimerBench :=
  let b := Agenda.play TimerBench.agenda (fun b agenda => { b with agenda }) pollTask limit fuel b
  { b with tasks := b.tasks.map (fun t =>
      if t.state == .cancelled then { t with state := .ended } else t) }

/-- The queued tasks that were neither cancelled nor run. -/
def liveTasks (b : TimerBench) : List Nat :=
  b.queue.filter (fun task => b.tasks[task]?.any BenchTask.isLive)

/-- Carries out a step. The fuel bounds the tasks that run in it. -/
def perform (b : TimerBench) (fuel : Nat) : BenchStep → TimerBench × BenchAnswer
  | .schedule label delay =>
    match b.timer with
    | none => (b, .done)
    | some timer =>
      let (timer, replaced) := timer.arm
      (({ b with timer := some timer }.cancelArmed replaced).addTask label
        (.timer timer.generation) delay, .done)
  | .cancel =>
    match b.timer with
    | none => (b, .done)
    | some timer =>
      let (timer, cancelled) := timer.cancel
      ({ b with timer := some timer }.cancelArmed cancelled, .done)
  | .drop =>
    match b.timer with
    | none => (b, .done)
    | some timer => ({ b with timer := none }.cancelArmed timer.cancel.2, .done)
  | .delayed label delay =>
    (({ b with others := b.others ++ [b.tasks.length] }).addTask label .delayed delay, .done)
  | .background label delay =>
    (({ b with others := b.others ++ [b.tasks.length] }).addTask label .background delay, .done)
  | .cancelOther index => (b.others[index]?.elim b b.cancelTask, .done)
  | .otherPending index => (b, .flag (b.others[index]?.any b.isPending))
  | .advance millis => (b.runClock (b.agenda.now + millis) fuel, .done)
  | .settle => (b.runClock b.agenda.now fuel, .done)
  | .runNext =>
    match b.queue with
    | [] => (b, .flag false)
    | task :: queue => ({ b with queue }.runTask task, .flag true)
  | .runLive => (b.liveTasks.foldl runTask { b with queue := [] }, .done)
  | .live => (b, .count b.liveTasks.length)

end TimerBench

end GatewayClient.Simulation

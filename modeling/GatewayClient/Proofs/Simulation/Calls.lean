import GatewayClient.Proofs.Connection.Operations
import GatewayClient.Simulation.Scenario

/-!
# GatewayClient.Proofs.Simulation.Calls

Calls are made one by one. A call may fail, and before that take any steps; none of this makes
another call or keeps one from being made: `calls_carryOut` says that the calls that are shown
are those among the commands, in their order.
-/

namespace GatewayClient

namespace Simulation

/-- The call that an effect shows. -/
def Effect.call? : Effect → Option Invocation
  | .call i => some i
  | _ => none

namespace World

/-- The calls that were shown since the record began, in their order. -/
def calls (w : World) : List Invocation := w.record.effects.reverse.filterMap Effect.call?

/-- An effect that is shown adds its call, if it is one. -/
theorem calls_emit (w : World) (e : Effect) : (w.emit e).calls = w.calls ++ e.call?.toList := by
  cases shown : e.call? <;> simp [calls, emit, shown]

/-! ## steps make no calls -/

/-- Obeying a command shows what changes in the surroundings, and no call. -/
@[simp] theorem calls_obey (key : ConnectionKey) (w : World) (command : Command) :
    (obey key w command).calls = w.calls := by
  cases command with
  | armFlush delay generation =>
    simp only [obey, armFlush]
    cases w.starting <;> rfl
  | reload =>
    simp only [obey]
    split
    · simp [calls_emit, Effect.call?]
    · rfl
  | stored key value => simp [obey, calls_emit, Effect.call?]
  | _ => rfl

/-- Following a result leaves out the calls among its commands. -/
@[simp] theorem calls_follow (w : World) (key : ConnectionKey)
    (result : Manager × List Command) : (w.follow key result).calls = w.calls := by
  have kept : ∀ (commands : List Command) (w : World),
      (commands.foldl (obey key) w).calls = w.calls := by
    intro commands
    induction commands with
    | nil => intro w; rfl
    | cons command rest ih => intro w; simp [ih]
  exact kept result.2 _

@[simp] theorem calls_release (w : World) (key : ConnectionKey) :
    (w.release key).calls = w.calls := by
  unfold release
  split
  · rfl
  · simp

@[simp] theorem calls_assign (w : World) (handle : String) (key : ConnectionKey) :
    (w.assign handle key).calls = w.calls := by
  unfold assign
  cases w.lookup handle with
  | none => rfl
  | some before => exact calls_release _ before

/-- The end of a connect makes no call, whether a stream was opened or not. -/
@[simp] theorem calls_endConnect (w : World) (key : ConnectionKey) (attempt : ConnectAttempt)
    (opened : Except TransportError StreamId) :
    (w.endConnect key attempt opened).1.calls = w.calls := by
  unfold endConnect
  cases opened with
  | error e => simp
  | ok id =>
    simp only
    split
    · simp
    · exact calls_follow w key _

/-- Asking to listen makes no call, whether it is granted, refused or made to wait. -/
@[simp] theorem calls_answerListen (w : World) (key : ConnectionKey) (attempt : ConnectAttempt)
    (jsessionid : Option String) :
    (w.answerListen key attempt jsessionid).1.calls = w.calls := by
  unfold answerListen
  split
  · rfl
  · cases w.behaviour.failListen with
    | some e => simp
    | none => exact calls_endConnect _ key attempt _

/-- Asking for a dispatcher makes no call, whether it is granted, refused or made to wait. -/
@[simp] theorem calls_answerConnect (w : World) (key : ConnectionKey)
    (attempt : ConnectAttempt) : (w.answerConnect key attempt).1.calls = w.calls := by
  unfold answerConnect
  split
  · rfl
  · split
    · simp
    · rfl
    · simp [calls_emit, Effect.call?]

@[simp] theorem calls_beginConnect (w : World) (key : ConnectionKey) :
    (w.beginConnect key).1.calls = w.calls := by
  unfold beginConnect
  simp only
  split
  · simp
  · simp [calls_emit, Effect.call?]

/-- What is left of a connect is held or reported, and no call is made. -/
@[simp] theorem calls_settleConnect (w : World) (key : ConnectionKey) (handle : Option String)
    (progress : Progress) : (w.settleConnect key handle progress).1.calls = w.calls := by
  match progress with
  | .held attempt phase => rfl
  | .over (.error e) => simp [settleConnect]
  | .over (.ok u) => cases handle <;> simp [settleConnect]

@[simp] theorem calls_resumeOne (w : World) (h : Held) : (w.resumeOne h).1.calls = w.calls := by
  unfold resumeOne
  cases h.phase <;> simp

@[simp] theorem calls_resumeFirst (w : World) (n : Nat) :
    (w.resumeFirst n).1.calls = w.calls := by
  induction n generalizing w with
  | zero => rfl
  | succ n ih =>
    unfold resumeFirst
    split
    · rfl
    · simp only [ih, calls_resumeOne]
      rfl

/-- A flush that was put off makes no call when it runs: its batch is posted by a task. -/
@[simp] theorem calls_runQueued (w : World) (f : QueuedFlush) :
    (w.runQueued f).calls = w.calls := calls_follow w f.key _

@[simp] theorem calls_foldl_runQueued (flushes : List QueuedFlush) (w : World) :
    (flushes.foldl runQueued w).calls = w.calls := by
  induction flushes generalizing w with
  | nil => rfl
  | cons f rest ih => simp [ih]

/-- A step on a handle makes no call if the step on its connection makes none. -/
theorem calls_withHandle (w : World) (handle : String)
    {f : ConnectionKey → Connection → World × Answer}
    (kept : ∀ key c, (f key c).1.calls = w.calls) : (w.withHandle handle f).1.calls = w.calls := by
  unfold withHandle
  split
  · rfl
  · split
    · rfl
    · exact kept _ _

/-- Taking over the result of a call leaves them out as well. -/
@[simp] theorem calls_answerCall (w : World) (key : ConnectionKey)
    (result : Connection × List Command × Except ClientError Unit) :
    (w.answerCall key result).1.calls = w.calls := calls_follow w key _

/-- Senders that wake up wait for their turn. -/
@[simp] theorem calls_wakeSenders (w : World) : w.wakeSenders.calls = w.calls := by
  have kept : ∀ (keys : List ConnectionKey) (w : World),
      (keys.foldl (fun w key => w.wake (.post key)) w).calls = w.calls := by
    intro keys
    induction keys with
    | nil => intro w; rfl
    | cons key rest ih => intro w; exact ih _
  exact kept _ _

@[simp] theorem calls_pushFrame (w : World) (frame : EventStream.Frame)
    (stream : Option StreamId) : (w.pushFrame frame stream).1.calls = w.calls := by
  unfold pushFrame
  simp only
  split
  · rfl
  · split <;> rfl

/-- No step of a scenario makes a call: frames are handled by tasks, and tasks run later. -/
@[simp] theorem calls_perform (w : World) (step : Step) : (w.perform step).1.calls = w.calls := by
  cases step with
  | gateway change =>
    simp only [perform]
    split
    · rfl
    · exact calls_wakeSenders _
  | connection handle config => exact calls_assign _ handle _
  | connect handle =>
    refine w.calls_withHandle handle (fun key c => ?_)
    rw [calls_settleConnect, calls_beginConnect]
  | openConnection handle config =>
    simp only [perform]
    rw [calls_settleConnect, calls_beginConnect]
    rfl
  | resume => exact calls_resumeFirst w _
  | disconnect handle => exact w.calls_withHandle handle (fun key c => calls_follow w key _)
  | drop handle =>
    simp only [perform]
    split
    · rfl
    · exact calls_release _ _
  | inspect handle => exact w.calls_withHandle handle (fun key c => rfl)
  | settings handle => exact w.calls_withHandle handle (fun key c => rfl)
  | get id handle =>
    simp only [perform]
    split
    · rfl
    · exact calls_assign w handle _
  | subscribe handle request =>
    exact w.calls_withHandle handle (fun key c => calls_answerCall w key _)
  | subscribeWith handle arguments =>
    refine w.calls_withHandle handle (fun key c => ?_)
    split
    · rfl
    · exact calls_answerCall w key _
  | unsubscribe handle callback listener =>
    exact w.calls_withHandle handle (fun key c => calls_answerCall w key _)
  | push frame stream => exact calls_pushFrame w frame stream
  | patch text =>
    simp only [perform]
    split
    · rfl
    · exact calls_follow w 0 _
  | takeNext =>
    simp only [perform]
    split <;> rfl
  | runStarted =>
    simp only [perform]
    split
    · rfl
    · exact calls_runQueued _ _
  | runLive => exact calls_foldl_runQueued _ _
  | _ => rfl

/-- Several steps make no call either; each of them is shown. -/
@[simp] theorem calls_takeSteps (w : World) (steps : List Step) :
    (w.takeSteps steps).calls = w.calls := by
  unfold takeSteps
  induction steps generalizing w with
  | nil => rfl
  | cons step rest ih => simp [ih, calls_emit, Effect.call?]

/-! ## commands make theirs -/

/-- A call is made once, whatever it does and however it fails. -/
theorem calls_invoke (w : World) (i : Invocation) : (w.invoke i).calls = w.calls ++ [i] := by
  unfold invoke
  simp only
  cases (w.emit (.call i)).scripts.lookup (scriptName i) with
  | none => exact calls_emit w (.call i)
  | some script =>
    cases failed : script.failure with
    | none => simp [failed, calls_emit, Effect.call?]
    | some f =>
      have logged : ∀ (w : World) (entry : Log.Entry), (w.log entry).calls = w.calls :=
        fun _ _ => rfl
      simp [failed, logged, calls_emit, Effect.call?]

/-- **Calls**: carrying out the commands of a step makes the calls among them, each once and in
their order, whatever the calls do and whichever of them fail. -/
theorem calls_carryOut (key : ConnectionKey) (commands : List Command) (w : World) :
    (commands.foldl (carryOut key) w).calls = w.calls ++ callsOf commands := by
  induction commands generalizing w with
  | nil => simp [callsOf]
  | cons command rest ih =>
    rw [List.foldl_cons, ih]
    cases command with
    | call i => simp [carryOut, calls_invoke, callsOf, Command.call?]
    | _ =>
      simp only [carryOut, calls_obey]
      rfl

end World

end Simulation

end GatewayClient

import GatewayClient.Manager
import Mathlib.Logic.Function.Basic

/-!
# GatewayClient.Proofs.Runs.System

The runs of a client. A manager with its connections stands among surroundings that decide the
order of everything: callers, flush tasks, connects that wait for the gateway, readers of push
streams, and senders. A run is any sequence of the steps that they permit:

```
run  =  start,  then  connection | configure | generate | rehost | step key action
```

Each step is one critical section of one connection. A cancelled flush may still report, since
it may have begun to run before; a frame may still come from any stream whose reader was ever
started; and connects end in any order with any result.
-/

namespace GatewayClient.Runs

/-! ## surroundings -/

/-- A flush task, from the moment it was armed. A cancelled one may have begun to run; a spent
one has reported. -/
structure ArmedFlush where
  generation : UInt64
  delay : UInt64
  cancelled : Bool
  spent : Bool
deriving DecidableEq

/-- Whether a flush task is still sure to run. -/
def ArmedFlush.isDue (f : ArmedFlush) : Bool := !f.cancelled && !f.spent

/-- What stands around one connection: its flush tasks in the order of their arming, its
connects that wait for the gateway, and the streams whose readers were started. -/
structure Surroundings where
  flushes : List ArmedFlush
  attempts : List ConnectAttempt
  readers : List StreamId
deriving DecidableEq

namespace Surroundings

/-- Nothing stands around a connection that was just made. -/
def empty : Surroundings := ⟨[], [], []⟩

/-- Carries out a command. -/
def obey (around : Surroundings) : Command → Surroundings
  | .armFlush delay generation =>
    { around with flushes := around.flushes ++ [⟨generation, delay, false, false⟩] }
  | .cancelFlush generation =>
    { around with flushes := around.flushes.map (fun f =>
      if f.generation = generation then { f with cancelled := true } else f) }
  | .startReader stream => { around with readers := around.readers ++ [stream] }
  | _ => around

/-- Carries out the commands of a step. -/
def follow (around : Surroundings) (commands : List Command) : Surroundings :=
  commands.foldl obey around

end Surroundings

/-- A manager, what stands around each connection, and how many streams the gateway opened. -/
structure System where
  manager : Manager
  around : ConnectionKey → Surroundings
  streams : Nat

/-- The system without connections. -/
def System.start (host : Host) (settings : Settings) : System :=
  ⟨Manager.create host settings, fun _ => Surroundings.empty, 0⟩

/-! ## steps -/

/-- What happens to a connection in one step. A connect that ends without a failure has opened
a stream. -/
inductive Action where
  | subscribe (request : SubscribeRequest)
  | unsubscribe (callback : Callback) (listener : Option AckListener)
  | beginConnect (pushes : Bool) (moment : Moment)
  | endConnect (attempt : ConnectAttempt) (failure : Option TransportError)
  | disconnect
  | drop
  | receive (stream : StreamId) (frame : EventStream.Frame)
  | endStream (stream : StreamId)
  | flush (task : Nat) (generation : UInt64) (pushes : Bool)
  | beginPost
  | endPost (result : Except TransportError Unit)
  | loseSender

/-- What a step gives: its commands, the answer to the caller, the connect that it began, and
the batch whose posting it began. -/
structure Outcome where
  commands : List Command := []
  answer : Except ClientError Unit := .ok ()
  attempt : Option ConnectAttempt := none
  posted : Option OutgoingBatch := none

/-- A step that was taken, with the connection as it was before. -/
structure Step where
  key : ConnectionKey
  action : Action
  before : Connection
  outcome : Outcome

/-- Takes the task that an action belongs to away, and adds the connect that it began. -/
def Surroundings.consume (around : Surroundings) (attempt : Option ConnectAttempt) :
    Action → Surroundings
  | .beginConnect _ _ => { around with attempts := around.attempts ++ attempt.toList }
  | .endConnect attempt _ => { around with attempts := around.attempts.erase attempt }
  | .drop => { around with attempts := [] }
  | .flush task _ _ =>
    { around with flushes := around.flushes.modify task (fun f => { f with spent := true }) }
  | _ => around

/-- What stands around a connection after a step. -/
def Surroundings.after (around : Surroundings) (action : Action) (outcome : Outcome) :
    Surroundings :=
  (around.consume outcome.attempt action).follow outcome.commands

namespace System

/-- Whether an action may come next. Callers need a handle, a connect ends once, a frame comes
from a stream that is read, a flush task reports once. -/
def permits (s : System) (key : ConnectionKey) (c : Connection) : Action → Bool
  | .endConnect attempt _ => s.manager.isLive key && (s.around key).attempts.contains attempt
  | .receive stream _ | .endStream stream =>
    s.manager.isLive key && (s.around key).readers.contains stream
  | .flush task generation _ => s.manager.isLive key &&
    (s.around key).flushes[task]?.any (fun f => f.generation == generation && !f.spent)
  | .beginPost => c.beginPost?.isSome
  | .endPost _ => c.outbox.posting.isSome
  | .loseSender => true
  | _ => s.manager.isLive key

/-- Carries out an action on a connection. -/
def perform (s : System) (key : ConnectionKey) (c : Connection) : Action → Manager × Outcome
  | .subscribe request =>
    let (c, commands, answer) := c.subscribe request
    (s.manager.set key c, { commands, answer })
  | .unsubscribe callback listener =>
    let (c, commands, answer) := c.unsubscribe callback listener
    (s.manager.set key c, { commands, answer })
  | .beginConnect pushes moment =>
    match s.manager.beginConnect key pushes moment with
    | (m, commands, .finished answer) => (m, { commands, answer })
    | (m, commands, .requesting attempt) => (m, { commands, attempt := some attempt })
  | .endConnect attempt failure =>
    let (m, commands, answer) :=
      s.manager.endConnect key attempt (failure.elim (.ok s.streams) .error)
    (m, { commands, answer })
  | .disconnect =>
    let (m, commands) := s.manager.disconnect key
    (m, { commands })
  | .drop =>
    let (m, commands) := s.manager.drop key
    (m, { commands })
  | .receive _ frame =>
    let (m, commands) := s.manager.receive key frame
    (m, { commands })
  | .endStream _ =>
    let (m, commands) := s.manager.streamEnded key
    (m, { commands })
  | .flush _ generation pushes =>
    let (m, commands) := s.manager.flush key generation pushes
    (m, { commands })
  | .beginPost =>
    match c.beginPost? with
    | none => (s.manager, {})
    | some (c, batch) => (s.manager.set key c, { posted := some batch })
  | .endPost result =>
    let (c, commands) := c.endPost result
    (s.manager.set key c, { commands })
  | .loseSender => (s.manager.set key c.stopSender, {})

/-- The number of streams after an action: a connect that did not fail has opened one. -/
def streamsAfter (s : System) : Action → Nat
  | .endConnect _ none => s.streams + 1
  | _ => s.streams

/-- Takes a step, if the connection exists and the action may come next. -/
def take? (s : System) (key : ConnectionKey) (action : Action) : Option (System × Step) :=
  match s.manager.get? key with
  | none => none
  | some c =>
    if s.permits key c action then
      let (manager, outcome) := s.perform key c action
      let around := (s.around key).after action outcome
      some (⟨manager, Function.update s.around key around, s.streamsAfter action⟩,
        ⟨key, action, c, outcome⟩)
    else none

end System

/-! ## runs -/

/-- The steps of a run in their order, and the system that it leads to. Between steps,
connections are made, settings for new ones change, client ids are generated, and the host
changes at will. -/
inductive Run : List Step → System → Prop
  | start (host : Host) (settings : Settings) : Run [] (System.start host settings)
  | connection (run : Run trace s) (config : ConnectConfig) :
      Run trace { s with manager := (s.manager.connection config).1 }
  | configure (run : Run trace s) (patch : SettingsPatch) :
      Run trace { s with manager := (s.manager.configure patch).1 }
  | generate (run : Run trace s) : Run trace { s with manager := s.manager.generate.1 }
  | rehost (run : Run trace s) (host : Host) :
      Run trace { s with manager := { s.manager with host } }
  | step (run : Run trace s) (taken : s.take? key action = some (s', e)) : Run (trace ++ [e]) s'

/-- The steps of one connection. -/
def onKey (key : ConnectionKey) (trace : List Step) : List Step :=
  trace.filter (fun e => e.key == key)

end GatewayClient.Runs

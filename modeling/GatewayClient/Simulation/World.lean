import GatewayClient.Manager
import GatewayClient.Simulation.Agenda
import GatewayClient.Simulation.Gateway

/-!
# GatewayClient.Simulation.World

A manager with its connections, the gateway they talk to, and everything in between: the tasks
that read streams, post batches and run flushes, the connects that wait, and the handles by
which a scenario holds its connections. Steps of a scenario run at once; tasks run only when
the scenario lets them.
-/

namespace GatewayClient.Simulation

/-! ## steps and what they show -/

/-- How a flush is started: when its time has come, or by hand. -/
inductive Starting where
  | clock
  | hand
deriving DecidableEq

/-- A step that runs at once. Connections are known by their handles. -/
inductive Step where
  | gateway (change : Behaviour → Behaviour)
  | connection (handle : String) (config : ConnectConfig)
  | connect (handle : String)
  | openConnection (handle : String) (config : ConnectConfig)
  | resume
  | disconnect (handle : String)
  | drop (handle : String)
  | inspect (handle : String)
  | settings (handle : String)
  | get (id : ClientId) (handle : String)
  | subscribe (handle : String) (request : SubscribeRequest)
  | subscribeWith (handle : String) (arguments : List SubscribeRequest.Argument)
  | unsubscribe (handle : String) (callback : Callback) (listener : Option AckListener)
  | push (frame : EventStream.Frame) (stream : Option StreamId)
  | endStream
  | patch (text : String)
  | generate
  | isRegistered (id : ClientId)
  | storage (key : String)
  | inspectManager
  | countLive
  | takeNext
  | runStarted
  | runLive

/-- The answer to a step. -/
inductive Answer where
  | done
  | waiting
  | refused (e : ClientError)
  | unreadable (e : Json.Error)
  | flag (b : Bool)
  | count (n : Nat)
  | text (s : Option String)
  | all (answers : List Answer)

/-- What the surroundings of the client get to see. -/
inductive Effect where
  | connect (url : String)
  | listen (url : String)
  | post (batch : OutgoingBatch)
  | call (i : Invocation)
  | reload
  | stored (key value : String)
  | did (step : Step) (answer : Answer)

/-- What a callback does when it is called: the steps that it takes, and how it fails. -/
structure Script where
  steps : List Step
  failure : Option Invocation.Failure

/-! ## the state -/

/-- Which request a connect waits for. -/
inductive Phase where
  | connect
  | listen (jsessionid : Option String)

/-- A connect that waits, and the handle that it will have, if it is to get one. -/
structure Held where
  key : ConnectionKey
  attempt : ConnectAttempt
  phase : Phase
  handle : Option String

/-- A task in the background. A reader that goes on has begun to read and stops only when
nothing is left to read. A flush begins to wait when it first runs. Of a flush that was
cancelled a task is left that has nothing to do. -/
inductive Job where
  | read (stream : StreamId)
  | readOn (stream : StreamId)
  | post (key : ConnectionKey)
  | awaitFlush (key : ConnectionKey) (generation delay : UInt64)
  | flush (key : ConnectionKey) (generation : UInt64)
  | idle
deriving DecidableEq

/-- Whether a task is the flush of a connection that was armed under a generation. -/
def Job.isFlush (key : ConnectionKey) (generation : UInt64) : Job → Bool
  | awaitFlush k g _ | flush k g => k == key && g == generation
  | _ => false

/-- A flush that is started by hand. -/
structure QueuedFlush where
  key : ConnectionKey
  generation : UInt64
  cancelled : Bool

/-- What a step has shown so far, the latest first. -/
structure Record where
  effects : List Effect
  log : List Log.Entry
  delays : List UInt64

namespace Record

/-- Nothing shown yet. -/
def empty : Record := ⟨[], [], []⟩

/-- What was shown, in the order in which it was. -/
def inOrder (r : Record) : Record := ⟨r.effects.reverse, r.log.reverse, r.delays.reverse⟩

end Record

/-- The state of the simulation. -/
structure World where
  manager : Manager
  behaviour : Behaviour
  streams : List Stream
  agenda : Agenda Job
  starting : Starting
  queue : List QueuedFlush
  started : List QueuedFlush
  handles : List (String × ConnectionKey)
  held : List Held
  /-- The connections whose posts wait for an answer, the one that has waited longest first. -/
  unanswered : List ConnectionKey
  /-- The connection that handles a frame at the moment. -/
  busy : Option ConnectionKey
  scripts : List (String × Script)
  moment : Moment
  record : Record

namespace World

/-- The world at the start. -/
def start (manager : Manager) (behaviour : Behaviour) (starting : Starting)
    (scripts : List (String × Script)) (moment : Moment) : World :=
  { manager, behaviour, streams := [], agenda := Agenda.empty, starting, queue := []
    started := [], handles := [], held := [], unanswered := [], busy := none, scripts, moment
    record := Record.empty }

/-- Shows an effect. -/
def emit (w : World) (e : Effect) : World :=
  { w with record := { w.record with effects := e :: w.record.effects } }

/-- Writes a log entry. -/
def log (w : World) (entry : Log.Entry) : World :=
  { w with record := { w.record with log := entry :: w.record.log } }

/-- Makes a task ready. -/
def wake (w : World) (job : Job) : World := { w with agenda := w.agenda.wake job }

/-- Changes a stream. -/
def modifyStream (w : World) (id : StreamId) (f : Stream → Stream) : World :=
  { w with streams := w.streams.modify id f }

/-- Changes a stream, and makes its reader look at it. -/
def notifyReader (w : World) (id : StreamId) (f : Stream → Stream) : World :=
  (w.modifyStream id f).wake (.read id)

/-! ## commands -/

/-- Arms a flush. -/
def armFlush (w : World) (key : ConnectionKey) (delay generation : UInt64) : World :=
  match w.starting with
  | .clock => w.wake (.awaitFlush key generation delay)
  | .hand =>
    { w with
      queue := w.queue ++ [⟨key, generation, false⟩]
      record := { w.record with delays := delay :: w.record.delays } }

/-- Cancels a flush. -/
def cancelFlush (w : World) (key : ConnectionKey) (generation : UInt64) : World :=
  let cancel (f : QueuedFlush) : QueuedFlush :=
    if f.key = key ∧ f.generation = generation then { f with cancelled := true } else f
  { w with
    agenda := w.agenda.cancel (Job.isFlush key generation) .idle
    queue := w.queue.map cancel }

/-- Carries out a command of a connection, calls apart. -/
def obey (key : ConnectionKey) (w : World) : Command → World
  | .log entry => w.log entry
  | .armFlush delay generation => w.armFlush key delay generation
  | .cancelFlush generation => w.cancelFlush key generation
  | .startReader stream =>
    w.notifyReader stream (fun s => { s with reader := some key })
  | .stopReader stream =>
    w.notifyReader stream (fun s => { s with stopping := true })
  | .wakeSender => w.wake (.post key)
  | .reload => if w.manager.host.reloads then w.emit .reload else w
  | .stored k v => w.emit (.stored k v)
  | .call _ => w

/-- Takes over a manager after a step of a connection, and carries out its commands. -/
def follow (w : World) (key : ConnectionKey) (result : Manager × List Command) : World :=
  result.2.foldl (obey key) { w with manager := result.1 }

/-! ## handles -/

/-- The connection of a handle. -/
def lookup (w : World) (handle : String) : Option ConnectionKey := w.handles.lookup handle

/-- Whether something keeps a connection alive. -/
def isHeld (w : World) (key : ConnectionKey) : Bool :=
  w.handles.any (fun h => h.2 == key) || w.held.any (fun h => h.key == key) || w.busy == some key

/-- Drops a connection if nothing keeps it alive. -/
def release (w : World) (key : ConnectionKey) : World :=
  if w.isHeld key then w else w.follow key (w.manager.drop key)

/-- Gives a handle to a connection; the one that had it before is released after that. -/
def assign (w : World) (handle : String) (key : ConnectionKey) : World :=
  let before := w.lookup handle
  let w := { w with handles := w.handles.filter (fun h => h.1 != handle) ++ [(handle, key)] }
  before.elim w w.release

/-! ## connecting -/

/-- How far a connect has come. -/
inductive Progress where
  | over (result : Except ClientError Unit)
  | held (attempt : ConnectAttempt) (phase : Phase)

/-- Ends a connect. A stream that the connection does not take is closed. -/
def endConnect (w : World) (key : ConnectionKey) (attempt : ConnectAttempt)
    (opened : Except TransportError StreamId) : World × Progress :=
  let (manager, commands, result) := w.manager.endConnect key attempt opened
  let w := w.follow key (manager, commands)
  let taken := ((w.manager.get? key).bind Connection.stream).map PushStream.id
  let w := match opened with
    | .ok id => if taken = some id then w else w.modifyStream id (fun s => { s with held := false })
    | .error _ => w
  (w, .over result)

/-- The listen request is answered, unless it has to wait. -/
def answerListen (w : World) (key : ConnectionKey) (attempt : ConnectAttempt)
    (jsessionid : Option String) : World × Progress :=
  if w.behaviour.holdListen then (w, .held attempt (.listen jsessionid))
  else match w.behaviour.failListen with
    | some e => w.endConnect key attempt (.error e)
    | none =>
      { w with streams := w.streams ++ [Stream.fresh] }.endConnect key attempt
        (.ok w.streams.length)

/-- The connect request is answered, unless it has to wait, and the listen request is made. -/
def answerConnect (w : World) (key : ConnectionKey) (attempt : ConnectAttempt) :
    World × Progress :=
  if w.behaviour.holdConnect then (w, .held attempt .connect)
  else match w.behaviour.failConnect, w.manager.get? key with
    | some e, _ => w.endConnect key attempt (.error e)
    | none, none => (w, .over (.ok ()))
    | none, some connection =>
      let (jsessionid, commands) := connection.passedSession w.behaviour.jsessionid
      let w := w.follow key (w.manager, commands)
      (w.emit (.listen (attempt.listenUrl jsessionid))).answerListen key attempt jsessionid

/-- Begins a connect. -/
def beginConnect (w : World) (key : ConnectionKey) : World × Progress :=
  let (manager, commands, start) := w.manager.beginConnect key w.behaviour.pushes w.moment
  let w := w.follow key (manager, commands)
  match start with
  | .finished result => (w, .over result)
  | .requesting attempt => (w.emit (.connect attempt.connectUrl)).answerConnect key attempt

/-- Takes note of how far a connect has come. When it is over, it gives the handle that it was
to get, unless it failed, and lets the connection go. -/
def settleConnect (w : World) (key : ConnectionKey) (handle : Option String) :
    Progress → World × Answer
  | .held attempt phase => ({ w with held := w.held ++ [⟨key, attempt, phase, handle⟩] }, .waiting)
  | .over (.ok ()) => ((handle.elim w (fun h => w.assign h key)).release key, .done)
  | .over (.error e) => (w.release key, .refused e)

/-- Lets a connect that waits go on. -/
def resumeOne (w : World) (h : Held) : World × Answer :=
  let (w, progress) := match h.phase with
    | .connect => w.answerConnect h.key h.attempt
    | .listen jsessionid => w.answerListen h.key h.attempt jsessionid
  w.settleConnect h.key h.handle progress

/-- Lets the first `n` connects that wait go on. One that has to wait again does so behind the
others. -/
def resumeFirst (w : World) : (n : Nat) → World × List Answer
  | 0 => (w, [])
  | n + 1 =>
    match w.held with
    | [] => (w, [])
    | h :: rest =>
      let (w, answer) := { w with held := rest }.resumeOne h
      let (w, answers) := w.resumeFirst n
      (w, answer :: answers)

/-! ## flushes by hand -/

/-- Runs a flush of a connection. -/
def runFlush (w : World) (key : ConnectionKey) (generation : UInt64) : World :=
  w.follow key (w.manager.flush key generation w.behaviour.pushes)

/-- Runs a flush that was queued, cancelled or not. -/
def runQueued (w : World) (f : QueuedFlush) : World := w.runFlush f.key f.generation

/-- The queued flushes that were not cancelled. -/
def liveFlushes (w : World) : List QueuedFlush := w.queue.filter (fun f => !f.cancelled)

/-! ## steps -/

/-- Carries out a step of the connection that a handle names. -/
def withHandle (w : World) (handle : String)
    (f : ConnectionKey → Connection → World × Answer) : World × Answer :=
  match w.lookup handle with
  | none => (w, .flag false)
  | some key =>
    match w.manager.get? key with
    | none => (w, .flag false)
    | some connection => f key connection

/-- Takes over the result of a call. -/
def answerCall (w : World) (key : ConnectionKey)
    (result : Connection × List Command × Except ClientError Unit) : World × Answer :=
  let (connection, commands, result) := result
  (w.follow key (w.manager.set key connection, commands),
    match result with
    | .ok () => .done
    | .error e => .refused e)

/-- Makes the senders go on whose posts wait for an answer. -/
def wakeSenders (w : World) : World :=
  w.unanswered.foldl (fun w key => w.wake (.post key)) { w with unanswered := [] }

/-- Queues a frame on a stream, the newest one if none is named, unless the stream has ended or
its reader is gone. -/
def pushFrame (w : World) (frame : EventStream.Frame) (stream : Option StreamId) :
    World × Answer :=
  let id := stream.getD (w.streams.length - 1)
  match w.streams[id]? with
  | none => (w, .flag false)
  | some s =>
    if s.held && !s.ended then
      (w.notifyReader id (fun s => { s with frames := s.frames ++ [frame] }), .flag true)
    else (w, .flag false)

/-- Carries out a step. -/
def perform (w : World) : Step → World × Answer
  | .gateway change =>
    let w := { w with behaviour := change w.behaviour }
    (if w.behaviour.holdConfigure then w else w.wakeSenders, .done)
  | .connection handle config =>
    let (manager, key) := w.manager.connection config
    ({ w with manager }.assign handle key, .done)
  | .connect handle => w.withHandle handle (fun key _ =>
    let (w, progress) := w.beginConnect key
    w.settleConnect key none progress)
  | .openConnection handle config =>
    let (manager, key) := w.manager.connection config
    let (w, progress) := { w with manager }.beginConnect key
    w.settleConnect key (some handle) progress
  | .resume =>
    let (w, answers) := w.resumeFirst w.held.length
    (w, .all answers)
  | .disconnect handle => w.withHandle handle (fun key _ =>
    (w.follow key (w.manager.disconnect key), .done))
  | .drop handle =>
    match w.lookup handle with
    | none => (w, .flag false)
    | some key =>
      ({ w with handles := w.handles.filter (fun h => h.1 != handle) }.release key, .flag true)
  | .inspect handle => w.withHandle handle (fun _ c => (w, .text (some c.inspect)))
  | .settings handle => w.withHandle handle (fun _ c => (w, .text (some c.settings.text)))
  | .get id handle =>
    match w.manager.find? id with
    | none => (w, .flag false)
    | some key => (w.assign handle key, .flag true)
  | .subscribe handle request => w.withHandle handle (fun key c =>
    w.answerCall key (c.subscribe request))
  | .subscribeWith handle arguments => w.withHandle handle (fun key c =>
    match SubscribeRequest.ofArguments arguments with
    | .error e => (w, .refused e)
    | .ok request => w.answerCall key (c.subscribe request))
  | .unsubscribe handle callback listener => w.withHandle handle (fun key c =>
    w.answerCall key (c.unsubscribe callback listener))
  | .push frame stream => w.pushFrame frame stream
  | .endStream => (w.notifyReader (w.streams.length - 1) (fun s => { s with ended := true }), .done)
  | .patch text =>
    match SettingsPatch.read text with
    | .error e => (w, .unreadable e)
    | .ok patch =>
      let (manager, commands) := w.manager.configure patch
      (w.follow 0 (manager, commands), .text (some manager.settings.text))
  | .generate =>
    let (manager, id) := w.manager.generate
    ({ w with manager }, .text (some id.name))
  | .isRegistered id => (w, .flag (w.manager.isRegistered id))
  | .storage key => (w, .text (w.manager.host.storage.bind (fun s => s.lookup key)))
  | .inspectManager => (w, .text (some w.manager.inspect))
  | .countLive => (w, .count w.liveFlushes.length)
  | .takeNext =>
    match w.queue with
    | [] => (w, .flag false)
    | f :: queue => ({ w with queue, started := w.started ++ [f] }, .flag true)
  | .runStarted =>
    match w.started with
    | [] => (w, .done)
    | f :: started => ({ w with started }.runQueued f, .done)
  | .runLive => (w.liveFlushes.foldl runQueued { w with queue := [] }, .done)

end World

end GatewayClient.Simulation

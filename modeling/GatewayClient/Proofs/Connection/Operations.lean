import GatewayClient.Connection.Flushing
import GatewayClient.Connection.Opening
import GatewayClient.Connection.Receiving
import GatewayClient.Connection.Subscribing
import GatewayClient.Proofs.Configuration.Batcher
import GatewayClient.Proofs.Subscription.Registry

/-!
# GatewayClient.Proofs.Connection.Operations

What each operation on a connection does: one equation for the state that it leaves and one for
its deeds, which are its commands less the notes that only tell of it. Later proofs use these
equations and never open an operation.
-/

namespace GatewayClient

/-! ## deeds -/

/-- Whether a command only tells of a step. -/
def Command.isNote : Command → Bool
  | .log _ | .stored _ _ => true
  | _ => false

/-- The commands that do more than tell. -/
def deeds (commands : List Command) : List Command := commands.filter (fun d => !d.isNote)

@[simp] theorem deeds_nil : deeds [] = [] := rfl

@[simp] theorem deeds_cons (command : Command) (rest : List Command) :
    deeds (command :: rest) = if command.isNote then deeds rest else command :: deeds rest := by
  cases told : command.isNote <;> simp [deeds, told]

@[simp] theorem deeds_append (xs ys : List Command) : deeds (xs ++ ys) = deeds xs ++ deeds ys :=
  List.filter_append xs ys

/-- Commands none of which is a note are all deeds. -/
theorem deeds_map (f : α → Command) (done : ∀ x, (f x).isNote = false) (xs : List α) :
    deeds (xs.map f) = xs.map f := by
  rw [deeds, List.filter_eq_self]
  simp [done]

@[simp] theorem deeds_map_cancelFlush (xs : List UInt64) :
    deeds (xs.map .cancelFlush) = xs.map .cancelFlush := deeds_map _ (fun _ => rfl) xs

@[simp] theorem deeds_map_stopReader (f : α → StreamId) (xs : List α) :
    deeds (xs.map (fun x => .stopReader (f x))) = xs.map (fun x => .stopReader (f x)) :=
  deeds_map _ (fun _ => rfl) xs

@[simp] theorem deeds_map_call (f : α → Invocation) (xs : List α) :
    deeds (xs.map (fun x => .call (f x))) = xs.map (fun x => .call (f x)) :=
  deeds_map _ (fun _ => rfl) xs

@[simp] theorem deeds_map_log (f : α → Log.Entry) (xs : List α) :
    deeds (xs.map (fun x => .log (f x))) = [] := by
  rw [deeds, List.filter_eq_nil_iff]
  simp [Command.isNote]

/-- The call that a command asks for. -/
def Command.call? : Command → Option Invocation
  | .call i => some i
  | _ => none

/-- The calls among commands. -/
def callsOf (commands : List Command) : List Invocation := commands.filterMap Command.call?

/-- Every call is a deed. -/
theorem callsOf_deeds (commands : List Command) : callsOf (deeds commands) = callsOf commands := by
  simp only [callsOf, deeds, List.filterMap_filter]
  congr 1
  funext command
  cases command <;> rfl

/-- So the calls of a step can be read off its deeds. -/
theorem callsOf_of_deeds {commands ds : List Command} (done : deeds commands = ds) :
    callsOf commands = callsOf ds := by
  rw [← done, callsOf_deeds]

@[simp] theorem callsOf_append (xs ys : List Command) :
    callsOf (xs ++ ys) = callsOf xs ++ callsOf ys := List.filterMap_append

@[simp] theorem callsOf_map_cancelFlush (xs : List UInt64) :
    callsOf (xs.map .cancelFlush) = [] := by
  simp [callsOf, Command.call?]

@[simp] theorem callsOf_map_call (f : α → Invocation) (xs : List α) :
    callsOf (xs.map (fun x => .call (f x))) = xs.map f := by
  induction xs with
  | nil => rfl
  | cons x rest ih => exact congrArg (f x :: ·) ih

namespace Connection

/-! ## subscribing -/

/-- The open push stream with a channel that is listened on. -/
def streamFor (c : Connection) (channel : String) : Option PushStream :=
  if c.registry.hasListener channel then c.stream else c.stream.map (fun s => s.attach channel)

/-- The connection after a subscription was added. -/
def withSubscription (c : Connection) (request : SubscribeRequest) : Connection :=
  { c with
    registry := (c.registry.add request.channel request.filter request.callback).1.listen
      request.channel c.isConnected
    stream := c.streamFor request.channel
    batcher := (c.batcher.queueSubscribe
      (SubscriptionConfig.ofChannel request.channel request.filter)).accept request.onSubscribed
    timer := ⟨c.timer.generation + 1 + 1, some (c.timer.generation + 1 + 1)⟩ }

/-- On a channel that has its listener, only the list of subscriptions grows. -/
theorem withSubscription_of_mem {c : Connection} {request : SubscribeRequest}
    (there : request.channel ∈ c.registry.listeners) :
    (c.withSubscription request).registry.listeners = c.registry.listeners ∧
      (c.withSubscription request).registry.queue = c.registry.queue ∧
      (c.withSubscription request).stream = c.stream := by
  have has : c.registry.hasListener request.channel = true := by
    simpa [Registry.hasListener] using there
  have known : request.channel ∈
      (c.registry.add request.channel request.filter request.callback).1.listeners := there
  simp only [withSubscription, streamFor, has, if_true, Registry.listen_of_mem known]
  exact ⟨rfl, rfl, trivial⟩

/-- A new channel gets its listener on the open stream, or else in the queue. -/
theorem withSubscription_of_not_mem {c : Connection} {request : SubscribeRequest}
    (fresh : request.channel ∉ c.registry.listeners) :
    (c.withSubscription request).registry.listeners = c.registry.listeners ++ [request.channel] ∧
      (c.withSubscription request).registry.queue =
        (if c.isConnected then c.registry.queue else c.registry.queue ++ [request.channel]) ∧
      (c.withSubscription request).stream = c.stream.map (fun s => s.attach request.channel) := by
  have free : c.registry.hasListener request.channel = false := by
    simpa [Registry.hasListener] using fresh
  have unknown : request.channel ∉
      (c.registry.add request.channel request.filter request.callback).1.listeners := fresh
  simp only [withSubscription, streamFor, free, Bool.false_eq_true, if_false,
    Registry.listen_of_not_mem unknown]
  exact ⟨rfl, rfl, trivial⟩

/-- The configs of a callback's live subscriptions. -/
def configsOf (c : Connection) (callback : Callback) : List SubscriptionConfig :=
  (c.registry.subscriptions.filter (fun s => s.callback == callback)).map Subscription.config

/-- The connection after the subscriptions of a callback were removed. -/
def withoutCallback (c : Connection) (callback : Callback) (listener : Option AckListener) :
    Connection :=
  { c with
    registry := { c.registry with
      subscriptions := c.registry.subscriptions.filter (fun s => s.callback != callback) }
    batcher := Batcher.accept
      { c.batcher with unsubscribe := c.batcher.unsubscribe ++ c.configsOf callback } listener
    timer := ⟨c.timer.generation + 1 + 1, some (c.timer.generation + 1 + 1)⟩ }

/-- The deeds of whoever puts off the flush: the armed one is cancelled and a new one armed. -/
def rearming (c : Connection) : List Command :=
  c.timer.pending.toList.map .cancelFlush ++
    [.armFlush c.settings.batchDelay (c.timer.generation + 1 + 1)]

/-- A channel is listened on with one listener, which is attached to an open stream. -/
theorem listenOn_eq (c : Connection) (channel : String) :
    c.listenOn channel = { c with
      registry := c.registry.listen channel c.isConnected
      stream := c.streamFor channel } := by
  unfold listenOn Registry.claimListener Registry.listen streamFor isConnected
  by_cases claimed : c.registry.hasListener channel
  · simp [claimed]
  · cases opened : c.stream with
    | none => simp [claimed, Registry.queueListener]
    | some stream => simp [claimed]

/-- A listener is taken in exactly when the answer is good. -/
theorem awaitAck_eq (c : Connection) (listener : Option AckListener) :
    c.awaitAck listener =
      (c.batcher.reception listener).map
        (fun _ => { c with batcher := c.batcher.accept listener }) := by
  cases listener with
  | none => rfl
  | some l =>
    simp only [awaitAck, Batcher.reception, Batcher.accept, Batcher.addListener, Option.elim_some]
    cases (c.batcher.slot? c.batcher.batchId) <;> rfl

/-- Subscribing without a channel is refused and changes nothing. -/
theorem subscribe_nameless {c : Connection} {request : SubscribeRequest}
    (nameless : request.channel.isEmpty = true) :
    (c.subscribe request).1 = c ∧ deeds (c.subscribe request).2.1 = [] ∧
      (c.subscribe request).2.2 = .error .missingChannel := by
  simp [subscribe, nameless, log, Command.isNote]

/-- Subscribing adds the subscription, puts off the flush, and answers as its listener is
received. Whatever the answer is, the subscription stays. -/
theorem subscribe_named {c : Connection} {request : SubscribeRequest}
    (named : request.channel.isEmpty = false) :
    (c.subscribe request).1 = c.withSubscription request ∧
      deeds (c.subscribe request).2.1 = c.rearming ∧
      (c.subscribe request).2.2 = c.batcher.reception request.onSubscribed := by
  have same : (c.batcher.queueSubscribe (SubscriptionConfig.ofChannel request.channel
      request.filter)).reception request.onSubscribed =
      c.batcher.reception request.onSubscribed := rfl
  unfold subscribe
  simp only [named, Bool.false_eq_true, if_false, listenOn_eq, awaitAck_eq, cancelFlush,
    scheduleFlush, Registry.add]
  rw [same]
  -- a listener is refused last, when all else was changed already
  cases received : c.batcher.reception request.onSubscribed with
  | ok u =>
    refine ⟨rfl, ?_, rfl⟩
    simp [Except.map, rearming, log, Command.isNote, DebounceTimer.cancel, DebounceTimer.arm]
  | error e =>
    refine ⟨?_, ?_, rfl⟩
    · simp only [Except.map, withSubscription, Registry.add]
      rw [Batcher.accept_of_refused (same.trans received)]
      rfl
    · simp [Except.map, rearming, log, Command.isNote, DebounceTimer.cancel, DebounceTimer.arm,
        refusedListener]

/-- Unsubscribing removes all subscriptions of a callback and puts off the flush, also where there
are none. -/
theorem unsubscribe_eq (c : Connection) (callback : Callback) (listener : Option AckListener) :
    (c.unsubscribe callback listener).1 = c.withoutCallback callback listener ∧
      deeds (c.unsubscribe callback listener).2.1 = c.rearming ∧
      (c.unsubscribe callback listener).2.2 = c.batcher.reception listener := by
  have same : Batcher.reception { c.batcher with
      unsubscribe := c.batcher.unsubscribe ++ c.configsOf callback } listener =
      c.batcher.reception listener := rfl
  unfold unsubscribe
  simp only [Registry.remove_eq, Batcher.foldl_queueUnsubscribe, awaitAck_eq, cancelFlush,
    scheduleFlush]
  rw [configsOf] at same
  rw [same]
  cases received : c.batcher.reception listener with
  | ok u =>
    refine ⟨rfl, ?_, rfl⟩
    simp [Except.map, rearming, log, Command.isNote, DebounceTimer.cancel, DebounceTimer.arm]
  | error e =>
    refine ⟨?_, ?_, rfl⟩
    · simp only [Except.map, withoutCallback, configsOf]
      rw [Batcher.accept_of_refused (same.trans received)]
      rfl
    · simp [Except.map, rearming, log, Command.isNote, DebounceTimer.cancel, DebounceTimer.arm,
        refusedListener]

/-! ## flushing -/

/-- The batch that a flush would make for a session and a server. -/
def nextBatch (c : Connection) (session : Session) (server : String) : OutgoingBatch :=
  { batchId := c.batcher.batchId
    url := Endpoint.configureUrl server c.batcher.batchId
    request := ⟨c.batcher.subscribe, c.batcher.unsubscribe, session.dispatcherId⟩
    session }

/-- The timer of a flush that was let through. -/
def fired (c : Connection) : DebounceTimer := ⟨c.timer.generation, none⟩

/-- The batcher after its batch was taken. -/
def emptied (c : Connection) : Batcher :=
  Batcher.advance { c.batcher with subscribe := [], unsubscribe := [] }

section flushes

variable {c : Connection} {session : Session} {server : String}

/-- A flush of another generation does nothing. -/
theorem flush_stale {generation : UInt64}
    (stale : generation ≠ c.timer.generation) (pushes : Bool) :
    (c.flush generation pushes).1 = c ∧ deeds (c.flush generation pushes).2 = [] := by
  simp [flush, DebounceTimer.fire?, stale, log, Command.isNote]

/-- Without a session, a flush of a transport that can push tries again later. -/
theorem flush_waiting (unknown : c.session = none) :
    (c.flush c.timer.generation true).1 =
        { c with timer := ⟨c.timer.generation + 1, some (c.timer.generation + 1)⟩ } ∧
      deeds (c.flush c.timer.generation true).2 =
        [.armFlush c.settings.sessionRetryDelay (c.timer.generation + 1)] := by
  simp [flush, DebounceTimer.fire?, unknown, scheduleFlush, DebounceTimer.arm,
    DebounceTimer.cancel, log, Command.isNote]

/-- Without a session, a flush of a transport that cannot push gives up. -/
theorem flush_kept (unknown : c.session = none) :
    (c.flush c.timer.generation false).1 = { c with timer := c.fired } ∧
      deeds (c.flush c.timer.generation false).2 = [] := by
  simp [flush, DebounceTimer.fire?, unknown, fired, log, Command.isNote]

/-- Without a server there is nowhere to post to: the flush is over and the changes wait. -/
theorem flush_homeless (known : c.session = some session)
    (homeless : c.serverUrl = none) (pushes : Bool) :
    (c.flush c.timer.generation pushes).1 = { c with timer := c.fired } ∧
      deeds (c.flush c.timer.generation pushes).2 = [] := by
  simp [flush, DebounceTimer.fire?, known, homeless, fired, log, Command.isNote]

/-- Without changes a flush is over at once. -/
theorem flush_idle (known : c.session = some session)
    (found : c.serverUrl = some server) (idle : c.batcher.hasPending = false) (pushes : Bool) :
    (c.flush c.timer.generation pushes).1 = { c with timer := c.fired } ∧
      deeds (c.flush c.timer.generation pushes).2 = [] := by
  simp [flush, DebounceTimer.fire?, known, found, sendPending, Batcher.take?, idle, fired, log,
    Command.isNote]

/-- A flush takes the batch, opens the next one, and puts the taken one behind those that wait. -/
theorem flush_sent (known : c.session = some session)
    (found : c.serverUrl = some server) (waits : c.batcher.hasPending = true)
    (running : c.outbox.stopped = false) (pushes : Bool) :
    (c.flush c.timer.generation pushes).1 =
        { c with
          timer := c.fired
          batcher := c.emptied
          outbox := { c.outbox with
            waiting := c.outbox.waiting ++ [c.nextBatch session server] } } ∧
      deeds (c.flush c.timer.generation pushes).2 = [.wakeSender] := by
  simp [flush, DebounceTimer.fire?, known, found, sendPending, Batcher.take?, waits, handOver,
    Outbox.put?, running, fired, emptied, nextBatch, log, Command.isNote]

/-- What is flushed after the sender was lost is gone. -/
theorem flush_lost (known : c.session = some session)
    (found : c.serverUrl = some server) (waits : c.batcher.hasPending = true)
    (stopped : c.outbox.stopped = true) (pushes : Bool) :
    (c.flush c.timer.generation pushes).1 =
        { c with timer := c.fired, batcher := c.emptied } ∧
      deeds (c.flush c.timer.generation pushes).2 = [] := by
  simp [flush, DebounceTimer.fire?, known, found, sendPending, Batcher.take?, waits, handOver,
    Outbox.put?, stopped, fired, emptied, log, Command.isNote]

end flushes

/-! ## the sender -/

/-- A post begins with the batch that has waited longest. -/
theorem beginPost?_eq_some {c c' : Connection} {batch : OutgoingBatch}
    (begun : c.beginPost? = some (c', batch)) :
    c.outbox.posting = none ∧ c.outbox.stopped = false ∧
      ∃ rest, c.outbox.waiting = batch :: rest ∧
        c' = { c with outbox := ⟨rest, some batch, false⟩ } := by
  unfold beginPost? Outbox.next? at begun
  cases posting : c.outbox.posting with
  | some b => simp [posting] at begun
  | none =>
    cases waiting : c.outbox.waiting with
    | nil => simp [posting, waiting] at begun
    | cons first rest =>
      cases stopped : c.outbox.stopped with
      | true => simp [posting, waiting, stopped] at begun
      | false =>
        simp only [posting, waiting, stopped, Bool.false_eq_true, if_false, Option.map_some,
          Option.some.injEq, Prod.mk.injEq] at begun
        obtain ⟨rfl, rfl⟩ := begun
        exact ⟨rfl, rfl, rest, rfl, rfl⟩

/-- The end of a post makes way for the next one, whatever its result is. -/
theorem endPost_eq (c : Connection) (result : Except TransportError Unit) :
    (c.endPost result).1 = { c with outbox := { c.outbox with posting := none } } ∧
      deeds (c.endPost result).2 = [] := by
  simp [endPost, Outbox.finish]

/-! ## receiving -/

/-- The connection after a session was announced. -/
def withSession (c : Connection) (session : Session) : Connection :=
  { c with
    session := some session
    hook := none
    timer := if c.batcher.hasPending then
      ⟨c.timer.generation + 1, some (c.timer.generation + 1)⟩ else c.timer }

/-- The calls for an announced session: the hook, the first time. -/
def hookCalls (c : Connection) (session : Session) : List Command :=
  c.hook.toList.map (fun hook => .call (.session hook session))

/-- The deeds for an announced session: what waits is flushed at once, and the hook is called. -/
def greeting (c : Connection) (session : Session) : List Command :=
  (if c.batcher.hasPending then
    c.timer.pending.toList.map .cancelFlush ++ [.armFlush 0 (c.timer.generation + 1)]
  else []) ++ c.hookCalls session

/-- An announced session replaces the one before and lets the flush run at once. -/
theorem receiveSession_eq (c : Connection) (session : Session) :
    (c.receiveSession session).1 = c.withSession session ∧
      deeds (c.receiveSession session).2 = c.greeting session := by
  cases waits : c.batcher.hasPending with
  | true =>
    simp [receiveSession, withSession, greeting, hookCalls, scheduleFlush, DebounceTimer.arm,
      DebounceTimer.cancel, waits, log, Command.isNote]
  | false => simp [receiveSession, withSession, greeting, hookCalls, waits, log, Command.isNote]

/-- An `open` frame that announces nothing changes nothing. -/
theorem receiveOpen_quiet {c : Connection} {data : String}
    (unread : ∀ session, Text.isAllBlank data = false → Session.read data ≠ .ok session) :
    (c.receiveOpen data).1 = c ∧ deeds (c.receiveOpen data).2 = [] := by
  unfold receiveOpen
  cases blank : Text.isAllBlank data with
  | true => simp [log, Command.isNote]
  | false =>
    cases read : Session.read data with
    | error e => simp [log, Command.isNote]
    | ok session => exact absurd read (unread session blank)

/-- An `open` frame announces the session that its data are read as. -/
theorem receiveOpen_session {c : Connection} {data : String} {session : Session}
    (full : Text.isAllBlank data = false) (read : Session.read data = .ok session) :
    c.receiveOpen data = c.receiveSession session := by
  simp [receiveOpen, full, read]

/-- An acknowledgment that cannot be read changes nothing. -/
theorem receiveAck_quiet {c : Connection} {data : String} {e : Json.Error}
    (unread : Acknowledgment.read data = .error e) :
    (c.receiveAck data).1 = c ∧ deeds (c.receiveAck data).2 = [] := by
  simp [receiveAck, unread, log, Command.isNote]

/-- An acknowledgment closes the slot of its batch and calls the listeners in it. -/
theorem receiveAck_read {c : Connection} {data : String} {ack : Acknowledgment}
    (read : Acknowledgment.read data = .ok ack) :
    (c.receiveAck data).1 =
        { c with batcher := (c.batcher.acknowledge ack.batchId.toNat).1 } ∧
      deeds (c.receiveAck data).2 = (c.batcher.acknowledge ack.batchId.toNat).2.map
        (fun l => .call (.acknowledged l)) := by
  simp [receiveAck, read, log, Command.isNote]

/-- The calls that a frame on a channel leads to. -/
def eventCalls (c : Connection) (channel data : String) : List Command :=
  if c.isAttached channel then
    match c.registry.deliveries channel data with
    | .error _ => []
    | .ok d => d.matched.map (fun m => .call (.event m.1 m.2))
  else []

/-- A frame on a channel leads to calls with events and to nothing else. -/
theorem eventCalls_eq_map (c : Connection) (channel data : String) :
    ∃ matched : List (Callback × Event),
      c.eventCalls channel data = matched.map (fun m => .call (.event m.1 m.2)) := by
  unfold eventCalls
  split
  · cases c.registry.deliveries channel data with
    | error e => exact ⟨[], rfl⟩
    | ok d => exact ⟨d.matched, rfl⟩
  · exact ⟨[], rfl⟩

/-- Putting off a flush makes no call. -/
theorem callsOf_rearming (c : Connection) : callsOf c.rearming = [] := by
  rw [rearming, callsOf_append, callsOf_map_cancelFlush]
  rfl

/-- The only call for an announced session is that of the hook. -/
theorem callsOf_greeting (c : Connection) (session : Session) :
    callsOf (c.greeting session) = c.hook.toList.map (fun hook => .session hook session) := by
  rw [greeting, callsOf_append, hookCalls, callsOf_map_call]
  cases c.batcher.hasPending with
  | false => rfl
  | true =>
    rw [if_pos rfl, callsOf_append, callsOf_map_cancelFlush]
    rfl

/-- All that is done about a frame on a channel are these calls. -/
theorem deeds_receiveEvent (c : Connection) (channel data : String) :
    deeds (c.receiveEvent channel data) = c.eventCalls channel data := by
  unfold receiveEvent eventCalls
  cases attached : c.isAttached channel with
  | false => simp [log, Command.isNote]
  | true =>
    simp only [Bool.not_true, Bool.false_eq_true, if_false, if_true, deeds_append]
    cases c.registry.deliveries channel data with
    | error e => cases Event.read data <;> simp [log, Command.isNote]
    | ok d =>
      obtain ⟨candidates, matched⟩ := d
      cases matched with
      | nil => cases Event.read data <;> simp [log, Command.isNote]
      | cons first rest => cases Event.read data <;> simp [Command.isNote]

/-- A frame with no reserved name is one on a channel, and changes nothing. -/
theorem receive_event {c : Connection} {frame : EventStream.Frame}
    (unreserved : frame.event ∉ [openFrame, configureFrame, reloadFrame]) :
    c.receive frame = (c, c.receiveEvent frame.event frame.data) := by
  have other : frame.event ≠ openFrame ∧ frame.event ≠ configureFrame ∧
      frame.event ≠ reloadFrame := by simpa using unreserved
  simp [receive, other]

/-- A frame on a channel calls the callbacks of the subscriptions that it satisfies, if the
channel is attached. -/
theorem callsOf_receive_event (c : Connection) (frame : EventStream.Frame) {e : Event}
    (unreserved : frame.event ∉ [openFrame, configureFrame, reloadFrame])
    (readable : Event.read frame.data = .ok e) :
    callsOf (c.receive frame).2 = if c.isAttached frame.event then
      ((c.registry.onChannel frame.event).filter (fun s => e.satisfies s.config)).map
        (fun s => .event s.callback e)
    else [] := by
  rw [receive_event unreserved, callsOf_of_deeds (c.deeds_receiveEvent _ _), eventCalls,
    Registry.deliveries_of_read _ _ readable]
  cases c.isAttached frame.event with
  | false => rfl
  | true => simp only [if_true, callsOf_map_call, List.map_map, Function.comp_def]

/-! ## opening and closing -/

/-- A channel is attached if the open stream has it. -/
theorem isAttached_iff {c : Connection} {stream : PushStream} (opened : c.stream = some stream) :
    c.isAttached channel = true ↔ channel ∈ stream.attached := by
  simp [isAttached, opened]

/-- The stream of a connect attaches all channels that were queued, and empties the queue. -/
theorem openStream_eq (c : Connection) (attempt : ConnectAttempt) (id : StreamId) :
    (c.openStream attempt id).1 =
        { c with
          connecting := false
          registry := { c.registry with queue := [] }
          stream := some (c.registry.queue.foldl PushStream.attach ⟨id, []⟩) } ∧
      deeds (c.openStream attempt id).2 = [.startReader id] := by
  simp [openStream, Registry.takeQueue, log, Command.isNote]

/-- Without a stream, disconnecting only begins a new epoch and gives up a connect. -/
theorem disconnect_closed {c : Connection} (closed : c.stream = none) :
    (c.disconnect).1 = { c with epoch := c.epoch + 1, connecting := false } ∧
      deeds c.disconnect.2 = [] := by
  simp [disconnect, closed]

/-- With a stream, disconnecting also ends it, and with it all channel listeners. -/
theorem disconnect_open {c : Connection} {stream : PushStream} (opened : c.stream = some stream) :
    (c.disconnect).1 =
        { c with
          epoch := c.epoch + 1
          connecting := false
          registry := { c.registry with listeners := [] }
          stream := none } ∧
      deeds c.disconnect.2 = [.stopReader stream.id] := by
  simp [disconnect, opened, Registry.drainListeners, log, Command.isNote]

/-- Whoever is abandoned ends the stream and the armed flush, and keeps the rest. -/
theorem abandon_eq (c : Connection) :
    c.abandon.1 = { c with stream := none, timer := ⟨c.timer.generation + 1, none⟩ } ∧
      deeds c.abandon.2 = c.stream.toList.map (fun s => .stopReader s.id) ++
        c.timer.pending.toList.map .cancelFlush := by
  simp [abandon, cancelFlush, DebounceTimer.cancel]

end Connection

end GatewayClient

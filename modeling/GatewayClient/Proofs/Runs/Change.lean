import GatewayClient.Proofs.Connection.Operations
import GatewayClient.Proofs.Runs.System

/-!
# GatewayClient.Proofs.Runs.Change

What a step can do to its connection. `Change` lists every way in which a connection goes on,
with the conditions under which it does and the deeds that come of it; `change_of_take?` says
that a step is one of them and touches no other connection. What holds of every run is shown by
cases on `Change`, and no operation is opened again for it.
-/

namespace GatewayClient.Runs

open Connection (openFrame configureFrame reloadFrame)

/-- The ways in which a connection goes on, among its surroundings. -/
inductive Change (around : Surroundings) : Member → Action → Outcome → Member → Prop
  | nameless (request : SubscribeRequest) (commands : List Command)
      (unnamed : request.channel.isEmpty = true) (quiet : deeds commands = []) :
      Change around ⟨c, false⟩ (.subscribe request)
        { commands, answer := .error .missingChannel } ⟨c, false⟩
  | subscribe (request : SubscribeRequest) (commands : List Command)
      (named : request.channel.isEmpty = false) (done : deeds commands = c.rearming) :
      Change around ⟨c, false⟩ (.subscribe request)
        { commands, answer := c.batcher.reception request.onSubscribed }
        ⟨c.withSubscription request, false⟩
  | unsubscribe (callback : Callback) (listener : Option AckListener) (commands : List Command)
      (done : deeds commands = c.rearming) :
      Change around ⟨c, false⟩ (.unsubscribe callback listener)
        { commands, answer := c.batcher.reception listener }
        ⟨c.withoutCallback callback listener, false⟩
  | connectRefused (pushes : Bool) (moment : Moment) (commands : List Command)
      (answer : Except ClientError Unit)
      (reason : answer = .ok () ∨ answer = .error (.alreadyConnected c.clientId))
      (quiet : deeds commands = []) :
      Change around ⟨c, false⟩ (.beginConnect pushes moment) { commands, answer } ⟨c, false⟩
  | connectInert (pushes : Bool) (moment : Moment) (commands : List Command)
      (idle : c.isOpening = false) (quiet : deeds commands = [])
      (server : c.serverUrl.isSome → serverUrl.isSome) :
      Change around ⟨c, false⟩ (.beginConnect pushes moment) { commands }
        ⟨{ c with tab := some tab, serverUrl }, false⟩
  | connectBegun (moment : Moment) (commands : List Command)
      (idle : c.isOpening = false) (quiet : deeds commands = []) :
      Change around ⟨c, false⟩ (.beginConnect true moment)
        { commands, attempt := some ⟨server, tab, c.epoch⟩ }
        ⟨{ c with tab := some tab, serverUrl := some server, connecting := true }, false⟩
  | connectOvertaken (attempt : ConnectAttempt) (failure : Option TransportError)
      (commands : List Command) (waited : attempt ∈ around.attempts)
      (overtaken : c.epoch ≠ attempt.epoch) (quiet : deeds commands = []) :
      Change around ⟨c, false⟩ (.endConnect attempt failure) { commands } ⟨c, false⟩
  | connectOpened (attempt : ConnectAttempt) (id : StreamId) (commands : List Command)
      (waited : attempt ∈ around.attempts) (current : c.epoch = attempt.epoch)
      (done : deeds commands = [.startReader id]) :
      Change around ⟨c, false⟩ (.endConnect attempt none) { commands }
        ⟨{ c with
            connecting := false
            registry := { c.registry with queue := [] }
            stream := some (c.registry.queue.foldl PushStream.attach ⟨id, []⟩) }, false⟩
  | connectFailed (attempt : ConnectAttempt) (e : TransportError) (commands : List Command)
      (waited : attempt ∈ around.attempts) (current : c.epoch = attempt.epoch)
      (quiet : deeds commands = []) :
      Change around ⟨c, false⟩ (.endConnect attempt (some e))
        { commands, answer := .error (.transport e) } ⟨{ c with connecting := false }, false⟩
  | disconnectClosed (commands : List Command) (closed : c.stream = none)
      (quiet : deeds commands = []) :
      Change around ⟨c, false⟩ .disconnect { commands }
        ⟨{ c with epoch := c.epoch + 1, connecting := false }, false⟩
  | disconnectOpen (stream : PushStream) (commands : List Command)
      (opened : c.stream = some stream) (done : deeds commands = [.stopReader stream.id]) :
      Change around ⟨c, false⟩ .disconnect { commands }
        ⟨{ c with
            epoch := c.epoch + 1
            connecting := false
            registry := { c.registry with listeners := [] }
            stream := none }, false⟩
  | drop (commands : List Command)
      (done : deeds commands = c.stream.toList.map (fun s => .stopReader s.id) ++
        c.timer.pending.toList.map .cancelFlush) :
      Change around ⟨c, false⟩ .drop { commands }
        ⟨{ c with stream := none, timer := ⟨c.timer.generation + 1, none⟩ }, true⟩
  | openIgnored (stream : StreamId) (frame : EventStream.Frame) (commands : List Command)
      (named : frame.event = openFrame)
      (unread : ∀ session, Text.isAllBlank frame.data = false →
        Session.read frame.data ≠ .ok session)
      (quiet : deeds commands = []) :
      Change around ⟨c, false⟩ (.receive stream frame) { commands } ⟨c, false⟩
  | opened (stream : StreamId) (frame : EventStream.Frame) (session : Session)
      (commands : List Command) (reader : stream ∈ around.readers)
      (named : frame.event = openFrame) (full : Text.isAllBlank frame.data = false)
      (read : Session.read frame.data = .ok session)
      (done : deeds commands = c.greeting session) :
      Change around ⟨c, false⟩ (.receive stream frame) { commands }
        ⟨c.withSession session, false⟩
  | ackIgnored (stream : StreamId) (frame : EventStream.Frame) (commands : List Command)
      (named : frame.event = configureFrame) (unread : Acknowledgment.read frame.data = .error e)
      (quiet : deeds commands = []) :
      Change around ⟨c, false⟩ (.receive stream frame) { commands } ⟨c, false⟩
  | acknowledged (stream : StreamId) (frame : EventStream.Frame) (ack : Acknowledgment)
      (commands : List Command) (named : frame.event = configureFrame)
      (read : Acknowledgment.read frame.data = .ok ack)
      (done : deeds commands = (c.batcher.acknowledge ack.batchId.toNat).2.map
        (fun l => .call (.acknowledged l))) :
      Change around ⟨c, false⟩ (.receive stream frame) { commands }
        ⟨{ c with batcher := (c.batcher.acknowledge ack.batchId.toNat).1 }, false⟩
  | reloaded (stream : StreamId) (frame : EventStream.Frame) (commands : List Command)
      (named : frame.event = reloadFrame) (done : deeds commands = [.reload]) :
      Change around ⟨c, false⟩ (.receive stream frame) { commands } ⟨c, false⟩
  | event (stream : StreamId) (frame : EventStream.Frame) (commands : List Command)
      (unreserved : frame.event ∉ [openFrame, configureFrame, reloadFrame])
      (done : deeds commands = c.eventCalls frame.event frame.data) :
      Change around ⟨c, false⟩ (.receive stream frame) { commands } ⟨c, false⟩
  | streamEnded (stream : StreamId) (commands : List Command) (quiet : deeds commands = []) :
      Change around ⟨c, false⟩ (.endStream stream) { commands } ⟨c, false⟩
  | flushStale (task : Nat) (generation : UInt64) (pushes : Bool) (commands : List Command)
      (reported : around.flushes[task]? = some f) (own : f.generation = generation)
      (stale : generation ≠ c.timer.generation) (quiet : deeds commands = []) :
      Change around ⟨c, false⟩ (.flush task generation pushes) { commands } ⟨c, false⟩
  | flushWaiting (task : Nat) (commands : List Command) (unknown : c.session = none)
      (done : deeds commands =
        [.armFlush c.settings.sessionRetryDelay (c.timer.generation + 1)]) :
      Change around ⟨c, false⟩ (.flush task c.timer.generation true) { commands }
        ⟨{ c with timer := ⟨c.timer.generation + 1, some (c.timer.generation + 1)⟩ }, false⟩
  | flushKept (task : Nat) (commands : List Command) (unknown : c.session = none)
      (quiet : deeds commands = []) :
      Change around ⟨c, false⟩ (.flush task c.timer.generation false) { commands }
        ⟨{ c with timer := c.fired }, false⟩
  | flushHomeless (task : Nat) (pushes : Bool) (commands : List Command)
      (known : c.session = some session) (homeless : c.serverUrl = none)
      (quiet : deeds commands = []) :
      Change around ⟨c, false⟩ (.flush task c.timer.generation pushes) { commands }
        ⟨{ c with timer := c.fired }, false⟩
  | flushIdle (task : Nat) (pushes : Bool) (commands : List Command)
      (known : c.session = some session) (idle : c.batcher.hasPending = false)
      (quiet : deeds commands = []) :
      Change around ⟨c, false⟩ (.flush task c.timer.generation pushes) { commands }
        ⟨{ c with timer := c.fired }, false⟩
  | flushSent (task : Nat) (pushes : Bool) (commands : List Command)
      (known : c.session = some session) (found : c.serverUrl = some server)
      (waits : c.batcher.hasPending = true) (running : c.outbox.stopped = false)
      (done : deeds commands = [.wakeSender]) :
      Change around ⟨c, false⟩ (.flush task c.timer.generation pushes) { commands }
        ⟨{ c with
            timer := c.fired
            batcher := c.emptied
            outbox := { c.outbox with
              waiting := c.outbox.waiting ++ [c.nextBatch session server] } }, false⟩
  | flushLost (task : Nat) (pushes : Bool) (commands : List Command)
      (known : c.session = some session) (found : c.serverUrl = some server)
      (waits : c.batcher.hasPending = true) (stopped : c.outbox.stopped = true)
      (quiet : deeds commands = []) :
      Change around ⟨c, false⟩ (.flush task c.timer.generation pushes) { commands }
        ⟨{ c with timer := c.fired, batcher := c.emptied }, false⟩
  | beginPost (batch : OutgoingBatch) (rest : List OutgoingBatch) (idle : c.outbox.posting = none)
      (running : c.outbox.stopped = false) (waiting : c.outbox.waiting = batch :: rest) :
      Change around ⟨c, dropped⟩ .beginPost { posted := some batch }
        ⟨{ c with outbox := ⟨rest, some batch, false⟩ }, dropped⟩
  | endPost (batch : OutgoingBatch) (result : Except TransportError Unit)
      (commands : List Command) (posting : c.outbox.posting = some batch)
      (quiet : deeds commands = []) :
      Change around ⟨c, dropped⟩ (.endPost result) { commands }
        ⟨{ c with outbox := { c.outbox with posting := none } }, dropped⟩
  | loseSender : Change around ⟨c, dropped⟩ .loseSender {} ⟨c.stopSender, dropped⟩

/-! ## what stays -/

/-- A connection keeps its identity. -/
theorem Change.clientId (change : Change around x action outcome y) :
    y.connection.clientId = x.connection.clientId := by
  cases change <;> rfl

/-- A connection keeps the URL that its caller gave. -/
theorem Change.configuredUrl (change : Change around x action outcome y) :
    y.connection.configuredUrl = x.connection.configuredUrl := by
  cases change <;> rfl

/-- A connection keeps the settings with which it was made. -/
theorem Change.settings (change : Change around x action outcome y) :
    y.connection.settings = x.connection.settings := by
  cases change <;> rfl

/-- Whether an action may change where frames go: who subscribes to what, and what is attached to
the stream. -/
def Action.reroutes : Action → Bool
  | .subscribe _ | .unsubscribe _ _ | .endConnect _ _ | .disconnect | .drop => true
  | _ => false

/-- All other actions leave subscriptions, listeners and stream as they are. -/
theorem Change.routing (change : Change around x action outcome y)
    (still : action.reroutes = false) :
    y.connection.registry = x.connection.registry ∧ y.connection.stream = x.connection.stream := by
  cases change with
  | subscribe | unsubscribe | connectOpened | disconnectOpen | drop => contradiction
  | _ => exact ⟨rfl, rfl⟩

/-- No connection comes back. -/
theorem Change.alive (change : Change around x action outcome y) (live : y.dropped = false) :
    x.dropped = false := by
  cases change with
  | drop commands done => contradiction
  | beginPost batch rest idle running waiting => exact live
  | endPost batch result commands posting quiet => exact live
  | loseSender => exact live
  | _ => rfl

/-! ## calls -/

/-- The calls that an action leads to: only frames make calls. -/
def callsFor (c : Connection) : Action → List Invocation
  | .receive _ frame =>
    if frame.event = openFrame then
      if Text.isAllBlank frame.data then []
      else match Session.read frame.data with
        | .error _ => []
        | .ok session => c.hook.toList.map (fun hook => .session hook session)
    else if frame.event = configureFrame then
      match Acknowledgment.read frame.data with
      | .error _ => []
      | .ok ack => (c.batcher.acknowledge ack.batchId.toNat).2.map .acknowledged
    else if frame.event = reloadFrame then []
    else callsOf (c.eventCalls frame.event frame.data)
  | _ => []

/-- A change makes the calls that its action leads to. -/
theorem Change.calls (change : Change around x action outcome y) :
    callsOf outcome.commands = callsFor x.connection action := by
  cases change with
  | nameless request commands unnamed quiet => exact callsOf_of_deeds quiet
  | subscribe request commands named done =>
    exact (callsOf_of_deeds done).trans (Connection.callsOf_rearming _)
  | unsubscribe callback listener commands done =>
    exact (callsOf_of_deeds done).trans (Connection.callsOf_rearming _)
  | connectRefused pushes moment commands answer reason quiet => exact callsOf_of_deeds quiet
  | connectInert pushes moment commands idle quiet server => exact callsOf_of_deeds quiet
  | connectBegun moment commands idle quiet => exact callsOf_of_deeds quiet
  | connectOvertaken attempt failure commands waited overtaken quiet =>
    exact callsOf_of_deeds quiet
  | connectOpened attempt id commands waited current done => exact callsOf_of_deeds done
  | connectFailed attempt e commands waited current quiet => exact callsOf_of_deeds quiet
  | disconnectClosed commands closed quiet => exact callsOf_of_deeds quiet
  | disconnectOpen stream commands opened done => exact callsOf_of_deeds done
  | @drop c commands done =>
    rw [callsOf_of_deeds done, callsOf_append, callsOf_map_cancelFlush]
    cases c.stream <;> rfl
  | openIgnored stream frame commands named unread quiet =>
    rw [callsOf_of_deeds quiet, callsFor, if_pos named]
    cases blank : Text.isAllBlank frame.data with
    | true => rfl
    | false =>
      cases read : Session.read frame.data with
      | error e => rfl
      | ok session => exact absurd read (unread session blank)
  | opened stream frame session commands reader named full read done =>
    rw [callsOf_of_deeds done, Connection.callsOf_greeting, callsFor, if_pos named]
    simp [full, read]
  | ackIgnored stream frame commands named unread quiet =>
    rw [callsOf_of_deeds quiet]
    simp [callsFor, named, unread, callsOf, openFrame, configureFrame]
  | acknowledged stream frame ack commands named read done =>
    rw [callsOf_of_deeds done, callsOf_map_call]
    simp [callsFor, named, read, openFrame, configureFrame]
  | reloaded stream frame commands named done =>
    rw [callsOf_of_deeds done]
    simp [callsFor, named, callsOf, Command.call?, openFrame, configureFrame, reloadFrame]
  | event stream frame commands unreserved done =>
    simp only [List.mem_cons, List.not_mem_nil, or_false, not_or] at unreserved
    obtain ⟨noSession, noAck, noReload⟩ := unreserved
    rw [callsOf_of_deeds done, callsFor, if_neg noSession, if_neg noAck, if_neg noReload]
  | streamEnded stream commands quiet => exact callsOf_of_deeds quiet
  | flushStale task generation pushes commands reported own stale quiet =>
    exact callsOf_of_deeds quiet
  | flushWaiting task commands unknown done => exact callsOf_of_deeds done
  | flushKept task commands unknown quiet => exact callsOf_of_deeds quiet
  | flushHomeless task pushes commands known homeless quiet => exact callsOf_of_deeds quiet
  | flushIdle task pushes commands known idle quiet => exact callsOf_of_deeds quiet
  | flushSent task pushes commands known found waits running done => exact callsOf_of_deeds done
  | flushLost task pushes commands known found waits stopped quiet =>
    exact callsOf_of_deeds quiet
  | beginPost batch rest idle running waiting => rfl
  | endPost batch result commands posting quiet => exact callsOf_of_deeds quiet
  | loseSender => rfl

/-! ## members -/

/-- Setting a connection sets its member, which stays dropped if it was. -/
theorem members_set {m : Manager} (known : m.members[key]? = some x) (c : Connection) :
    (m.set key c).members = m.members.set key ⟨c, x.dropped⟩ := by
  apply List.ext_getElem?
  intro i
  by_cases here : key = i
  · obtain ⟨bound, rfl⟩ := List.getElem?_eq_some_iff.mp known
    subst here
    simp [Manager.set, bound]
  · simp [Manager.set, here]

/-- Setting a member to what it is changes nothing. -/
theorem set_self {m : Manager} (known : m.members[key]? = some x) :
    m.members.set key x = m.members := by
  have bound := (List.getElem?_eq_some_iff.mp known).1
  rw [← (List.getElem?_eq_some_iff.mp known).2, List.set_getElem_self]

theorem get?_eq {m : Manager} (known : m.members[key]? = some x) :
    m.get? key = some x.connection := by simp [Manager.get?, known]

/-- What is set is found again. -/
theorem get?_set {m : Manager} (known : m.get? key = some c) (c' : Connection) :
    (m.set key c').get? key = some c' := by
  obtain ⟨x, member, -⟩ := Option.map_eq_some_iff.mp known
  have bound := (List.getElem?_eq_some_iff.mp member).1
  rw [Manager.get?, members_set member, List.getElem?_set_self bound]
  rfl

theorem isLive_eq {m : Manager} (known : m.members[key]? = some x) :
    m.isLive key = !x.dropped := by simp [Manager.isLive, known]

/-- The members do not depend on what is registered. -/
@[simp] theorem members_unregister (m : Manager) (id : ClientId) (key : ConnectionKey) :
    (m.unregister id key).1.members = m.members := by
  unfold Manager.unregister
  split <;> rfl

@[simp] theorem members_register (m : Manager) (id : ClientId) (key : ConnectionKey) :
    (m.register id key).1.members = m.members := by
  unfold Manager.register
  split <;> rfl

/-- A client id is registered unless it belongs to another connection. -/
theorem answer_register (m : Manager) (id : ClientId) (key : ConnectionKey) :
    (m.register id key).2.2 = .ok () ∨ (m.register id key).2.2 = .error (.alreadyConnected id) := by
  unfold Manager.register
  split
  · exact .inr rfl
  · exact .inl rfl

/-- Registrations are only told of. -/
@[simp] theorem deeds_unregister (m : Manager) (id : ClientId) (key : ConnectionKey) :
    deeds (m.unregister id key).2 = [] := by
  unfold Manager.unregister
  split <;> simp [Manager.entry, Command.isNote]

@[simp] theorem deeds_register (m : Manager) (id : ClientId) (key : ConnectionKey) :
    deeds (m.register id key).2.1 = [] := by
  unfold Manager.register
  split <;> simp [Manager.entry, Command.isNote]

/-! ## each operation makes a change -/

section operations

variable {around : Surroundings} {c : Connection}

/-- Subscribing is refused for want of a channel, or adds the subscription. -/
theorem change_subscribe (request : SubscribeRequest) :
    Change around ⟨c, false⟩ (.subscribe request)
      { commands := (c.subscribe request).2.1, answer := (c.subscribe request).2.2 }
      ⟨(c.subscribe request).1, false⟩ := by
  cases named : request.channel.isEmpty with
  | true =>
    obtain ⟨same, quiet, refused⟩ := Connection.subscribe_nameless (c := c) named
    rw [same, refused]
    exact .nameless request _ named quiet
  | false =>
    obtain ⟨added, done, answered⟩ := Connection.subscribe_named (c := c) named
    rw [added, answered]
    exact .subscribe request _ named done

/-- Unsubscribing removes what there is. -/
theorem change_unsubscribe (callback : Callback) (listener : Option AckListener) :
    Change around ⟨c, false⟩ (.unsubscribe callback listener)
      { commands := (c.unsubscribe callback listener).2.1
        answer := (c.unsubscribe callback listener).2.2 }
      ⟨(c.unsubscribe callback listener).1, false⟩ := by
  obtain ⟨removed, done, answered⟩ := c.unsubscribe_eq callback listener
  rw [removed, answered]
  exact .unsubscribe callback listener _ done

/-- A frame announces, acknowledges, asks for a reload, or is one on a channel. -/
theorem change_receive (frame : EventStream.Frame) (reader : stream ∈ around.readers) :
    Change around ⟨c, false⟩ (.receive stream frame) { commands := (c.receive frame).2 }
      ⟨(c.receive frame).1, false⟩ := by
  by_cases announces : frame.event = openFrame
  · rw [show c.receive frame = c.receiveOpen frame.data by simp [Connection.receive, announces]]
    by_cases read : ∃ session, Text.isAllBlank frame.data = false ∧
        Session.read frame.data = .ok session
    · obtain ⟨session, full, read⟩ := read
      obtain ⟨taken, done⟩ := c.receiveSession_eq session
      rw [Connection.receiveOpen_session full read, taken]
      exact .opened stream frame session _ reader announces full read done
    · have unread : ∀ session, Text.isAllBlank frame.data = false →
          Session.read frame.data ≠ .ok session :=
        fun session full ok => read ⟨session, full, ok⟩
      obtain ⟨same, quiet⟩ := Connection.receiveOpen_quiet (c := c) unread
      rw [same]
      exact .openIgnored stream frame _ announces unread quiet
  by_cases acks : frame.event = configureFrame
  · rw [show c.receive frame = c.receiveAck frame.data by
      simp [Connection.receive, acks, openFrame, configureFrame]]
    cases read : Acknowledgment.read frame.data with
    | error e =>
      obtain ⟨same, quiet⟩ := Connection.receiveAck_quiet (c := c) read
      rw [same]
      exact .ackIgnored stream frame _ acks read quiet
    | ok ack =>
      obtain ⟨closed, done⟩ := Connection.receiveAck_read (c := c) read
      rw [closed]
      exact .acknowledged stream frame ack _ acks read done
  by_cases reloads : frame.event = reloadFrame
  · rw [show c.receive frame = (c, [c.log .info "gateway requested a page reload" [], .reload]) by
      simp [Connection.receive, reloads, openFrame, configureFrame, reloadFrame]]
    exact .reloaded stream frame _ reloads (by simp [Connection.log, Command.isNote])
  · have unreserved : frame.event ∉ [openFrame, configureFrame, reloadFrame] := by
      simp [announces, acks, reloads]
    rw [Connection.receive_event unreserved]
    exact .event stream frame _ unreserved (c.deeds_receiveEvent frame.event frame.data)

/-- A flush is out of date, waits for a session, has nothing to do, or sends. -/
theorem change_flush (reported : around.flushes[task]? = some f) (own : f.generation = generation)
    (pushes : Bool) :
    Change around ⟨c, false⟩ (.flush task generation pushes)
      { commands := (c.flush generation pushes).2 } ⟨(c.flush generation pushes).1, false⟩ := by
  by_cases current : generation = c.timer.generation
  · subst current
    cases known : c.session with
    | none =>
      cases pushes with
      | true =>
        obtain ⟨put, done⟩ := Connection.flush_waiting known
        rw [put]
        exact .flushWaiting task _ known done
      | false =>
        obtain ⟨kept, quiet⟩ := Connection.flush_kept known
        rw [kept]
        exact .flushKept task _ known quiet
    | some session =>
      cases found : c.serverUrl with
      | none =>
        obtain ⟨kept, quiet⟩ := Connection.flush_homeless known found pushes
        rw [kept]
        exact .flushHomeless task pushes _ known found quiet
      | some server =>
        cases waits : c.batcher.hasPending with
        | false =>
          obtain ⟨kept, quiet⟩ := Connection.flush_idle known found waits pushes
          rw [kept]
          exact .flushIdle task pushes _ known waits quiet
        | true =>
          cases stopped : c.outbox.stopped with
          | false =>
            obtain ⟨sent, done⟩ := Connection.flush_sent known found waits stopped pushes
            rw [sent]
            exact .flushSent task pushes _ known found waits stopped done
          | true =>
            obtain ⟨lost, quiet⟩ := Connection.flush_lost known found waits stopped pushes
            rw [lost]
            exact .flushLost task pushes _ known found waits stopped quiet
  · obtain ⟨same, quiet⟩ := Connection.flush_stale current pushes
    rw [same]
    exact .flushStale task generation pushes _ reported own current quiet

/-- A connect is refused, leads to nothing, or begins an attempt. -/
theorem change_beginConnect {s : System} (known : s.manager.members[key]? = some ⟨c, false⟩)
    (pushes : Bool) (moment : Moment) :
    ∃ y, (s.perform key c (.beginConnect pushes moment)).1.members =
        s.manager.members.set key y ∧
      Change around ⟨c, false⟩ (.beginConnect pushes moment)
        (s.perform key c (.beginConnect pushes moment)).2 y := by
  simp only [System.perform, Manager.beginConnect, get?_eq known]
  -- a connection that is opening is left alone; else its id decides, and then the server
  cases opening : c.isOpening with
  | true =>
    refine ⟨⟨c, false⟩, (set_self known).symm, ?_⟩
    exact .connectRefused pushes moment _ _ (.inl rfl)
      (by simp [Connection.alreadyConnected, Connection.log, Command.isNote])
  | false =>
    have kept := members_register s.manager c.clientId key
    have quiet := deeds_register s.manager c.clientId key
    have reason := answer_register s.manager c.clientId key
    rcases registered : s.manager.register c.clientId key with ⟨m, log, answer⟩
    rw [registered] at kept quiet reason
    cases answer with
    | error e =>
      refine ⟨⟨c, false⟩, kept.trans (set_self known).symm, ?_⟩
      exact .connectRefused pushes moment _ _ reason quiet
    | ok u =>
      simp only [Bool.false_eq_true, if_false]
      obtain ⟨host, tab, minted⟩ := m.host.resolveTab c.clientId moment
      have told : deeds (if minted then c.mintedTab tab else []) = [] := by
        cases minted <;> simp [Connection.mintedTab, Connection.log, Command.isNote]
      have there : { m with host }.members[key]? = some ⟨c, false⟩ :=
        (congrArg (·[key]?) kept).trans known
      have settled : ∀ c', ({ m with host }.set key c').members =
          s.manager.members.set key ⟨c', false⟩ := by
        intro c'
        rw [members_set there]
        exact congrArg (List.set · key ⟨c', false⟩) kept
      simp only [Connection.beginConnect]
      cases found : Connection.resolveServer { c with tab := some tab } host with
      | none =>
        simp only [Option.elim_none]
        refine ⟨_, settled _, ?_⟩
        exact .connectInert pushes moment _ opening
          (by simp [quiet, told, Connection.log, Command.isNote]) id
      | some server =>
        cases pushes with
        | true =>
          simp only [if_true, Option.elim_some]
          refine ⟨_, settled _, ?_⟩
          exact .connectBegun moment _ opening (by simp [quiet, told])
        | false =>
          simp only [Bool.false_eq_true, if_false, Option.elim_none]
          refine ⟨_, settled _, ?_⟩
          exact .connectInert false moment _ opening
            (by simp [quiet, told, Connection.log, Command.isNote]) (by simp)

/-- The end of a connect comes too late, opens the stream, or tells of a failure. -/
theorem change_endConnect {s : System} (known : s.manager.members[key]? = some ⟨c, false⟩)
    (waited : attempt ∈ around.attempts) (failure : Option TransportError) :
    ∃ y, (s.perform key c (.endConnect attempt failure)).1.members =
        s.manager.members.set key y ∧
      Change around ⟨c, false⟩ (.endConnect attempt failure)
        (s.perform key c (.endConnect attempt failure)).2 y := by
  simp only [System.perform, Manager.endConnect, get?_eq known]
  by_cases current : c.epoch = attempt.epoch
  · have kept : c.isOvertaken attempt = false := by simp [Connection.isOvertaken, current]
    cases failure with
    | none =>
      obtain ⟨opened, done⟩ := c.openStream_eq attempt s.streams
      simp only [kept, Bool.false_eq_true, if_false, Option.elim_none]
      refine ⟨_, members_set known _, ?_⟩
      rw [opened]
      exact .connectOpened attempt s.streams _ waited current done
    | some e =>
      simp only [kept, Bool.false_eq_true, if_false, Option.elim_some]
      refine ⟨_, by rw [members_unregister, members_set known], ?_⟩
      exact .connectFailed attempt e _ waited current
        (by simp [Connection.connectFailed, Connection.log, Command.isNote])
  · have overtaken : c.isOvertaken attempt = true := by simp [Connection.isOvertaken, current]
    simp only [overtaken, if_true]
    refine ⟨⟨c, false⟩, (set_self known).symm, ?_⟩
    exact .connectOvertaken attempt failure _ waited current
      (by simp [Connection.discardAttempt, Connection.log, Command.isNote])

/-- A disconnect ends the stream, if there is one. -/
theorem change_disconnect {s : System} (known : s.manager.members[key]? = some ⟨c, false⟩) :
    ∃ y, (s.perform key c .disconnect).1.members = s.manager.members.set key y ∧
      Change around ⟨c, false⟩ .disconnect (s.perform key c .disconnect).2 y := by
  simp only [System.perform, Manager.disconnect, get?_eq known]
  refine ⟨_, by rw [members_unregister, members_set known], ?_⟩
  cases opened : c.stream with
  | none =>
    obtain ⟨left, quiet⟩ := Connection.disconnect_closed opened
    rw [left]
    exact .disconnectClosed _ opened (by simp [quiet])
  | some stream =>
    obtain ⟨left, done⟩ := Connection.disconnect_open opened
    rw [left]
    exact .disconnectOpen stream _ opened (by simp [done])

/-- A drop ends the stream and the armed flush. -/
theorem change_drop {s : System} (known : s.manager.members[key]? = some ⟨c, false⟩) :
    ∃ y, (s.perform key c .drop).1.members = s.manager.members.set key y ∧
      Change around ⟨c, false⟩ .drop (s.perform key c .drop).2 y := by
  simp only [System.perform, Manager.drop, known, Bool.false_eq_true, if_false]
  obtain ⟨left, done⟩ := c.abandon_eq
  refine ⟨_, by rw [members_unregister], ?_⟩
  rw [left]
  exact .drop _ (by simp [done])

end operations

/-! ## steps -/

/-- A permitted action makes a change. -/
theorem change_of_perform {s : System} {c : Connection}
    (known : s.manager.members[key]? = some ⟨c, dropped⟩)
    (permitted : s.permits key c action = true) :
    ∃ y, (s.perform key c action).1.members = s.manager.members.set key y ∧
      Change (s.around key) ⟨c, dropped⟩ action (s.perform key c action).2 y := by
  have live : s.manager.isLive key = !dropped := isLive_eq known
  cases action with
  | subscribe request =>
    obtain rfl : dropped = false := by simpa [System.permits, live] using permitted
    exact ⟨_, members_set known _, change_subscribe request⟩
  | unsubscribe callback listener =>
    obtain rfl : dropped = false := by simpa [System.permits, live] using permitted
    exact ⟨_, members_set known _, change_unsubscribe callback listener⟩
  | beginConnect pushes moment =>
    obtain rfl : dropped = false := by simpa [System.permits, live] using permitted
    exact change_beginConnect known pushes moment
  | endConnect attempt failure =>
    simp only [System.permits, live, Bool.and_eq_true, Bool.not_eq_true',
      List.contains_iff_mem] at permitted
    obtain ⟨rfl, waited⟩ := permitted
    exact change_endConnect known waited failure
  | disconnect =>
    obtain rfl : dropped = false := by simpa [System.permits, live] using permitted
    exact change_disconnect known
  | drop =>
    obtain rfl : dropped = false := by simpa [System.permits, live] using permitted
    exact change_drop known
  | receive stream frame =>
    simp only [System.permits, live, Bool.and_eq_true, Bool.not_eq_true',
      List.contains_iff_mem] at permitted
    obtain ⟨rfl, reader⟩ := permitted
    simp only [System.perform, Manager.receive, live, Bool.not_false, if_true, Manager.step,
      get?_eq known]
    exact ⟨_, members_set known _, change_receive frame reader⟩
  | endStream stream =>
    simp only [System.permits, live, Bool.and_eq_true, Bool.not_eq_true'] at permitted
    obtain ⟨rfl, -⟩ := permitted
    simp only [System.perform, Manager.streamEnded, live, Bool.not_false, if_true, Manager.step,
      get?_eq known]
    exact ⟨_, members_set known _, .streamEnded stream _
      (by simp [Connection.streamEnded, Connection.log, Command.isNote])⟩
  | flush task generation pushes =>
    simp only [System.permits, live, Bool.and_eq_true, Bool.not_eq_true', Option.any_eq_true,
      beq_iff_eq] at permitted
    obtain ⟨rfl, f, reported, own, -⟩ := permitted
    simp only [System.perform, Manager.flush, live, Bool.not_false, if_true, Manager.step,
      get?_eq known]
    exact ⟨_, members_set known _, change_flush reported own pushes⟩
  | beginPost =>
    obtain ⟨⟨c', batch⟩, begun⟩ := Option.isSome_iff_exists.mp permitted
    obtain ⟨idle, running, rest, waiting, rfl⟩ := Connection.beginPost?_eq_some begun
    simp only [System.perform, begun]
    exact ⟨_, members_set known _, .beginPost batch rest idle running waiting⟩
  | endPost result =>
    obtain ⟨batch, posting⟩ := Option.isSome_iff_exists.mp permitted
    obtain ⟨ended, quiet⟩ := c.endPost_eq result
    simp only [System.perform]
    refine ⟨_, members_set known _, ?_⟩
    rw [ended]
    exact .endPost batch result _ posting quiet
  | loseSender => exact ⟨_, members_set known _, .loseSender⟩

/-- A step makes a change of its connection, and the surroundings follow it. -/
theorem change_of_take? {s s' : System} (taken : s.take? key action = some (s', e)) :
    ∃ x y, s.manager.members[key]? = some x ∧
      s'.manager.members = s.manager.members.set key y ∧
      s'.around = Function.update s.around key ((s.around key).after action e.outcome) ∧
      e = ⟨key, action, x.connection, e.outcome⟩ ∧
      s.permits key x.connection action = true ∧
      Change (s.around key) x action e.outcome y := by
  unfold System.take? at taken
  cases got : s.manager.get? key with
  | none => simp [got] at taken
  | some c =>
    obtain ⟨⟨c, dropped⟩, known, rfl⟩ := Option.map_eq_some_iff.mp got
    cases permitted : s.permits key c action with
    | false => simp [got, permitted] at taken
    | true =>
      simp only [got, permitted, if_true, Option.some.injEq, Prod.mk.injEq] at taken
      obtain ⟨rfl, rfl⟩ := taken
      obtain ⟨y, moved, change⟩ := change_of_perform known permitted
      exact ⟨_, y, known, moved, rfl, rfl, permitted, change⟩

/-- A step performs its action. -/
theorem perform_of_take? {s s' : System} (taken : s.take? key action = some (s', e))
    (known : s.manager.get? key = some c) :
    s'.manager = (s.perform key c action).1 ∧
      e = ⟨key, action, c, (s.perform key c action).2⟩ ∧ s'.streams = s.streamsAfter action := by
  simp only [System.take?, known, Option.ite_none_right_eq_some, Option.some.injEq,
    Prod.mk.injEq] at taken
  obtain ⟨-, rfl, rfl⟩ := taken
  exact ⟨rfl, rfl, rfl⟩

/-- Whoever takes a step is still there after it. -/
theorem get?_of_take? {s s' : System} (taken : s.take? key action = some (s', e)) :
    ∃ x y, s.manager.members[key]? = some x ∧ s'.manager.get? key = some y.connection ∧
      Change (s.around key) x action e.outcome y := by
  obtain ⟨x, y, member, moved, -, -, -, change⟩ := change_of_take? taken
  have bound := (List.getElem?_eq_some_iff.mp member).1
  refine ⟨x, y, member, ?_, change⟩
  rw [Manager.get?, moved, List.getElem?_set_self bound]
  rfl

/-- What a step makes of a connection that is known, and of what stands around it. -/
theorem change_of_known {s s' : System} (known : s.manager.get? key = some c)
    (taken : s.take? key action = some (s', e)) :
    ∃ dropped y, s.manager.members[key]? = some ⟨c, dropped⟩ ∧
      s'.manager.get? key = some y.connection ∧
      s'.around key = (s.around key).after action e.outcome ∧
      Change (s.around key) ⟨c, dropped⟩ action e.outcome y := by
  obtain ⟨x, y, member, left, change⟩ := get?_of_take? taken
  obtain ⟨_, _, _, _, around, -, -, -⟩ := change_of_take? taken
  obtain rfl : c = x.connection := Option.some.inj (known.symm.trans (get?_eq member))
  exact ⟨x.dropped, y, member, left, by rw [around, Function.update_self], change⟩

end GatewayClient.Runs

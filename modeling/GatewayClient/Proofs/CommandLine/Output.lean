import GatewayClient.Proofs.CommandLine.Answers
import GatewayClient.Proofs.CommandLine.Arguments
import GatewayClient.Proofs.Connection.Refusals

/-!
# GatewayClient.Proofs.CommandLine.Output

What a listener prints, from its arguments to its last line. While it is connected, frames come,
flushes run and batches are posted in any order; none of this changes where frames go, and only
frames print:

```
printed  =  what was printed before the last subscription,  then  the lines for each frame since
```

`Listener.Has.meet` says it of one step and `Listener.Has.printed_foldl_meet` of a run. What the
lines for a frame are is said in `Answers`, what the arguments tell in `Arguments`.
-/

namespace GatewayClient

open Connection (openFrame configureFrame reloadFrame)
open EventStream (Frame)

/-! ## lines of commands -/

/-- The line that a call prints. -/
def Invocation.line? : Invocation → Option String
  | .event _ e => some e.text
  | _ => none

/-- The lines that commands print. -/
def linesOf (commands : List Command) : List String := (callsOf commands).filterMap Invocation.line?

/-- What is printed can be read off the deeds. -/
theorem linesOf_of_deeds {commands ds : List Command} (done : deeds commands = ds) :
    linesOf commands = linesOf ds := by
  rw [linesOf, callsOf_of_deeds done, linesOf]

/-! ## connections that serve a listener -/

namespace Connection

variable {c : Connection}

/-- A frame is a step of the connection, among surroundings where somebody reads the stream. -/
theorem change_receive (c : Connection) (frame : Frame) :
    Runs.Change ⟨[], [], [0]⟩ ⟨c, false⟩ (.receive 0 frame) { commands := (c.receive frame).2 }
      ⟨(c.receive frame).1, false⟩ :=
  Runs.change_receive frame (List.mem_singleton.mpr rfl)

/-- A frame does not change where the next ones go. -/
theorem routing_receive (c : Connection) (frame : Frame) :
    (c.receive frame).1.registry = c.registry ∧ (c.receive frame).1.stream = c.stream :=
  (c.change_receive frame).routing rfl

/-- Neither does a flush, and it prints nothing. -/
theorem routing_flush (c : Connection) (generation : UInt64) (pushes : Bool) :
    (c.flush generation pushes).1.registry = c.registry ∧
      (c.flush generation pushes).1.stream = c.stream ∧
      linesOf (c.flush generation pushes).2 = [] := by
  -- what a connection does is the same among any surroundings that permit it
  let armed : Runs.ArmedFlush := ⟨generation, 0, false, false⟩
  have reported : [armed][0]? = some armed := rfl
  have change : Runs.Change ⟨[armed], [], []⟩ ⟨c, false⟩ (.flush 0 generation pushes)
      { commands := (c.flush generation pushes).2 } ⟨(c.flush generation pushes).1, false⟩ :=
    Runs.change_flush reported (Eq.refl generation) pushes
  obtain ⟨registry, stream⟩ := change.routing rfl
  exact ⟨registry, stream, congrArg (List.filterMap Invocation.line?) change.calls⟩

/-- A frame with a reserved name prints nothing. -/
theorem linesOf_receive_reserved (frame : Frame)
    (reserved : frame.event ∈ [openFrame, configureFrame, reloadFrame]) :
    linesOf (c.receive frame).2 = [] := by
  have calls : callsOf (c.receive frame).2 = Runs.callsFor c (.receive 0 frame) :=
    (c.change_receive frame).calls
  rw [linesOf, calls, Runs.callsFor]
  split_ifs with announces blank acks reloads
  · rfl
  · cases Session.read frame.data with
    | error e => rfl
    | ok session => simp [Invocation.line?]
  · cases Acknowledgment.read frame.data with
    | error e => rfl
    | ok ack => simp [Invocation.line?]
  · rfl
  · simp [announces, acks, reloads] at reserved

/-- A connection serves a listener: each channel has a subscription of the printer, and all
channels that are listened on are attached to the open stream. -/
structure Serves (c : Connection) (o : CommandLine.Options) (channels : List String) : Prop where
  subscriptions : c.registry.subscriptions = channels.map o.subscription
  opened : ∃ stream, c.stream = some stream ∧ stream.attached = c.registry.listeners
  heard : ∀ channel ∈ channels, channel ∈ c.registry.listeners

namespace Serves

variable {after : Connection} {o : CommandLine.Options} {channels : List String}

/-- A listener is served as long as frames go where they did. -/
theorem of_routing (serves : c.Serves o channels)
    (routing : after.registry = c.registry ∧ after.stream = c.stream) :
    after.Serves o channels := by
  obtain ⟨registry, stream⟩ := routing
  constructor
  · rw [registry]; exact serves.subscriptions
  · rw [registry, stream]; exact serves.opened
  · rw [registry]; exact serves.heard

/-- The channels of a listener that is served are attached. -/
theorem isAttached (serves : c.Serves o channels) (named : channel ∈ channels) :
    c.isAttached channel = true := by
  obtain ⟨stream, opened, attached⟩ := serves.opened
  rw [isAttached_iff opened, attached]
  exact serves.heard channel named

/-- One more subscription is served as well. -/
theorem subscribe (serves : c.Serves o channels) (channel : String) :
    (c.withSubscription (CommandLine.Listener.request o.filter? channel)).Serves o
      (channels ++ [channel]) := by
  obtain ⟨stream, opened, attached⟩ := serves.opened
  constructor
  · rw [(c.onRecord_withSubscription _).1, serves.subscriptions, List.map_append]
    rfl
  · by_cases there : (CommandLine.Listener.request o.filter? channel).channel ∈ c.registry.listeners
    · obtain ⟨listeners, -, same⟩ := withSubscription_of_mem there
      exact ⟨stream, same.trans opened, attached.trans listeners.symm⟩
    · obtain ⟨listeners, -, attaching⟩ := withSubscription_of_not_mem there
      refine ⟨stream.attach channel, by rw [attaching, opened]; rfl, ?_⟩
      rw [PushStream.attach_of_not_mem (attached ▸ there), listeners, attached]
      rfl
  · intro name member
    refine (Registry.mem_listen _ _ _ _).mpr ?_
    rcases List.mem_append.mp member with old | new
    · exact .inl (serves.heard name old)
    · exact .inr (List.mem_singleton.mp new).symm

/-- The calls for a channel's frame print its lines. -/
theorem linesOf_eventCalls (serves : c.Serves o channels) (frame : Frame) :
    linesOf (c.eventCalls frame.event frame.data) =
      CommandLine.linesFor channels o.filters frame := by
  by_cases named : frame.event ∈ channels
  · by_cases object : ∃ fields, Json.Value.read frame.data = .ok (.object fields)
    · obtain ⟨fields, object⟩ := object
      rw [eventCalls_object (serves.isAttached named) object, serves.subscriptions, linesOf,
        callsOf_map_call, CommandLine.linesFor_object object, List.filterMap_map, List.filter_map,
        List.filterMap_map]
      simp only [Function.comp_def, CommandLine.Options.filter_wants]
      split_ifs
      · exact List.filterMap_replicate_of_some rfl
      · rfl
    · have other := not_exists.mp object
      rw [eventCalls_unread other, CommandLine.linesFor_other other]
      rfl
  · have nobody : ∀ s ∈ c.registry.subscriptions, s.config.channel? ≠ some frame.event := by
      rw [serves.subscriptions]
      intro s member on
      obtain ⟨channel, there, rfl⟩ := List.mem_map.mp member
      rw [CommandLine.Options.subscription, SubscriptionConfig.channel?_ofChannel,
        Option.some.injEq] at on
      exact named (on ▸ there)
    rw [eventCalls_unwanted nobody, CommandLine.linesFor_of_not_mem named]
    rfl

/-- What a connection that serves a listener commands for a frame prints its lines. -/
theorem linesOf_receive (serves : c.Serves o channels)
    (unreserved : ∀ channel ∈ channels, channel ∉ [openFrame, configureFrame, reloadFrame])
    (frame : Frame) :
    linesOf (c.receive frame).2 = CommandLine.linesFor channels o.filters frame := by
  by_cases reserved : frame.event ∈ [openFrame, configureFrame, reloadFrame]
  · have unnamed : frame.event ∉ channels := fun named => unreserved _ named reserved
    rw [linesOf_receive_reserved frame reserved, CommandLine.linesFor_of_not_mem unnamed]
  · rw [receive_event reserved, linesOf_of_deeds (c.deeds_receiveEvent _ _),
      serves.linesOf_eventCalls]

end Serves

end Connection

namespace CommandLine.Listener

/-! ## a listener among what happens to it -/

/-- A listener has a connection that was not given up. -/
def Has (l : Listener) (c : Connection) : Prop := l.manager.members[l.key]? = some ⟨c, false⟩

/-- What happens to a connected listener. -/
inductive Occurrence where
  /-- A frame comes. -/
  | frame (frame : Frame)
  /-- The flush that is armed runs. -/
  | flush
  /-- The sender begins to post a batch, if one waits. -/
  | beginPost
  /-- The answer to a batch comes. -/
  | endPost (result : Except TransportError Unit)

/-- The frame that comes, if one does. -/
def Occurrence.frame? : Occurrence → Option Frame
  | .frame f => some f
  | _ => none

/-- Takes something that happens. -/
def meet (l : Listener) : Occurrence → Listener
  | .frame f => l.receive f
  | .flush => l.flush
  | .beginPost => l.beginPost?.elim l Prod.fst
  | .endPost result => l.endPost result

/-- The listener's manager, with nothing under way around its connections. -/
def alone (l : Listener) : Runs.System := ⟨l.manager, fun _ => .empty, 0⟩

/-- A listener subscribes to channels one after the other, and anything may happen before each. -/
inductive Subscribes (filter : Option Filter) : Listener → List String → Listener → Prop where
  | none (l : Listener) : Subscribes filter l [] l
  | next (happening : List Occurrence)
      (done : (happening.foldl meet l).subscribe filter channel = (next, .ok ()))
      (rest : Subscribes filter next channels after) :
      Subscribes filter l (channel :: channels) after

/-- A listener has connected: both of its requests were granted, whatever session id was passed
on. -/
inductive Connected (settings : Settings) (clientId : String) : Listener → Prop where
  | intro (starts : (create settings clientId).beginConnect = (begun, .requesting attempt))
      (jsessionid : Option String) (id : StreamId) :
      Connected settings clientId ((begun.passedSession jsessionid).1.endConnect attempt (.ok id)).1

variable {l : Listener} {c : Connection} {filter : Option Filter} {channels : List String}

/-! ## following commands -/

/-- Commands print their lines, and otherwise concern the armed flush and the log alone. -/
theorem follow_eq (l : Listener) (m : Manager) (commands : List Command) :
    ∃ armed log, l.follow (m, commands) =
      { l with manager := m, armed, printed := l.printed ++ linesOf commands, log } := by
  suffices obeyed : ∀ (commands : List Command) (l : Listener), ∃ armed log, commands.foldl obey l =
      { l with armed, printed := l.printed ++ linesOf commands, log } from obeyed commands _
  intro commands
  induction commands with
  | nil => exact fun l => ⟨l.armed, l.log, by simp [linesOf, callsOf]⟩
  | cons command rest ih =>
    intro l
    obtain ⟨armed, log, done⟩ := ih (l.obey command)
    rw [List.foldl_cons, done]
    cases command with
    | call i =>
      cases i with
      | event callback e =>
        exact ⟨armed, log,
          by simp [obey, invoke, linesOf, callsOf, Command.call?, Invocation.line?]⟩
      | _ => exact ⟨armed, log, rfl⟩
    | _ => exact ⟨armed, log, rfl⟩

@[simp] theorem key_follow (l : Listener) (result : Manager × List Command) :
    (l.follow result).key = l.key := by
  obtain ⟨armed, log, done⟩ := l.follow_eq result.1 result.2
  rw [done]

@[simp] theorem manager_follow (l : Listener) (result : Manager × List Command) :
    (l.follow result).manager = result.1 := by
  obtain ⟨armed, log, done⟩ := l.follow_eq result.1 result.2
  rw [done]

/-- Following a step prints the lines of its calls. -/
theorem printed_follow (l : Listener) (result : Manager × List Command) :
    (l.follow result).printed = l.printed ++ linesOf result.2 := by
  obtain ⟨armed, log, done⟩ := l.follow_eq result.1 result.2
  rw [done]

theorem printed_follow_of_quiet {m : Manager} {commands : List Command}
    (quiet : linesOf commands = []) :
    (l.follow (m, commands)).printed = l.printed := by
  rw [printed_follow, quiet, List.append_nil]

/-! ## what happens -/

theorem Has.connection?_eq (has : l.Has c) : l.connection? = some c := Runs.get?_eq has

theorem Has.get?_eq (has : l.Has c) : l.manager.get? l.key = some c := Runs.get?_eq has

theorem Has.isLive (has : l.Has c) : l.manager.isLive l.key = true := Runs.isLive_eq has

/-- What the manager does for a listener is a step of its connection. -/
theorem Has.change (has : l.Has c) (action : Runs.Action)
    (permitted : l.alone.permits l.key c action = true) :
    ∃ y, (l.alone.perform l.key c action).1.members = l.manager.members.set l.key y ∧
      Runs.Change .empty ⟨c, false⟩ action (l.alone.perform l.key c action).2 y :=
  Runs.change_of_perform (s := l.alone) has permitted

/-- A listener has the connection that is set. -/
theorem Has.set (has : l.Has c) (after : Connection) :
    Has { l with manager := l.manager.set l.key after } after := by
  have bound := (List.getElem?_eq_some_iff.mp has).1
  rw [Has, Runs.members_set has, List.getElem?_set_self bound]

theorem Has.follow (has : l.Has c) (after : Connection) (commands : List Command) :
    (l.follow (l.manager.set l.key after, commands)).Has after := by
  rw [Has, key_follow, manager_follow]
  exact has.set after

/-- A listener takes a frame as its connection does. -/
theorem Has.receive_eq (has : l.Has c) (frame : Frame) :
    l.receive frame = l.follow (l.manager.set l.key (c.receive frame).1, (c.receive frame).2) := by
  rw [receive, Manager.receive, if_pos has.isLive, Manager.step, has.get?_eq]

/-- A listener flushes as its connection does, for the generation that was armed. -/
theorem Has.flush_eq (has : l.Has c) (armed : l.armed = some generation) :
    l.flush = { l with armed := none }.follow
      (l.manager.set l.key (c.flush generation true).1, (c.flush generation true).2) := by
  rw [flush, armed]
  simp only [Manager.flush, has.isLive, if_true, Manager.step, has.get?_eq]

theorem Has.endPost_eq (has : l.Has c) (result : Except TransportError Unit) :
    l.endPost result =
      l.follow (l.manager.set l.key (c.endPost result).1, (c.endPost result).2) := by
  rw [endPost, Manager.step, has.get?_eq]

/-- Whatever happens, the frames to come go where they went before, and only a frame prints. -/
theorem Has.meet (has : l.Has c) (x : Occurrence) :
    ∃ after, (l.meet x).Has after ∧
      (after.registry = c.registry ∧ after.stream = c.stream) ∧
      (l.meet x).printed =
        l.printed ++ x.frame?.elim [] (fun frame => linesOf (c.receive frame).2) := by
  cases x with
  | frame f =>
    refine ⟨(c.receive f).1, ?_, c.routing_receive f, ?_⟩
    · rw [Listener.meet, has.receive_eq]
      exact has.follow _ _
    · rw [Listener.meet, has.receive_eq, printed_follow]
      rfl
  | flush =>
    cases armed : l.armed with
    | none =>
      refine ⟨c, ?_, ⟨rfl, rfl⟩, ?_⟩ <;> rw [Listener.meet, Listener.flush, armed]
      · exact has
      · exact (List.append_nil _).symm
    | some generation =>
      obtain ⟨registry, stream, quiet⟩ := c.routing_flush generation true
      refine ⟨(c.flush generation true).1, ?_, ⟨registry, stream⟩, ?_⟩
      · rw [Listener.meet, has.flush_eq armed]
        exact Has.follow (l := { l with armed := none }) has _ _
      · rw [Listener.meet, has.flush_eq armed, printed_follow_of_quiet quiet]
        exact (List.append_nil _).symm
  | beginPost =>
    cases begun : c.beginPost? with
    | none =>
      have idle : l.beginPost? = none := by simp [Listener.beginPost?, has.connection?_eq, begun]
      refine ⟨c, ?_, ⟨rfl, rfl⟩, ?_⟩ <;> rw [Listener.meet, idle]
      · exact has
      · exact (List.append_nil _).symm
    | some posted =>
      obtain ⟨after, batch⟩ := posted
      have posting :
          l.beginPost? = some ({ l with manager := l.manager.set l.key after }, batch) := by
        simp [Listener.beginPost?, has.connection?_eq, begun]
      obtain ⟨-, -, rest, -, same⟩ := Connection.beginPost?_eq_some begun
      refine ⟨after, ?_, by rw [same]; exact ⟨rfl, rfl⟩, ?_⟩ <;> rw [Listener.meet, posting]
      · exact has.set after
      · exact (List.append_nil _).symm
  | endPost result =>
    obtain ⟨ended, quiet⟩ := c.endPost_eq result
    refine ⟨(c.endPost result).1, ?_, by rw [ended]; exact ⟨rfl, rfl⟩, ?_⟩
    · rw [Listener.meet, has.endPost_eq]
      exact has.follow _ _
    · rw [Listener.meet, has.endPost_eq, printed_follow_of_quiet (linesOf_of_deeds quiet)]
      exact (List.append_nil _).symm

variable {o : Options}

/-- Whatever happens, the frames to come go where they went before. -/
theorem Has.foldl_meet (has : l.Has c) (happening : List Occurrence) :
    ∃ after, (happening.foldl Listener.meet l).Has after ∧
      after.registry = c.registry ∧ after.stream = c.stream := by
  induction happening generalizing l c with
  | nil => exact ⟨c, has, rfl, rfl⟩
  | cons x rest ih =>
    obtain ⟨next, here, ⟨registry, stream⟩, -⟩ := has.meet x
    obtain ⟨after, there, registry', stream'⟩ := ih here
    exact ⟨after, there, registry'.trans registry, stream'.trans stream⟩

/-- A listener prints the lines for all frames in their order, whatever else happens. -/
theorem Has.printed_foldl_meet (has : l.Has c) (serves : c.Serves o channels)
    (unreserved : ∀ channel ∈ channels, channel ∉ [openFrame, configureFrame, reloadFrame])
    (happening : List Occurrence) :
    (happening.foldl Listener.meet l).printed = l.printed ++
      (happening.filterMap Occurrence.frame?).flatMap (linesFor channels o.filters) := by
  induction happening generalizing l c with
  | nil => exact (List.append_nil _).symm
  | cons x rest ih =>
    obtain ⟨next, here, routing, line⟩ := has.meet x
    rw [List.foldl_cons, ih here (serves.of_routing routing), line]
    cases x with
    | frame f =>
      have first : (Occurrence.frame f :: rest).filterMap Occurrence.frame? =
          f :: rest.filterMap Occurrence.frame? := rfl
      rw [first, List.flatMap_cons, ← serves.linesOf_receive unreserved f, ← List.append_assoc]
      rfl
    | _ => exact congrArg (· ++ _) (List.append_nil _)

/-! ## subscribing -/

/-- A listener subscribes with a channel's request and an acknowledgment listener, and prints
nothing. -/
theorem Has.subscribe (has : l.Has c) (filter : Option Filter) (named : channel ≠ "") :
    (l.subscribe filter channel).1.Has (c.withSubscription (request filter channel)) ∧
      (l.subscribe filter channel).1.printed = l.printed ∧
      (l.subscribe filter channel).2 =
        (c.batcher.reception (some ⟨channel⟩)).mapError (.subscribe channel) := by
  have full : (request filter channel).channel.isEmpty = false := by simpa [request] using named
  obtain ⟨added, done, answered⟩ := Connection.subscribe_named (c := c) full
  rw [Listener.subscribe, has.connection?_eq]
  have quiet : linesOf (c.subscribe (request filter channel)).2.1 = [] := by
    rw [linesOf_of_deeds done, linesOf, Connection.callsOf_rearming]
    rfl
  refine ⟨?_, printed_follow_of_quiet quiet, congrArg (Except.mapError _) answered⟩
  rw [← added]
  exact has.follow _ _

/-- Whoever has subscribed to channels serves them. -/
theorem Subscribes.serves (subscribes : Subscribes o.filter? l channels m)
    (named : ∀ channel ∈ channels, channel ≠ "") (has : l.Has c) (serves : c.Serves o earlier) :
    ∃ c, m.Has c ∧ c.Serves o (earlier ++ channels) := by
  induction subscribes generalizing c earlier with
  | none l => exact ⟨c, has, by rwa [List.append_nil]⟩
  | @next l channel next channels after happening done rest ih =>
    obtain ⟨c, here, kept⟩ := has.foldl_meet happening
    obtain ⟨there, -, -⟩ := here.subscribe o.filter? (named channel List.mem_cons_self)
    rw [done] at there
    have served := (serves.of_routing kept).subscribe channel
    obtain ⟨c, last, all⟩ :=
      ih (fun name member => named name (List.mem_cons_of_mem _ member)) there served
    exact ⟨c, last, by rwa [List.append_assoc] at all⟩

/-- Nothing keeps a listener from subscribing at once. -/
theorem Has.subscribeAll (has : l.Has c) (opened : c.batcher.isClosed = false)
    (named : ∀ channel ∈ channels, channel ≠ "") :
    ∃ m, l.subscribeAll filter channels = (m, .ok ()) ∧ m.printed = l.printed ∧
      Subscribes filter l channels m := by
  induction channels generalizing l c with
  | nil => exact ⟨l, rfl, rfl, .none l⟩
  | cons channel rest ih =>
    obtain ⟨there, same, answer⟩ := has.subscribe filter (named channel List.mem_cons_self)
    have done : l.subscribe filter channel = ((l.subscribe filter channel).1, .ok ()) :=
      Prod.ext rfl (by rw [answer, Batcher.reception_of_isClosed opened]; rfl)
    have stays : (c.withSubscription (request filter channel)).batcher.isClosed = false :=
      (Batcher.isClosed_accept _ _).trans opened
    obtain ⟨m, all, quiet, subscribes⟩ := ih there stays
      (fun name member => named name (List.mem_cons_of_mem _ member))
    refine ⟨m, ?_, quiet.trans same, .next [] done subscribes⟩
    rw [Listener.subscribeAll, done]
    exact all

/-! ## connecting -/

/-- A listener is created with a connection of its own. -/
theorem has_create (settings : Settings) (clientId : String) :
    (create settings clientId).Has
      (Connection.create ⟨clientId⟩ none (some sessionHook) settings) := rfl

/-- A connect that asks the gateway has noted where and for which tab. -/
theorem Has.beginConnect (has : l.Has c) (starts : l.beginConnect = (begun, .requesting attempt)) :
    ∃ tab server, begun.Has { c with tab, serverUrl := server, connecting := true } ∧
      begun.printed = l.printed ∧ attempt.epoch = c.epoch := by
  rcases asked : l.manager.beginConnect l.key true ⟨0, 0⟩ with ⟨m, commands, start⟩
  rw [Listener.beginConnect, asked] at starts
  cases starts
  obtain ⟨y, moved, change⟩ := has.change (.beginConnect true ⟨0, 0⟩) has.isLive
  simp only [alone, Runs.System.perform, asked] at moved change
  cases change with
  | @connectBegun c server tab moment commands idle quiet =>
    have bound := (List.getElem?_eq_some_iff.mp has).1
    refine ⟨some tab, some server, ?_, printed_follow_of_quiet (linesOf_of_deeds quiet), rfl⟩
    rw [Has, key_follow, manager_follow, moved, List.getElem?_set_self bound]

/-- Passing a session id on leaves connection and output as they are. -/
theorem Has.passedSession (has : l.Has c) (jsessionid : Option String) :
    (l.passedSession jsessionid).1.Has c ∧ (l.passedSession jsessionid).1.printed = l.printed := by
  have quiet : linesOf (c.passedSession jsessionid).2 = [] := by
    unfold Connection.passedSession
    split
    · rfl
    · split <;> rfl
  rw [Listener.passedSession, has.connection?_eq]
  refine ⟨?_, printed_follow_of_quiet quiet⟩
  rw [Has, key_follow, manager_follow]
  exact has

theorem Has.endConnect (has : l.Has c) (current : attempt.epoch = c.epoch) (id : StreamId) :
    (l.endConnect attempt (.ok id)).1.Has
        { c with
          connecting := false
          registry := { c.registry with queue := [] }
          stream := some (c.registry.queue.foldl PushStream.attach ⟨id, []⟩) } ∧
      (l.endConnect attempt (.ok id)).1.printed = l.printed := by
  have kept : c.isOvertaken attempt = false := by simp [Connection.isOvertaken, current]
  obtain ⟨opened, done⟩ := c.openStream_eq attempt id
  have quiet : linesOf (c.openStream attempt id).2 = [] := linesOf_of_deeds done
  simp only [Listener.endConnect, Manager.endConnect, has.get?_eq, kept, Bool.false_eq_true,
    if_false]
  refine ⟨?_, printed_follow_of_quiet quiet⟩
  rw [← opened]
  exact has.follow _ _

/-- A listener whose settings name a server asks it. -/
theorem exists_connected {settings : Settings}
    (usable : settings.serverUrl.bind Endpoint.normalize? = some server) (clientId : String) :
    ∃ l, Connected settings clientId l := by
  obtain ⟨begun, attempt, starts⟩ : ∃ begun attempt,
      (create settings clientId).beginConnect = (begun, .requesting attempt) := by
    simp [Listener.beginConnect, create, Manager.create, Manager.connection, Manager.beginConnect,
      Manager.get?, Manager.register, Manager.find?, Manager.owner?, Host.resolveTab, Host.headless,
      Connection.create, Connection.isOpening, Connection.isConnected, Connection.beginConnect,
      Connection.resolveServer, usable]
  exact ⟨_, .intro starts none 0⟩

/-- A listener that has connected serves no channel yet, and has printed nothing. -/
theorem Connected.serves (connected : Connected settings clientId l) (o : Options) :
    ∃ c, l.Has c ∧ c.Serves o [] ∧ c.batcher.isClosed = false ∧ l.printed = [] := by
  cases connected with
  | intro starts jsessionid id =>
    obtain ⟨tab, server, begun, quiet, current⟩ :=
      (has_create settings clientId).beginConnect starts
    obtain ⟨passed, quiet'⟩ := begun.passedSession jsessionid
    obtain ⟨opened, quiet''⟩ := passed.endConnect current id
    refine ⟨_, opened, ⟨rfl, ⟨_, rfl, rfl⟩, by simp⟩, rfl, ?_⟩
    rw [quiet'', quiet', quiet]
    rfl

/-! ## shutting down -/

/-- A listener disconnects as its connection does, and prints nothing. -/
theorem Has.disconnect (has : l.Has c) :
    (l.follow (l.manager.disconnect l.key)).Has c.disconnect.1 ∧
      (l.follow (l.manager.disconnect l.key)).printed = l.printed := by
  obtain ⟨y, -, left⟩ := has.change .disconnect has.isLive
  have quiet : linesOf (l.manager.disconnect l.key).2 = [] :=
    congrArg (List.filterMap Invocation.line?) left.calls
  refine ⟨?_, printed_follow_of_quiet quiet⟩
  simp only [Has, key_follow, manager_follow, Manager.disconnect, has.get?_eq,
    Runs.members_unregister]
  exact has.set _

theorem Has.printed_drop (has : l.Has c) : l.drop.printed = l.printed := by
  obtain ⟨y, -, left⟩ := has.change .drop has.isLive
  have quiet : linesOf (l.manager.drop l.key).2 = [] :=
    congrArg (List.filterMap Invocation.line?) left.calls
  exact printed_follow_of_quiet quiet

/-- Giving up the connection prints nothing. -/
theorem Has.printed_shutDown (has : l.Has c) : l.shutDown.printed = l.printed := by
  have told : (l.write (entry "shutting down" [])).Has c := has
  obtain ⟨there, quiet⟩ := told.disconnect
  rw [Listener.shutDown, there.printed_drop, quiet]
  rfl

/-! ## the whole output -/

/-- **Output**: any channels and filters can be asked for, and arguments that ask for a listener
tell those that it gets. Once it has connected, nothing keeps it from subscribing to all channels,
before anything is printed. However it came to be subscribed to them, it prints the lines for the
frames that come since, in their order, and nothing else, whatever happens and also when it is
shut down; and each line is the compact text of a payload, on one line. -/
theorem prints_lines {args : List String} (asked : read args = .ok (.listen o))
    (named : ∀ channel ∈ o.channels,
      channel ≠ "" ∧ channel ∉ [openFrame, configureFrame, reloadFrame])
    (connected : Connected settings o.clientId l) :
    (∀ (channels raws : List String) (filters : List (String × String)), channels ≠ [] →
      List.Forall₂ SpellsFilter raws filters → ∃ o, read ("listen" ::
        (channels.map ("--channel=" ++ ·) ++ raws.map ("--filter=" ++ ·))) = .ok (.listen o) ∧
        o.channels = channels ∧ o.filters = filters) ∧
    Asks args o.channels o.filters ∧
    (∃ m, l.subscribeAll o.filter? o.channels = (m, .ok ()) ∧ m.printed = [] ∧
      Subscribes o.filter? l o.channels m) ∧
    (∀ m, Subscribes o.filter? l o.channels m → ∀ happening : List Occurrence,
      (happening.foldl meet m).printed = m.printed ++
        (happening.filterMap Occurrence.frame?).flatMap (linesFor o.channels o.filters) ∧
      (happening.foldl meet m).shutDown.printed = (happening.foldl meet m).printed) ∧
    ∀ frame, ∀ line ∈ linesFor o.channels o.filters frame, ∃ fields,
      Json.Value.read frame.data = .ok (.object fields) ∧ line = (Json.Value.object fields).text ∧
        '\n' ∉ line.toList := by
  have full := fun channel member => (named channel member).1
  have unreserved := fun channel member => (named channel member).2
  obtain ⟨c, has, serves, opened, quiet⟩ := connected.serves o
  refine ⟨fun _ _ _ some spelled => exists_read_eq_listen some spelled, asks_of_read asked, ?_, ?_,
    fun frame line => mem_linesFor⟩
  · obtain ⟨m, done, same, subscribes⟩ := has.subscribeAll opened full
    exact ⟨m, done, same.trans quiet, subscribes⟩
  · intro m subscribes happening
    obtain ⟨c, there, serving⟩ := subscribes.serves full has serves
    obtain ⟨after, last, -⟩ := there.foldl_meet happening
    exact ⟨there.printed_foldl_meet serving unreserved happening, last.printed_shutDown⟩

/-- Two subscriptions on one channel, a filter that replaces another one, and one for the reserved
field: of four frames two answer, and the first of these is printed twice. -/
theorem prints_lines_twice :
    let args := [ "listen", "--channel=job", "--filter", " state =a=b", "--channel", "build",
      "--filter=state=done=1", "--filter=jenkins_channel=x", "--channel", "job" ]
    let o : Options :=
      { logLevel := "info", logFormat := .compact, server := none, clientId := "ssegw-cli"
        channels := ["job", "build", "job"]
        filters := [("state", "a=b"), ("state", "done=1"), ("jenkins_channel", "x")]
        settings := none }
    let frames : List Frame :=
      [ ⟨"job", "\x7b \"state\": \"done=1\", \"jenkins_channel\": \"job\", \"id\": [1, null] \x7d",
          none⟩,
        ⟨"build", "\x7b\"jenkins_channel\":\"build\",\"state\":\"a=b\"\x7d", none⟩,
        ⟨"other", "\x7b\"jenkins_channel\":\"other\",\"state\":\"done=1\"\x7d", none⟩,
        ⟨"build", "\x7b\"jenkins_channel\":\"build\",\"state\":\"done=1\"\x7d", none⟩ ]
    read args = .ok (.listen o) ∧ ∃ l m,
      Connected { Settings.headless with serverUrl := some "http://ci" } o.clientId l ∧
        l.subscribeAll o.filter? o.channels = (m, .ok ()) ∧
        ((frames.map Occurrence.frame).foldl meet m).printed =
          [ "\x7b\"id\":[1,null],\"jenkins_channel\":\"job\",\"state\":\"done=1\"\x7d",
            "\x7b\"id\":[1,null],\"jenkins_channel\":\"job\",\"state\":\"done=1\"\x7d",
            "\x7b\"jenkins_channel\":\"build\",\"state\":\"done=1\"\x7d" ] := by
  intro args o frames
  have asked : read args = .ok (.listen o) := Json.eq_ok_of_toOption (by decide +kernel)
  obtain ⟨server, usable⟩ : ∃ server,
      Settings.serverUrl { Settings.headless with serverUrl := some "http://ci" } >>=
        Endpoint.normalize? = some server := Option.isSome_iff_exists.mp (by decide +kernel)
  obtain ⟨l, connected⟩ := exists_connected usable o.clientId
  obtain ⟨-, -, ⟨m, done, quiet, subscribes⟩, printed, -⟩ :=
    prints_lines asked (by decide) connected
  have lines : frames.flatMap (linesFor o.channels o.filters) =
      [ "\x7b\"id\":[1,null],\"jenkins_channel\":\"job\",\"state\":\"done=1\"\x7d",
        "\x7b\"id\":[1,null],\"jenkins_channel\":\"job\",\"state\":\"done=1\"\x7d",
        "\x7b\"jenkins_channel\":\"build\",\"state\":\"done=1\"\x7d" ] := by decide +kernel
  have came : (frames.map Occurrence.frame).filterMap Occurrence.frame? = frames := rfl
  refine ⟨asked, l, m, connected, done, ?_⟩
  rw [(printed m subscribes (frames.map Occurrence.frame)).1, quiet, came, lines, List.nil_append]

end CommandLine.Listener

end GatewayClient

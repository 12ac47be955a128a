import GatewayClient.Proofs.Runs.Attempts

/-!
# GatewayClient.Proofs.Subscription.Attachment

Which channels are attached to the push stream. The registry keeps a listener for each channel
that was subscribed, and gives all of them up when a disconnect closes a stream, while the
subscriptions stay. With an open stream

```
attached  =  listeners  =  subscribed since the last disconnect that closed a stream
```

so that a subscription that was kept across such a disconnect gets no events until its channel
is subscribed again.
-/

namespace GatewayClient.Runs

open Connection (openFrame configureFrame reloadFrame)

/-! ## renewal -/

namespace Step

/-- Whether a step is a call that subscribes to a channel. -/
def SubscribesTo (e : Step) (channel : String) : Prop :=
  match e.action with
  | .subscribe request => request.channel.isEmpty = false ∧ request.channel = channel
  | _ => False

/-- Whether a step is a disconnect that closes a stream. -/
def Closes (e : Step) : Prop :=
  match e.action with
  | .disconnect => e.before.isConnected = true
  | _ => False

end Step

/-- Whether a channel was subscribed since the last disconnect that closed a stream. -/
def Renewed (trace : List Step) (channel : String) : Prop :=
  ∃ pre e post, trace = pre ++ e :: post ∧ e.SubscribesTo channel ∧ ∀ later ∈ post, ¬ later.Closes

theorem not_renewed_nil (channel : String) : ¬ Renewed [] channel := not_since_nil

/-- A channel is renewed by its subscription, and stays so until a stream is closed. -/
theorem renewed_snoc (trace : List Step) (e : Step) (channel : String) :
    Renewed (trace ++ [e]) channel ↔
      e.SubscribesTo channel ∨ Renewed trace channel ∧ ¬ e.Closes := since_snoc trace e

/-- A step that neither subscribes nor closes a stream renews nothing and loses nothing. -/
theorem renewed_snoc_idle {e : Step} (quiet : ∀ channel, ¬ e.SubscribesTo channel)
    (still : ¬ e.Closes) (trace : List Step) (channel : String) :
    Renewed (trace ++ [e]) channel ↔ Renewed trace channel := by
  rw [renewed_snoc, or_iff_right (quiet channel), and_iff_left still]

/-! ## listeners -/

/-- The bookkeeping of a connection: it listens on the channels that were renewed; an open stream
has them all attached; without a stream they all wait for one. -/
structure Listening (trace : List Step) (x : Member) : Prop where
  renewed : ∀ channel, channel ∈ x.connection.registry.listeners ↔ Renewed trace channel
  distinct : x.connection.registry.listeners.Nodup
  opened : ∀ stream, x.connection.stream = some stream →
    x.connection.registry.queue = [] ∧ stream.attached = x.connection.registry.listeners
  closed : x.dropped = false → x.connection.stream = none →
    x.connection.registry.queue = x.connection.registry.listeners
  subscribed : ∀ sub ∈ x.connection.registry.subscriptions, ∃ e ∈ trace, ∃ channel,
    sub.config.channel? = some channel ∧ e.SubscribesTo channel

namespace Listening

variable {trace : List Step} {x y : Member} {e : Step}

/-- Who subscribed does not change with what follows. -/
theorem subscribed_snoc (listening : Listening trace x) (e : Step) :
    ∀ sub ∈ x.connection.registry.subscriptions, ∃ first ∈ trace ++ [e], ∃ channel,
      sub.config.channel? = some channel ∧ first.SubscribesTo channel := by
  intro sub member
  obtain ⟨first, past, begun⟩ := listening.subscribed sub member
  exact ⟨first, List.mem_append_left _ past, begun⟩

/-- A step that leaves listeners and stream alone keeps the bookkeeping. -/
theorem idle (listening : Listening trace x) (quiet : ∀ channel, ¬ e.SubscribesTo channel)
    (still : ¬ e.Closes) (live : y.dropped = x.dropped)
    (listeners : y.connection.registry.listeners = x.connection.registry.listeners)
    (queue : y.connection.registry.queue = x.connection.registry.queue)
    (stream : y.connection.stream = x.connection.stream)
    (fewer : ∀ sub ∈ y.connection.registry.subscriptions,
      sub ∈ x.connection.registry.subscriptions) : Listening (trace ++ [e]) y := by
  constructor
  · intro channel
    rw [listeners, renewed_snoc_idle quiet still]
    exact listening.renewed channel
  · rw [listeners]; exact listening.distinct
  · rw [listeners, queue, stream]; exact listening.opened
  · rw [listeners, queue, stream, live]; exact listening.closed
  · exact fun sub member => listening.subscribed_snoc e sub (fewer sub member)

/-- A subscription listens on its channel: on the open stream, or else for the next one. -/
theorem subscribe (listening : Listening trace ⟨c, false⟩) (request : SubscribeRequest)
    (named : request.channel.isEmpty = false) (called : e.action = .subscribe request) :
    Listening (trace ++ [e]) ⟨c.withSubscription request, false⟩ := by
  have subscribes : ∀ channel, e.SubscribesTo channel ↔ request.channel = channel := by
    intro channel
    rw [Step.SubscribesTo, called]
    exact and_iff_right named
  have still : ¬ e.Closes := by
    rw [Step.Closes, called]
    exact id
  have distinct :
      (c.registry.add request.channel request.filter request.callback).1.listeners.Nodup :=
    listening.distinct
  constructor
  · intro channel
    rw [renewed_snoc, subscribes, and_iff_left still, ← listening.renewed]
    exact (Registry.mem_listen _ _ _ _).trans or_comm
  · exact Registry.nodup_listen distinct _ _
  · intro stream opened
    by_cases there : request.channel ∈ c.registry.listeners
    · obtain ⟨listeners, queue, same⟩ := Connection.withSubscription_of_mem there
      rw [listeners, queue]
      exact listening.opened stream (same.symm.trans opened)
    · obtain ⟨listeners, queue, attaching⟩ := Connection.withSubscription_of_not_mem there
      obtain ⟨before, was, rfl⟩ := Option.map_eq_some_iff.mp (attaching.symm.trans opened)
      obtain ⟨taken, attached⟩ := listening.opened before was
      have connected : c.isConnected = true := by simp [Connection.isConnected, was]
      have fresh : request.channel ∉ before.attached := by
        rw [attached]
        exact there
      rw [listeners, queue, if_pos connected, PushStream.attach_of_not_mem fresh, attached]
      exact ⟨taken, rfl⟩
  · intro live closed
    by_cases there : request.channel ∈ c.registry.listeners
    · obtain ⟨listeners, queue, same⟩ := Connection.withSubscription_of_mem there
      rw [listeners, queue]
      exact listening.closed live (same.symm.trans closed)
    · obtain ⟨listeners, queue, attaching⟩ := Connection.withSubscription_of_not_mem there
      have was : c.stream = none := Option.map_eq_none_iff.mp (attaching.symm.trans closed)
      have apart : ¬ c.isConnected = true := by simp [Connection.isConnected, was]
      have waits : c.registry.queue = c.registry.listeners := listening.closed live was
      rw [listeners, queue, if_neg apart, waits]
  · intro sub member
    simp only [Connection.withSubscription, Registry.subscriptions_listen, Registry.add,
      List.mem_append, List.mem_singleton] at member
    rcases member with old | rfl
    · exact listening.subscribed_snoc e sub old
    · exact ⟨e, by simp, request.channel, SubscriptionConfig.channel?_ofChannel _ _,
        (subscribes _).mpr rfl⟩

/-- A stream that opens takes over the channels that waited, which are all. -/
theorem openStream (listening : Listening trace ⟨c, false⟩) (closed : c.stream = none)
    (id : StreamId) (quiet : ∀ channel, ¬ e.SubscribesTo channel) (still : ¬ e.Closes) :
    Listening (trace ++ [e])
      ⟨{ c with
          connecting := false
          registry := { c.registry with queue := [] }
          stream := some (c.registry.queue.foldl PushStream.attach ⟨id, []⟩) }, false⟩ := by
  have waits : c.registry.queue = c.registry.listeners := listening.closed rfl closed
  constructor
  · intro channel
    rw [renewed_snoc_idle quiet still]
    exact listening.renewed channel
  · exact listening.distinct
  · intro stream opened
    obtain rfl := Option.some.inj opened
    refine ⟨rfl, ?_⟩
    rw [waits, PushStream.attached_foldl _ _ (by simpa using listening.distinct)]
    rfl
  · intro _ absent
    contradiction
  · exact listening.subscribed_snoc e

/-- A stream that is closed takes all listeners with it, and leaves the subscriptions. -/
theorem closeStream (listening : Listening trace ⟨c, false⟩) (opened : c.stream = some stream)
    (own : e.before = c) (called : e.action = .disconnect) :
    Listening (trace ++ [e])
      ⟨{ c with
          epoch := c.epoch + 1
          connecting := false
          registry := { c.registry with listeners := [] }
          stream := none }, false⟩ := by
  have closes : e.Closes := by
    rw [Step.Closes, called, own]
    simp [Connection.isConnected, opened]
  have quiet : ∀ channel, ¬ e.SubscribesTo channel := by
    intro channel
    rw [Step.SubscribesTo, called]
    exact id
  constructor
  · intro channel
    rw [renewed_snoc, or_iff_right (quiet channel)]
    simp [closes]
  · exact List.nodup_nil
  · intro stream absent
    contradiction
  · intro _ _
    exact (listening.opened stream opened).1
  · exact listening.subscribed_snoc e

/-- A connection that is given up has no stream any more. -/
theorem drop (listening : Listening trace ⟨c, false⟩) (called : e.action = .drop)
    (timer : DebounceTimer) :
    Listening (trace ++ [e]) ⟨{ c with stream := none, timer }, true⟩ := by
  have quiet : ∀ channel, ¬ e.SubscribesTo channel := by
    intro channel
    rw [Step.SubscribesTo, called]
    exact id
  have still : ¬ e.Closes := by
    rw [Step.Closes, called]
    exact id
  constructor
  · intro channel
    rw [renewed_snoc_idle quiet still]
    exact listening.renewed channel
  · exact listening.distinct
  · intro stream absent
    contradiction
  · intro gone
    contradiction
  · exact listening.subscribed_snoc e

end Listening

theorem Life.listening (life : Life trace x around) : Listening trace x := by
  induction life with
  | born id url hook settings =>
    constructor
    · intro channel
      exact iff_of_false List.not_mem_nil (not_renewed_nil channel)
    · exact List.nodup_nil
    · exact nofun
    · exact fun _ _ => rfl
    · exact nofun
  | @next trace x around action outcome y life change key listening =>
    cases change with
    | nameless request commands unnamed quiet =>
      have refused : ∀ channel,
          ¬ (request.channel.isEmpty = false ∧ request.channel = channel) := by simp [unnamed]
      exact listening.idle refused id rfl rfl rfl rfl (fun _ => id)
    | subscribe request commands named done => exact listening.subscribe request named rfl
    | unsubscribe callback listener commands done =>
      exact listening.idle (fun _ => id) id rfl rfl rfl rfl
        (fun sub member => (List.mem_filter.mp member).1)
    | connectOpened attempt id commands waited current done =>
      exact listening.openStream (life.connects.waiting waited current).2 id (fun _ => not_false)
        not_false
    | @disconnectClosed c commands closed quiet =>
      have still : ¬ c.isConnected = true := by simp [Connection.isConnected, closed]
      exact listening.idle (fun _ => id) still rfl rfl rfl rfl (fun _ => id)
    | disconnectOpen stream commands opened done => exact listening.closeStream opened rfl rfl
    | drop commands done => exact listening.drop rfl _
    | _ => exact listening.idle (fun _ => not_false) not_false rfl rfl rfl rfl (fun _ => id)

/-! ## delivery -/

/-- Whoever listens on a channel that no stream was closed since, was renewed there. -/
theorem Listening.renewed_of_unclosed (listening : Listening trace x)
    (live : sub ∈ x.connection.registry.subscriptions) (on : sub.config.channel? = some channel)
    (unclosed : ∀ e ∈ trace, ¬ e.Closes) : Renewed trace channel := by
  obtain ⟨e, past, name, named, subscribes⟩ := listening.subscribed sub live
  obtain rfl : name = channel := Option.some.inj (named.symm.trans on)
  obtain ⟨pre, post, rfl⟩ := List.append_of_mem past
  exact ⟨pre, e, post, rfl, subscribes, fun later member => unclosed later (by simp [member])⟩

/-- **Delivery**: with an open stream, the channel of a live subscription is attached, and a
frame on it that satisfies the subscription is delivered to its callback, exactly if the channel
was subscribed since the last disconnect that closed a stream; so always before the first. -/
theorem delivered_iff_renewed (run : Run trace s) (known : s.manager.get? key = some c)
    (opened : c.isConnected = true) (live : sub ∈ c.registry.subscriptions)
    (on : sub.config.channel? = some channel)
    (unreserved : channel ∉ [openFrame, configureFrame, reloadFrame]) :
    (c.isAttached channel = true ↔ Renewed (onKey key trace) channel) ∧
      (∀ data id e, Event.read data = .ok e → e.satisfies sub.config = true →
        (.event sub.callback e ∈ callsOf (c.receive ⟨channel, data, id⟩).2 ↔
          Renewed (onKey key trace) channel)) ∧
      ((∀ e ∈ onKey key trace, ¬ e.Closes) → Renewed (onKey key trace) channel) := by
  obtain ⟨dropped, -, life⟩ := life_of_run run known
  obtain ⟨stream, streaming⟩ := Option.isSome_iff_exists.mp opened
  have attached : c.isAttached channel = true ↔ Renewed (onKey key trace) channel := by
    rw [Connection.isAttached_iff streaming, (life.listening.opened stream streaming).2]
    exact life.listening.renewed channel
  refine ⟨attached, fun data id e readable satisfied => ?_,
    life.listening.renewed_of_unclosed live on⟩
  have calls := c.callsOf_receive_event ⟨channel, data, id⟩ unreserved readable
  rw [calls, ← attached]
  constructor
  · intro member
    by_contra apart
    rw [if_neg apart] at member
    contradiction
  · intro there
    rw [if_pos there, List.mem_map]
    exact ⟨sub, by simp [Registry.onChannel, live, on, satisfied], rfl⟩

/-- On the tour the subscription is attached as soon as the stream is open. -/
theorem delivered_iff_renewed_on_tour :
    ∃ c sub, (System.lone.play 0 (tour.take 3)).1.manager.get? 0 = some c ∧
      sub ∈ c.registry.subscriptions ∧ sub.config.channel? = some "job" ∧
      Renewed (onKey 0 (System.lone.play 0 (tour.take 3)).2) "job" ∧
      c.isAttached "job" = true := by
  have opened : ((System.lone.play 0 (tour.take 3)).1.manager.get? 0).any (fun c => c.isConnected &&
      c.registry.subscriptions.any (fun s => s.config.channel? == some "job")) := by
    decide +kernel
  rw [Option.any_eq_true] at opened
  obtain ⟨c, known, opened⟩ := opened
  rw [Bool.and_eq_true, List.any_eq_true] at opened
  obtain ⟨opened, sub, live, on⟩ := opened
  have unclosed : ∀ e ∈ onKey 0 (System.lone.play 0 (tour.take 3)).2, ¬ e.Closes := by
    intro e member
    have listed := mem_play (List.mem_filter.mp member).1
    simp only [tour, List.take_succ_cons, List.take_zero, List.mem_cons, List.not_mem_nil,
      or_false] at listed
    rcases listed with called | called | called <;> simp [Step.Closes, called]
  have delivered := delivered_iff_renewed (run_lone.play 0 (tour.take 3)) known opened live
    (eq_of_beq on) (by decide)
  have renewed := delivered.2.2 unclosed
  exact ⟨c, sub, known, live, eq_of_beq on, renewed, delivered.1.mpr renewed⟩

/-- A caller that subscribes, connects, disconnects and connects again. -/
def reconnecting : List Action :=
  [ .subscribe ⟨"job", none, ⟨"callback"⟩, none⟩,
    .beginConnect true ⟨0, 0⟩,
    .endConnect ⟨"http://gateway", ⟨"client"⟩, 0⟩ none,
    .disconnect,
    .beginConnect true ⟨1, 0⟩,
    .endConnect ⟨"http://gateway", ⟨"client"⟩, 1⟩ none ]

/-- An event on a channel that says nothing but the channel. -/
def bareEvent : EventStream.Frame := ⟨"job", "\x7b\"jenkins_channel\":\"job\"\x7d", none⟩

/-- A subscription that was kept across a disconnect is not attached to the new stream, and an
event that satisfies it is delivered to nobody. -/
theorem kept_subscription_unattached :
    ∃ trace s c sub e, Run trace s ∧ s.manager.get? 0 = some c ∧ c.isConnected = true ∧
      sub ∈ c.registry.subscriptions ∧ sub.config.channel? = some bareEvent.event ∧
      Event.read bareEvent.data = .ok e ∧ e.satisfies sub.config = true ∧
      c.isAttached bareEvent.event = false ∧ callsOf (c.receive bareEvent).2 = [] := by
  have kept : ((System.lone.play 0 reconnecting).1.manager.get? 0).any (fun c =>
      c.isConnected && !c.isAttached bareEvent.event &&
        c.registry.subscriptions.contains
          ⟨SubscriptionConfig.ofChannel "job" none, ⟨"callback"⟩⟩) := by
    decide +kernel
  rw [Option.any_eq_true] at kept
  obtain ⟨c, known, kept⟩ := kept
  simp only [Bool.and_eq_true, Bool.not_eq_true', List.contains_iff_mem] at kept
  obtain ⟨⟨opened, unattached⟩, live⟩ := kept
  have satisfied : (Event.read bareEvent.data).toOption.any (fun e =>
      e.satisfies (SubscriptionConfig.ofChannel "job" none)) := by
    decide +kernel
  cases readable : Event.read bareEvent.data with
  | error e =>
    rw [readable] at satisfied
    contradiction
  | ok e =>
    rw [readable] at satisfied
    refine ⟨_, _, c, _, e, run_lone.play 0 reconnecting, known, opened, live, by decide +kernel,
      rfl, satisfied, unattached, ?_⟩
    rw [c.callsOf_receive_event bareEvent (by decide) readable, unattached]
    rfl

end GatewayClient.Runs

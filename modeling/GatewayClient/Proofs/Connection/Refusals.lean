import GatewayClient.Proofs.Configuration.Acknowledgments
import GatewayClient.Proofs.Subscription.Attachment

/-!
# GatewayClient.Proofs.Connection.Refusals

What is left of a call that was refused. A call without a channel is refused before it does
anything. A listener is refused last, when the current batch was acknowledged before it was sent:

```
refused            subscriptions, channel listeners, changes     ack listeners
for its channel    as before                                     as before
for its listener   as if the call had come without a listener    as before
```

So a caller that is told of an error may have subscribed nevertheless, and without a handle.
-/

namespace GatewayClient

namespace Batcher

/-- Whether the current batch has lost its slot. -/
def isClosed (b : Batcher) : Bool := (b.slot? b.batchId).isNone

/-- Whoever leaves a listener closes no batch. -/
theorem isClosed_accept (b : Batcher) (listener : Option AckListener) :
    (b.accept listener).isClosed = b.isClosed := by
  rw [isClosed, isClosed, batchId_accept]
  cases opened : b.slot? b.batchId with
  | some slot =>
    rw [slot?_accept opened, if_pos rfl]
    rfl
  | none =>
    cases listener with
    | none => rw [accept, Option.elim_none, opened]
    | some l =>
      have refused : b.reception (some l) = .error (.obsoleteBatch b.batchId) := by
        simp [reception, opened]
      rw [accept_of_refused refused, opened]

/-- The next batch has its slot. -/
theorem isClosed_advance (b : Batcher) : b.advance.isClosed = false := by
  rw [isClosed, slot?_advance, advance, if_pos rfl]
  cases b.slot? (b.batchId + 1) <;> rfl

/-- An acknowledgment closes the current batch if it names it. -/
theorem isClosed_acknowledge (b : Batcher) (n : Nat) :
    (b.acknowledge n).1.isClosed = (b.isClosed || n == b.batchId) := by
  change ((b.acknowledge n).1.slot? b.batchId).isNone = _
  rw [slot?_acknowledge, isClosed]
  by_cases own : b.batchId = n
  · simp [own]
  · simp [own, Ne.symm own]

/-- A listener is refused exactly if the current batch has lost its slot. -/
theorem reception_eq_error {b : Batcher} {listener : Option AckListener} :
    b.reception listener = .error e ↔
      listener.isSome = true ∧ b.isClosed = true ∧ e = .obsoleteBatch b.batchId := by
  rw [reception, isClosed]
  cases listener.isSome <;> cases (b.slot? b.batchId).isNone <;> simp [eq_comm]

theorem reception_of_isClosed {b : Batcher} (opened : b.isClosed = false)
    (listener : Option AckListener) : b.reception listener = .ok () := by
  rw [isClosed] at opened
  rw [reception, opened, Bool.and_false]
  rfl

end Batcher

namespace Connection

variable {c : Connection}

/-- Whether a call has left the subscriptions, the channel listeners, the changes that are to be
sent and the ack listeners as they were. -/
def Kept (before after : Connection) : Prop :=
  after.registry = before.registry ∧ after.stream = before.stream ∧ after.batcher = before.batcher

/-! ## refused listeners -/

/-- A subscription whose listener was refused is one without a listener. -/
theorem withSubscription_refused {request : SubscribeRequest}
    (refused : c.batcher.reception request.onSubscribed = .error e) :
    c.withSubscription request = c.withSubscription { request with onSubscribed := none } := by
  have same : (c.batcher.queueSubscribe (SubscriptionConfig.ofChannel request.channel
      request.filter)).reception request.onSubscribed = .error e := refused
  rw [withSubscription, Batcher.accept_of_refused same]
  rfl

/-- An end of subscriptions whose listener was refused is one without a listener. -/
theorem withoutCallback_refused {listener : Option AckListener}
    (refused : c.batcher.reception listener = .error e) (callback : Callback) :
    c.withoutCallback callback listener = c.withoutCallback callback none := by
  have same : Batcher.reception { c.batcher with
      unsubscribe := c.batcher.unsubscribe ++ c.configsOf callback } listener = .error e := refused
  rw [withoutCallback, Batcher.accept_of_refused same]
  rfl

/-- A subscription is on record, and is to be sent. -/
theorem onRecord_withSubscription (c : Connection) (request : SubscribeRequest) :
    (c.withSubscription request).registry.subscriptions = c.registry.subscriptions ++
        [⟨SubscriptionConfig.ofChannel request.channel request.filter, request.callback⟩] ∧
      (c.withSubscription request).batcher.subscribe = c.batcher.subscribe ++
        [SubscriptionConfig.ofChannel request.channel request.filter] := by
  simp [withSubscription, Registry.add, Batcher.queueSubscribe]

theorem not_kept_withSubscription (c : Connection) (request : SubscribeRequest) :
    ¬ Kept c (c.withSubscription request) := by
  rintro ⟨registry, -, -⟩
  have added := (c.onRecord_withSubscription request).1
  simp [registry] at added

/-- An end of subscriptions goes on record unless the callback has none. -/
theorem kept_withoutCallback (c : Connection) (callback : Callback) :
    Kept c (c.withoutCallback callback none) ↔ c.configsOf callback = [] := by
  constructor
  · rintro ⟨-, -, batcher⟩
    have same := congrArg Batcher.unsubscribe batcher
    exact List.append_right_eq_self.mp same
  · intro nothing
    have others : c.registry.subscriptions.filter (fun s => s.callback != callback) =
        c.registry.subscriptions := by
      rw [configsOf, List.map_eq_nil_iff, List.filter_eq_nil_iff] at nothing
      rw [List.filter_eq_self]
      intro s member
      simpa using nothing s member
    refine ⟨?_, rfl, ?_⟩
    · rw [withoutCallback, others]
    · rw [withoutCallback, nothing, List.append_nil]
      rfl

end Connection

namespace Runs

/-! ## stray acknowledgments -/

/-- Whether a batch was acknowledged while it was current, so before it was sent. -/
def Strayed (trace : List Step) (n : Nat) : Prop := ∃ e ∈ trace, e.acks? = some n ∧ e.batch = n

theorem strayed_snoc (trace : List Step) (e : Step) (n : Nat) :
    Strayed (trace ++ [e]) n ↔ Strayed trace n ∨ e.acks? = some n ∧ e.batch = n := by
  simp [Strayed, or_and_right, exists_or]

/-- A step that acknowledges nothing and leaves the current batch alone does not close it. -/
theorem isClosed_idle {b b' : Batcher} {e : Step} (deaf : e.acks? = none)
    (same : b'.isClosed = b.isClosed) (n : Nat) :
    b'.isClosed = (b.isClosed || e.acks? == some n) := by
  rw [deaf, same]
  exact (Bool.or_false _).symm

/-- A step goes on to the next batch, which has its slot, or it stays with the current batch and
closes it if it acknowledges it. -/
theorem Change.isClosed (change : Change around x action outcome y) (key : ConnectionKey) :
    (y.connection.batcher.batchId = x.connection.batcher.batchId ∧
      y.connection.batcher.isClosed = (x.connection.batcher.isClosed ||
        Step.acks? ⟨key, action, x.connection, outcome⟩ ==
          some x.connection.batcher.batchId)) ∨
      (x.connection.batcher.batchId < y.connection.batcher.batchId ∧
        y.connection.batcher.isClosed = false) := by
  cases change with
  | subscribe request commands named done =>
    exact .inl ⟨Batcher.batchId_accept _ _, isClosed_idle rfl (Batcher.isClosed_accept _ _) _⟩
  | unsubscribe callback listener commands done =>
    exact .inl ⟨Batcher.batchId_accept _ _, isClosed_idle rfl (Batcher.isClosed_accept _ _) _⟩
  | openIgnored stream frame commands named unread quiet =>
    exact .inl ⟨rfl, isClosed_idle (acks?_receive_other (by rw [named]; decide)) rfl _⟩
  | opened stream frame session commands reader named full read done =>
    exact .inl ⟨rfl, isClosed_idle (acks?_receive_other (by rw [named]; decide)) rfl _⟩
  | @ackIgnored error c stream frame commands named unread quiet =>
    have deaf : Step.acks? ⟨key, .receive stream frame, c, { commands }⟩ = none := by
      simp [Step.acks?, named, unread, Except.toOption]
    exact .inl ⟨rfl, isClosed_idle deaf rfl _⟩
  | @acknowledged c stream frame ack commands named read done =>
    have acks : Step.acks? ⟨key, .receive stream frame, c, { commands }⟩ =
        some ack.batchId.toNat := by
      simp [Step.acks?, named, read, Except.toOption]
    rw [acks]
    exact .inl ⟨rfl, Batcher.isClosed_acknowledge _ _⟩
  | reloaded stream frame commands named done =>
    exact .inl ⟨rfl, isClosed_idle (acks?_receive_other (by rw [named]; decide)) rfl _⟩
  | event stream frame commands unreserved done =>
    have other : frame.event ≠ Connection.configureFrame := fun same => by
      simp [same] at unreserved
    exact .inl ⟨rfl, isClosed_idle (acks?_receive_other other) rfl _⟩
  | flushSent task pushes commands known found waits running done =>
    exact .inr ⟨Nat.lt_succ_self _, Batcher.isClosed_advance _⟩
  | flushLost task pushes commands known found waits stopped quiet =>
    exact .inr ⟨Nat.lt_succ_self _, Batcher.isClosed_advance _⟩
  | _ => exact .inl ⟨rfl, isClosed_idle rfl rfl _⟩

/-- The current batch has lost its slot exactly if it was acknowledged before it was sent. -/
theorem Life.isClosed_iff (life : Life trace x around) :
    x.connection.batcher.isClosed = true ↔ Strayed trace x.connection.batcher.batchId := by
  induction life with
  | born id url hook settings =>
    have opened : ¬ Batcher.start.isClosed = true := by decide
    exact iff_of_false opened (by simp [Strayed])
  | @next trace x around action outcome y life change key ih =>
    rcases change.isClosed key with ⟨same, closed⟩ | ⟨later, opened⟩
    · rw [strayed_snoc, same, closed, Bool.or_eq_true, beq_iff_eq, ih]
      exact or_congr_right (and_iff_left rfl).symm
    · -- no step was taken yet while the new batch was current
      have unstrayed : ¬ Strayed (trace ++ [⟨key, action, x.connection, outcome⟩])
          y.connection.batcher.batchId := by
        rintro ⟨e, member, -, joined⟩
        have bound := life.gathered.earlier_snoc (e := ⟨key, action, x.connection, outcome⟩) rfl
          (Nat.le_refl _) e member
        omega
      rw [opened]
      exact iff_of_false nofun unstrayed

/-! ## all runs -/

/-- **Refusals**: a call is refused if it subscribes to no channel, or if it comes with a listener
and the current batch was acknowledged before it was sent; and for no other reason. What is refused
for its channel changes nothing. What is refused for its listener leaves the ack listeners alone,
and otherwise does and arms what the call without a listener would, which is not refused: the
subscription is on record and is going to be sent. So such a call keeps everything only if it ends
the subscriptions of a callback that has none. -/
theorem refused_as_unheard (run : Run trace s) (known : s.manager.get? key = some c) :
    (∀ request e, (c.subscribe request).2.2 = .error e ↔
      request.channel.isEmpty = true ∧ e = .missingChannel ∨
      request.channel.isEmpty = false ∧ request.onSubscribed.isSome = true ∧
        Strayed (onKey key trace) c.batcher.batchId ∧ e = .obsoleteBatch c.batcher.batchId) ∧
    (∀ callback listener e, (c.unsubscribe callback listener).2.2 = .error e ↔
      listener.isSome = true ∧ Strayed (onKey key trace) c.batcher.batchId ∧
        e = .obsoleteBatch c.batcher.batchId) ∧
    (∀ request e, (c.subscribe request).2.2 = .error e →
      (c.Kept (c.subscribe request).1 ↔ request.channel.isEmpty = true) ∧
      (c.subscribe request).1.batcher.slots = c.batcher.slots ∧
      if request.channel.isEmpty then (c.subscribe request).1 = c
      else
        (c.subscribe request).1 = (c.subscribe { request with onSubscribed := none }).1 ∧
        deeds (c.subscribe request).2.1 =
          deeds (c.subscribe { request with onSubscribed := none }).2.1 ∧
        (c.subscribe { request with onSubscribed := none }).2.2 = .ok () ∧
        (c.subscribe request).1.registry.subscriptions = c.registry.subscriptions ++
          [⟨SubscriptionConfig.ofChannel request.channel request.filter, request.callback⟩] ∧
        (c.subscribe request).1.batcher.subscribe = c.batcher.subscribe ++
          [SubscriptionConfig.ofChannel request.channel request.filter]) ∧
    ∀ callback listener e, (c.unsubscribe callback listener).2.2 = .error e →
      (c.Kept (c.unsubscribe callback listener).1 ↔ c.configsOf callback = []) ∧
      (c.unsubscribe callback listener).1.batcher.slots = c.batcher.slots ∧
      (c.unsubscribe callback listener).1 = (c.unsubscribe callback none).1 ∧
      deeds (c.unsubscribe callback listener).2.1 = deeds (c.unsubscribe callback none).2.1 ∧
      (c.unsubscribe callback none).2.2 = .ok () := by
  obtain ⟨dropped, -, life⟩ := life_of_run run known
  have strayed := life.isClosed_iff
  refine ⟨?_, ?_, ?_, ?_⟩
  · intro request e
    cases named : request.channel.isEmpty with
    | true =>
      rw [(Connection.subscribe_nameless named).2.2]
      constructor
      · intro refused
        exact .inl ⟨rfl, (Except.error.inj refused).symm⟩
      · rintro (⟨-, rfl⟩ | ⟨filled, -⟩)
        · rfl
        · contradiction
    | false =>
      rw [(Connection.subscribe_named named).2.2, Batcher.reception_eq_error, strayed]
      constructor
      · exact fun refused => .inr ⟨rfl, refused⟩
      · rintro (⟨empty, -⟩ | ⟨-, refused⟩)
        · contradiction
        · exact refused
  · intro callback listener e
    rw [(c.unsubscribe_eq callback listener).2.2, Batcher.reception_eq_error, strayed]
  · intro request e refused
    cases named : request.channel.isEmpty with
    | true =>
      rw [(Connection.subscribe_nameless named).1]
      exact ⟨iff_of_true ⟨rfl, rfl, rfl⟩ rfl, rfl, rfl⟩
    | false =>
      have silent : ({ request with onSubscribed := none } : SubscribeRequest).channel.isEmpty =
        false := named
      obtain ⟨left, done, answer⟩ := Connection.subscribe_named (c := c) named
      obtain ⟨left', done', answer'⟩ := Connection.subscribe_named (c := c) silent
      rw [answer] at refused
      rw [left, done, left', done', answer', Connection.withSubscription_refused refused]
      exact ⟨iff_of_false (Connection.not_kept_withSubscription c _) nofun, rfl, rfl, rfl, rfl,
        Connection.onRecord_withSubscription c _⟩
  · intro callback listener e refused
    obtain ⟨left, done, answer⟩ := c.unsubscribe_eq callback listener
    obtain ⟨left', done', answer'⟩ := c.unsubscribe_eq callback none
    rw [answer] at refused
    rw [left, done, left', done', answer', Connection.withoutCallback_refused refused]
    exact ⟨Connection.kept_withoutCallback c callback, rfl, rfl, rfl, rfl⟩

/-- A caller that connects, and an acknowledgment of the batch that was not sent yet. -/
def hasty : List Action :=
  [ .beginConnect true ⟨0, 0⟩,
    .endConnect ⟨"http://gateway", ⟨"client"⟩, 0⟩ none,
    .receive 0 ⟨"configure", "\x7b\"batchId\":1\x7d", none⟩ ]

/-- A request with a listener. -/
def listened : SubscribeRequest := ⟨"job", none, ⟨"callback"⟩, some ⟨"subscribed"⟩⟩

/-- The request is refused then, and does what it would do without its listener. -/
theorem refused_as_unheard_hasty :
    ∃ s c, Run (System.lone.play 0 hasty).2 s ∧ s.manager.get? 0 = some c ∧
      (c.subscribe listened).2.2 = .error (.obsoleteBatch c.batcher.batchId) ∧
      (c.subscribe listened).1 = (c.subscribe { listened with onSubscribed := none }).1 := by
  have run : Run (System.lone.play 0 hasty).2 (System.lone.play 0 hasty).1 :=
    run_lone.play 0 hasty
  have first : ((System.lone.play 0 hasty).1.manager.get? 0).any (fun c =>
      c.batcher.batchId == 1) := by
    decide +kernel
  have acks : (onKey 0 (System.lone.play 0 hasty).2).any (fun e =>
      e.acks? == some 1 && e.batch == 1) := by
    decide +kernel
  rw [Option.any_eq_true] at first
  rw [List.any_eq_true] at acks
  obtain ⟨c, known, first⟩ := first
  obtain ⟨e, past, acks⟩ := acks
  simp only [Bool.and_eq_true, beq_iff_eq] at acks
  have strayed : Strayed (onKey 0 (System.lone.play 0 hasty).2) c.batcher.batchId := by
    rw [eq_of_beq first]
    exact ⟨e, past, acks⟩
  obtain ⟨answers, -, refusals, -⟩ := refused_as_unheard run known
  have refused := (answers listened _).mpr (.inr ⟨by decide, rfl, strayed, rfl⟩)
  obtain ⟨-, -, unheard⟩ := refusals listened _ refused
  exact ⟨_, c, run, known, refused, unheard.1⟩

/-- The caller is told of an error, and yet is subscribed: the subscription is going to be sent,
and its callback is called with the next event. -/
theorem refused_subscription_stands :
    ∃ trace s c e, Run trace s ∧ s.manager.get? 0 = some c ∧ s.manager.isLive 0 = true ∧
      (c.subscribe listened).2.2 = .error (.obsoleteBatch 1) ∧
      c.registry.subscriptions = [] ∧ c.batcher.hasPending = false ∧
      (c.subscribe listened).1.batcher.hasPending = true ∧
      .event listened.callback e ∈ callsOf ((c.subscribe listened).1.receive bareEvent).2 := by
  have live : (System.lone.play 0 hasty).1.manager.isLive 0 = true := by decide +kernel
  have stands : ((System.lone.play 0 hasty).1.manager.get? 0).any (fun c =>
      c.registry.subscriptions.isEmpty && !c.batcher.hasPending &&
        c.batcher.isClosed && c.batcher.batchId == 1 &&
        (c.subscribe listened).1.batcher.hasPending &&
        (callsOf ((c.subscribe listened).1.receive bareEvent).2).any (fun
          | .event callback _ => callback == listened.callback
          | _ => false)) := by
    decide +kernel
  rw [Option.any_eq_true] at stands
  obtain ⟨c, known, stands⟩ := stands
  simp only [Bool.and_eq_true, List.isEmpty_iff, Bool.not_eq_true', beq_iff_eq,
    List.any_eq_true] at stands
  obtain ⟨⟨⟨⟨⟨unsubscribed, settled⟩, closed⟩, first⟩, pending⟩, call, made, own⟩ := stands
  have refused : (c.subscribe listened).2.2 = .error (.obsoleteBatch 1) := by
    rw [(Connection.subscribe_named (by decide)).2.2, Batcher.reception_eq_error, first]
    exact ⟨rfl, closed, rfl⟩
  cases call with
  | event callback e =>
    rw [eq_of_beq own] at made
    exact ⟨_, _, c, e, run_lone.play 0 hasty, known, live, refused, unsubscribed, settled, pending,
      made⟩
  | acknowledged l => contradiction
  | session hook told => contradiction

end Runs

end GatewayClient

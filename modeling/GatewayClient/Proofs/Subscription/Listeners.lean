import GatewayClient.Proofs.Subscription.Attachment
import Mathlib.Data.List.Nodup

/-!
# GatewayClient.Proofs.Subscription.Listeners

Where the channel listeners of a connection are. Each is in one place, and there once:

```
stream open     attached to the stream, the queue is empty
stream closed   waiting in the queue
```

Connects that fail or are discarded leave the queue as it is, and the stream that opens at last
takes it over as a whole.
-/

namespace GatewayClient.Runs

/-! ## where listeners are -/

section places

variable {trace : List Step} {x : Member}

/-- A listener is attached once to the open stream, and nothing else is. -/
theorem Listening.attached_once (listening : Listening trace x)
    (opened : x.connection.stream = some stream) (channel : String) :
    stream.attached.count channel = if channel ∈ x.connection.registry.listeners then 1 else 0 := by
  rw [(listening.opened stream opened).2, listening.distinct.count]

/-- A listener without a stream waits once in the queue, and nothing else does. -/
theorem Listening.queued_once (listening : Listening trace x) (live : x.dropped = false)
    (closed : x.connection.stream = none) (channel : String) :
    x.connection.registry.queue.count channel =
      if channel ∈ x.connection.registry.listeners then 1 else 0 := by
  rw [listening.closed live closed, listening.distinct.count]

end places

/-! ## how a stream gets them -/

/-- A stream opens by the end of a connect and by nothing else, and it takes over the queue. -/
theorem Change.takesOver (change : Change around x action outcome y)
    (closed : x.connection.stream = none) (distinct : x.connection.registry.queue.Nodup)
    (opened : y.connection.stream = some stream) :
    stream.attached = x.connection.registry.queue ∧ y.connection.registry.queue = [] ∧
      y.connection.registry.listeners = x.connection.registry.listeners := by
  cases change with
  | @subscribe c request commands named done =>
    have unopened : (c.withSubscription request).stream = none := by
      change c.streamFor request.channel = none
      rw [Connection.streamFor, closed, Option.map_none, ite_self]
    rw [unopened] at opened
    contradiction
  | connectOpened attempt id commands waited current done =>
    obtain rfl := Option.some.inj opened
    exact ⟨PushStream.attached_foldl _ _ (by simpa using distinct), rfl, rfl⟩
  | disconnectOpen stream commands was done => contradiction
  | drop commands done => contradiction
  | _ => exact absurd (closed.symm.trans opened) (Option.some_ne_none stream).symm

/-- A connect that fails or was overtaken opens nothing and leaves all listeners in their place. -/
theorem Change.unopened {failure : Option TransportError}
    (change : Change around x (.endConnect attempt failure) outcome y)
    (lost : failure.isSome = true ∨ x.connection.isOvertaken attempt = true) :
    y.connection.stream = x.connection.stream ∧
      y.connection.registry = x.connection.registry := by
  cases change with
  | connectOvertaken attempt failure commands waited overtaken quiet => exact ⟨rfl, rfl⟩
  | connectOpened attempt id commands waited current done =>
    simp [Connection.isOvertaken, current] at lost
  | connectFailed attempt e commands waited current quiet => exact ⟨rfl, rfl⟩

/-! ## all runs -/

/-- **Listeners**: a connection listens on the channels that were subscribed since the last
disconnect that closed a stream. With an open stream each of them is attached once, nothing else
is, and nothing waits. Without one each of them waits once in the queue, and nothing else does;
a connect that fails or is discarded leaves them there, and the stream that opens takes the
queue over. -/
theorem listeners_placed_once (run : Run trace s) (known : s.manager.get? key = some c)
    (live : s.manager.isLive key = true) :
    (∀ channel, channel ∈ c.registry.listeners ↔ Renewed (onKey key trace) channel) ∧
      (∀ stream, c.stream = some stream → c.registry.queue = [] ∧
        ∀ channel, stream.attached.count channel =
          if channel ∈ c.registry.listeners then 1 else 0) ∧
      (c.stream = none → ∀ channel, c.registry.queue.count channel =
        if channel ∈ c.registry.listeners then 1 else 0) ∧
      ∀ action s' e, s.take? key action = some (s', e) →
        ∃ c', s'.manager.get? key = some c' ∧
          (∀ attempt failure, action = .endConnect attempt failure →
            failure.isSome = true ∨ c.isOvertaken attempt = true →
            c'.stream = c.stream ∧ c'.registry = c.registry) ∧
          (c.stream = none → ∀ stream, c'.stream = some stream →
            stream.attached = c.registry.queue ∧ c'.registry.queue = [] ∧
              c'.registry.listeners = c.registry.listeners) := by
  obtain ⟨dropped, alive, life⟩ := life_of_run run known
  obtain rfl : dropped = false := by simpa [alive] using live
  have listening := life.listening
  refine ⟨listening.renewed,
    fun stream opened => ⟨(listening.opened stream opened).1, listening.attached_once opened⟩,
    listening.queued_once rfl, ?_⟩
  intro action s' e taken
  obtain ⟨x, y, member, known', change⟩ := get?_of_take? taken
  obtain rfl : c = x.connection := Option.some.inj (known.symm.trans (get?_eq member))
  refine ⟨y.connection, known', ?_, ?_⟩
  · rintro attempt failure rfl lost
    exact change.unopened lost
  · intro closed stream opened
    have distinct : x.connection.registry.queue.Nodup := by
      rw [listening.closed rfl closed]
      exact listening.distinct
    exact change.takesOver closed distinct opened

/-- A caller that subscribes, sees a connect fail, and connects again. -/
def persistent : List Action :=
  [ .subscribe ⟨"job", none, ⟨"callback"⟩, none⟩,
    .beginConnect true ⟨0, 0⟩,
    .endConnect ⟨"http://gateway", ⟨"client"⟩, 0⟩ (some .http),
    .beginConnect true ⟨1, 0⟩ ]

/-- The listener has waited through the connect that failed, and is attached by the next one. -/
theorem listeners_placed_once_persistent :
    ∃ s c s' e c' stream, Run (System.lone.play 0 persistent).2 s ∧
      s.manager.get? 0 = some c ∧ c.registry.queue.count "job" = 1 ∧
      s.take? 0 (.endConnect ⟨"http://gateway", ⟨"client"⟩, 0⟩ none) = some (s', e) ∧
      s'.manager.get? 0 = some c' ∧ c'.stream = some stream ∧
      stream.attached.count "job" = 1 ∧ c'.registry.queue = [] := by
  have run : Run (System.lone.play 0 persistent).2 (System.lone.play 0 persistent).1 :=
    run_lone.play 0 persistent
  have live : (System.lone.play 0 persistent).1.manager.isLive 0 = true := by decide +kernel
  have waits : ((System.lone.play 0 persistent).1.manager.get? 0).any (fun c =>
      c.stream.isNone && c.registry.listeners.contains "job") := by
    decide +kernel
  have ends : ((System.lone.play 0 persistent).1.take? 0
      (.endConnect ⟨"http://gateway", ⟨"client"⟩, 0⟩ none)).any (fun next =>
        (next.1.manager.get? 0).any Connection.isConnected) := by
    decide +kernel
  rw [Option.any_eq_true] at waits ends
  obtain ⟨c, known, waits⟩ := waits
  simp only [Bool.and_eq_true, Option.isNone_iff_eq_none, List.contains_iff_mem] at waits
  obtain ⟨⟨s', e⟩, taken, connected⟩ := ends
  obtain ⟨-, -, queued, steps⟩ := listeners_placed_once run known live
  obtain ⟨c', known', -, takesOver⟩ := steps _ s' e taken
  simp only [known', Option.any_some] at connected
  obtain ⟨stream, opened⟩ := Option.isSome_iff_exists.mp connected
  obtain ⟨attached, empty, -⟩ := takesOver waits.1 stream opened
  have once : c.registry.queue.count "job" = 1 := by rw [queued waits.1, if_pos waits.2]
  exact ⟨_, c, s', e, c', stream, run, known, once, taken, known', opened,
    by rw [attached, once], empty⟩

end GatewayClient.Runs

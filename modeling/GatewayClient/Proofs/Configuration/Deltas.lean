import GatewayClient.Proofs.Runs.Life
import Mathlib.Data.List.Induction

/-!
# GatewayClient.Proofs.Configuration.Deltas

No change of the configuration is lost, made twice or put in another order. The calls alone say
what has to reach the gateway; `Ledger` keeps that account. A change passes from the batcher
through the outbox to the gateway:

```
posted  ++  waiting  ++  pending  =  the changes of all calls, in call order
```
-/

namespace GatewayClient.Runs

/-! ## the account of the calls -/

/-- What calls ask for: the configs of the subscriptions that were begun and of those that were
ended, in call order, and the subscriptions that live. -/
structure Ledger where
  begun : List SubscriptionConfig
  ended : List SubscriptionConfig
  live : List Subscription

namespace Ledger

/-- The account before the first call. -/
def empty : Ledger := ⟨[], [], []⟩

/-- Enters a call. A call that names no channel is none. -/
def enter (l : Ledger) : Action → Ledger
  | .subscribe request =>
    if request.channel.isEmpty then l
    else
      let config := SubscriptionConfig.ofChannel request.channel request.filter
      { l with begun := l.begun ++ [config], live := l.live ++ [⟨config, request.callback⟩] }
  | .unsubscribe callback _ =>
    { l with
      ended := l.ended ++
        (l.live.filter (fun s => s.callback == callback)).map Subscription.config
      live := l.live.filter (fun s => s.callback != callback) }
  | _ => l

/-- How often a config lives. -/
def liveCount (l : Ledger) (config : SubscriptionConfig) : Nat :=
  (l.live.map Subscription.config).count config

/-- A subscription is either live or was ended. -/
theorem count_enter (l : Ledger) (action : Action) (config : SubscriptionConfig)
    (balanced : l.begun.count config = l.ended.count config + l.liveCount config) :
    (l.enter action).begun.count config =
      (l.enter action).ended.count config + (l.enter action).liveCount config := by
  cases action with
  | subscribe request =>
    simp only [enter]
    split
    · exact balanced
    · simp only [liveCount, List.map_append, List.map_cons, List.map_nil, List.count_append] at *
      omega
  | unsubscribe callback listener =>
    have parts := (List.filter_append_perm (fun s => s.callback == callback) l.live).map
      Subscription.config
    have counted := parts.count_eq config
    simp only [List.map_append, List.count_append] at counted
    simp only [enter, liveCount, List.count_append] at *
    have same : l.live.filter (fun s => s.callback != callback) =
        l.live.filter (fun s => !(s.callback == callback)) := rfl
    rw [same]
    omega
  | _ => exact balanced

end Ledger

/-- The account of the calls of a run. -/
def ledger (trace : List Step) : Ledger :=
  trace.foldl (fun l e => l.enter e.action) Ledger.empty

@[simp] theorem ledger_snoc (trace : List Step) (e : Step) :
    ledger (trace ++ [e]) = (ledger trace).enter e.action := by
  simp [ledger]

/-- What was begun was ended or lives. -/
theorem ledger_balanced (trace : List Step) (config : SubscriptionConfig) :
    (ledger trace).begun.count config =
      (ledger trace).ended.count config + (ledger trace).liveCount config := by
  induction trace using List.reverseRecOn with
  | nil => rfl
  | append_singleton trace e ih =>
    rw [ledger_snoc]
    exact (ledger trace).count_enter e.action config ih

/-! ## the way of a change -/

/-- The batches whose posting was begun, in their order. -/
def posted (trace : List Step) : List OutgoingBatch := trace.filterMap (fun e => e.outcome.posted)

@[simp] theorem posted_snoc (trace : List Step) (e : Step) :
    posted (trace ++ [e]) = posted trace ++ e.outcome.posted.toList := by
  cases posts : e.outcome.posted <;> simp [posted, posts]

/-- The batches that were handed to the sender: those it began to post, and those that wait. -/
def handed (trace : List Step) (c : Connection) : List OutgoingBatch :=
  posted trace ++ c.outbox.waiting

/-- The account of a connection: what was handed over and what is pending are the changes of the
calls, and batches are numbered from one. -/
structure Accounted (trace : List Step) (c : Connection) : Prop where
  running : c.outbox.stopped = false
  ids : (handed trace c).map OutgoingBatch.batchId = List.range' 1 (handed trace c).length
  current : c.batcher.batchId = (handed trace c).length + 1
  begun : (handed trace c).flatMap (fun b => b.request.subscribe) ++ c.batcher.subscribe =
    (ledger trace).begun
  ended : (handed trace c).flatMap (fun b => b.request.unsubscribe) ++ c.batcher.unsubscribe =
    (ledger trace).ended
  live : c.registry.subscriptions = (ledger trace).live

namespace Accounted

variable {trace : List Step} {c c' : Connection} {e : Step}

/-- A step that is no call and hands nothing over keeps the account. -/
theorem idle (account : Accounted trace c) (aside : (ledger trace).enter e.action = ledger trace)
    (queued : e.outcome.posted.toList ++ c'.outbox.waiting = c.outbox.waiting)
    (running : c'.outbox.stopped = c.outbox.stopped)
    (current : c'.batcher.batchId = c.batcher.batchId)
    (subscribe : c'.batcher.subscribe = c.batcher.subscribe)
    (unsubscribe : c'.batcher.unsubscribe = c.batcher.unsubscribe)
    (live : c'.registry.subscriptions = c.registry.subscriptions) :
    Accounted (trace ++ [e]) c' := by
  have same : handed (trace ++ [e]) c' = handed trace c := by
    rw [handed, handed, posted_snoc, List.append_assoc, queued]
  constructor
  · rw [running]; exact account.running
  · rw [same]; exact account.ids
  · rw [same, current]; exact account.current
  · rw [same, ledger_snoc, aside, subscribe]; exact account.begun
  · rw [same, ledger_snoc, aside, unsubscribe]; exact account.ended
  · rw [ledger_snoc, aside, live]; exact account.live

theorem subscribe (account : Accounted trace c) (request : SubscribeRequest)
    (named : request.channel.isEmpty = false) (called : e.action = .subscribe request)
    (silent : e.outcome.posted = none) :
    Accounted (trace ++ [e]) (c.withSubscription request) := by
  have same : handed (trace ++ [e]) (c.withSubscription request) = handed trace c := by
    simp [handed, silent, Connection.withSubscription]
  constructor
  · exact account.running
  · rw [same]; exact account.ids
  · rw [same]
    simpa [Connection.withSubscription, Batcher.queueSubscribe] using account.current
  · rw [same, ledger_snoc, called]
    simp [Ledger.enter, named, Connection.withSubscription, Batcher.queueSubscribe,
      ← account.begun]
  · rw [same, ledger_snoc, called]
    simp [Ledger.enter, named, Connection.withSubscription, Batcher.queueSubscribe,
      account.ended]
  · rw [ledger_snoc, called]
    simp [Ledger.enter, named, Connection.withSubscription, Registry.add, account.live]

theorem unsubscribe (account : Accounted trace c) (callback : Callback)
    (listener : Option AckListener) (called : e.action = .unsubscribe callback listener)
    (silent : e.outcome.posted = none) :
    Accounted (trace ++ [e]) (c.withoutCallback callback listener) := by
  have same : handed (trace ++ [e]) (c.withoutCallback callback listener) = handed trace c := by
    simp [handed, silent, Connection.withoutCallback]
  constructor
  · exact account.running
  · rw [same]; exact account.ids
  · rw [same]
    simpa [Connection.withoutCallback] using account.current
  · rw [same, ledger_snoc, called]
    simp [Ledger.enter, Connection.withoutCallback, account.begun]
  · rw [same, ledger_snoc, called]
    simp [Ledger.enter, Connection.withoutCallback, Connection.configsOf, ← account.ended,
      account.live]
  · rw [ledger_snoc, called]
    simp [Ledger.enter, Connection.withoutCallback, account.live]

/-- A flush moves the whole batch from the batcher to the outbox. -/
theorem sent (account : Accounted trace c) (session : Session) (server : String)
    (aside : (ledger trace).enter e.action = ledger trace) (silent : e.outcome.posted = none) :
    Accounted (trace ++ [e])
      { c with
        timer := c.fired
        batcher := c.emptied
        outbox := { c.outbox with
          waiting := c.outbox.waiting ++ [c.nextBatch session server] } } := by
  have more : handed (trace ++ [e])
      { c with
        timer := c.fired
        batcher := c.emptied
        outbox := { c.outbox with
          waiting := c.outbox.waiting ++ [c.nextBatch session server] } } =
      handed trace c ++ [c.nextBatch session server] := by
    simp [handed, silent]
  constructor
  · exact account.running
  · rw [more, List.map_append, account.ids, List.length_append, List.range'_append.symm]
    simp [Connection.nextBatch, account.current, Nat.add_comm]
  · rw [more]
    simp [Connection.emptied, Batcher.advance, account.current]
  · rw [more, ledger_snoc, aside, ← account.begun]
    simp [Connection.nextBatch, Connection.emptied, Batcher.advance]
  · rw [more, ledger_snoc, aside, ← account.ended]
    simp [Connection.nextBatch, Connection.emptied, Batcher.advance]
  · rw [ledger_snoc, aside]; exact account.live

end Accounted

/-- While its sender lives, every connection keeps the account. -/
theorem Life.accounted (life : Life trace x around)
    (kept : ∀ e ∈ trace, e.action ≠ .loseSender) : Accounted trace x.connection := by
  induction life with
  | born id url hook settings => constructor <;> rfl
  | next life change key ih =>
    have account := ih (fun e member => kept e (List.mem_append_left _ member))
    cases change with
    | nameless request commands unnamed quiet =>
      exact account.idle (by simp [Ledger.enter, unnamed]) rfl rfl rfl rfl rfl rfl
    | subscribe request commands named done => exact account.subscribe request named rfl rfl
    | unsubscribe callback listener commands done =>
      exact account.unsubscribe callback listener rfl rfl
    | flushSent task pushes commands known found waits running done =>
      exact account.sent _ _ rfl rfl
    | flushLost task pushes commands known found waits stopped quiet =>
      rw [account.running] at stopped; contradiction
    | beginPost batch rest idle running waiting =>
      exact account.idle rfl (by rw [waiting]; rfl) running.symm rfl rfl rfl rfl
    | loseSender => exact absurd rfl (kept _ (List.mem_append_right _ List.mem_cons_self))
    | _ => exact account.idle rfl rfl rfl rfl rfl rfl rfl

/-- How often a config is subscribed in batches, less how often it is unsubscribed. -/
def net (batches : List OutgoingBatch) (config : SubscriptionConfig) : Int :=
  ((batches.flatMap (fun b => b.request.subscribe)).count config : Int) -
    (batches.flatMap (fun b => b.request.unsubscribe)).count config

/-- **Conservation**: as long as the sender lives, the batches that were handed to it, in the
order of their ids, and what is pending hold exactly the configs that calls began and ended, in
call order. Their net is the live subscriptions. -/
theorem deltas_conserved (run : Run trace s) (known : s.manager.get? key = some c)
    (kept : ∀ e ∈ onKey key trace, e.action ≠ .loseSender) :
    (handed (onKey key trace) c).map OutgoingBatch.batchId =
        List.range' 1 (handed (onKey key trace) c).length ∧
      (handed (onKey key trace) c).flatMap (fun b => b.request.subscribe) ++ c.batcher.subscribe =
        (ledger (onKey key trace)).begun ∧
      (handed (onKey key trace) c).flatMap (fun b => b.request.unsubscribe) ++
          c.batcher.unsubscribe =
        (ledger (onKey key trace)).ended ∧
      c.registry.subscriptions = (ledger (onKey key trace)).live ∧
      (∀ config, net (handed (onKey key trace) c) config +
          (c.batcher.subscribe.count config - c.batcher.unsubscribe.count config) =
        (c.registry.subscriptions.map Subscription.config).count config) ∧
      (c.batcher.hasPending = false → ∀ config, net (handed (onKey key trace) c) config =
        (c.registry.subscriptions.map Subscription.config).count config) := by
  obtain ⟨dropped, -, life⟩ := life_of_run run known
  have account : Accounted (onKey key trace) c := life.accounted kept
  have balance : ∀ config, net (handed (onKey key trace) c) config +
      (c.batcher.subscribe.count config - c.batcher.unsubscribe.count config) =
      (c.registry.subscriptions.map Subscription.config).count config := by
    intro config
    have balanced := ledger_balanced (onKey key trace) config
    rw [← account.begun, ← account.ended, Ledger.liveCount, ← account.live, List.count_append,
      List.count_append] at balanced
    simp only [net]
    omega
  refine ⟨account.ids, account.begun, account.ended, account.live, balance, ?_⟩
  intro idle config
  have nothing : c.batcher.subscribe = [] ∧ c.batcher.unsubscribe = [] := by
    simpa [Batcher.hasPending] using idle
  simpa [nothing.1, nothing.2] using balance config

/-- On the tour one batch is posted, and the end of the subscription is still pending. -/
theorem deltas_conserved_on_tour :
    ∃ c, toured.1.manager.get? 0 = some c ∧ (posted (onKey 0 toured.2)).length = 1 ∧
      c.batcher.unsubscribe.length = 1 ∧
      (handed (onKey 0 toured.2) c).flatMap (fun b => b.request.subscribe) ++
        c.batcher.subscribe = (ledger (onKey 0 toured.2)).begun ∧
      (handed (onKey 0 toured.2) c).flatMap (fun b => b.request.unsubscribe) ++
        c.batcher.unsubscribe = (ledger (onKey 0 toured.2)).ended := by
  have pending : (toured.1.manager.get? 0).any (fun c => c.batcher.unsubscribe.length == 1) := by
    decide +kernel
  rw [Option.any_eq_true] at pending
  obtain ⟨c, known, one⟩ := pending
  have kept : ∀ e ∈ onKey 0 toured.2, e.action ≠ .loseSender := by
    intro e member lost
    have listed := mem_play (List.mem_filter.mp member).1
    simp [tour, lost] at listed
  have conserved := deltas_conserved run_toured known kept
  exact ⟨c, known, by decide +kernel, by simpa using one, conserved.2.1, conserved.2.2.1⟩

end GatewayClient.Runs

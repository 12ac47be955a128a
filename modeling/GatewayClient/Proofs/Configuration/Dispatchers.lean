import GatewayClient.Proofs.Configuration.Credentials

/-!
# GatewayClient.Proofs.Configuration.Dispatchers

What each dispatcher of the gateway was told. A batch goes to the dispatcher of the session that
is known when it is handed over, and what a dispatcher was told is told to no other:

```
told to d  +  told to others  =  live subscriptions
```

so that a dispatcher that takes over from another one knows nothing of the subscriptions that
were told to that, however long they live.
-/

namespace GatewayClient.Runs

/-- The batches for a dispatcher. -/
def sentTo (d : String) (batches : List OutgoingBatch) : List OutgoingBatch :=
  batches.filter (fun b => b.request.dispatcherId == some d)

/-- The batches for other dispatchers, or for none. -/
def sentPast (d : String) (batches : List OutgoingBatch) : List OutgoingBatch :=
  batches.filter (fun b => !(b.request.dispatcherId == some d))

/-- Every batch is for the dispatcher or past it. -/
theorem net_sentTo_add_sentPast (d : String) (batches : List OutgoingBatch)
    (config : SubscriptionConfig) :
    net (sentTo d batches) config + net (sentPast d batches) config = net batches config := by
  have parts : (sentTo d batches ++ sentPast d batches).Perm batches :=
    List.filter_append_perm _ batches
  have subscribed := (parts.flatMap_right (fun b => b.request.subscribe)).count_eq config
  have unsubscribed := (parts.flatMap_right (fun b => b.request.unsubscribe)).count_eq config
  rw [List.flatMap_append, List.count_append] at subscribed unsubscribed
  simp only [net]
  omega

/-- When nothing is pending and nothing waits, the batches that were posted hold the live
subscriptions. -/
theorem Accounted.net_posted (account : Accounted trace c) (idle : c.batcher.hasPending = false)
    (drained : c.outbox.waiting = []) (config : SubscriptionConfig) :
    net (posted trace) config =
      (c.registry.subscriptions.map Subscription.config).count config := by
  have nothing : c.batcher.subscribe = [] ∧ c.batcher.unsubscribe = [] := by
    simpa [Batcher.hasPending] using idle
  have all : handed trace c = posted trace := by rw [handed, drained, List.append_nil]
  have balanced := ledger_balanced trace config
  rw [← account.begun, ← account.ended, Ledger.liveCount, ← account.live, all, nothing.1,
    nothing.2, List.append_nil, List.append_nil] at balanced
  simp only [net]
  omega

/-- A batch is for the dispatcher of a session that was announced. -/
theorem Life.handed_session (life : Life trace x around)
    (given : batch ∈ handed trace x.connection) :
    ∃ session ∈ announced trace, batch.request.dispatcherId = session.dispatcherId := by
  obtain ⟨e, member, given⟩ := life.handed_over batch given
  obtain ⟨pre, post, cut⟩ := List.append_of_mem member
  obtain ⟨dropped, around', y, before, -⟩ := life.split cut
  obtain ⟨session, server, known, rfl⟩ := Step.mem_handsOver given
  have told : session ∈ announced pre := by
    rw [before.session] at known
    exact List.mem_of_getLast? known
  refine ⟨session, ?_, rfl⟩
  rw [cut, announced, List.filterMap_append]
  exact List.mem_append_left _ told

/-- **Dispatchers**: when nothing is pending and nothing waits to be posted, what a dispatcher
was told and what others were told make up the live subscriptions. So it was told exactly these
if and only if what others were told cancels out, and always if no other was announced. -/
theorem told_iff_others_cancel (run : Run trace s) (known : s.manager.get? key = some c)
    (kept : ∀ e ∈ onKey key trace, e.action ≠ .loseSender)
    (idle : c.batcher.hasPending = false) (drained : c.outbox.waiting = []) (d : String) :
    (∀ config, net (sentTo d (posted (onKey key trace))) config +
          net (sentPast d (posted (onKey key trace))) config =
        (c.registry.subscriptions.map Subscription.config).count config) ∧
      ((∀ config, net (sentTo d (posted (onKey key trace))) config =
          (c.registry.subscriptions.map Subscription.config).count config) ↔
        ∀ config, net (sentPast d (posted (onKey key trace))) config = 0) ∧
      ((∀ session ∈ announced (onKey key trace), session.dispatcherId = some d) →
        ∀ config, net (sentTo d (posted (onKey key trace))) config =
          (c.registry.subscriptions.map Subscription.config).count config) := by
  obtain ⟨dropped, -, life⟩ := life_of_run run known
  have account : Accounted (onKey key trace) c := life.accounted kept
  have whole : ∀ config, net (sentTo d (posted (onKey key trace))) config +
      net (sentPast d (posted (onKey key trace))) config =
      (c.registry.subscriptions.map Subscription.config).count config := by
    intro config
    rw [net_sentTo_add_sentPast, account.net_posted idle drained]
  have cancels : (∀ config, net (sentTo d (posted (onKey key trace))) config =
      (c.registry.subscriptions.map Subscription.config).count config) ↔
      ∀ config, net (sentPast d (posted (onKey key trace))) config = 0 :=
    forall_congr' (fun config => by have := whole config; omega)
  refine ⟨whole, cancels, fun only => cancels.mpr (fun config => ?_)⟩
  have none : sentPast d (posted (onKey key trace)) = [] := by
    rw [sentPast, List.filter_eq_nil_iff]
    intro batch sent
    obtain ⟨session, told, same⟩ := life.handed_session (List.mem_append_left _ sent)
    simp [same, only session told]
  rw [none]
  rfl

/-- A caller whose subscription is posted to the dispatcher that the stream announced. -/
def enlisted : List Action :=
  [ .subscribe ⟨"job", none, ⟨"callback"⟩, none⟩,
    .beginConnect true ⟨0, 0⟩,
    .endConnect ⟨"http://gateway", ⟨"client"⟩, 0⟩ none,
    .receive 0 (announcing "d1"),
    .flush 1 3 true,
    .beginPost,
    .endPost (.ok ()) ]

/-- With one dispatcher, the dispatcher knows the subscription. -/
theorem told_iff_others_cancel_enlisted :
    ∃ c, (System.lone.play 0 enlisted).1.manager.get? 0 = some c ∧
      c.registry.subscriptions.length = 1 ∧
      ∀ config, net (sentTo "d1" (posted (onKey 0 (System.lone.play 0 enlisted).2))) config =
        (c.registry.subscriptions.map Subscription.config).count config := by
  have idle : ((System.lone.play 0 enlisted).1.manager.get? 0).any (fun c =>
      c.registry.subscriptions.length == 1 && !c.batcher.hasPending &&
        c.outbox.waiting.isEmpty) := by
    decide +kernel
  rw [Option.any_eq_true] at idle
  obtain ⟨c, known, idle⟩ := idle
  simp only [Bool.and_eq_true, beq_iff_eq, Bool.not_eq_true', List.isEmpty_iff] at idle
  obtain ⟨⟨one, idle⟩, drained⟩ := idle
  have kept : ∀ e ∈ onKey 0 (System.lone.play 0 enlisted).2, e.action ≠ .loseSender := by
    intro e member lost
    have listed := mem_play (List.mem_filter.mp member).1
    simp [enlisted, lost] at listed
  have only : (announced (onKey 0 (System.lone.play 0 enlisted).2)).all (fun session =>
      session.dispatcherId == some "d1") := by
    decide +kernel
  have told := told_iff_others_cancel (run_lone.play 0 enlisted) known kept idle drained "d1"
  exact ⟨c, known, one, told.2.2 (by simpa using only)⟩

/-- The same caller, when the stream announces another dispatcher. -/
def succeeded : List Action := enlisted ++ [.receive 0 (announcing "d2")]

/-- A dispatcher that is announced in place of another is told nothing of a subscription that
lives on, and nothing is left that would tell it. -/
theorem successor_untold :
    ∃ trace s c session d config, Run trace s ∧ s.manager.get? 0 = some c ∧
      c.session = some session ∧ session.dispatcherId = some d ∧
      c.batcher.hasPending = false ∧ c.outbox.waiting = [] ∧ c.outbox.posting = none ∧
      (∀ f ∈ (s.around 0).flushes, f.isDue = false) ∧
      net (sentTo d (posted (onKey 0 trace))) config = 0 ∧
      (c.registry.subscriptions.map Subscription.config).count config = 1 := by
  have quiet : ((System.lone.play 0 succeeded).1.manager.get? 0).any (fun c =>
      c.session.any (fun session => session.dispatcherId == some "d2") &&
        !c.batcher.hasPending && c.outbox.waiting.isEmpty && c.outbox.posting.isNone &&
        (c.registry.subscriptions.map Subscription.config).count
          (SubscriptionConfig.ofChannel "job" none) == 1) := by
    decide +kernel
  rw [Option.any_eq_true] at quiet
  obtain ⟨c, known, quiet⟩ := quiet
  simp only [Bool.and_eq_true, Option.any_eq_true, beq_iff_eq, Bool.not_eq_true',
    List.isEmpty_iff, Option.isNone_iff_eq_none] at quiet
  obtain ⟨⟨⟨⟨⟨session, hello, other⟩, idle⟩, drained⟩, resting⟩, lives⟩ := quiet
  have unarmed : ∀ f ∈ ((System.lone.play 0 succeeded).1.around 0).flushes,
      f.isDue = false := by
    decide +kernel
  have untold : net (sentTo "d2" (posted (onKey 0 (System.lone.play 0 succeeded).2)))
      (SubscriptionConfig.ofChannel "job" none) = 0 := by
    decide +kernel
  exact ⟨_, _, c, session, "d2", _, run_lone.play 0 succeeded, known, hello, other, idle, drained,
    resting, unarmed, untold, lives⟩

end GatewayClient.Runs

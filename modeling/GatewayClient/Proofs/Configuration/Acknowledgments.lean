import GatewayClient.Proofs.Configuration.Deltas
import GatewayClient.Proofs.Simulation.Calls

/-!
# GatewayClient.Proofs.Configuration.Acknowledgments

Which listeners an acknowledgment calls. A call joins the batch that is current when it is made,
with its changes and with its listener; the batch is posted under its id, and the gateway sends
the id back. As long as the gateway acknowledges nothing that was not posted:

```
first ack of n   calls   the listeners of all calls that joined batch n, in call order
any other ack    calls   nobody
```
-/

namespace GatewayClient.Runs

/-! ## what joins a batch -/

/-- The listener that a call is made to. -/
def ackListener? : Invocation → Option AckListener
  | .acknowledged l => some l
  | _ => none

namespace Step

/-- The batch that is current when a step is taken. -/
def batch (e : Step) : Nat := e.before.batcher.batchId

/-- The subscription that a call begins. -/
def begun (e : Step) : List SubscriptionConfig :=
  match e.action with
  | .subscribe request =>
    if request.channel.isEmpty then []
    else [SubscriptionConfig.ofChannel request.channel request.filter]
  | _ => []

/-- The subscriptions that a call ends. -/
def ended (e : Step) : List SubscriptionConfig :=
  match e.action with
  | .unsubscribe callback _ => e.before.configsOf callback
  | _ => []

/-- The listener that a call leaves. -/
def listener (e : Step) : List AckListener :=
  match e.action with
  | .subscribe request => if request.channel.isEmpty then [] else request.onSubscribed.toList
  | .unsubscribe _ listener => listener.toList
  | _ => []

/-- The batch that a frame acknowledges. -/
def acks? (e : Step) : Option Nat :=
  match e.action with
  | .receive _ frame =>
    if frame.event = Connection.configureFrame then
      (Acknowledgment.read frame.data).toOption.map (fun ack => ack.batchId.toNat)
    else none
  | _ => none

/-- The listeners that a step calls. -/
def called (e : Step) : List AckListener :=
  (callsOf e.outcome.commands).filterMap ackListener?

end Step

/-- What steps that were taken while a batch was current contribute to it. -/
def gather (f : Step → List α) (n : Nat) (trace : List Step) : List α :=
  (trace.filter (fun e => e.batch == n)).flatMap f

/-- The batches that were acknowledged. -/
def acked (trace : List Step) : List Nat := trace.filterMap Step.acks?

/-- Only a frame of the reserved name acknowledges. -/
theorem acks?_receive_other {frame : EventStream.Frame}
    (other : frame.event ≠ Connection.configureFrame) :
    Step.acks? ⟨key, .receive stream frame, c, outcome⟩ = none := if_neg other

theorem gather_snoc (f : Step → List α) (n : Nat) (trace : List Step) (e : Step) :
    gather f n (trace ++ [e]) = gather f n trace ++ if e.batch = n then f e else [] := by
  by_cases here : e.batch = n <;> simp [gather, here]

/-- A step that contributes nothing can be left out. -/
theorem gather_snoc_nil {f : Step → List α} {e : Step} (nothing : f e = []) (n : Nat)
    (trace : List Step) : gather f n (trace ++ [e]) = gather f n trace := by
  rw [gather_snoc, nothing, ite_self, List.append_nil]

/-- Nothing has joined a batch that was never current. -/
theorem gather_eq_nil {f : Step → List α} {trace : List Step}
    (other : ∀ e ∈ trace, e.batch ≠ n) : gather f n trace = [] := by
  have none : trace.filter (fun e => e.batch == n) = [] := by
    rw [List.filter_eq_nil_iff]
    intro e member
    simpa using other e member
  rw [gather, none, List.flatMap_nil]

theorem acked_snoc (trace : List Step) (e : Step) :
    acked (trace ++ [e]) = acked trace ++ e.acks?.toList := by
  cases acks : e.acks? <;> simp [acked, acks]

/-! ## bodies -/

/-- A batch carries the changes of the calls that joined it, to the URL with its id. -/
structure Carries (trace : List Step) (batch : OutgoingBatch) : Prop where
  subscribe : batch.request.subscribe = gather Step.begun batch.batchId trace
  unsubscribe : batch.request.unsubscribe = gather Step.ended batch.batchId trace
  url : ∃ server, batch.url = Endpoint.configureUrl server batch.batchId

/-- The current batch gathers what joins it, and every older batch carries what has joined. -/
structure Gathered (trace : List Step) (c : Connection) : Prop where
  first : 1 ≤ c.batcher.batchId
  earlier : ∀ e ∈ trace, e.batch ≤ c.batcher.batchId
  subscribe : c.batcher.subscribe = gather Step.begun c.batcher.batchId trace
  unsubscribe : c.batcher.unsubscribe = gather Step.ended c.batcher.batchId trace
  older : ∀ batch ∈ handed trace c, 1 ≤ batch.batchId ∧ batch.batchId < c.batcher.batchId
  carries : ∀ batch ∈ handed trace c, Carries trace batch

namespace Gathered

variable {trace : List Step} {c c' : Connection} {e : Step}

/-- A batch that is closed stays what it is. -/
theorem closed (gathered : Gathered trace c) (own : e.before = c)
    {batch : OutgoingBatch} (member : batch ∈ handed trace c) : Carries (trace ++ [e]) batch := by
  have before := gathered.carries batch member
  have later : ¬ e.batch = batch.batchId := by
    rw [Step.batch, own]
    exact Nat.ne_of_gt (gathered.older batch member).2
  constructor
  · rw [gather_snoc, if_neg later, List.append_nil]; exact before.subscribe
  · rw [gather_snoc, if_neg later, List.append_nil]; exact before.unsubscribe
  · exact before.url

theorem earlier_snoc (gathered : Gathered trace c) (own : e.before = c)
    (grown : c.batcher.batchId ≤ m) : ∀ e' ∈ trace ++ [e], e'.batch ≤ m := by
  intro e' member
  rw [List.mem_append, List.mem_singleton] at member
  rcases member with past | rfl
  · exact Nat.le_trans (gathered.earlier e' past) grown
  · rw [Step.batch, own]; exact grown

/-- A step that hands nothing over adds its changes to the current batch. -/
theorem join (gathered : Gathered trace c) (own : e.before = c)
    (queued : ∀ batch ∈ e.outcome.posted.toList ++ c'.outbox.waiting, batch ∈ c.outbox.waiting)
    (current : c'.batcher.batchId = c.batcher.batchId)
    (subscribe : c'.batcher.subscribe = c.batcher.subscribe ++ e.begun)
    (unsubscribe : c'.batcher.unsubscribe = c.batcher.unsubscribe ++ e.ended) :
    Gathered (trace ++ [e]) c' := by
  have old : ∀ batch ∈ handed (trace ++ [e]) c', batch ∈ handed trace c := by
    intro batch member
    rw [handed, posted_snoc, List.append_assoc, List.mem_append] at member
    exact List.mem_append.mpr (member.imp id (queued batch))
  have here : e.batch = c.batcher.batchId := by rw [Step.batch, own]
  constructor
  · rw [current]; exact gathered.first
  · rw [current]; exact gathered.earlier_snoc own (Nat.le_refl _)
  · rw [subscribe, current, gather_snoc, if_pos here, gathered.subscribe]
  · rw [unsubscribe, current, gather_snoc, if_pos here, gathered.unsubscribe]
  · rw [current]; exact fun batch member => gathered.older batch (old batch member)
  · exact fun batch member => gathered.closed own (old batch member)

/-- A step that closes the batch hands over at most the batch itself. -/
theorem close (gathered : Gathered trace c) (own : e.before = c) (begun : e.begun = [])
    (ended : e.ended = []) (silent : e.outcome.posted = none) (emptied : c'.batcher = c.emptied)
    (queued : c'.outbox.waiting = c.outbox.waiting ∨ ∃ session server,
      c'.outbox.waiting = c.outbox.waiting ++ [c.nextBatch session server]) :
    Gathered (trace ++ [e]) c' := by
  have next : c'.batcher.batchId = c.batcher.batchId + 1 := by rw [emptied]; rfl
  have earlier := gathered.earlier_snoc own (Nat.le_refl _)
  have fresh : ∀ e' ∈ trace ++ [e], e'.batch ≠ c.batcher.batchId + 1 :=
    fun e' member => Nat.ne_of_lt (Nat.lt_succ_of_le (earlier e' member))
  have hands : ∀ batch ∈ handed (trace ++ [e]) c', batch ∈ handed trace c ∨
      ∃ session server, batch = c.nextBatch session server := by
    intro batch member
    rw [handed, posted_snoc, silent, Option.toList_none, List.append_nil] at member
    rcases queued with same | ⟨session, server, more⟩
    · rw [same] at member
      exact .inl member
    · rw [more, ← List.append_assoc, List.mem_append, List.mem_singleton] at member
      exact member.imp id (fun made => ⟨session, server, made⟩)
  constructor
  · rw [next]; exact Nat.le_add_left _ _
  · rw [next]; exact gathered.earlier_snoc own (Nat.le_succ _)
  · rw [next, gather_eq_nil fresh, emptied]; rfl
  · rw [next, gather_eq_nil fresh, emptied]; rfl
  · intro batch member
    rw [next]
    rcases hands batch member with old | ⟨session, server, rfl⟩
    · exact (gathered.older batch old).imp id Nat.lt_succ_of_lt
    · exact ⟨gathered.first, Nat.lt_succ_self _⟩
  · intro batch member
    rcases hands batch member with old | ⟨session, server, rfl⟩
    · exact gathered.closed own old
    · constructor
      · rw [gather_snoc_nil begun]; exact gathered.subscribe
      · rw [gather_snoc_nil ended]; exact gathered.unsubscribe
      · exact ⟨server, rfl⟩

end Gathered

theorem Life.gathered (life : Life trace x around) : Gathered trace x.connection := by
  induction life with
  | born id url hook settings =>
    constructor
    · exact Nat.le_refl 1
    · simp
    · rfl
    · rfl
    · simp [handed, posted, Connection.create, Outbox.empty]
    · simp [handed, posted, Connection.create, Outbox.empty]
  | next life change key gathered =>
    cases change with
    | nameless request commands unnamed quiet =>
      exact gathered.join rfl (fun _ member => member) rfl (by simp [Step.begun, unnamed])
        (by simp [Step.ended])
    | subscribe request commands named done =>
      exact gathered.join rfl (fun _ member => member)
        (by simp [Connection.withSubscription, Batcher.queueSubscribe])
        (by simp [Connection.withSubscription, Batcher.queueSubscribe, Step.begun, named])
        (by simp [Connection.withSubscription, Batcher.queueSubscribe, Step.ended])
    | unsubscribe callback listener commands done =>
      exact gathered.join rfl (fun _ member => member) (by simp [Connection.withoutCallback])
        (by simp [Connection.withoutCallback, Step.begun])
        (by simp [Connection.withoutCallback, Step.ended])
    | flushSent task pushes commands known found waits running done =>
      exact gathered.close rfl rfl rfl rfl rfl (.inr ⟨_, _, rfl⟩)
    | flushLost task pushes commands known found waits stopped quiet =>
      exact gathered.close rfl rfl rfl rfl rfl (.inl rfl)
    | beginPost batch rest idle running waiting =>
      exact gathered.join rfl (fun _ member => by rw [waiting]; exact member) rfl
        (List.append_nil _).symm (List.append_nil _).symm
    | loseSender =>
      exact gathered.join rfl (fun _ member => by contradiction) rfl (List.append_nil _).symm
        (List.append_nil _).symm
    | _ =>
      exact gathered.join rfl (fun _ member => member) rfl (List.append_nil _).symm
        (List.append_nil _).symm

/-! ## slots -/

/-- The gateway acknowledges nothing that was not posted before. -/
def AcksFollowPosts (trace : List Step) : Prop :=
  ∀ pre e post n, trace = pre ++ e :: post → e.acks? = some n →
    ∃ batch ∈ posted pre, batch.batchId = n

theorem AcksFollowPosts.init {trace : List Step} (follow : AcksFollowPosts (trace ++ more)) :
    AcksFollowPosts trace := by
  intro pre e post n cut
  exact follow pre e (post ++ more) n (by rw [cut, List.append_assoc, List.cons_append])

/-- Looking at each step in its place decides whether acknowledgments follow posts. -/
theorem acksFollowPosts_iff (steps : List Step) :
    AcksFollowPosts steps ↔ (List.range steps.length).all (fun i =>
      (steps[i]?.bind Step.acks?).all (fun n =>
        (posted (steps.take i)).any (fun batch => batch.batchId == n))) = true := by
  constructor
  · intro follow
    rw [List.all_eq_true]
    intro i member
    have bound : i < steps.length := List.mem_range.mp member
    rw [List.getElem?_eq_getElem bound, Option.bind_some]
    cases acks : steps[i].acks? with
    | none => rfl
    | some n =>
      have cut : steps = steps.take i ++ steps[i] :: steps.drop (i + 1) := by
        rw [← List.drop_eq_getElem_cons bound, List.take_append_drop]
      obtain ⟨batch, posted, rfl⟩ := follow _ _ _ n cut acks
      simpa using ⟨batch, posted, rfl⟩
  · intro checked pre e post n cut acks
    subst cut
    have here := List.all_eq_true.mp checked pre.length (by simp)
    simpa [acks] using here

instance (steps : List Step) : Decidable (AcksFollowPosts steps) :=
  decidable_of_iff' _ (acksFollowPosts_iff steps)

/-- The slots of a connection: one for each batch that was opened and not acknowledged, with the
listeners of all calls that joined the batch. -/
structure Slotted (trace : List Step) (c : Connection) : Prop where
  behind : ∀ n ∈ acked trace, n < c.batcher.batchId
  slots : ∀ n, c.batcher.slot? n =
    if 1 ≤ n ∧ n ≤ c.batcher.batchId ∧ n ∉ acked trace then
      some ⟨n, gather Step.listener n trace⟩
    else none

namespace Slotted

variable {trace : List Step} {c c' : Connection} {e : Step}

/-- The current batch has its slot. -/
theorem current (slotted : Slotted trace c) (first : 1 ≤ c.batcher.batchId) :
    c.batcher.slot? c.batcher.batchId =
      some ⟨c.batcher.batchId, gather Step.listener c.batcher.batchId trace⟩ := by
  have unacked : c.batcher.batchId ∉ acked trace :=
    fun member => Nat.lt_irrefl _ (slotted.behind _ member)
  rw [slotted.slots, if_pos ⟨first, Nat.le_refl _, unacked⟩]

/-- A step that leaves no listener and acknowledges nothing keeps the slots. -/
theorem idle (slotted : Slotted trace c) (silent : e.listener = []) (deaf : e.acks? = none)
    (current : c'.batcher.batchId = c.batcher.batchId)
    (slots : c'.batcher.slots = c.batcher.slots) : Slotted (trace ++ [e]) c' := by
  have same : acked (trace ++ [e]) = acked trace := by
    rw [acked_snoc, deaf, Option.toList_none, List.append_nil]
  constructor
  · rw [same, current]; exact slotted.behind
  · intro n
    rw [same, current, gather_snoc_nil silent, Batcher.slot?, slots]
    exact slotted.slots n

/-- A call leaves its listener in the current slot. -/
theorem call (slotted : Slotted trace c) (first : 1 ≤ c.batcher.batchId) (own : e.before = c)
    (deaf : e.acks? = none) (left : e.listener = listener.toList) {b : Batcher}
    (accepted : c'.batcher = b.accept listener)
    (same : b.batchId = c.batcher.batchId ∧ b.slots = c.batcher.slots) :
    Slotted (trace ++ [e]) c' := by
  obtain ⟨sameId, sameSlots⟩ := same
  have unchanged : acked (trace ++ [e]) = acked trace := by
    rw [acked_snoc, deaf, Option.toList_none, List.append_nil]
  have here : e.batch = c.batcher.batchId := by rw [Step.batch, own]
  have found : ∀ n, b.slot? n = c.batcher.slot? n := fun n => by
    rw [Batcher.slot?, sameSlots]; rfl
  have opened := slotted.current first
  rw [← found, ← sameId] at opened
  constructor
  · rw [unchanged, accepted, Batcher.batchId_accept, sameId]; exact slotted.behind
  · intro n
    rw [accepted, Batcher.slot?_accept opened, Batcher.batchId_accept, unchanged, gather_snoc,
      here, left, sameId, found]
    by_cases current : n = c.batcher.batchId
    · subst current
      have unacked : c.batcher.batchId ∉ acked trace :=
        fun member => Nat.lt_irrefl _ (slotted.behind _ member)
      rw [if_pos rfl, if_pos ⟨first, Nat.le_refl _, unacked⟩, if_pos rfl]
    · have other : ¬ c.batcher.batchId = n := fun same => current same.symm
      rw [if_neg current, if_neg other, List.append_nil]
      exact slotted.slots n

/-- Closing the batch opens the slot of the next one. -/
theorem close (slotted : Slotted trace c) (earlier : ∀ e' ∈ trace, e'.batch ≤ c.batcher.batchId)
    (silent : e.listener = []) (deaf : e.acks? = none) (emptied : c'.batcher = c.emptied) :
    Slotted (trace ++ [e]) c' := by
  have same : acked (trace ++ [e]) = acked trace := by
    rw [acked_snoc, deaf, Option.toList_none, List.append_nil]
  have next : c'.batcher.batchId = c.batcher.batchId + 1 := by rw [emptied]; rfl
  constructor
  · rw [same, next]
    exact fun n member => Nat.lt_succ_of_lt (slotted.behind n member)
  · intro n
    have advanced : c'.batcher.slot? n = (c.batcher.slot? n).or
        (if n = c.batcher.batchId + 1 then some ⟨n, []⟩ else none) := by
      rw [emptied, Connection.emptied, Batcher.slot?_advance]
      rfl
    rw [advanced, same, next, gather_snoc_nil silent, slotted.slots]
    by_cases fresh : n = c.batcher.batchId + 1
    · have unacked : n ∉ acked trace := fun member =>
        Nat.not_lt_of_le (by rw [fresh]; exact Nat.le_succ _) (slotted.behind n member)
      have nobody : gather Step.listener n trace = [] :=
        gather_eq_nil (fun e' member joined => by
          have bound := earlier e' member
          omega)
      have beyond : ¬ (1 ≤ n ∧ n ≤ c.batcher.batchId ∧ n ∉ acked trace) := by
        rintro ⟨-, small, -⟩
        omega
      rw [if_neg beyond, if_pos fresh, if_pos ⟨by omega, Nat.le_of_eq fresh, unacked⟩, nobody,
        Option.none_or]
    · have bound : n ≤ c.batcher.batchId + 1 ↔ n ≤ c.batcher.batchId := by omega
      simp only [if_neg fresh, Option.or_none, bound]

/-- An acknowledgment of an older batch closes its slot. -/
theorem acknowledge (slotted : Slotted trace c) (silent : e.listener = [])
    (acks : e.acks? = some m) (older : m < c.batcher.batchId)
    (closed : c'.batcher = (c.batcher.acknowledge m).1) : Slotted (trace ++ [e]) c' := by
  have more : ∀ n, n ∈ acked (trace ++ [e]) ↔ n ∈ acked trace ∨ n = m := by
    intro n
    rw [acked_snoc, acks, Option.toList_some, List.mem_append, List.mem_singleton]
  have current : c'.batcher.batchId = c.batcher.batchId := by rw [closed]; rfl
  constructor
  · intro n member
    rw [current]
    rcases (more n).mp member with past | rfl
    · exact slotted.behind n past
    · exact older
  · intro n
    rw [current, closed, Batcher.slot?_acknowledge, gather_snoc_nil silent, slotted.slots]
    by_cases named : n = m
    · have gone : ¬ (1 ≤ n ∧ n ≤ c.batcher.batchId ∧ n ∉ acked (trace ++ [e])) :=
        fun held => held.2.2 ((more n).mpr (.inr named))
      rw [if_pos named, if_neg gone]
    · have same : n ∈ acked (trace ++ [e]) ↔ n ∈ acked trace := by
        rw [more n, or_iff_left named]
      simp only [if_neg named, same]

end Slotted

theorem Slotted.born (id : ClientId) (url : Option String) (hook : Option SessionHook)
    (settings : Settings) : Slotted [] (Connection.create id url hook settings) := by
  constructor
  · simp [acked]
  · intro n
    have started : (Connection.create id url hook settings).batcher.slot? n =
        if 1 = n then some ⟨1, []⟩ else none := by
      by_cases first : 1 = n <;> simp [Batcher.slot?, Connection.create, Batcher.start, first]
    rw [started]
    by_cases first : 1 = n
    · subst first
      simp [acked, gather, Connection.create, Batcher.start]
    · have beyond : ¬ (1 ≤ n ∧ n ≤ 1 ∧ n ∉ acked []) := by
        rintro ⟨large, small, -⟩
        omega
      rw [if_neg first]
      exact (if_neg beyond).symm

theorem Life.slotted (life : Life trace x around) (follow : AcksFollowPosts trace) :
    Slotted trace x.connection := by
  induction life with
  | born id url hook settings => exact Slotted.born id url hook settings
  | @next trace x around action outcome y life change key ih =>
    have gathered := life.gathered
    have slotted := ih follow.init
    have older : ∀ n, Step.acks? ⟨key, action, x.connection, outcome⟩ = some n →
        n < x.connection.batcher.batchId := by
      intro n acks
      obtain ⟨batch, member, rfl⟩ := follow trace _ [] n rfl acks
      exact (gathered.older batch (List.mem_append_left _ member)).2
    cases change with
    | nameless request commands unnamed quiet =>
      exact slotted.idle (by simp [Step.listener, unnamed]) rfl rfl rfl
    | @subscribe c request commands named done =>
      have left : Step.listener ⟨key, .subscribe request, c,
          { commands, answer := c.batcher.reception request.onSubscribed }⟩ =
          request.onSubscribed.toList := by
        simp [Step.listener, named]
      exact slotted.call gathered.first rfl rfl left rfl ⟨rfl, rfl⟩
    | unsubscribe callback listener commands done =>
      exact slotted.call gathered.first rfl rfl rfl rfl ⟨rfl, rfl⟩
    | flushSent task pushes commands known found waits running done =>
      exact slotted.close gathered.earlier rfl rfl rfl
    | flushLost task pushes commands known found waits stopped quiet =>
      exact slotted.close gathered.earlier rfl rfl rfl
    | openIgnored stream frame commands named unread quiet =>
      exact slotted.idle rfl (acks?_receive_other (by rw [named]; decide)) rfl rfl
    | opened stream frame session commands reader named full read done =>
      exact slotted.idle rfl (acks?_receive_other (by rw [named]; decide)) rfl rfl
    | @ackIgnored error c stream frame commands named unread quiet =>
      have deaf : Step.acks? ⟨key, .receive stream frame, c, { commands }⟩ = none := by
        simp [Step.acks?, named, unread, Except.toOption]
      exact slotted.idle rfl deaf rfl rfl
    | @acknowledged c stream frame ack commands named read done =>
      have acks : Step.acks? ⟨key, .receive stream frame, c, { commands }⟩ =
          some ack.batchId.toNat := by
        simp [Step.acks?, named, read, Except.toOption]
      exact slotted.acknowledge rfl acks (older _ acks) rfl
    | reloaded stream frame commands named done =>
      exact slotted.idle rfl (acks?_receive_other (by rw [named]; decide)) rfl rfl
    | event stream frame commands unreserved done =>
      have other : frame.event ≠ Connection.configureFrame := fun same => by
        simp [same] at unreserved
      exact slotted.idle rfl (acks?_receive_other other) rfl rfl
    | _ => exact slotted.idle rfl rfl rfl rfl

/-! ## which listeners are called -/

theorem gather_append (f : Step → List α) (n : Nat) (xs ys : List Step) :
    gather f n (xs ++ ys) = gather f n xs ++ gather f n ys := by
  simp [gather]

/-- The current batch only moves on. -/
theorem Life.batch_le (life : Life trace x around) (cut : trace = pre ++ e :: post) :
    ∀ later ∈ post, e.batch ≤ later.batch := by
  intro later member
  obtain ⟨between, rest, rfl⟩ := List.append_of_mem member
  have further : trace = (pre ++ e :: between) ++ later :: rest := by
    rw [cut, List.append_assoc, List.cons_append]
  obtain ⟨dropped, before, y, earlier, -⟩ := life.split further
  exact earlier.gathered.earlier e (by simp)

/-- An event calls no listener. -/
theorem listeners_eventCalls (c : Connection) (channel data : String) :
    (callsOf (c.eventCalls channel data)).filterMap ackListener? = [] := by
  obtain ⟨matched, same⟩ := c.eventCalls_eq_map channel data
  rw [same, callsOf_map_call, List.filterMap_map, List.filterMap_eq_nil_iff]
  exact fun _ _ => rfl

/-- Only an acknowledgment calls listeners: those that wait in the slot that it names. -/
theorem Change.called (change : Change around x action outcome y) (key : ConnectionKey) :
    Step.called ⟨key, action, x.connection, outcome⟩ =
      match Step.acks? ⟨key, action, x.connection, outcome⟩ with
      | none => []
      | some n => ((x.connection.batcher.slot? n).map AckSlot.listeners).getD [] := by
  rw [Step.called, change.calls]
  cases action with
  | receive stream frame =>
    simp only [callsFor, Step.acks?]
    by_cases announces : frame.event = Connection.openFrame
    · have other : ¬ Connection.openFrame = Connection.configureFrame := by decide
      rw [if_pos announces, announces, if_neg other]
      cases Text.isAllBlank frame.data with
      | true => rfl
      | false =>
        cases Session.read frame.data with
        | error e => rfl
        | ok session => cases x.connection.hook <;> rfl
    rw [if_neg announces]
    by_cases acks : frame.event = Connection.configureFrame
    · rw [if_pos acks, if_pos acks]
      cases Acknowledgment.read frame.data with
      | error e => rfl
      | ok ack =>
        simp only [Except.toOption, Option.map_some, Batcher.acknowledge_snd]
        rw [List.filterMap_map]
        exact List.filterMap_some
    rw [if_neg acks, if_neg acks]
    split
    · rfl
    · exact listeners_eventCalls _ _ _
  | _ => rfl

/-- Where every batch has its slot, no listener is refused. -/
theorem Change.not_obsolete (change : Change around x action outcome y)
    (opened : x.connection.batcher.slot? x.connection.batcher.batchId = some slot) (n : Nat) :
    outcome.answer ≠ .error (.obsoleteBatch n) := by
  cases change with
  | subscribe request commands named done =>
    rw [Batcher.reception_of_slot? opened]
    exact nofun
  | unsubscribe callback listener commands done =>
    rw [Batcher.reception_of_slot? opened]
    exact nofun
  | connectRefused pushes moment commands answer reason quiet =>
    rcases reason with rfl | rfl <;> exact nofun
  | _ => exact nofun

/-- **Listeners**: as long as the gateway acknowledges nothing that was not posted, no listener is
refused; every posted batch carries the changes of the calls that joined it; the first
acknowledgment of a batch, which was posted by then, calls the listeners of all calls that joined
it, in call order, and no other step calls any; each of these calls is made, whatever the
others do and whichever of them fail; and the listeners of a batch that is not acknowledged are
still there. -/
theorem listeners_called_once (run : Run trace s) (known : s.manager.get? key = some c)
    (follow : AcksFollowPosts (onKey key trace)) :
    (∀ e ∈ onKey key trace, ∀ n, e.outcome.answer ≠ .error (.obsoleteBatch n)) ∧
      (∀ batch ∈ posted (onKey key trace), Carries (onKey key trace) batch) ∧
      (∀ pre e post, onKey key trace = pre ++ e :: post →
        (e.acks? = none → e.called = []) ∧
        (∀ n, e.acks? = some n → (∃ batch ∈ posted pre, batch.batchId = n) ∧
          e.called = if n ∈ acked pre then [] else gather Step.listener n (onKey key trace)) ∧
        ∀ w : Simulation.World,
          (e.outcome.commands.foldl (Simulation.World.carryOut key) w).calls =
            w.calls ++ callsOf e.outcome.commands) ∧
      (∀ e ∈ onKey key trace, e.batch ∉ acked (onKey key trace) →
        c.batcher.slot? e.batch =
          some ⟨e.batch, gather Step.listener e.batch (onKey key trace)⟩) := by
  obtain ⟨dropped, -, life⟩ := life_of_run run known
  have gathered : Gathered (onKey key trace) c := life.gathered
  have slotted : Slotted (onKey key trace) c := life.slotted follow
  refine ⟨?_, ?_, ?_, ?_⟩
  · intro e member n
    obtain ⟨pre, post, cut⟩ := List.append_of_mem member
    obtain ⟨dropped, before, y, past, change⟩ := life.split cut
    have held := past.slotted (AcksFollowPosts.init (by rw [← cut]; exact follow))
    exact change.not_obsolete (held.current past.gathered.first) n
  · exact fun batch member => gathered.carries batch (List.mem_append_left _ member)
  · intro pre e post cut
    obtain ⟨dropped, before, y, past, change⟩ := life.split cut
    have held := past.slotted (AcksFollowPosts.init (by rw [← cut]; exact follow))
    have called : e.called = match e.acks? with
        | none => []
        | some n => ((e.before.batcher.slot? n).map AckSlot.listeners).getD [] :=
      change.called e.key
    refine ⟨?_, ?_, fun w => Simulation.World.calls_carryOut key _ w⟩
    · intro deaf
      rw [called, deaf]
    · intro n acks
      obtain ⟨batch, member, rfl⟩ := follow pre e post n cut acks
      refine ⟨⟨batch, member, rfl⟩, ?_⟩
      have bounds : 1 ≤ batch.batchId ∧ batch.batchId < e.batch :=
        past.gathered.older batch (List.mem_append_left _ member)
      -- nothing joins the batch from here on, so those who have joined are all
      have complete : gather Step.listener batch.batchId (e :: post) = [] := by
        apply gather_eq_nil
        intro later joined
        rcases List.mem_cons.mp joined with rfl | joined
        · exact Nat.ne_of_gt bounds.2
        · exact Nat.ne_of_gt (Nat.lt_of_lt_of_le bounds.2 (life.batch_le cut later joined))
      have all : gather Step.listener batch.batchId (onKey key trace) =
          gather Step.listener batch.batchId pre := by
        rw [cut, gather_append, complete, List.append_nil]
      rw [called, acks, all]
      simp only [held.slots]
      by_cases repeated : batch.batchId ∈ acked pre
      · have gone : ¬ (1 ≤ batch.batchId ∧ batch.batchId ≤ e.before.batcher.batchId ∧
            batch.batchId ∉ acked pre) := fun within => within.2.2 repeated
        rw [if_neg gone, if_pos repeated]
        rfl
      · rw [if_pos ⟨bounds.1, Nat.le_of_lt bounds.2, repeated⟩, if_neg repeated]
        rfl
  · intro e member unacked
    obtain ⟨pre, post, cut⟩ := List.append_of_mem member
    obtain ⟨dropped, before, y, past, change⟩ := life.split cut
    rw [slotted.slots, if_pos ⟨past.gathered.first, gathered.earlier e member, unacked⟩]

/-- On the tour the only listener is called when its batch is acknowledged. -/
theorem listeners_called_once_on_tour :
    AcksFollowPosts (onKey 0 toured.2) ∧ acked (onKey 0 toured.2) = [1] ∧
      ∀ pre e post, onKey 0 toured.2 = pre ++ e :: post → e.acks? = some 1 →
        e.called = if 1 ∈ acked pre then [] else [⟨"subscribed"⟩] := by
  have follow : AcksFollowPosts (onKey 0 toured.2) := by decide +kernel
  have known : (toured.1.manager.get? 0).isSome := by decide +kernel
  obtain ⟨c, known⟩ := Option.isSome_iff_exists.mp known
  refine ⟨follow, by decide +kernel, fun pre e post cut acks => ?_⟩
  have called := ((listeners_called_once run_toured known follow).2.2.1 pre e post cut).2.1 1 acks
  have joined : gather Step.listener 1 (onKey 0 toured.2) = [⟨"subscribed"⟩] := by decide +kernel
  rw [called.2, joined]

end GatewayClient.Runs

import GatewayClient.Proofs.Configuration.Deltas
import GatewayClient.Proofs.Configuration.PendingFlush
import GatewayClient.Proofs.Debounce.Timed
import Mathlib.Data.List.Chain

/-!
# GatewayClient.Proofs.Debounce.Burst

Calls in a burst, each of them before the batch delay has passed since the one before it, make
one batch:

```
t₁      t₂    t₃     …     tₙ                 tₙ + delay
call    call  call         call               a batch with the changes of all calls,
                                              unless they changed nothing
```

Each call takes away the task that the one before it has armed. `Gathering` and `Alarmed` say
how it stands while only the task of the last call is sure to run, `Settled` how it stands once
that one has run.
-/

namespace GatewayClient.Runs

/-! ## what is taken, and when calls come -/

/-- The batch that a step takes: a flush has taken one if it leaves the batcher as it is left by
taking. No other step takes any. -/
def Step.taken? (e : Step) : Option TakenBatch :=
  match e.action with
  | .flush _ generation pushes =>
    (e.before.batcher.take? (e.before.session.bind Session.dispatcherId)).bind
      (fun (batcher, batch) =>
        if (e.before.flush generation pushes).1.batcher = batcher then some batch else none)
  | _ => none

/-- The batches that were taken, with the times at which they were. -/
def taken (timeline : List Dated) : List (Nat × TakenBatch) :=
  timeline.filterMap (fun d => d.step.taken?.map (fun batch => (d.time, batch)))

/-- The times of the calls. -/
def callTimes (timeline : List Dated) : List Nat :=
  (timeline.filter (fun d => d.step.action.isCall)).map Dated.time

/-- The account of the calls of a timeline that begins with some live subscriptions. -/
def accountFrom (live : List Subscription) (timeline : List Dated) : Ledger :=
  timeline.foldl (fun l d => l.enter d.step.action) ⟨[], [], live⟩

/-- What a connection has still to send, as an account. -/
def unsent (c : Connection) : Ledger :=
  ⟨c.batcher.subscribe, c.batcher.unsubscribe, c.registry.subscriptions⟩

/-- The batch that an account makes, unless there is nothing in it. -/
def Ledger.batches (l : Ledger) (batchId : Nat) (dispatcherId : Option String) :
    List TakenBatch :=
  if l.begun = [] ∧ l.ended = [] then [] else [⟨batchId, ⟨l.begun, l.ended, dispatcherId⟩⟩]

/-- What is taken from a batcher is what the connection has still to send. -/
theorem batches_unsent (c : Connection) (dispatcherId : Option String) :
    ((c.batcher.take? dispatcherId).map Prod.snd).toList =
      (unsent c).batches c.batcher.batchId dispatcherId := by
  have same : c.batcher.hasPending = false ↔
      c.batcher.subscribe = [] ∧ c.batcher.unsubscribe = [] := by
    simp [Batcher.hasPending]
  cases waits : c.batcher.hasPending with
  | false =>
    have nothing := same.mp waits
    simp [Batcher.take?, waits, Ledger.batches, unsent, nothing]
  | true =>
    have something := mt same.mpr (by rw [waits]; exact Bool.noConfusion)
    simp only [Batcher.take?, waits, if_true]
    exact (if_neg something).symm

/-- A burst of calls. At its first step, which is a call, the connection knows a session and has
nothing pending; each call comes less than the batch delay after the one before it, and no
session is announced. -/
structure Burst (first : Dated) (rest : List Dated) (session : Session) (delay : Nat) :
    Prop where
  known : first.step.before.session = some session
  delayed : first.step.before.settings.batchDelay.toNat = delay
  nothing : first.step.before.batcher.hasPending = false
  begins : first.step.action.isCall = true
  close : (callTimes (first :: rest)).IsChain (fun s t => t < s + delay)
  silent : ∀ d ∈ first :: rest, d.step.announces? = none

instance : Decidable (Burst first rest session delay) :=
  decidable_of_iff (first.step.before.session = some session ∧
      first.step.before.settings.batchDelay.toNat = delay ∧
      first.step.before.batcher.hasPending = false ∧ first.step.action.isCall = true ∧
      (callTimes (first :: rest)).IsChain (fun s t => t < s + delay) ∧
      ∀ d ∈ first :: rest, d.step.announces? = none)
    ⟨fun ⟨known, delayed, nothing, begins, close, silent⟩ =>
        ⟨known, delayed, nothing, begins, close, silent⟩,
      fun burst => ⟨burst.known, burst.delayed, burst.nothing, burst.begins, burst.close,
        burst.silent⟩⟩

theorem Burst.init (burst : Burst first (rest ++ [d]) session delay) :
    Burst first rest session delay := by
  refine { burst with close := ?_, silent := ?_ }
  · have close := burst.close
    rw [← List.cons_append, callTimes, List.filter_append, List.map_append] at close
    exact close.left_of_append
  · intro e member
    exact burst.silent e (List.mem_append_left [d] member)

theorem taken_snoc (w : List Dated) (d : Dated) : taken (w ++ [d]) =
    taken w ++ (d.step.taken?.map (fun batch => (d.time, batch))).toList := by
  rw [taken, List.filterMap_append]
  cases took : d.step.taken? <;> simp [taken, took]

theorem callTimes_call (w : List Dated) (asks : d.step.action.isCall = true) :
    callTimes (w ++ [d]) = callTimes w ++ [d.time] := by
  simp [callTimes, asks]

theorem callTimes_aside (w : List Dated) (aside : d.step.action.isCall = false) :
    callTimes (w ++ [d]) = callTimes w := by
  simp [callTimes, aside]

theorem accountFrom_snoc (live : List Subscription) (w : List Dated) (d : Dated) :
    accountFrom live (w ++ [d]) = (accountFrom live w).enter d.step.action := by
  simp [accountFrom]

/-- Nothing is entered but calls. -/
theorem Ledger.enter_aside (l : Ledger) (aside : action.isCall = false) : l.enter action = l := by
  cases action with
  | subscribe request =>
    have unnamed : request.channel.isEmpty = true := by simpa [Action.isCall] using aside
    simp [enter, unnamed]
  | unsubscribe callback listener => contradiction
  | _ => rfl

/-- Nothing is taken but by flushes. -/
theorem taken?_aside {e : Step} (still : e.action.isFlush = false) : e.taken? = none := by
  obtain ⟨key, action, before, outcome⟩ := e
  cases action <;> first | rfl | contradiction

/-! ## what changes keep -/

/-- What is still to send changes by the calls, until a flush. -/
theorem Change.unsent (change : Change around x action outcome y)
    (still : action.isFlush = false) :
    unsent y.connection = (unsent x.connection).enter action ∧
      y.connection.batcher.batchId = x.connection.batcher.batchId := by
  cases change with
  | nameless request commands unnamed quiet => simp [Runs.unsent, Ledger.enter, unnamed]
  | subscribe request commands named done =>
    simp [Runs.unsent, Ledger.enter, named, Connection.withSubscription, Batcher.queueSubscribe,
      Registry.add]
  | unsubscribe callback listener commands done =>
    simp [Runs.unsent, Ledger.enter, Connection.withoutCallback, Connection.configsOf]
  | flushStale task generation pushes commands found own stale quiet => contradiction
  | flushWaiting task commands unknown done => contradiction
  | flushKept task commands unknown quiet => contradiction
  | flushHomeless task pushes commands known homeless quiet => contradiction
  | flushIdle task pushes commands known idle quiet => contradiction
  | flushSent task pushes commands known found waits running done => contradiction
  | flushLost task pushes commands known found waits stopped quiet => contradiction
  | _ => exact ⟨rfl, rfl⟩

/-- Nobody lives on after a drop. -/
theorem Change.not_drop (change : Change around x action outcome y) (live : y.dropped = false) :
    action ≠ .drop := by
  rintro rfl
  cases change with
  | drop commands done => contradiction

/-- A flush that is let through takes what is pending, if a session and a server are known. -/
theorem taken?_flush {c : Connection} (known : c.session = some session)
    (found : c.serverUrl = some server) (key : ConnectionKey) (outcome : Outcome) :
    Step.taken? ⟨key, .flush task c.timer.generation pushes, c, outcome⟩ =
      (c.batcher.take? session.dispatcherId).map Prod.snd := by
  cases waits : c.batcher.hasPending with
  | false => simp [Step.taken?, Batcher.take?, waits]
  | true =>
    have left : (c.flush c.timer.generation pushes).1.batcher = c.emptied := by
      cases stopped : c.outbox.stopped with
      | false => rw [(Connection.flush_sent known found waits stopped pushes).1]
      | true => rw [(Connection.flush_lost known found waits stopped pushes).1]
    simp [Step.taken?, Batcher.take?, waits, left, known, Connection.emptied]

/-! ## what ticks do -/

section ticks

variable {c : Connection} {flushes flushes' : List ArmedFlush} {timer : DebounceTimer}
  {delays : List UInt64}

/-- A call arms the last task, for the batch delay. -/
theorem Tick.of_call (step : Tick c flushes action timer flushes' delays)
    (asks : action.isCall = true) :
    ∃ f, flushes'.getLast? = some f ∧ f.isDue = true ∧ delays = [c.settings.batchDelay] := by
  cases step with
  | rest still aside =>
    rw [asks] at aside
    contradiction
  | called asks => exact ⟨_, List.getLast?_concat .., rfl, rfl⟩
  | _ => contradiction

/-- Other steps leave the tasks alone. -/
theorem Tick.of_aside {e : Step} (step : Tick c flushes e.action timer flushes' delays)
    (still : e.action.isFlush = false) (aside : e.action.isCall = false)
    (kept : e.action ≠ .drop) (silent : e.announces? = none) :
    flushes' = flushes ∧ delays = [] := by
  obtain ⟨key, action, before, outcome⟩ := e
  cases step with
  | rest still aside => exact ⟨rfl, rfl⟩
  | called asks =>
    rw [asks] at aside
    contradiction
  | hurried stream frame named full read =>
    simp [Step.announces?, named, full, read, Except.toOption] at silent
  | dropped => exact absurd rfl kept
  | _ => contradiction

/-- The task that is sure to run is let through, and no other one is sure to run then. -/
theorem Tick.of_flush (step : Tick c flushes (.flush task generation pushes) timer flushes' delays)
    (sole : Sole c.timer flushes) (found : flushes[task]? = some f) (due : f.isDue = true)
    (known : c.session = some session) : generation = c.timer.generation ∧ Idle flushes' := by
  cases step with
  | rest still aside => contradiction
  | called asks => contradiction
  | stale here own old =>
    obtain rfl := Option.some.inj (here.symm.trans found)
    exact absurd (own.symm.trans (sole.current found due)) old
  | fired => exact ⟨rfl, sole.idle_reported found due⟩
  | again unknown =>
    rw [known] at unknown
    contradiction

end ticks

/-! ## the course of a burst -/

section course

variable {first d : Dated} {session : Session} {delay latest : Nat} {past w : List Dated}
  {x y : Member} {around : Surroundings}

/-- A connection while a burst gathers: it knows the session, and has still to send what the
calls have changed. -/
structure Gathering (first : Dated) (session : Session) (w : List Dated) (c : Connection) :
    Prop where
  known : c.session = some session
  settings : c.settings = first.step.before.settings
  account : unsent c = accountFrom first.step.before.registry.subscriptions w
  current : c.batcher.batchId = first.step.before.batcher.batchId
  untaken : taken w = []

/-- The task that was armed last is sure to run, when the delay has passed since the last call. -/
structure Alarmed (delay : Nat) (past w : List Dated) (flushes : List ArmedFlush)
    (latest : Nat) : Prop where
  sure : ∃ f, flushes.getLast? = some f ∧ f.isDue = true
  moment : (moments (past ++ w)).getLast? = some (latest + delay)
  lastCall : (callTimes w).getLast? = some latest

/-- The last call is over for the delay: what the calls have changed was taken at that moment,
and no task is sure to run. -/
structure Settled (first : Dated) (session : Session) (delay : Nat) (w : List Dated)
    (flushes : List ArmedFlush) (latest : Nat) : Prop where
  idle : Idle flushes
  late : ∃ d ∈ w, latest + delay ≤ d.time
  lastCall : (callTimes w).getLast? = some latest
  taken : taken w = ((accountFrom first.step.before.registry.subscriptions w).batches
    first.step.before.batcher.batchId session.dispatcherId).map
      (fun batch => (latest + delay, batch))

/-- A step that is no flush goes on gathering. -/
theorem Gathering.step (gathering : Gathering first session w x.connection)
    (change : Change around x d.step.action d.step.outcome y)
    (silent : d.step.announces? = none) (still : d.step.action.isFlush = false) :
    Gathering first session (w ++ [d]) y.connection := by
  obtain ⟨entered, current⟩ := change.unsent still
  have same : y.connection.session = x.connection.session := by
    rcases change.announces d.step.key with
      ⟨-, same⟩ | ⟨stream, frame, told, -, -, -, announces, -⟩
    · exact same
    · exact absurd (silent.symm.trans announces) nofun
  constructor
  · rw [same, gathering.known]
  · rw [change.settings, gathering.settings]
  · rw [entered, gathering.account, accountFrom_snoc]
  · rw [current, gathering.current]
  · rw [taken_snoc, gathering.untaken, taken?_aside still]
    rfl

/-- A call sets the alarm anew. -/
theorem Alarmed.of_call (change : Change around x d.step.action d.step.outcome y)
    (delayed : x.connection.settings.batchDelay.toNat = delay)
    (asks : d.step.action.isCall = true) :
    Alarmed delay past (w ++ [d]) (around.after d.step.action d.step.outcome).flushes d.time := by
  obtain ⟨f, last, due, armed⟩ := change.tick.of_call asks
  constructor
  · exact ⟨f, last, due⟩
  · rw [← List.append_assoc, moments_append, moments_single, armed, List.map_singleton, delayed]
    exact List.getLast?_concat ..
  · rw [callTimes_call w asks]
    exact List.getLast?_concat ..

/-- A step that is neither a call nor a flush leaves the alarm as it is. -/
theorem Alarmed.of_aside (alarmed : Alarmed delay past w around.flushes latest)
    (change : Change around x d.step.action d.step.outcome y) (live : y.dropped = false)
    (silent : d.step.announces? = none) (still : d.step.action.isFlush = false)
    (aside : d.step.action.isCall = false) :
    Alarmed delay past (w ++ [d]) (around.after d.step.action d.step.outcome).flushes latest := by
  obtain ⟨same, armed⟩ := change.tick.of_aside still aside (change.not_drop live) silent
  constructor
  · rw [same]
    exact alarmed.sure
  · rw [← List.append_assoc, moments_append, moments_single, armed, List.map_nil,
      List.append_nil]
    exact alarmed.moment
  · rw [callTimes_aside w aside]
    exact alarmed.lastCall

/-- A flush in time is the run of the last call's task, and takes what was gathered. -/
theorem Settled.of_flush (gathering : Gathering first session w x.connection)
    (alarmed : Alarmed delay past w around.flushes latest)
    (life : Life ((past ++ w).map Dated.step) x around)
    (punctual : Punctual (past ++ w)) (timely : InTime (past ++ w) d)
    (change : Change around x d.step.action d.step.outcome y)
    (before : d.step.before = x.connection)
    (flushed : d.step.action.isFlush = true) :
    Settled first session delay (w ++ [d])
      (around.after d.step.action d.step.outcome).flushes latest := by
  obtain ⟨time, key, action, c, outcome⟩ := d
  obtain rfl : c = x.connection := before
  cases action with
  | flush task generation pushes =>
    have sole := life.sole punctual
    obtain ⟨f, found, due, now⟩ := life.runs_in_time timely rfl
    obtain ⟨rfl, idle⟩ := change.tick.of_flush sole found due gathering.known
    -- the task is the last one, so that its moment is that of the alarm
    have last : (moments (past ++ w)).getLast? = (moments (past ++ w))[task]? := by
      rw [List.getLast?_eq_getElem?, life.length_moments, ← (sole.due task f found due).2]
      rfl
    have moment : time = latest + delay := by
      rw [alarmed.moment, now] at last
      exact (Option.some.inj last).symm
    obtain ⟨server, home⟩ := Option.isSome_iff_exists.mp
      (life.served.session (by rw [gathering.known]; rfl))
    constructor
    · exact idle
    · exact ⟨_, List.mem_append_right _ List.mem_cons_self, Nat.le_of_eq moment.symm⟩
    · rw [callTimes_aside w rfl]
      exact alarmed.lastCall
    · have took := batches_unsent x.connection session.dispatcherId
      rw [gathering.account, gathering.current] at took
      rw [taken_snoc, gathering.untaken, taken?_flush gathering.known home, accountFrom_snoc,
        Ledger.enter_aside _ rfl, ← took, moment]
      cases x.connection.batcher.take? session.dispatcherId <;> rfl
  | _ => contradiction

/-- A step after that changes nothing of it: it is too late for a call, and there is no task to
run. -/
theorem Settled.step (settled : Settled first session delay w around.flushes latest)
    (life : Life ((past ++ w).map Dated.step) x around) (timely : InTime (past ++ w) d)
    (change : Change around x d.step.action d.step.outcome y) (live : y.dropped = false)
    (silent : d.step.announces? = none)
    (close : (callTimes (w ++ [d])).IsChain (fun s t => t < s + delay)) :
    Settled first session delay (w ++ [d])
      (around.after d.step.action d.step.outcome).flushes latest := by
  have still : d.step.action.isFlush = false := by
    cases flushed : d.step.action with
    | flush task generation pushes =>
      obtain ⟨f, found, due, -⟩ := life.runs_in_time timely flushed
      rw [settled.idle f (List.mem_of_getElem? found)] at due
      contradiction
    | _ => rfl
  have aside : d.step.action.isCall = false := by
    cases asks : d.step.action.isCall with
    | false => rfl
    | true =>
      rw [callTimes_call w asks] at close
      have soon := (List.isChain_append.mp close).2.2 latest settled.lastCall d.time rfl
      obtain ⟨e, member, late⟩ := settled.late
      have later := timely.1.1 e (List.mem_append_right _ member)
      omega
  obtain ⟨same, -⟩ := change.tick.of_aside still aside (change.not_drop live) silent
  constructor
  · rw [same]
    exact settled.idle
  · obtain ⟨e, member, late⟩ := settled.late
    exact ⟨e, List.mem_append_left _ member, late⟩
  · rw [callTimes_aside w aside]
    exact settled.lastCall
  · rw [taken_snoc, taken?_aside still, accountFrom_snoc, Ledger.enter_aside _ aside,
      settled.taken]
    exact List.append_nil _

/-- At every moment a burst gathers or is settled. -/
theorem Burst.course (burst : Burst first rest session delay)
    (life : Life ((past ++ first :: rest).map Dated.step) y around) (live : y.dropped = false)
    (punctual : Punctual (past ++ first :: rest)) :
    ∃ latest, (Gathering first session (first :: rest) y.connection ∧
        Alarmed delay past (first :: rest) around.flushes latest) ∨
      Settled first session delay (first :: rest) around.flushes latest := by
  induction rest using List.reverseRecOn generalizing y around with
  | nil =>
    rw [List.map_append] at life
    obtain ⟨x, before, earlier, change, own, rfl⟩ := life.unsnoc
    have nothing : x.connection.batcher.subscribe = [] ∧ x.connection.batcher.unsubscribe = [] := by
      have nothing := burst.nothing
      rw [own] at nothing
      simpa [Batcher.hasPending] using nothing
    have ready : Gathering first session [] x.connection := by
      constructor
      · rw [← own, burst.known]
      · rw [own]
      · rw [unsent, nothing.1, nothing.2, own]
        rfl
      · rw [own]
      · rfl
    have still : first.step.action.isFlush = false := by
      have begins := burst.begins
      cases called : first.step.action with
      | flush task generation pushes =>
        rw [called] at begins
        contradiction
      | _ => rfl
    have silent := burst.silent first List.mem_cons_self
    have delayed : x.connection.settings.batchDelay.toNat = delay := by
      rw [← own, burst.delayed]
    have gathers : Gathering first session ([] ++ [first]) y.connection :=
      ready.step change silent still
    have alarmed : Alarmed delay past ([] ++ [first]) _ first.time :=
      .of_call change delayed burst.begins
    exact ⟨first.time, .inl ⟨gathers, alarmed⟩⟩
  | append_singleton rest d ih =>
    rw [← List.cons_append, ← List.append_assoc] at life punctual
    obtain ⟨punctual, timely⟩ := (punctual_snoc _ d).mp punctual
    rw [List.map_append] at life
    obtain ⟨x, before, earlier, change, own, rfl⟩ := life.unsnoc
    have silent : d.step.announces? = none := burst.silent d (by simp)
    rcases ih burst.init earlier (change.alive live) punctual with
      ⟨latest, ⟨gathering, alarmed⟩ | settled⟩
    · cases flushed : d.step.action.isFlush with
      | true =>
        exact ⟨latest, .inr
          (.of_flush gathering alarmed earlier punctual timely change own flushed)⟩
      | false =>
        have gathers := gathering.step change silent flushed
        cases asks : d.step.action.isCall with
        | true =>
          have delayed : x.connection.settings.batchDelay.toNat = delay := by
            rw [gathering.settings, burst.delayed]
          have alarmed : Alarmed delay past ((first :: rest) ++ [d]) _ d.time :=
            .of_call change delayed asks
          exact ⟨d.time, .inl ⟨gathers, alarmed⟩⟩
        | false =>
          exact ⟨latest, .inl ⟨gathers, alarmed.of_aside change live silent flushed asks⟩⟩
    · exact ⟨latest, .inr (settled.step earlier timely change live silent burst.close)⟩

end course

/-! ## all runs -/

/-- **Debouncing**: on a punctual timeline, the calls of a burst are taken together. No batch is
taken before the delay has passed since the last of them; at that moment one is taken if any of
them changed something, and it holds the configs that they began and ended, in call order, under
the id that was current at the first call. -/
theorem burst_taken_once (run : Run trace s) (live : s.manager.isLive key = true)
    (dated : (past ++ first :: rest).map Dated.step = onKey key trace)
    (punctual : Punctual (past ++ first :: rest)) (burst : Burst first rest session delay)
    (last : (callTimes (first :: rest)).getLast? = some latest)
    (reached : Reaches (past ++ first :: rest) now) (elapsed : latest + delay < now) :
    taken (first :: rest) =
      ((accountFrom first.step.before.registry.subscriptions (first :: rest)).batches
        first.step.before.batcher.batchId session.dispatcherId).map
          (fun batch => (latest + delay, batch)) := by
  obtain ⟨x, member, alive⟩ := Option.any_eq_true _ _ |>.mp live
  have life := run.lives.life member
  rw [← dated] at life
  rcases burst.course life (by simpa using alive) punctual with
    ⟨latest', ⟨gathering, alarmed⟩ | settled⟩
  · -- the task of the last call would have been missed
    obtain rfl := Option.some.inj (last.symm.trans alarmed.lastCall)
    obtain ⟨f, final, due⟩ := alarmed.sure
    have there : (f, latest + delay) ∈ alarms (past ++ first :: rest) := by
      rw [alarms, ← life.around_eq]
      apply List.mem_of_getElem?
      rw [List.getElem?_zip_eq_some]
      refine ⟨List.getLast?_eq_getElem? ▸ final, ?_⟩
      rw [← life.length_moments, ← List.getLast?_eq_getElem?]
      exact alarmed.moment
    have missed := reached.2 _ there due
    omega
  · obtain rfl := Option.some.inj (last.symm.trans settled.lastCall)
    exact settled.taken

/-! ## timelines that are written down -/

/-- Gives steps their times. -/
def dated (times : List Nat) (trace : List Step) : List Dated := List.zipWith Dated.mk times trace

theorem map_step_dated {times : List Nat} {trace : List Step}
    (same : times.length = trace.length) : (dated times trace).map Dated.step = trace := by
  induction times generalizing trace with
  | nil => simpa [dated] using (List.length_eq_zero_iff.mp same.symm).symm
  | cons time times ih =>
    cases trace with
    | nil => contradiction
    | cons e rest => exact congrArg (e :: ·) (ih (Nat.succ.inj same))

/-- The actions of a connection that connects and learns its session. -/
def introduced : List Action :=
  [ .beginConnect true ⟨0, 0⟩,
    .endConnect ⟨"http://gateway", ⟨"client"⟩, 0⟩ none,
    .receive 0 ⟨"open", "{}", none⟩ ]

/-- Three calls, of which the last takes back the first, and the flush of the last one. -/
def burstOfThree : List Action :=
  [ .subscribe ⟨"job", none, ⟨"first"⟩, none⟩,
    .subscribe ⟨"job", some [("job_name", .string "a")], ⟨"second"⟩, none⟩,
    .unsubscribe ⟨"first"⟩ none,
    .flush 2 6 true ]

/-- The system after them, and the steps. -/
def rapid : System × List Step := System.lone.play 0 (introduced ++ burstOfThree)

/-- They come every 60 milliseconds, and the batch delay is 100. -/
def rapidly : List Dated := dated [0, 0, 0, 10, 70, 130, 230] rapid.2

/-- The first of the calls. -/
def rapidFirst : Dated := rapidly.get ⟨3, by decide +kernel⟩

theorem drop_rapidly : rapidly.drop 3 = rapidFirst :: rapidly.drop 4 :=
  List.drop_eq_getElem_cons _

/-- The three calls make one batch, 100 milliseconds after the last of them. -/
theorem burst_taken_once_rapidly :
    callTimes (rapidly.drop 3) = [10, 70, 130] ∧
      taken (rapidly.drop 3) = [(230, ⟨1,
        ⟨[.ofChannel "job" none, .ofChannel "job" (some [("job_name", .string "a")])],
          [.ofChannel "job" none], none⟩⟩)] := by
  have run : Run rapid.2 rapid.1 := run_lone.play 0 (introduced ++ burstOfThree)
  have live : rapid.1.manager.isLive 0 = true := by decide +kernel
  have own : onKey 0 rapid.2 = rapid.2 := List.filter_eq_self.mpr (by decide +kernel)
  have steps : (rapidly.take 3 ++ rapidFirst :: rapidly.drop 4).map Dated.step =
      onKey 0 rapid.2 := by
    rw [← drop_rapidly, List.take_append_drop, own]
    exact map_step_dated (by decide +kernel)
  have punctual : Punctual (rapidly.take 3 ++ rapidFirst :: rapidly.drop 4) := by decide +kernel
  have burst : Burst rapidFirst (rapidly.drop 4) Session.empty 100 := by decide +kernel
  have last : (callTimes (rapidFirst :: rapidly.drop 4)).getLast? = some 130 := by decide +kernel
  have reached : Reaches (rapidly.take 3 ++ rapidFirst :: rapidly.drop 4) 231 := by
    decide +kernel
  have once := burst_taken_once run live steps punctual burst last reached (by decide)
  rw [drop_rapidly, once]
  decide +kernel

/-- A call, one that names no channel, and the flush of the first. -/
def callAndNameless : List Action :=
  [ .subscribe ⟨"job", none, ⟨"first"⟩, none⟩,
    .subscribe ⟨"", none, ⟨"second"⟩, none⟩,
    .flush 0 2 true ]

/-- The system after them, and the steps. -/
def interrupted : System × List Step := System.lone.play 0 (introduced ++ callAndNameless)

/-- The second call comes 60 milliseconds after the first. -/
def interruptedly : List Dated := dated [0, 0, 0, 10, 70, 110] interrupted.2

/-- The call that names no channel puts nothing off: the batch is taken 100 milliseconds after the
first call, which is 40 after the second. -/
theorem nameless_call_extends_nothing :
    Run interrupted.2 interrupted.1 ∧ interrupted.1.manager.isLive 0 = true ∧
      interruptedly.map Dated.step = onKey 0 interrupted.2 ∧
      Punctual interruptedly ∧ Reaches interruptedly 171 ∧
      ((interruptedly.drop 3).head?.any (fun d => d.step.before.session.isSome &&
        !d.step.before.batcher.hasPending && d.step.before.settings.batchDelay == 100)) = true ∧
      (∀ d ∈ interruptedly.drop 3, d.step.announces? = none) ∧
      (interruptedly.drop 3).map (fun d => (d.time, match d.step.action with
        | .subscribe request => some request.channel
        | _ => none)) = [(10, some "job"), (70, some ""), (110, none)] ∧
      taken (interruptedly.drop 3) = [(110, ⟨1, ⟨[.ofChannel "job" none], [], none⟩⟩)] := by
  have own : onKey 0 interrupted.2 = interrupted.2 := List.filter_eq_self.mpr (by decide +kernel)
  have steps : interruptedly.map Dated.step = onKey 0 interrupted.2 := by
    rw [own]
    exact map_step_dated (by decide +kernel)
  have run : Run interrupted.2 interrupted.1 := run_lone.play 0 (introduced ++ callAndNameless)
  exact ⟨run, by decide +kernel, steps, by decide +kernel, by decide +kernel, by decide +kernel,
    by decide +kernel, by decide +kernel, by decide +kernel⟩

end GatewayClient.Runs

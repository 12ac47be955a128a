import GatewayClient.Proofs.Runs.Surroundings

/-!
# GatewayClient.Proofs.Configuration.PendingFlush

No flush is forgotten. Whoever changes the configuration arms a flush, and a flush that cannot
send yet arms the next one, so that as long as a change is pending a flush task is due:

```
pending  →  a task of the current generation is due
            or no session was ever announced and the last flush found a transport that cannot push
```
-/

namespace GatewayClient.Runs

open Connection (openFrame)

/-! ## the server -/

/-- The session that a step announces. -/
def Step.announces? (e : Step) : Option Session :=
  match e.action with
  | .receive _ frame =>
    if frame.event = openFrame ∧ Text.isAllBlank frame.data = false then
      (Session.read frame.data).toOption
    else none
  | _ => none

/-- The sessions that were announced, in their order. -/
def announced (trace : List Step) : List Session := trace.filterMap Step.announces?

/-- Only an open frame that can be read announces, and the connection knows its session then. It
comes from a stream that is read, to a live connection. -/
theorem Change.announces (change : Change around x action outcome y) (key : ConnectionKey) :
    (Step.announces? ⟨key, action, x.connection, outcome⟩ = none ∧
        y.connection.session = x.connection.session) ∨
      ∃ stream frame session, action = .receive stream frame ∧ stream ∈ around.readers ∧
        x.dropped = false ∧
        Step.announces? ⟨key, action, x.connection, outcome⟩ = some session ∧
        y.connection.session = some session := by
  cases change with
  | openIgnored stream frame commands named unread quiet =>
    refine .inl ⟨?_, rfl⟩
    cases full : Text.isAllBlank frame.data with
    | true => simp [Step.announces?, full]
    | false =>
      cases read : Session.read frame.data with
      | error e => simp [Step.announces?, read, Except.toOption]
      | ok session => exact absurd read (unread session full)
  | opened stream frame session commands reader named full read done =>
    refine .inr ⟨stream, frame, session, rfl, reader, rfl, ?_, rfl⟩
    simp [Step.announces?, named, full, read, Except.toOption]
  | ackIgnored stream frame commands named unread quiet =>
    exact .inl ⟨by simp [Step.announces?, named, openFrame, Connection.configureFrame], rfl⟩
  | acknowledged stream frame ack commands named read done =>
    exact .inl ⟨by simp [Step.announces?, named, openFrame, Connection.configureFrame], rfl⟩
  | reloaded stream frame commands named done =>
    exact .inl ⟨by simp [Step.announces?, named, openFrame, Connection.reloadFrame], rfl⟩
  | event stream frame commands unreserved done =>
    have other : frame.event ≠ openFrame := fun same => by simp [same] at unreserved
    exact .inl ⟨by simp [Step.announces?, other], rfl⟩
  | _ => exact .inl ⟨rfl, rfl⟩

/-- The session is the one that was announced last. -/
theorem Life.session (life : Life trace x around) :
    x.connection.session = (announced trace).getLast? := by
  induction life with
  | born id url hook settings => rfl
  | @next trace x around action outcome y life change key ih =>
    rw [announced, List.filterMap_append]
    rcases change.announces key with
      ⟨silent, same⟩ | ⟨stream, frame, session, -, -, -, announces, known⟩
    · rw [same, ih, announced]
      simp [silent]
    · rw [known]
      simp [announces]

/-- A server is in use from the first connect with requests on. -/
structure Served (c : Connection) (around : Surroundings) : Prop where
  attempts : around.attempts ≠ [] → c.serverUrl.isSome
  readers : around.readers ≠ [] → c.serverUrl.isSome
  session : c.session.isSome → c.serverUrl.isSome

/-- The server in use is never given up. -/
theorem Change.serverUrl (change : Change around x action outcome y) :
    x.connection.serverUrl.isSome → y.connection.serverUrl.isSome := by
  cases change with
  | connectInert pushes moment commands idle quiet server => exact server
  | connectBegun moment commands idle quiet => exact fun _ => rfl
  | _ => exact id

/-- A session comes from a stream that is read. -/
theorem Change.session_reader (change : Change around x action outcome y)
    (known : y.connection.session.isSome) : x.connection.session.isSome ∨ around.readers ≠ [] := by
  cases change with
  | opened stream frame session commands reader named full read done =>
    exact .inr (List.ne_nil_of_mem reader)
  | _ => exact .inl known

theorem Life.served (life : Life trace x around) : Served x.connection around := by
  induction life with
  | born id url hook settings => exact ⟨nofun, nofun, nofun⟩
  | next life change key served =>
    constructor
    · intro some
      obtain ⟨attempt, waits⟩ := List.exists_mem_of_ne_nil _ some
      rcases Surroundings.mem_attempts_after waits with old | began
      · exact change.serverUrl (served.attempts (List.ne_nil_of_mem old))
      · rw [(change.begun began).2.2.1]
        rfl
    · intro some
      obtain ⟨stream, read⟩ := List.exists_mem_of_ne_nil _ some
      rcases change.readers read with old | ⟨attempt, waits, -⟩
      · exact change.serverUrl (served.readers (List.ne_nil_of_mem old))
      · exact change.serverUrl (served.attempts (List.ne_nil_of_mem waits))
    · intro known
      rcases change.session_reader known with old | some
      · exact change.serverUrl (served.session old)
      · exact change.serverUrl (served.readers some)

/-! ## the timer -/

/-- Whether the transport could push, where a step is a flush that the timer let through. -/
def Step.letThrough? (e : Step) : Option Bool :=
  match e.action with
  | .flush _ generation pushes =>
    if generation = e.before.timer.generation then some pushes else none
  | _ => none

/-- Whether the transport could push when the timer let a flush through for the last time. -/
def lastFlush? (trace : List Step) : Option Bool := (trace.filterMap Step.letThrough?).getLast?

theorem lastFlush?_snoc (trace : List Step) (e : Step) :
    lastFlush? (trace ++ [e]) = e.letThrough?.or (lastFlush? trace) := by
  rw [lastFlush?, lastFlush?, List.filterMap_append]
  cases through : e.letThrough? <;> simp [through]

/-- What a change that leaves something pending does to the timer: nothing, or it arms a flush,
or it is a flush that gives up. -/
theorem Change.timer (change : Change around x action outcome y) (key : ConnectionKey)
    (served : x.connection.session.isSome → x.connection.serverUrl.isSome)
    (live : y.dropped = false) (pending : y.connection.batcher.hasPending = true) :
    (x.dropped = false ∧ x.connection.batcher.hasPending = true ∧
        y.connection.session = x.connection.session ∧
        y.connection.timer = x.connection.timer ∧
        Step.letThrough? ⟨key, action, x.connection, outcome⟩ = none ∧
        (around.IsDue x.connection.timer.generation →
          (around.after action outcome).IsDue x.connection.timer.generation)) ∨
      (∃ g, y.connection.timer = ⟨g, some g⟩ ∧ (around.after action outcome).IsDue g) ∨
      (y.connection.session = none ∧
        Step.letThrough? ⟨key, action, x.connection, outcome⟩ = some false) := by
  cases change with
  | subscribe request commands named done =>
    refine .inr (.inl ⟨_, rfl, ?_⟩)
    rw [Surroundings.after_of_deeds done]
    exact Surroundings.isDue_follow_arm _ _ _ _
  | unsubscribe callback listener commands done =>
    refine .inr (.inl ⟨_, rfl, ?_⟩)
    rw [Surroundings.after_of_deeds done]
    exact Surroundings.isDue_follow_arm _ _ _ _
  | connectOpened attempt id commands waited current done =>
    refine .inl ⟨rfl, pending, rfl, rfl, rfl, fun due => ?_⟩
    rw [Surroundings.after_of_deeds done]
    exact due
  | disconnectOpen stream commands opened done =>
    refine .inl ⟨rfl, pending, rfl, rfl, rfl, fun due => ?_⟩
    rw [Surroundings.after_of_deeds done]
    exact due
  | drop commands done => contradiction
  | @opened c stream frame session commands reader named full read done =>
    have waits : c.batcher.hasPending = true := pending
    refine .inr (.inl ⟨c.timer.generation + 1, ?_, ?_⟩)
    · simp [Connection.withSession, waits]
    · rw [Surroundings.after_of_deeds done, Connection.greeting, if_pos waits,
        Surroundings.follow_append, Connection.hookCalls, Surroundings.follow_map_call]
      exact Surroundings.isDue_follow_arm _ _ _ _
  | acknowledged stream frame ack commands named read done =>
    refine .inl ⟨rfl, pending, rfl, rfl, rfl, fun due => ?_⟩
    rw [Surroundings.after_of_deeds done, Surroundings.follow_map_call]
    exact due
  | reloaded stream frame commands named done =>
    refine .inl ⟨rfl, pending, rfl, rfl, rfl, fun due => ?_⟩
    rw [Surroundings.after_of_deeds done]
    exact due
  | event stream frame commands unreserved done =>
    refine .inl ⟨rfl, pending, rfl, rfl, rfl, fun due => ?_⟩
    rw [Surroundings.after_of_deeds done, Surroundings.follow_eventCalls]
    exact due
  | flushStale task generation pushes commands reported own stale quiet =>
    refine .inl ⟨rfl, pending, rfl, rfl, if_neg stale, fun due => ?_⟩
    rw [Surroundings.after_of_deeds quiet]
    exact due.report reported (by rw [own]; exact stale) generation pushes
  | flushWaiting task commands unknown done =>
    refine .inr (.inl ⟨_, rfl, ?_⟩)
    rw [Surroundings.after_of_deeds done]
    exact Surroundings.isDue_armFlush _ _ _
  | flushKept task commands unknown quiet => exact .inr (.inr ⟨unknown, if_pos rfl⟩)
  | flushHomeless task pushes commands known homeless quiet =>
    have found := served (by rw [known]; rfl)
    rw [homeless] at found
    contradiction
  | flushIdle task pushes commands known idle quiet =>
    rw [idle] at pending
    contradiction
  | flushSent task pushes commands known found waits running done => contradiction
  | flushLost task pushes commands known found waits stopped quiet => contradiction
  | beginPost batch rest idle running waiting =>
    exact .inl ⟨live, pending, rfl, rfl, rfl, id⟩
  | loseSender => exact .inl ⟨live, pending, rfl, rfl, rfl, id⟩
  | endPost batch result commands posting quiet =>
    refine .inl ⟨live, pending, rfl, rfl, rfl, fun due => ?_⟩
    rw [Surroundings.after_of_deeds quiet]
    exact due
  | _ =>
    refine .inl ⟨rfl, pending, rfl, rfl, rfl, fun due => ?_⟩
    rw [Surroundings.after_of_deeds ‹deeds _ = []›]
    exact due

/-- While something is pending, the timer's task is due, unless the last flush gave up. -/
theorem Life.waiting (life : Life trace x around) (live : x.dropped = false)
    (pending : x.connection.batcher.hasPending = true) :
    (x.connection.timer.pending = some x.connection.timer.generation ∧
        around.IsDue x.connection.timer.generation) ∨
      (x.connection.session = none ∧ lastFlush? trace = some false) := by
  induction life with
  | born id url hook settings => contradiction
  | next life change key ih =>
    rcases change.timer key life.served.session live pending with
      ⟨before, waited, session, timer, quiet, due⟩ | ⟨g, timer, due⟩ | ⟨unknown, gave⟩
    · rw [timer, session]
      rw [lastFlush?_snoc, quiet, Option.none_or]
      exact (ih before waited).imp (And.imp id due) id
    · rw [timer]
      exact .inl ⟨rfl, due⟩
    · rw [lastFlush?_snoc, gave, Option.some_or]
      exact .inr ⟨unknown, rfl⟩

/-- **Flushes**: while a live connection has something pending, a flush task of the timer's
current generation is neither cancelled nor spent, unless no session was ever announced and the
timer let the last flush through when the transport could not push. And whoever knows a session
has a server, so that a flush that is let through with a session goes on to send. -/
theorem pending_flush_due (run : Run trace s) (known : s.manager.get? key = some c)
    (live : s.manager.isLive key = true) :
    (c.batcher.hasPending = true →
        (∃ f ∈ (s.around key).flushes, f.generation = c.timer.generation ∧
          f.cancelled = false ∧ f.spent = false) ∨
        (announced (onKey key trace) = [] ∧ lastFlush? (onKey key trace) = some false)) ∧
      ∀ session, c.session = some session → ∃ server, c.serverUrl = some server ∧
        ∀ pushes, c.flush c.timer.generation pushes =
          Connection.sendPending { c with timer := c.fired } session server := by
  obtain ⟨dropped, alive, life⟩ := life_of_run run known
  obtain rfl : dropped = false := by simpa [live] using alive
  constructor
  · intro pending
    rcases life.waiting rfl pending with ⟨-, f, member, own, due⟩ | ⟨unknown, gave⟩
    · have ready : f.cancelled = false ∧ f.spent = false := by
        simpa [ArmedFlush.isDue] using due
      exact .inl ⟨f, member, own, ready⟩
    · have silent := life.session
      rw [unknown] at silent
      exact .inr ⟨List.getLast?_eq_none_iff.mp silent.symm, gave⟩
  · intro session hello
    have found : c.serverUrl.isSome := life.served.session (by rw [hello]; rfl)
    obtain ⟨server, found⟩ := Option.isSome_iff_exists.mp found
    refine ⟨server, found, fun pushes => ?_⟩
    simp [Connection.flush, DebounceTimer.fire?, hello, found, Connection.fired]

/-- At the end of the tour the flush for the end of the subscription is due. -/
theorem pending_flush_due_on_tour :
    ∃ c, toured.1.manager.get? 0 = some c ∧ toured.1.manager.isLive 0 = true ∧
      c.batcher.hasPending = true ∧
      ∃ f ∈ (toured.1.around 0).flushes, f.generation = c.timer.generation ∧
        f.cancelled = false ∧ f.spent = false := by
  have pending : (toured.1.manager.get? 0).any (fun c => c.batcher.hasPending) := by
    decide +kernel
  rw [Option.any_eq_true] at pending
  obtain ⟨c, known, pending⟩ := pending
  have live : toured.1.manager.isLive 0 = true := by decide +kernel
  have told : (announced (onKey 0 toured.2)).length = 1 := by decide +kernel
  refine ⟨c, known, live, pending, ?_⟩
  rcases (pending_flush_due run_toured known live).1 pending with due | ⟨silent, -⟩
  · exact due
  · rw [silent] at told
    contradiction

end GatewayClient.Runs

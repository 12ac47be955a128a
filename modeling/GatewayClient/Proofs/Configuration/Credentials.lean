import GatewayClient.Proofs.Configuration.Deltas
import GatewayClient.Proofs.Configuration.PendingFlush
import GatewayClient.Proofs.Subscription.Attachment

/-!
# GatewayClient.Proofs.Configuration.Credentials

With which session a batch is sent. A session outlives the stream that announced it: a batch goes
with the session that was announced last, on whichever stream that was.

```
no stream closed yet        the open stream announced the session
a stream was closed         the session is kept, also without a stream,
                            until the next stream announces its own
```
-/

namespace GatewayClient.Runs

open Connection (openFrame)

/-! ## announcements -/

/-- The session that a step announces, with the stream on which it came. -/
def Step.announcement? (e : Step) : Option (StreamId × Session) :=
  match e.action with
  | .receive stream _ => e.announces?.map (fun session => (stream, session))
  | _ => none

/-- Only frames announce. -/
theorem map_announcement? (e : Step) : e.announcement?.map Prod.snd = e.announces? := by
  obtain ⟨key, action, before, outcome⟩ := e
  cases action with
  | receive stream frame => simp [Step.announcement?, Function.comp_def]
  | _ => rfl

/-- The session that is known was announced by a step, and none was announced after it. -/
theorem Life.announcer {session : Session} (life : Life trace x around)
    (known : x.connection.session = some session) :
    ∃ pre e post stream, trace = pre ++ e :: post ∧ e.announcement? = some (stream, session) ∧
      ∀ f ∈ post, f.announcement? = none := by
  rw [life.session, announced, List.getLast?_filterMap] at known
  obtain ⟨post, e, pre, cut, told, silent⟩ := List.findSome?_eq_some_iff.mp known
  rw [← map_announcement?] at told
  obtain ⟨⟨stream, found⟩, announces, rfl⟩ := Option.map_eq_some_iff.mp told
  refine ⟨pre.reverse, e, post.reverse, stream, ?_, announces, ?_⟩
  · simpa using congrArg List.reverse cut
  · intro f member
    have quiet := silent f (List.mem_reverse.mp member)
    rwa [← map_announcement?, Option.map_eq_none_iff] at quiet

/-! ## readers -/

/-- A channel that is attached leaves a stream what it is. -/
theorem id_attach (s : PushStream) (channel : String) : (s.attach channel).id = s.id := by
  unfold PushStream.attach
  split <;> rfl

theorem id_foldl_attach (s : PushStream) (channels : List String) :
    (channels.foldl PushStream.attach s).id = s.id := by
  induction channels generalizing s with
  | nil => rfl
  | cons channel rest ih => rw [List.foldl_cons, ih, id_attach]

/-- A subscription attaches its channel to the stream that is open. -/
theorem id_withSubscription (c : Connection) (request : SubscribeRequest) :
    (c.withSubscription request).stream.map PushStream.id = c.stream.map PushStream.id := by
  simp only [Connection.withSubscription, Connection.streamFor]
  split
  · rfl
  · simp only [Option.map_map, Function.comp_def, id_attach]

/-- A stream that announces is read, by a live connection. -/
theorem Change.announcer_read (change : Change around x action outcome y) (key : ConnectionKey)
    (told : Step.announcement? ⟨key, action, x.connection, outcome⟩ = some a) :
    a.1 ∈ around.readers ∧ x.dropped = false := by
  rcases change.announces key with
    ⟨silent, -⟩ | ⟨stream, frame, session, rfl, read, live, announces, -⟩
  · rw [← map_announcement?, told] at silent
    contradiction
  · rw [Step.announcement?, announces] at told
    obtain rfl := Option.some.inj told
    exact ⟨read, live⟩

/-- The open stream is the one whose reading was begun last, unless it was closed. -/
theorem Change.stream_id (change : Change around x action outcome y) (key : ConnectionKey)
    (live : y.dropped = false)
    (unclosed : ¬ Step.Closes ⟨key, action, x.connection, outcome⟩) :
    (Surroundings.started outcome.commands = [] ∧
        y.connection.stream.map PushStream.id = x.connection.stream.map PushStream.id) ∨
      ∃ attempt id, attempt ∈ around.attempts ∧ x.connection.epoch = attempt.epoch ∧
        Surroundings.started outcome.commands = [id] ∧
        y.connection.stream.map PushStream.id = some id := by
  rcases change.started with none | ⟨attempt, id, rfl, waited, current, one⟩
  · refine .inl ⟨none, ?_⟩
    cases change with
    | @subscribe c request commands named done => exact id_withSubscription c request
    | connectOpened attempt id commands waited current done =>
      rw [Surroundings.started_of_deeds done] at none
      contradiction
    | disconnectOpen stream commands opened done =>
      simp [Step.Closes, Connection.isConnected, opened] at unclosed
    | drop commands done => contradiction
    | _ => rfl
  · refine .inr ⟨attempt, id, waited, current, one, ?_⟩
    cases change with
    | connectOvertaken attempt failure commands waited overtaken quiet =>
      exact absurd current overtaken
    | connectOpened attempt opened commands waited current done =>
      rw [Surroundings.started_of_deeds done] at one
      obtain rfl : opened = id := by simpa [Surroundings.started] using one
      simp [id_foldl_attach]

/-- As long as no disconnect has closed a stream, none is read but the open one. -/
theorem Life.readers_eq (life : Life trace x around) (live : x.dropped = false)
    (unclosed : ∀ e ∈ trace, ¬ e.Closes) :
    around.readers = (x.connection.stream.map PushStream.id).toList := by
  induction life with
  | born id url hook settings => rfl
  | @next trace x around action outcome y life change key ih =>
    have before := ih (change.alive live) (fun e past => unclosed e (List.mem_append_left _ past))
    have still := unclosed _ (List.mem_append_right trace List.mem_cons_self)
    rw [Surroundings.after, Surroundings.readers_follow, Surroundings.readers_consume, before]
    rcases change.stream_id key live still with
      ⟨none, same⟩ | ⟨attempt, id, waited, current, one, opened⟩
    · rw [none, same, List.append_nil]
    · rw [one, opened, (life.connects.waiting waited current).2]
      rfl

/-- A stream that was open before a step is open as long as no disconnect closes it. -/
theorem Life.stays_open (life : Life trace x around) (live : x.dropped = false)
    (cut : trace = pre ++ e :: post) (opened : e.before.stream.map PushStream.id = some stream)
    (unclosed : ∀ f ∈ e :: post, ¬ f.Closes) :
    x.connection.stream.map PushStream.id = some stream := by
  induction life generalizing post with
  | born id url hook settings => simp at cut
  | @next trace x around action outcome y life change key ih =>
    -- before the last step the stream was open, by the hypothesis or because it is `e`
    have before : x.connection.stream.map PushStream.id = some stream ∧
        ¬ Step.Closes ⟨key, action, x.connection, outcome⟩ := by
      rcases snoc_eq_append_cons.mp cut with ⟨rfl, rfl, rfl⟩ | ⟨rest, rfl, shorter⟩
      · exact ⟨opened, unclosed _ List.mem_cons_self⟩
      · have kept : ∀ f ∈ e :: rest, ¬ f.Closes := fun f past =>
          unclosed f (List.mem_append_left [_] past)
        exact ⟨ih (change.alive live) shorter kept, unclosed _ (by simp)⟩
    rcases change.stream_id key live before.2 with
      ⟨-, same⟩ | ⟨attempt, id, waited, current, -, -⟩
    · rw [same, before.1]
    · -- no connect can end while a stream is open
      have none := (life.connects.waiting waited current).2
      rw [none] at before
      exact absurd before.1 (by simp)

/-! ## batches -/

/-- The batches that a step puts into the outbox. -/
def Step.handsOver (e : Step) : List OutgoingBatch :=
  match e.action with
  | .flush _ generation pushes =>
    (e.before.flush generation pushes).1.outbox.waiting.drop e.before.outbox.waiting.length
  | _ => []

/-- A flush hands over what is pending, with the session and the server that are known. -/
theorem mem_flushed {c : Connection} {generation : UInt64}
    (taken : batch ∈ (c.flush generation pushes).1.outbox.waiting.drop c.outbox.waiting.length) :
    ∃ session server, c.session = some session ∧ c.serverUrl = some server ∧
      c.batcher.hasPending = true ∧ batch = c.nextBatch session server := by
  have idle : ∀ {c' : Connection}, (c.flush generation pushes).1 = c' →
      c'.outbox = c.outbox → False := by
    intro c' left same
    rw [left, same, List.drop_length] at taken
    contradiction
  by_cases fresh : generation = c.timer.generation
  · subst fresh
    cases known : c.session with
    | none =>
      cases pushes with
      | true => exact (idle (Connection.flush_waiting known).1 rfl).elim
      | false => exact (idle (Connection.flush_kept known).1 rfl).elim
    | some session =>
      cases found : c.serverUrl with
      | none => exact (idle (Connection.flush_homeless known found pushes).1 rfl).elim
      | some server =>
        cases waits : c.batcher.hasPending with
        | false => exact (idle (Connection.flush_idle known found waits pushes).1 rfl).elim
        | true =>
          cases running : c.outbox.stopped with
          | true => exact (idle (Connection.flush_lost known found waits running pushes).1 rfl).elim
          | false =>
            rw [(Connection.flush_sent known found waits running pushes).1, List.drop_left,
              List.mem_singleton] at taken
            exact ⟨session, server, rfl, rfl, rfl, taken⟩
  · exact (idle (Connection.flush_stale fresh pushes).1 rfl).elim

theorem Step.mem_handsOver {e : Step} (given : batch ∈ e.handsOver) :
    ∃ session server, e.before.session = some session ∧
      batch = e.before.nextBatch session server := by
  obtain ⟨key, action, c, outcome⟩ := e
  cases action with
  | flush task generation pushes =>
    obtain ⟨session, server, known, -, -, same⟩ := mem_flushed given
    exact ⟨session, server, known, same⟩
  | _ => contradiction

/-- Nothing is handed over unless something is pending. -/
theorem Step.hasPending_of_handsOver {e : Step} (given : batch ∈ e.handsOver) :
    e.before.batcher.hasPending = true := by
  obtain ⟨key, action, c, outcome⟩ := e
  cases action with
  | flush task generation pushes =>
    obtain ⟨session, server, -, -, waits, -⟩ := mem_flushed given
    exact waits
  | _ => contradiction

/-- A batch that is posted or waits after a step waited before, or the step handed it over. -/
theorem Change.handed (change : Change around x action outcome y) (key : ConnectionKey) :
    ∀ batch ∈ outcome.posted.toList ++ y.connection.outbox.waiting,
      batch ∈ x.connection.outbox.waiting ∨
        batch ∈ Step.handsOver ⟨key, action, x.connection, outcome⟩ := by
  intro batch member
  cases change with
  | @flushSent session server c task pushes commands known found waits running done =>
    have given : c.nextBatch session server ∈ Step.handsOver
        ⟨key, .flush task c.timer.generation pushes, c, { commands }⟩ := by
      simp only [Step.handsOver]
      rw [(Connection.flush_sent known found waits running pushes).1, List.drop_left]
      exact List.mem_cons_self
    have listed : batch ∈ c.outbox.waiting ++ [c.nextBatch session server] := member
    rcases List.mem_append.mp listed with old | new
    · exact .inl old
    · rw [List.mem_singleton.mp new]
      exact .inr given
  | beginPost batch rest idle running waiting =>
    rw [waiting]
    exact .inl member
  | loseSender => contradiction
  | _ => exact .inl member

/-- Every batch that the sender was given was handed over by a step. -/
theorem Life.handed_over (life : Life trace x around) :
    ∀ batch ∈ handed trace x.connection, ∃ e ∈ trace, batch ∈ e.handsOver := by
  induction life with
  | born id url hook settings => exact nofun
  | @next trace x around action outcome y life change key ih =>
    have before : ∀ batch ∈ handed trace x.connection,
        ∃ e ∈ trace ++ [⟨key, action, x.connection, outcome⟩], batch ∈ e.handsOver := by
      intro batch old
      obtain ⟨e, past, given⟩ := ih batch old
      exact ⟨e, List.mem_append_left _ past, given⟩
    intro batch member
    rw [handed, posted_snoc, List.append_assoc, List.mem_append] at member
    rcases member with gone | here
    · exact before batch (List.mem_append_left _ gone)
    · rcases change.handed key batch here with waited | given
      · exact before batch (List.mem_append_right _ waited)
      · exact ⟨_, by simp, given⟩

/-- Only a live connection hands batches over. -/
theorem Change.handsOver_live (change : Change around x action outcome y) (key : ConnectionKey)
    (given : batch ∈ Step.handsOver ⟨key, action, x.connection, outcome⟩) :
    x.dropped = false := by
  cases change with
  | beginPost batch rest idle running waiting => contradiction
  | endPost batch result commands posting quiet => contradiction
  | loseSender => contradiction
  | _ => rfl

/-- A step that announces closes nothing. -/
theorem Step.not_closes {e : Step} (announces : e.announcement? = some a) : ¬ e.Closes := by
  obtain ⟨key, action, c, outcome⟩ := e
  cases action with
  | disconnect => contradiction
  | _ => exact id

/-- **Credentials**: a batch is handed over with the session of the last open frame that could
be read before, on whichever stream it came, and with a dispatcher id exactly if that frame gave
one. If it came on the stream that was open then, and no disconnect has closed that since, it is
the stream that is open now; so it always is before the first disconnect that closes a stream. -/
theorem credentials_latest (run : Run trace s) (known : s.manager.get? key = some c) :
    (∀ batch ∈ handed (onKey key trace) c, ∃ e ∈ onKey key trace, batch ∈ e.handsOver) ∧
      ∀ pre e post, onKey key trace = pre ++ e :: post → ∀ batch ∈ e.handsOver,
        batch.request.dispatcherId = batch.session.dispatcherId ∧
          ∃ past a since stream, pre = past ++ a :: since ∧
            a.announcement? = some (stream, batch.session) ∧
            (∀ f ∈ since, f.announcement? = none) ∧
            (a.before.stream.map PushStream.id = some stream → (∀ f ∈ since, ¬ f.Closes) →
              e.before.stream.map PushStream.id = some stream) ∧
            ((∀ f ∈ pre, ¬ f.Closes) → e.before.stream.map PushStream.id = some stream) := by
  obtain ⟨dropped, -, life⟩ := life_of_run run known
  refine ⟨life.handed_over, ?_⟩
  intro pre e post cut batch given
  obtain ⟨gone, around, y, before, change⟩ := life.split cut
  have live : gone = false := change.handsOver_live e.key given
  obtain ⟨session, server, told, rfl⟩ := Step.mem_handsOver given
  obtain ⟨past, a, since, stream, parts, announces, silent⟩ := before.announcer told
  have stays : a.before.stream.map PushStream.id = some stream → (∀ f ∈ since, ¬ f.Closes) →
      e.before.stream.map PushStream.id = some stream := by
    intro opened unclosed
    refine before.stays_open live parts opened ?_
    simpa [Step.not_closes announces] using unclosed
  refine ⟨rfl, past, a, since, stream, parts, announces, silent, stays, fun unclosed => ?_⟩
  have opened : a.before.stream.map PushStream.id = some stream := by
    obtain ⟨away, among, z, earlier, announcing⟩ := before.split parts
    obtain ⟨read, here⟩ := announcing.announcer_read a.key announces
    rw [earlier.readers_eq here (fun f member => unclosed f (by simp [parts, member]))] at read
    exact Option.mem_toList.mp read
  exact stays opened (fun f member => unclosed f (by simp [parts, member]))

/-- On the tour the batch goes with the session that the open stream announced. -/
theorem credentials_latest_on_tour :
    ∃ batch ∈ posted (onKey 0 toured.2), ∃ e ∈ onKey 0 toured.2, ∃ a ∈ onKey 0 toured.2,
      ∃ stream, batch ∈ e.handsOver ∧ a.announcement? = some (stream, batch.session) ∧
        e.before.stream.map PushStream.id = some stream := by
  have some : ((posted (onKey 0 toured.2)).head?).isSome := by decide +kernel
  obtain ⟨batch, first⟩ := Option.isSome_iff_exists.mp some
  have sent : batch ∈ posted (onKey 0 toured.2) := List.mem_of_head? first
  have known : (toured.1.manager.get? 0).isSome := by decide +kernel
  obtain ⟨c, known⟩ := Option.isSome_iff_exists.mp known
  obtain ⟨origin, latest⟩ := credentials_latest run_toured known
  obtain ⟨e, member, given⟩ := origin batch (List.mem_append_left _ sent)
  obtain ⟨pre, post, cut⟩ := List.append_of_mem member
  obtain ⟨-, past, a, since, stream, parts, announces, -, -, opened⟩ :=
    latest pre e post cut batch given
  have unclosed : ∀ f ∈ pre, ¬ f.Closes := by
    intro f earlier
    have taken : f ∈ onKey 0 toured.2 := by rw [cut]; exact List.mem_append_left _ earlier
    have listed := mem_play (List.mem_filter.mp taken).1
    simp only [tour, List.mem_cons, List.not_mem_nil, or_false] at listed
    rcases listed with called | called | called | called | called | called | called | called |
      called <;> simp [Step.Closes, called]
  have announcer : a ∈ onKey 0 toured.2 := by simp [cut, parts]
  exact ⟨batch, sent, e, member, a, announcer, stream, given, announces, opened unclosed⟩

/-- The frame that announces a session with a dispatcher. -/
def announcing (d : String) : EventStream.Frame :=
  ⟨openFrame, "\x7b\"dispatcherId\":\"" ++ d ++ "\"\x7d", none⟩

/-- A caller that subscribes, connects, is told a session and disconnects, before the flush that
the session armed reports. In between it may go on. -/
def belated (between : List Action) : List Action :=
  [ .subscribe ⟨"job", none, ⟨"callback"⟩, none⟩,
    .beginConnect true ⟨0, 0⟩,
    .endConnect ⟨"http://gateway", ⟨"client"⟩, 0⟩ none,
    .receive 0 (announcing "d1"),
    .disconnect ] ++ between ++ [.flush 1 3 true]

/-- A caller that connects for the second time. -/
def reconnect : List Action :=
  [.beginConnect true ⟨1, 0⟩, .endConnect ⟨"http://gateway", ⟨"client"⟩, 1⟩ none]

/-- Batches are handed over without a stream, on a new stream that has announced nothing, and
without a dispatcher id. -/
theorem session_outlives_stream :
    (∃ trace s e, Run trace s ∧ e ∈ trace ∧ e.handsOver ≠ [] ∧ e.before.stream = none) ∧
      (∃ trace s e stream, Run (trace ++ [e]) s ∧ e.handsOver ≠ [] ∧
        e.before.stream = some stream ∧
        ∀ f ∈ trace, f.announcement?.map Prod.fst ≠ some stream.id) ∧
      (∃ trace s e batch, Run trace s ∧ e ∈ trace ∧ batch ∈ e.handsOver ∧
        batch.request.dispatcherId = none) := by
  refine ⟨?_, ?_, ?_⟩
  · have late : ((System.lone.play 0 (belated [])).2.getLast?).any (fun e =>
        !e.handsOver.isEmpty && e.before.stream.isNone) := by
      decide +kernel
    rw [Option.any_eq_true] at late
    obtain ⟨e, last, late⟩ := late
    simp only [Bool.and_eq_true, Bool.not_eq_true', List.isEmpty_eq_false_iff,
      Option.isNone_iff_eq_none] at late
    exact ⟨_, _, e, run_lone.play 0 (belated []), List.mem_of_getLast? last, late⟩
  · have late : ((System.lone.play 0 (belated reconnect)).2.getLast?).any (fun e =>
        !e.handsOver.isEmpty && e.before.stream.any (fun stream =>
          (System.lone.play 0 (belated reconnect)).2.dropLast.all (fun f =>
            f.announcement?.map Prod.fst != some stream.id))) := by
      decide +kernel
    rw [Option.any_eq_true] at late
    obtain ⟨e, last, late⟩ := late
    obtain ⟨before, cut⟩ := List.getLast?_eq_some_iff.mp last
    simp only [cut, Bool.and_eq_true, Bool.not_eq_true', List.isEmpty_eq_false_iff,
      Option.any_eq_true, List.dropLast_concat, List.all_eq_true, bne_iff_ne] at late
    obtain ⟨given, stream, opened, silent⟩ := late
    have run := run_lone.play 0 (belated reconnect)
    rw [List.nil_append, cut] at run
    exact ⟨before, _, e, stream, run, given, opened, silent⟩
  · have bare : toured.2.any (fun e =>
        e.handsOver.any (fun batch => batch.request.dispatcherId.isNone)) := by
      decide +kernel
    simp only [List.any_eq_true, Option.isNone_iff_eq_none] at bare
    obtain ⟨e, member, batch, given, bare⟩ := bare
    exact ⟨_, _, e, batch, run_toured, member, given, bare⟩

end GatewayClient.Runs

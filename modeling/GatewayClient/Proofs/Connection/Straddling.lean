import GatewayClient.Proofs.Configuration.Credentials

/-!
# GatewayClient.Proofs.Connection.Straddling

Connects that straddle a disconnect. Callers may disconnect and connect again while a connect waits
for the gateway, so that several connects wait at once and end in any order:

```
connect a            disconnect            connect b
   |---------------------x----------------------|------------ a ends: its stream is discarded
                                                |------------ b ends: its stream is installed
```

The epoch counts the disconnects, and tells the one connect that may still install a stream from
those that may not.
-/

namespace GatewayClient.Runs

/-! ## epochs -/

namespace Step

/-- Whether a step is a disconnect. -/
def disconnects (e : Step) : Bool :=
  match e.action with
  | .disconnect => true
  | _ => false

theorem disconnects_iff {e : Step} : e.disconnects = true ↔ e.action = .disconnect := by
  obtain ⟨key, action, before, outcome⟩ := e
  cases action <;> simp [disconnects]

/-- Whether a step ends a connect that was overtaken. -/
def discards (e : Step) : Bool :=
  match e.action with
  | .endConnect attempt _ => e.before.isOvertaken attempt
  | _ => false

/-- Whether the gateway has opened a stream for the connect that a step ends. -/
def opensStream (e : Step) : Bool :=
  match e.action with
  | .endConnect _ none => true
  | _ => false

/-- Whether a step to a connection installs a stream, or begins to read it. -/
def Installs (e : Step) (c : Connection) (stream : StreamId) : Prop :=
  stream ∈ Surroundings.started e.outcome.commands ∨
    (e.before.stream.map PushStream.id ≠ some stream ∧ c.stream.map PushStream.id = some stream)

end Step

/-- The epoch counts the disconnects. -/
theorem Life.epoch_eq (life : Life trace x around) :
    x.connection.epoch = trace.countP Step.disconnects := by
  induction life with
  | born id url hook settings => rfl
  | next life change key ih =>
    rw [List.countP_append, ← ih]
    cases change <;> rfl

/-- A disconnect begins no connect. -/
theorem Change.not_disconnect (change : Change around x action outcome y)
    (begun : outcome.attempt = some a) : action ≠ .disconnect := by
  cases change with
  | connectBegun moment commands idle quiet => exact nofun
  | _ => contradiction

/-- A connect was overtaken if and only if there was a disconnect after it began. -/
theorem Life.isOvertaken_iff (life : Life trace x around) (cut : trace = pre ++ b :: post)
    (begun : b.outcome.attempt = some a) :
    x.connection.isOvertaken a = true ↔ ∃ f ∈ post, f.action = .disconnect := by
  obtain ⟨dropped, before, y, earlier, change⟩ := life.split cut
  obtain ⟨-, own, -, -⟩ := change.begun begun
  have aside : ¬ b.disconnects = true := by
    rw [Step.disconnects_iff]
    exact change.not_disconnect begun
  have later : x.connection.epoch = a.epoch + post.countP Step.disconnects := by
    rw [life.epoch_eq, cut, List.countP_append, List.countP_cons_of_neg aside, own,
      earlier.epoch_eq]
  have some : x.connection.isOvertaken a = true ↔ 0 < post.countP Step.disconnects := by
    rw [Connection.isOvertaken, bne_iff_ne, later]
    omega
  simp only [some, List.countP_pos_iff, Step.disconnects_iff]

/-! ## the connect that is under way -/

/-- Every connect that waits was begun by a step. -/
theorem Life.begun_of_waits (life : Life trace x around) (waits : a ∈ around.attempts) :
    ∃ b ∈ trace, b.outcome.attempt = some a := by
  induction life with
  | born id url hook settings => contradiction
  | next life change key ih =>
    rcases Surroundings.mem_attempts_after waits with old | new
    · obtain ⟨b, past, begun⟩ := ih old
      exact ⟨b, List.mem_append_left _ past, begun⟩
    · exact ⟨_, List.mem_append_right _ List.mem_cons_self, new⟩

/-- While a connection is connecting, a connect of its epoch waits. -/
def UnderWay (c : Connection) (around : Surroundings) : Prop :=
  c.connecting = true → ∃ a ∈ around.attempts, a.epoch = c.epoch

/-- A step that neither begins nor ends a connect keeps the one that is under way. -/
theorem UnderWay.idle {around next : Surroundings} (before : UnderWay c around)
    (attempts : next.attempts = around.attempts) (epoch : c'.epoch = c.epoch)
    (same : c'.connecting = c.connecting) : UnderWay c' next := by
  rw [UnderWay, attempts, epoch, same]
  exact before

theorem Life.underWay (life : Life trace x around) (live : x.dropped = false) :
    UnderWay x.connection around := by
  induction life with
  | born id url hook settings => exact nofun
  | @next trace x around action outcome y life change key ih =>
    have before := ih (change.alive live)
    have attempts := around.attempts_after action outcome
    cases change with
    | connectBegun moment commands idle quiet =>
      intro _
      rw [attempts]
      exact ⟨_, List.mem_append_right _ List.mem_cons_self, rfl⟩
    | connectOvertaken attempt failure commands waited overtaken quiet =>
      intro connecting
      obtain ⟨a, waits, own⟩ := before connecting
      have other : a ≠ attempt := by
        rintro rfl
        exact overtaken own.symm
      rw [attempts]
      exact ⟨a, (List.mem_erase_of_ne other).mpr waits, own⟩
    | connectOpened attempt id commands waited current done => exact nofun
    | connectFailed attempt e commands waited current quiet => exact nofun
    | disconnectClosed commands closed quiet => exact nofun
    | disconnectOpen stream commands opened done => exact nofun
    | drop commands done => contradiction
    | connectRefused pushes moment commands answer reason quiet =>
      exact before.idle (attempts.trans (List.append_nil _)) rfl rfl
    | connectInert pushes moment commands idle quiet server =>
      exact before.idle (attempts.trans (List.append_nil _)) rfl rfl
    | _ => exact before.idle attempts rfl rfl

/-- Of the connects that wait for a live connection, as many may still install a stream as the
connecting flag says. -/
theorem Life.current_count (life : Life trace x around) (live : x.dropped = false) :
    (around.attempts.filter (fun a => !x.connection.isOvertaken a)).length =
      if x.connection.connecting then 1 else 0 := by
  have same : around.attempts.filter (fun a => !x.connection.isOvertaken a) =
      around.current x.connection.epoch := by
    refine List.filter_congr (fun a _ => ?_)
    rw [Connection.isOvertaken, bne, Bool.not_not, Bool.beq_comm]
  rw [same]
  refine Nat.le_antisymm life.connects.single ?_
  cases connecting : x.connection.connecting with
  | false => exact Nat.zero_le _
  | true =>
    obtain ⟨a, waits, own⟩ := life.underWay live connecting
    exact List.length_pos_of_mem (List.mem_filter.mpr ⟨waits, by simp [own]⟩)

/-! ## how a connect ends -/

section ends

variable {s : System} {c : Connection}

/-- A connect that was overtaken ends without a trace. -/
theorem perform_endConnect_overtaken (known : s.manager.get? key = some c)
    (overtaken : c.isOvertaken a = true) (failure : Option TransportError) :
    s.perform key c (.endConnect a failure) = (s.manager, { commands := c.discardAttempt }) := by
  simp [System.perform, Manager.endConnect, known, overtaken]

/-- A connect that was not overtaken installs the stream that the gateway opened for it. -/
theorem perform_endConnect_opened (known : s.manager.get? key = some c)
    (current : c.isOvertaken a = false) :
    s.perform key c (.endConnect a none) =
      (s.manager.set key (c.openStream a s.streams).1,
        { commands := (c.openStream a s.streams).2 }) := by
  simp [System.perform, Manager.endConnect, known, current]

end ends

/-- The end of a connect that opens a stream begins to read it. -/
theorem started_openStream (c : Connection) (a : ConnectAttempt) (id : StreamId) :
    Surroundings.started (c.openStream a id).2 = [id] :=
  Surroundings.started_of_deeds (c.openStream_eq a id).2

/-- A stream is installed by the end of a connect that was not overtaken, and by nothing else. -/
theorem Change.installs (change : Change around x action outcome y) (key : ConnectionKey)
    (installs : Step.Installs ⟨key, action, x.connection, outcome⟩ y.connection stream) :
    ∃ attempt, action = .endConnect attempt none ∧ attempt ∈ around.attempts ∧
      x.connection.isOvertaken attempt = false := by
  rcases installs with read | ⟨fresh, opened⟩
  · rcases change.started with none | ⟨attempt, id, ends, waited, current, -⟩
    · rw [none] at read
      contradiction
    · exact ⟨attempt, ends, waited, by simp [Connection.isOvertaken, current]⟩
  · cases change with
    | @subscribe c request commands named done =>
      exact absurd ((id_withSubscription c request).symm.trans opened) fresh
    | connectOpened attempt id commands waited current done =>
      exact ⟨attempt, rfl, waited, by simp [Connection.isOvertaken, current]⟩
    | disconnectOpen stream commands was done => contradiction
    | drop commands done => contradiction
    | _ => exact absurd opened fresh

/-! ## streams and who opened them -/

/-- The steps for which the gateway opened streams, in the order of the streams' numbers. -/
def openings (trace : List Step) : List Step := trace.filter Step.opensStream

/-- Every stream that is read was opened for its connection by a connect that was not discarded. -/
structure Numbered (trace : List Step) (s : System) : Prop where
  count : s.streams = (openings trace).length
  readers : ∀ key, ∀ stream ∈ (s.around key).readers,
    ∃ o, (openings trace)[stream]? = some o ∧ o.key = key ∧ o.discards = false

theorem openings_snoc (trace : List Step) (e : Step) :
    openings (trace ++ [e]) = openings trace ++ openings [e] := List.filter_append _ _

/-- A stream that a step begins to read is the one that the gateway has opened for it. -/
theorem newest_of_started {s s' : System} (taken : s.take? key action = some (s', e))
    (read : stream ∈ Surroundings.started e.outcome.commands) :
    stream = s.streams ∧ openings [e] = [e] ∧ e.key = key ∧ e.discards = false := by
  obtain ⟨x, y, member, -, -, -, -, change⟩ := change_of_take? taken
  obtain ⟨-, performed, -⟩ := perform_of_take? taken (get?_eq member)
  have installs : Step.Installs ⟨key, action, x.connection, e.outcome⟩ y.connection stream :=
    .inl read
  obtain ⟨attempt, rfl, -, current⟩ := change.installs key installs
  rw [perform_endConnect_opened (get?_eq member) current] at performed
  subst performed
  rw [started_openStream, List.mem_singleton] at read
  exact ⟨read, rfl, rfl, current⟩

theorem Numbered.step (numbered : Numbered trace s) (taken : s.take? key action = some (s', e)) :
    Numbered (trace ++ [e]) s' := by
  obtain ⟨x, y, member, -, around, shape, -, -⟩ := change_of_take? taken
  obtain ⟨-, -, streams⟩ := perform_of_take? taken (get?_eq member)
  have kept : ∀ k stream, stream ∈ (s.around k).readers →
      ∃ o, (openings (trace ++ [e]))[stream]? = some o ∧ o.key = k ∧ o.discards = false := by
    intro k stream read
    obtain ⟨o, found, own⟩ := numbered.readers k stream read
    have bound := (List.getElem?_eq_some_iff.mp found).1
    exact ⟨o, by rw [openings_snoc, List.getElem?_append_left bound, found], own⟩
  constructor
  · rw [openings_snoc, List.length_append, ← numbered.count, streams, shape]
    cases action with
    | endConnect attempt failure => cases failure <;> rfl
    | _ => rfl
  · intro k stream read
    rw [around] at read
    by_cases here : k = key
    · subst here
      rw [Function.update_self, Surroundings.after, Surroundings.readers_follow,
        Surroundings.readers_consume, List.mem_append] at read
      rcases read with old | new
      · exact kept k stream old
      · obtain ⟨rfl, opens, own⟩ := newest_of_started taken new
        refine ⟨e, ?_, own⟩
        rw [openings_snoc, opens, numbered.count, List.getElem?_concat_length]
    · rw [Function.update_of_ne here] at read
      exact kept k stream read

/-- The streams of every run are numbered in the order in which they were opened. -/
theorem Run.numbered (run : Run trace s) : Numbered trace s := by
  induction run with
  | start host settings => exact ⟨rfl, nofun⟩
  | connection run config numbered => exact ⟨numbered.count, numbered.readers⟩
  | configure run patch numbered => exact ⟨numbered.count, numbered.readers⟩
  | generate run numbered => exact ⟨numbered.count, numbered.readers⟩
  | rehost run host numbered => exact ⟨numbered.count, numbered.readers⟩
  | step run taken numbered => exact numbered.step taken

/-! ## frames without a stream -/

/-- Where no stream is open, no frame calls a subscriber. -/
theorem callsFor_closed {c : Connection} (closed : c.stream = none) (stream : StreamId)
    (frame : EventStream.Frame) (callback : Callback) (event : Event) :
    .event callback event ∉ callsFor c (.receive stream frame) := by
  have unattached : c.eventCalls frame.event frame.data = [] := by
    simp [Connection.eventCalls, Connection.isAttached, closed]
  rw [callsFor]
  split
  · split
    · exact List.not_mem_nil
    · cases Session.read frame.data <;> simp
  split
  · cases Acknowledgment.read frame.data <;> simp
  split
  · exact List.not_mem_nil
  · simp [unattached, callsOf]

/-! ## all runs -/

/-- **Straddling**: of the connects that wait for a live connection, one may still install a stream
while the connection is connecting, and none otherwise; it never connects while a stream is open.
A stream is installed and read exactly when a connect ends well that began after the last
disconnect. The end of every other connect is no error and changes nothing; the frames of its stream
never arrive; and frames that arrive while no stream is open call no subscriber. -/
theorem installed_since_disconnect (run : Run trace s) (known : s.manager.get? key = some c)
    (live : s.manager.isLive key = true) :
    ((s.around key).attempts.filter (fun a => !c.isOvertaken a)).length =
        (if c.connecting then 1 else 0) ∧
      (c.connecting = true → c.stream = none) ∧
      s.streams = (openings trace).length ∧
      (∀ a ∈ (s.around key).attempts, ∃ b ∈ onKey key trace, b.outcome.attempt = some a) ∧
      (∀ pre b post a, onKey key trace = pre ++ b :: post → b.outcome.attempt = some a →
        (c.isOvertaken a = true ↔ ∃ f ∈ post, f.action = .disconnect)) ∧
      ∀ action s' e, s.take? key action = some (s', e) →
        ∃ c', s'.manager.get? key = some c' ∧
          (∀ stream, e.Installs c' stream →
            ∃ a pre b post, action = .endConnect a none ∧ onKey key trace = pre ++ b :: post ∧
              b.outcome.attempt = some a ∧ ∀ f ∈ post, f.action ≠ .disconnect) ∧
          (∀ a, action = .endConnect a none → c.isOvertaken a = false →
            c'.stream.map PushStream.id = some s.streams ∧
              Surroundings.started e.outcome.commands = [s.streams]) ∧
          (∀ a failure, action = .endConnect a failure → c.isOvertaken a = true →
            e.outcome.answer = .ok () ∧ s'.manager = s.manager ∧
              s'.around key = { s.around key with
                attempts := (s.around key).attempts.erase a }) ∧
          ∀ stream frame, action = .receive stream frame →
            (∃ o, (openings trace)[stream]? = some o ∧ o.key = key ∧ o.discards = false) ∧
              (c.stream = none → ∀ callback event,
                .event callback event ∉ callsOf e.outcome.commands) := by
  obtain ⟨dropped, alive, life⟩ := life_of_run run known
  obtain rfl : dropped = false := by simpa [alive] using live
  have overtaken : ∀ pre b post a, onKey key trace = pre ++ b :: post →
      b.outcome.attempt = some a →
      (c.isOvertaken a = true ↔ ∃ f ∈ post, f.action = .disconnect) :=
    fun pre b post a cut begun => life.isOvertaken_iff cut begun
  refine ⟨life.current_count rfl, life.connects.closed, run.numbered.count,
    fun a => life.begun_of_waits, overtaken, ?_⟩
  intro action s' e taken
  obtain ⟨x, y, member, known', change⟩ := get?_of_take? taken
  obtain rfl : c = x.connection := Option.some.inj (known.symm.trans (get?_eq member))
  obtain ⟨moved, performed, -⟩ := perform_of_take? taken known
  refine ⟨y.connection, known', ?_, ?_, ?_, ?_⟩
  · intro stream installs
    have shape : e = ⟨key, action, x.connection, e.outcome⟩ := by rw [performed]
    rw [shape] at installs
    obtain ⟨a, ends, waits, current⟩ := change.installs key installs
    obtain ⟨b, began, begun⟩ := life.begun_of_waits waits
    obtain ⟨pre, post, cut⟩ := List.append_of_mem began
    refine ⟨a, pre, b, post, ends, cut, begun, fun f later called => ?_⟩
    have discarded := (overtaken pre b post a cut begun).mpr ⟨f, later, called⟩
    rw [current] at discarded
    contradiction
  · rintro a rfl current
    rw [perform_endConnect_opened known current] at moved performed
    have opened : y.connection = (x.connection.openStream a s.streams).1 := by
      rw [moved, get?_set known] at known'
      exact (Option.some.inj known').symm
    rw [opened, (x.connection.openStream_eq a s.streams).1, performed, started_openStream]
    exact ⟨by simp [id_foldl_attach], rfl⟩
  · rintro a failure rfl discarded
    obtain ⟨_, _, _, _, around, -, -, -⟩ := change_of_take? taken
    rw [perform_endConnect_overtaken known discarded] at moved performed
    rw [around, Function.update_self, performed]
    exact ⟨rfl, moved, rfl⟩
  · rintro stream frame rfl
    have read : stream ∈ (s.around key).readers := by
      obtain ⟨_, _, _, _, _, _, permitted, -⟩ := change_of_take? taken
      simp only [System.permits, Bool.and_eq_true, List.contains_iff_mem] at permitted
      exact permitted.2
    refine ⟨run.numbered.readers key stream read, fun closed callback event => ?_⟩
    rw [change.calls]
    exact callsFor_closed closed stream frame callback event

/-- A caller that disconnects while a connect waits, connects again, and then sees the first
connect end. -/
def impatient : List Action :=
  [ .beginConnect true ⟨0, 0⟩,
    .disconnect,
    .beginConnect true ⟨1, 0⟩,
    .endConnect ⟨"http://gateway", ⟨"client"⟩, 0⟩ none ]

/-- The second connect may still install its stream, and does, as the second stream. -/
theorem installed_since_disconnect_impatient :
    ∃ s c s' e c', Run (System.lone.play 0 impatient).2 s ∧ s.manager.get? 0 = some c ∧
      c.stream = none ∧ ((s.around 0).attempts.filter (fun a => !c.isOvertaken a)).length = 1 ∧
      s.take? 0 (.endConnect ⟨"http://gateway", ⟨"client"⟩, 1⟩ none) = some (s', e) ∧
      s'.manager.get? 0 = some c' ∧ c'.stream.map PushStream.id = some 1 := by
  have run : Run (System.lone.play 0 impatient).2 (System.lone.play 0 impatient).1 :=
    run_lone.play 0 impatient
  have live : (System.lone.play 0 impatient).1.manager.isLive 0 = true := by decide +kernel
  have waits : ((System.lone.play 0 impatient).1.manager.get? 0).any (fun c =>
      c.connecting && !c.isOvertaken ⟨"http://gateway", ⟨"client"⟩, 1⟩) := by
    decide +kernel
  have ends : ((System.lone.play 0 impatient).1.take? 0
      (.endConnect ⟨"http://gateway", ⟨"client"⟩, 1⟩ none)).isSome := by
    decide +kernel
  have streams : (System.lone.play 0 impatient).1.streams = 1 := by decide +kernel
  rw [Option.any_eq_true] at waits
  obtain ⟨c, known, waits⟩ := waits
  simp only [Bool.and_eq_true, Bool.not_eq_true'] at waits
  obtain ⟨⟨s', e⟩, taken⟩ := Option.isSome_iff_exists.mp ends
  obtain ⟨one, closed, -, -, -, steps⟩ := installed_since_disconnect run known live
  obtain ⟨c', known', -, installs, -⟩ := steps _ s' e taken
  rw [if_pos waits.1] at one
  rw [← streams]
  exact ⟨_, c, s', e, c', run, known, closed waits.1, one, taken, known',
    (installs _ rfl waits.2).1⟩

end GatewayClient.Runs

import GatewayClient.Proofs.Connection.Retrying

/-!
# GatewayClient.Proofs.Connection.Ended

Push streams that come to their end. The reader of a stream tells of its end in the log and
leaves the connection as it is, so that a connection counts as connected from the end of a connect
up to the next disconnect, whether or not its stream still brings frames:

```
connect ends          stream ends           disconnect         connect
     |-------- flows ------|                      |                |
     |------------------- connected --------------|                |
     |-- a connect has nothing to do -------------|-- it goes on --|
```
-/

namespace GatewayClient.Runs

/-! ## streams and their ends -/

/-- Whether a step begins to read a stream. -/
def Step.Begins (e : Step) (stream : StreamId) : Prop :=
  stream ∈ Surroundings.started e.outcome.commands

/-- Whether a stream was installed, with no disconnect since. -/
def Installed (trace : List Step) (stream : StreamId) : Prop :=
  Since (fun e => e.Begins stream) (fun e => e.action = .disconnect) trace

/-- Whether a stream has come to its end on the side of the gateway. -/
def Ended (trace : List Step) (stream : StreamId) : Prop :=
  Since (fun e => e.action = .endStream stream) (fun e => e.Begins stream) trace

/-- Whether a stream was installed, and neither closed by a disconnect since nor ended on the side
of the gateway. -/
def Flowing (trace : List Step) (stream : StreamId) : Prop :=
  Since (fun e => e.Begins stream)
    (fun e => e.action = .disconnect ∨ e.action = .endStream stream) trace

/-- Only the end of a connect begins to read a stream. -/
theorem Change.begins_of_read (change : Change around x action outcome y) (key : ConnectionKey)
    (begins : Step.Begins ⟨key, action, x.connection, outcome⟩ stream) :
    ∃ attempt, action = .endConnect attempt none := by
  rcases change.started with none | ⟨attempt, id, ends, -, -, -⟩
  · rw [Step.Begins, none] at begins
    contradiction
  · exact ⟨attempt, ends⟩

/-- What flows is what was installed and has not ended. -/
theorem Life.flowing_iff (life : Life trace x around) (stream : StreamId) :
    Flowing trace stream ↔ Installed trace stream ∧ ¬ Ended trace stream := by
  induction life with
  | born id url hook settings => exact iff_of_false not_since_nil (fun held => not_since_nil held.1)
  | @next trace x around action outcome y life change key ih =>
    have apart : Step.Begins ⟨key, action, x.connection, outcome⟩ stream →
        action ≠ .endStream stream := by
      rintro begins rfl
      obtain ⟨attempt, ends⟩ := change.begins_of_read key begins
      contradiction
    simp only [Flowing, Installed, Ended, since_snoc] at ih ⊢
    grind

/-! ## the open stream -/

/-- A disconnect leaves no stream, and begins to read none. -/
theorem Change.disconnected (change : Change around x .disconnect outcome y) :
    y.connection.stream = none ∧ y.connection.connecting = false ∧
      Surroundings.started outcome.commands = [] := by
  cases change with
  | disconnectClosed commands closed quiet =>
    exact ⟨closed, rfl, Surroundings.started_of_deeds quiet⟩
  | disconnectOpen stream commands opened done =>
    exact ⟨rfl, rfl, Surroundings.started_of_deeds done⟩

/-- The stream of a live connection is the one that was installed, with no disconnect since. -/
theorem Life.stream_iff (life : Life trace x around) (live : x.dropped = false)
    (stream : StreamId) :
    x.connection.stream.map PushStream.id = some stream ↔ Installed trace stream := by
  induction life with
  | born id url hook settings => exact iff_of_false nofun not_since_nil
  | @next trace x around action outcome y life change key ih =>
    have before := ih (change.alive live)
    rw [Installed, since_snoc, Step.Begins]
    by_cases leaves : action = .disconnect
    · subst leaves
      obtain ⟨closed, -, none⟩ := change.disconnected
      simp [closed, none]
    · have unclosed : ¬ Step.Closes ⟨key, action, x.connection, outcome⟩ := by
        cases action <;> simp_all [Step.Closes]
      rw [and_iff_left leaves, ← Installed, ← before]
      rcases change.stream_id key live unclosed with
        ⟨none, same⟩ | ⟨attempt, id, waited, current, one, opened⟩
      · simp [none, same]
      · -- no connect can end while a stream is open
        have none := (life.connects.waiting waited current).2
        simp [one, opened, none, eq_comm]

/-- A connect has nothing to do while a connection is connected or connecting. -/
theorem perform_beginConnect_opening {s : System} (known : s.manager.get? key = some c)
    (opening : c.isOpening = true) (pushes : Bool) (moment : Moment) :
    s.perform key c (.beginConnect pushes moment) =
      (s.manager, { commands := [c.alreadyConnected] }) := by
  simp [System.perform, Manager.beginConnect, known, opening]

/-! ## all runs -/

section runs

variable {s : System} {c : Connection}

/-- A connect while a connection is connected changes nothing and asks for nothing. -/
theorem connect_idle (known : s.manager.get? key = some c) (live : s.manager.isLive key = true)
    (connected : c.isConnected = true) (pushes : Bool) (moment : Moment) :
    ∃ s' e, s.take? key (.beginConnect pushes moment) = some (s', e) ∧
      s'.manager = s.manager ∧ e.outcome.answer = .ok () ∧ e.outcome.attempt = none := by
  obtain ⟨s', e, taken⟩ := exists_take? known (.beginConnect pushes moment) live
  obtain ⟨moved, performed, -⟩ := perform_of_take? taken known
  have opening : c.isOpening = true := by simp [Connection.isOpening, connected]
  rw [perform_beginConnect_opening known opening] at moved performed
  exact ⟨s', e, taken, moved, by rw [performed], by rw [performed]⟩

/-- A connect of a connection that is neither connected nor connecting, under a client id that is
free, asks the server that it finds. -/
theorem connect_proceeds (known : s.manager.get? key = some c)
    (live : s.manager.isLive key = true) (idle : c.isOpening = false)
    (free : ¬ s.manager.Contested c.clientId key) (moment : Moment) :
    ∃ s' e, s.take? key (.beginConnect true moment) = some (s', e) ∧
      e.outcome.attempt = c.attemptOn s.manager.host moment := by
  obtain ⟨s', e, taken⟩ := exists_take? known (.beginConnect true moment) live
  obtain ⟨-, performed, -⟩ := perform_of_take? taken known
  exact ⟨s', e, taken, by rw [performed, (perform_beginConnect_free known idle free moment).1]⟩

/-- A disconnect may come at any time, and leaves the connection neither connected nor
connecting. -/
theorem disconnect_closes (known : s.manager.get? key = some c)
    (live : s.manager.isLive key = true) :
    ∃ s' e c', s.take? key .disconnect = some (s', e) ∧ s'.manager.get? key = some c' ∧
      c'.isOpening = false := by
  obtain ⟨s', e, taken⟩ := exists_take? known .disconnect live
  obtain ⟨dropped, y, -, left, -, change⟩ := change_of_known known taken
  obtain ⟨closed, quiet, -⟩ := change.disconnected
  exact ⟨s', e, y.connection, taken, left,
    by simp [Connection.isOpening, Connection.isConnected, closed, quiet]⟩

/-- **Ends of streams**: a live connection is connected exactly while a stream is installed with no
disconnect since. That it is connected exactly while a stream flows holds if and only if its
stream has not ended. While it is connected, a connect is no error and changes nothing and asks
for nothing; when it is neither connected nor connecting, as after every disconnect, a connect
under a client id that is free asks the server that it finds. -/
theorem connected_until_disconnect (run : Run trace s) (known : s.manager.get? key = some c)
    (live : s.manager.isLive key = true) :
    (c.isConnected = true ↔ ∃ stream, Installed (onKey key trace) stream) ∧
      ((c.isConnected = true ↔ ∃ stream, Flowing (onKey key trace) stream) ↔
        ∀ stream, c.stream.map PushStream.id = some stream →
          ¬ Ended (onKey key trace) stream) ∧
      (c.isConnected = true → ∀ pushes moment, ∃ s' e,
        s.take? key (.beginConnect pushes moment) = some (s', e) ∧
          s'.manager = s.manager ∧ e.outcome.answer = .ok () ∧ e.outcome.attempt = none) ∧
      (c.isOpening = false → ¬ s.manager.Contested c.clientId key → ∀ moment, ∃ s' e,
        s.take? key (.beginConnect true moment) = some (s', e) ∧
          e.outcome.attempt = c.attemptOn s.manager.host moment) ∧
      ∃ s' e c', s.take? key .disconnect = some (s', e) ∧ s'.manager.get? key = some c' ∧
        c'.isOpening = false := by
  obtain ⟨dropped, alive, life⟩ := life_of_run run known
  obtain rfl : dropped = false := by simpa [alive] using live
  have opened : ∀ stream, c.stream.map PushStream.id = some stream ↔
      Installed (onKey key trace) stream := life.stream_iff rfl
  have connected : c.isConnected = true ↔ ∃ stream, Installed (onKey key trace) stream := by
    simp only [← opened, Connection.isConnected, Option.isSome_iff_exists,
      Option.map_eq_some_iff]
    constructor
    · rintro ⟨stream, there⟩
      exact ⟨stream.id, stream, there, rfl⟩
    · rintro ⟨_, stream, there, -⟩
      exact ⟨stream, there⟩
  refine ⟨connected, ?_, fun there => connect_idle known live there,
    fun idle free => connect_proceeds known live idle free, disconnect_closes known live⟩
  simp only [connected, life.flowing_iff, opened]
  constructor
  · intro same stream installed ended
    obtain ⟨other, there, flows⟩ := same.mp ⟨stream, installed⟩
    -- one stream is installed at a time
    obtain rfl : stream = other :=
      Option.some.inj (((opened stream).mpr installed).symm.trans ((opened other).mpr there))
    exact flows ended
  · intro flows
    constructor
    · rintro ⟨stream, installed⟩
      exact ⟨stream, installed, flows stream installed⟩
    · rintro ⟨stream, installed, -⟩
      exact ⟨stream, installed⟩

end runs

/-- On the tour the stream that was installed flows on, so that the connection is connected and
would not connect again. -/
theorem connected_until_disconnect_on_tour :
    ∃ c, toured.1.manager.get? 0 = some c ∧ toured.1.manager.isLive 0 = true ∧
      c.isConnected = true ∧ (∃ stream, Flowing (onKey 0 toured.2) stream) ∧
      ∃ s' e, toured.1.take? 0 (.beginConnect true ⟨1, 0⟩) = some (s', e) ∧
        e.outcome.attempt = none := by
  have live : toured.1.manager.isLive 0 = true := by decide +kernel
  have opened : (toured.1.manager.get? 0).any (fun c => c.isConnected) := by decide +kernel
  rw [Option.any_eq_true] at opened
  obtain ⟨c, known, opened⟩ := opened
  obtain ⟨-, flows, idle, -, -⟩ := connected_until_disconnect run_toured known live
  have unended : ∀ stream, ¬ Ended (onKey 0 toured.2) stream := by
    rintro stream ⟨pre, e, post, cut, ends, -⟩
    have past : e ∈ onKey 0 toured.2 := by simp [cut]
    have listed := mem_play (List.mem_filter.mp past).1
    simp [ends, tour] at listed
  obtain ⟨s', e, taken, -, -, none⟩ := idle opened true ⟨1, 0⟩
  exact ⟨c, known, live, opened, (flows.mpr (fun stream _ => unended stream)).mp opened, s', e,
    taken, none⟩

/-- A connection whose stream comes to its end after the connect. -/
def deserted : List Action :=
  [ .beginConnect true ⟨0, 0⟩,
    .endConnect ⟨"http://gateway", ⟨"client"⟩, 0⟩ none,
    .endStream 0 ]

/-- A connection whose stream has ended is still connected though no stream flows, and a connect
does not open another stream. -/
theorem ended_stream_connected :
    ∃ trace s c, Run trace s ∧ s.manager.get? 0 = some c ∧ s.manager.isLive 0 = true ∧
      c.isConnected = true ∧ Ended (onKey 0 trace) 0 ∧
      (¬ ∃ stream, Flowing (onKey 0 trace) stream) ∧
      ∃ s' e, s.take? 0 (.beginConnect true ⟨1, 0⟩) = some (s', e) ∧ s'.manager = s.manager ∧
        e.outcome.attempt = none := by
  have run : Run (System.lone.play 0 deserted).2 (System.lone.play 0 deserted).1 :=
    run_lone.play 0 deserted
  have live : (System.lone.play 0 deserted).1.manager.isLive 0 = true := by decide +kernel
  have opened : ((System.lone.play 0 deserted).1.manager.get? 0).any (fun c =>
      c.isConnected && c.stream.map PushStream.id == some 0) := by
    decide +kernel
  rw [Option.any_eq_true] at opened
  obtain ⟨c, known, opened⟩ := opened
  rw [Bool.and_eq_true, beq_iff_eq] at opened
  obtain ⟨dropped, alive, life⟩ := life_of_run run known
  obtain rfl : dropped = false := by simpa [alive] using live
  have complete : (onKey 0 (System.lone.play 0 deserted).2).length = 3 := by decide +kernel
  have ended : Ended (onKey 0 (System.lone.play 0 deserted).2) 0 := by
    have order : ((onKey 0 (System.lone.play 0 deserted).2).map Step.action).Sublist deserted :=
      (List.filter_sublist.map Step.action).trans (sublist_play System.lone 0 deserted)
    have actions := order.eq_of_length (by rw [List.length_map, complete]; rfl)
    obtain ⟨first, second, last, steps⟩ := List.length_eq_three.mp complete
    rw [steps] at actions
    simp only [deserted, List.map_cons, List.cons.injEq] at actions
    exact ⟨[first, second], last, [], steps, actions.2.2.1, by simp⟩
  refine ⟨_, _, c, run, known, live, opened.1, ended, ?_, ?_⟩
  · rintro ⟨stream, flows⟩
    obtain ⟨installed, unended⟩ := (life.flowing_iff stream).mp flows
    have there := (life.stream_iff rfl stream).mpr installed
    obtain rfl : 0 = stream := Option.some.inj (opened.2.symm.trans there)
    exact unended ended
  · obtain ⟨s', e, taken, same, -, none⟩ := connect_idle known live opened.1 true ⟨1, 0⟩
    exact ⟨s', e, taken, same, none⟩

end GatewayClient.Runs

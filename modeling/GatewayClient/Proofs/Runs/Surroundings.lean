import GatewayClient.Proofs.Runs.Life

/-!
# GatewayClient.Proofs.Runs.Surroundings

What a step does to the surroundings of its connection: which connects wait after it, which
streams are read, and which flush tasks are due. Notes and calls do nothing to them.
-/

namespace GatewayClient.Runs

namespace Surroundings

@[simp] theorem follow_nil (around : Surroundings) : around.follow [] = around := rfl

theorem follow_cons (around : Surroundings) (command : Command) (rest : List Command) :
    around.follow (command :: rest) = (around.obey command).follow rest := rfl

theorem follow_append (around : Surroundings) (xs ys : List Command) :
    around.follow (xs ++ ys) = (around.follow xs).follow ys := List.foldl_append

/-- Only deeds reach the surroundings. -/
theorem follow_deeds (around : Surroundings) (commands : List Command) :
    around.follow (deeds commands) = around.follow commands := by
  induction commands generalizing around with
  | nil => rfl
  | cons command rest ih =>
    rw [deeds_cons, follow_cons]
    cases command <;> exact ih _

/-- What stands around a connection follows its deeds, notes aside. -/
theorem follow_of_deeds {commands ds : List Command} (done : deeds commands = ds)
    (around : Surroundings) : around.follow commands = around.follow ds := by
  rw [← done, follow_deeds]

/-- What an action leaves around a connection can be read off the deeds. -/
theorem after_of_deeds {outcome : Outcome} {ds : List Command}
    (done : deeds outcome.commands = ds) (around : Surroundings) (action : Action) :
    around.after action outcome = (around.consume outcome.attempt action).follow ds :=
  follow_of_deeds done _

/-- Calls are no concern of the surroundings. -/
theorem follow_map_call (around : Surroundings) (f : α → Invocation) (xs : List α) :
    around.follow (xs.map (fun x => .call (f x))) = around := by
  induction xs with
  | nil => rfl
  | cons x rest ih => exact ih

/-- Calls with events leave everything around as it is. -/
theorem follow_eventCalls (around : Surroundings) (c : Connection) (channel data : String) :
    around.follow (c.eventCalls channel data) = around := by
  obtain ⟨matched, same⟩ := c.eventCalls_eq_map channel data
  rw [same, follow_map_call]

/-- Following commands begins and ends no connects. -/
@[simp] theorem attempts_follow (around : Surroundings) (commands : List Command) :
    (around.follow commands).attempts = around.attempts := by
  induction commands generalizing around with
  | nil => rfl
  | cons command rest ih =>
    rw [follow_cons, ih]
    cases command <;> rfl

@[simp] theorem readers_consume (around : Surroundings) (attempt : Option ConnectAttempt)
    (action : Action) : (around.consume attempt action).readers = around.readers := by
  cases action <;> rfl

/-- A connect that waits has waited before, or was begun by the step. -/
theorem mem_attempts_after {around : Surroundings} {action : Action} {outcome : Outcome}
    {a : ConnectAttempt} (waits : a ∈ (around.after action outcome).attempts) :
    a ∈ around.attempts ∨ outcome.attempt = some a := by
  rw [after, attempts_follow] at waits
  cases action with
  | beginConnect pushes moment =>
    rw [consume, List.mem_append, Option.mem_toList] at waits
    exact waits
  | endConnect attempt failure => exact .inl (List.mem_of_mem_erase waits)
  | drop => contradiction
  | _ => exact .inl waits

/-- Attempts begin and end with the actions themselves, not with commands. -/
theorem attempts_after (around : Surroundings) (action : Action) (outcome : Outcome) :
    (around.after action outcome).attempts = (around.consume outcome.attempt action).attempts :=
  attempts_follow _ _

/-! ## readers -/

/-- The streams that commands begin to read. -/
def started (commands : List Command) : List StreamId :=
  commands.filterMap (fun
    | .startReader stream => some stream
    | _ => none)

/-- The readers that are started can be read off the deeds. -/
theorem started_of_deeds {commands ds : List Command} (done : deeds commands = ds) :
    started commands = started ds := by
  subst done
  simp only [started, deeds, List.filterMap_filter]
  congr 1
  funext command
  cases command <;> rfl

theorem started_append (xs ys : List Command) : started (xs ++ ys) = started xs ++ started ys :=
  List.filterMap_append

theorem started_map_call (f : α → Invocation) (xs : List α) :
    started (xs.map (fun x => .call (f x))) = [] := by
  simp [started]

theorem started_map_cancelFlush (xs : List UInt64) : started (xs.map .cancelFlush) = [] := by
  simp [started]

/-- Putting off a flush starts no reader. -/
theorem started_rearming (c : Connection) : started c.rearming = [] := by
  rw [Connection.rearming, started_append, started_map_cancelFlush]
  rfl

/-- An announced session starts no reader. -/
theorem started_greeting (c : Connection) (session : Session) :
    started (c.greeting session) = [] := by
  rw [Connection.greeting, Connection.hookCalls, started_append, started_map_call]
  cases c.batcher.hasPending with
  | false => rfl
  | true =>
    rw [if_pos rfl, started_append, started_map_cancelFlush]
    rfl

/-- Calls with events start no reader. -/
theorem started_eventCalls (c : Connection) (channel data : String) :
    started (c.eventCalls channel data) = [] := by
  obtain ⟨matched, same⟩ := c.eventCalls_eq_map channel data
  rw [same, started_map_call]

/-- Readers are added as they are started, and stay. -/
theorem readers_follow (around : Surroundings) (commands : List Command) :
    (around.follow commands).readers = around.readers ++ started commands := by
  induction commands generalizing around with
  | nil => simp [started]
  | cons command rest ih =>
    rw [follow_cons, ih]
    cases command <;> simp [obey, started]

/-! ## due flushes -/

/-- Whether a flush task of a generation is sure to run. -/
def IsDue (around : Surroundings) (generation : UInt64) : Prop :=
  ∃ f ∈ around.flushes, f.generation = generation ∧ f.isDue = true

/-- A flush that is armed is due. -/
theorem isDue_armFlush (around : Surroundings) (delay generation : UInt64) :
    (around.obey (.armFlush delay generation)).IsDue generation :=
  ⟨⟨generation, delay, false, false⟩, List.mem_append_right _ List.mem_cons_self, rfl, rfl⟩

/-- What was armed last is due. -/
theorem isDue_follow_arm (around : Surroundings) (before : List Command)
    (delay generation : UInt64) :
    (around.follow (before ++ [.armFlush delay generation])).IsDue generation := by
  rw [follow_append]
  exact isDue_armFlush _ delay generation

/-- A flush that reports takes no other one away. -/
theorem IsDue.report {around : Surroundings} (due : around.IsDue generation)
    (reported : around.flushes[task]? = some f) (other : f.generation ≠ generation)
    (reports : UInt64) (pushes : Bool) :
    (around.consume none (.flush task reports pushes)).IsDue generation := by
  obtain ⟨g, member, rfl, ready⟩ := due
  obtain ⟨i, bound, rfl⟩ := List.getElem_of_mem member
  have apart : task ≠ i := by
    rintro rfl
    rw [List.getElem?_eq_getElem bound, Option.some.injEq] at reported
    exact other (by rw [reported])
  have kept : (around.consume none (.flush task reports pushes)).flushes[i]? =
      some around.flushes[i] := by
    rw [consume, List.getElem?_modify_ne _ _ apart, List.getElem?_eq_getElem bound]
  exact ⟨_, List.mem_of_getElem? kept, rfl, ready⟩

end Surroundings

/-! ## changes -/

/-- A connect that is begun asks the server in use, in the epoch in which it begins. -/
theorem Change.begun (change : Change around x action outcome y)
    (began : outcome.attempt = some a) :
    x.connection.isOpening = false ∧ a.epoch = x.connection.epoch ∧
      y.connection.serverUrl = some a.server ∧ y.connection.connecting = true := by
  cases change with
  | connectBegun moment commands idle quiet =>
    obtain rfl : _ = a := Option.some.inj began
    exact ⟨idle, rfl, rfl, rfl⟩
  | _ => contradiction

/-- A reader is started by the end of a connect that was not overtaken, and by nothing else. -/
theorem Change.started (change : Change around x action outcome y) :
    Surroundings.started outcome.commands = [] ∨
      ∃ attempt id, action = .endConnect attempt none ∧ attempt ∈ around.attempts ∧
        x.connection.epoch = attempt.epoch ∧
        Surroundings.started outcome.commands = [id] := by
  cases change with
  | connectOpened attempt id commands waited current done =>
    exact .inr ⟨attempt, id, rfl, waited, current, Surroundings.started_of_deeds done⟩
  | @drop c commands done =>
    rw [Surroundings.started_of_deeds done, Surroundings.started_append,
      Surroundings.started_map_cancelFlush]
    cases c.stream <;> exact .inl rfl
  | subscribe request commands named done =>
    exact .inl ((Surroundings.started_of_deeds done).trans (Surroundings.started_rearming _))
  | unsubscribe callback listener commands done =>
    exact .inl ((Surroundings.started_of_deeds done).trans (Surroundings.started_rearming _))
  | opened stream frame session commands reader named full read done =>
    exact .inl ((Surroundings.started_of_deeds done).trans (Surroundings.started_greeting _ _))
  | acknowledged stream frame ack commands named read done =>
    exact .inl ((Surroundings.started_of_deeds done).trans (Surroundings.started_map_call _ _))
  | event stream frame commands unreserved done =>
    exact .inl ((Surroundings.started_of_deeds done).trans
      (Surroundings.started_eventCalls _ _ _))
  | disconnectOpen stream commands opened done => exact .inl (Surroundings.started_of_deeds done)
  | reloaded stream frame commands named done => exact .inl (Surroundings.started_of_deeds done)
  | flushWaiting task commands unknown done => exact .inl (Surroundings.started_of_deeds done)
  | flushSent task pushes commands known found waits running done =>
    exact .inl (Surroundings.started_of_deeds done)
  | beginPost batch rest idle running waiting => exact .inl rfl
  | loseSender => exact .inl rfl
  | _ => exact .inl (Surroundings.started_of_deeds ‹deeds _ = []›)

/-- A stream that is read was read before, or a connect has ended well. -/
theorem Change.readers (change : Change around x action outcome y)
    (read : stream ∈ (around.after action outcome).readers) :
    stream ∈ around.readers ∨
      ∃ attempt ∈ around.attempts, x.connection.epoch = attempt.epoch := by
  rw [Surroundings.after, Surroundings.readers_follow, Surroundings.readers_consume,
    List.mem_append] at read
  rcases change.started with none | ⟨attempt, id, -, waited, current, -⟩
  · rw [none] at read
    exact .inl (read.resolve_right List.not_mem_nil)
  · exact .inr ⟨attempt, waited, current⟩

end GatewayClient.Runs

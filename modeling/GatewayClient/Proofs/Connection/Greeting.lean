import GatewayClient.Proofs.Configuration.PendingFlush
import GatewayClient.Proofs.Runs.Armed
import Mathlib.Data.Option.NAry

/-!
# GatewayClient.Proofs.Connection.Greeting

How the gateway greets a connection. An `open` frame announces a session if it is not blank and
can be read, on whichever stream it comes:

```
announced so far      session       hook
nothing               none          waits
s₁                    s₁            was called with s₁
s₁, s₂, … sₙ          sₙ            is gone
```

What is pending when a session is announced is flushed without delay.
-/

namespace GatewayClient

/-- The hook that a call runs, and the session that it is told. -/
def Invocation.greeting? : Invocation → Option (SessionHook × Session)
  | .session hook told => some (hook, told)
  | _ => none

namespace Runs

open Connection (openFrame)

/-- The hooks that a step calls, with their sessions. -/
def Step.greetings (e : Step) : List (SessionHook × Session) :=
  (callsOf e.outcome.commands).filterMap Invocation.greeting?

/-- The connection as it was made, before its steps. -/
def asMade (trace : List Step) (c : Connection) : Connection := trace.head?.elim c Step.before

/-! ## announcements -/

/-- Whoever announces a session does it by an `open` frame that is not blank and can be read. -/
theorem Step.announces?_eq_some {e : Step} : e.announces? = some session ↔
    ∃ stream frame, e.action = .receive stream frame ∧ frame.event = openFrame ∧
      Text.isAllBlank frame.data = false ∧ Session.read frame.data = .ok session := by
  obtain ⟨key, action, before, outcome⟩ := e
  cases action with
  | receive stream frame =>
    cases read : Session.read frame.data <;> simp [announces?, read, Except.toOption, and_assoc]
  | _ => simp [announces?]

/-- Calls that no announcement leads to run no hook. -/
theorem greetings_callsFor (silent : Step.announces? ⟨key, action, c, outcome⟩ = none) :
    (callsFor c action).filterMap Invocation.greeting? = [] := by
  cases action with
  | receive stream frame =>
    simp only [callsFor]
    split
    · next named =>
      split
      · rfl
      · next full =>
        cases read : Session.read frame.data with
        | error e => rfl
        | ok session => simp [Step.announces?, named, full, read, Except.toOption] at silent
    split
    · cases Acknowledgment.read frame.data <;> simp [Invocation.greeting?]
    split
    · rfl
    · obtain ⟨matched, same⟩ := c.eventCalls_eq_map frame.event frame.data
      rw [same, callsOf_map_call]
      simp [Invocation.greeting?]
  | _ => rfl

section announcing

variable {x y : Member} {around : Surroundings} {action : Action} {outcome : Outcome}

/-- An announcement takes over its session, and its only deeds are to greet. -/
theorem Change.greets (change : Change around x action outcome y) (key : ConnectionKey)
    (told : Step.announces? ⟨key, action, x.connection, outcome⟩ = some session) :
    y.connection = x.connection.withSession session ∧
      deeds outcome.commands = x.connection.greeting session := by
  obtain ⟨stream, frame, rfl, announces, filled, readable⟩ := Step.announces?_eq_some.mp told
  cases change with
  | openIgnored stream frame commands named unread quiet =>
    exact absurd readable (unread session filled)
  | opened stream frame found commands reader named full read done =>
    obtain rfl : found = session := Except.ok.inj (read.symm.trans readable)
    exact ⟨rfl, done⟩
  | ackIgnored stream frame commands named unread quiet =>
    exact absurd (announces.symm.trans named) (by decide)
  | acknowledged stream frame ack commands named read done =>
    exact absurd (announces.symm.trans named) (by decide)
  | reloaded stream frame commands named done =>
    exact absurd (announces.symm.trans named) (by decide)
  | event stream frame commands unreserved done => simp [announces] at unreserved

/-- A hook is kept until a session is announced. -/
theorem Change.hook_eq (change : Change around x action outcome y) (key : ConnectionKey) :
    y.connection.hook =
      if (Step.announces? ⟨key, action, x.connection, outcome⟩).isSome then none
      else x.connection.hook := by
  cases told : Step.announces? ⟨key, action, x.connection, outcome⟩ with
  | some session =>
    rw [(change.greets key told).1]
    rfl
  | none =>
    cases change with
    | opened stream frame session commands reader named full read done =>
      simp [Step.announces?, named, full, read, Except.toOption] at told
    | _ => rfl

/-- A session that is announced replaces the one before. -/
theorem Change.session_eq (change : Change around x action outcome y) (key : ConnectionKey) :
    y.connection.session =
      (Step.announces? ⟨key, action, x.connection, outcome⟩).or x.connection.session := by
  rcases change.announces key with ⟨silent, same⟩ | ⟨stream, frame, session, -, -, -, told, known⟩
  · rw [silent, same, Option.none_or]
  · rw [told, known, Option.some_or]

/-- A step calls the hook that waits with the session that it announces, and no other. -/
theorem Change.greetings_eq (change : Change around x action outcome y) (key : ConnectionKey) :
    Step.greetings ⟨key, action, x.connection, outcome⟩ =
      (Option.map₂ Prod.mk x.connection.hook
        (Step.announces? ⟨key, action, x.connection, outcome⟩)).toList := by
  cases told : Step.announces? ⟨key, action, x.connection, outcome⟩ with
  | some session =>
    rw [Step.greetings, callsOf_of_deeds (change.greets key told).2, Connection.callsOf_greeting]
    cases x.connection.hook <;> rfl
  | none =>
    rw [Step.greetings, change.calls, Option.map₂_none_right]
    exact greetings_callsFor told

/-- Where an announcement finds something pending, it arms a flush without delay in the place of
the one that the timer holds; otherwise it leaves the timer alone. -/
theorem Change.after_greeting (change : Change around x action outcome y) (key : ConnectionKey)
    (told : Step.announces? ⟨key, action, x.connection, outcome⟩ = some session) :
    around.after action outcome = around.follow (if x.connection.batcher.hasPending then
      x.connection.timer.pending.toList.map .cancelFlush ++
        [.armFlush 0 (x.connection.timer.generation + 1)] else []) := by
  have greets := (change.greets key told).2
  obtain ⟨stream, frame, rfl, -⟩ := Step.announces?_eq_some.mp told
  rw [Surroundings.after_of_deeds greets, Connection.greeting, Surroundings.follow_append,
    Connection.hookCalls, Surroundings.follow_map_call]
  rfl

end announcing

/-! ## the hook -/

theorem asMade_snoc (trace : List Step) (e : Step) (c : Connection) :
    asMade (trace ++ [e]) c = asMade trace e.before := by
  cases trace <;> rfl

theorem announced_snoc (trace : List Step) (e : Step) :
    announced (trace ++ [e]) = announced trace ++ e.announces?.toList := by
  rw [announced, List.filterMap_append, announced]
  cases told : e.announces? <;> simp [told]

/-- A connection is made without a session, and with the hook that it was given. -/
theorem Life.made (life : Life trace x around) :
    ∃ id url hook settings, asMade trace x.connection = Connection.create id url hook settings := by
  induction life with
  | born id url hook settings => exact ⟨id, url, hook, settings, rfl⟩
  | next life change key ih =>
    rw [asMade_snoc]
    exact ih

/-- The hook waits until the first session is announced, and is gone from then on. -/
theorem Life.hook_eq (life : Life trace x around) :
    x.connection.hook =
      if announced trace = [] then (asMade trace x.connection).hook else none := by
  induction life with
  | born id url hook settings => rfl
  | @next trace x around action outcome y life change key ih =>
    rw [change.hook_eq key, asMade_snoc, announced_snoc]
    cases Step.announces? ⟨key, action, x.connection, outcome⟩ with
    | none => simpa using ih
    | some session => simp

/-- The hook is called with the session that is announced first, and never again. -/
theorem Life.greetings (life : Life trace x around) :
    trace.flatMap Step.greetings =
      (Option.map₂ Prod.mk (asMade trace x.connection).hook (announced trace).head?).toList := by
  induction life with
  | born id url hook settings => simp [announced]
  | @next trace x around action outcome y life change key ih =>
    rw [List.flatMap_append, ih, List.flatMap_singleton, change.greetings_eq key, life.hook_eq,
      asMade_snoc, announced_snoc]
    cases announced trace with
    | nil => cases Step.announces? ⟨key, action, x.connection, outcome⟩ <;> simp
    | cons first rest => simp

/-! ## the flush -/

/-- A task that is armed in the place of the one that the timer holds is the only one due. -/
theorem Armed.only_due {around : Surroundings} (armed : Armed timer around.flushes)
    (delay generation : UInt64) (f : ArmedFlush) :
    f ∈ (around.follow (timer.pending.toList.map .cancelFlush ++
        [.armFlush delay generation])).flushes ∧ f.isDue = true ↔
      f = ⟨generation, delay, false, false⟩ := by
  rw [flushes_rearm]
  constructor
  · rintro ⟨member, due⟩
    rcases List.mem_append.mp member with old | new
    · rw [idle_withdrawn armed.due f old] at due
      contradiction
    · exact List.mem_singleton.mp new
  · rintro rfl
    exact ⟨List.mem_append_right _ List.mem_cons_self, rfl⟩

/-! ## all runs -/

/-- **Greeting**: the session of a connection is at every moment the one that was announced last.
The hook with which the connection was made is called by the step that announces the first
session, with that session, and by no other step. A step that announces nothing keeps the session.
One that announces a session while changes are pending arms a flush without delay in the place of
the one that the timer holds, which is then the only one that is due, as long as the generations
have not come round. -/
theorem greeted_once (run : Run trace s) (known : s.manager.get? key = some c) :
    ∃ id url hook settings,
      asMade (onKey key trace) c = Connection.create id url hook settings ∧
      c.session = (announced (onKey key trace)).getLast? ∧
      (∀ pre e post, onKey key trace = pre ++ e :: post →
        e.before.session = (announced pre).getLast? ∧
        e.greetings = if announced pre = [] then
          (Option.map₂ Prod.mk hook e.announces?).toList else []) ∧
      (onKey key trace).flatMap Step.greetings =
        (Option.map₂ Prod.mk hook (announced (onKey key trace)).head?).toList ∧
      ∀ action s' e, s.take? key action = some (s', e) →
        ∃ c', s'.manager.get? key = some c' ∧ c'.session = e.announces?.or c.session ∧
          (e.announces?.isSome = true → if c.batcher.hasPending then
              c'.timer = ⟨c.timer.generation + 1, some (c.timer.generation + 1)⟩ ∧
              s'.around key = (s.around key).follow (c.timer.pending.toList.map .cancelFlush ++
                [.armFlush 0 (c.timer.generation + 1)]) ∧
              (2 * (onKey key trace).length < UInt64.size →
                ∀ f, f ∈ (s'.around key).flushes ∧ f.isDue = true ↔
                  f = ⟨c.timer.generation + 1, 0, false, false⟩)
            else c'.timer = c.timer ∧ s'.around key = s.around key) := by
  obtain ⟨dropped, -, life⟩ := life_of_run run known
  obtain ⟨id, url, hook, settings, made⟩ := life.made
  have given : (asMade (onKey key trace) c).hook = hook := by rw [made]; rfl
  refine ⟨id, url, hook, settings, made, life.session, ?_, ?_, ?_⟩
  · intro pre e post cut
    obtain ⟨gone, before, y, earlier, change⟩ := life.split cut
    have same : asMade pre e.before = asMade (onKey key trace) c := by
      rw [cut]
      cases pre <;> rfl
    have greetings := change.greetings_eq e.key
    rw [earlier.hook_eq, same, given] at greetings
    refine ⟨earlier.session, greetings.trans ?_⟩
    split <;> rfl
  · rw [life.greetings, given]
  · intro action s' e taken
    obtain ⟨x, y, member, moved, around, shape, -, change⟩ := change_of_take? taken
    obtain rfl : c = x.connection := Option.some.inj (known.symm.trans (get?_eq member))
    have bound := (List.getElem?_eq_some_iff.mp member).1
    have next : s'.manager.get? key = some y.connection :=
      get?_eq (by rw [moved, List.getElem?_set_self bound])
    have session := change.session_eq key
    rw [← shape] at session
    refine ⟨y.connection, next, session, fun told => ?_⟩
    obtain ⟨session, told⟩ := Option.isSome_iff_exists.mp told
    rw [shape] at told
    have after := change.after_greeting key told
    rw [around, Function.update_self, after, (change.greets key told).1, Connection.withSession]
    split
    · exact ⟨rfl, rfl, fun few => (run.armed known few).only_due 0 _⟩
    · exact ⟨rfl, rfl⟩

/-- A client whose only connection was made with a hook. -/
def System.hooked : System :=
  System.single Settings.default ⟨some ⟨"client"⟩, some "http://gateway", some ⟨"hook"⟩⟩

theorem run_hooked : Run [] System.hooked := Run.single _ _

/-- A caller that subscribes and connects, and two `open` frames that announce nothing. -/
def unannounced : List Action :=
  [ .subscribe ⟨"job", none, ⟨"callback"⟩, none⟩,
    .beginConnect true ⟨0, 0⟩,
    .endConnect ⟨"http://gateway", ⟨"client"⟩, 0⟩ none,
    .receive 0 ⟨"open", " ", none⟩,
    .receive 0 ⟨"open", "\x7b", none⟩ ]

/-- The hook still waits then. The frame that announces a session is known by it, and brings the
flush of the subscription forward. -/
theorem greeted_once_unannounced :
    ∃ s c s' e c', Run (System.hooked.play 0 unannounced).2 s ∧ s.manager.get? 0 = some c ∧
      c.session = none ∧ (System.hooked.play 0 unannounced).2.flatMap Step.greetings = [] ∧
      s.take? 0 (.receive 0 ⟨"open", "\x7b\x7d", none⟩) = some (s', e) ∧
      s'.manager.get? 0 = some c' ∧ c'.session.isSome = true ∧
      ∀ f, f ∈ (s'.around 0).flushes ∧ f.isDue = true ↔ f = ⟨3, 0, false, false⟩ := by
  have run : Run (System.hooked.play 0 unannounced).2 (System.hooked.play 0 unannounced).1 :=
    run_hooked.play 0 unannounced
  have pending : ((System.hooked.play 0 unannounced).1.manager.get? 0).any (fun c =>
      c.batcher.hasPending && c.timer.generation == 2) := by
    decide +kernel
  have told : ((System.hooked.play 0 unannounced).1.take? 0
      (.receive 0 ⟨"open", "\x7b\x7d", none⟩)).any (fun next => next.2.announces?.isSome) := by
    decide +kernel
  have own : onKey 0 (System.hooked.play 0 unannounced).2 =
      (System.hooked.play 0 unannounced).2 := List.filter_eq_self.mpr (by decide +kernel)
  have silent : announced (System.hooked.play 0 unannounced).2 = [] := by
    rw [← List.length_eq_zero_iff]
    decide +kernel
  have short : (System.hooked.play 0 unannounced).2.length = 5 := by decide +kernel
  rw [Option.any_eq_true] at pending told
  obtain ⟨c, known, pending⟩ := pending
  obtain ⟨⟨s', e⟩, taken, told⟩ := told
  rw [Bool.and_eq_true, beq_iff_eq] at pending
  obtain ⟨id, url, hook, settings, -, session, -, greetings, steps⟩ := greeted_once run known
  obtain ⟨c', known', session', greets⟩ := steps _ s' e taken
  have armed := greets told
  rw [if_pos pending.1, own, short, pending.2] at armed
  rw [own, silent] at session greetings
  refine ⟨_, c, s', e, c', run, known, session, ?_, taken, known', ?_, armed.2.2 (by decide)⟩
  · rw [greetings]
    cases hook <;> rfl
  · rw [session', Option.isSome_or, told]
    rfl

end Runs

end GatewayClient

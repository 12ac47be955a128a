import GatewayClient.Proofs.Manager.Exclusivity
import GatewayClient.Proofs.Text.Numerals
import Mathlib.Data.List.Nodup

/-!
# GatewayClient.Proofs.Manager.FreshIds

Client ids that the manager chooses. It counts them, whether they are for a connection without one
or for a caller that asks for one:

```
sse-client-1, sse-client-2, sse-client-3, …
```

The count never ends here, so no id is chosen twice. What callers give to their connections is not
counted and not looked at: a chosen id is new as long as no caller gave it to a connection before.
-/

namespace GatewayClient

/-- Ids of different numbers are different. -/
theorem ClientId.generated_inj : ClientId.generated n = ClientId.generated k ↔ n = k := by
  rw [generated, generated, ClientId.mk.injEq, String.append_right_inj, Text.decimal_inj]

namespace Runs

/-! ## names in a run -/

/-- How a client id came up: given to a connection by its caller, chosen for a connection without
one, or generated for a caller that asked. -/
inductive Naming where
  | given (id : ClientId)
  | chosen (id : ClientId)
  | generated (id : ClientId)
deriving DecidableEq

namespace Naming

/-- The id, if it is that of a connection. -/
def connection? : Naming → Option ClientId
  | given id | chosen id => some id
  | generated _ => none

/-- The id, if it comes from the manager. -/
def counted? : Naming → Option ClientId
  | given _ => none
  | chosen id | generated id => some id

/-- How a manager names its next connection. -/
def next (m : Manager) (config : ConnectConfig) : Naming :=
  config.clientId.elim (chosen m.generate.2) given

end Naming

/-- A run, with the client ids that came up in it. -/
inductive NamedRun : List Naming → List Step → System → Prop
  | start (host : Host) (settings : Settings) : NamedRun [] [] (System.start host settings)
  | connection (named : NamedRun names trace s) (config : ConnectConfig) :
      NamedRun (names ++ [.next s.manager config]) trace
        { s with manager := (s.manager.connection config).1 }
  | configure (named : NamedRun names trace s) (patch : SettingsPatch) :
      NamedRun names trace { s with manager := (s.manager.configure patch).1 }
  | generate (named : NamedRun names trace s) :
      NamedRun (names ++ [.generated s.manager.generate.2]) trace
        { s with manager := s.manager.generate.1 }
  | rehost (named : NamedRun names trace s) (host : Host) :
      NamedRun names trace { s with manager := { s.manager with host } }
  | step (named : NamedRun names trace s) (taken : s.take? key action = some (s', e)) :
      NamedRun names (trace ++ [e]) s'

theorem NamedRun.run (named : NamedRun names trace s) : Run trace s := by
  induction named with
  | start host settings => exact .start host settings
  | connection _ config run => exact run.connection config
  | configure _ patch run => exact run.configure patch
  | generate _ run => exact run.generate
  | rehost _ host run => exact run.rehost host
  | step _ taken run => exact run.step taken

/-- Every run has its names. -/
theorem Run.exists_named (run : Run trace s) : ∃ names, NamedRun names trace s := by
  induction run with
  | start host settings => exact ⟨_, .start host settings⟩
  | connection _ config ih => exact ⟨_, ih.choose_spec.connection config⟩
  | configure _ patch ih => exact ⟨_, ih.choose_spec.configure patch⟩
  | generate _ ih => exact ⟨_, ih.choose_spec.generate⟩
  | rehost _ host ih => exact ⟨_, ih.choose_spec.rehost host⟩
  | step _ taken ih => exact ⟨_, ih.choose_spec.step taken⟩

/-! ## steps leave the count alone -/

section count

variable (m : Manager) (id : ClientId) (key : ConnectionKey)

@[simp] theorem generated_set (c : Connection) : (m.set key c).generated = m.generated := rfl

@[simp] theorem generated_register : (m.register id key).1.generated = m.generated := by
  unfold Manager.register
  split <;> rfl

@[simp] theorem generated_unregister : (m.unregister id key).1.generated = m.generated := by
  unfold Manager.unregister
  split <;> rfl

end count

/-- A connect looks for the id of its connection and generates none. -/
theorem generated_beginConnect (m : Manager) (key : ConnectionKey) (pushes : Bool)
    (moment : Moment) : (m.beginConnect key pushes moment).1.generated = m.generated := by
  unfold Manager.beginConnect
  cases m.get? key with
  | none => rfl
  | some c =>
    rcases registered : m.register c.clientId key with ⟨claimed, log, result⟩
    have same : claimed.generated = m.generated := by
      rw [← generated_register m c.clientId key, registered]
    cases opening : c.isOpening <;> cases result <;> simp [opening, registered, same]

theorem generated_endConnect (m : Manager) (key : ConnectionKey) (attempt : ConnectAttempt)
    (opened : Except TransportError StreamId) :
    (m.endConnect key attempt opened).1.generated = m.generated := by
  unfold Manager.endConnect
  cases m.get? key with
  | none => rfl
  | some c =>
    cases overtaken : c.isOvertaken attempt with
    | true => simp [overtaken]
    | false => cases opened <;> simp [overtaken]

theorem generated_disconnect (m : Manager) (key : ConnectionKey) :
    (m.disconnect key).1.generated = m.generated := by
  unfold Manager.disconnect
  split <;> simp

theorem generated_drop (m : Manager) (key : ConnectionKey) :
    (m.drop key).1.generated = m.generated := by
  unfold Manager.drop
  cases m.members[key]? with
  | none => rfl
  | some x => cases dropped : x.dropped <;> simp [dropped]

/-- No action of a connection generates an id. -/
theorem generated_perform (s : System) (key : ConnectionKey) (c : Connection) (action : Action) :
    (s.perform key c action).1.generated = s.manager.generated := by
  cases other : action.registers with
  | false =>
    obtain ⟨members, same⟩ := exists_members_perform s key c other
    rw [same]
  | true =>
    cases action with
    | beginConnect pushes moment =>
      have same := generated_beginConnect s.manager key pushes moment
      simp only [System.perform]
      rcases begun : s.manager.beginConnect key pushes moment with
        ⟨m, commands, answer | attempt⟩ <;> rwa [begun] at same
    | endConnect attempt failure => exact generated_endConnect _ _ _ _
    | disconnect => exact generated_disconnect _ _
    | drop => exact generated_drop _ _
    | _ => contradiction

/-! ## the invariant -/

/-- The names of a run and its manager agree: the ids of connections are theirs in the order in
which they were made, and the ids that come from the manager are those that it has counted. -/
structure Named (names : List Naming) (m : Manager) : Prop where
  connections : m.members.map (fun x => x.connection.clientId) = names.filterMap Naming.connection?
  counted : names.filterMap Naming.counted? =
    (List.range m.generated).map (fun n => ClientId.generated (n + 1))

namespace Named

variable {names before after : List Naming} {m : Manager} {key : ConnectionKey}
  {x : Member} {id : ClientId}

/-- A new connection has the id that it is given, or the next one that is generated. -/
theorem connection (named : Named names m) (config : ConnectConfig) :
    Named (names ++ [.next m config]) (m.connection config).1 := by
  obtain ⟨id, url, hook⟩ := config
  cases id with
  | none =>
    constructor
    · simp [Manager.connection, Manager.generate, Naming.next, Naming.connection?,
        named.connections, Connection.create]
    · simp [Manager.connection, Manager.generate, Naming.next, Naming.counted?, named.counted,
        List.range_succ]
  | some id =>
    constructor
    · simp [Manager.connection, Naming.next, Naming.connection?, named.connections,
        Connection.create]
    · simp [Manager.connection, Naming.next, Naming.counted?, named.counted]

/-- An id that is generated for nobody counts as well. -/
theorem generate (named : Named names m) :
    Named (names ++ [.generated m.generate.2]) m.generate.1 := by
  constructor
  · simp [Manager.generate, Naming.connection?, named.connections]
  · simp [Manager.generate, Naming.counted?, named.counted, List.range_succ]

/-- A step renames nobody. -/
theorem step {s s' : System} (named : Named names s.manager)
    (taken : s.take? key action = some (s', e)) : Named names s'.manager := by
  obtain ⟨x, y, known, moved, -, -, -, change⟩ := change_of_take? taken
  obtain ⟨performed, -, -⟩ := perform_of_take? taken (get?_eq known)
  constructor
  · have own : y.connection.clientId = x.connection.clientId := change.clientId
    rw [moved, List.map_set, own, ← List.map_set, set_self known, named.connections]
  · rw [performed, generated_perform, named.counted]

/-- What comes from the manager comes once. -/
theorem nodup_counted (named : Named names m) : (names.filterMap Naming.counted?).Nodup := by
  rw [named.counted]
  have apart : Function.Injective (fun n => ClientId.generated (n + 1)) := fun n k same =>
    Nat.succ.inj (ClientId.generated_inj.mp same)
  exact List.Nodup.map apart List.nodup_range

/-- The ids of connections are found at their keys. -/
theorem getElem?_connections (named : Named names m) (known : m.members[key]? = some x) :
    (names.filterMap Naming.connection?)[key]? = some x.connection.clientId := by
  rw [← named.connections, List.getElem?_map, known, Option.map_some]

/-- A chosen id was not counted before. -/
theorem not_mem_counted (named : Named (before ++ .chosen id :: after) m) :
    id ∉ before.filterMap Naming.counted? := by
  have once := named.nodup_counted
  rw [List.filterMap_append] at once
  intro earlier
  exact List.disjoint_of_nodup_append once earlier
    (List.mem_filterMap.mpr ⟨_, List.mem_cons_self, rfl⟩)

/-- An earlier connection has a chosen id only if its caller gave it. -/
theorem mem_connections_iff (named : Named (before ++ .chosen id :: after) m) :
    id ∈ before.filterMap Naming.connection? ↔ .given id ∈ before := by
  rw [List.mem_filterMap]
  constructor
  · rintro ⟨given | chosen | generated, earlier, own⟩ <;> cases own
    · exact earlier
    · have counted : id ∈ before.filterMap Naming.counted? :=
        List.mem_filterMap.mpr ⟨.chosen id, earlier, rfl⟩
      exact absurd counted named.not_mem_counted
  · intro earlier
    exact ⟨_, earlier, rfl⟩

end Named

/-- In every run the names and the manager agree. -/
theorem NamedRun.named (run : NamedRun names trace s) : Named names s.manager := by
  induction run with
  | start host settings => exact ⟨rfl, rfl⟩
  | connection _ config named => exact named.connection config
  | configure _ patch named => exact ⟨named.connections, named.counted⟩
  | generate _ named => exact named.generate
  | rehost _ host named => exact ⟨named.connections, named.counted⟩
  | step _ taken named => exact named.step taken

/-! ## chosen ids are fresh -/

/-- A connect that is refused for its client id meets another connection with that id. -/
theorem Run.exists_of_refused {s' : System} (run : Run trace s)
    (taken : s.take? key (.beginConnect pushes moment) = some (s', e))
    (refused : e.outcome.answer = .error (.alreadyConnected owned)) :
    ∃ x y other, s.manager.members[key]? = some x ∧ s.manager.members[other]? = some y ∧
      other ≠ key ∧ x.connection.clientId = y.connection.clientId ∧
      s.manager.find? x.connection.clientId = some other := by
  obtain ⟨x, y, known, -, -, -, -, change⟩ := change_of_take? taken
  have connects := (run.lives.life known).connects
  cases claim_of_take? taken known connects change with
  | kept same begun calm alive opening => exact absurd refused (calm owned)
  | claimed free taken live answer => simp [answer] at refused
  | released gone closed calm begins => exact absurd rfl (begins pushes moment)
  | refused contested same begun alive answer =>
    obtain ⟨other, apart, mine, -⟩ := contested
    obtain ⟨c, there, named⟩ := run.exclusive.owner mine
    exact ⟨x, _, other, known, there, apart, named.symm, run.exclusive.find?_eq mine⟩

/-- The key of the connection that is made next. -/
def nextKey (names : List Naming) : ConnectionKey := (names.filterMap Naming.connection?).length

/-- **Fresh ids**: an id that is chosen for a connection is none of those chosen or generated
before. It is that of no earlier connection exactly if no caller gave it to one, and then a
connect with it is refused only on account of a later connection. -/
theorem chosen_ids_fresh (run : NamedRun names trace s) :
    s.manager.members.map (fun x => x.connection.clientId) = names.filterMap Naming.connection? ∧
    ∀ before id after, names = before ++ .chosen id :: after →
      id ∉ before.filterMap Naming.counted? ∧
      (id ∉ before.filterMap Naming.connection? ↔ .given id ∉ before) ∧
      (.given id ∉ before → ∀ pushes moment s' e owned,
        s.take? (nextKey before) (.beginConnect pushes moment) = some (s', e) →
        e.outcome.answer = .error (.alreadyConnected owned) →
        ∃ later, nextKey before < later ∧ s.manager.find? id = some later) := by
  have named := run.named
  refine ⟨named.connections, ?_⟩
  rintro before id after rfl
  refine ⟨named.not_mem_counted, not_congr named.mem_connections_iff, ?_⟩
  intro free pushes moment s' e owned taken refused
  obtain ⟨x, y, other, known, there, apart, same, found⟩ := run.run.exists_of_refused taken refused
  have mine := named.getElem?_connections known
  have theirs := named.getElem?_connections there
  rw [List.filterMap_append, nextKey, List.getElem?_append_right (Nat.le_refl _),
    Nat.sub_self] at mine
  obtain rfl : id = x.connection.clientId := Option.some.inj mine
  refine ⟨other, Nat.lt_of_le_of_ne (Nat.le_of_not_lt fun earlier => ?_) apart.symm, found⟩
  -- a caller would have given the id to an earlier connection
  rw [List.filterMap_append, List.getElem?_append_left earlier, ← same] at theirs
  exact free (named.mem_connections_iff.mp (List.mem_of_getElem? theirs))

/-- The system with one more connection, for a client that has an id or has none. -/
def System.join (s : System) (id : Option ClientId) : System :=
  { s with manager := (s.manager.connection ⟨id, some "http://gateway", none⟩).1 }

theorem NamedRun.join (run : NamedRun names trace s) (id : Option ClientId) :
    NamedRun (names ++ [id.elim (.chosen s.manager.generate.2) .given]) trace (s.join id) :=
  run.connection ⟨id, some "http://gateway", none⟩

/-- A client took the first generated id, the next got the second, and a third took that as well. -/
def rivals : System :=
  let start := System.start .headless Settings.default
  (({ start with manager := start.manager.generate.1 }.join (some ⟨"sse-client-1"⟩)).join none).join
    (some ⟨"sse-client-2"⟩)

theorem named_rivals : NamedRun [.generated ⟨"sse-client-1"⟩, .given ⟨"sse-client-1"⟩,
    .chosen ⟨"sse-client-2"⟩, .given ⟨"sse-client-2"⟩] [] rivals := by
  have run : NamedRun _ [] rivals := (((NamedRun.start .headless Settings.default).generate.join
    (some ⟨"sse-client-1"⟩)).join none).join (some ⟨"sse-client-2"⟩)
  convert run using 1
  decide +kernel

/-- Whether a call was refused for a client id. -/
def Step.refuses (e : Step) (id : ClientId) : Bool :=
  match e.outcome.answer with
  | .error (.alreadyConnected owned) => owned = id
  | _ => false

/-- A step refuses an id if its answer says so. -/
theorem Step.refuses_iff {e : Step} {id : ClientId} :
    e.refuses id = true ↔ e.outcome.answer = .error (.alreadyConnected id) := by
  unfold refuses
  split
  · next answer => simp [answer]
  · next other => simpa using other id

/-- Two connects, one after the other, of which the second is refused for its client id. -/
theorem exists_refused_after {s : System} {first second : ConnectionKey} {action : Action}
    {id : ClientId}
    (refusal : (s.take? first action).any fun r => (r.1.take? second action).any fun r' =>
      r'.2.refuses id) :
    ∃ s' e s'' e', s.take? first action = some (s', e) ∧ s'.take? second action = some (s'', e') ∧
      e'.outcome.answer = .error (.alreadyConnected id) := by
  rw [Option.any_eq_true] at refusal
  obtain ⟨⟨s', e⟩, taken, refusal⟩ := refusal
  rw [Option.any_eq_true] at refusal
  obtain ⟨⟨s'', e'⟩, taken', refused⟩ := refusal
  exact ⟨s', e, s'', e', taken, taken', Step.refuses_iff.mp refused⟩

/-- The second of the rivals is refused once the third has connected, and on account of the third.
-/
theorem chosen_ids_fresh_contested :
    ∃ trace s s' e, NamedRun ([.generated ⟨"sse-client-1"⟩, .given ⟨"sse-client-1"⟩] ++
        .chosen ⟨"sse-client-2"⟩ :: [.given ⟨"sse-client-2"⟩]) trace s ∧
      s.take? 1 (.beginConnect true ⟨0, 0⟩) = some (s', e) ∧
      e.outcome.answer = .error (.alreadyConnected ⟨"sse-client-2"⟩) ∧
      ∃ later, 1 < later ∧ s.manager.find? ⟨"sse-client-2"⟩ = some later := by
  have refusal : (rivals.take? 2 (.beginConnect true ⟨0, 0⟩)).any fun r =>
      (r.1.take? 1 (.beginConnect true ⟨0, 0⟩)).any fun r' => r'.2.refuses ⟨"sse-client-2"⟩ := by
    decide +kernel
  obtain ⟨s, e₀, s', e, first, second, answer⟩ := exists_refused_after refusal
  have run := named_rivals.step first
  refine ⟨_, s, s', e, run, second, answer, ?_⟩
  obtain ⟨-, fresh⟩ := chosen_ids_fresh run
  obtain ⟨-, -, later⟩ := fresh [.generated ⟨"sse-client-1"⟩, .given ⟨"sse-client-1"⟩] _ _ rfl
  exact later (by decide) true ⟨0, 0⟩ s' e _ second answer

/-- A client took the first id that a manager would choose, before the manager chose it. -/
def namesakes : System :=
  ((System.start .headless Settings.default).join (some ⟨"sse-client-1"⟩)).join none

theorem named_namesakes :
    NamedRun [.given ⟨"sse-client-1"⟩, .chosen ⟨"sse-client-1"⟩] [] namesakes := by
  have run : NamedRun _ [] namesakes :=
    ((NamedRun.start .headless Settings.default).join (some ⟨"sse-client-1"⟩)).join none
  convert run using 1
  decide +kernel

/-- A chosen id need not be fresh: an earlier connection has it, and the connect with it is
refused on account of that one. -/
theorem chosen_id_taken :
    ∃ trace s s' e, NamedRun [.given ⟨"sse-client-1"⟩, .chosen ⟨"sse-client-1"⟩] trace s ∧
      s.manager.find? ⟨"sse-client-1"⟩ = some 0 ∧
      s.take? 1 (.beginConnect true ⟨0, 0⟩) = some (s', e) ∧
      e.outcome.answer = .error (.alreadyConnected ⟨"sse-client-1"⟩) := by
  have refusal : (namesakes.take? 0 (.beginConnect true ⟨0, 0⟩)).any fun r =>
      (r.1.take? 1 (.beginConnect true ⟨0, 0⟩)).any fun r' => r'.2.refuses ⟨"sse-client-1"⟩ := by
    decide +kernel
  have owner : (namesakes.take? 0 (.beginConnect true ⟨0, 0⟩)).any fun r =>
      r.1.manager.find? ⟨"sse-client-1"⟩ = some 0 := by
    decide +kernel
  obtain ⟨s, e₀, s', e, first, second, answer⟩ := exists_refused_after refusal
  rw [first, Option.any_some, decide_eq_true_eq] at owner
  exact ⟨_, s, s', e, named_namesakes.step first, owner, second, answer⟩

end Runs

end GatewayClient

import GatewayClient.Proofs.Runs.Change
import GatewayClient.Proofs.Simulation.Calls

/-!
# GatewayClient.Proofs.Subscription.Dispatch

Who is called with a frame of a channel. A live subscription wants an event if it is on the
channel of the frame and the event has every field of its config, under an equal match text:

```
attached, a JSON object       one call for each live subscription that wants it, in their order
anything else                 no call
```

The calls are fixed before the first of them is made. Whatever a call does then, and however it
fails, the others are made with the event as it was read.
-/

namespace GatewayClient

open Connection (openFrame configureFrame reloadFrame)

/-! ## who wants an event -/

/-- Whether an event has a field with an expected value, values compared by their match texts. -/
def Event.Has (e : Event) (key : String) (expected : Json.Value) : Prop :=
  ∃ actual, e.get? key = some actual ∧ actual.matchText = expected.matchText

/-- A subscription wants an event on a channel: it is on that channel, and the event has every
field of its config. -/
structure Subscription.Wants (s : Subscription) (channel : String) (e : Event) : Prop where
  named : s.config.channel? = some channel
  has : ∀ field ∈ s.config.fields, e.Has field.1 field.2

theorem Event.has_iff {e : Event} {key : String} {expected : Json.Value} :
    e.Has key expected ↔
      (Json.Fields.get? e.fields key).any (fun v => v.matchText == expected.matchText) = true := by
  rw [Option.any_eq_true]
  simp only [beq_iff_eq]
  exact Iff.rfl

/-- An event satisfies a config when it has every field of it. -/
theorem Event.satisfies_iff {e : Event} {config : SubscriptionConfig} :
    e.satisfies config = true ↔ ∀ field ∈ config.fields, e.Has field.1 field.2 := by
  simp only [satisfies, SubscriptionConfig.matchesFields, Filter.containedIn, List.all_eq_true,
    Event.has_iff]

theorem Subscription.wants_iff {s : Subscription} {channel : String} {e : Event} :
    (s.config.channel? == some channel && e.satisfies s.config) = true ↔ s.Wants channel e := by
  rw [Bool.and_eq_true, beq_iff_eq, Event.satisfies_iff]
  exact ⟨fun ⟨named, has⟩ => ⟨named, has⟩, fun wants => ⟨wants.named, wants.has⟩⟩

instance (s : Subscription) (channel : String) (e : Event) : Decidable (s.Wants channel e) :=
  decidable_of_iff _ Subscription.wants_iff

/-- Matching among those on the channel finds the subscriptions that want the event. -/
theorem Registry.filter_onChannel (r : Registry) (channel : String) (e : Event) :
    (r.onChannel channel).filter (fun s => e.satisfies s.config) =
      r.subscriptions.filter (fun s => s.Wants channel e) := by
  rw [onChannel, List.filter_filter]
  apply List.filter_congr
  intro s _
  rw [Bool.and_comm, Bool.eq_iff_iff, Subscription.wants_iff, decide_eq_true_iff]

/-! ## what a payload is read as -/

theorem Event.read_object {data : String} {fields : Json.Fields}
    (object : Json.Value.read data = .ok (.object fields)) : Event.read data = .ok ⟨fields⟩ := by
  simp [Event.read, object]

/-- Nothing but an object is read. -/
theorem Event.read_other {data : String}
    (other : ∀ fields, Json.Value.read data ≠ .ok (.object fields)) :
    ∃ e, Event.read data = .error e := by
  unfold Event.read
  cases read : Json.Value.read data with
  | error f => exact ⟨_, rfl⟩
  | ok v =>
    cases v with
    | object fields => exact absurd read (other fields)
    | _ => exact ⟨_, rfl⟩

/-- What cannot be read is delivered to nobody. -/
theorem Registry.deliveries_unread (r : Registry) (channel : String) {data : String}
    {e : PayloadError} (unread : Event.read data = .error e) :
    r.deliveries channel data = .ok ⟨0, []⟩ ∨ r.deliveries channel data = .error e := by
  unfold deliveries
  cases r.onChannel channel with
  | nil => exact .inl rfl
  | cons first rest => exact .inr (by rw [unread]; rfl)

/-- Without a subscription on the channel there is nothing to deliver. -/
theorem Registry.deliveries_unwanted {r : Registry}
    (nobody : ∀ s ∈ r.subscriptions, s.config.channel? ≠ some channel) (data : String) :
    r.deliveries channel data = .ok ⟨0, []⟩ := by
  have none : r.onChannel channel = [] := by
    rw [onChannel, List.filter_eq_nil_iff]
    intro s live
    simpa using nobody s live
  simp only [deliveries, none]

/-! ## the calls for a frame -/

namespace Connection

variable {c : Connection}

theorem eventCalls_unattached (unattached : c.isAttached channel = false) (data : String) :
    c.eventCalls channel data = [] := by simp [eventCalls, unattached]

theorem eventCalls_unwanted
    (nobody : ∀ s ∈ c.registry.subscriptions, s.config.channel? ≠ some channel) (data : String) :
    c.eventCalls channel data = [] := by
  simp [eventCalls, Registry.deliveries_unwanted nobody]

theorem eventCalls_unread
    (other : ∀ fields, Json.Value.read data ≠ .ok (.object fields)) (channel : String) :
    c.eventCalls channel data = [] := by
  obtain ⟨e, unread⟩ := Event.read_other other
  rcases c.registry.deliveries_unread channel unread with none | refused
  · simp [eventCalls, none]
  · simp [eventCalls, refused]

/-- An event of an attached channel goes to the subscriptions that want it. -/
theorem eventCalls_object (attached : c.isAttached channel = true)
    (object : Json.Value.read data = .ok (.object fields)) :
    c.eventCalls channel data =
      (c.registry.subscriptions.filter (fun s => s.Wants channel ⟨fields⟩)).map
        (fun s => .call (.event s.callback ⟨fields⟩)) := by
  rw [eventCalls, if_pos attached,
    Registry.deliveries_of_read _ _ (Event.read_object object), Registry.filter_onChannel]
  simp only [List.map_map, Function.comp_def]

/-- The deeds of a channel's frame are its calls. -/
theorem deeds_receive_event (frame : EventStream.Frame)
    (unreserved : frame.event ∉ [openFrame, configureFrame, reloadFrame]) :
    deeds (c.receive frame).2 = (callsOf (c.receive frame).2).map .call := by
  obtain ⟨matched, same⟩ := c.eventCalls_eq_map frame.event frame.data
  have done : deeds (c.receive frame).2 =
      matched.map (fun m => .call (.event m.1 m.2)) := by
    rw [receive_event unreserved, deeds_receiveEvent, same]
  rw [done, callsOf_of_deeds done, callsOf_map_call, List.map_map]
  rfl

end Connection

/-! ## the world that makes the calls -/

/-- A live connection receives a frame of a channel, and the manager does not change. -/
theorem Manager.receive_event {m : Manager} {c : Connection} (known : m.get? key = some c)
    (live : m.isLive key = true) (frame : EventStream.Frame)
    (unreserved : frame.event ∉ [openFrame, configureFrame, reloadFrame]) :
    m.receive key frame = (m, (c.receive frame).2) := by
  obtain ⟨⟨c, dropped⟩, member, rfl⟩ := Option.map_eq_some_iff.mp known
  have unchanged : (m.set key c).members = m.members := by
    rw [Runs.members_set member, Runs.set_self member]
  have same : m.set key c = m := congrArg (fun members => { m with members }) unchanged
  rw [Manager.receive, if_pos live, Manager.step, known]
  simp only [Connection.receive_event unreserved, same]

/-- Handling a frame makes the calls of the connection, whatever the scripts of the callbacks
say. -/
theorem Simulation.World.calls_handleFrame {w : World} {c : Connection}
    (known : w.manager.get? key = some c) (live : w.manager.isLive key = true)
    (frame : EventStream.Frame)
    (unreserved : frame.event ∉ [openFrame, configureFrame, reloadFrame]) :
    (w.handleFrame key frame).calls = w.calls ++ callsOf (c.receive frame).2 := by
  rw [handleFrame, Manager.receive_event known live frame unreserved]
  simp only [calls_release]
  exact calls_carryOut key _ _

/-! ## dispatch -/

/-- **Dispatch**: a frame of an attached channel whose payload is an object calls the callback of
each live subscription that wants it, once for each and in their order, with the event as it was
read; any other frame of a channel calls nobody. In either case nothing is done but the calls,
the connection stays as it is, and all the calls are made, whichever of them fail and whatever
they do. -/
theorem Connection.receive_dispatches (c : Connection) (frame : EventStream.Frame)
    (unreserved : frame.event ∉ [openFrame, configureFrame, reloadFrame]) :
    (∀ fields, c.isAttached frame.event = true →
      Json.Value.read frame.data = .ok (.object fields) →
      callsOf (c.receive frame).2 =
        (c.registry.subscriptions.filter (fun s => s.Wants frame.event ⟨fields⟩)).map
          (fun s => .event s.callback ⟨fields⟩)) ∧
    ((c.isAttached frame.event = false ∨
        (∀ s ∈ c.registry.subscriptions, s.config.channel? ≠ some frame.event) ∨
        ∀ fields, Json.Value.read frame.data ≠ .ok (.object fields)) →
      callsOf (c.receive frame).2 = []) ∧
    (c.receive frame).1 = c ∧
    deeds (c.receive frame).2 = (callsOf (c.receive frame).2).map .call ∧
    ∀ (w : Simulation.World) (key : ConnectionKey),
      w.manager.get? key = some c → w.manager.isLive key = true →
      (w.manager.receive key frame).1 = w.manager ∧
        (w.handleFrame key frame).calls = w.calls ++ callsOf (c.receive frame).2 := by
  have made : callsOf (c.receive frame).2 = callsOf (c.eventCalls frame.event frame.data) := by
    rw [receive_event unreserved]
    exact callsOf_of_deeds (c.deeds_receiveEvent _ _)
  refine ⟨?_, ?_, ?_, deeds_receive_event frame unreserved, ?_⟩
  · intro fields attached object
    rw [made, eventCalls_object attached object, callsOf_map_call]
  · intro reason
    have silent : c.eventCalls frame.event frame.data = [] := by
      rcases reason with unattached | nobody | other
      · exact eventCalls_unattached unattached _
      · exact eventCalls_unwanted nobody _
      · exact eventCalls_unread other _
    rw [made, silent]
    rfl
  · rw [receive_event unreserved]
  · intro w key known live
    have same := Manager.receive_event known live frame unreserved
    have calls := w.calls_handleFrame known live frame unreserved
    exact ⟨congrArg Prod.fst same, calls⟩

/-- A callback that subscribes to one channel three times, under two filters and without one,
and the stream that its connect opens. -/
def thrice : Connection :=
  let asked (filter : Option Filter) : SubscribeRequest := ⟨"job", filter, ⟨"callback"⟩, none⟩
  let created := Connection.create ⟨"client"⟩ none none Settings.default
  let narrow := (created.subscribe (asked (some [("build", .number (.natural 7))]))).1
  let wrong := (narrow.subscribe (asked (some [("build", .bool true)]))).1
  let wide := (wrong.subscribe (asked none)).1
  (wide.openStream ⟨"http://gateway", ⟨"client"⟩, 0⟩ 0).1

/-- A frame on its channel that says the build in a string. -/
def seventh : EventStream.Frame :=
  ⟨"job", "\x7b\"build\":\"7\",\"jenkins_channel\":\"job\"\x7d", none⟩

/-- Its callback is called twice: the string says what the number of one filter says, and not
what the other filter asks for. -/
theorem receive_dispatches_thrice :
    ∃ e, Event.read seventh.data = .ok e ∧
      callsOf (thrice.receive seventh).2 = [.event ⟨"callback"⟩ e, .event ⟨"callback"⟩ e] ∧
      (thrice.receive seventh).1 = thrice := by
  have parsed : (Json.Value.read seventh.data).toOption = some (.object
      [("build", .string "7"), ("jenkins_channel", .string "job")]) := by
    decide +kernel
  have object : Json.Value.read seventh.data = .ok (.object
      [("build", .string "7"), ("jenkins_channel", .string "job")]) := by
    cases read : Json.Value.read seventh.data with
    | error e =>
      rw [read] at parsed
      contradiction
    | ok v =>
      rw [read] at parsed
      exact congrArg Except.ok (Option.some.inj parsed)
  have wanted : (thrice.registry.subscriptions.filter (fun s => s.Wants seventh.event
      ⟨[("build", .string "7"), ("jenkins_channel", .string "job")]⟩)).map Subscription.callback =
        [⟨"callback"⟩, ⟨"callback"⟩] := by
    decide +kernel
  obtain ⟨dispatched, -, unchanged, -⟩ := thrice.receive_dispatches seventh (by decide)
  refine ⟨_, Event.read_object object, ?_, unchanged⟩
  have calls := dispatched _ (by decide +kernel) object
  have shape : ∀ e : Event, (fun s : Subscription => Invocation.event s.callback e) =
      (fun callback => Invocation.event callback e) ∘ Subscription.callback := fun _ => rfl
  rw [calls, shape, ← List.map_map, wanted]
  rfl

end GatewayClient

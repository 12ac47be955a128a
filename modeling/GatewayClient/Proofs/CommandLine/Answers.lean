import GatewayClient.CommandLine.Listener
import GatewayClient.Proofs.Json.Printing
import GatewayClient.Proofs.Subscription.Dispatch

/-!
# GatewayClient.Proofs.CommandLine.Answers

Which events a listener asks for, and which lines they are printed as. The filters of the command
line come to one filter for all channels, in which the last filter with a key counts, and in which
a channel takes the place of a filter for the reserved field:

```
--channel a --filter k=1 --filter k=2        { jenkins_channel: a, k: 2 }
--channel a --filter jenkins_channel=b       { jenkins_channel: a }
```

A channel that is named several times has as many subscriptions, and each of them prints its own
line.
-/

namespace GatewayClient

open EventStream (Frame)

/-! ## what answers a listener -/

/-- An event answers a channel under the filters of the command line: it names the channel, and it
has the value of each filter that is the last one with its key, values compared by their match
texts. Filters for the reserved field do not count. -/
structure Event.Answers (e : Event) (channel : String) (filters : List (String × String)) :
    Prop where
  named : e.Has channelField (.string channel)
  has : ∀ f ∈ filters, filters.reverse.lookup f.1 = some f.2 → f.1 ≠ channelField →
    e.Has f.1 (.string f.2)

instance (e : Event) (key : String) (expected : Json.Value) : Decidable (e.Has key expected) :=
  decidable_of_iff _ Event.has_iff.symm

instance (e : Event) (channel : String) (filters : List (String × String)) :
    Decidable (e.Answers channel filters) :=
  decidable_of_iff (e.Has channelField (.string channel) ∧ ∀ f ∈ filters,
      filters.reverse.lookup f.1 = some f.2 → f.1 ≠ channelField → e.Has f.1 (.string f.2))
    ⟨fun both => ⟨both.1, both.2⟩, fun answers => ⟨answers.named, answers.has⟩⟩

namespace CommandLine

/-- The lines for a frame: if its payload is an object that answers its name, one line with the
compact text of that object for each time that the name is among the channels. -/
def linesFor (channels : List String) (filters : List (String × String)) (frame : Frame) :
    List String :=
  match Json.Value.read frame.data with
  | .ok (.object fields) =>
    if Event.Answers ⟨fields⟩ frame.event filters then
      List.replicate (channels.count frame.event) (Json.Value.object fields).text
    else []
  | _ => []

section lines

variable {channels : List String} {filters : List (String × String)} {frame : Frame}

/-- A payload that is an object is printed for each channel with its name, if it answers. -/
theorem linesFor_object (object : Json.Value.read frame.data = .ok (.object fields)) :
    linesFor channels filters frame = if Event.Answers ⟨fields⟩ frame.event filters then
      List.replicate (channels.count frame.event) (Json.Value.object fields).text else [] := by
  rw [linesFor, object]

/-- Any other payload is not printed. -/
theorem linesFor_other (other : ∀ fields, Json.Value.read frame.data ≠ .ok (.object fields)) :
    linesFor channels filters frame = [] := by
  unfold linesFor
  split
  · next fields object => exact absurd object (other fields)
  · rfl

theorem linesFor_of_not_mem (unnamed : frame.event ∉ channels) :
    linesFor channels filters frame = [] := by
  by_cases object : ∃ fields, Json.Value.read frame.data = .ok (.object fields)
  · obtain ⟨fields, object⟩ := object
    rw [linesFor_object object, List.count_eq_zero.mpr unnamed, List.replicate_zero, ite_self]
  · exact linesFor_other (not_exists.mp object)

/-- Every line is the compact text of the payload, on one line. -/
theorem mem_linesFor (member : line ∈ linesFor channels filters frame) :
    ∃ fields, Json.Value.read frame.data = .ok (.object fields) ∧
      line = (Json.Value.object fields).text ∧ '\n' ∉ line.toList := by
  unfold linesFor at member
  split at member
  · next fields object =>
    have same : line = (Json.Value.object fields).text := by
      split at member
      · exact List.eq_of_mem_replicate member
      · contradiction
    exact ⟨fields, object, same, same ▸ Json.Value.newline_not_mem_text _⟩
  · contradiction

end lines

/-! ## the subscriptions of a listener -/

variable {o : Options}

theorem Options.filter?_getD (o : Options) :
    o.filter?.getD [] = Json.Fields.ofList (o.filters.map (fun f => (f.1, .string f.2))) := by
  unfold filter?
  cases o.filters <;> rfl

/-- The last filter with a key tells what is expected under it. -/
theorem Options.get?_filter? (o : Options) (key : String) :
    Json.Fields.get? (o.filter?.getD []) key = (o.filters.reverse.lookup key).map .string := by
  rw [filter?_getD, Json.Fields.get?_ofList, ← List.map_reverse]
  induction o.filters.reverse with
  | nil => rfl
  | cons f rest ih =>
    rw [List.map_cons, Json.Fields.get?_cons, ih, List.lookup_cons]
    by_cases same : key = f.1
    · simp [same]
    · have apart : (key == f.1) = false := by simpa using same
      simp [same, apart]

/-- The subscription of a listener to a channel. -/
def Options.subscription (o : Options) (channel : String) : Subscription :=
  ⟨SubscriptionConfig.ofChannel channel o.filter?, Listener.printer⟩

/-- What a subscription of the listener expects under a key. -/
theorem Options.mem_subscription {key : String} {v : Json.Value} :
    (key, v) ∈ (o.subscription channel).config.fields ↔
      (if key = channelField then some (.string channel)
        else (o.filters.reverse.lookup key).map .string) = some v := by
  have sorted : Json.Fields.Sorted (o.subscription channel).config.fields :=
    Json.Fields.Sorted.insert (o.filter?_getD ▸ Json.Fields.sorted_ofList _) _ _
  rw [← sorted.get?_eq_some_iff, ← o.get?_filter?]
  exact Iff.of_eq (congrArg (· = some v) (Json.Fields.get?_insert _ _ _ _))

/-- A subscription of the listener wants the events that answer its channel. -/
theorem Options.wants_iff {e : Event} :
    (o.subscription channel).Wants name e ↔ channel = name ∧ e.Answers name o.filters := by
  have config : (o.subscription channel).config.channel? = some channel :=
    SubscriptionConfig.channel?_ofChannel _ _
  constructor
  · rintro ⟨on, has⟩
    obtain rfl : channel = name := Option.some.inj (config.symm.trans on)
    refine ⟨rfl, has (_, _) (mem_subscription.mpr (if_pos rfl)), fun f _ last apart => ?_⟩
    exact has (f.1, .string f.2) (mem_subscription.mpr (by rw [if_neg apart, last]; rfl))
  · rintro ⟨rfl, named, has⟩
    refine ⟨config, fun field member => ?_⟩
    have found := mem_subscription.mp member
    split at found
    · next reserved =>
      rw [reserved, ← Option.some.inj found]
      exact named
    · next apart =>
      obtain ⟨value, last, same⟩ := Option.map_eq_some_iff.mp found
      obtain ⟨before, after, split, -⟩ := List.lookup_eq_some_iff.mp last
      have there : (field.1, value) ∈ o.filters := by
        rw [← List.mem_reverse, split]
        simp
      rw [← same]
      exact has _ there last apart

/-- Of the subscriptions of a listener those want an event that are on its channel, if it answers
that. -/
theorem Options.filter_wants (o : Options) (channels : List String) (name : String) (e : Event) :
    channels.filter (fun channel => (o.subscription channel).Wants name e) =
      if e.Answers name o.filters then List.replicate (channels.count name) name else [] := by
  simp only [wants_iff]
  split_ifs with answers
  · simp only [answers, and_true]
    exact List.filter_eq name
  · simp [answers]

end CommandLine

end GatewayClient

import GatewayClient.Subscription.Request
import Mathlib.Data.Option.Basic

/-!
# GatewayClient.Proofs.Subscription.Requests

Arguments in any order make the request of the first of each kind. A draft is looked at kind by
kind (`Draft.part?`): an argument that is offered stays if there is none of its kind yet, a part
that is named replaces the one of its kind, and neither is of concern to another kind. So offering
arguments leaves the draft that is left when they are named from the last to the first:

```
offered   job, f, pipeline      job stays, and f
named     pipeline, f, job      job is the last, and f
```

The request, or what it lacks, is told by that draft (`Makes`, `Lacks`). An empty channel is a
channel: where it is the first one, the request lacks a channel, whatever comes behind it. Callers
only ever name a listener, but one that is offered would be treated like any other kind.
-/

namespace GatewayClient.SubscribeRequest

/-! ## kinds of arguments -/

/-- What an argument can be. -/
inductive Argument.Kind where
  | channel
  | filter
  | callback
  | onSubscribed
deriving DecidableEq

/-- The kind of an argument. -/
def Argument.kind : Argument → Argument.Kind
  | .channel _ => .channel
  | .filter _ => .filter
  | .callback _ => .callback
  | .onSubscribed _ => .onSubscribed

/-- The arguments of a kind, in their order. -/
def ofKind (kind : Argument.Kind) (arguments : List Argument) : List Argument :=
  arguments.filter (fun a => a.kind = kind)

/-- The first argument of a kind. -/
def first? (kind : Argument.Kind) (arguments : List Argument) : Option Argument :=
  (ofKind kind arguments).head?

section first

variable {kind : Argument.Kind}

@[simp] theorem first?_nil : first? kind [] = none := rfl

theorem first?_cons (a : Argument) (rest : List Argument) :
    first? kind (a :: rest) = (if a.kind = kind then some a else none).or (first? kind rest) := by
  by_cases own : a.kind = kind <;> simp [first?, ofKind, own]

theorem first?_concat (before : List Argument) (a : Argument) :
    first? kind (before ++ [a]) =
      (first? kind before).or (if a.kind = kind then some a else none) := by
  by_cases own : a.kind = kind <;> simp [first?, ofKind, own, List.head?_append]

end first

/-! ## the parts of a draft -/

namespace Draft

/-- The part of a kind. -/
def part? (d : Draft) : Argument.Kind → Option Argument
  | .channel => d.channel.map .channel
  | .filter => d.filter.map .filter
  | .callback => d.callback.map .callback
  | .onSubscribed => d.onSubscribed.map .onSubscribed

@[simp] theorem part?_empty (kind : Argument.Kind) : empty.part? kind = none := by
  cases kind <;> rfl

/-- A draft is known by its parts. -/
theorem ext_part? {d d' : Draft} (same : ∀ kind, d.part? kind = d'.part? kind) : d = d' := by
  have channel := Option.map_injective (fun _ _ => Argument.channel.inj) (same .channel)
  have filter := Option.map_injective (fun _ _ => Argument.filter.inj) (same .filter)
  have callback := Option.map_injective (fun _ _ => Argument.callback.inj) (same .callback)
  have listener := Option.map_injective (fun _ _ => Argument.onSubscribed.inj) (same .onSubscribed)
  cases d
  cases d'
  simp_all

/-- An argument that is offered stays if there is none of its kind. -/
theorem part?_offer (d : Draft) (a : Argument) (kind : Argument.Kind) :
    (d.offer a).part? kind = (d.part? kind).or (if a.kind = kind then some a else none) := by
  cases a <;> cases kind <;> simp [offer, part?, Argument.kind]

/-- A part that is named replaces the one of its kind. -/
theorem part?_set (d : Draft) (a : Argument) (kind : Argument.Kind) :
    (d.set a).part? kind = (if a.kind = kind then some a else none).or (d.part? kind) := by
  cases a <;> cases kind <;> simp [set, part?, Argument.kind]

/-- Offering arguments fills the kinds that were empty, each with the first of it. -/
theorem part?_foldl_offer (d : Draft) (arguments : List Argument) (kind : Argument.Kind) :
    (arguments.foldl offer d).part? kind = (d.part? kind).or (first? kind arguments) := by
  induction arguments generalizing d with
  | nil => simp
  | cons a rest ih => rw [List.foldl_cons, ih, part?_offer, Option.or_assoc, first?_cons]

/-- Naming parts leaves the last of each kind. -/
theorem part?_foldl_set (d : Draft) (parts : List Argument) (kind : Argument.Kind) :
    (parts.foldl set d).part? kind = (first? kind parts.reverse).or (d.part? kind) := by
  induction parts generalizing d with
  | nil => simp
  | cons a rest ih =>
    rw [List.foldl_cons, ih, part?_set, ← Option.or_assoc, List.reverse_cons, first?_concat]

theorem foldl_offer_eq_foldl_set (arguments : List Argument) :
    arguments.foldl offer empty = arguments.reverse.foldl set empty := by
  apply ext_part?
  intro kind
  rw [part?_foldl_offer, part?_foldl_set, List.reverse_reverse, part?_empty, Option.none_or,
    Option.or_none]

end Draft

/-! ## the request of a draft -/

/-- The parts, by their kinds, that a request is made of. -/
structure Makes (part? : Argument.Kind → Option Argument) (r : SubscribeRequest) : Prop where
  channel : part? .channel = some (.channel r.channel)
  named : r.channel ≠ ""
  callback : part? .callback = some (.callback r.callback)
  filter : part? .filter = r.filter.map .filter
  onSubscribed : part? .onSubscribed = r.onSubscribed.map .onSubscribed

/-- What parts lack for a request. A channel is asked for before a callback is. -/
inductive Lacks (part? : Argument.Kind → Option Argument) : ClientError → Prop where
  | channel (absent : part? .channel = none) : Lacks part? .missingChannel
  | name (unnamed : part? .channel = some (.channel "")) : Lacks part? .missingChannel
  | callback (name : String) (channel : part? .channel = some (.channel name)) (named : name ≠ "")
      (absent : part? .callback = none) : Lacks part? .missingCallback

/-- A draft makes the request of its parts. -/
theorem Draft.build_eq_ok_iff {d : Draft} {r : SubscribeRequest} :
    d.build = .ok r ↔ Makes d.part? r := by
  constructor
  · intro built
    unfold build at built
    split at built
    · contradiction
    · contradiction
    · next name callback channel called =>
      obtain ⟨channel, named⟩ := Option.filter_eq_some_iff.mp channel
      cases built
      exact ⟨by simp [part?, channel], by simpa using named, by simp [part?, called], rfl, rfl⟩
  · intro made
    have channel : d.channel = some r.channel := by simpa [part?] using made.channel
    have callback : d.callback = some r.callback := by simpa [part?] using made.callback
    have filter := Option.map_injective (fun _ _ => Argument.filter.inj) made.filter
    have listener := Option.map_injective (fun _ _ => Argument.onSubscribed.inj) made.onSubscribed
    simp [build, Option.filter, channel, made.named, callback, filter, listener]

/-- A draft is refused for what its parts lack. -/
theorem Draft.build_eq_error_iff {d : Draft} {e : ClientError} :
    d.build = .error e ↔ Lacks d.part? e := by
  constructor
  · intro refused
    unfold build at refused
    split at refused
    · next _ channel =>
      cases refused
      cases given : d.channel with
      | none => exact .channel (by simp [part?, given])
      | some name =>
        have unnamed : name = "" := by simpa [given] using channel
        exact .name (by simp [part?, given, unnamed])
    · next name channel called =>
      obtain ⟨channel, named⟩ := Option.filter_eq_some_iff.mp channel
      cases refused
      have given : d.part? .channel = some (.channel name) := by simp [part?, channel]
      exact .callback name given (by simpa using named) (by simp [part?, called])
    · contradiction
  · rintro (absent | unnamed | ⟨name, given, named, absent⟩)
    · have channel : d.channel = none := by simpa [part?] using absent
      simp [build, channel]
    · have channel : d.channel = some "" := by simpa [part?] using unnamed
      simp [build, Option.filter, channel]
    · have channel : d.channel = some name := by simpa [part?] using given
      have callback : d.callback = none := by simpa [part?] using absent
      simp [build, Option.filter, channel, named, callback]

/-! ## arguments in any order -/

/-- The draft of arguments holds the first of each kind. -/
theorem part?_arguments (arguments : List Argument) :
    (arguments.foldl Draft.offer Draft.empty).part? = (first? · arguments) := by
  funext kind
  rw [Draft.part?_foldl_offer, Draft.part?_empty, Option.none_or]

/-- Arguments with the same first of each kind make the same request. -/
theorem ofArguments_congr {arguments other : List Argument}
    (same : ∀ kind, first? kind other = first? kind arguments) :
    ofArguments other = ofArguments arguments := by
  have alike : other.foldl Draft.offer Draft.empty = arguments.foldl Draft.offer Draft.empty := by
    apply Draft.ext_part?
    simpa only [part?_arguments] using same
  rw [ofArguments, ofArguments, alike]

/-- **The first of each kind counts**: arguments in any order make the request that the same
arguments make as parts that are named from the last to the first, or are refused alike. What they
make and what they lack is told by the first argument of each kind, so arguments with the same
first ones make the same, and so do those that differ in their order only between kinds. An empty
channel that is the first one is refused, whatever comes behind it. -/
theorem first_of_each_kind_counts (arguments : List Argument) :
    ofArguments arguments = ofParts arguments.reverse ∧
    (∀ r, ofArguments arguments = .ok r ↔ Makes (first? · arguments) r) ∧
    (∀ e, ofArguments arguments = .error e ↔ Lacks (first? · arguments) e) ∧
    (∀ other, (∀ kind, first? kind other = first? kind arguments) →
      ofArguments other = ofArguments arguments) ∧
    (∀ other, (∀ kind, ofKind kind other = ofKind kind arguments) →
      ofArguments other = ofArguments arguments) ∧
    (first? .channel arguments = some (.channel "") →
      ofArguments arguments = .error .missingChannel) := by
  have made (r : SubscribeRequest) :
      ofArguments arguments = .ok r ↔ Makes (first? · arguments) r := by
    rw [ofArguments, Draft.build_eq_ok_iff, part?_arguments]
  have refused (e : ClientError) :
      ofArguments arguments = .error e ↔ Lacks (first? · arguments) e := by
    rw [ofArguments, Draft.build_eq_error_iff, part?_arguments]
  refine ⟨?reversed, made, refused, fun other => ofArguments_congr, fun other same => ?reordered,
    fun unnamed => (refused _).mpr (.name unnamed)⟩
  case reversed => rw [ofArguments, ofParts, Draft.foldl_offer_eq_foldl_set]
  case reordered =>
    apply ofArguments_congr
    intro kind
    rw [first?, first?, same kind]

/-- A callback, a channel without a name, and one with a name. -/
def namelessArguments : List Argument := [.callback ⟨"print"⟩, .channel "", .channel "job"]

/-- They are refused, without the channel that has a name too, and with the callback behind the
channels. -/
theorem first_of_each_kind_counts_nameless :
    (first? .channel namelessArguments = some (.channel "") ∧
      ofArguments namelessArguments = .error .missingChannel) ∧
    ((∀ kind, first? kind [.callback ⟨"print"⟩, .channel ""] = first? kind namelessArguments) ∧
      ofArguments [.callback ⟨"print"⟩, .channel ""] = ofArguments namelessArguments) ∧
    ((∀ kind, ofKind kind [.channel "", .channel "job", .callback ⟨"print"⟩] =
        ofKind kind namelessArguments) ∧
      ofArguments [.channel "", .channel "job", .callback ⟨"print"⟩] =
        ofArguments namelessArguments) := by
  obtain ⟨-, -, -, first, order, empty⟩ := first_of_each_kind_counts namelessArguments
  have alike : ∀ kind, first? kind [.callback ⟨"print"⟩, .channel ""] =
      first? kind namelessArguments := by
    intro kind
    cases kind <;> rfl
  have reordered : ∀ kind, ofKind kind [.channel "", .channel "job", .callback ⟨"print"⟩] =
      ofKind kind namelessArguments := by
    intro kind
    cases kind <;> rfl
  exact ⟨⟨rfl, empty rfl⟩, ⟨alike, first _ alike⟩, ⟨reordered, order _ reordered⟩⟩

end GatewayClient.SubscribeRequest

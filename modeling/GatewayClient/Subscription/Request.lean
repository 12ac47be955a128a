import GatewayClient.Callback
import GatewayClient.Error
import GatewayClient.Filter

/-!
# GatewayClient.Subscription.Request

Requests to subscribe. A request is put together from parts, either by naming each part, where
the last of a kind counts, or from arguments in any order, where the first of a kind counts.
-/

namespace GatewayClient

/-- A request to call back with the events of a channel that satisfy a filter. -/
structure SubscribeRequest where
  channel : String
  filter : Option Filter
  callback : Callback
  onSubscribed : Option AckListener

namespace SubscribeRequest

/-- The parts of a request that are known so far. -/
structure Draft where
  channel : Option String
  filter : Option Filter
  callback : Option Callback
  onSubscribed : Option AckListener

namespace Draft

/-- The draft without any part. -/
def empty : Draft := ⟨none, none, none, none⟩

/-- The request that a draft makes. A channel that is missing or empty is refused before a
missing callback is. -/
def build (d : Draft) : Except ClientError SubscribeRequest :=
  match d.channel.filter (fun c => !c.isEmpty), d.callback with
  | none, _ => .error .missingChannel
  | some _, none => .error .missingCallback
  | some channel, some callback =>
    .ok { channel, filter := d.filter, callback, onSubscribed := d.onSubscribed }

end Draft

/-- One part, named or given as an argument. A listener only comes as a part that is named:
callers who give arguments in any order have none to give. -/
inductive Argument where
  | channel (name : String)
  | filter (f : Filter)
  | callback (c : Callback)
  | onSubscribed (l : AckListener)

/-- Names a part: it replaces one of its kind that was named before. -/
def Draft.set (d : Draft) : Argument → Draft
  | .channel name => { d with channel := some name }
  | .filter f => { d with filter := some f }
  | .callback c => { d with callback := some c }
  | .onSubscribed l => { d with onSubscribed := some l }

/-- Takes a part unless there is one of its kind. A listener is taken by the same rule, though
no caller gives one in this way. -/
def Draft.offer (d : Draft) : Argument → Draft
  | .channel name => { d with channel := d.channel.or (some name) }
  | .filter f => { d with filter := d.filter.or (some f) }
  | .callback c => { d with callback := d.callback.or (some c) }
  | .onSubscribed l => { d with onSubscribed := d.onSubscribed.or (some l) }

/-- The request whose parts are named one after the other. -/
def ofParts (parts : List Argument) : Except ClientError SubscribeRequest :=
  (parts.foldl Draft.set Draft.empty).build

/-- The request that arguments in any order make. Callers give channels, filters and
callbacks. -/
def ofArguments (arguments : List Argument) : Except ClientError SubscribeRequest :=
  (arguments.foldl Draft.offer Draft.empty).build

/-- The request in diagnostics, with its callback shown by an address. -/
def inspect (r : SubscribeRequest) (address : String) : String :=
  "SubscribeRequest \x7b channel: " ++ Text.quoted r.channel ++
  ", filter: " ++ (match r.filter with
    | none => "None"
    | some f => "Some(" ++ Json.Fields.inspect f ++ ")") ++
  ", callback: EventCallback(" ++ address ++ "), on_subscribed: " ++
  (if r.onSubscribed.isSome then "true" else "false") ++ " \x7d"

end SubscribeRequest

end GatewayClient

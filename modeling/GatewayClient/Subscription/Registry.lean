import GatewayClient.Callback
import GatewayClient.Filter

/-!
# GatewayClient.Subscription.Registry

The live subscriptions of a connection, and the channels that have a listener on the push
stream. A listener is claimed once for each channel; one that is claimed before there is a
stream waits in a queue for it.
-/

namespace GatewayClient

/-- A config together with the callback for the events that satisfy it. -/
structure Subscription where
  config : SubscriptionConfig
  callback : Callback
deriving DecidableEq

/-- The subscriptions in the order of their calls, the channels with a listener in the order
in which they were claimed, and the listeners that wait for a stream. -/
structure Registry where
  subscriptions : List Subscription
  listeners : List String
  queue : List String
deriving DecidableEq

/-- What a frame leads to: the number of subscriptions on its channel, and the calls for those
that it satisfies. -/
structure Deliveries where
  candidates : Nat
  matched : List (Callback × Event)

namespace Registry

/-- The registry without subscriptions. -/
def empty : Registry := ⟨[], [], []⟩

/-- Adds a subscription, and gives its config. -/
def add (r : Registry) (channel : String) (filter : Option Filter) (callback : Callback) :
    Registry × SubscriptionConfig :=
  let config := SubscriptionConfig.ofChannel channel filter
  ({ r with subscriptions := r.subscriptions ++ [⟨config, callback⟩] }, config)

/-- Removes every subscription of a callback, and gives their configs. -/
def remove (r : Registry) (callback : Callback) : Registry × List SubscriptionConfig :=
  let (removed, kept) := r.subscriptions.partition (fun s => s.callback == callback)
  ({ r with subscriptions := kept }, removed.map Subscription.config)

/-- The subscriptions on a channel. -/
def onChannel (r : Registry) (channel : String) : List Subscription :=
  r.subscriptions.filter (fun s => s.config.channel? == some channel)

/-- Whether a channel has a listener. -/
def hasListener (r : Registry) (channel : String) : Bool := r.listeners.contains channel

/-- Claims the listener of a channel, and says whether it was free. -/
def claimListener (r : Registry) (channel : String) : Registry × Bool :=
  if r.hasListener channel then (r, false)
  else ({ r with listeners := r.listeners ++ [channel] }, true)

/-- Lets a listener wait for a stream. -/
def queueListener (r : Registry) (channel : String) : Registry :=
  { r with queue := r.queue ++ [channel] }

/-- Takes the listeners that wait for a stream. -/
def takeQueue (r : Registry) : Registry × List String := ({ r with queue := [] }, r.queue)

/-- Gives up all listeners, and names their channels. -/
def drainListeners (r : Registry) : Registry × List String :=
  ({ r with listeners := [] }, r.listeners)

/-- What a frame on a channel leads to. Its payload is not looked at if there is no
subscription on the channel. -/
def deliveries (r : Registry) (channel data : String) : Except PayloadError Deliveries :=
  match r.onChannel channel with
  | [] => .ok ⟨0, []⟩
  | candidates => do
    let e ← Event.read data
    return ⟨candidates.length,
      (candidates.filter (fun s => e.satisfies s.config)).map (fun s => (s.callback, e))⟩

end Registry

end GatewayClient

import GatewayClient.Connection.Basic
import GatewayClient.Subscription.Request

/-!
# GatewayClient.Connection.Subscribing

Subscribing and unsubscribing. Both change the registry at once, queue the change for the
gateway, and put off the flush that sends it.
-/

namespace GatewayClient.Connection

/-- Makes sure that a channel has a listener: attached to the open push stream, or else waiting
for one. -/
def listenOn (c : Connection) (channel : String) : Connection :=
  match c.registry.claimListener channel with
  | (_, false) => c
  | (registry, true) =>
    match c.stream with
    | some stream => { c with registry, stream := some (stream.attach channel) }
    | none => { c with registry := registry.queueListener channel }

/-- Adds a listener, if there is one, to the current batch. -/
def awaitAck (c : Connection) (listener : Option AckListener) : Except ClientError Connection :=
  match listener with
  | none => .ok c
  | some l => (c.batcher.addListener l).map (fun batcher => { c with batcher })

/-- The command to log that a listener was refused. -/
def refusedListener (c : Connection) (e : ClientError) : Command :=
  c.log .error "cannot register ack listener" [("error", .text e.message)]

/-- Subscribes a callback to a channel. -/
def subscribe (c : Connection) (request : SubscribeRequest) :
    Connection × List Command × Except ClientError Unit :=
  if request.channel.isEmpty then
    (c, [c.log .error "subscribe called without a channel name" []], .error .missingChannel)
  else
    let (c, cancelled) := c.cancelFlush
    let (registry, config) := c.registry.add request.channel request.filter request.callback
    let c := { c with registry, batcher := c.batcher.queueSubscribe config }
    let (c, armed) := (c.listenOn request.channel).scheduleFlush c.settings.batchDelay
    match c.awaitAck request.onSubscribed with
    | .error e => (c, cancelled ++ armed ++ [c.refusedListener e], .error e)
    | .ok c =>
      (c, cancelled ++ armed ++
        [c.log .debug "subscription queued" [("channel", .text request.channel)]], .ok ())

/-- Ends every subscription of a callback. -/
def unsubscribe (c : Connection) (callback : Callback) (onUnsubscribed : Option AckListener) :
    Connection × List Command × Except ClientError Unit :=
  let (c, cancelled) := c.cancelFlush
  let (registry, removed) := c.registry.remove callback
  let queued := c.log .debug "unsubscribe queued" [("removed", .number removed.length)]
  let c := { c with registry, batcher := removed.foldl Batcher.queueUnsubscribe c.batcher }
  let (c, armed) := c.scheduleFlush c.settings.batchDelay
  match c.awaitAck onUnsubscribed with
  | .error e => (c, cancelled ++ [queued] ++ armed ++ [c.refusedListener e], .error e)
  | .ok c => (c, cancelled ++ [queued] ++ armed, .ok ())

end GatewayClient.Connection

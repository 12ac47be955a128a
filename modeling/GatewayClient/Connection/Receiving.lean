import GatewayClient.Configuration
import GatewayClient.Connection.Basic
import GatewayClient.EventStream

/-!
# GatewayClient.Connection.Receiving

Frames of the push stream. Three frame names are reserved for the gateway itself: one announces
the session, one acknowledges a batch, one asks for a reload. Every other name is a channel.
-/

namespace GatewayClient.Connection

open EventStream (Frame)

/-- The name of frames that announce the session. -/
def openFrame : String := "open"

/-- The name of frames that acknowledge a batch. -/
def configureFrame : String := "configure"

/-- The name of frames that ask for a reload. -/
def reloadFrame : String := "reload"

/-- The log field that tells why a payload was refused. -/
def refusal (e : PayloadError) : String × Log.Datum := ("error", .text e.message)

/-- Takes over the announced session. Changes that wait are flushed at once, and the hook is
called the first time. -/
def receiveSession (c : Connection) (session : Session) : Connection × List Command :=
  let established := c.log .debug "gateway session established"
    [("dispatcher_id", .text (Text.quotedOption session.dispatcherId))]
  let calls := c.hook.toList.map (fun hook => .call (.session hook session))
  let c := { c with session := some session, hook := none }
  let (c, armed) := if c.batcher.hasPending then c.scheduleFlush 0 else (c, [])
  (c, established :: armed ++ calls)

/-- Receives a frame that announces the session. -/
def receiveOpen (c : Connection) (data : String) : Connection × List Command :=
  if Text.isAllBlank data then (c, [c.log .debug "open frame without session info" []])
  else match Session.read data with
    | .error e => (c, [c.log .warn "malformed open frame" [refusal (.json e)]])
    | .ok session => c.receiveSession session

/-- Receives a frame that acknowledges a batch: its listeners are called. -/
def receiveAck (c : Connection) (data : String) : Connection × List Command :=
  match Acknowledgment.read data with
  | .error e => (c, [c.log .warn "malformed configure frame" [refusal (.json e)]])
  | .ok ack =>
    let (batcher, listeners) := c.batcher.acknowledge ack.batchId.toNat
    ({ c with batcher },
      c.log .debug "configuration batch acknowledged"
          [ ("batch_id", .number ack.batchId.toNat), ("listeners", .number listeners.length) ] ::
        listeners.map (fun l => .call (.acknowledged l)))

/-- Receives a frame on a channel: the callbacks of the subscriptions that it satisfies are
called. The state does not change. -/
def receiveEvent (c : Connection) (channel data : String) : List Command :=
  if !c.isAttached channel then
    [c.log .debug "frame for channel without listener" [("channel", .text channel)]]
  else
    let received := match Event.read data with
      | .error _ => []
      | .ok e =>
        let entry := c.entry .debug "received event"
          [ ("channel", .text (Text.quotedOption e.channel?)),
            ("event", .text (Text.quotedOption e.kind?)) ]
        [.log { entry with inDetail := true }]
    received ++
      match c.registry.deliveries channel data with
      | .error e =>
        [c.log .warn "malformed channel frame" [("channel", .text channel), refusal e]]
      | .ok ⟨candidates, []⟩ =>
        [c.log .debug ("event not processed by any active subscription; " ++
            "check the event payload against the subscription filters")
          [("channel", .text channel), ("subscriptions", .number candidates)]]
      | .ok ⟨_, matched⟩ => matched.map (fun (callback, e) => .call (.event callback e))

/-- Receives a frame. -/
def receive (c : Connection) (frame : Frame) : Connection × List Command :=
  if frame.event = openFrame then c.receiveOpen frame.data
  else if frame.event = configureFrame then c.receiveAck frame.data
  else if frame.event = reloadFrame then
    (c, [c.log .info "gateway requested a page reload" [], .reload])
  else (c, c.receiveEvent frame.event frame.data)

/-- The push stream has come to its end. -/
def streamEnded (c : Connection) : List Command :=
  [c.log .warn "push stream closed by gateway" []]

end GatewayClient.Connection

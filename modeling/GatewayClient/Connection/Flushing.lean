import GatewayClient.Connection.Basic
import GatewayClient.Endpoint

/-!
# GatewayClient.Connection.Flushing

Sending configuration changes. A flush takes the current batch and puts it into the outbox; it
needs the session, and waits for it as long as the transport can push. From the outbox the
batches are posted one after the other.
-/

namespace GatewayClient.Connection

/-- Puts a batch into the outbox. -/
def handOver (c : Connection) (batch : OutgoingBatch) : Connection × List Command :=
  match c.outbox.put? batch with
  | some outbox => ({ c with outbox }, [.wakeSender])
  | none =>
    (c, [c.log .error "configuration sender stopped; batch dropped"
      [("batch_id", .number batch.batchId)]])

/-- Sends the pending changes for a session to a server. -/
def sendPending (c : Connection) (session : Session) (server : String) :
    Connection × List Command :=
  match c.batcher.take? session.dispatcherId with
  | none => (c, [c.log .debug "no configuration changes to send" []])
  | some (batcher, taken) =>
    let sending := c.log .debug "sending configuration batch"
      [ ("batch_id", .number taken.batchId),
        ("subscribe", .number taken.request.subscribe.length),
        ("unsubscribe", .number taken.request.unsubscribe.length) ]
    let (c, commands) := { c with batcher }.handOver
      { batchId := taken.batchId
        url := Endpoint.configureUrl server taken.batchId
        request := taken.request
        session }
    (c, sending :: commands)

/-- Runs a flush that was armed under a generation. `pushes` says whether the transport can
push at this moment. -/
def flush (c : Connection) (generation : UInt64) (pushes : Bool) : Connection × List Command :=
  match c.timer.fire? generation with
  | none => (c, [c.log .debug "flush superseded by a newer schedule" []])
  | some timer =>
    let c := { c with timer }
    match c.session, c.serverUrl with
    | none, _ =>
      if pushes then
        let waiting := c.log .debug "session not established yet; retrying configuration flush" []
        let (c, armed) := c.scheduleFlush c.settings.sessionRetryDelay
        (c, waiting :: armed)
      else (c, [c.log .debug "no push stream; configuration kept locally" []])
    | some _, none => (c, [c.log .debug "no server URL; configuration kept locally" []])
    | some session, some server => c.sendPending session server

/-! ## the sender -/

/-- Begins to post the next batch of the outbox, if none is being posted. -/
def beginPost? (c : Connection) : Option (Connection × OutgoingBatch) :=
  c.outbox.next?.map (fun (outbox, batch) => ({ c with outbox }, batch))

/-- Ends the posting of a batch. -/
def endPost (c : Connection) (result : Except TransportError Unit) : Connection × List Command :=
  ({ c with outbox := c.outbox.finish },
    c.outbox.posting.toList.map (fun batch => .log (Outbox.resultEntry c.clientId batch result)))

/-- The sender is lost: no batch is posted any more. -/
def stopSender (c : Connection) : Connection := { c with outbox := c.outbox.stop }

end GatewayClient.Connection

import GatewayClient.Configuration.Batcher
import GatewayClient.Error
import GatewayClient.Log
import GatewayClient.Session

/-!
# GatewayClient.Configuration.Outbox

The batches of one connection on their way to the gateway. They are posted one at a time in
the order in which they were put in. A batch that is refused or lost is logged and not sent
again.
-/

namespace GatewayClient

/-- A batch that is ready to be posted, with the session whose credentials go with it. -/
structure OutgoingBatch where
  batchId : Nat
  url : String
  request : ConfigurationRequest
  session : Session
deriving DecidableEq

/-- The batches that wait, and the one that is being posted. A stopped outbox posts nothing
any more. -/
structure Outbox where
  waiting : List OutgoingBatch
  posting : Option OutgoingBatch
  stopped : Bool
deriving DecidableEq

namespace Outbox

/-- The outbox at the start. -/
def empty : Outbox := ⟨[], none, false⟩

/-- Puts a batch in, unless the outbox has stopped. -/
def put? (o : Outbox) (batch : OutgoingBatch) : Option Outbox :=
  if o.stopped then none else some { o with waiting := o.waiting ++ [batch] }

/-- Begins to post the next batch, if there is one and none is being posted. -/
def next? (o : Outbox) : Option (Outbox × OutgoingBatch) :=
  match o.posting, o.waiting with
  | none, batch :: rest =>
    if o.stopped then none else some ({ o with waiting := rest, posting := some batch }, batch)
  | _, _ => none

/-- Ends the posting of a batch. -/
def finish (o : Outbox) : Outbox := { o with posting := none }

/-- Stops for good: what waits is lost. -/
def stop (_ : Outbox) : Outbox := { waiting := [], posting := none, stopped := true }

/-- The log entry about a batch that was posted. -/
def resultEntry (id : ClientId) (batch : OutgoingBatch) : Except TransportError Unit → Log.Entry
  | .ok () => entry .debug "configuration batch delivered" []
  | .error (.status code body) =>
    entry .error "gateway rejected configuration batch"
      [("status", .number code), ("body", .text body)]
  | .error e => entry .error "configuration request failed" [("error", .text e.message)]
where
  /-- An entry about the batch. -/
  entry (level : Log.Level) (message : String) (more : List (String × Log.Datum)) : Log.Entry :=
    { level, component := .connection, message
      fields := [("client_id", .text id.name), ("batch_id", .number batch.batchId)] ++ more }

end Outbox

end GatewayClient

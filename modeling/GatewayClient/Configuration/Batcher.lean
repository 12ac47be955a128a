import GatewayClient.Callback
import GatewayClient.Configuration
import GatewayClient.Error

/-!
# GatewayClient.Configuration.Batcher

Gathering of configuration changes. Changes wait in the current batch until a flush takes it,
which opens the next one. Each batch that has not been acknowledged has a slot of listeners;
a listener that comes after the flush waits for the next batch.
-/

namespace GatewayClient

/-- The listeners that wait for the acknowledgment of a batch. -/
structure AckSlot where
  batchId : Nat
  listeners : List AckListener
deriving DecidableEq

/-- The current batch with its changes, and the slots of the batches that were not
acknowledged, in the order of their ids. Ids of batches are natural numbers and never come
round: fewer than `2 ^ 64` batches of one connection are assumed, and every id fits the 64 bits
in which it is sent and acknowledged. -/
structure Batcher where
  batchId : Nat
  subscribe : List SubscriptionConfig
  unsubscribe : List SubscriptionConfig
  slots : List AckSlot
deriving DecidableEq

/-- A batch that was taken. -/
structure TakenBatch where
  batchId : Nat
  request : ConfigurationRequest
deriving DecidableEq

namespace Batcher

/-- The batcher at the start: batches count from one. -/
def start : Batcher := { batchId := 1, subscribe := [], unsubscribe := [], slots := [⟨1, []⟩] }

/-- Whether the current batch holds a change. -/
def hasPending (b : Batcher) : Bool := !b.subscribe.isEmpty || !b.unsubscribe.isEmpty

/-- Adds a subscription to the current batch. -/
def queueSubscribe (b : Batcher) (config : SubscriptionConfig) : Batcher :=
  { b with subscribe := b.subscribe ++ [config] }

/-- Adds the end of a subscription to the current batch. -/
def queueUnsubscribe (b : Batcher) (config : SubscriptionConfig) : Batcher :=
  { b with unsubscribe := b.unsubscribe ++ [config] }

/-- The slot of a batch. -/
def slot? (b : Batcher) (batchId : Nat) : Option AckSlot :=
  b.slots.find? (fun s => s.batchId == batchId)

/-- The number of listeners that wait for a batch. -/
def listenerCount (b : Batcher) (batchId : Nat) : Nat :=
  ((b.slot? batchId).map (fun s => s.listeners.length)).getD 0

/-- Adds a listener to the current batch. It is refused if that batch was acknowledged before
it was taken. -/
def addListener (b : Batcher) (listener : AckListener) : Except ClientError Batcher :=
  if (b.slot? b.batchId).isSome then
    .ok { b with slots := b.slots.map (fun s =>
      if s.batchId = b.batchId then { s with listeners := s.listeners ++ [listener] } else s) }
  else .error (.obsoleteBatch b.batchId)

/-- Opens the next batch. -/
def advance (b : Batcher) : Batcher :=
  { b with batchId := b.batchId + 1, slots := b.slots ++ [⟨b.batchId + 1, []⟩] }

/-- Takes the current batch for a dispatcher, if it holds a change. -/
def take? (b : Batcher) (dispatcherId : Option String) : Option (Batcher × TakenBatch) :=
  if b.hasPending then
    some (advance { b with subscribe := [], unsubscribe := [] },
      ⟨b.batchId, ⟨b.subscribe, b.unsubscribe, dispatcherId⟩⟩)
  else none

/-- Closes the slot of a batch, and gives the listeners that waited in it. -/
def acknowledge (b : Batcher) (batchId : Nat) : Batcher × List AckListener :=
  ({ b with slots := b.slots.filter (fun s => s.batchId != batchId) },
    ((b.slot? batchId).map AckSlot.listeners).getD [])

/-- The batcher in diagnostics. -/
def inspect (b : Batcher) : String :=
  "ConfigurationBatcher \x7b batch_id: " ++ Text.decimal b.batchId ++
  ", subscribe: " ++ Text.decimal b.subscribe.length ++
  ", unsubscribe: " ++ Text.decimal b.unsubscribe.length ++
  ", awaiting_ack: " ++ Text.decimal b.slots.length ++ " \x7d"

end Batcher

end GatewayClient

import GatewayClient.ClientId
import GatewayClient.Json.Decode

/-!
# GatewayClient.Error

How requests to the gateway fail, and the errors that calls of the client return. All but the
last of these are mistakes in the calls themselves; failures to send configuration are not
among them, they are only logged.
-/

namespace GatewayClient

/-- Why a request failed: it was answered with an error status, its answer could not be
decoded, or there was no answer at all. -/
inductive TransportError where
  | status (code : Nat) (body : String)
  | decode (e : Json.Error)
  | http

/-- The message of a failed request. What lies below a missing or unreadable answer is not
repeated in it. -/
def TransportError.message : TransportError → String
  | status code body => "server returned " ++ Text.decimal code ++ ": " ++ body
  | decode _ => "failed to decode response"
  | http => "HTTP request failed"

/-- Why a call was refused. -/
inductive ClientError where
  | missingChannel
  | missingCallback
  | alreadyConnected (id : ClientId)
  | obsoleteBatch (batchId : Nat)
  | transport (e : TransportError)

/-- The message of a refused call. -/
def ClientError.message : ClientError → String
  | missingChannel => "no channel name provided"
  | missingCallback => "no event callback provided"
  | alreadyConnected id =>
    "a connection for client id '" ++ id.name ++ "' already exists; disconnect it first"
  | obsoleteBatch batchId =>
    "ack listener registered for obsolete batch " ++ Text.decimal batchId
  | transport e => e.message

end GatewayClient

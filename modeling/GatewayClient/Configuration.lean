import GatewayClient.Filter
import GatewayClient.Session
import GatewayClient.Text.Basic

/-!
# GatewayClient.Configuration

The two messages by which subscriptions are configured: the request that carries a batch of
changes to the gateway, and the acknowledgment by which the gateway names the batch.
-/

namespace GatewayClient

open Json (Decoder)

/-- The body of a configuration request: what to subscribe and what to unsubscribe, in the
order of the calls, and the dispatcher that it concerns. -/
structure ConfigurationRequest where
  subscribe : List SubscriptionConfig
  unsubscribe : List SubscriptionConfig
  dispatcherId : Option String
deriving DecidableEq

namespace ConfigurationRequest

/-- The request without any change. -/
def empty : ConfigurationRequest := ⟨[], [], none⟩

/-- Whether the request carries no change. -/
def isEmpty (r : ConfigurationRequest) : Bool := r.subscribe.isEmpty && r.unsubscribe.isEmpty

/-- Decodes a request. -/
def decoder : Decoder ConfigurationRequest :=
  Decoder.record "ConfigurationRequest"
    [ Decoder.field "subscribe" (.list SubscriptionConfig.decoder)
        (fun cs r => { r with subscribe := cs }) [],
      Decoder.field "unsubscribe" (.list SubscriptionConfig.decoder)
        (fun cs r => { r with unsubscribe := cs }) [],
      Decoder.field "dispatcherId" (.nullable .string)
        (fun s r => { r with dispatcherId := s }) [] ]
    empty

/-- Reads the text of a request. -/
def read (text : String) : Except Json.Error ConfigurationRequest := Decoder.read decoder text

/-- The request as a JSON value, in the order in which its fields are written. -/
def toJson (r : ConfigurationRequest) : Json.Value :=
  .object ([ ("subscribe", .array (r.subscribe.map SubscriptionConfig.toJson)),
             ("unsubscribe", .array (r.unsubscribe.map SubscriptionConfig.toJson)) ] ++
    optionalText "dispatcherId" r.dispatcherId)

/-- The JSON text of the request. -/
def text (r : ConfigurationRequest) : String := r.toJson.text

end ConfigurationRequest

/-- The payload of a `configure` frame: the batch that the gateway has taken over. -/
structure Acknowledgment where
  batchId : UInt64
deriving DecidableEq

namespace Acknowledgment

/-- A batch id: a number, or a string that holds one among blanks. -/
def batchIdDecoder : Decoder UInt64 := fun context source => do
  match ← (source.toValue context.room).mapError .text with
  | .number (.natural n) => .ok n
  | .string s =>
    match Text.readUnsigned? (Text.trim s.toList) with
    | some n => .ok n
    | none => .error (.mismatch (.batchId s))
  | _ => .error (.mismatch (.noAlternative "NumberOrString"))

/-- Decodes an acknowledgment. -/
def decoder : Decoder Acknowledgment :=
  Decoder.record "ConfigureAck"
    [Decoder.requiredField "batchId" batchIdDecoder (fun n a => { a with batchId := n })]
    ⟨0⟩

/-- Reads the payload of a `configure` frame. -/
def read (data : String) : Except Json.Error Acknowledgment := Decoder.read decoder data

end Acknowledgment

end GatewayClient

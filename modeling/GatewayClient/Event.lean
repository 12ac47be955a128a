import GatewayClient.Filter

/-!
# GatewayClient.Event

Channel events: the payloads of the frames on a channel, decoded to their fields.
-/

namespace GatewayClient

/-- Why a frame's payload was refused. -/
inductive PayloadError where
  | json (e : Json.Error)
  | notAnObject

/-- The message of a refused payload. What the JSON reader found is not repeated in it. -/
def PayloadError.message : PayloadError → String
  | json _ => "invalid frame payload JSON"
  | notAnObject => "frame payload is not a JSON object"

/-- The fields of a channel event. -/
structure Event where
  fields : Json.Fields

namespace Event

/-- Reads an event from the payload of a frame, which has to be a JSON object. -/
def read (data : String) : Except PayloadError Event :=
  match Json.Value.read data with
  | .error f => .error (.json (.text f))
  | .ok (.object fields) => .ok ⟨fields⟩
  | .ok _ => .error .notAnObject

/-- A field of the event. -/
def get? (e : Event) (field : String) : Option Json.Value := Json.Fields.get? e.fields field

/-- The channel that the event names, if it is a string. -/
def channel? (e : Event) : Option String := (e.get? channelField).bind Json.Value.asString?

/-- The kind of the event, if it is a string. -/
def kind? (e : Event) : Option String := (e.get? kindField).bind Json.Value.asString?

/-- Whether the event satisfies a config. -/
def satisfies (e : Event) (config : SubscriptionConfig) : Bool := config.matchesFields e.fields

/-- The event with more fields set. -/
def insertAll (e : Event) (fields : Json.Fields) : Event :=
  ⟨Json.Fields.insertAll e.fields fields⟩

/-- Whether two events have the same fields, numbers compared as numbers. -/
def sameValue (e f : Event) : Bool := Json.Value.sameFields e.fields f.fields

/-- The JSON text of the event. -/
def text (e : Event) : String := (Json.Value.object e.fields).text

end Event

end GatewayClient

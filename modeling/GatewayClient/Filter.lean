import GatewayClient.Json.Decode

/-!
# GatewayClient.Filter

Subscription configs and the matching of events. A config is a filter together with the
channel, under a reserved field. An event satisfies a config when it has every field of it
with an equal match text: values are compared as texts and not by their types, because the
gateway relays events as strings while callers may write numbers or truth values.
-/

namespace GatewayClient

/-- The reserved field that names the channel. -/
def channelField : String := "jenkins_channel"

/-- The field that names the kind of an event. -/
def kindField : String := "jenkins_event"

/-- Expected values by field. -/
abbrev Filter := Json.Fields

/-- The text by which a value is compared: the content of a string, the compact JSON text
of anything else. -/
def Json.Value.matchText : Json.Value → String
  | .string s => s
  | v => v.text

/-- Whether an event has every field of a filter with an equal match text. The empty filter
is satisfied by every event. -/
def Filter.containedIn (filter : Filter) (event : Json.Fields) : Bool :=
  filter.all (fun (key, expected) =>
    (Json.Fields.get? event key).any (fun actual => actual.matchText == expected.matchText))

/-- A filter together with its channel, as sent to the gateway and matched here. -/
structure SubscriptionConfig where
  fields : Json.Fields
deriving DecidableEq

namespace SubscriptionConfig

/-- The config without any field. -/
def empty : SubscriptionConfig := ⟨[]⟩

/-- The config of a channel, narrowed by a filter. The channel replaces a field of the
filter with the reserved name. -/
def ofChannel (channel : String) (filter : Option Filter) : SubscriptionConfig :=
  ⟨Json.Fields.insert channelField (.string channel) (filter.getD [])⟩

/-- The channel, if its field is a string. -/
def channel? (c : SubscriptionConfig) : Option String :=
  (Json.Fields.get? c.fields channelField).bind Json.Value.asString?

/-- Whether an event satisfies the config. -/
def matchesFields (c : SubscriptionConfig) (event : Json.Fields) : Bool :=
  Filter.containedIn c.fields event

/-- The config as a JSON value. -/
def toJson (c : SubscriptionConfig) : Json.Value := .object c.fields

/-- The JSON text of the config. -/
def text (c : SubscriptionConfig) : String := c.toJson.text

/-- Decodes a config: an object of any fields. -/
def decoder : Json.Decoder SubscriptionConfig := fun context source =>
  (Json.Decoder.fields context source).map SubscriptionConfig.mk

/-- A config made for a channel has that channel. -/
@[simp] theorem channel?_ofChannel (channel : String) (filter : Option Filter) :
    (ofChannel channel filter).channel? = some channel := by
  simp [ofChannel, channel?, Json.Value.asString?]

end SubscriptionConfig

end GatewayClient

import GatewayClient.Json.Decode
import GatewayClient.Session

/-!
# GatewayClient.Settings.Basic

The settings of a client, and patches that change some of them.
-/

namespace GatewayClient

open Json (Decoder)

/-- The settings that connections take over from their manager. Times are in
milliseconds. -/
structure Settings where
  /-- How long configuration changes are gathered before they are sent. -/
  batchDelay : UInt64
  /-- Whether the session id of the connect answer is appended to the listen URL. -/
  sendSessionId : Bool
  /-- The base URL of the gateway. -/
  serverUrl : Option String
  /-- How long a flush waits for the session before it tries again. -/
  sessionRetryDelay : UInt64
  /-- How long a dropped push stream waits before it is opened again. -/
  reconnectDelay : UInt64
  /-- How long a control request may take. -/
  requestTimeout : UInt64
deriving DecidableEq

/-- Why settings were refused. -/
inductive SettingsError where
  | directory
  | notText
  | json (e : Json.Error)
  | invalid (reason : String)

/-- The message of refused settings. What the file system or the JSON reader found is not
repeated in it. -/
def SettingsError.message : SettingsError → String
  | directory => "failed to read settings file"
  | notText => "failed to read settings file"
  | json _ => "failed to parse settings JSON"
  | invalid reason => "invalid settings value: " ++ reason

namespace Settings

/-- The settings where nothing else is said. -/
def default : Settings :=
  { batchDelay := 100
    sendSessionId := false
    serverUrl := none
    sessionRetryDelay := 100
    reconnectDelay := 3000
    requestTimeout := 30000 }

/-- The preset for hosts without a browser: batches leave at once and session ids are
passed on. -/
def headless : Settings := { default with batchDelay := 0, sendSessionId := true }

/-- Refuses settings that would make the client stall. -/
def validate (s : Settings) : Except SettingsError Unit :=
  if s.sessionRetryDelay = 0 then .error (.invalid "sessionRetryDelayMs must be positive")
  else if s.requestTimeout = 0 then .error (.invalid "requestTimeoutMs must be positive")
  else .ok ()

/-- The fields of settings as a record. -/
def recordFields : List (Decoder.Field Settings) :=
  [ Decoder.field "batchConfigDelayMs" .unsigned (fun n s => { s with batchDelay := n }) [],
    Decoder.field "sendSessionId" .bool (fun b s => { s with sendSessionId := b }) [],
    Decoder.field "serverUrl" (.nullable .string) (fun u s => { s with serverUrl := u }) [],
    Decoder.field "sessionRetryDelayMs" .unsigned (fun n s => { s with sessionRetryDelay := n }) [],
    Decoder.field "reconnectDelayMs" .unsigned (fun n s => { s with reconnectDelay := n }) [],
    Decoder.field "requestTimeoutMs" .unsigned (fun n s => { s with requestTimeout := n }) [] ]

/-- Decodes settings; a field that is not given has its default. -/
def decoder : Decoder Settings := Decoder.record "ClientSettings" recordFields default

/-- Reads settings from their text, without checking them. -/
def read (text : String) : Except Json.Error Settings := Decoder.read decoder text

/-- A number of milliseconds as a JSON value. -/
def millis (n : UInt64) : Json.Value := .number (.natural n)

/-- The settings as a JSON value, in the order in which they are written. -/
def toJson (s : Settings) : Json.Value :=
  .object
    ([("batchConfigDelayMs", millis s.batchDelay), ("sendSessionId", .bool s.sendSessionId)] ++
      optionalText "serverUrl" s.serverUrl ++
      [ ("sessionRetryDelayMs", millis s.sessionRetryDelay),
        ("reconnectDelayMs", millis s.reconnectDelay),
        ("requestTimeoutMs", millis s.requestTimeout) ])

/-- The JSON text of the settings. -/
def text (s : Settings) : String := s.toJson.text

/-- The settings in diagnostics. -/
def inspect (s : Settings) : String :=
  "ClientSettings \x7b batch_config_delay_ms: " ++ Text.decimal s.batchDelay.toNat ++
  ", send_session_id: " ++ (if s.sendSessionId then "true" else "false") ++
  ", server_url: " ++ Text.quotedOption s.serverUrl ++
  ", session_retry_delay_ms: " ++ Text.decimal s.sessionRetryDelay.toNat ++
  ", reconnect_delay_ms: " ++ Text.decimal s.reconnectDelay.toNat ++
  ", request_timeout_ms: " ++ Text.decimal s.requestTimeout.toNat ++ " \x7d"

end Settings

/-! ## patches -/

/-- New values for some of the settings. -/
structure SettingsPatch where
  batchDelay : Option UInt64
  sendSessionId : Option Bool
  serverUrl : Option String
deriving DecidableEq

namespace SettingsPatch

/-- The patch that changes nothing. -/
def empty : SettingsPatch := ⟨none, none, none⟩

/-- Decodes a patch. -/
def decoder : Decoder SettingsPatch :=
  Decoder.record "SettingsPatch"
    [ Decoder.field "batchConfigDelayMs" (.nullable .unsigned)
        (fun n p => { p with batchDelay := n }) ["batchConfigDelay"],
      Decoder.field "sendSessionId" (.nullable .bool) (fun b p => { p with sendSessionId := b }) [],
      Decoder.field "serverUrl" (.nullable .string) (fun u p => { p with serverUrl := u }) [] ]
    empty

/-- Reads a patch from its text. -/
def read (text : String) : Except Json.Error SettingsPatch := Decoder.read decoder text

/-- The patch as a JSON value. -/
def toJson (p : SettingsPatch) : Json.Value :=
  .object
    (p.batchDelay.elim [] (fun n => [("batchConfigDelayMs", Settings.millis n)]) ++
      p.sendSessionId.elim [] (fun b => [("sendSessionId", .bool b)]) ++
      optionalText "serverUrl" p.serverUrl)

end SettingsPatch

/-- The settings with the values of a patch. -/
def Settings.apply (s : Settings) (p : SettingsPatch) : Settings :=
  { s with
    batchDelay := p.batchDelay.getD s.batchDelay
    sendSessionId := p.sendSessionId.getD s.sendSessionId
    serverUrl := p.serverUrl.or s.serverUrl }

end GatewayClient

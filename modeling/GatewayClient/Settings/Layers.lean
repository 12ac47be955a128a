import GatewayClient.Log
import GatewayClient.Settings.Basic
import GatewayClient.Text.Basic
import GatewayClient.Text.Utf8

/-!
# GatewayClient.Settings.Layers

Where settings come from: compiled defaults, under the values of a settings file, under the
values of environment variables. A file is merged into the defaults object by object; a
variable with an invalid value is passed over with a warning.
-/

namespace GatewayClient

open Json (Value Fields)

/-! ## merging -/

namespace Json

mutual

/-- Merges two values. Fields of objects are merged one by one, where a `null` of the source
leaves the target as it is; in any other case the source replaces the target. -/
def Value.merge (target : Value) : (source : Value) → Value
  | .object fs =>
    match target with
    | .object ts => .object (Value.mergeFields ts fs)
    | _ => .object fs
  | source => source

/-- Merges the fields of a source into those of a target. -/
def Value.mergeFields (target : Fields) : (source : List (String × Value)) → Fields
  | [] => target
  | (key, value) :: rest =>
    if value.isNull then Value.mergeFields target rest
    else
      let merged := match Fields.get? target key with
        | some old => Value.merge old value
        | none => value
      Value.mergeFields (Fields.insert key merged target) rest

end

end Json

/-! ## the environment -/

/-- Environment variables by name. -/
abbrev Environment := List (String × String)

/-- Reads a truth value: one of four words for each, in any case. No letter outside ASCII has
one of their letters as its lower case. -/
def readFlag? (s : String) : Option Bool :=
  let word := Text.lower s
  if ["true", "1", "yes", "on"].contains word then some true
  else if ["false", "0", "no", "off"].contains word then some false
  else none

/-- Reads an unsigned integer within inclusive bounds. -/
def readBounded? (s : String) (least greatest : UInt64) : Option UInt64 :=
  (Text.readUnsigned? s.toList).filter (fun n => least ≤ n && n ≤ greatest)

namespace Settings

/-- The variables that override settings. -/
inductive Variable where
  | batchDelay
  | sendSessionId
  | serverUrl
  | sessionRetryDelay
  | reconnectDelay
  | requestTimeout
deriving DecidableEq

namespace Variable

/-- All variables, in the order in which they are looked at. -/
def all : List Variable :=
  [batchDelay, sendSessionId, serverUrl, sessionRetryDelay, reconnectDelay, requestTimeout]

/-- The name of a variable. -/
def name : Variable → String
  | batchDelay => "SSEGW_BATCH_DELAY_MS"
  | sendSessionId => "SSEGW_SEND_SESSION_ID"
  | serverUrl => "SSEGW_SERVER_URL"
  | sessionRetryDelay => "SSEGW_SESSION_RETRY_MS"
  | reconnectDelay => "SSEGW_RECONNECT_DELAY_MS"
  | requestTimeout => "SSEGW_REQUEST_TIMEOUT_MS"

/-- The warning about a variable whose value is passed over. -/
def warning (v : Variable) (kind value : String) : Log.Entry :=
  { level := .warn
    component := .settings
    message := "invalid " ++ kind ++ " env var, ignoring"
    fields := [("key", .text v.name), ("value", .text value)] }

/-- Sets a number if the text is one within bounds. -/
def setBounded (v : Variable) (least greatest : UInt64) (set : UInt64 → Settings)
    (value : String) (s : Settings) : Settings × List Log.Entry :=
  match readBounded? value least greatest with
  | some n => (set n, [])
  | none => (s, [v.warning "integer" value])

/-- What the value of a variable makes of settings, and the warning if it is invalid. An
empty server URL is no value. -/
def override (v : Variable) (value : String) (s : Settings) : Settings × List Log.Entry :=
  match v with
  | batchDelay => v.setBounded 0 60000 (fun n => { s with batchDelay := n }) value s
  | sendSessionId =>
    match readFlag? value with
    | some b => ({ s with sendSessionId := b }, [])
    | none => (s, [v.warning "boolean" value])
  | serverUrl => (if value.isEmpty then s else { s with serverUrl := some value }, [])
  | sessionRetryDelay => v.setBounded 1 60000 (fun n => { s with sessionRetryDelay := n }) value s
  | reconnectDelay => v.setBounded 0 600000 (fun n => { s with reconnectDelay := n }) value s
  | requestTimeout => v.setBounded 1 600000 (fun n => { s with requestTimeout := n }) value s

end Variable

/-- The settings as the variables of an environment override them, and the warnings. -/
def override (env : Environment) (s : Settings) : Settings × List Log.Entry :=
  Variable.all.foldl
    (fun (s, log) v =>
      match env.lookup v.name with
      | some value =>
        let (s, more) := v.override value s
        (s, log ++ more)
      | none => (s, log))
    (s, [])

/-! ## loading -/

/-- The defaults as the JSON object that files are merged into. -/
def defaultFields : Value :=
  match default.toJson with
  | .object fs => .object (Fields.ofList fs)
  | v => v

/-- The settings that a file's text makes of the defaults, without checking them. -/
def mergeText (text : Option String) : Except SettingsError Settings := do
  let merged ← match text with
    | some t => (Value.read t).mapError (fun f => .json (.text f)) |>.map (defaultFields.merge ·)
    | none => .ok defaultFields
  (Json.Decoder.ofValue decoder merged).mapError .json

/-- Loads settings from a text, without the environment. -/
def ofText (text : String) : Except SettingsError Settings := do
  let s ← mergeText (some text)
  s.validate
  return s

/-- What stands at the path of a settings file. -/
inductive File where
  | absent
  | directory
  | bytes (content : List UInt8)

/-- The text of a settings file, if there is one. -/
def File.text? : File → Except SettingsError (Option String)
  | absent => .ok none
  | directory => .error .directory
  | bytes content => (Text.Utf8.decode? content).elim (.error .notText) (fun t => .ok (some t))

/-- Loads settings from a file and the environment. The log tells whether there was a file;
the warnings about variables come behind it. -/
def load (path : String) (file : File) (env : Environment) :
    Except SettingsError Settings × List Log.Entry :=
  let message := match file with
    | .absent => "settings file not found, using defaults"
    | _ => "loading client settings from file"
  let entry : Log.Entry :=
    { level := .debug, component := .settings, message
      fields := [("path", .text (Text.quoted path))] }
  match file.text? >>= mergeText with
  | .error e => (.error e, [entry])
  | .ok merged =>
    let (s, warnings) := merged.override env
    (s.validate.map (fun _ => s), entry :: warnings)

end Settings

end GatewayClient

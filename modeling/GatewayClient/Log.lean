import GatewayClient.Text.Numeral

/-!
# GatewayClient.Log

Log entries: a level, the component that speaks, a message, and named fields. Which entries
are shown is decided by whoever runs the client (`GatewayClient.Log.Filter`).
-/

namespace GatewayClient.Log

/-- The levels, the most verbose one first. -/
inductive Level where
  | trace
  | debug
  | info
  | warn
  | error
deriving DecidableEq

/-- The rank of a level: a greater one is more severe. -/
def Level.rank : Level → Nat
  | trace => 0
  | debug => 1
  | info => 2
  | warn => 3
  | error => 4

/-- The name of a level. -/
def Level.name : Level → String
  | trace => "TRACE"
  | debug => "DEBUG"
  | info => "INFO"
  | warn => "WARN"
  | error => "ERROR"

/-- The formats of log lines. -/
inductive Format where
  | compact
  | json
deriving DecidableEq

/-- The name of a format. -/
def Format.name : Format → String
  | compact => "Compact"
  | json => "Json"

/-- The components that log. -/
inductive Component where
  | settings
  | eventStream
  | http
  | callbacks
  | connection
  | manager
  | commandLine
deriving DecidableEq

/-- The name by which a component is selected. -/
def Component.target : Component → String
  | settings => "ssegw_settings::loader"
  | eventStream => "ssegw_transport::sse"
  | http => "ssegw_transport::http"
  | callbacks => "ssegw_client::callbacks"
  | connection => "ssegw_client::connection"
  | manager => "ssegw_client::manager"
  | commandLine => "ssegw"

/-- The value of a field. -/
inductive Datum where
  | text (s : String)
  | number (n : Nat)

/-- The text of a field's value. -/
def Datum.shown : Datum → String
  | text s => s
  | number n => Text.decimal n

/-- One entry. An entry in detail is only made where its component's entries of its level are
shown at all. -/
structure Entry where
  level : Level
  component : Component
  message : String
  fields : List (String × Datum)
  inDetail : Bool := false

end GatewayClient.Log

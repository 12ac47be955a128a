import GatewayClient.Json.Printer
import GatewayClient.Log

/-!
# GatewayClient.Log.Line

Log entries as lines of text, in either format.
-/

namespace GatewayClient.Log

/-- The value of a field as a JSON value. -/
def Datum.toJson : Datum → Json.Value
  | text s => .string s
  | number n => .number (.natural (UInt64.ofNat n))

namespace Entry

/-- An entry as a JSON value: the message is the first of the fields. -/
def toJson (e : Entry) : Json.Value :=
  .object
    [ ("level", .string e.level.name),
      ("fields", .object
        (("message", .string e.message) ::
          e.fields.map (fun (name, datum) => (name, datum.toJson)))),
      ("target", .string e.component.target) ]

/-- An entry as a line for people to read. -/
def compactLine (e : Entry) : String :=
  e.level.name ++ " " ++ e.component.target ++ ": " ++ e.message ++
    String.join (e.fields.map (fun (name, datum) => " " ++ name ++ "=" ++ datum.shown))

/-- An entry as a line of a format. -/
def line (e : Entry) : Format → String
  | .compact => e.compactLine
  | .json => e.toJson.text

end Entry

end GatewayClient.Log

import GatewayClient.Decimal.Shortest
import GatewayClient.Json.Value
import GatewayClient.Text.Quoted

/-!
# GatewayClient.Json.Printer

The compact text of JSON values: no blanks, object keys in their order, the shortest
form of a floating-point number. In strings only the quote, the backslash and the
characters below the space are escaped. `inspect` is the other text of a value, the one
that diagnostics show.
-/

namespace GatewayClient.Json

/-! ## compact text -/

/-- One character inside a JSON string. -/
def escapeChar (c : Char) : List Char :=
  if c = '"' then ['\\', '"']
  else if c = '\\' then ['\\', '\\']
  else if c = '\n' then ['\\', 'n']
  else if c = '\r' then ['\\', 'r']
  else if c = '\t' then ['\\', 't']
  else if c = '\x08' then ['\\', 'b']
  else if c = '\x0c' then ['\\', 'f']
  else if c < ' ' then
    ['\\', 'u', '0', '0', Text.digitChar (c.toNat / 16), Text.digitChar (c.toNat % 16)]
  else [c]

/-- A JSON string. -/
def renderString (s : String) : List Char := ['"'] ++ s.toList.flatMap escapeChar ++ ['"']

/-- A JSON number. -/
def Number.render : Number → List Char
  | .natural n => Text.numeral 10 n.toNat
  | .negative n => '-' :: Text.numeral 10 (n.val + 1)
  | .double x => x.render

/-- The text of a number. -/
def Number.text (n : Number) : String := String.ofList n.render

mutual

/-- The compact text of a value, as characters. -/
def Value.render : Value → List Char
  | .null => "null".toList
  | .bool true => "true".toList
  | .bool false => "false".toList
  | .number n => n.render
  | .string s => renderString s
  | .array [] => ['[', ']']
  | .array (v :: vs) => '[' :: (v.render ++ Value.renderItems vs)
  | .object [] => ['\x7b', '\x7d']
  | .object ((k, v) :: fs) =>
    '\x7b' :: (renderString k ++ ':' :: (v.render ++ Value.renderFields fs))

/-- The items after the first one and the closing bracket. -/
def Value.renderItems : List Value → List Char
  | [] => [']']
  | v :: vs => ',' :: (v.render ++ Value.renderItems vs)

/-- The fields after the first one and the closing brace. -/
def Value.renderFields : List (String × Value) → List Char
  | [] => ['\x7d']
  | (k, v) :: fs => ',' :: (renderString k ++ ':' :: (v.render ++ Value.renderFields fs))

end

/-- The compact text of a value. -/
def Value.text (v : Value) : String := String.ofList v.render

/-! ## text for diagnostics -/

mutual

/-- The text that diagnostics show: the kind of the value with its content. -/
def Value.inspect : Value → String
  | .null => "Null"
  | .bool true => "Bool(true)"
  | .bool false => "Bool(false)"
  | .number n => "Number(" ++ n.text ++ ")"
  | .string s => "String(" ++ Text.quoted s ++ ")"
  | .array vs => "Array [" ++ ", ".intercalate (Value.inspectItems vs) ++ "]"
  | .object fs => "Object " ++ "\x7b" ++ ", ".intercalate (Value.inspectFields fs) ++ "\x7d"

/-- The texts of the items of an array. -/
def Value.inspectItems : List Value → List String
  | [] => []
  | v :: vs => v.inspect :: Value.inspectItems vs

/-- The texts of the fields of an object. -/
def Value.inspectFields : List (String × Value) → List String
  | [] => []
  | (k, v) :: fs => (Text.quoted k ++ ": " ++ v.inspect) :: Value.inspectFields fs

end

/-- The text of an object's fields for diagnostics. -/
def Fields.inspect (fs : Fields) : String :=
  "\x7b" ++ ", ".intercalate (Value.inspectFields fs) ++ "\x7d"

end GatewayClient.Json

import GatewayClient.Text.Invisible
import GatewayClient.Text.Numeral

/-!
# GatewayClient.Text.Quoted

Quoted texts, as they appear in diagnostics: between double quotes, with a backslash
before a quote or a backslash, short names for tab, line feed, carriage return and NUL,
and the code point in braces for every other character that cannot be seen.
-/

namespace GatewayClient.Text

/-- One character inside the quotes. -/
def quoteChar (c : Char) : List Char :=
  if c = '\x00' then ['\\', '0']
  else if c = '\t' then ['\\', 't']
  else if c = '\r' then ['\\', 'r']
  else if c = '\n' then ['\\', 'n']
  else if c = '\\' ∨ c = '"' then ['\\', c]
  else if c < ' ' || c = '\x7f' || isInvisible c then
    ['\\', 'u', '\x7b'] ++ numeral 16 c.toNat ++ ['\x7d']
  else [c]

/-- A text in double quotes. -/
def quoted (s : String) : String :=
  String.ofList (['"'] ++ s.toList.flatMap quoteChar ++ ['"'])

/-- An optional text: `None`, or the quoted text inside `Some(..)`. -/
def quotedOption : Option String → String
  | none => "None"
  | some s => "Some(" ++ quoted s ++ ")"

end GatewayClient.Text

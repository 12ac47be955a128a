import GatewayClient.Text.Numeral

/-!
# GatewayClient.Text.Percent

Percent encoding of one URL component. Letters, digits and `- _ . ! ~ * ' ( )` stand
for themselves; every other character is written as the bytes of its UTF-8 form, each
as a percent sign and two upper-case hexadecimal digits. `decode?` reads it back.
-/

namespace GatewayClient.Text.Percent

/-- The characters that stand for themselves in a component. -/
def isPlain (c : Char) : Bool :=
  ('A' ≤ c && c ≤ 'Z') || ('a' ≤ c && c ≤ 'z') || isDigit c || "-_.!~*'()".toList.contains c

/-- The upper-case hexadecimal digit of a value below sixteen. -/
def hexDigit (d : Nat) : Char := if d < 10 then Char.ofNat (48 + d) else Char.ofNat (55 + d)

/-- One byte as a percent sign and two digits. -/
def escapeByte (b : UInt8) : List Char := ['%', hexDigit (b.toNat / 16), hexDigit (b.toNat % 16)]

/-- One character of a component. -/
def encodeChar (c : Char) : List Char :=
  if isPlain c then [c] else (String.utf8EncodeChar c).flatMap escapeByte

/-- A component in its encoded form. -/
def encode (cs : List Char) : List Char := cs.flatMap encodeChar

/-- The encoded form of a text used as one component. -/
def component (s : String) : String := String.ofList (encode s.toList)

/-- The bytes that an encoded component stands for: a percent sign with two
hexadecimal digits is one byte, any other ASCII character is its own byte. A percent
sign without its digits and a character outside ASCII are refused. -/
def decode? : List Char → Option (List UInt8)
  | [] => some []
  | '%' :: h :: l :: rest => do
    let high ← hexValue? h
    let low ← hexValue? l
    return UInt8.ofNat (high * 16 + low) :: (← decode? rest)
  | c :: rest =>
    if c = '%' ∨ 128 ≤ c.toNat then none
    else (decode? rest).map (UInt8.ofNat c.toNat :: ·)

end GatewayClient.Text.Percent

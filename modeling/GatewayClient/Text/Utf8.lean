/-!
# GatewayClient.Text.Utf8

Bytes and text. `Utf8.decode?` accepts exactly the encodings of texts. `Utf8.decodeLossy`
reads any bytes: each longest run that begins like a character but cannot be finished
becomes one replacement character.
-/

namespace GatewayClient.Text.Utf8

/-- The UTF-8 bytes of a text. -/
def encode (s : String) : List UInt8 := s.toUTF8.data.toList

/-- The text that bytes encode, if they encode one. -/
def decode? (bs : List UInt8) : Option String := String.fromUTF8? bs.toByteArray

/-- Encoding a text and decoding the bytes gives the text back. -/
theorem decode?_encode (s : String) : decode? (encode s) = some s := by
  have h : (encode s).toByteArray = s.toUTF8 := by
    apply ByteArray.ext
    simp [encode, List.data_toByteArray]
  unfold decode? String.fromUTF8?
  rw [h, String.toUTF8_eq_toByteArray, dif_pos s.isValidUTF8]
  rfl

/-! ## reading damaged text -/

/-- What may follow a first byte of 128 or more: how many bytes, the range of the next
one (all later ones are 128 to 191), and the bits that the first byte carries. The
ranges keep out overlong forms, surrogates and values above the last code point. -/
structure Lead where
  following : Nat
  low : UInt8
  high : UInt8
  bits : Nat

/-- The lead that a first byte announces. -/
def lead? (b : UInt8) : Option Lead :=
  if 0xC2 ≤ b && b ≤ 0xDF then some ⟨1, 0x80, 0xBF, b.toNat - 0xC0⟩
  else if b == 0xE0 then some ⟨2, 0xA0, 0xBF, 0⟩
  else if b == 0xED then some ⟨2, 0x80, 0x9F, 0xD⟩
  else if 0xE1 ≤ b && b ≤ 0xEF then some ⟨2, 0x80, 0xBF, b.toNat - 0xE0⟩
  else if b == 0xF0 then some ⟨3, 0x90, 0xBF, 0⟩
  else if b == 0xF4 then some ⟨3, 0x80, 0x8F, 4⟩
  else if 0xF1 ≤ b && b ≤ 0xF3 then some ⟨3, 0x80, 0xBF, b.toNat - 0xF0⟩
  else none

/-- The bytes at the front of `bs` that continue a character begun by a lead. -/
def continuation (l : Lead) (bs : List UInt8) : List UInt8 :=
  match bs with
  | [] => []
  | b :: rest =>
    if l.low ≤ b && b ≤ l.high then
      b :: (rest.take (l.following - 1)).takeWhile (fun x => 0x80 ≤ x && x ≤ 0xBF)
    else []

/-- The character put in the place of bytes that encode none. -/
def replacement : Char := '\ufffd'

/-- Reads bytes as text, with replacement characters for what is no text. -/
def decodeLossy : List UInt8 → List Char
  | [] => []
  | b :: rest =>
    if b < 0x80 then Char.ofNat b.toNat :: decodeLossy rest
    else match lead? b with
      | none => replacement :: decodeLossy rest
      | some l =>
        let more := continuation l rest
        let c := if more.length = l.following then
            Char.ofNat (more.foldl (fun n x => n * 64 + (x.toNat - 0x80)) l.bits)
          else replacement
        c :: decodeLossy (rest.drop more.length)
termination_by bs => bs.length
decreasing_by all_goals simp only [List.length_cons, List.length_drop]; omega

/-- The text read from bytes, with replacement characters for what is no text. -/
def lossyText (bs : List UInt8) : String := String.ofList (decodeLossy bs)

end GatewayClient.Text.Utf8

import GatewayClient.Proofs.Text.Numerals
import GatewayClient.Proofs.Text.Utf8
import GatewayClient.Text.Percent

/-!
# GatewayClient.Proofs.Text.Percent

What the encoded form of a component is made of, and that it can be read back:

```
component  =  (letter | digit | mark | "%" upper upper)*
mark       =  - _ . ! ~ * ' ( )
```

A percent sign only ever begins a triple, since it does not stand for itself. So an encoded form is
decoded to the bytes of its text, and different texts have different encoded forms.
-/

namespace GatewayClient.Text.Percent

/-! ## the shape of an encoded component -/

/-- The characters besides letters and digits that stand for themselves. -/
def marks : List Char := "-_.!~*'()".toList

/-- Whether a character is an upper-case hexadecimal digit. -/
def isUpperHex (c : Char) : Bool := isDigit c || ('A' ≤ c && c ≤ 'F')

/-- Whether characters are letters and digits of ASCII, marks, and percent signs with two upper-case
hexadecimal digits each. -/
inductive IsComponent : List Char → Prop where
  | nil : IsComponent []
  | plain (own : c.isAlphanum = true ∨ c ∈ marks) (rest : IsComponent cs) : IsComponent (c :: cs)
  | triple (high : isUpperHex h = true) (low : isUpperHex l = true) (rest : IsComponent cs) :
      IsComponent ('%' :: h :: l :: cs)

/-- The letters and digits of ASCII by their codes. -/
theorem isAlphanum_iff {c : Char} : c.isAlphanum = true ↔ (65 ≤ c.toNat ∧ c.toNat ≤ 90) ∨
    (97 ≤ c.toNat ∧ c.toNat ≤ 122) ∨ 48 ≤ c.toNat ∧ c.toNat ≤ 57 := by
  have ranges : c.isAlphanum = ((decide ('A'.val ≤ c.val ∧ c.val ≤ 'Z'.val) ||
      decide ('a'.val ≤ c.val) && decide (c.val ≤ 'z'.val)) ||
      decide ('0'.val ≤ c.val) && decide (c.val ≤ '9'.val)) := rfl
  simp only [ranges, Bool.or_eq_true, Bool.and_eq_true, decide_eq_true_eq, UInt32.le_iff_toNat_le,
    or_assoc]
  rfl

/-- What is not escaped are the letters, the digits and the marks. -/
theorem isPlain_iff : isPlain c = true ↔ c.isAlphanum = true ∨ c ∈ marks := by
  unfold isPlain marks
  generalize "-_.!~*'()".toList = others
  simp only [isAlphanum_iff, isDigit_iff, Char.le_def, UInt32.le_iff_toNat_le, Bool.or_eq_true,
    Bool.and_eq_true, decide_eq_true_eq, List.contains_iff_mem, or_assoc]
  rfl

/-- Bytes are escaped with upper-case digits. -/
theorem isUpperHex_hexDigit : ∀ d < 16, isUpperHex (hexDigit d) = true := by decide

/-- No triple reaches from one encoded text into the next. -/
theorem IsComponent.append (first : IsComponent cs) (second : IsComponent ds) :
    IsComponent (cs ++ ds) := by
  induction first with
  | nil => exact second
  | plain own rest ih => exact .plain own ih
  | triple high low rest ih => exact .triple high low ih

/-- An escaped byte is one triple. -/
theorem isComponent_escapeByte (b : UInt8) : IsComponent (escapeByte b) :=
  have byte : b.toNat < 256 := b.toNat_lt
  .triple (isUpperHex_hexDigit _ (by omega)) (isUpperHex_hexDigit _ (by omega)) .nil

theorem isComponent_flatMap {f : α → List Char} (encoded : ∀ x, IsComponent (f x)) (xs : List α) :
    IsComponent (xs.flatMap f) := by
  induction xs with
  | nil => exact .nil
  | cons x xs ih =>
    rw [List.flatMap_cons]
    exact (encoded x).append ih

/-- A character is encoded as itself, or as a triple for each of its bytes. -/
theorem isComponent_encodeChar (c : Char) : IsComponent (encodeChar c) := by
  unfold encodeChar
  split
  · next plain => exact .plain (isPlain_iff.mp plain) .nil
  · exact isComponent_flatMap isComponent_escapeByte _

theorem isComponent_encode (cs : List Char) : IsComponent (encode cs) :=
  isComponent_flatMap isComponent_encodeChar cs

/-- A component has the shape that is said above, whatever its text is. -/
theorem isComponent_component (s : String) : IsComponent (component s).toList := by
  rw [component, String.toList_ofList]
  exact isComponent_encode s.toList

/-- The digits of a triple are letters and digits themselves. -/
theorem isAlphanum_of_isUpperHex (digit : isUpperHex c = true) : c.isAlphanum = true := by
  simp only [isUpperHex, Bool.or_eq_true, Bool.and_eq_true, decide_eq_true_eq, isDigit_iff,
    Char.le_def, UInt32.le_iff_toNat_le] at digit
  have range : 48 ≤ c.toNat ∧ c.toNat ≤ 57 ∨ 65 ≤ c.toNat ∧ c.toNat ≤ 70 := digit
  rw [isAlphanum_iff]
  omega

/-- Each character of an encoded component stands for itself, or is a percent sign. -/
theorem IsComponent.of_mem (encoded : IsComponent cs) (member : c ∈ cs) :
    c = '%' ∨ c.isAlphanum = true ∨ c ∈ marks := by
  induction encoded with
  | nil => contradiction
  | plain own rest ih => grind
  | triple high low rest ih => grind [isAlphanum_of_isUpperHex]

/-! ## reading it back -/

/-- A digit is read back as its value. -/
theorem hexValue?_hexDigit : ∀ d < 16, hexValue? (hexDigit d) = some d := by decide

/-- What is not escaped is one byte, and no percent sign. -/
theorem ascii_of_isPlain (plain : isPlain c = true) : c ≠ '%' ∧ c.toNat < 128 := by
  have marked : (marks.all fun d => d ≠ '%' ∧ d.toNat < 128) := by decide +kernel
  rcases isPlain_iff.mp plain with letter | mark
  · have range := isAlphanum_iff.mp letter
    exact ⟨by rintro rfl; contradiction, by omega⟩
  · have own := List.all_eq_true.mp marked c mark
    rwa [decide_eq_true_eq] at own

/-- A character that stands for itself is read as its byte. -/
theorem decode?_cons_of_isPlain (plain : isPlain c = true) (rest : List Char) :
    decode? (c :: rest) = (decode? rest).map (UInt8.ofNat c.toNat :: ·) := by
  have own := ascii_of_isPlain plain
  rw [decode?]
  · rw [if_neg (by simp [own])]
  · simp [own]

/-- A triple is read as its byte, whatever follows. -/
theorem decode?_escapeByte (b : UInt8) (rest : List Char) :
    decode? (escapeByte b ++ rest) = (decode? rest).map (b :: ·) := by
  have byte : b.toNat < 256 := b.toNat_lt
  have whole : b.toNat / 16 * 16 + b.toNat % 16 = b.toNat := by omega
  show decode? ('%' :: hexDigit (b.toNat / 16) :: hexDigit (b.toNat % 16) :: rest) = _
  rw [decode?, hexValue?_hexDigit _ (by omega), hexValue?_hexDigit _ (by omega)]
  simp only [Option.bind_eq_bind, Option.bind_some, whole, UInt8.ofNat_toNat]
  cases decode? rest <;> rfl

theorem decode?_escaped (bs : List UInt8) (rest : List Char) :
    decode? (bs.flatMap escapeByte ++ rest) = (decode? rest).map (bs ++ ·) := by
  induction bs with
  | nil => simp
  | cons b bs ih => simp [List.append_assoc, decode?_escapeByte, ih, Function.comp_def]

/-- The encoded form of a character is read as its bytes, whatever follows. -/
theorem decode?_encodeChar (c : Char) (rest : List Char) :
    decode? (encodeChar c ++ rest) = (decode? rest).map (String.utf8EncodeChar c ++ ·) := by
  unfold encodeChar
  split
  · next plain =>
    simp [decode?_cons_of_isPlain plain, Utf8.utf8EncodeChar_of_lt (ascii_of_isPlain plain).2]
  · exact decode?_escaped _ rest

/-- **Round trip**: an encoded component is decoded to the bytes of its text. -/
theorem decode?_encode (cs : List Char) :
    decode? (encode cs) = some (Utf8.encode (.ofList cs)) := by
  rw [Utf8.encode_ofList]
  induction cs with
  | nil => rfl
  | cons c cs ih =>
    show decode? (encodeChar c ++ encode cs) = _
    rw [decode?_encodeChar, ih]
    rfl

theorem decode?_component (s : String) :
    decode? (component s).toList = some (Utf8.encode s) := by
  simp [component, decode?_encode]

/-- Different texts have different components, since each is read back as its own bytes. -/
theorem component_inj {s t : String} : component s = component t ↔ s = t := by
  constructor
  · intro same
    have read := decode?_component s
    rw [same, decode?_component, Option.some.injEq, Utf8.encode_inj] at read
    exact read.symm
  · rintro rfl
    rfl

end GatewayClient.Text.Percent

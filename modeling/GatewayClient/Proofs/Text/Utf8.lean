import GatewayClient.Text.Utf8

/-!
# GatewayClient.Proofs.Text.Utf8

The bytes of a text are the bytes of its characters, one after the other. A character of ASCII is
one byte, its own code, and no byte of any other character is the code of one. Different texts
have different bytes.
-/

namespace GatewayClient.Text.Utf8

theorem encode_ofList (cs : List Char) :
    encode (.ofList cs) = cs.flatMap String.utf8EncodeChar := by
  rw [encode, String.toUTF8_eq_toByteArray, String.toByteArray_ofList, List.utf8Encode]
  simp

theorem encode_append (cs ds : List Char) :
    encode (.ofList (cs ++ ds)) = encode (.ofList cs) ++ encode (.ofList ds) := by
  rw [encode_ofList, encode_ofList, encode_ofList, List.flatMap_append]

/-- A character of ASCII is one byte. -/
theorem utf8EncodeChar_of_lt {c : Char} (ascii : c.toNat < 128) :
    String.utf8EncodeChar c = [UInt8.ofNat c.toNat] := by
  have small : c.val.toNat ≤ 127 := Nat.le_of_lt_succ ascii
  rw [String.utf8EncodeChar, if_pos small]
  rfl

/-- A character of ASCII is one byte, and no byte of any other one is of ASCII. -/
theorem utf8EncodeChar_cases (c : Char) :
    (c.toNat < 128 ∧ String.utf8EncodeChar c = [UInt8.ofNat c.toNat]) ∨
      String.utf8EncodeChar c ≠ [] ∧ ∀ b ∈ String.utf8EncodeChar c, 128 ≤ b.toNat := by
  by_cases ascii : c.val.toNat ≤ 127
  · exact .inl ⟨Nat.lt_succ_of_le ascii, utf8EncodeChar_of_lt (Nat.lt_succ_of_le ascii)⟩
  · refine .inr ?_
    rw [String.utf8EncodeChar]
    simp only [ascii, if_false]
    split
    · simp; omega
    split
    · simp; omega
    · simp; omega

/-- A byte of ASCII is a character of the text. -/
theorem exists_of_mem_encode {b : UInt8} {cs : List Char} (ascii : b.toNat < 128)
    (member : b ∈ encode (.ofList cs)) : ∃ c ∈ cs, c.toNat = b.toNat := by
  rw [encode_ofList] at member
  obtain ⟨c, listed, own⟩ := List.mem_flatMap.mp member
  rcases utf8EncodeChar_cases c with ⟨small, one⟩ | ⟨-, large⟩
  · rw [one, List.mem_singleton] at own
    refine ⟨c, listed, ?_⟩
    rw [own, UInt8.toNat_ofNat', Nat.mod_eq_of_lt (by omega)]
  · exact absurd (large b own) (by omega)

/-- A last byte of ASCII is the last character of the text. -/
theorem exists_of_getLast?_encode {b : UInt8} {cs : List Char} (ascii : b.toNat < 128)
    (last : (encode (.ofList cs)).getLast? = some b) :
    ∃ c, cs.getLast? = some c ∧ c.toNat = b.toNat := by
  rcases List.eq_nil_or_concat cs with rfl | ⟨front, c, rfl⟩
  · rw [encode_ofList] at last
    contradiction
  · have own : b ∈ encode (.ofList [c]) := by
      rw [List.concat_eq_append, encode_append, List.getLast?_append, Option.or_eq_some_iff] at last
      rcases last with here | ⟨none, -⟩
      · exact List.mem_of_getLast? here
      · rw [encode_ofList, List.flatMap_singleton, List.getLast?_eq_none_iff] at none
        rcases utf8EncodeChar_cases c with ⟨-, one⟩ | ⟨full, -⟩
        · simp [one] at none
        · contradiction
    obtain ⟨d, listed, same⟩ := exists_of_mem_encode ascii own
    rw [List.mem_singleton] at listed
    subst listed
    exact ⟨d, by simp, same⟩

/-- Texts with the same bytes are the same text. -/
theorem encode_inj {s t : String} : encode s = encode t ↔ s = t := by
  constructor
  · intro same
    have read := decode?_encode s
    rw [same, decode?_encode] at read
    exact (Option.some.inj read).symm
  · rintro rfl
    rfl

end GatewayClient.Text.Utf8

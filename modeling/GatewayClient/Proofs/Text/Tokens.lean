import GatewayClient.Proofs.Text.Numerals
import Mathlib.Data.Nat.Digits.Lemmas

/-!
# GatewayClient.Proofs.Text.Tokens

Tokens of tab ids, as numerals in base 36. They can be written with words of 64 bits, from the
last digit to the first: each round cuts off the last digit of what is left, looks its character
up in the table of digits and puts it behind those before it, and what was put is then turned
round.

```
left   1295   35   0
put           z    zz
```

Whatever the number, the table has the digit of every round and nothing is left in the end
(`rounds_iff`). What comes out is the numeral, from which the number is read back.
-/

namespace GatewayClient.Text

/-! ## the table of digits -/

/-- The digits of base 36, each at the place of its value. -/
def tokenDigits : List Char := "0123456789abcdefghijklmnopqrstuvwxyz".toList

theorem getElem?_tokenDigits : ∀ d < 36, tokenDigits[d]? = some (digitChar d) := by decide

theorem idxOf_digitChar : ∀ d < 36, tokenDigits.idxOf (digitChar d) = d := by decide

/-! ## writing from the last digit -/

/-- Rounds of writing what is left of a number behind what was put before: they end with a text
when nothing is left. A round that does not find its digit in the table goes no further. -/
inductive Rounds : UInt64 → List Char → List Char → Prop where
  | done (put : List Char) : Rounds 0 put put.reverse
  | round (left : n ≠ 0) (digit : tokenDigits[(n % 36).toNat]? = some c)
      (rest : Rounds (n / 36) (put ++ [c]) text) : Rounds n put text

/-- The text that a number is written as: zero at once, any other number in rounds. -/
inductive Writes : UInt64 → List Char → Prop where
  | zero : Writes 0 ['0']
  | rounds (left : n ≠ 0) (rounds : Rounds n [] text) : Writes n text

theorem toNat_pos {n : UInt64} (left : n ≠ 0) : 0 < n.toNat := by
  rw [Nat.pos_iff_ne_zero]
  exact fun zero => left (UInt64.toNat_inj.mp zero)

/-- A round cuts off the last digit. -/
theorem digits_word {n : UInt64} (left : n ≠ 0) :
    Nat.digits 36 n.toNat = (n % 36).toNat :: Nat.digits 36 (n / 36).toNat := by
  rw [Nat.digits_def' (by decide) (toNat_pos left), UInt64.toNat_mod, UInt64.toNat_div]
  rfl

/-- The digit of a round is in the table. -/
theorem getElem?_tokenDigits_word (n : UInt64) :
    tokenDigits[(n % 36).toNat]? = some (digitChar (n % 36).toNat) := by
  apply getElem?_tokenDigits
  rw [UInt64.toNat_mod]
  exact Nat.mod_lt _ (by decide)

/-- Rounds come to an end, whatever is left. The induction is on the digits that are left: each
round takes the first of them. -/
theorem rounds_digits (n : UInt64) (put : List Char) :
    Rounds n put (put ++ (Nat.digits 36 n.toNat).map digitChar).reverse := by
  induction written : Nat.digits 36 n.toNat generalizing n put with
  | nil =>
    have zero : n = 0 := UInt64.toNat_inj.mp (Nat.digits_eq_nil_iff_eq_zero.mp written)
    subst zero
    simpa using Rounds.done put
  | cons d ds ih =>
    have left : n ≠ 0 := by
      rintro rfl
      simp at written
    rw [digits_word left, List.cons.injEq] at written
    obtain ⟨rfl, rest⟩ := written
    have further := ih (n / 36) (put ++ [digitChar (n % 36).toNat]) rest
    rw [List.append_assoc] at further
    exact .round left (getElem?_tokenDigits_word n) further

/-- Rounds end with the digits of what was left before those that were put, and with nothing else.
-/
theorem rounds_iff {n : UInt64} :
    Rounds n put text ↔ text = (put ++ (Nat.digits 36 n.toNat).map digitChar).reverse := by
  constructor
  · intro rounds
    induction rounds with
    | done put => simp
    | @round n c put text left digit rest ih =>
      rw [getElem?_tokenDigits_word, Option.some.injEq] at digit
      rw [ih, digits_word left, List.map_cons, digit, List.append_assoc, List.singleton_append]
  · rintro rfl
    exact rounds_digits n put

/-- The digits of a number are those that division cuts off, turned round. -/
theorem digits_eq_reverse (base : 1 < b) (positive : 0 < n) :
    digits b n = (Nat.digits b n).reverse := by
  fun_induction digits b n with
  | case1 n small =>
    have single : n < b := by omega
    rw [Nat.digits_of_lt b n (by omega) single, List.reverse_singleton]
  | case2 n large ih =>
    have more : 0 < n / b := Nat.div_pos (by omega) (by omega)
    rw [ih more, Nat.digits_def' base positive, List.reverse_cons]

theorem numeral_zero : numeral 36 0 = ['0'] := by
  rw [numeral, digits_of_lt (by decide)]
  rfl

/-- What is written is the numeral. -/
theorem writes_iff {n : UInt64} : Writes n text ↔ text = numeral 36 n.toNat := by
  have whole (left : n ≠ 0) : Rounds n [] text ↔ text = numeral 36 n.toNat := by
    rw [rounds_iff, numeral, digits_eq_reverse (by decide) (toNat_pos left), List.nil_append,
      List.map_reverse]
  constructor
  · rintro (_ | ⟨left, rounds⟩)
    · rw [UInt64.toNat_zero, numeral_zero]
    · exact (whole left).mp rounds
  · intro written
    by_cases left : n = 0
    · subst left
      rw [UInt64.toNat_zero, numeral_zero] at written
      exact written ▸ .zero
    · exact .rounds left ((whole left).mpr written)

/-! ## reading -/

/-- The number is read back from the places of the characters in the table. -/
theorem ofDigits_numeral (n : Nat) : ofDigits 36 ((numeral 36 n).map tokenDigits.idxOf) = n := by
  rw [map_value_numeral (by decide) idxOf_digitChar, ofDigits_digits]

theorem numeral_token_inj : numeral 36 n = numeral 36 k ↔ n = k := by
  constructor
  · intro same
    rw [← ofDigits_numeral n, same, ofDigits_numeral]
  · rintro rfl
    rfl

theorem mem_tokenDigits (member : c ∈ numeral 36 n) : c ∈ tokenDigits := by
  obtain ⟨d, digit, rfl⟩ := List.mem_map.mp member
  exact List.mem_of_getElem? (getElem?_tokenDigits d (lt_of_mem_digits (by decide) digit))

/-- Only zero has a leading zero. -/
theorem eq_zero_of_head?_numeral (zero : (numeral 36 n).head? = some '0') : n = 0 := by
  rw [numeral, List.head?_map, Option.map_eq_some_iff] at zero
  obtain ⟨d, first, shown⟩ := zero
  have small : d < 36 := lt_of_mem_digits (by decide) (List.mem_of_head? first)
  have leading : d = 0 := by
    rw [← idxOf_digitChar d small, shown]
    rfl
  by_contra positive
  exact head?_digits_ne_zero (Nat.pos_of_ne_zero positive) (leading ▸ first)

/-- A number below a power of the base has at most as many digits. -/
theorem length_digits_le (base : 1 < b) (bound : n < b ^ (k + 1)) :
    (digits b n).length ≤ k + 1 := by
  by_cases positive : 0 < n
  · rw [digits_eq_reverse base positive, List.length_reverse, Nat.digits_length_le_iff base]
    exact bound
  · rw [digits_of_lt (by omega)]
    simp

theorem length_numeral_le (bound : n < UInt32.size) : (numeral 36 n).length ≤ 7 := by
  rw [numeral, List.length_map]
  exact length_digits_le (by decide) (Nat.lt_trans bound (by decide))

/-- **Tokens are read back**: writing a number of 64 bits in rounds comes to an end, finds each of
its digits in the table, and ends with the numeral. That is not empty, has no characters but those
of the table, and no leading zero unless it is the one of zero; read in base 36 it gives the
number back, so that no other number has it. A token of 32 bits has at most seven characters. -/
theorem tokens_read_back (n : UInt64) :
    (∀ text, Writes n text ↔ text = numeral 36 n.toNat) ∧
    numeral 36 n.toNat ≠ [] ∧
    (∀ c ∈ numeral 36 n.toNat, c ∈ tokenDigits) ∧
    ((numeral 36 n.toNat).head? = some '0' → numeral 36 n.toNat = ['0']) ∧
    ofDigits 36 ((numeral 36 n.toNat).map tokenDigits.idxOf) = n.toNat ∧
    (∀ k : UInt64, numeral 36 k.toNat = numeral 36 n.toNat ↔ k = n) ∧
    (n.toNat < UInt32.size → (numeral 36 n.toNat).length ≤ 7) := by
  refine ⟨fun text => writes_iff, numeral_ne_nil 36 _, fun c => mem_tokenDigits, fun leading => ?_,
    ofDigits_numeral _, fun k => ?_, length_numeral_le⟩
  · rw [eq_zero_of_head?_numeral leading, numeral_zero]
  · rw [numeral_token_inj, UInt64.toNat_inj]

/-- Zero, and the greatest token of 32 bits. -/
theorem tokens_read_back_bounds :
    ((numeral 36 (0 : UInt64).toNat).head? = some '0' ∧ numeral 36 (0 : UInt64).toNat = ['0']) ∧
    ((4294967295 : UInt64).toNat < UInt32.size ∧
      numeral 36 (4294967295 : UInt64).toNat = "1z141z3".toList ∧
      (numeral 36 (4294967295 : UInt64).toNat).length ≤ 7) ∧
    ('z' ∈ numeral 36 (4294967295 : UInt64).toNat ∧ 'z' ∈ tokenDigits) := by
  obtain ⟨-, -, -, zero, -, -, -⟩ := tokens_read_back 0
  obtain ⟨-, -, listed, -, -, -, short⟩ := tokens_read_back 4294967295
  have leading : (numeral 36 (0 : UInt64).toNat).head? = some '0' := by decide +kernel
  have written : numeral 36 (4294967295 : UInt64).toNat = "1z141z3".toList := by decide +kernel
  have member : 'z' ∈ numeral 36 (4294967295 : UInt64).toNat := by
    rw [written]
    decide
  exact ⟨⟨leading, zero leading⟩, ⟨by decide, written, short (by decide)⟩, member, listed _ member⟩

end GatewayClient.Text

import GatewayClient.Text.Numeral
import Mathlib.Data.List.Basic
import Mathlib.Data.List.Induction

/-!
# GatewayClient.Proofs.Text.Numerals

Numerals as texts: a numeral is never empty, a decimal one is made of digits and reads back as its
number, and a digit of any base up to 16 reads back as its value. The other way, digits without a
leading zero are the numeral of the number that they denote (`numeral_decimalValue`).
-/

namespace GatewayClient.Text

/-- The characters of decimal digits are digits and have their values. -/
theorem digitChar_spec : ∀ d < 10, isDigit (digitChar d) = true ∧ digitValue (digitChar d) = d := by
  decide

theorem hexValue?_digitChar : ∀ d < 16, hexValue? (digitChar d) = some d := by decide

theorem utf8Size_digitChar : ∀ d < 16, (digitChar d).utf8Size = 1 := by decide

/-- The decimal digits by their codes. -/
theorem isDigit_iff : isDigit c = true ↔ 48 ≤ c.toNat ∧ c.toNat ≤ 57 := by
  simp only [isDigit, Bool.and_eq_true, decide_eq_true_eq, Char.le_def, UInt32.le_iff_toNat_le]
  rfl

/-- A digit is the character of its value. -/
theorem digitChar_digitValue (digit : isDigit c = true) : digitChar (digitValue c) = c := by
  have range := isDigit_iff.mp digit
  have code : 48 + (c.toNat - 48) = c.toNat := by omega
  rw [digitValue, digitChar, if_pos (by omega), code, Char.ofNat_toNat]

/-! ## digits of a number -/

/-- Every number has a digit, zero as well. -/
theorem digits_ne_nil (b n : Nat) : digits b n ≠ [] := by
  unfold digits
  split <;> simp

theorem digits_of_lt (small : n < b) : digits b n = [n] := by
  rw [digits, dif_pos (.inl small)]

/-- Only the numeral of zero begins with a zero. -/
theorem head?_digits_ne_zero (positive : 0 < n) : (digits b n).head? ≠ some 0 := by
  fun_induction digits b n with
  | case1 n small => simp; omega
  | case2 n large ih =>
    have more : 0 < n / b := Nat.div_pos (by omega) (by omega)
    rw [List.head?_append_of_ne_nil _ (digits_ne_nil b _)]
    exact ih more

/-- No digits follow a leading zero. -/
theorem digits_ne_zero_cons (n d : Nat) (ds : List Nat) : digits 10 n ≠ 0 :: d :: ds := by
  intro written
  by_cases positive : 0 < n
  · exact head?_digits_ne_zero positive (by rw [written, List.head?_cons])
  · rw [digits_of_lt (by omega)] at written
    simp at written

/-- Digits without a leading zero are those of their number. -/
theorem digits_ofDigits {ds : List Nat} (small : ∀ d ∈ ds, d < 10) (full : ds ≠ [])
    (plain : ∀ d es, ds ≠ 0 :: d :: es) : digits 10 (ofDigits 10 ds) = ds := by
  induction ds using List.reverseRecOn with
  | nil => contradiction
  | append_singleton ds d ih =>
    have last : d < 10 := small d (by simp)
    rw [ofDigits_append_singleton]
    by_cases empty : ds = []
    · subst empty
      have single : ofDigits 10 [] * 10 + d = d := by simp [ofDigits]
      rw [single, digits_of_lt last, List.nil_append]
    · have before := ih (fun e member => small e (by simp [member])) empty (by
        rintro e es rfl
        exact plain e (es ++ [d]) rfl)
      have positive : 0 < ofDigits 10 ds := by
        rw [Nat.pos_iff_ne_zero]
        intro zero
        rw [zero, digits_of_lt (by decide)] at before
        exact plain d [] (by rw [← before]; rfl)
      have others : (ofDigits 10 ds * 10 + d) / 10 = ofDigits 10 ds := by omega
      have unit : (ofDigits 10 ds * 10 + d) % 10 = d := by omega
      rw [digits, dif_neg (by omega), others, unit, before]

/-! ## numerals -/

/-- The digits of a numeral are what is read of its characters, if every digit character is read
as its digit. -/
theorem map_value_numeral {value : Char → Nat} (base : 2 ≤ b)
    (read : ∀ d < b, value (digitChar d) = d) (n : Nat) : (numeral b n).map value = digits b n := by
  have same : (digits b n).map (value ∘ digitChar) = (digits b n).map id :=
    List.map_congr_left (fun d member => read d (lt_of_mem_digits base member))
  rw [numeral, List.map_map, same, List.map_id]

/-- The digits of a decimal numeral are read back. -/
theorem map_digitValue_numeral (n : Nat) : (numeral 10 n).map digitValue = digits 10 n :=
  map_value_numeral (by decide) (fun d small => (digitChar_spec d small).2) n

/-- Reading the decimal numeral of a number gives the number back. -/
theorem decimalValue_numeral (n : Nat) : decimalValue (numeral 10 n) = n := by
  rw [decimalValue, map_digitValue_numeral, ofDigits_digits]

/-- Different numbers have different decimal numerals. -/
theorem decimal_inj : decimal n = decimal k ↔ n = k := by
  constructor
  · intro same
    have read := congrArg (fun text => decimalValue text.toList) same
    simpa [decimal, decimalValue_numeral] using read
  · rintro rfl
    rfl

/-- A decimal numeral is made of digits. -/
theorem isDigit_of_mem_numeral (member : c ∈ numeral 10 n) : isDigit c = true := by
  obtain ⟨d, digit, rfl⟩ := List.mem_map.mp member
  exact (digitChar_spec d (lt_of_mem_digits (by decide) digit)).1

theorem numeral_ne_nil (b n : Nat) : numeral b n ≠ [] := by
  simpa [numeral] using digits_ne_nil b n

/-- A numeral of any base has no dash. -/
theorem dash_not_mem_numeral (base : 2 ≤ b) (small : b ≤ 36) (n : Nat) : '-' ∉ numeral b n := by
  have other : ∀ d < 36, digitChar d ≠ '-' := by decide
  intro member
  obtain ⟨d, digit, same⟩ := List.mem_map.mp member
  exact other d (Nat.lt_of_lt_of_le (lt_of_mem_digits base digit) small) same

/-- Digits without a leading zero are the numeral of their number. -/
theorem numeral_decimalValue {cs : List Char} (written : ∀ c ∈ cs, isDigit c = true)
    (full : cs ≠ []) (plain : ∀ d es, cs.map digitValue ≠ 0 :: d :: es) :
    numeral 10 (decimalValue cs) = cs := by
  have small : ∀ d ∈ cs.map digitValue, d < 10 := by
    intro d member
    obtain ⟨c, listed, rfl⟩ := List.mem_map.mp member
    have range := isDigit_iff.mp (written c listed)
    rw [digitValue]
    omega
  have same : cs.map (digitChar ∘ digitValue) = cs.map id :=
    List.map_congr_left (fun c member => digitChar_digitValue (written c member))
  rw [numeral, decimalValue, digits_ofDigits small (by simpa using full) plain, List.map_map, same,
    List.map_id]

/-! ## unsigned integers in text -/

/-- Whether a text is one or more decimal digits of a number. -/
def IsNumeral (ds : List Char) (n : Nat) : Prop :=
  ds ≠ [] ∧ (∀ c ∈ ds, isDigit c = true) ∧ decimalValue ds = n

/-- No numeral begins with a plus sign. -/
theorem IsNumeral.head_ne_plus (numeral : IsNumeral ('+' :: ds) n) : False := by
  have digit := numeral.2.1 '+' List.mem_cons_self
  contradiction

theorem ofNat_eq_iff {n : UInt64} (below : m < UInt64.size) : UInt64.ofNat m = n ↔ m = n.toNat := by
  constructor
  · rintro rfl
    exact (UInt64.toNat_ofNat_of_lt below).symm
  · rintro rfl
    exact UInt64.ofNat_toNat

/-- An unsigned integer is a numeral, perhaps behind a plus sign. -/
theorem readUnsigned?_eq_some_iff {n : UInt64} : readUnsigned? cs = some n ↔
    IsNumeral cs n.toNat ∨ ∃ ds, cs = '+' :: ds ∧ IsNumeral ds n.toNat := by
  have read : ∀ ds, (if ds.isEmpty || !ds.all isDigit then none
      else if decimalValue ds < UInt64.size then some (UInt64.ofNat (decimalValue ds)) else none) =
        some n ↔ IsNumeral ds n.toNat := by
    intro ds
    have below := n.toNat_lt_size
    unfold IsNumeral
    split
    · next other => grind
    · next digits =>
      have numeral : ds ≠ [] ∧ ∀ c ∈ ds, isDigit c = true := by grind
      split
      · next small => simpa [ofNat_eq_iff small, numeral.1] using fun _ => numeral.2
      · next large => grind
  unfold readUnsigned?
  -- what has a sign is no numeral itself, and what has none is not one behind a sign
  split
  · next rest =>
    have signed : ¬ IsNumeral ('+' :: rest) n.toNat := fun numeral => numeral.head_ne_plus
    simp only [read, signed, false_or, List.cons.injEq, true_and, exists_eq_left']
  · next unsigned =>
    have bare : ¬ ∃ ds, cs = '+' :: ds ∧ IsNumeral ds n.toNat := by
      rintro ⟨ds, rfl, -⟩
      exact unsigned ds rfl
    simp only [read, bare, or_false]

end GatewayClient.Text

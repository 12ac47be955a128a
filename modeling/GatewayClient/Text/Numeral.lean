/-!
# GatewayClient.Text.Numeral

Positional numerals. `digits` cuts a number into its digits in a base, most
significant first, and `ofDigits` reads digits back; `ofDigits_digits` says the two
are inverse. Decimal numerals appear in URLs and log lines, base 36 in minted ids.
-/

namespace GatewayClient.Text

/-- The digits of `n` in base `b`, most significant first; zero has one digit. A
base below two is taken as one numeral of one digit. -/
def digits (b n : Nat) : List Nat :=
  if _ : n < b ∨ b < 2 then [n] else digits b (n / b) ++ [n % b]
termination_by n
decreasing_by
  rename_i h
  simp only [not_or, Nat.not_lt] at h
  exact Nat.div_lt_self (by omega) (by omega)

/-- The number that digits denote in base `b`. -/
def ofDigits (b : Nat) (ds : List Nat) : Nat := ds.foldl (fun n d => n * b + d) 0

theorem ofDigits_append_singleton (b : Nat) (ds : List Nat) (d : Nat) :
    ofDigits b (ds ++ [d]) = ofDigits b ds * b + d := by
  simp [ofDigits]

/-- Reading the digits of a number gives the number back. -/
theorem ofDigits_digits (b n : Nat) : ofDigits b (digits b n) = n := by
  fun_induction digits b n with
  | case1 n h => simp [ofDigits]
  | case2 n h ih => rw [ofDigits_append_singleton, ih, Nat.div_add_mod']

/-- Each digit is below its base. -/
theorem lt_of_mem_digits {b n d : Nat} (hb : 2 ≤ b) (h : d ∈ digits b n) : d < b := by
  fun_induction digits b n with
  | case1 n hn => simp only [List.mem_singleton] at h; omega
  | case2 n hn ih =>
    rcases List.mem_append.1 h with h | h
    · exact ih h
    · simp only [List.mem_singleton] at h
      subst h
      exact Nat.mod_lt _ (by omega)

/-! ## digit characters -/

/-- The character of a digit: `0` to `9`, then `a` to `z`. -/
def digitChar (d : Nat) : Char := if d < 10 then Char.ofNat (48 + d) else Char.ofNat (87 + d)

/-- Whether a character is one of `0` to `9`. -/
def isDigit (c : Char) : Bool := '0' ≤ c && c ≤ '9'

/-- The value of a decimal digit. -/
def digitValue (c : Char) : Nat := c.toNat - 48

/-- The value of a hexadecimal digit of either case. -/
def hexValue? (c : Char) : Option Nat :=
  if isDigit c then some (c.toNat - 48)
  else if 'a' ≤ c && c ≤ 'f' then some (c.toNat - 87)
  else if 'A' ≤ c && c ≤ 'F' then some (c.toNat - 55)
  else none

/-- The numeral of `n` in base `b`. -/
def numeral (b n : Nat) : List Char := (digits b n).map digitChar

/-- The decimal numeral of `n`. -/
def decimal (n : Nat) : String := String.ofList (numeral 10 n)

/-- The decimal numeral of an integer, with a minus sign in front of a negative one. -/
def signedDecimal (n : Int) : String :=
  if n < 0 then "-" ++ decimal n.natAbs else decimal n.natAbs

/-- The number that a run of decimal digits denotes. -/
def decimalValue (cs : List Char) : Nat := ofDigits 10 (cs.map digitValue)

/-! ## unsigned integers in text -/

/-- Reads an unsigned 64-bit integer: decimal digits after at most one plus sign, and
nothing else. Leading zeros are allowed, an empty run of digits and a value of `2^64`
or more are not. -/
def readUnsigned? (cs : List Char) : Option UInt64 :=
  let body := match cs with
    | '+' :: rest => rest
    | _ => cs
  if body.isEmpty || !body.all isDigit then none
  else if decimalValue body < UInt64.size then some (UInt64.ofNat (decimalValue body)) else none

end GatewayClient.Text

import GatewayClient.Json.Value
import GatewayClient.Text.Numeral

/-!
# GatewayClient.Json.Literal

Number and string literals. Reading JSON can fail in two ways: the text ends too early
(`unfinished`), or a character stands where none like it may stand (`malformed`).

A literal is read in two ways at once. The *strict* reading yields its value. The *skim*
only passes over it, as is done for the value of an unknown field: it asks for neither
paired surrogates nor a number in range, and it calls a number that breaks off malformed.
-/

namespace GatewayClient.Json

/-- How a text fails to be JSON. -/
inductive Failure where
  | unfinished
  | malformed
deriving DecidableEq, Repr

/-! ## numbers -/

/-- A number as it was written: its sign, the digits before and after the point, and the
exponent. -/
structure Literal where
  negative : Bool
  whole : List Nat
  fraction : Option (List Nat)
  exponent : Option Int
deriving Repr

namespace Literal

/-- Appends digits to a significand as long as it stays a number of 64 bits; also the digits that
were left out. -/
def gather (significand : Nat) : List Nat → Nat × List Nat
  | [] => (significand, [])
  | d :: ds =>
    if significand * 10 + d < UInt64.size then gather (significand * 10 + d) ds
    else (significand, d :: ds)

/-- The floating-point number of a significand and a power of ten, if it is not too large. -/
def double? (negative : Bool) (significand : Nat) (power : Int) : Option Number :=
  (Decimal.Magnitude.ofScientific significand power).map
    (fun x => .double ⟨negative, x⟩)

/-- The value of a literal, if it is in range. Digits before the point that do not fit the
significand count as powers of ten, digits after the point that do not fit are dropped.
A literal without point and exponent is a whole number when 64 bits can hold it; minus
zero is a floating-point number. -/
def value? (l : Literal) : Option Number :=
  let (significand, left) := gather 0 l.whole
  match l.fraction, l.exponent, left with
  | none, none, [] =>
    if !l.negative then some (.natural (UInt64.ofNat significand))
    else if h : significand ≠ 0 ∧ significand ≤ Number.negativeCount then
      some (.negative ⟨significand - 1, by omega⟩)
    else double? true significand 0
  | fraction, exponent, left =>
    let digits := fraction.getD []
    let (full, dropped) := gather significand digits
    let power := (left.length : Int) - (digits.length - dropped.length : Nat) + exponent.getD 0
    double? l.negative full power

end Literal

/-- A literal that was passed over: the rest of the text, and what the strict reading
makes of it. -/
structure Passed (α : Type) where
  value : Except Failure α
  rest : List Char

/-- A literal that could not be passed over: what the strict reading and the skim call
the failure. -/
structure Broken where
  strict : Failure
  skim : Failure

/-- The digits at the front of a text and the rest. -/
def takeDigits (cs : List Char) : List Nat × List Char :=
  ((cs.takeWhile Text.isDigit).map Text.digitValue, cs.dropWhile Text.isDigit)

/-- One or more digits. Without any, the strict reading tells the end of the text from a
wrong character. -/
def someDigits (cs : List Char) : Except Broken (List Nat × List Char) :=
  match takeDigits cs with
  | ([], []) => .error ⟨.unfinished, .malformed⟩
  | ([], _) => .error ⟨.malformed, .malformed⟩
  | (ds, rest) => .ok (ds, rest)

/-- The digits before the point: no other digit follows a leading zero. -/
def wholeDigits (cs : List Char) : Except Broken (List Nat × List Char) := do
  let (ds, rest) ← someDigits cs
  match ds with
  | 0 :: _ :: _ => .error ⟨.malformed, .malformed⟩
  | _ => .ok (ds, rest)

/-- The fraction, if a point comes next. -/
def fractionPart (cs : List Char) : Except Broken (Option (List Nat) × List Char) :=
  match cs with
  | '.' :: rest => (someDigits rest).map (fun (ds, rest) => (some ds, rest))
  | _ => .ok (none, cs)

/-- The exponent, if an `e` of either case comes next. -/
def exponentPart (cs : List Char) : Except Broken (Option Int × List Char) :=
  match cs with
  | c :: rest =>
    if c = 'e' ∨ c = 'E' then
      let (negative, body) := match rest with
        | '-' :: body => (true, body)
        | '+' :: body => (false, body)
        | _ => (false, rest)
      (someDigits body).map (fun (ds, rest) =>
        let n : Int := Text.ofDigits 10 ds
        (some (if negative then -n else n), rest))
    else .ok (none, cs)
  | [] => .ok (none, [])

/-- A number at the front of a text. -/
def readNumber (cs : List Char) : Except Broken (Passed Number) := do
  let (negative, body) := match cs with
    | '-' :: body => (true, body)
    | _ => (false, cs)
  let (whole, rest) ← wholeDigits body
  let (fraction, rest) ← fractionPart rest
  let (exponent, rest) ← exponentPart rest
  let literal : Literal := ⟨negative, whole, fraction, exponent⟩
  return ⟨literal.value?.elim (.error .malformed) .ok, rest⟩

/-! ## strings -/

/-- The value of four hexadecimal digits at the front of a text. The text is too short
when fewer than four bytes are left, whatever they are. -/
def readHex (cs : List Char) : Except Failure (Nat × List Char) :=
  if (cs.take 4).foldl (fun n c => n + c.utf8Size) 0 < 4 then .error .unfinished
  else match cs with
    | a :: b :: c :: d :: rest =>
      match Text.hexValue? a, Text.hexValue? b, Text.hexValue? c, Text.hexValue? d with
      | some a, some b, some c, some d => .ok (((a * 16 + b) * 16 + c) * 16 + d, rest)
      | _, _, _, _ => .error .malformed
    | _ => .error .malformed

/-- Whether a UTF-16 unit is the first half of a pair. -/
def isHighSurrogate (n : Nat) : Bool := 0xD800 ≤ n && n ≤ 0xDBFF

/-- Whether a UTF-16 unit is the second half of a pair. -/
def isLowSurrogate (n : Nat) : Bool := 0xDC00 ≤ n && n ≤ 0xDFFF

/-- The second half of a pair, which has to follow its first half as an escape of its own;
and the rest of the text. -/
def readLowSurrogate (cs : List Char) : Except Failure (Nat × List Char) :=
  match cs with
  | [] => .error .unfinished
  | '\\' :: [] => .error .unfinished
  | '\\' :: 'u' :: rest => do
    let (n, rest) ← readHex rest
    if isLowSurrogate n then .ok (n, rest) else .error .malformed
  | _ => .error .malformed

/-- The character of a one-letter escape. -/
def escapeTarget? (c : Char) : Option Char :=
  if c = '"' ∨ c = '\\' ∨ c = '/' then some c
  else if c = 'b' then some '\x08'
  else if c = 'f' then some '\x0c'
  else if c = 'n' then some '\n'
  else if c = 'r' then some '\r'
  else if c = 't' then some '\t'
  else none

/-- Reading four digits leaves less of the text. -/
theorem readHex_length {cs rest : List Char} {n : Nat} (h : readHex cs = .ok (n, rest)) :
    rest.length < cs.length := by
  unfold readHex at h
  split at h
  · cases h
  · split at h
    · split at h
      · cases h; simp only [List.length_cons]; omega
      · cases h
    · cases h

/-- Reading a second half leaves less of the text. -/
theorem readLowSurrogate_length {cs rest : List Char} {n : Nat}
    (h : readLowSurrogate cs = .ok (n, rest)) : rest.length < cs.length := by
  unfold readLowSurrogate at h
  split at h
  · cases h
  · cases h
  · rename_i r
    cases hx : readHex r with
    | error e => simp [hx, bind, Except.bind] at h
    | ok p =>
      obtain ⟨m, r'⟩ := p
      have := readHex_length hx
      simp only [hx, bind, Except.bind] at h
      split at h
      · cases h; simp only [List.length_cons]; omega
      · cases h
  · cases h

/-- The strict reading and the skim of a string, after the opening quote. The strict
reading stops at its first failure; the skim goes on to the closing quote and yields the
text behind it. -/
structure StringReading where
  strict : Except Failure (List Char)
  skim : Except Failure (List Char)

namespace StringReading

/-- Both readings fail alike. -/
def fail (f : Failure) : StringReading := ⟨.error f, .error f⟩

/-- Puts a character before what was read strictly. -/
def push (c : Char) (r : StringReading) : StringReading :=
  { r with strict := r.strict.map (c :: ·) }

/-- Makes the strict reading fail. -/
def refuse (f : Failure) (r : StringReading) : StringReading := { r with strict := .error f }

end StringReading

/-- Reads the characters of a string up to its closing quote. -/
def readChars (cs : List Char) : StringReading :=
  match cs with
  | [] => .fail .unfinished
  | '"' :: rest => ⟨.ok [], .ok rest⟩
  | '\\' :: [] => .fail .unfinished
  | '\\' :: 'u' :: rest =>
    match _h : readHex rest with
    | .error f => .fail f
    | .ok (n, after) =>
      if isLowSurrogate n then (readChars after).refuse .malformed
      else if isHighSurrogate n then
        match h' : readLowSurrogate after with
        | .error f => (readChars after).refuse f
        | .ok (m, after) =>
          (readChars after).push (Char.ofNat ((n - 0xD800) * 0x400 + (m - 0xDC00) + 0x10000))
      else (readChars after).push (Char.ofNat n)
  | '\\' :: c :: rest =>
    match escapeTarget? c with
    | some d => (readChars rest).push d
    | none => .fail .malformed
  | c :: rest => if c < ' ' then .fail .malformed else (readChars rest).push c
termination_by cs.length
decreasing_by
  all_goals simp only [List.length_cons]
  · have := readHex_length _h; omega
  · have := readHex_length _h; omega
  · have := readHex_length _h; have := readLowSurrogate_length h'; omega
  · have := readHex_length _h; omega
  · omega
  · omega

/-- A string at the front of a text, after the opening quote. -/
def readString (cs : List Char) : Except Broken (Passed String) :=
  let r := readChars cs
  match r.skim with
  | .ok rest => .ok ⟨r.strict.map String.ofList, rest⟩
  | .error f =>
    match r.strict with
    | .error g => .error ⟨g, f⟩
    | .ok _ => .error ⟨f, f⟩

end GatewayClient.Json

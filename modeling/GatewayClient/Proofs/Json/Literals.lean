import GatewayClient.Proofs.Json.Printing
import Mathlib.Data.List.TakeWhile

/-!
# GatewayClient.Proofs.Json.Literals

What is read from a number or a string at the front of a text does not depend on what follows it,
once something tells that it has ended. A string ends with its quote. A number ends before a
character that is no part of it, which may be the first one of what follows:

```
12.5    ]        left over: " ]"   nothing that follows can change it     (rest is not empty)
12.5             left over: ""     what follows must not go on with it    (Stops)
```

Both are the condition `Ended`. Whole numbers and strings are read back as they are written, and a
natural number is read from its numeral only (`natural_of_readNumber`).
-/

namespace GatewayClient.Json

/-! ## where numbers end -/

/-- No number goes on here, whatever way it is written. -/
def Stops (rest : List Char) : Prop :=
  ∀ c ∈ rest.head?, Text.isDigit c = false ∧ c ∉ ['.', 'e', 'E']

/-- Numbers stop at the end of a text. -/
theorem Stops.nil : Stops [] := by simp [Stops]

theorem Stops.cons (digit : Text.isDigit c = false) (mark : c ∉ ['.', 'e', 'E'])
    (rest : List Char) : Stops (c :: rest) := by
  simpa [Stops] using ⟨digit, by simpa using mark⟩

/-- Numbers stop before a space. -/
theorem Stops.of_space (space : isSpace c = true) (rest : List Char) : Stops (c :: rest) := by
  simp only [isSpace, Bool.or_eq_true, beq_iff_eq] at space
  rcases space with ((rfl | rfl) | rfl) | rfl <;> exact .cons (by decide) (by decide) rest

/-- Whether what was left of a text says where a reading ended, or what follows the text does. -/
def Ended (rest more : List Char) : Prop := rest ≠ [] ∨ Stops more

/-- Digits are taken up to the first character that is none. -/
theorem takeDigits_eq_iff {cs rest : List Char} {ds : List Nat} :
    takeDigits cs = (ds, rest) ↔ ∃ written, cs = written ++ rest ∧
      (∀ c ∈ written, Text.isDigit c = true) ∧ (∀ c ∈ rest.head?, Text.isDigit c = false) ∧
      written.map Text.digitValue = ds := by
  constructor
  · intro taken
    cases taken
    refine ⟨cs.takeWhile Text.isDigit, (List.takeWhile_append_dropWhile).symm, ?_, ?_, rfl⟩
    · exact fun c member => List.mem_takeWhile_imp member
    · intro c first
      have stop := List.head?_dropWhile_not Text.isDigit cs
      rw [first] at stop
      simpa using stop
  · rintro ⟨written, rfl, digits, stop, rfl⟩
    have none : rest.takeWhile Text.isDigit = [] ∧ rest.dropWhile Text.isDigit = rest := by
      cases rest with
      | nil => simp
      | cons c rest => simp [stop c rfl]
    rw [takeDigits, List.takeWhile_append_of_pos digits, List.dropWhile_append_of_pos digits,
      none.1, none.2, List.append_nil]

/-- Digits that ended are taken alike, whatever follows. -/
theorem takeDigits_append {cs rest more : List Char} {ds : List Nat}
    (read : takeDigits cs = (ds, rest)) (ended : Ended rest more) :
    takeDigits (cs ++ more) = (ds, rest ++ more) := by
  obtain ⟨written, rfl, digits, stop, rfl⟩ := takeDigits_eq_iff.mp read
  refine takeDigits_eq_iff.mpr ⟨written, by simp, digits, ?_, rfl⟩
  cases rest with
  | nil => exact fun c first => ((ended.resolve_left (by simp)) c first).1
  | cons c rest => exact stop

/-- Some digits are what is taken, unless there are none. -/
theorem someDigits_eq_ok {cs rest : List Char} {ds : List Nat} :
    someDigits cs = .ok (ds, rest) ↔ takeDigits cs = (ds, rest) ∧ ds ≠ [] := by
  unfold someDigits
  split <;> grind

theorem someDigits_append {cs rest more : List Char} {ds : List Nat}
    (read : someDigits cs = .ok (ds, rest)) (ended : Ended rest more) :
    someDigits (cs ++ more) = .ok (ds, rest ++ more) := by
  obtain ⟨taken, full⟩ := someDigits_eq_ok.mp read
  exact someDigits_eq_ok.mpr ⟨takeDigits_append taken ended, full⟩

/-- Digits before the point are some digits that do not go on behind a leading zero. -/
theorem wholeDigits_eq_ok {cs rest : List Char} {ds : List Nat} :
    wholeDigits cs = .ok (ds, rest) ↔
      someDigits cs = .ok (ds, rest) ∧ ∀ d es, ds ≠ 0 :: d :: es := by
  unfold wholeDigits
  cases someDigits cs with
  | error b => simp [bind, Except.bind]
  | ok p =>
    simp only [bind, Except.bind]
    split <;> grind

/-- Where a number stops there is no fraction. -/
theorem fractionPart_of_stops (stops : Stops rest) : fractionPart rest = .ok (none, rest) := by
  unfold fractionPart
  split
  · next rest => exact absurd (stops '.' rfl).2 (by simp)
  · rfl

/-- Nothing is taken where there is no fraction. -/
theorem fractionPart_eq_none {cs rest : List Char} (read : fractionPart cs = .ok (none, rest)) :
    rest = cs := by
  unfold fractionPart at read
  split at read
  · obtain ⟨_, -, same⟩ := map_eq_ok.mp read
    cases same
  · cases read
    rfl

theorem fractionPart_append {cs rest more : List Char} {fraction : Option (List Nat)}
    (read : fractionPart cs = .ok (fraction, rest)) (ended : Ended rest more) :
    fractionPart (cs ++ more) = .ok (fraction, rest ++ more) := by
  unfold fractionPart at read
  split at read
  · next body =>
    obtain ⟨⟨ds, left⟩, digits, same⟩ := map_eq_ok.mp read
    cases same
    rw [List.cons_append, fractionPart, someDigits_append digits ended]
    rfl
  · next other =>
    cases read
    cases cs with
    | nil => exact fractionPart_of_stops (ended.resolve_left (by simp))
    | cons c cs =>
      unfold fractionPart
      split
      · next same => exact absurd (List.cons.inj same).1 (fun dot => other cs (by rw [dot]))
      · rfl

/-- Where a number stops there is no exponent. -/
theorem exponentPart_of_stops (stops : Stops rest) : exponentPart rest = .ok (none, rest) := by
  unfold exponentPart
  split
  · next c rest =>
    have mark := (stops c rfl).2
    simp only [List.mem_cons, List.not_mem_nil, or_false, not_or] at mark
    rw [if_neg (not_or.mpr mark.2)]
  · rfl

/-- The sign of an exponent, whether it is a minus, and what follows it. -/
def exponentSign (cs : List Char) : Bool × List Char :=
  match cs with
  | '-' :: body => (true, body)
  | '+' :: body => (false, body)
  | _ => (false, cs)

theorem exponentSign_append (full : cs ≠ []) (more : List Char) :
    exponentSign (cs ++ more) = ((exponentSign cs).1, (exponentSign cs).2 ++ more) := by
  obtain ⟨c, cs, rfl⟩ := List.exists_cons_of_ne_nil full
  by_cases minus : c = '-'
  · subst minus
    rfl
  by_cases plus : c = '+'
  · subst plus
    rfl
  have unsigned : ∀ rest, exponentSign (c :: rest) = (false, c :: rest) := by
    intro rest
    unfold exponentSign
    split <;> grind
  rw [List.cons_append, unsigned, unsigned]
  rfl

/-- An exponent begins with its mark, and its digits stand behind the sign. -/
theorem exponentPart_cons (c : Char) (cs : List Char) : exponentPart (c :: cs) =
    if c = 'e' ∨ c = 'E' then (someDigits (exponentSign cs).2).map (fun p =>
      (some (if (exponentSign cs).1 then -(Text.ofDigits 10 p.1 : Int) else Text.ofDigits 10 p.1),
        p.2))
    else .ok (none, c :: cs) := rfl

/-- Nothing is taken where there is no exponent. -/
theorem exponentPart_eq_none {cs rest : List Char} (read : exponentPart cs = .ok (none, rest)) :
    rest = cs := by
  cases cs with
  | nil =>
    cases read
    rfl
  | cons c cs =>
    rw [exponentPart_cons] at read
    split at read
    · obtain ⟨_, -, same⟩ := map_eq_ok.mp read
      cases same
    · cases read
      rfl

theorem exponentPart_append {cs rest more : List Char} {exponent : Option Int}
    (read : exponentPart cs = .ok (exponent, rest)) (ended : Ended rest more) :
    exponentPart (cs ++ more) = .ok (exponent, rest ++ more) := by
  cases cs with
  | nil =>
    cases read
    exact exponentPart_of_stops (ended.resolve_left (by simp))
  | cons c cs =>
    rw [List.cons_append, exponentPart_cons] at *
    split at read
    · next mark =>
      obtain ⟨⟨ds, left⟩, digits, same⟩ := map_eq_ok.mp read
      cases same
      have full : cs ≠ [] := by
        rintro rfl
        contradiction
      rw [if_pos mark, exponentSign_append full, someDigits_append digits ended]
      rfl
    · next other =>
      cases read
      rw [if_neg other]
      rfl

/-- A text without its minus sign, and whether it had one. -/
def numberSign (cs : List Char) : Bool × List Char :=
  match cs with
  | '-' :: body => (true, body)
  | _ => (false, cs)

theorem numberSign_append (full : cs ≠ []) (more : List Char) :
    numberSign (cs ++ more) = ((numberSign cs).1, (numberSign cs).2 ++ more) := by
  obtain ⟨c, cs, rfl⟩ := List.exists_cons_of_ne_nil full
  by_cases minus : c = '-'
  · subst minus
    rfl
  have unsigned : ∀ rest, numberSign (c :: rest) = (false, c :: rest) := by
    intro rest
    unfold numberSign
    split <;> grind
  rw [List.cons_append, unsigned, unsigned]
  rfl

/-- Nothing is taken where there is no minus sign. -/
theorem numberSign_of_unsigned {cs : List Char} (unsigned : (numberSign cs).1 = false) :
    (numberSign cs).2 = cs := by
  unfold numberSign at unsigned ⊢
  split at unsigned
  · contradiction
  · rfl

/-- How a number is read, part by part. -/
theorem readNumber_eq_ok {cs : List Char} {p : Passed Number} :
    readNumber cs = .ok p ↔ ∃ whole fraction exponent rest rest',
      wholeDigits (numberSign cs).2 = .ok (whole, rest) ∧
      fractionPart rest = .ok (fraction, rest') ∧
      exponentPart rest' = .ok (exponent, p.rest) ∧
      p.value = (Literal.mk (numberSign cs).1 whole fraction exponent).value?.elim
        (.error .malformed) .ok := by
  have steps : readNumber cs = (do
      let w ← wholeDigits (numberSign cs).2
      let f ← fractionPart w.2
      let e ← exponentPart f.2
      return ⟨(Literal.mk (numberSign cs).1 w.1 f.1 e.1).value?.elim (.error .malformed) .ok,
        e.2⟩) := rfl
  rw [steps]
  simp only [bind_eq_ok]
  constructor
  · rintro ⟨⟨whole, rest⟩, w, ⟨fraction, rest'⟩, f, ⟨exponent, rest''⟩, e, same⟩
    cases same
    exact ⟨whole, fraction, exponent, rest, rest', w, f, e, rfl⟩
  · rintro ⟨whole, fraction, exponent, rest, rest', w, f, e, same⟩
    obtain ⟨value, left⟩ := p
    subst same
    exact ⟨(whole, rest), w, (fraction, rest'), f, (exponent, left), e, rfl⟩

/-- A number that has ended is read alike, whatever follows. -/
theorem readNumber_append {cs more : List Char} {p : Passed Number}
    (read : readNumber cs = .ok p) (ended : Ended p.rest more) :
    readNumber (cs ++ more) = .ok ⟨p.value, p.rest ++ more⟩ := by
  obtain ⟨whole, fraction, exponent, rest, rest', w, f, e, value⟩ := readNumber_eq_ok.mp read
  have full : cs ≠ [] := by
    rintro rfl
    contradiction
  have third : Ended rest' more := by
    refine ended.imp_left (fun left empty => left ?_)
    rw [empty] at e
    exact (Prod.mk.inj (Except.ok.inj e)).2.symm
  have second : Ended rest more := by
    refine third.imp_left (fun left empty => left ?_)
    rw [empty] at f
    exact (Prod.mk.inj (Except.ok.inj f)).2.symm
  obtain ⟨digits, plain⟩ := wholeDigits_eq_ok.mp w
  refine readNumber_eq_ok.mpr ⟨whole, fraction, exponent, rest ++ more, rest' ++ more, ?_,
    fractionPart_append f third, exponentPart_append e ended, ?_⟩
  · rw [numberSign_append full]
    exact wholeDigits_eq_ok.mpr ⟨someDigits_append digits second, plain⟩
  · rw [numberSign_append full]
    exact value

/-! ## whole numbers -/

namespace Literal

/-- Digits that 64 bits can hold are gathered to their number, and others are not. -/
theorem gather_eq_iff {ds : List Nat} {significand m : Nat} (fits : significand < UInt64.size) :
    gather significand ds = (m, []) ↔
      ds.foldl (fun n d => n * 10 + d) significand = m ∧ m < UInt64.size := by
  have grows : ∀ (ds : List Nat) (n : Nat), n ≤ ds.foldl (fun n d => n * 10 + d) n := by
    intro ds
    induction ds with
    | nil => exact fun n => le_rfl
    | cons d ds ih => exact fun n => le_trans (by omega) (ih (n * 10 + d))
  induction ds generalizing significand with
  | nil =>
    simp only [gather, Prod.mk.injEq, and_true, List.foldl_nil]
    exact ⟨fun same => ⟨same, same ▸ fits⟩, fun same => same.1⟩
  | cons d ds ih =>
    rw [gather, List.foldl_cons]
    split
    · next room => exact ih room
    · next large =>
      refine iff_of_false (by simp) ?_
      rintro ⟨rfl, small⟩
      exact large (lt_of_le_of_lt (grows ds _) small)

/-- The digits of a number of 64 bits are gathered to the number. -/
theorem gather_digits (fits : n < UInt64.size) : gather 0 (Text.digits 10 n) = (n, []) :=
  (gather_eq_iff (by decide)).mpr ⟨Text.ofDigits_digits 10 n, fits⟩

/-- When a literal is a natural number. -/
theorem value?_eq_natural {l : Literal} {n : UInt64} : l.value? = some (.natural n) ↔
    l.negative = false ∧ l.fraction = none ∧ l.exponent = none ∧
      Text.ofDigits 10 l.whole = n.toNat := by
  have double : ∀ negative significand power,
      double? negative significand power ≠ some (.natural n) := by
    intro negative significand power
    unfold double?
    cases Decimal.Magnitude.ofScientific significand power <;> simp
  have gathered : ∀ m, gather 0 l.whole = (m, []) ↔
      Text.ofDigits 10 l.whole = m ∧ m < UInt64.size := fun m => gather_eq_iff (by decide)
  obtain ⟨negative, whole, fraction, exponent⟩ := l
  cases taken : gather 0 whole with
  | mk significand left =>
    simp only [taken, Prod.mk.injEq] at gathered
    simp only [value?, taken]
    split
    · obtain ⟨rfl, small⟩ := (gathered significand).mp ⟨rfl, rfl⟩
      cases negative with
      | false => simp [Text.ofNat_eq_iff small]
      | true =>
        rw [if_neg (by decide)]
        split <;> simp [double]
    · next apart =>
      simp only [double, false_iff]
      rintro ⟨-, rfl, rfl, value⟩
      exact apart rfl rfl ((gathered _).mpr ⟨value, n.toNat_lt_size⟩).2

/-- The literal of a negative number. -/
theorem value?_negative (n : Fin Number.negativeCount) :
    (Literal.mk true (Text.digits 10 (n.val + 1)) none none).value? = some (.negative n) := by
  have bound : n.val < 9223372036854775808 := n.isLt
  have fits : n.val + 1 < UInt64.size := by
    have size : UInt64.size = 18446744073709551616 := rfl
    omega
  have range : n.val + 1 ≤ Number.negativeCount := n.isLt
  simp [value?, gather_digits fits, range]

end Literal

/-- A numeral is read as its digits, with nothing left over. -/
theorem wholeDigits_numeral (n : Nat) :
    wholeDigits (Text.numeral 10 n) = .ok (Text.digits 10 n, []) := by
  have taken : takeDigits (Text.numeral 10 n) = (Text.digits 10 n, []) :=
    takeDigits_eq_iff.mpr ⟨Text.numeral 10 n, (List.append_nil _).symm,
      fun _ => Text.isDigit_of_mem_numeral, by simp, Text.map_digitValue_numeral n⟩
  exact wholeDigits_eq_ok.mpr
    ⟨someDigits_eq_ok.mpr ⟨taken, Text.digits_ne_nil 10 n⟩, Text.digits_ne_zero_cons n⟩

/-- A numeral begins with a digit. -/
theorem numeral_eq_cons (n : Nat) :
    ∃ c cs, Text.numeral 10 n = c :: cs ∧ Text.isDigit c = true := by
  obtain ⟨c, cs, written⟩ := List.exists_cons_of_ne_nil (Text.numeral_ne_nil 10 n)
  exact ⟨c, cs, written, Text.isDigit_of_mem_numeral (n := n) (by simp [written])⟩

theorem numberSign_numeral (n : Nat) :
    numberSign (Text.numeral 10 n) = (false, Text.numeral 10 n) := by
  obtain ⟨c, cs, written, digit⟩ := numeral_eq_cons n
  rw [written]
  unfold numberSign
  split
  · next same =>
    cases same
    contradiction
  · rfl

/-- A whole number is read back as it is written. -/
theorem readNumber_render {n : Number} (whole : n.toInt?.isSome) :
    readNumber n.render = .ok ⟨.ok n, []⟩ := by
  cases n with
  | natural n =>
    have value : (Literal.mk false (Text.digits 10 n.toNat) none none).value? = some (.natural n) :=
      Literal.value?_eq_natural.mpr ⟨rfl, rfl, rfl, Text.ofDigits_digits 10 _⟩
    refine readNumber_eq_ok.mpr ⟨Text.digits 10 n.toNat, none, none, [], [], ?_, rfl, rfl, ?_⟩
    · rw [Number.render, numberSign_numeral]
      exact wholeDigits_numeral _
    · rw [Number.render, numberSign_numeral, value]
      rfl
  | negative n =>
    refine readNumber_eq_ok.mpr
      ⟨Text.digits 10 (n.val + 1), none, none, [], [], wholeDigits_numeral _, rfl, rfl, ?_⟩
    rw [Number.render, numberSign, Literal.value?_negative]
    rfl
  | double x => simp [Number.toInt?] at whole

/-- A natural number is read from its numeral only. -/
theorem natural_of_readNumber {cs rest : List Char} {n : UInt64}
    (read : readNumber cs = .ok ⟨.ok (.natural n), rest⟩) :
    cs = Text.numeral 10 n.toNat ++ rest := by
  obtain ⟨whole, fraction, exponent, rest', rest'', w, f, e, value⟩ := readNumber_eq_ok.mp read
  cases literal : (Literal.mk (numberSign cs).1 whole fraction exponent).value? with
  | none =>
    rw [literal] at value
    contradiction
  | some m =>
    rw [literal] at value
    cases value
    obtain ⟨unsigned, rfl, rfl, denotes⟩ := Literal.value?_eq_natural.mp literal
    obtain ⟨digits, plain⟩ := wholeDigits_eq_ok.mp w
    obtain ⟨taken, full⟩ := someDigits_eq_ok.mp digits
    obtain ⟨written, body, isDigits, -, rfl⟩ := takeDigits_eq_iff.mp taken
    have left : rest = rest' := (exponentPart_eq_none e).trans (fractionPart_eq_none f)
    have whole : Text.numeral 10 n.toNat = written := by
      rw [← denotes]
      exact Text.numeral_decimalValue isDigits (by simpa using full) plain
    rw [whole, left, ← body, numberSign_of_unsigned unsigned]

/-! ## strings -/

/-- Four digits of an escape are read alike, whatever follows. -/
theorem readHex_append {cs rest : List Char} (read : readHex cs = .ok (n, rest))
    (more : List Char) : readHex (cs ++ more) = .ok (n, rest ++ more) := by
  unfold readHex at read ⊢
  split at read
  · contradiction
  · next long =>
    split at read
    · next a b c d rest =>
      have long' : ¬ ((a :: b :: c :: d :: (rest ++ more)).take 4).foldl
          (fun n c => n + c.utf8Size) 0 < 4 := long
      rw [List.cons_append, List.cons_append, List.cons_append, List.cons_append, if_neg long']
      simp only
      split at read
      · cases read
        rfl
      · contradiction
    · contradiction

/-- A second half is read alike, whatever follows. -/
theorem readLowSurrogate_append {cs rest : List Char} (read : readLowSurrogate cs = .ok (n, rest))
    (more : List Char) : readLowSurrogate (cs ++ more) = .ok (n, rest ++ more) := by
  unfold readLowSurrogate at read
  split at read
  · contradiction
  · contradiction
  · next rest =>
    obtain ⟨⟨m, left⟩, hex, low⟩ := bind_eq_ok.mp read
    rw [List.cons_append, List.cons_append, readLowSurrogate, readHex_append hex]
    simp only at low
    simp only [bind, Except.bind]
    split at low
    · next is =>
      cases low
      rw [if_pos is]
    · contradiction
  · contradiction

/-- How an escape by number is read. -/
theorem readChars_of_readHex {cs after : List Char} (read : readHex cs = .ok (n, after)) :
    readChars ('\\' :: 'u' :: cs) =
      if isLowSurrogate n then (readChars after).refuse .malformed
      else if isHighSurrogate n then
        match readLowSurrogate after with
        | .error f => (readChars after).refuse f
        | .ok (m, after) =>
          (readChars after).push (Char.ofNat ((n - 0xD800) * 0x400 + (m - 0xDC00) + 0x10000))
      else (readChars after).push (Char.ofNat n) := by
  rw [readChars]
  split
  · next f broken => simp [read] at broken
  · next m left same =>
    cases read.symm.trans same
    split
    · rfl
    split
    · split <;> simp_all
    · rfl

/-- An escape by number that is broken refuses the string. -/
theorem readChars_of_readHex_error {cs : List Char} (broken : readHex cs = .error f) :
    readChars ('\\' :: 'u' :: cs) = .fail f := by
  rw [readChars]
  split
  · next g same =>
    cases broken.symm.trans same
    rfl
  · next same => simp [broken] at same

/-- A first half without its second one stays so, if the string goes on. -/
theorem readLowSurrogate_append_error {cs rest : List Char}
    (unpaired : readLowSurrogate cs = .error f) (read : (readChars cs).skim = .ok rest)
    (more : List Char) :
    readLowSurrogate (cs ++ more) = .error f := by
  -- more could bring the second half only where the text ends, and there the string does not go on
  unfold readLowSurrogate at unpaired
  split at unpaired
  · simp [readChars, StringReading.fail] at read
  · simp [readChars, StringReading.fail] at read
  · next digits =>
    cases hex : readHex digits with
    | error g =>
      rw [readChars_of_readHex_error hex] at read
      contradiction
    | ok p =>
      obtain ⟨n, after⟩ := p
      rw [hex] at unpaired
      rw [List.cons_append, List.cons_append, readLowSurrogate, readHex_append hex]
      simp only [bind, Except.bind] at unpaired ⊢
      split at unpaired
      · contradiction
      · next high =>
        rw [if_neg high]
        exact unpaired
  · next empty alone other =>
    cases unpaired
    obtain ⟨c, cs, rfl⟩ := List.exists_cons_of_ne_nil empty
    unfold readLowSurrogate
    cases cs <;> split <;> simp_all

/-- A string that was passed over to its quote is read alike, also where it is refused. -/
theorem readChars_append {cs rest : List Char} (read : (readChars cs).skim = .ok rest)
    (more : List Char) : readChars (cs ++ more) = ⟨(readChars cs).strict, .ok (rest ++ more)⟩ := by
  fun_induction readChars cs generalizing rest with
  | case1 => contradiction
  | case2 tail =>
    cases read
    rw [List.cons_append, readChars]
  | case3 => contradiction
  | case4 => contradiction
  | case5 digits n after hex low ih =>
    rw [List.cons_append, List.cons_append, readChars_of_readHex (readHex_append hex more),
      if_pos low, ih read]
    rfl
  | case6 digits n after hex low high f unpaired ih =>
    rw [List.cons_append, List.cons_append, readChars_of_readHex (readHex_append hex more),
      if_neg low, if_pos high, readLowSurrogate_append_error unpaired read, ih read]
    rfl
  | case7 digits n between hex low high m after second ih =>
    rw [List.cons_append, List.cons_append, readChars_of_readHex (readHex_append hex more),
      if_neg low, if_pos high, readLowSurrogate_append second]
    simp only [ih read]
    rfl
  | case8 digits n after hex low high ih =>
    rw [List.cons_append, List.cons_append, readChars_of_readHex (readHex_append hex more),
      if_neg low, if_neg high, ih read]
    rfl
  | case9 c after notHex d target ih =>
    rw [List.cons_append, List.cons_append, readChars, target]
    · simp only [ih read]
      rfl
    · exact notHex
  | case10 => contradiction
  | case11 => contradiction
  | case12 c after quote alone hex escape control ih =>
    have backslash : c ≠ '\\' := by
      intro same
      cases after with
      | nil => exact alone same rfl
      | cons d after => exact escape d after same rfl
    rw [List.cons_append, readChars]
    · rw [if_neg control, ih read]
      rfl
    all_goals simp_all

/-- A string that has ended is read alike, whatever follows. -/
theorem readString_append {cs : List Char} {p : Passed String} (read : readString cs = .ok p)
    (more : List Char) : readString (cs ++ more) = .ok ⟨p.value, p.rest ++ more⟩ := by
  unfold readString at read ⊢
  cases skim : (readChars cs).skim with
  | error f => cases strict : (readChars cs).strict <;> simp [skim, strict] at read
  | ok rest =>
    simp only [skim] at read
    cases read
    simp only [readChars_append skim more]

/-- A string is read back as it is written, and no further than its quote. -/
theorem readString_renderString (s : String) (rest : List Char) :
    readString (s.toList.flatMap escapeChar ++ '"' :: rest) = .ok ⟨.ok s, rest⟩ := by
  simp [readString, readChars_escaped, Except.map]

end GatewayClient.Json

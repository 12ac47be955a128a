import GatewayClient.Json.Literal
import GatewayClient.Proofs.Json.Sorted
import GatewayClient.Proofs.Text.Numerals
import GatewayClient.Json.Printer
import Mathlib.Tactic.SplitIfs

/-!
# GatewayClient.Proofs.Json.Printing

The compact text of a value determines the value, up to numbers that are written alike. A text is
followed from its front:

```
"..."        ends with the first quote that is not escaped
12.5e+3      ends before the first character that is no part of a number
[1,2]  {..}  tell from their next character whether another value comes
```

so that of two equal texts the first values are the same and what follows them is equal, whatever it
is (`Value.same_of_render_append`). No text has more than one line (`Value.newline_not_mem_text`).
-/

namespace GatewayClient

/-! ## strings -/

namespace Json

/-- Four hexadecimal digits that begin with two zeros. -/
theorem readHex_digitChars (high : h < 16) (low : l < 16) (cs : List Char) :
    readHex ('0' :: '0' :: Text.digitChar h :: Text.digitChar l :: cs) =
      .ok (h * 16 + l, cs) := by
  have zero : Text.hexValue? '0' = some 0 := by decide
  have size : ('0' : Char).utf8Size = 1 := by decide
  simp [readHex, zero, size, Text.hexValue?_digitChar h high, Text.hexValue?_digitChar l low,
    Text.utf8Size_digitChar h high, Text.utf8Size_digitChar l low]

/-- One step of the reader undoes the escape of a character. -/
theorem readChars_escapeChar (c : Char) (cs : List Char) :
    readChars (escapeChar c ++ cs) = (readChars cs).push c := by
  by_cases named : c ∈ ['"', '\\', '\n', '\r', '\t', '\x08', '\x0c']
  · simp only [List.mem_cons, List.not_mem_nil, or_false] at named
    rcases named with rfl | rfl | rfl | rfl | rfl | rfl | rfl <;>
      simp [escapeChar, readChars, escapeTarget?]
  · simp only [List.mem_cons, List.not_mem_nil, or_false, not_or] at named
    obtain ⟨quote, backslash, feed, ret, tab, back, page⟩ := named
    by_cases control : c < ' '
    · have below : c.toNat < 32 := control
      have code :=
        readHex_digitChars (h := c.toNat / 16) (l := c.toNat % 16) (by omega) (by omega) cs
      rw [Nat.div_add_mod'] at code
      have low : isLowSurrogate c.toNat = false := by simp [isLowSurrogate]; omega
      have high : isHighSurrogate c.toNat = false := by simp [isHighSurrogate]; omega
      simp only [escapeChar, quote, backslash, feed, ret, tab, back, page, control, if_true,
        if_false, List.cons_append, List.nil_append]
      rw [readChars]
      split
      · next f broken =>
        rw [code] at broken
        contradiction
      · next n after read =>
        rw [code] at read
        cases read
        simp [low, high]
    · simp only [escapeChar, quote, backslash, feed, ret, tab, back, page, control, if_false,
        List.singleton_append]
      rw [readChars]
      · simp [control]
      all_goals simp [quote, backslash]

/-- The reader takes a written string to its closing quote. -/
theorem readChars_escaped (cs rest : List Char) :
    readChars (cs.flatMap escapeChar ++ '"' :: rest) = ⟨.ok cs, .ok rest⟩ := by
  induction cs with
  | nil => simp [readChars]
  | cons c cs ih =>
    rw [List.flatMap_cons, List.append_assoc, readChars_escapeChar, ih]
    rfl

/-- A written string determines the string and what follows it. -/
theorem renderString_append_inj {s t : String} {rest rest' : List Char}
    (same : renderString s ++ rest = renderString t ++ rest') : s = t ∧ rest = rest' := by
  simp only [renderString, List.append_assoc, List.cons_append, List.nil_append, List.cons.injEq,
    true_and] at same
  have read := congrArg readChars same
  rw [readChars_escaped, readChars_escaped] at read
  simpa [String.toList_inj] using read

end Json

/-! ## numbers -/

namespace Decimal

/-- Whether a character may be part of a written number. -/
def isNumberPart (c : Char) : Bool := Text.isDigit c || ['-', '+', '.', 'e'].contains c

/-- A numeral is made of parts of numbers. -/
theorem isNumberPart_numeral : ∀ c ∈ Text.numeral 10 n, isNumberPart c = true := by
  intro c member
  simp [isNumberPart, Text.isDigit_of_mem_numeral member]

/-- However digits are laid out, point and exponent are parts of numbers. -/
theorem isNumberPart_layout {ds : List Char} (parts : ∀ c ∈ ds, isNumberPart c = true)
    (power : Int) : ∀ c ∈ layout ds power, isNumberPart c = true := by
  have zero : isNumberPart '0' = true := by decide
  have point : isNumberPart '.' = true := by decide
  have mark : isNumberPart 'e' = true := by decide
  have minus : isNumberPart '-' = true := by decide
  have plus : isNumberPart '+' = true := by decide
  have numeral := fun k => @isNumberPart_numeral k
  have taken := fun k c => List.mem_of_mem_take (i := k) (a := c) (l := ds)
  have left := fun k c => List.mem_of_mem_drop (i := k) (a := c) (l := ds)
  intro c member
  simp only [layout] at member
  split_ifs at member <;>
    simp only [List.mem_append, List.mem_replicate, List.mem_cons, List.not_mem_nil] at member <;>
    grind

theorem layout_ne_nil (ds : List Char) (power : Int) : layout ds power ≠ [] := by
  simp only [layout]
  split_ifs <;> simp

theorem Binary64.isNumberPart_render (x : Binary64) : ∀ c ∈ x.render, isNumberPart c = true := by
  have zero : isNumberPart '0' = true := by decide
  have point : isNumberPart '.' = true := by decide
  have minus : isNumberPart '-' = true := by decide
  have digits :=
    isNumberPart_layout (@isNumberPart_numeral x.magnitude.shortest.1) x.magnitude.shortest.2
  intro c member
  unfold render at member
  grind

theorem Binary64.render_ne_nil (x : Binary64) : x.render ≠ [] := by
  have digits := layout_ne_nil (Text.numeral 10 x.magnitude.shortest.1) x.magnitude.shortest.2
  unfold render
  grind

end Decimal

namespace Json

open Decimal

/-- A written number is made of parts of numbers. -/
theorem Number.isNumberPart_render (n : Number) : ∀ c ∈ n.render, isNumberPart c = true := by
  intro c member
  cases n with
  | natural n => exact isNumberPart_numeral c member
  | negative n =>
    rcases List.mem_cons.mp member with rfl | rest
    · decide
    · exact isNumberPart_numeral c rest
  | double x => exact x.isNumberPart_render c member

/-- A written number is not empty. -/
theorem Number.render_ne_nil (n : Number) : n.render ≠ [] := by
  cases n with
  | natural n => exact Text.numeral_ne_nil 10 _
  | negative n => exact List.cons_ne_nil _ _
  | double x => exact x.render_ne_nil

/-- The text of a whole number is its decimal numeral. -/
theorem Number.text_of_toInt? {n : Number} (whole : n.toInt? = some i) :
    n.text = Text.signedDecimal i := by
  cases n with
  | natural n =>
    cases whole
    simp [text, render, Text.signedDecimal, Text.decimal]
  | negative n =>
    cases whole
    have below : -(n.val + 1 : Int) < 0 := by omega
    have size : (-(n.val + 1 : Int)).natAbs = n.val + 1 := by omega
    rw [Text.signedDecimal, if_pos below, size, ← String.toList_inj]
    simp [text, render, Text.decimal]
  | double x => contradiction

/-- No number goes on here. -/
def Ends (rest : List Char) : Prop := ∀ c ∈ rest.head?, isNumberPart c = false

theorem Ends.nil : Ends [] := by simp [Ends]

theorem Ends.cons (apart : isNumberPart c = false) (rest : List Char) : Ends (c :: rest) := by
  simpa [Ends] using apart

/-- A written number goes on to where something ends it. -/
theorem Number.takeWhile_render (n : Number) (ends : Ends rest) :
    (n.render ++ rest).takeWhile isNumberPart = n.render := by
  rw [List.takeWhile_append_of_pos n.isNumberPart_render]
  cases rest with
  | nil => simp
  | cons c rest => simp [ends c rfl]

/-- A written number determines its text and what follows it, unless that begins with a part of a
number. -/
theorem Number.render_append_inj {m n : Number} (left : Ends rest) (right : Ends rest')
    (same : m.render ++ rest = n.render ++ rest') : m.render = n.render ∧ rest = rest' := by
  have front := congrArg (List.takeWhile isNumberPart) same
  rw [m.takeWhile_render left, n.takeWhile_render right] at front
  rw [front] at same
  exact ⟨front, List.append_cancel_left same⟩

/-! ## kinds -/

/-- The kinds of values. -/
inductive Kind where
  | null
  | bool
  | number
  | string
  | array
  | object
deriving DecidableEq

namespace Value

/-- The kind of a value. -/
def kind : Value → Kind
  | null => .null
  | bool _ => .bool
  | number _ => .number
  | string _ => .string
  | array _ => .array
  | object _ => .object

end Value

/-- The kind of the values that begin with a character. -/
def Kind.ofLead? (c : Char) : Option Kind :=
  if isNumberPart c then some .number
  else if c = 'n' then some .null
  else if c = 't' ∨ c = 'f' then some .bool
  else if c = '"' then some .string
  else if c = '[' then some .array
  else if c = '\x7b' then some .object
  else none

namespace Value

/-- The first character of a text tells the kind of the value. -/
theorem render_eq_cons (v : Value) :
    ∃ c cs, v.render = c :: cs ∧ Kind.ofLead? c = some v.kind := by
  cases v with
  | null => exact ⟨'n', _, rfl, rfl⟩
  | bool b => cases b <;> exact ⟨_, _, rfl, rfl⟩
  | number n =>
    obtain ⟨c, cs, written⟩ := List.exists_cons_of_ne_nil n.render_ne_nil
    have part := n.isNumberPart_render c (by simp [written])
    exact ⟨c, cs, written, by simp [Kind.ofLead?, part, kind]⟩
  | string s => exact ⟨'"', _, rfl, rfl⟩
  | array vs => cases vs <;> exact ⟨'[', _, rfl, rfl⟩
  | object fs => cases fs <;> exact ⟨'\x7b', _, rfl, rfl⟩

/-- Values that are written alike, whatever follows, begin alike and so are of one kind. -/
theorem kind_eq_of_render_append {v w : Value} {rest rest' : List Char}
    (same : v.render ++ rest = w.render ++ rest') : v.kind = w.kind := by
  obtain ⟨c, cs, left, lead⟩ := v.render_eq_cons
  obtain ⟨d, ds, right, lead'⟩ := w.render_eq_cons
  rw [left, right, List.cons_append, List.cons_append] at same
  rw [(List.cons.inj same).1, lead'] at lead
  exact (Option.some.inj lead).symm

/-- A character that leads no kind of value begins none. -/
theorem render_append_ne (v : Value) (none : Kind.ofLead? c = none) (rest cs : List Char) :
    v.render ++ rest ≠ c :: cs := by
  obtain ⟨d, ds, written, lead⟩ := v.render_eq_cons
  intro same
  rw [written, List.cons_append] at same
  rw [(List.cons.inj same).1, none] at lead
  contradiction

/-! ## values -/

/-- Structural equality of values, with numbers identified by their text and objects as mappings
from keys to values. -/
inductive Same : Value → Value → Prop where
  | null : Same .null .null
  | bool (b : Bool) : Same (.bool b) (.bool b)
  | number {m n : Number} (text : m.text = n.text) : Same (.number m) (.number n)
  | string (s : String) : Same (.string s) (.string s)
  | array {vs ws : List Value} (items : List.Forall₂ Same vs ws) : Same (.array vs) (.array ws)
  | object {fs gs : Fields}
      (fields : ∀ key, Option.Rel Same (Fields.get? fs key) (Fields.get? gs key)) :
      Same (.object fs) (.object gs)

/-- Fields with the same keys in the same order and with the same values. -/
abbrev SameFields (fs gs : List (String × Value)) : Prop :=
  List.Forall₂ (fun f g => f.1 = g.1 ∧ f.2.Same g.2) fs gs

/-- What follows an item ends a number: a comma or a bracket. -/
theorem ends_renderItems (vs : List Value) (rest : List Char) : Ends (renderItems vs ++ rest) := by
  cases vs <;> exact .cons (by decide) _

/-- What follows the value of a field ends a number: a comma or a brace. -/
theorem ends_renderFields (fs : List (String × Value)) (rest : List Char) :
    Ends (renderFields fs ++ rest) := by
  cases fs <;> exact .cons (by decide) _

mutual

/-- A text determines its value and what follows it. -/
theorem same_of_render_append {v w : Value} {rest rest' : List Char} (left : Ends rest)
    (right : Ends rest') (same : v.render ++ rest = w.render ++ rest') :
    v.Same w ∧ rest = rest' := by
  have kinds := kind_eq_of_render_append same
  -- only values of one kind remain
  cases v <;> cases w <;> cases kinds
  case null.null => exact ⟨.null, by simpa [render] using same⟩
  case bool.bool b c =>
    cases b <;> cases c
    · exact ⟨.bool false, by simpa [render] using same⟩
    · simp [render] at same
    · simp [render] at same
    · exact ⟨.bool true, by simpa [render] using same⟩
  case number.number m n =>
    obtain ⟨written, rests⟩ := Number.render_append_inj left right same
    exact ⟨.number (congrArg String.ofList written), rests⟩
  case string.string s t =>
    obtain ⟨rfl, rests⟩ := renderString_append_inj same
    exact ⟨.string s, rests⟩
  case array.array vs ws =>
    cases vs with
    | nil =>
      cases ws with
      | nil => exact ⟨.array .nil, by simpa [render] using same⟩
      | cons w ws =>
        simp only [render, List.cons_append, List.nil_append, List.cons.injEq, true_and,
          List.append_assoc] at same
        exact absurd same.symm (w.render_append_ne (by decide) _ _)
    | cons v vs =>
      cases ws with
      | nil =>
        simp only [render, List.cons_append, List.nil_append, List.cons.injEq, true_and,
          List.append_assoc] at same
        exact absurd same (v.render_append_ne (by decide) _ _)
      | cons w ws =>
        simp only [render, List.cons_append, List.cons.injEq, true_and, List.append_assoc] at same
        obtain ⟨first, behind⟩ :=
          same_of_render_append (ends_renderItems vs rest) (ends_renderItems ws rest') same
        obtain ⟨items, rests⟩ := same_of_renderItems_append behind
        exact ⟨.array (.cons first items), rests⟩
  case object.object fs gs =>
    cases fs with
    | nil =>
      cases gs with
      | nil => exact ⟨.object (fun _ => .none), by simpa [render] using same⟩
      | cons g gs => simp [render, renderString] at same
    | cons f fs =>
      obtain ⟨k, v⟩ := f
      cases gs with
      | nil => simp [render, renderString] at same
      | cons g gs =>
        obtain ⟨l, w⟩ := g
        simp only [render, List.cons_append, List.cons.injEq, true_and, List.append_assoc] at same
        obtain ⟨rfl, behind⟩ := renderString_append_inj same
        obtain ⟨first, behind⟩ := same_of_render_append (ends_renderFields fs rest)
          (ends_renderFields gs rest') (List.cons.inj behind).2
        obtain ⟨fields, rests⟩ := same_of_renderFields_append behind
        exact ⟨.object (Fields.rel_get?_of_forall₂ (.cons ⟨rfl, first⟩ fields)), rests⟩

/-- Items that are written alike are the same, one by one. -/
theorem same_of_renderItems_append {vs ws : List Value} {rest rest' : List Char}
    (same : renderItems vs ++ rest = renderItems ws ++ rest') :
    List.Forall₂ Same vs ws ∧ rest = rest' := by
  cases vs with
  | nil =>
    cases ws with
    | nil => exact ⟨.nil, by simpa [renderItems] using same⟩
    | cons w ws => simp [renderItems] at same
  | cons v vs =>
    cases ws with
    | nil => simp [renderItems] at same
    | cons w ws =>
      simp only [renderItems, List.cons_append, List.cons.injEq, true_and,
        List.append_assoc] at same
      obtain ⟨first, behind⟩ :=
        same_of_render_append (ends_renderItems vs rest) (ends_renderItems ws rest') same
      obtain ⟨items, rests⟩ := same_of_renderItems_append behind
      exact ⟨.cons first items, rests⟩

/-- Fields that are written alike have the same keys and values. -/
theorem same_of_renderFields_append {fs gs : List (String × Value)} {rest rest' : List Char}
    (same : renderFields fs ++ rest = renderFields gs ++ rest') :
    SameFields fs gs ∧ rest = rest' := by
  cases fs with
  | nil =>
    cases gs with
    | nil => exact ⟨.nil, by simpa [renderFields] using same⟩
    | cons g gs => simp [renderFields] at same
  | cons f fs =>
    obtain ⟨k, v⟩ := f
    cases gs with
    | nil => simp [renderFields] at same
    | cons g gs =>
      obtain ⟨l, w⟩ := g
      simp only [renderFields, List.cons_append, List.cons.injEq, true_and,
        List.append_assoc] at same
      obtain ⟨rfl, behind⟩ := renderString_append_inj same
      obtain ⟨first, behind⟩ := same_of_render_append (ends_renderFields fs rest)
        (ends_renderFields gs rest') (List.cons.inj behind).2
      obtain ⟨fields, rests⟩ := same_of_renderFields_append behind
      exact ⟨.cons ⟨rfl, first⟩ fields, rests⟩

end

end Value

/-! ## one line -/

/-- What stands for a character in a string is no control character. -/
theorem space_le_of_mem_escapeChar (member : d ∈ escapeChar c) : ' ' ≤ d := by
  by_cases control : c < ' '
  · have each : ∀ n < 32, (escapeChar (Char.ofNat n)).all (' ' ≤ ·) = true := by decide
    rw [← Char.ofNat_toNat c] at member
    exact of_decide_eq_true (List.all_eq_true.mp (each c.toNat control) d member)
  · have below : ∀ d ∈ ['\n', '\r', '\t', '\x08', '\x0c'], d < ' ' := by simp
    have short : escapeChar c = ['\\', c] ∨ escapeChar c = [c] := by grind [escapeChar]
    have visible : ' ' ≤ c := not_lt.mp control
    rcases short with escaped | plain
    · rw [escaped, List.mem_pair] at member
      rcases member with rfl | rfl
      · decide
      · exact visible
    · rw [plain, List.mem_singleton] at member
      exact member ▸ visible

/-- A written string has no control characters: those that it holds are escaped. -/
theorem space_le_of_mem_renderString (member : d ∈ renderString s) : ' ' ≤ d := by
  simp only [renderString, List.mem_append, List.mem_singleton, List.mem_flatMap] at member
  rcases member with (rfl | ⟨c, -, inside⟩) | rfl
  · decide
  · exact space_le_of_mem_escapeChar inside
  · decide

/-- No part of a number is a control character. -/
theorem space_le_of_isNumberPart (part : isNumberPart d = true) : ' ' ≤ d := by
  simp only [isNumberPart, Text.isDigit, Bool.or_eq_true, Bool.and_eq_true, decide_eq_true_eq,
    List.contains_iff_mem, List.mem_cons, List.not_mem_nil, or_false] at part
  rcases part with ⟨least, -⟩ | rfl | rfl | rfl | rfl
  · exact le_trans (by decide) least
  all_goals decide

namespace Value

mutual

/-- The compact text of a value holds no control character. -/
theorem space_le_of_mem_render {v : Value} (member : d ∈ v.render) : ' ' ≤ d := by
  cases v with
  | null => exact (by simp : ∀ d ∈ "null".toList, ' ' ≤ d) d member
  | bool b =>
    cases b with
    | true => exact (by simp : ∀ d ∈ "true".toList, ' ' ≤ d) d member
    | false => exact (by simp : ∀ d ∈ "false".toList, ' ' ≤ d) d member
  | number n => exact space_le_of_isNumberPart (n.isNumberPart_render d member)
  | string s => exact space_le_of_mem_renderString member
  | array vs =>
    cases vs with
    | nil => exact (by simp : ∀ d ∈ ['[', ']'], ' ' ≤ d) d member
    | cons v vs =>
      simp only [render, List.mem_cons, List.mem_append] at member
      rcases member with rfl | first | rest
      · decide
      · exact space_le_of_mem_render first
      · exact space_le_of_mem_renderItems rest
  | object fs =>
    cases fs with
    | nil => exact (by simp : ∀ d ∈ ['\x7b', '\x7d'], ' ' ≤ d) d member
    | cons f fs =>
      obtain ⟨k, v⟩ := f
      simp only [render, List.mem_cons, List.mem_append] at member
      rcases member with rfl | key | rfl | first | rest
      · decide
      · exact space_le_of_mem_renderString key
      · decide
      · exact space_le_of_mem_render first
      · exact space_le_of_mem_renderFields rest

theorem space_le_of_mem_renderItems {vs : List Value} (member : d ∈ renderItems vs) : ' ' ≤ d := by
  cases vs with
  | nil => exact (by simp : ∀ d ∈ [']'], ' ' ≤ d) d member
  | cons v vs =>
    simp only [renderItems, List.mem_cons, List.mem_append] at member
    rcases member with rfl | first | rest
    · decide
    · exact space_le_of_mem_render first
    · exact space_le_of_mem_renderItems rest

theorem space_le_of_mem_renderFields {fs : List (String × Value)} (member : d ∈ renderFields fs) :
    ' ' ≤ d := by
  cases fs with
  | nil => exact (by simp : ∀ d ∈ ['\x7d'], ' ' ≤ d) d member
  | cons f fs =>
    obtain ⟨k, v⟩ := f
    simp only [renderFields, List.mem_cons, List.mem_append] at member
    rcases member with rfl | key | rfl | first | rest
    · decide
    · exact space_le_of_mem_renderString key
    · decide
    · exact space_le_of_mem_render first
    · exact space_le_of_mem_renderFields rest

end

/-- The compact text of a value is one line. -/
theorem newline_not_mem_text (v : Value) : '\n' ∉ v.text.toList := by
  intro member
  rw [text, String.toList_ofList] at member
  exact absurd (space_le_of_mem_render member) (by decide)

end Value

end Json

end GatewayClient

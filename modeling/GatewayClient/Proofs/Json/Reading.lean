import GatewayClient.Proofs.Json.Spellings

/-!
# GatewayClient.Proofs.Json.Reading

A value that was written is read back, in two steps. Its text is well-formed and has the structure
that the value has as a text (`Value.isValue_text`), if its numbers are whole; and from this
structure the value is made again (`Source.toValue_ofValue`), if its keys are in order and arrays
and objects do not nest too deep:

```
value --text--> characters --Document.read--> Source.ofValue value --toValue--> value
```

A record is made again from the fields that it is written as, those that it leaves out being at
their default (`Decoder.Written`).
-/

namespace GatewayClient.Json

/-! ## written values -/

mutual

/-- Whether all numbers in a value are whole. -/
def Value.Whole : Value → Prop
  | .number n => n.toInt?.isSome
  | .array vs => Value.ItemsWhole vs
  | .object fs => Value.FieldsWhole fs
  | _ => True

/-- Whether all numbers in items are whole. -/
def Value.ItemsWhole : List Value → Prop
  | [] => True
  | v :: vs => v.Whole ∧ Value.ItemsWhole vs

/-- Whether all numbers in the values of fields are whole. -/
def Value.FieldsWhole : List (String × Value) → Prop
  | [] => True
  | (_, v) :: fs => v.Whole ∧ Value.FieldsWhole fs

end

theorem Value.itemsWhole_iff {vs : List Value} : ItemsWhole vs ↔ ∀ v ∈ vs, v.Whole := by
  induction vs with
  | nil => simp [ItemsWhole]
  | cons v vs ih => simp [ItemsWhole, ih]

/-- An array is written as the texts of its items. -/
theorem text_array (vs : List Value) : (Value.array vs).text = arrayText (vs.map Value.text) := by
  have behind : ∀ vs : List Value, Value.renderItems vs =
      (vs.map Value.text).flatMap (fun t => ',' :: t.toList) ++ [']'] := by
    intro vs
    induction vs with
    | nil => rfl
    | cons v vs ih => simp [Value.renderItems, Value.text, ih]
  cases vs with
  | nil => rfl
  | cons v vs => simp [Value.text, Value.render, arrayText, behind]

/-- An object is written as the texts of its members. -/
theorem text_object (fs : List (String × Value)) :
    (Value.object fs).text = objectText (fs.map (fun f => (f.1, f.2.text))) := by
  have behind : ∀ fs : List (String × Value), Value.renderFields fs =
      (fs.map (fun f => (f.1, f.2.text))).flatMap (fun m => ',' :: memberText m) ++ ['\x7d'] := by
    intro fs
    induction fs with
    | nil => rfl
    | cons f fs ih => simp [Value.renderFields, Value.text, memberText, ih]
  cases fs with
  | nil => rfl
  | cons f fs => simp [Value.text, Value.render, objectText, memberText, behind]

/-- The members that are made of fields have the sources of their values. -/
theorem ofFields_eq_named (fs : List (String × Value)) :
    Source.ofFields fs = named (fs.map (fun f => (f.1, Source.ofValue f.2))) := by
  induction fs with
  | nil => rfl
  | cons f fs ih => rw [Source.ofFields, ih]; rfl

/-- A whole number is written as a text that is well-formed and read as the number. -/
theorem isValue_number {n : Number} (whole : n.toInt?.isSome) :
    IsValue n.text (.number (.ok n)) := by
  have space : ∀ c, c = '-' ∨ Text.isDigit c = true → isSpace c = false := by
    rintro c (rfl | digit)
    · decide
    · rw [Bool.eq_false_iff]
      intro space
      simp [(Stops.of_space space [] c rfl).1] at digit
  have front : ∃ c cs, n.render = c :: cs ∧ (c = '-' ∨ Text.isDigit c = true) := by
    cases n with
    | natural n =>
      obtain ⟨c, cs, written, digit⟩ := numeral_eq_cons n.toNat
      exact ⟨c, cs, written, .inr digit⟩
    | negative n => exact ⟨'-', _, rfl, .inl rfl⟩
    | double x => simp [Number.toInt?] at whole
  obtain ⟨c, cs, written, lead⟩ := front
  have read := readNumber_render whole
  refine .of_readValue ?_ rfl
  rw [written] at read ⊢
  rw [readValue_number (skipSpace_cons (space c lead) cs) lead, numberReading, read]

/-- Only a number is read where a value is read as one, and nothing is left out of it. -/
theorem numberReading_of_readValue {fuel : Nat} {cs rest : List Char} {n : Except Failure Number}
    (read : readValue fuel cs = (.number n, some rest)) :
    numberReading (skipSpace cs) = (.number n, some rest) := by
  have word : ∀ word value, (∀ n, value ≠ Source.number n) → ∀ cs,
      wordReading word value cs ≠ (.number n, some rest) := by
    intro word value apart cs same
    unfold wordReading at same
    split at same
    · exact apart n (Prod.mk.inj same).1
    · cases same
  cases fuel with
  | zero => cases read
  | succ fuel =>
    rw [readValue] at read
    split at read
    · cases read
    · unfold stringReading at read
      split at read <;> cases read
    · split at read <;> cases read
    · split at read <;> cases read
    · exact absurd read (word _ _ (by simp) _)
    · exact absurd read (word _ _ (by simp) _)
    · exact absurd read (word _ _ (by simp) _)
    · next first =>
      split at read
      · rwa [first]
      · cases read

/-- A text is a natural number if it is the number's numeral, perhaps with spaces around it. -/
theorem isValue_natural_iff {text : String} {n : UInt64} :
    IsValue text (.number (.ok (.natural n))) ↔ ∃ before after, skipSpace before = [] ∧
      skipSpace after = [] ∧ text.toList = before ++ Text.numeral 10 n.toNat ++ after := by
  constructor
  · intro value
    obtain ⟨rest, read, blank⟩ := value.exists_readValue
    have number := numberReading_of_readValue read
    unfold numberReading at number
    split at number
    · next p taken =>
      obtain ⟨value, left⟩ := p
      cases number
      have spaces : skipSpace (text.toList.takeWhile isSpace) = [] :=
        List.dropWhile_eq_nil_iff.mpr (fun c member => List.mem_takeWhile_imp member)
      refine ⟨text.toList.takeWhile isSpace, left, spaces, blank, ?_⟩
      rw [List.append_assoc, ← natural_of_readNumber taken]
      exact List.takeWhile_append_dropWhile.symm
    · cases number
  · rintro ⟨before, after, blank, blank', written⟩
    have numeral : IsValue (Text.decimal n.toNat) (.number (.ok (.natural n))) :=
      isValue_number (n := .natural n) rfl
    have around := numeral.surrounded blank blank'
    rwa [Text.decimal, String.toList_ofList, ← written, String.ofList_toList] at around

/-- A written text is well-formed and read as the text. -/
theorem isValue_string (s : String) : IsValue (Value.string s).text (.string (.ok s)) := by
  refine .of_readValue ?_ rfl
  have quoted : (Value.string s).render = '"' :: (s.toList.flatMap escapeChar ++ '"' :: []) := by
    simp [Value.render, renderString]
  rw [quoted, readValue, skipSpace_cons (by decide)]
  simp only [stringReading, readString_renderString]

mutual

/-- A written value is read as the source of the value. -/
theorem Value.isValue_text {v : Value} (whole : v.Whole) : IsValue v.text (Source.ofValue v) := by
  cases v with
  | null => exact .of_readValue rfl rfl
  | bool b => cases b <;> exact .of_readValue rfl rfl
  | number n => exact isValue_number whole
  | string s => exact isValue_string s
  | array vs =>
    rw [text_array]
    exact isValue_arrayText (Value.forall_isValue_text whole)
  | object fs =>
    rw [text_object, Source.ofValue, ofFields_eq_named]
    exact isValue_objectText (Value.forall_isMember_text whole)

theorem Value.forall_isValue_text {vs : List Value} (whole : Value.ItemsWhole vs) :
    List.Forall₂ IsValue (vs.map Value.text) (Source.ofItems vs) := by
  cases vs with
  | nil => exact .nil
  | cons v vs => exact .cons (Value.isValue_text whole.1) (Value.forall_isValue_text whole.2)

theorem Value.forall_isMember_text {fs : List (String × Value)} (whole : Value.FieldsWhole fs) :
    List.Forall₂ IsMember (fs.map (fun f => (f.1, f.2.text)))
      (fs.map (fun f => (f.1, Source.ofValue f.2))) := by
  cases fs with
  | nil => exact .nil
  | cons f fs =>
    exact .cons ⟨rfl, Value.isValue_text whole.1⟩ (Value.forall_isMember_text whole.2)

end

/-! ## values from their structure -/

mutual

/-- How deep arrays and objects nest in a value. -/
def Value.depth : Value → Nat
  | .array vs => Value.itemsDepth vs + 1
  | .object fs => Value.fieldsDepth fs + 1
  | _ => 0

/-- How deep arrays and objects nest in items. -/
def Value.itemsDepth : List Value → Nat
  | [] => 0
  | v :: vs => max v.depth (Value.itemsDepth vs)

/-- How deep arrays and objects nest in the values of fields. -/
def Value.fieldsDepth : List (String × Value) → Nat
  | [] => 0
  | (_, v) :: fs => max v.depth (Value.fieldsDepth fs)

end

/-- An item nests no deeper than all items do. -/
theorem Value.depth_le_itemsDepth {v : Value} {vs : List Value} (listed : v ∈ vs) :
    v.depth ≤ itemsDepth vs := by
  induction vs with
  | nil => contradiction
  | cons w vs ih =>
    rw [itemsDepth]
    rcases List.mem_cons.mp listed with rfl | later
    · exact le_max_left _ _
    · exact (ih later).trans (le_max_right _ _)

/-- A key behind all others is set behind them. -/
theorem Fields.insert_of_last {fs : Fields} (last : ∀ f ∈ fs, f.1 < key) (v : Value) :
    insert key v fs = fs ++ [(key, v)] := by
  induction fs with
  | nil => rfl
  | cons f fs ih =>
    have before := last f List.mem_cons_self
    rw [insert, if_neg before.asymm, if_neg before.ne', ih (fun g later => last g (.tail _ later))]
    rfl

mutual

/-- A value is made again from its structure, if its keys are in order and there is room for
it. -/
theorem Source.toValue_ofValue {v : Value} {room : Nat} (sorted : v.Sorted)
    (fits : v.depth ≤ room) : (ofValue v).toValue room = .ok v := by
  cases v with
  | null | bool | number | string => rfl
  | array vs =>
    rw [Value.depth] at fits
    have left : room ≠ 0 := by omega
    rw [ofValue, toValue, if_neg left, toItems_ofItems sorted (by omega)]
    rfl
  | object fs =>
    rw [Value.depth] at fits
    have left : room ≠ 0 := by omega
    have read : toFields (room - 1) [] (ofFields fs) none = .ok ([] ++ fs) :=
      toFields_ofFields sorted.1 sorted.2 (by omega)
    rw [ofValue, toValue, if_neg left, read]
    rfl

theorem Source.toItems_ofItems {vs : List Value} {room : Nat} (sorted : Value.ItemsSorted vs)
    (fits : Value.itemsDepth vs ≤ room) : toItems room (ofItems vs) none = .ok vs := by
  cases vs with
  | nil => rfl
  | cons v vs =>
    rw [Value.itemsDepth, max_le_iff] at fits
    rw [ofItems, toItems, toValue_ofValue sorted.1 fits.1, toItems_ofItems sorted.2 fits.2]
    rfl

theorem Source.toFields_ofFields {before fs : Fields} {room : Nat}
    (order : Fields.Sorted (before ++ fs)) (sorted : Value.FieldsSorted fs)
    (fits : Value.fieldsDepth fs ≤ room) :
    toFields room before (ofFields fs) none = .ok (before ++ fs) := by
  cases fs with
  | nil =>
    rw [List.append_nil]
    rfl
  | cons f fs =>
    obtain ⟨k, v⟩ := f
    rw [Value.fieldsDepth, max_le_iff] at fits
    -- the keys come in their order, so each is set behind those that are there
    have last : ∀ f ∈ before, f.1 < k := by
      have apart := order
      rw [Fields.Sorted, List.map_append, List.pairwise_append] at apart
      exact fun f member => apart.2.2 f.1 (List.mem_map_of_mem member) k (by simp)
    have behind : toFields room (before ++ [(k, v)]) (ofFields fs) none =
        .ok (before ++ [(k, v)] ++ fs) :=
      toFields_ofFields (by simpa using order) sorted.2 fits.2
    rw [ofFields, toFields, toValue_ofValue sorted.1 fits.1]
    simpa [bind, Except.bind, Fields.insert_of_last last] using behind

end

/-! ## records from what they are written as -/

namespace Decoder

variable {ρ : Type} {context : Context}

/-- What fields are written as, in their order and without those that are left out, with whole
numbers only; and the update of the record to which it is decoded. -/
inductive Written (context : Context) : List (Field ρ) → Fields → (ρ → ρ) → Prop where
  | nil : Written context [] [] id
  | given {f : Field ρ} {fields : List (Field ρ)} {v : Value} {fs : Fields} {update rest : ρ → ρ}
      (whole : v.Whole) (set : f.set context (Source.ofValue v) = .ok update)
      (behind : Written context fields fs rest) :
      Written context (f :: fields) ((f.name, v) :: fs) (rest ∘ update)
  | absent {f : Field ρ} {fields : List (Field ρ)} {fs : Fields} {rest : ρ → ρ}
      (optional : f.required = false) (behind : Written context fields fs rest) :
      Written context (f :: fields) fs rest

namespace Written

/-- Fields are written under their names, in their order. -/
theorem keys {fields : List (Field ρ)} {fs : Fields} {update : ρ → ρ}
    (written : Written context fields fs update) :
    (fs.map Prod.fst).Sublist (fields.map Field.name) := by
  induction written with
  | nil => exact .slnil
  | given whole set behind ih => exact ih.cons_cons _
  | absent optional behind ih => exact ih.cons _

/-- All numbers that are written are whole. -/
theorem fieldsWhole {fields : List (Field ρ)} {fs : Fields} {update : ρ → ρ}
    (written : Written context fields fs update) : Value.FieldsWhole fs := by
  induction written with
  | nil => trivial
  | given whole set behind ih => exact ⟨whole, ih⟩
  | absent optional behind ih => exact ih

/-- What is written is taken field by field, each as its own update. -/
theorem taken {all fields : List (Field ρ)} {fs : Fields} {update : ρ → ρ}
    (written : Written context fields fs update)
    (spelled : ∀ f ∈ fields, Field.named? all f.name = some f) :
    ∃ us, Taken all context (Source.ofFields fs) us ∧ us.map Prod.fst = fs.map Prod.fst ∧
      ∀ r, updated us r = update r := by
  induction written with
  | nil => exact ⟨[], .nil, rfl, fun r => rfl⟩
  | given whole set behind ih =>
    obtain ⟨us, taken, names, same⟩ := ih (fun f later => spelled f (.tail _ later))
    refine ⟨_, .known (spelled _ List.mem_cons_self) set taken, ?_, fun r => same _⟩
    simp [names]
  | absent optional behind ih => exact ih (fun f later => spelled f (.tail _ later))

/-- What has to be there is written. -/
theorem required_mem {fields : List (Field ρ)} {fs : Fields} {update : ρ → ρ}
    (written : Written context fields fs update) :
    ∀ f ∈ fields, f.required = true → f.name ∈ fs.map Prod.fst := by
  induction written with
  | nil => simp
  | given whole set behind ih => grind
  | absent optional behind ih => grind

/-- A record is decoded from what it is written as. -/
theorem members_eq {fields : List (Field ρ)} {fs : Fields} {update : ρ → ρ}
    (written : Written context fields fs update) (apart : Apart fields) (r : ρ) :
    members fields context (Source.ofFields fs) none [] r = .ok (update r) := by
  have spelled : ∀ f ∈ fields, Field.named? fields f.name = some f :=
    fun f listed => apart.named?_eq_some_iff.mpr ⟨listed, List.mem_cons_self⟩
  obtain ⟨us, taken, names, same⟩ := written.taken spelled
  refine members_eq_ok_iff.mpr
    ⟨us, taken, rfl, ?_, by simp, fun f listed required => .inr ?_, same r⟩
  · rw [names]
    exact written.keys.nodup apart.names
  · rw [names]
    exact written.required_mem f listed required

end Written

end Decoder

end GatewayClient.Json

import GatewayClient.Json.Decode
import GatewayClient.Proofs.Json.Limits

/-!
# GatewayClient.Proofs.Json.Holding

What a source holds. A value comes to a decoder in two ways, as a text that was not read yet or as a
value that was read before; either way the source holds one value (`Source.Holds`), it can be passed
over, and a decoder that knows a type (`Decodes`) makes the same of it.

The members of an object hold its fields, of several members with one key the last one:

```
members    "a": 1, "b": null, "a": "x"
fields     "a": "x", "b": null
```
-/

namespace GatewayClient.Json

namespace Source

/-- Whether a source holds a value: the value is read from it, or the source was made of the
value. -/
inductive Holds : Source → Value → Prop where
  | read {room : Nat} {source : Source} {v : Value} (read : source.toValue room = .ok v) :
      Holds source v
  | made (v : Value) : Holds (ofValue v) v

/-! ## passing over -/

mutual

/-- What was read before can be passed over again. -/
theorem skim_ofValue (v : Value) : (ofValue v).skim = none := by
  cases v with
  | null | bool | number | string => rfl
  | array vs => exact skimItems_ofItems vs
  | object fs => exact skimMembers_ofFields fs

theorem skimItems_ofItems (vs : List Value) : skimItems (ofItems vs) none = none := by
  cases vs with
  | nil => rfl
  | cons v vs => rw [ofItems, skimItems, skim_ofValue v, skimItems_ofItems vs, Option.none_or]

theorem skimMembers_ofFields (fs : List (String × Value)) :
    skimMembers (ofFields fs) none = none := by
  cases fs with
  | nil => rfl
  | cons f fs =>
    rw [ofFields, skimMembers, skim_ofValue f.2, skimMembers_ofFields fs, Option.none_or]

end

/-- A source that holds a value can be passed over. -/
theorem Holds.skim {source : Source} {v : Value} (holds : source.Holds v) : source.skim = none := by
  cases holds with
  | read read => exact skim_of_toValue read
  | made v => exact skim_ofValue v

end Source

/-! ## values without parts -/

namespace Value

/-- Whether a value is neither an array nor an object. -/
def IsScalar : Value → Prop
  | array _ | object _ => False
  | _ => True

/-- The number of a value that is an unsigned integer of 64 bits. -/
def natural? : Value → Option UInt64
  | number (.natural n) => some n
  | _ => none

/-- The truth value that a value is. -/
def truth? : Value → Option Bool
  | bool b => some b
  | _ => none

/-- What a type makes of a value that may also be `null`. -/
def orNull? (type : Value → Option α) (v : Value) : Option (Option α) :=
  if v.isNull then some none else (type v).map some

/-- Only an unsigned integer of 64 bits is such a number. -/
theorem natural?_eq_some {v : Value} : v.natural? = some n ↔ v = number (.natural n) := by
  unfold natural?
  split <;> simp_all

/-- Only a truth value is one. -/
theorem truth?_eq_some {v : Value} : v.truth? = some b ↔ v = bool b := by
  cases v <;> simp [truth?]

/-- Only a text is one. -/
theorem asString?_eq_some {v : Value} : v.asString? = some s ↔ v = string s := by
  unfold asString?
  split <;> simp_all

end Value

/-- A value without parts has one source. -/
theorem Source.Holds.eq_ofValue_iff {source : Source} {v w : Value} (holds : source.Holds v)
    (scalar : w.IsScalar) : source = ofValue w ↔ v = w := by
  cases holds with
  | made v => cases v <;> cases w <;> simp_all [ofValue, Value.IsScalar]
  | read read =>
    cases source with
    | null | bool b => cases read; cases w <;> simp_all [ofValue, Value.IsScalar]
    | number n => cases n <;> cases read; cases w <;> simp_all [ofValue, Value.IsScalar]
    | string s => cases s <;> cases read; cases w <;> simp_all [ofValue, Value.IsScalar]
    | array items close | object members close =>
      simp only [toValue] at read
      split at read
      · contradiction
      · obtain ⟨_, -, rfl⟩ := map_eq_ok.mp read
        cases w <;> simp_all [ofValue, Value.IsScalar]
    | broken strict skim => contradiction

/-! ## decoders that know a type -/

namespace Decoder

/-- A source of the wrong type is refused, whatever it is. -/
theorem wrongType_ne_ok : wrongType expected source ≠ .ok a := by
  cases source with
  | number n => cases n <;> simp [wrongType, fail]
  | string s => cases s <;> simp [wrongType, fail]
  | _ => simp [wrongType, fail]

/-- An unsigned integer is decoded from its literal alone. -/
theorem unsigned_eq_ok :
    unsigned context source = .ok n ↔ source = Source.ofValue (.number (.natural n)) := by
  unfold unsigned
  split <;> simp_all [wrongType_ne_ok, Source.ofValue]

/-- A truth value is decoded from its word alone. -/
theorem bool_eq_ok : bool context source = .ok b ↔ source = Source.ofValue (.bool b) := by
  unfold bool
  split
  · simp [Source.ofValue]
  · next other => exact iff_of_false wrongType_ne_ok (other b)

/-- A text is decoded from its literal alone. -/
theorem string_eq_ok : string context source = .ok s ↔ source = Source.ofValue (.string s) := by
  unfold string
  split <;> simp_all [wrongType_ne_ok, Source.ofValue]

theorem nullable_null (d : Decoder α) : nullable d context .null = .ok none := rfl

/-- Besides `null`, an optional value is decoded as one that has to be there. -/
theorem nullable_of_ne {d : Decoder α} (full : source ≠ .null) :
    nullable d context source = (d context source).map some := by
  cases source <;> first | rfl | contradiction

/-- What a decoder makes of a source is what a type makes of the value that the source holds. -/
def Decodes (d : Decoder α) (type : Value → Option α) : Prop :=
  ∀ ⦃context source v a⦄, Source.Holds source v → (d context source = .ok a ↔ type v = some a)

/-- Unsigned integers are decoded alike from texts and from values. -/
theorem decodes_unsigned : Decodes unsigned Value.natural? := by
  intro context source v n holds
  rw [unsigned_eq_ok, Value.natural?_eq_some, holds.eq_ofValue_iff (by trivial)]

theorem decodes_bool : Decodes bool Value.truth? := by
  intro context source v b holds
  rw [bool_eq_ok, Value.truth?_eq_some, holds.eq_ofValue_iff (by trivial)]

theorem decodes_string : Decodes string Value.asString? := by
  intro context source v s holds
  rw [string_eq_ok, Value.asString?_eq_some, holds.eq_ofValue_iff (by trivial)]

/-- A decoder of optional values knows the type of those that are there. -/
theorem Decodes.nullable {d : Decoder α} {type : Value → Option α} (decodes : Decodes d type) :
    Decodes (nullable d) (Value.orNull? type) := by
  intro context source v o holds
  have absent : source = .null ↔ v = .null := holds.eq_ofValue_iff (w := .null) trivial
  by_cases empty : v = .null
  · rw [absent.mpr empty, nullable_null, empty]
    simp [Value.orNull?, Value.isNull]
  · have full : v.isNull = false := by cases v <;> first | rfl | contradiction
    rw [nullable_of_ne (mt absent.mp empty), map_eq_ok, Value.orNull?, full]
    simp [decodes holds]

end Decoder

/-! ## members -/

namespace Source

/-- The source of the last member with a key. -/
def last? (key : String) : Members → Option Source
  | [] => none
  | (k, source) :: ms => (last? key ms).or (if k.toOption = some key then some source else none)

@[simp] theorem last?_cons_ok (ms : Members) : last? key ((.ok k, source) :: ms) =
    (last? key ms).or (if k = key then some source else none) := by
  simp [last?, Except.toOption]

@[simp] theorem last?_cons_error (ms : Members) :
    last? key ((.error f, source) :: ms) = last? key ms := by
  simp [last?, Except.toOption]

/-- The last member with a key is one of the members. -/
theorem mem_of_last? {ms : Members} (found : last? key ms = some source) :
    (.ok key, source) ∈ ms := by
  induction ms with
  | nil => contradiction
  | cons m ms ih =>
    obtain ⟨k, first⟩ := m
    cases k <;> grind [last?_cons_ok, last?_cons_error, Option.or_eq_some_iff]

/-- There is no last member with a key if there is none at all. -/
theorem last?_eq_none_iff {ms : Members} :
    last? key ms = none ↔ ∀ source, (.ok key, source) ∉ ms := by
  induction ms with
  | nil => simp [last?]
  | cons m ms ih =>
    obtain ⟨k, first⟩ := m
    cases k <;> grind [last?_cons_ok, last?_cons_error, Option.or_eq_none_iff]

/-- With distinct keys each member is the last one with its key. -/
theorem last?_of_mem {ms : Members} (distinct : (ms.map Prod.fst).Nodup)
    (member : (.ok key, source) ∈ ms) : last? key ms = some source := by
  induction ms with
  | nil => contradiction
  | cons m ms ih =>
    obtain ⟨k, first⟩ := m
    obtain ⟨fresh, distinct⟩ := List.nodup_cons.mp distinct
    rcases List.mem_cons.mp member with here | later
    · cases here
      have absent : last? key ms = none :=
        last?_eq_none_iff.mpr fun other later =>
          fresh (List.mem_map.mpr ⟨(.ok key, other), later, rfl⟩)
      simp [absent]
    · simp [last?, ih distinct later]

/-- Whether members hold fields: their keys and values are readable, and each field is the value of
the last member with its key. -/
structure HoldFields (ms : Members) (fs : Fields) : Prop where
  readable : ∀ m ∈ ms, ∃ key v, m.1 = .ok key ∧ m.2.Holds v
  last : ∀ key, Option.Rel Holds (last? key ms) (Fields.get? fs key)

namespace HoldFields

variable {ms : Members} {fs : Fields}

/-- A field that is held has a member to its key, and that one holds its value. -/
theorem exists_last? (held : HoldFields ms fs) (found : Fields.get? fs key = some v) :
    ∃ source, last? key ms = some source ∧ source.Holds v := by
  have related := held.last key
  rw [found] at related
  cases last : last? key ms with
  | none => rw [last] at related; cases related
  | some source =>
    rw [last] at related
    cases related with
    | some holds => exact ⟨source, rfl, holds⟩

/-- Without a field there is no member with its key. -/
theorem last?_eq_none (held : HoldFields ms fs) (absent : Fields.get? fs key = none) :
    last? key ms = none := by
  have related := held.last key
  rw [absent] at related
  cases last : last? key ms with
  | none => rfl
  | some source => rw [last] at related; cases related

/-- The last member with a key holds the value of the field with that key. -/
theorem exists_get? (held : HoldFields ms fs) (last : last? key ms = some source) :
    ∃ v, Fields.get? fs key = some v ∧ source.Holds v := by
  cases found : Fields.get? fs key with
  | none => simp [held.last?_eq_none found] at last
  | some v =>
    obtain ⟨_, last', holds⟩ := held.exists_last? found
    cases last.symm.trans last'
    exact ⟨v, rfl, holds⟩

end HoldFields

/-- Members that are read after others: what they do not set stays as it was. -/
theorem get?_toFields {room : Nat} {before fs : Fields} {ms : Members}
    {close : Option Failure} (read : toFields room before ms close = .ok fs) (key : String) :
    match last? key ms with
    | some source => ∃ v, Fields.get? fs key = some v ∧ source.toValue room = .ok v
    | none => Fields.get? fs key = Fields.get? before key := by
  induction ms generalizing before with
  | nil => cases close <;> cases read; rfl
  | cons m ms ih =>
    obtain ⟨k, source⟩ := m
    simp only [toFields, bind_eq_ok] at read
    obtain ⟨k, rfl, v, first, rest⟩ := read
    -- later members with the key win, so the first one only counts where there is none
    have behind := ih rest
    rw [last?_cons_ok]
    split at behind
    · next later found => rwa [found]
    · next absent =>
      rw [Fields.get?_insert] at behind
      rw [absent, Option.none_or]
      by_cases same : k = key
      · rw [if_pos same.symm] at behind
        rw [if_pos same]
        exact ⟨v, behind, first⟩
      · rw [if_neg (Ne.symm same)] at behind
        rwa [if_neg same]

/-- An object is read if there is room for one more level, and its members are. -/
theorem toValue_object_eq_ok {room : Nat} {ms : Members} {close : Option Failure} {v : Value} :
    (object ms close).toValue room = .ok v ↔
      room ≠ 0 ∧ ∃ fs, toFields (room - 1) [] ms close = .ok fs ∧ v = .object fs := by
  rw [toValue]
  split
  · next full => simp [full]
  · next left => simp only [map_eq_ok, left, ne_eq, not_false_iff, true_and, eq_comm (b := v)]

/-- Members that are read have readable keys and values, up to the closing brace. -/
theorem readable_of_toFields {room : Nat} {before fs : Fields} {ms : Members}
    {close : Option Failure} (read : toFields room before ms close = .ok fs) :
    close = none ∧ ∀ m ∈ ms, ∃ key v, m.1 = .ok key ∧ m.2.toValue room = .ok v := by
  induction ms generalizing before with
  | nil => cases close <;> cases read; simp
  | cons m ms ih =>
    obtain ⟨key, source⟩ := m
    simp only [toFields, bind_eq_ok] at read
    obtain ⟨k, rfl, v, first, rest⟩ := read
    obtain ⟨closed, readable⟩ := ih rest
    refine ⟨closed, fun m member => ?_⟩
    rcases List.mem_cons.mp member with rfl | later
    · exact ⟨k, v, rfl, first⟩
    · exact readable m later

/-- What is read from the members of an object are the fields that they hold. -/
theorem holdFields_of_toFields {room : Nat} {fs : Fields} {ms : Members} {close : Option Failure}
    (read : toFields room [] ms close = .ok fs) : HoldFields ms fs := by
  constructor
  · intro m member
    obtain ⟨key, v, name, value⟩ := (readable_of_toFields read).2 m member
    exact ⟨key, v, name, .read value⟩
  · intro key
    have under := get?_toFields read key
    split at under
    · next source found =>
      obtain ⟨v, value, holds⟩ := under
      rw [found, value]
      exact .some (.read holds)
    · next absent =>
      rw [absent, under]
      exact .none

/-- The members that are made of fields, one of each. -/
theorem mem_ofFields {fs : List (String × Value)} {m : Except Failure String × Source} :
    m ∈ ofFields fs ↔ ∃ f ∈ fs, m = (.ok f.1, ofValue f.2) := by
  induction fs with
  | nil => simp [ofFields]
  | cons f fs ih => simp [ofFields, ih]

/-- Of sorted fields each is the only one with its key, and so the last one. -/
theorem last?_ofFields {fs : Fields} (sorted : Fields.Sorted fs) (key : String) :
    last? key (ofFields fs) = (Fields.get? fs key).map ofValue := by
  induction fs with
  | nil => rfl
  | cons f fs ih =>
    rw [ofFields, last?_cons_ok, ih (Fields.sorted_cons.mp sorted).2, Fields.get?_cons]
    by_cases same : f.1 = key
    · subst same
      simp [sorted.get?_tail]
    · simp [same, Ne.symm same]

/-- The members that are made of sorted fields hold them. -/
theorem holdFields_ofFields {fs : Fields} (sorted : Fields.Sorted fs) :
    HoldFields (ofFields fs) fs := by
  constructor
  · intro m member
    obtain ⟨f, -, rfl⟩ := mem_ofFields.mp member
    exact ⟨f.1, f.2, rfl, .made f.2⟩
  · intro key
    rw [last?_ofFields sorted]
    cases Fields.get? fs key with
    | none => exact .none
    | some v => exact .some (.made v)

/-- Sorted fields have distinct keys. -/
theorem nodup_ofFields {fs : Fields} (sorted : Fields.Sorted fs) :
    ((ofFields fs).map Prod.fst).Nodup := by
  induction fs with
  | nil => exact .nil
  | cons f fs ih =>
    obtain ⟨first, rest⟩ := Fields.sorted_cons.mp sorted
    refine List.nodup_cons.mpr ⟨fun again => ?_, ih rest⟩
    obtain ⟨m, member, same⟩ := List.mem_map.mp again
    obtain ⟨g, later, rfl⟩ := mem_ofFields.mp member
    exact (first g later).ne' (Except.ok.inj same)

end Source

end GatewayClient.Json

import GatewayClient.Proofs.Json.Sorted

/-!
# GatewayClient.Proofs.Json.Limits

Which texts can be read. Passing over a text asks for nothing but its form; reading it asks in
addition that it keeps within some limits, in every part of it:

```
numbers             in the range of a binary64
strings and keys    no unpaired surrogates
arrays, objects     at most 127 inside each other
```
-/

namespace GatewayClient.Json

/-- The members of an object: keys with their sources, in the order of the text. -/
abbrev Members := List (Except Failure String × Source)

namespace Source

/-! ## sources -/

mutual

/-- Whether a source is within the limits of reading: its numbers are in range, its strings have
paired surrogates, and arrays and objects nest at most `room` deep. -/
def Within : (room : Nat) → Source → Prop
  | _, .number n => n.toOption.isSome
  | _, .string s => s.toOption.isSome
  | room, .array items _ => room ≠ 0 ∧ ItemsWithin (room - 1) items
  | room, .object members _ => room ≠ 0 ∧ MembersWithin (room - 1) members
  | _, _ => True

/-- Whether all items are within the limits. -/
def ItemsWithin : (room : Nat) → List Source → Prop
  | _, [] => True
  | room, item :: items => item.Within room ∧ ItemsWithin room items

/-- Whether all keys and values of members are within the limits. -/
def MembersWithin : (room : Nat) → List (Except Failure String × Source) → Prop
  | _, [] => True
  | room, (key, value) :: members =>
    key.toOption.isSome ∧ value.Within room ∧ MembersWithin room members

end

mutual

/-- A source can be read if it can be passed over and is within the limits. -/
theorem exists_toValue_iff (room : Nat) (source : Source) :
    (∃ v, source.toValue room = .ok v) ↔ source.skim = none ∧ source.Within room := by
  cases source with
  | null | bool => simp [toValue, skim, Within]
  | number n => cases n <;> simp [toValue, skim, Within, Except.map, Except.toOption]
  | string s => cases s <;> simp [toValue, skim, Within, Except.map, Except.toOption]
  | array items close =>
    simp only [toValue, skim, Within]
    split
    · next full => simp [full]
    · next left => simp [left, map_eq_ok, ← exists_toItems_iff (room - 1) items close]
  | object members close =>
    simp only [toValue, skim, Within]
    split
    · next full => simp [full]
    · next left => simp [left, map_eq_ok, ← exists_toFields_iff (room - 1) [] members close]
  | broken strict skim => simp [toValue, Source.skim]

theorem exists_toItems_iff (room : Nat) (items : List Source) (close : Option Failure) :
    (∃ vs, toItems room items close = .ok vs) ↔
      skimItems items close = none ∧ ItemsWithin room items := by
  cases items with
  | nil => cases close <;> simp [toItems, skimItems, ItemsWithin]
  | cons item items =>
    simp only [toItems, bind_eq_ok, skimItems, ItemsWithin, Option.or_eq_none_iff]
    constructor
    · rintro ⟨_, v, read, vs, reads, -⟩
      have first := (exists_toValue_iff room item).mp ⟨v, read⟩
      have rest := (exists_toItems_iff room items close).mp ⟨vs, reads⟩
      exact ⟨⟨first.1, rest.1⟩, first.2, rest.2⟩
    · rintro ⟨⟨skims, skimsRest⟩, within, withinRest⟩
      obtain ⟨v, read⟩ := (exists_toValue_iff room item).mpr ⟨skims, within⟩
      obtain ⟨vs, reads⟩ := (exists_toItems_iff room items close).mpr ⟨skimsRest, withinRest⟩
      exact ⟨v :: vs, v, read, vs, reads, rfl⟩

theorem exists_toFields_iff (room : Nat) (before : Fields) (ms : Members)
    (close : Option Failure) :
    (∃ fs, toFields room before ms close = .ok fs) ↔
      skimMembers ms close = none ∧ MembersWithin room ms := by
  cases ms with
  | nil => cases close <;> simp [toFields, skimMembers, MembersWithin]
  | cons m ms =>
    obtain ⟨key, source⟩ := m
    simp only [toFields, bind_eq_ok, skimMembers, MembersWithin, Option.or_eq_none_iff]
    constructor
    · rintro ⟨fs, k, rfl, v, read, reads⟩
      have first := (exists_toValue_iff room source).mp ⟨v, read⟩
      have rest := (exists_toFields_iff room _ ms close).mp ⟨fs, reads⟩
      exact ⟨⟨first.1, rest.1⟩, rfl, first.2, rest.2⟩
    · rintro ⟨⟨skims, skimsRest⟩, readable, within, withinRest⟩
      obtain ⟨v, read⟩ := (exists_toValue_iff room source).mpr ⟨skims, within⟩
      cases key with
      | error f => contradiction
      | ok k =>
        obtain ⟨fs, reads⟩ :=
          (exists_toFields_iff room (Fields.insert k v before) ms close).mpr
            ⟨skimsRest, withinRest⟩
        exact ⟨fs, k, rfl, v, read, reads⟩

end

/-- What can be read can be passed over. -/
theorem skim_of_toValue {room : Nat} {source : Source} {v : Value}
    (read : source.toValue room = .ok v) : source.skim = none :=
  ((exists_toValue_iff room source).mp ⟨v, read⟩).1

end Source

/-! ## texts -/

/-- Whether a text is well-formed JSON within the limits of reading. -/
structure WithinLimits (text : String) : Prop where
  wellFormed : (Document.read text).root.skim = none
  ends : (Document.read text).trailing = false
  within : (Document.read text).root.Within maxDepth

/-- The texts that can be read are those that are well-formed and within the limits. -/
theorem Value.exists_read_iff {text : String} :
    (∃ v, Value.read text = .ok v) ↔ WithinLimits text := by
  simp only [Value.read_eq_ok_iff]
  constructor
  · rintro ⟨v, read, ends⟩
    have limits := (Source.exists_toValue_iff _ _).mp ⟨v, read⟩
    exact ⟨limits.1, ends, limits.2⟩
  · rintro ⟨wellFormed, ends, within⟩
    obtain ⟨v, read⟩ := (Source.exists_toValue_iff _ _).mpr ⟨wellFormed, within⟩
    exact ⟨v, read, ends⟩

end GatewayClient.Json

import GatewayClient.Json.Source
import Mathlib.Data.List.Forall2
import Mathlib.Data.List.Induction
import Mathlib.Data.Option.Basic
import Mathlib.Data.String.Basic

/-!
# GatewayClient.Proofs.Json.Sorted

Objects as mappings. An object is the list of its fields in increasing order of their keys, so that
its fields are determined by the value under each key: `Sorted.rel_get?_iff` turns a relation
between the values of two objects under each key into one between their lists. Setting a key keeps
the order, and with it every value that is read from a text is sorted throughout (`sorted_read`).
-/

namespace GatewayClient.Json

/-! ## readings that succeed -/

/-- Two readings one after the other succeed if both do. -/
theorem bind_eq_ok {x : Except ε α} {f : α → Except ε β} :
    (x >>= f) = .ok b ↔ ∃ a, x = .ok a ∧ f a = .ok b := by
  cases x <;> simp [bind, Except.bind]

theorem map_eq_ok {x : Except ε α} {f : α → β} :
    x.map f = .ok b ↔ ∃ a, x = .ok a ∧ f a = b := by
  cases x <;> simp [Except.map]

/-- A result that has a value is that value. -/
theorem eq_ok_of_toOption {x : Except ε α} (value : x.toOption = some a) : x = .ok a := by
  cases x with
  | error e => contradiction
  | ok b => cases value; rfl

theorem mapError_eq_ok {x : Except ε α} {f : ε → ε'} : x.mapError f = .ok a ↔ x = .ok a := by
  cases x <;> simp [Except.mapError]

namespace Fields

/-! ## look-up -/

@[simp] theorem get?_nil (key : String) : get? [] key = none := rfl

@[simp] theorem get?_cons (f : String × Value) (fs : Fields) (key : String) :
    get? (f :: fs) key = if key = f.1 then some f.2 else get? fs key := by
  obtain ⟨k, v⟩ := f
  by_cases same : key = k
  · simp [get?, same]
  · have apart : (key == k) = false := by simpa using same
    simp [get?, List.lookup_cons, apart, same]

/-- What is inserted is found under its key, and under other keys what was there. -/
theorem get?_insert (fs : Fields) (key other : String) (value : Value) :
    get? (insert key value fs) other = if other = key then some value else get? fs other := by
  by_cases same : other = key
  · simp [same]
  · simp [same, get?_insert_of_ne value same]

/-- A key is not found if no field has it. -/
theorem get?_eq_none_iff {fs : Fields} : get? fs key = none ↔ ∀ f ∈ fs, key ≠ f.1 := by
  induction fs with
  | nil => simp
  | cons f fs ih =>
    by_cases same : key = f.1 <;> simp [same, ih]

/-- What is found is among the fields. -/
theorem mem_of_get? {fs : Fields} (found : get? fs key = some v) : (key, v) ∈ fs := by
  induction fs with
  | nil => simp at found
  | cons f fs ih =>
    rw [get?_cons] at found
    split at found
    · next same =>
      rw [same, ← Option.some.inj found]
      exact List.mem_cons_self
    · exact List.mem_cons_of_mem _ (ih found)

/-- Inserting adds nothing but the new field. -/
theorem mem_insert {fs : Fields} (member : f ∈ insert key v fs) : f = (key, v) ∨ f ∈ fs := by
  induction fs with
  | nil => exact .inl (List.mem_singleton.mp member)
  | cons g fs ih =>
    unfold insert at member
    grind

/-! ## order -/

instance (fs : Fields) : Decidable (Sorted fs) := inferInstanceAs (Decidable (List.Pairwise _ _))

theorem sorted_nil : Sorted [] := List.Pairwise.nil

theorem sorted_cons {f : String × Value} {fs : Fields} :
    Sorted (f :: fs) ↔ (∀ g ∈ fs, f.1 < g.1) ∧ Sorted fs := by
  simp [Sorted]

/-- Setting a key keeps the order. -/
theorem Sorted.insert {fs : Fields} (sorted : Sorted fs) (key : String) (value : Value) :
    Sorted (insert key value fs) := by
  induction fs with
  | nil => simp [Fields.insert, Sorted]
  | cons f fs ih =>
    obtain ⟨first, rest⟩ := sorted_cons.mp sorted
    unfold Fields.insert
    split
    · next before =>
      refine sorted_cons.mpr ⟨fun g member => ?_, sorted⟩
      rcases List.mem_cons.mp member with rfl | later
      · exact before
      · exact before.trans (first g later)
    split
    · next same =>
      subst same
      exact sorted_cons.mpr ⟨first, rest⟩
    · next notBefore apart =>
      have after : f.1 < key := lt_of_le_of_ne (not_lt.mp notBefore) (Ne.symm apart)
      refine sorted_cons.mpr ⟨fun g member => ?_, ih rest⟩
      rcases mem_insert member with rfl | later
      · exact after
      · exact first g later

/-- Fields that were put together by insertion are in order. -/
theorem sorted_ofList (pairs : List (String × Value)) : Sorted (ofList pairs) := by
  suffices kept :
      ∀ fs, Sorted fs → Sorted (pairs.foldl (fun fs f => Fields.insert f.1 f.2 fs) fs) from
    kept [] sorted_nil
  induction pairs with
  | nil => exact fun fs sorted => sorted
  | cons f pairs ih => exact fun fs sorted => ih _ (sorted.insert f.1 f.2)

/-- Of several values of one key the last one is found. -/
theorem get?_ofList (pairs : List (String × Value)) (key : String) :
    get? (ofList pairs) key = get? pairs.reverse key := by
  induction pairs using List.reverseRecOn with
  | nil => rfl
  | append_singleton pairs f ih =>
    rw [List.reverse_append, ofList, List.foldl_append]
    change get? (insert f.1 f.2 (ofList pairs)) key = get? (f :: pairs.reverse) key
    rw [get?_insert, get?_cons, ih]

/-- No key comes before the first one. -/
theorem Sorted.get?_of_lt {f : String × Value} {fs : Fields} (sorted : Sorted (f :: fs))
    (before : key < f.1) : get? (f :: fs) key = none := by
  rw [get?_eq_none_iff]
  intro g member
  rcases List.mem_cons.mp member with rfl | later
  · exact before.ne
  · exact (before.trans ((sorted_cons.mp sorted).1 g later)).ne

/-- In order, no key comes again behind itself. -/
theorem Sorted.get?_tail {f : String × Value} {fs : Fields} (sorted : Sorted (f :: fs)) :
    get? fs f.1 = none :=
  get?_eq_none_iff.mpr (fun g member => ((sorted_cons.mp sorted).1 g member).ne)

/-- In sorted fields each key has one value. -/
theorem Sorted.get?_eq_some_iff {fs : Fields} (sorted : Sorted fs) :
    get? fs key = some v ↔ (key, v) ∈ fs := by
  refine ⟨mem_of_get?, fun member => ?_⟩
  induction fs with
  | nil => contradiction
  | cons f fs ih =>
    obtain ⟨first, rest⟩ := sorted_cons.mp sorted
    rcases List.mem_cons.mp member with rfl | later
    · simp
    · rw [get?_cons, if_neg (first _ later).ne', ih rest later]

variable {R : Value → Value → Prop}

/-- Fields that correspond one by one have related values under each key. -/
theorem rel_get?_of_forall₂ {fs gs : Fields}
    (each : List.Forall₂ (fun f g => f.1 = g.1 ∧ R f.2 g.2) fs gs) (key : String) :
    Option.Rel R (get? fs key) (get? gs key) := by
  induction each with
  | nil => exact .none
  | @cons f g fs gs here rest ih =>
    obtain ⟨same, related⟩ := here
    rw [get?_cons, get?_cons, same]
    split
    · exact .some related
    · exact ih

/-- Two objects have related values under each key if and only if their fields correspond one by
one. -/
theorem Sorted.rel_get?_iff {fs gs : Fields} (left : Sorted fs) (right : Sorted gs) :
    (∀ key, Option.Rel R (get? fs key) (get? gs key)) ↔
      List.Forall₂ (fun f g => f.1 = g.1 ∧ R f.2 g.2) fs gs := by
  refine ⟨fun related => ?_, rel_get?_of_forall₂⟩
  induction fs generalizing gs with
  | nil =>
    cases gs with
    | nil => exact .nil
    | cons g gs =>
      have absurdity := related g.1
      simp only [get?_nil, get?_cons, if_true] at absurdity
      cases absurdity
  | cons f fs ih =>
    cases gs with
    | nil =>
      have absurdity := related f.1
      simp only [get?_nil, get?_cons, if_true] at absurdity
      cases absurdity
    | cons g gs =>
      have atLeft := related f.1
      have atRight := related g.1
      have same : f.1 = g.1 := by
        -- the smaller of two first keys would be missing on the other side
        rcases lt_trichotomy f.1 g.1 with before | same | after
        · rw [right.get?_of_lt before, get?_cons, if_pos rfl] at atLeft
          cases atLeft
        · exact same
        · rw [left.get?_of_lt after, get?_cons, if_pos rfl] at atRight
          cases atRight
      rw [get?_cons, get?_cons, if_pos rfl, if_pos same] at atLeft
      cases atLeft with
      | some here =>
        refine .cons ⟨same, here⟩ (ih (sorted_cons.mp left).2 (sorted_cons.mp right).2 ?_)
        intro key
        by_cases first : key = f.1
        · rw [first, left.get?_tail, same, right.get?_tail]
          exact .none
        · have later := related key
          rwa [get?_cons, get?_cons, if_neg first, if_neg (same ▸ first)] at later

/-- Two objects with the same value under each key are equal. -/
theorem Sorted.ext {fs gs : Fields} (left : Sorted fs) (right : Sorted gs)
    (same : ∀ key, get? fs key = get? gs key) : fs = gs := by
  have related : ∀ key, Option.Rel Eq (get? fs key) (get? gs key) := by
    intro key
    rw [same key]
    cases get? gs key with
    | none => exact .none
    | some v => exact .some rfl
  have each := (left.rel_get?_iff right).mp related
  refine List.forall₂_eq_eq_eq ▸ each.imp ?_
  rintro ⟨k, v⟩ ⟨l, w⟩ ⟨rfl, rfl⟩
  rfl

end Fields

/-! ## values that are read -/

/-- Inserting a sorted value leaves all values sorted. -/
theorem Value.FieldsSorted.insert {fs : Fields} {v : Value} (sorted : FieldsSorted fs)
    (value : v.Sorted) (key : String) : FieldsSorted (Fields.insert key v fs) := by
  induction fs with
  | nil => exact ⟨value, trivial⟩
  | cons f fs ih =>
    unfold Fields.insert
    split
    · exact ⟨value, sorted⟩
    split
    · exact ⟨value, sorted.2⟩
    · exact ⟨sorted.1, ih sorted.2⟩

/-- What is found among sorted values is sorted. -/
theorem Value.FieldsSorted.of_get? {fs : Fields} (sorted : FieldsSorted fs)
    (found : Fields.get? fs key = some v) : v.Sorted := by
  induction fs with
  | nil => contradiction
  | cons f fs ih =>
    rw [Fields.get?_cons] at found
    split at found
    · cases found
      exact sorted.1
    · exact ih sorted.2 found

mutual

/-- The value of a source is sorted. -/
theorem Source.sorted_toValue {room : Nat} {source : Source} {v : Value}
    (read : source.toValue room = .ok v) : v.Sorted := by
  cases source with
  | null => cases read; trivial
  | bool b => cases read; trivial
  | number n =>
    cases n <;> cases read
    trivial
  | string s =>
    cases s <;> cases read
    trivial
  | array items close =>
    simp only [Source.toValue] at read
    split at read
    · contradiction
    · obtain ⟨vs, inside, rfl⟩ := map_eq_ok.mp read
      exact Source.sorted_toItems inside
  | object members close =>
    simp only [Source.toValue] at read
    split at read
    · contradiction
    · obtain ⟨fs, inside, rfl⟩ := map_eq_ok.mp read
      exact Source.sorted_toFields ⟨Fields.sorted_nil, trivial⟩ inside
  | broken strict skim => contradiction

/-- Items that are read are sorted. -/
theorem Source.sorted_toItems {room : Nat} {items : List Source} {close : Option Failure}
    {vs : List Value} (read : Source.toItems room items close = .ok vs) :
    Value.ItemsSorted vs := by
  cases items with
  | nil =>
    cases close <;> cases read
    trivial
  | cons item items =>
    simp only [Source.toItems, bind_eq_ok] at read
    obtain ⟨v, first, vs, rest, done⟩ := read
    cases done
    exact ⟨Source.sorted_toValue first, Source.sorted_toItems rest⟩

/-- Fields that are read behind sorted ones are in order with them, and sorted. -/
theorem Source.sorted_toFields {room : Nat} {fields fs : Fields}
    {members : List (Except Failure String × Source)} {close : Option Failure}
    (before : (Value.object fields).Sorted)
    (read : Source.toFields room fields members close = .ok fs) : (Value.object fs).Sorted := by
  cases members with
  | nil =>
    cases close <;> cases read
    exact before
  | cons m members =>
    obtain ⟨key, source⟩ := m
    simp only [Source.toFields, bind_eq_ok] at read
    obtain ⟨k, rfl, v, first, rest⟩ := read
    exact Source.sorted_toFields
      ⟨before.1.insert k v, before.2.insert (Source.sorted_toValue first) k⟩ rest

end

/-- A text is read if its root is within the depth and nothing follows it. -/
theorem Value.read_eq_ok_iff {text : String} {v : Value} : Value.read text = .ok v ↔
    (Document.read text).root.toValue maxDepth = .ok v ∧ (Document.read text).trailing = false := by
  simp only [Value.read, bind_eq_ok]
  constructor
  · rintro ⟨w, root, ends⟩
    split at ends
    · contradiction
    · next behind =>
      cases ends
      exact ⟨root, by simpa using behind⟩
  · rintro ⟨root, ends⟩
    exact ⟨v, root, by rw [ends]; rfl⟩

/-- Every value that is read from a text is sorted. -/
theorem Value.sorted_read {text : String} {v : Value} (read : Value.read text = .ok v) :
    v.Sorted :=
  Source.sorted_toValue (Value.read_eq_ok_iff.mp read).1

end GatewayClient.Json

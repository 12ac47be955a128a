import GatewayClient.Proofs.Json.Holding
import GatewayClient.Settings.Layers

/-!
# GatewayClient.Proofs.Settings.Merging

What merging leaves under each key: the value of the source if there is one that is not `null`,
merged into the value of the target if there is one as well, and otherwise the value of the
target. By induction on the members of the source, merging it once more changes nothing
(`merge_merge`).
-/

namespace GatewayClient.Json

namespace Value

theorem isNull_eq_false_iff {v : Value} : v.isNull = false ↔ v ≠ .null := by
  cases v <;> simp [isNull]

/-- Whether a value is an object. -/
def IsObject (v : Value) : Prop := ∃ fs, v = .object fs

theorem isObject_object (fs : Fields) : (object fs).IsObject := ⟨fs, rfl⟩

theorem not_isObject_null : ¬ null.IsObject := by
  rintro ⟨fs, same⟩
  cases same

/-! ## what is merged as a whole -/

/-- A target that is no object is replaced. -/
theorem merge_of_not_isObject {target : Value} (plain : ¬ target.IsObject) (source : Value) :
    target.merge source = source := by
  cases source with
  | object fs => cases target <;> first | rfl | exact absurd (isObject_object _) plain
  | _ => rfl

/-- A source that is no object replaces. -/
theorem merge_plain {source : Value} (plain : ¬ source.IsObject) (target : Value) :
    target.merge source = source := by
  cases source with
  | object fs => exact absurd (isObject_object fs) plain
  | _ => rfl

theorem merge_null_left (source : Value) : null.merge source = source :=
  merge_of_not_isObject not_isObject_null source

theorem merge_object (ts fs : Fields) :
    (object ts).merge (object fs) = object (mergeFields ts fs) := rfl

/-- Nothing but `null` is merged to `null`. -/
theorem merge_ne_null {source : Value} (full : source ≠ .null) (target : Value) :
    target.merge source ≠ .null := by
  by_cases both : source.IsObject ∧ target.IsObject
  · obtain ⟨⟨fs, rfl⟩, ts, rfl⟩ := both
    simp [merge_object]
  · rcases not_and_or.mp both with plain | plain
    · rwa [merge_plain plain]
    · rwa [merge_of_not_isObject plain]

/-! ## what is merged by its members -/

/-- Merges a value into what is there, if anything is. -/
def mergeInto (target : Option Value) (source : Value) : Value :=
  target.elim source (fun old => old.merge source)

/-- The first field of a source is passed over if it is `null`, and merged before the others
else. -/
theorem mergeFields_cons (target : Fields) (key : String) (v : Value) (rest : Fields) :
    mergeFields target ((key, v) :: rest) =
      if v.isNull then mergeFields target rest
      else mergeFields (Fields.insert key (mergeInto (Fields.get? target key) v) target) rest := by
  rw [mergeFields]
  cases Fields.get? target key <;> rfl

theorem sorted_mergeFields {target source : Fields} (sorted : Fields.Sorted target) :
    Fields.Sorted (mergeFields target source) := by
  induction source generalizing target with
  | nil => exact sorted
  | cons f rest ih =>
    rw [mergeFields_cons]
    split
    · exact ih sorted
    · exact ih (sorted.insert _ _)

/-- Merging leaves under each key what the source gives, merged into what the target has. -/
theorem get?_mergeFields {target source : Fields} (sorted : Fields.Sorted source) (key : String) :
    Fields.get? (mergeFields target source) key =
      match (Fields.get? source key).filter (!·.isNull) with
      | some v => some (mergeInto (Fields.get? target key) v)
      | none => Fields.get? target key := by
  induction source generalizing target with
  | nil => rfl
  | cons f rest ih =>
    obtain ⟨k, v⟩ := f
    have later := (Fields.sorted_cons.mp sorted).2
    rw [mergeFields_cons, Fields.get?_cons]
    by_cases same : key = k
    · subst same
      have absent : Fields.get? rest key = none := sorted.get?_tail
      cases empty : v.isNull <;> simp [ih later, absent, empty, Option.filter_some]
    · cases v.isNull <;> simp [ih later, same, Fields.get?_insert]

/-- Where there is nothing to merge into, it is as if there were a `null`. -/
theorem mergeInto_eq (target : Option Value) (source : Value) :
    mergeInto target source = (target.getD .null).merge source := by
  cases target with
  | none => exact (merge_null_left source).symm
  | some old => rfl

section fields

variable {target source : Fields}

/-- A value under a key that is not `null` is merged into what is there. -/
theorem get?_mergeFields_full (sorted : Fields.Sorted source)
    (found : Fields.get? source key = some v) (full : v ≠ .null) :
    Fields.get? (mergeFields target source) key =
      some (((Fields.get? target key).getD .null).merge v) := by
  rw [get?_mergeFields sorted, found, ← mergeInto_eq]
  simp [isNull_eq_false_iff.mpr full, Option.filter_some]

/-- A key without a value, or with `null`, leaves what is there. -/
theorem get?_mergeFields_empty (sorted : Fields.Sorted source)
    (empty : ∀ v, Fields.get? source key = some v → v = .null) :
    Fields.get? (mergeFields target source) key = Fields.get? target key := by
  have passed : (Fields.get? source key).filter (!·.isNull) = none := by
    rw [Option.filter_eq_none_iff]
    intro v found
    simp [empty v found, isNull]
  rw [get?_mergeFields sorted, passed]

/-- Fields that have taken up a source are not changed by it any more. -/
theorem mergeFields_eq_self (left : Fields.Sorted target) (right : Fields.Sorted source)
    (taken : ∀ key v, Fields.get? source key = some v → v ≠ .null →
      ∃ w, Fields.get? target key = some w ∧ w.merge v = w) :
    mergeFields target source = target := by
  refine Fields.Sorted.ext (sorted_mergeFields left) left fun key => ?_
  by_cases full : ∃ v, Fields.get? source key = some v ∧ v ≠ .null
  · obtain ⟨v, found, full⟩ := full
    obtain ⟨w, there, absorbed⟩ := taken key v found full
    rw [get?_mergeFields_full right found full, there, Option.getD_some, absorbed]
  · push Not at full
    exact get?_mergeFields_empty right full

end fields

/-! ## merging twice -/

/-- What is under a key is sorted, `null` if there is nothing. -/
theorem FieldsSorted.sorted_getD {fs : Fields} (sorted : FieldsSorted fs) (key : String) :
    ((Fields.get? fs key).getD .null).Sorted := by
  cases found : Fields.get? fs key with
  | none => trivial
  | some v => exact sorted.of_get? found

mutual

/-- Induction on values by the members of objects. -/
@[elab_as_elim]
theorem member_induction {motive : Value → Prop} (plain : ∀ v, ¬ v.IsObject → motive v)
    (object : ∀ fs, (∀ key v, Fields.get? fs key = some v → motive v) → motive (.object fs))
    (v : Value) : motive v := by
  cases v with
  | object fs => exact object fs (member_induction_fields plain object fs)
  | _ => exact plain _ (by rintro ⟨fs, same⟩; cases same)

theorem member_induction_fields {motive : Value → Prop} (plain : ∀ v, ¬ v.IsObject → motive v)
    (object : ∀ fs, (∀ key v, Fields.get? fs key = some v → motive v) → motive (.object fs))
    (fs : List (String × Value)) (key : String) (v : Value)
    (found : Fields.get? fs key = some v) : motive v := by
  cases fs with
  | nil => cases found
  | cons f fs =>
    rw [Fields.get?_cons] at found
    split at found
    · cases found
      exact member_induction plain object f.2
    · exact member_induction_fields plain object fs key v found

end

/-- Fields are merged to sorted values if each of them is. -/
theorem fieldsSorted_mergeFields {target source : Fields} (sorted : FieldsSorted target)
    (each : ∀ f ∈ source, ∀ old : Value, old.Sorted → (old.merge f.2).Sorted) :
    FieldsSorted (mergeFields target source) := by
  induction source generalizing target with
  | nil => exact sorted
  | cons f rest ih =>
    obtain ⟨key, v⟩ := f
    have later : ∀ f ∈ rest, ∀ old : Value, old.Sorted → (old.merge f.2).Sorted :=
      fun f member => each f (List.mem_cons_of_mem _ member)
    rw [mergeFields_cons]
    split
    · exact ih sorted later
    · refine ih (sorted.insert ?_ key) later
      rw [mergeInto_eq]
      exact each (key, v) List.mem_cons_self _ (sorted.sorted_getD key)

/-- What is merged of sorted values is sorted. -/
theorem sorted_merge {target source : Value} (left : target.Sorted) (right : source.Sorted) :
    (target.merge source).Sorted := by
  induction source using member_induction generalizing target with
  | plain source plain => rwa [merge_plain plain]
  | object fs members =>
    by_cases both : target.IsObject
    · obtain ⟨ts, rfl⟩ := both
      refine ⟨sorted_mergeFields left.1,
        fieldsSorted_mergeFields left.2 fun f member old before => ?_⟩
      have found := right.1.get?_eq_some_iff.mpr member
      exact members f.1 f.2 found before (right.2.of_get? found)
    · rwa [merge_of_not_isObject both]

/-- A source that is merged once more changes nothing. -/
theorem merge_merge {target source : Value} (left : target.Sorted) (right : source.Sorted) :
    (target.merge source).merge source = target.merge source := by
  induction source using member_induction generalizing target with
  | plain source plain => rw [merge_plain plain, merge_plain plain]
  | object fs members =>
    by_cases both : target.IsObject
    · obtain ⟨ts, rfl⟩ := both
      rw [merge_object, merge_object, mergeFields_eq_self (sorted_mergeFields left.1) right.1]
      intro key v found full
      exact ⟨_, get?_mergeFields_full right.1 found full,
        members key v found (left.2.sorted_getD key) (right.2.of_get? found)⟩
    · rw [merge_of_not_isObject both, merge_object, mergeFields_eq_self right.1 right.1]
      intro key v found full
      have again : (Value.null.merge v).merge v = Value.null.merge v :=
        members key v found trivial (right.2.of_get? found)
      rw [merge_null_left] at again
      exact ⟨v, found, again⟩

/-- A value that is merged into itself stays as it is. -/
theorem merge_self {v : Value} (sorted : v.Sorted) : v.merge v = v := by
  have again : (Value.null.merge v).merge v = Value.null.merge v := merge_merge trivial sorted
  rwa [merge_null_left] at again

end Value

end GatewayClient.Json

import GatewayClient.Proofs.Settings.Merging

/-!
# GatewayClient.Proofs.Settings.Paths

What merging leaves at each path of an object. A path is a list of keys, each of which leads into an
object:

```
the source has there                      the merged value has there
a value that is neither null nor object   that value
nothing, or null                          what the target has, unless such a value stands above
an object, and the target has one         the two objects, merged
an object, and the target has none        the object of the source, with the nulls that it holds
```

Merging a source once more changes nothing, but as the last line says a `null` of the source does
get through: it is left out only where the target has the object that holds it.
-/

namespace GatewayClient.Json

namespace Value

/-! ## paths -/

/-- The value under a key of an object. -/
def member? (v : Value) (key : String) : Option Value := v.asFields?.bind (Fields.get? · key)

/-- The value at a path of keys, each of which leads into an object. -/
def at? (v : Value) : (path : List String) → Option Value
  | [] => some v
  | key :: path => (v.member? key).bind (fun w => w.at? path)

/-- Whether a value, when it is merged into another one, decides what stands at a path: by a value
there that is not `null`, or by one above that is neither `null` nor an object. -/
inductive Overrides (source : Value) (path : List String) : Prop where
  | here {v : Value} (found : source.at? path = some v) (full : v ≠ .null)
  | above {above : List String} {v : Value} (front : above <+: path) (proper : above ≠ path)
      (found : source.at? above = some v) (full : v ≠ .null) (plain : ¬ v.IsObject)

/-- Whether a value has an object at a path. -/
def HasObject (v : Value) (path : List String) : Prop := ∃ fs, v.at? path = some (.object fs)

section paths

variable {v w : Value} {fs : Fields} {key : String} {path : List String}

@[simp] theorem at?_nil (v : Value) : v.at? [] = some v := rfl

theorem at?_cons (v : Value) (key : String) (path : List String) :
    v.at? (key :: path) = (v.member? key).bind (fun w => w.at? path) := rfl

@[simp] theorem member?_object (fs : Fields) (key : String) :
    (object fs).member? key = Fields.get? fs key := rfl

/-- Nothing but an object has members. -/
theorem member?_of_not_isObject (plain : ¬ v.IsObject) (key : String) : v.member? key = none := by
  cases v with
  | object fs => exact absurd (isObject_object fs) plain
  | _ => rfl

theorem isObject_of_member? (found : v.member? key = some w) : v.IsObject := by
  by_contra plain
  rw [member?_of_not_isObject plain] at found
  contradiction

theorem at?_cons_of_not_isObject (plain : ¬ v.IsObject) (key : String) (path : List String) :
    v.at? (key :: path) = none := by
  rw [at?_cons, member?_of_not_isObject plain, Option.bind_none]

/-- What is at a path with a last key is a member of the object above. -/
theorem hasObject_of_at? (found : v.at? (path ++ [key]) = some w) : v.HasObject path := by
  induction path generalizing v with
  | nil =>
    obtain ⟨u, there, -⟩ := Option.bind_eq_some_iff.mp found
    obtain ⟨fs, rfl⟩ := isObject_of_member? there
    exact ⟨fs, rfl⟩
  | cons first path ih =>
    obtain ⟨u, there, found⟩ := Option.bind_eq_some_iff.mp found
    obtain ⟨fs, inside⟩ := ih found
    exact ⟨fs, by rw [at?_cons, there, Option.bind_some, inside]⟩

theorem not_hasObject (plain : ¬ v.IsObject) (path : List String) : ¬ v.HasObject path := by
  rintro ⟨fs, found⟩
  cases path with
  | nil => exact plain ⟨fs, Option.some.inj found⟩
  | cons key path =>
    rw [at?_cons_of_not_isObject plain] at found
    contradiction

theorem eq_null_of_at?_null (found : null.at? path = some v) : v = .null := by
  cases path with
  | nil => exact (Option.some.inj found).symm
  | cons => contradiction

/-- Below a key without a value there is as little as below a `null`. -/
theorem at?_below (v : Value) (first : String) (path : List String) (key : String) :
    v.at? (first :: (path ++ [key])) = ((v.member? first).getD .null).at? (path ++ [key]) := by
  rw [at?_cons]
  cases v.member? first with
  | none => cases path <;> rfl
  | some w => rfl

theorem hasObject_below : v.HasObject (key :: path) ↔
    ((v.member? key).getD .null).HasObject path := by
  rw [HasObject, at?_cons]
  cases v.member? key with
  | none => simpa using not_hasObject not_isObject_null path
  | some w => rfl

theorem not_overrides_null (path : List String) : ¬ null.Overrides path := by
  rintro (⟨found, full⟩ | ⟨-, -, found, full, -⟩)
  · exact full (eq_null_of_at?_null found)
  · exact full (eq_null_of_at?_null found)

/-- A value that is neither `null` nor an object replaces whatever there is. -/
theorem overrides_of_not_isObject {source : Value} (full : source ≠ .null)
    (plain : ¬ source.IsObject) (path : List String) : source.Overrides path := by
  cases path with
  | nil => exact .here rfl full
  | cons key path =>
    have top : source.at? [] = some source := rfl
    exact .above List.nil_prefix (List.cons_ne_nil key path).symm top full plain

/-- Below a key it is the value there that decides. -/
theorem overrides_object_cons : (object fs).Overrides (key :: path) ↔
    ∃ v, Fields.get? fs key = some v ∧ v.Overrides path := by
  constructor
  · rintro (⟨found, full⟩ | @⟨above, v, front, proper, found, full, plain⟩)
    · obtain ⟨v, there, found⟩ := Option.bind_eq_some_iff.mp found
      exact ⟨v, there, .here found full⟩
    · cases above with
      | nil => exact absurd ⟨fs, (Option.some.inj found).symm⟩ plain
      | cons first above =>
        obtain ⟨rfl, shorter⟩ := List.cons_prefix_cons.mp front
        obtain ⟨w, there, found⟩ := Option.bind_eq_some_iff.mp found
        exact ⟨w, there, .above shorter (by simpa using proper) found full plain⟩
  · rintro ⟨v, there, ⟨found, full⟩ | ⟨front, proper, found, full, plain⟩⟩
    · exact .here (by rw [at?_cons, member?_object, there, Option.bind_some, found]) full
    · exact .above (List.cons_prefix_cons.mpr ⟨rfl, front⟩) (by simpa using proper)
        (by rw [at?_cons, member?_object, there, Option.bind_some, found]) full plain

/-- Nothing is decided below a key without a value, or with `null`. -/
theorem not_overrides_of_empty (empty : ∀ v, Fields.get? fs key = some v → v = .null)
    (path : List String) : ¬ (object fs).Overrides (key :: path) := by
  rw [overrides_object_cons]
  rintro ⟨v, found, decides⟩
  obtain rfl := empty v found
  exact not_overrides_null path decides

end paths

/-! ## merging by paths -/

section merging

variable {source target v : Value} {ts fs : Fields} {key : String} {path : List String}

/-- Below a key under which the source has a value, the two values under it are merged. -/
theorem at?_merge_full (sorted : Fields.Sorted fs) (found : Fields.get? fs key = some v)
    (full : v ≠ .null) (target : Value) (path : List String) :
    (target.merge (object fs)).at? (key :: path) =
      (((target.member? key).getD .null).merge v).at? path := by
  by_cases members : target.IsObject
  · obtain ⟨ts, rfl⟩ := members
    rw [merge_object, at?_cons, member?_object, get?_mergeFields_full sorted found full,
      Option.bind_some, member?_object]
  · rw [merge_of_not_isObject members, at?_cons, member?_object, found, Option.bind_some,
      member?_of_not_isObject members, Option.getD_none, merge_null_left]

/-- Below a key under which the source has nothing, an object stays as it is. -/
theorem at?_merge_empty (sorted : Fields.Sorted fs)
    (empty : ∀ v, Fields.get? fs key = some v → v = .null) (ts : Fields) (path : List String) :
    ((object ts).merge (object fs)).at? (key :: path) = (object ts).at? (key :: path) := by
  rw [merge_object, at?_cons, member?_object, get?_mergeFields_empty sorted empty, at?_cons,
    member?_object]

/-- A value of the source that is neither `null` nor an object is in its place. -/
theorem at?_merge_of_plain (sorted : source.Sorted) (found : source.at? path = some v)
    (full : v ≠ .null) (plain : ¬ v.IsObject) (target : Value) :
    (target.merge source).at? path = some v := by
  induction path generalizing source target with
  | nil =>
    obtain rfl := Option.some.inj found
    rw [merge_plain plain, at?_nil]
  | cons key path ih =>
    obtain ⟨w, there, inside⟩ := Option.bind_eq_some_iff.mp found
    obtain ⟨fs, rfl⟩ := isObject_of_member? there
    have filled : w ≠ .null := by
      rintro rfl
      exact full (eq_null_of_at?_null inside)
    rw [at?_merge_full sorted.1 there filled]
    exact ih (sorted.2.of_get? there) inside _

/-- What the source does not decide stays as it is in the target. -/
theorem at?_merge_of_not_overrides (sorted : source.Sorted) (full : source ≠ .null)
    (found : target.at? path = some v) (untouched : ¬ source.Overrides path) :
    (target.merge source).at? path = some v := by
  induction path generalizing source target with
  | nil => exact absurd (.here rfl full) untouched
  | cons key path ih =>
    by_cases members : source.IsObject
    · obtain ⟨fs, rfl⟩ := members
      obtain ⟨old, there, inside⟩ := Option.bind_eq_some_iff.mp found
      obtain ⟨ts, rfl⟩ := isObject_of_member? there
      rw [overrides_object_cons] at untouched
      by_cases filled : ∃ w, Fields.get? fs key = some w ∧ w ≠ .null
      · obtain ⟨w, given, filled⟩ := filled
        rw [at?_merge_full sorted.1 given filled, there, Option.getD_some]
        exact ih (sorted.2.of_get? given) filled inside (fun above => untouched ⟨w, given, above⟩)
      · push Not at filled
        rw [at?_merge_empty sorted.1 filled, found]
    · exact absurd (overrides_of_not_isObject full members _) untouched

/-- Where a `null` of the merged value at a path with a last key comes from: it was left of the
target, or it is one of the source and there was no object of the target to be merged into. -/
def NullFrom (target source : Value) (path : List String) (key : String) : Prop :=
  target.at? (path ++ [key]) = some .null ∧ ¬ source.Overrides (path ++ [key]) ∨
    source.at? (path ++ [key]) = some .null ∧ ¬ target.HasObject path

theorem null_at_merge_iff_of_apart (full : source ≠ .null)
    (apart : ¬ (target.IsObject ∧ source.IsObject)) (path : List String) (key : String) :
    (target.merge source).at? (path ++ [key]) = some .null ↔ NullFrom target source path key := by
  rcases not_and_or.mp apart with plain | plain
  · have absent : target.at? (path ++ [key]) ≠ some .null :=
      fun found => not_hasObject plain path (hasObject_of_at? found)
    simp [NullFrom, merge_of_not_isObject plain, absent, not_hasObject plain path]
  · have absent : source.at? (path ++ [key]) ≠ some .null :=
      fun found => not_hasObject plain path (hasObject_of_at? found)
    simp [NullFrom, merge_plain plain, absent, overrides_of_not_isObject full plain]

/-- A `null` of the merged value comes from one of the two. -/
theorem null_at_merge_iff (sorted : source.Sorted) (full : source ≠ .null) (target : Value)
    (path : List String) (key : String) :
    (target.merge source).at? (path ++ [key]) = some .null ↔ NullFrom target source path key := by
  induction path generalizing source target with
  | nil =>
    by_cases both : target.IsObject ∧ source.IsObject
    case neg => exact null_at_merge_iff_of_apart full both [] key
    obtain ⟨⟨ts, rfl⟩, fs, rfl⟩ := both
    have outer : (object ts).HasObject [] := ⟨ts, rfl⟩
    rw [NullFrom, List.nil_append]
    by_cases filled : ∃ v, Fields.get? fs key = some v ∧ v ≠ .null
    · obtain ⟨v, given, filled⟩ := filled
      have decides : (object fs).Overrides [key] :=
        overrides_object_cons.mpr ⟨v, given, .here rfl filled⟩
      rw [at?_merge_full sorted.1 given filled, at?_nil, Option.some.injEq]
      simp [decides, outer, merge_ne_null filled]
    · push Not at filled
      rw [at?_merge_empty sorted.1 filled]
      simp [not_overrides_of_empty filled, outer]
  | cons first path ih =>
    by_cases both : target.IsObject ∧ source.IsObject
    case neg => exact null_at_merge_iff_of_apart full both (first :: path) key
    obtain ⟨⟨ts, rfl⟩, fs, rfl⟩ := both
    rw [NullFrom, List.cons_append]
    by_cases filled : ∃ v, Fields.get? fs first = some v ∧ v ≠ .null
    · obtain ⟨v, given, filled⟩ := filled
      have decides : (object fs).Overrides (first :: (path ++ [key])) ↔
          v.Overrides (path ++ [key]) := by simp [overrides_object_cons, given]
      have inside : (object fs).at? (first :: (path ++ [key])) = v.at? (path ++ [key]) := by
        rw [at?_cons, member?_object, given, Option.bind_some]
      rw [at?_merge_full sorted.1 given filled, ih (sorted.2.of_get? given) filled, NullFrom,
        decides, inside, at?_below, hasObject_below]
    · push Not at filled
      have nothing : (object fs).at? (first :: (path ++ [key])) ≠ some .null := by
        intro found
        obtain ⟨v, given, inside⟩ := Option.bind_eq_some_iff.mp found
        rw [filled v given] at inside
        exact not_hasObject not_isObject_null path (hasObject_of_at? inside)
      rw [at?_merge_empty sorted.1 filled]
      simp [not_overrides_of_empty filled, nothing]

/-- **Merging**: a source that is merged once more changes nothing, a value merged into itself
stays as it is, and of two objects each path of the target keeps its value unless the source
decides what stands there, while each value of the source that is neither `null` nor an object is
in its place. The values are sorted, as all values are that were read, and so is what they are
merged to. -/
theorem merge_by_paths (left : target.Sorted) (right : source.Sorted) :
    (target.merge source).Sorted ∧
    (target.merge source).merge source = target.merge source ∧
    target.merge target = target ∧
    (target.IsObject → source.IsObject → ∀ path v, target.at? path = some v →
      ¬ source.Overrides path → (target.merge source).at? path = some v) ∧
    ∀ path v, source.at? path = some v → v ≠ .null → ¬ v.IsObject →
      (target.merge source).at? path = some v := by
  refine ⟨sorted_merge left right, merge_merge left right, merge_self left, ?_, ?_⟩
  · rintro - ⟨fs, rfl⟩ path v found untouched
    exact at?_merge_of_not_overrides right (by simp) found untouched
  · intro path v found full plain
    exact at?_merge_of_plain right found full plain target

/-- Two objects with a common member: the one under `proxy` is merged, a `null` in it leaves the
host, and the list under `tags` is replaced as a whole. -/
theorem merge_by_paths_proxy :
    let target : Value := .object
      [ ("proxy", .object [("host", .string "a"), ("port", .number (.natural 1))]),
        ("tags", .array [.null]) ]
    let source : Value := .object
      [("proxy", .object [("host", .null), ("port", .bool true)]), ("tags", .array [])]
    target.Sorted ∧ source.Sorted ∧ target.IsObject ∧ source.IsObject ∧
      ¬ source.Overrides ["proxy", "host"] ∧
      (target.merge source).at? ["proxy", "host"] = some (.string "a") ∧
      (target.merge source).at? ["proxy", "port"] = some (.bool true) ∧
      (target.merge source).at? ["tags"] = some (.array []) := by
  intro target source
  have left : target.Sorted := ⟨by decide, ⟨by decide, trivial, trivial, trivial⟩,
    ⟨trivial, trivial⟩, trivial⟩
  have right : source.Sorted :=
    ⟨by decide, ⟨by decide, trivial, trivial, trivial⟩, trivial, trivial⟩
  have untouched : ¬ source.Overrides ["proxy", "host"] := by
    simp [source, overrides_object_cons, not_overrides_null]
  obtain ⟨-, -, -, kept, placed⟩ := merge_by_paths left right
  exact ⟨left, right, isObject_object _, isObject_object _, untouched,
    kept (isObject_object _) (isObject_object _) _ _ rfl untouched,
    placed _ _ rfl (by simp) (by rintro ⟨fs, same⟩; cases same),
    placed _ _ rfl (by simp) (by rintro ⟨fs, same⟩; cases same)⟩

/-- **Nulls**: where a `null` of two merged objects comes from. All of them were left of the
target if and only if the target has an object wherever the source has one with a `null` in it. -/
theorem nulls_left_out_iff (sorted : (object fs).Sorted) :
    (∀ path key, ((object ts).merge (object fs)).at? (path ++ [key]) = some .null ↔
      NullFrom (object ts) (object fs) path key) ∧
    ((∀ path, ((object ts).merge (object fs)).at? path = some .null →
        (object ts).at? path = some .null) ↔
      ∀ path key, (object fs).at? (path ++ [key]) = some .null → (object ts).HasObject path) := by
  have origin := null_at_merge_iff sorted (by simp) (object ts)
  refine ⟨origin, fun left path key given => ?_, fun met path found => ?_⟩
  · by_contra apart
    exact apart (hasObject_of_at? (left _ ((origin path key).mpr (.inr ⟨given, apart⟩))))
  · rcases List.eq_nil_or_concat' path with rfl | ⟨path, key, rfl⟩
    · rw [merge_object, at?_nil] at found
      cases found
    · rcases (origin path key).mp found with ⟨kept, -⟩ | ⟨given, apart⟩
      · exact kept
      · exact absurd (met path key given) apart

/-- The target has the object under `proxy` and not the one under `tls`, whose `null` gets
through. -/
theorem nulls_left_out_iff_tls :
    let ts : Fields := [("proxy", .object [("host", .string "a")])]
    let fs : Fields := [("proxy", .object [("host", .null)]), ("tls", .object [("key", .null)])]
    (object fs).Sorted ∧ ((object ts).merge (object fs)).at? ["tls", "key"] = some .null ∧
      ((object ts).merge (object fs)).at? ["proxy", "host"] ≠ some .null := by
  intro ts fs
  have sorted : (object fs).Sorted := ⟨by decide, ⟨by decide, trivial, trivial⟩,
    ⟨by decide, trivial, trivial⟩, trivial⟩
  have origin : ∀ path key, ((object ts).merge (object fs)).at? (path ++ [key]) = some .null ↔
      NullFrom (object ts) (object fs) path key := (nulls_left_out_iff sorted).1
  refine ⟨sorted, (origin ["tls"] "key").mpr (.inr ⟨rfl, ?_⟩), fun found => ?_⟩
  · rintro ⟨gs, there⟩
    cases there
  · rcases (origin ["proxy"] "host").mp found with ⟨kept, -⟩ | ⟨-, apart⟩
    · cases kept
    · exact apart ⟨_, rfl⟩

/-- A `null` inside an object that is new to the target is not left out. -/
theorem null_in_new_object :
    let source : Value := .object [("proxy", .object [("host", .null)])]
    (object []).Sorted ∧ source.Sorted ∧
      ((object []).merge source).at? ["proxy", "host"] = some .null ∧
      (object []).at? ["proxy", "host"] ≠ some .null := by
  intro source
  exact ⟨⟨by decide, trivial⟩, ⟨by decide, ⟨by decide, trivial, trivial⟩, trivial⟩, rfl, nofun⟩

end merging

end Value

end GatewayClient.Json

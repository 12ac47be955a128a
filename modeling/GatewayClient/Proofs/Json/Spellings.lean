import GatewayClient.Proofs.Json.Records
import GatewayClient.Proofs.Json.Texts
import Mathlib.Data.List.Nodup
import Mathlib.Data.List.Pairwise

/-!
# GatewayClient.Proofs.Json.Spellings

Records whose fields have other spellings, given by the members of an object. No two fields share
a spelling (`Apart`), so each member belongs to one field or to none, and what counts for a field
are the values of the members that belong to it:

```
{"dispatcher": a, "x": b, "dispatcherId": d}     sourcesOf ["dispatcherId", "dispatcher"] = [a, d]
```

A record is decoded when for each field there is at most one such value, at least one if the field
has to be there, and it is of the field's type (`exists_members_iff`). Each component of the
record is then told by these values (`told_of_members`): neither the order of the members nor
their spelling nor any other member is of concern (`Told.perm`).
-/

namespace GatewayClient.Json

/-- The values of the members that have one of the names, in their order. -/
def sourcesOf (names : List String) (ms : List (String × Source)) : List Source :=
  (ms.filter (fun m => m.1 ∈ names)).map Prod.snd

@[simp] theorem sourcesOf_nil (names : List String) : sourcesOf names [] = [] := rfl

theorem sourcesOf_cons (names : List String) (m : String × Source) (ms : List (String × Source)) :
    sourcesOf names (m :: ms) =
      if m.1 ∈ names then m.2 :: sourcesOf names ms else sourcesOf names ms := by
  by_cases own : m.1 ∈ names <;> simp [sourcesOf, own]

@[simp] theorem sourcesOf_append (names : List String) (ms ms' : List (String × Source)) :
    sourcesOf names (ms ++ ms') = sourcesOf names ms ++ sourcesOf names ms' := by
  simp [sourcesOf]

/-- The sources under names are those of the members with one of the names. -/
theorem mem_sourcesOf {names : List String} {ms : List (String × Source)} {source : Source} :
    source ∈ sourcesOf names ms ↔ ∃ name ∈ names, (name, source) ∈ ms := by
  simp only [sourcesOf, List.mem_map, List.mem_filter, decide_eq_true_eq]
  constructor
  · rintro ⟨⟨name, _⟩, ⟨member, own⟩, rfl⟩
    exact ⟨name, own, member⟩
  · rintro ⟨name, own, member⟩
    exact ⟨(name, source), ⟨member, own⟩, rfl⟩

theorem sourcesOf_eq_nil {names : List String} {ms : List (String × Source)}
    (others : ∀ m ∈ ms, m.1 ∉ names) : sourcesOf names ms = [] := by
  simpa [sourcesOf, List.filter_eq_nil_iff] using others

/-- Two things to which a list without repetitions goes back are the same if they share something.
-/
theorem eq_of_nodup_flatMap {β γ : Type} {parts : β → List γ} {xs : List β} {x y : β} {part : γ}
    (distinct : (xs.flatMap parts).Nodup) (listed : x ∈ xs) (listed' : y ∈ xs)
    (own : part ∈ parts x) (own' : part ∈ parts y) : x = y := by
  by_contra different
  have : Std.Symm (Function.onFun List.Disjoint parts) :=
    ⟨fun _ _ apart _ here there => apart there here⟩
  exact (List.nodup_flatMap.mp distinct).2.forall listed listed' different own own'

/-! ## what a component is told -/

/-- Whether members tell a component of a record, under names and in a way to read values: by the
one value that has one of the names, or the default when there is none. -/
def Told {α : Type} (names : List String) (reads : Source → α → Prop) (default : α)
    (ms : List (String × Source)) (a : α) : Prop :=
  (sourcesOf names ms = [] ∧ a = default) ∨ ∃ source, sourcesOf names ms = [source] ∧ reads source a

section Told

variable {α : Type} {names : List String} {reads reads' : Source → α → Prop} {default a : α}
  {ms ms' : List (String × Source)}

/-- Only the values that have one of the names count, and not their order. -/
theorem Told.perm (same : (sourcesOf names ms).Perm (sourcesOf names ms'))
    (told : Told names reads default ms a) : Told names reads default ms' a := by
  rcases told with ⟨none, rfl⟩ | ⟨source, one, read⟩
  · rw [none] at same
    exact .inl ⟨List.nil_perm.mp same, rfl⟩
  · rw [one] at same
    exact .inr ⟨source, (List.singleton_perm.mp same).symm, read⟩

theorem Told.congr (same : ∀ source ∈ sourcesOf names ms, reads source a ↔ reads' source a) :
    Told names reads default ms a ↔ Told names reads' default ms a := by
  refine or_congr_right (exists_congr (fun source => and_congr_right (fun one => ?_)))
  exact same source (by simp [one])

/-- A component is told something if it has at most one value, and one that can be read. -/
theorem exists_told_iff : (∃ a, Told names reads default ms a) ↔
    (sourcesOf names ms).length ≤ 1 ∧ ∀ source ∈ sourcesOf names ms, ∃ a, reads source a := by
  unfold Told
  cases sourcesOf names ms with
  | nil => simp
  | cons source sources => cases sources <;> simp

end Told

/-! ## members that tell the same -/

/-- Whether members can be rearranged into others without telling anything else under groups of
names: in another order, by another name of the same group, or with more members whose names are
in no group. -/
inductive Rearranged (groups : List (List String)) :
    List (String × Source) → List (String × Source) → Prop where
  | reordered {ms ms'} (perm : ms.Perm ms') : Rearranged groups ms ms'
  | respelled {name name' : String} {group : List String} (source : Source)
      (before after : List (String × Source)) (listed : group ∈ groups) (own : name ∈ group)
      (own' : name' ∈ group) :
      Rearranged groups (before ++ (name, source) :: after) (before ++ (name', source) :: after)
  | inserted {name : String} (source : Source) (before after : List (String × Source))
      (other : ∀ group ∈ groups, name ∉ group) :
      Rearranged groups (before ++ after) (before ++ (name, source) :: after)
  | trans {ms ms' ms''} (first : Rearranged groups ms ms') (second : Rearranged groups ms' ms'') :
      Rearranged groups ms ms''

/-- Rearranged members have the same values under each group of names, up to their order. -/
theorem Rearranged.sourcesOf_perm {groups : List (List String)} {ms ms' : List (String × Source)}
    (rearranged : Rearranged groups ms ms')
    (distinct : groups.flatten.Nodup) {group : List String} (listed : group ∈ groups) :
    (sourcesOf group ms).Perm (sourcesOf group ms') := by
  induction rearranged with
  | reordered perm => exact (perm.filter _).map _
  | @respelled name name' group' source before after listed' own own' =>
    have alike : name ∈ group ↔ name' ∈ group := by
      rw [← List.flatMap_id] at distinct
      constructor
      · intro here
        rwa [eq_of_nodup_flatMap distinct listed listed' here own]
      · intro here
        rwa [eq_of_nodup_flatMap distinct listed listed' here own']
    simp [sourcesOf_cons, alike]
  | inserted source before after other =>
    simp [sourcesOf_cons, other group listed]
  | trans first second ih ih' => exact ih.trans ih'

namespace Decoder

variable {ρ α : Type}

/-! ## fields by their spellings -/

/-- The names under which a field may come. -/
def Field.spellings (f : Field ρ) : List String := f.name :: f.aliases

/-- Whether no two fields share a spelling. -/
def Apart (fields : List (Field ρ)) : Prop := (fields.flatMap Field.spellings).Nodup

instance (fields : List (Field ρ)) : Decidable (Apart fields) :=
  inferInstanceAs (Decidable (List.Nodup _))

variable {fields : List (Field ρ)} {context : Context} {f g : Field ρ} {key name : String}
  {ms : List (String × Source)} {us : List (String × (ρ → ρ))}

/-- A key belongs to the one field among whose spellings it is. -/
theorem Apart.named?_eq_some_iff (apart : Apart fields) :
    Field.named? fields key = some f ↔ f ∈ fields ∧ key ∈ f.spellings := by
  have spells : ∀ f : Field ρ, (f.name == key || f.aliases.contains key) = true ↔
      key ∈ f.spellings := by
    intro f
    simp [Field.spellings, eq_comm (a := key)]
  constructor
  · intro named
    have spelled := List.find?_some named
    exact ⟨mem_of_named? named, (spells f).mp spelled⟩
  · rintro ⟨listed, own⟩
    have found : (Field.named? fields key).isSome := by
      rw [Field.named?, List.find?_isSome]
      exact ⟨f, listed, (spells f).mpr own⟩
    obtain ⟨g, named⟩ := Option.isSome_iff_exists.mp found
    have spelled := List.find?_some named
    rw [named, eq_of_nodup_flatMap apart (mem_of_named? named) listed ((spells g).mp spelled) own]

theorem Apart.names (apart : Apart fields) : (fields.map Field.name).Nodup := by
  have first : (fields.map Field.name).Sublist (fields.flatMap Field.spellings) := by
    clear apart
    induction fields with
    | nil => exact .slnil
    | cons f fields ih =>
      exact (ih.trans (List.sublist_append_right f.aliases _)).cons_cons f.name
  exact first.nodup apart

/-- The updates under a name, in their order. -/
def updatesOf (name : String) (us : List (String × (ρ → ρ))) : List (ρ → ρ) :=
  (us.filter (fun u => u.1 = name)).map Prod.snd

theorem updatesOf_cons (name : String) (u : String × (ρ → ρ)) (us : List (String × (ρ → ρ))) :
    updatesOf name (u :: us) =
      if u.1 = name then u.2 :: updatesOf name us else updatesOf name us := by
  by_cases own : u.1 = name <;> simp [updatesOf, own]

/-- There are as many updates under a name as the name comes. -/
theorem length_updatesOf (name : String) (us : List (String × (ρ → ρ))) :
    (updatesOf name us).length = (us.map Prod.fst).count name := by
  induction us with
  | nil => rfl
  | cons u us ih =>
    rw [updatesOf_cons, List.map_cons, List.count_cons]
    split <;> simp_all

theorem not_mem_of_updatesOf (none : updatesOf name us = []) : name ∉ us.map Prod.fst := by
  rw [← List.count_eq_zero, ← length_updatesOf, none, List.length_nil]

/-- The values of a field's members become the updates under its name. -/
theorem Taken.updatesOf (apart : Apart fields) (listed : f ∈ fields)
    (taken : Taken fields context (named ms) us) :
    List.Forall₂ (fun source update => f.set context source = .ok update)
      (sourcesOf f.spellings ms) (Decoder.updatesOf f.name us) := by
  induction ms generalizing us with
  | nil =>
    cases taken
    exact .nil
  | cons m ms ih =>
    obtain ⟨key, source⟩ := m
    rw [sourcesOf_cons]
    cases spelled : Field.named? fields key with
    | none =>
      have other : key ∉ f.spellings := by
        intro own
        rw [apart.named?_eq_some_iff.mpr ⟨listed, own⟩] at spelled
        contradiction
      rw [if_neg other]
      exact ih ((taken_unknown_iff spelled).mp taken).2
    | some g =>
      obtain ⟨listed', own'⟩ := apart.named?_eq_some_iff.mp spelled
      obtain ⟨update, rest, set, behind, rfl⟩ := (taken_known_iff spelled).mp taken
      rw [updatesOf_cons]
      by_cases same : g = f
      · subst same
        rw [if_pos own', if_pos rfl]
        exact .cons set (ih behind)
      · have other : key ∉ f.spellings :=
          fun own => same (eq_of_nodup_flatMap apart listed' listed own' own)
        have otherName : g.name ≠ f.name := by
          intro name
          have own : g.name ∈ f.spellings := name ▸ List.mem_cons_self
          exact same (eq_of_nodup_flatMap apart listed' listed List.mem_cons_self own)
        rw [if_neg other, if_neg otherName]
        exact ih behind

theorem Taken.exists_field {ms : Members} (taken : Taken fields context ms us)
    (among : name ∈ us.map Prod.fst) : ∃ f ∈ fields, f.name = name := by
  induction taken with
  | nil => contradiction
  | @known _ _ _ _ f _ spelled set rest ih =>
    rcases List.mem_cons.mp among with rfl | later
    · exact ⟨f, mem_of_named? spelled, rfl⟩
    · exact ih later
  | unknown other skims rest ih => exact ih among

/-- The one update under a name sets the component, whatever is set before and behind it. -/
theorem get_updated_of_updatesOf {get : ρ → α} {ms : Members} {update : ρ → ρ} {a : α}
    (others : ∀ f ∈ fields, f.name ≠ name → Leaves get f) (taken : Taken fields context ms us)
    (one : Decoder.updatesOf name us = [update]) (sets : ∀ r, get (update r) = a) (r : ρ) :
    get (updated us r) = a := by
  induction taken generalizing r with
  | nil => contradiction
  | @known _ us _ _ f update' spelled set rest ih =>
    rw [updatesOf_cons] at one
    split at one
    · obtain ⟨rfl, none⟩ := List.cons.inj one
      have behind := get_updated_of_not_mem others rest (not_mem_of_updatesOf none) (update' r)
      exact behind.trans (sets r)
    · exact ih one _
  | unknown other skims rest ih => exact ih one r

/-! ## records -/

/-- Whether a decoder makes something of a source. -/
def Makes (d : Decoder α) (context : Context) (source : Source) (a : α) : Prop :=
  d context source = .ok a

/-- Members tell one thing about a component. -/
theorem told_unique {d : Decoder α} {names : List String} {default a b : α}
    (told : Told names (Makes d context) default ms a)
    (told' : Told names (Makes d context) default ms b) : a = b := by
  rcases told with ⟨none, rfl⟩ | ⟨source, one, made⟩ <;>
    rcases told' with ⟨none', rfl⟩ | ⟨source', one', made'⟩
  · rfl
  · simp [none] at one'
  · simp [none'] at one
  · cases one.symm.trans one'
    exact Except.ok.inj (made.symm.trans made')

/-- With distinct updates a field has one value, which becomes its one update, or none. -/
theorem Taken.once (apart : Apart fields) (listed : f ∈ fields)
    (taken : Taken fields context (named ms) us) (distinct : (us.map Prod.fst).Nodup) :
    (sourcesOf f.spellings ms = [] ∧ Decoder.updatesOf f.name us = []) ∨
      ∃ source update, sourcesOf f.spellings ms = [source] ∧
        Decoder.updatesOf f.name us = [update] ∧ f.set context source = .ok update := by
  have updates := taken.updatesOf apart listed
  have once : (Decoder.updatesOf f.name us).length ≤ 1 := by
    rw [length_updatesOf]
    exact List.nodup_iff_count_le_one.mp distinct f.name
  cases sources : sourcesOf f.spellings ms with
  | nil =>
    rw [sources, List.forall₂_nil_left_iff] at updates
    exact .inl ⟨rfl, updates⟩
  | cons source rest =>
    rw [sources] at updates
    obtain ⟨update, more, set, behind, written⟩ := List.forall₂_cons_left_iff.mp updates
    rw [written, List.length_cons] at once
    have last : more = [] := List.length_eq_zero_iff.mp (by omega)
    rw [last, List.forall₂_nil_right_iff] at behind
    exact .inr ⟨source, update, by rw [behind], by rw [written, last], set⟩

/-- Whether members give a field as they have to: once under all its spellings, with a value of its
type, or not at all if it need not be there. -/
def Given (context : Context) (ms : List (String × Source)) (f : Field ρ) : Prop :=
  (sourcesOf f.spellings ms = [] ∧ f.required = false) ∨
    ∃ source update, sourcesOf f.spellings ms = [source] ∧ f.set context source = .ok update

/-- A field that tells a component is given as it has to be. -/
theorem given_of_told {d : Decoder α} {set : α → ρ → ρ} {default a : α}
    (optional : f.required = false)
    (sets : ∀ source, f.set context source = (d context source).map set)
    (told : Told f.spellings (Makes d context) default ms a) :
    Given context ms f := by
  rcases told with ⟨none, -⟩ | ⟨source, one, decoded⟩
  · exact .inl ⟨none, optional⟩
  · exact .inr ⟨source, set a, one, (sets source).trans (map_eq_ok.mpr ⟨a, decoded, rfl⟩)⟩

/-- Members that give each field as they have to can all be taken. -/
theorem exists_taken_of_given (apart : Apart fields) (skims : ∀ m ∈ ms, m.2.skim = none)
    (given : ∀ f ∈ fields, Given context ms f) : ∃ us, Taken fields context (named ms) us := by
  refine exists_taken (fun m member => ?_)
  obtain ⟨⟨key, source⟩, listed, rfl⟩ := List.mem_map.mp member
  refine ⟨skims _ listed, key, rfl, fun f spelled => ?_⟩
  obtain ⟨isField, own⟩ := apart.named?_eq_some_iff.mp spelled
  have among : source ∈ sourcesOf f.spellings ms := mem_sourcesOf.mpr ⟨key, own, listed⟩
  rcases given f isField with ⟨none, -⟩ | ⟨source', update, one, set⟩
  · simp [none] at among
  · rw [one, List.mem_singleton] at among
    exact ⟨update, among ▸ set⟩

/-- A record is decoded if each of its fields is given as it has to be. -/
theorem exists_members_iff (apart : Apart fields) (skims : ∀ m ∈ ms, m.2.skim = none) (r : ρ) :
    (∃ r', members fields context (named ms) none [] r = .ok r') ↔
      ∀ f ∈ fields, Given context ms f := by
  constructor
  · rintro ⟨r', done⟩ f listed
    obtain ⟨us, taken, -, distinct, -, required, -⟩ := members_eq_ok_iff.mp done
    rcases taken.once apart listed distinct with ⟨none, noUpdate⟩ | ⟨source, update, one, -, set⟩
    · refine .inl ⟨none, ?_⟩
      rw [← Bool.not_eq_true]
      intro there
      rcases required f listed there with seen | among
      · contradiction
      · exact not_mem_of_updatesOf noUpdate among
    · exact .inr ⟨source, update, one, set⟩
  · intro given
    obtain ⟨us, taken⟩ := exists_taken_of_given apart skims given
    -- a field has as many updates as values: at most one, and one if it has to be there
    have counts : ∀ f ∈ fields,
        (us.map Prod.fst).count f.name = (sourcesOf f.spellings ms).length := by
      intro f listed
      rw [← length_updatesOf, (taken.updatesOf apart listed).length_eq]
    refine ⟨updated us r, members_eq_ok_iff.mpr ⟨us, taken, rfl, ?_, by simp, ?_, rfl⟩⟩
    · refine List.nodup_iff_count_le_one.mpr (fun name => ?_)
      by_cases among : name ∈ us.map Prod.fst
      · obtain ⟨f, listed, rfl⟩ := taken.exists_field among
        rw [counts f listed]
        rcases given f listed with ⟨none, -⟩ | ⟨source, update, one, -⟩ <;> simp [*]
      · simp [List.count_eq_zero.mpr among]
    · refine fun f listed required => .inr (List.count_pos_iff.mp ?_)
      rw [counts f listed]
      rcases given f listed with ⟨-, optional⟩ | ⟨source, update, one, -⟩
      · simp [required] at optional
      · simp [one]

/-- What a component is told is what its field's decoder makes of the one value of the field. -/
theorem told_of_members (get : ρ → α) {d : Decoder α} {set : α → ρ → ρ} {r r' : ρ}
    (apart : Apart fields) (listed : f ∈ fields)
    (sets : ∀ source, f.set context source = (d context source).map set)
    (gets : ∀ a r, get (set a r) = a) (others : ∀ g ∈ fields, g.name ≠ f.name → Leaves get g)
    (done : members fields context (named ms) none [] r = .ok r') :
    Told f.spellings (Makes d context) (get r) ms (get r') := by
  obtain ⟨us, taken, -, distinct, -, -, rfl⟩ := members_eq_ok_iff.mp done
  rcases taken.once apart listed distinct with ⟨none, noUpdate⟩ | ⟨source, update, one, last, set⟩
  · exact .inl ⟨none, get_updated_of_not_mem others taken (not_mem_of_updatesOf noUpdate) r⟩
  · rw [sets] at set
    obtain ⟨a, decoded, rfl⟩ := map_eq_ok.mp set
    refine .inr ⟨source, one, ?_⟩
    rwa [get_updated_of_updatesOf others taken last (gets a)]

/-- What members are decoded to, in terms of a property by which they tell the record: it holds of
every record that is decoded, it has the fields given as they have to be, and it holds of one
record only. -/
theorem members_eq_ok_iff_of_told (holds : ρ → Prop) {r r' : ρ} (apart : Apart fields)
    (skims : ∀ m ∈ ms, m.2.skim = none)
    (tells : ∀ r', members fields context (named ms) none [] r = .ok r' → holds r')
    (gives : holds r' → ∀ f ∈ fields, Given context ms f)
    (unique : ∀ r'', holds r'' → holds r' → r'' = r') :
    members fields context (named ms) none [] r = .ok r' ↔ holds r' := by
  refine ⟨tells r', fun told => ?_⟩
  obtain ⟨r'', done⟩ := (exists_members_iff apart skims r).mpr (gives told)
  rwa [unique r'' (tells r'' done) told] at done

/-- An object is decoded by its members, with room for one level less. -/
theorem record_object {ms : Members} {close : Option Failure} {default : ρ} (name : String)
    (room : context.room ≠ 0) : record name fields default context (.object ms close) =
      members fields { context with room := context.room - 1 } ms close [] default := by
  simp [record, enter, room, bind, Except.bind]

theorem Taken.exists_named {ms : Members} (taken : Taken fields context ms us) :
    ∃ ms', ms = named ms' := by
  induction taken with
  | nil => exact ⟨[], rfl⟩
  | @known ms _ key source _ _ spelled set rest ih =>
    obtain ⟨ms', rfl⟩ := ih
    exact ⟨(key, source) :: ms', rfl⟩
  | @unknown ms _ key source other skims rest ih =>
    obtain ⟨ms', rfl⟩ := ih
    exact ⟨(key, source) :: ms', rfl⟩

/-- A record is decoded only from members whose names are readable, up to the closing brace. -/
theorem exists_named_of_members {ms : Members} {close : Option Failure} {seen : List String}
    {r r' : ρ} (done : members fields context ms close seen r = .ok r') :
    close = none ∧ ∃ ms', ms = named ms' := by
  obtain ⟨us, taken, closed, -⟩ := members_eq_ok_iff.mp done
  exact ⟨closed, taken.exists_named⟩

end Decoder

end GatewayClient.Json

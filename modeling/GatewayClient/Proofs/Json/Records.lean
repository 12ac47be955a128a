import GatewayClient.Proofs.Json.Holding
import Mathlib.Data.List.Nodup

/-!
# GatewayClient.Proofs.Json.Records

What a record is decoded to. The members that name fields are taken one after the other, each as
an update of the record (`Decoder.Taken`); decoding succeeds when no field comes twice and none
that has to be there is missing, and then all updates were made (`Decoder.members_eq_ok_iff`).

A component of the record belongs to one field (`Decoder.Component`), so that the order of the
members is of no concern: it is what the field's type makes of the value under the field's name,
and without such a value it stays as it was.
-/

namespace GatewayClient.Json.Decoder

variable {ρ α : Type}

/-! ## members -/

/-- What members are taken as, each that names a field as an update under the field's name. -/
inductive Taken (fields : List (Field ρ)) (context : Context) :
    Members → List (String × (ρ → ρ)) → Prop where
  | nil : Taken fields context [] []
  | known {ms us} {key : String} {source : Source} {f : Field ρ} {update : ρ → ρ}
      (named : Field.named? fields key = some f) (set : f.set context source = .ok update)
      (rest : Taken fields context ms us) :
      Taken fields context ((.ok key, source) :: ms) ((f.name, update) :: us)
  | unknown {ms us} {key : String} {source : Source} (other : Field.named? fields key = none)
      (skims : source.skim = none) (rest : Taken fields context ms us) :
      Taken fields context ((.ok key, source) :: ms) us

variable {fields : List (Field ρ)} {context : Context} {ms : Members}
  {us : List (String × (ρ → ρ))} {f : Field ρ} {key name : String} {source : Source}

theorem taken_nil_iff : Taken fields context [] us ↔ us = [] := by
  constructor
  · intro taken
    cases taken
    rfl
  · rintro rfl
    exact .nil

theorem Taken.cons_error_false (taken : Taken fields context ((.error e, source) :: ms) us) :
    False := by
  cases taken

/-- A member that names a field is taken as an update of it. -/
theorem taken_known_iff (named : Field.named? fields key = some f) :
    Taken fields context ((.ok key, source) :: ms) us ↔ ∃ update rest,
      f.set context source = .ok update ∧ Taken fields context ms rest ∧
        us = (f.name, update) :: rest := by
  constructor
  · intro taken
    cases taken with
    | known named' set rest =>
      cases named.symm.trans named'
      exact ⟨_, _, set, rest, rfl⟩
    | unknown other => simp [named] at other
  · rintro ⟨update, rest, set, taken, rfl⟩
    exact .known named set taken

/-- A member that names none is passed over. -/
theorem taken_unknown_iff (other : Field.named? fields key = none) :
    Taken fields context ((.ok key, source) :: ms) us ↔
      source.skim = none ∧ Taken fields context ms us := by
  constructor
  · intro taken
    cases taken with
    | known named => simp [other] at named
    | unknown _ skims rest => exact ⟨skims, rest⟩
  · rintro ⟨skims, rest⟩
    exact .unknown other skims rest

/-- Makes updates in their order. -/
def updated (us : List (String × (ρ → ρ))) (r : ρ) : ρ := us.foldl (fun r u => u.2 r) r

/-- In the end the object has to be closed, and all that is required must have been there. -/
theorem members_nil_eq_ok_iff {close : Option Failure} {seen : List String} {r r' : ρ} :
    members fields context [] close seen r = .ok r' ↔
      close = none ∧ (∀ f ∈ fields, f.required = true → f.name ∈ seen) ∧ r = r' := by
  cases close with
  | some e => simp [members, fail]
  | none =>
    simp only [members]
    split
    · next f missing =>
      have listed := List.mem_of_find?_eq_some missing
      have unseen := List.find?_some missing
      simp only [Bool.and_eq_true, Bool.not_eq_true', List.contains_eq_mem,
        decide_eq_false_iff_not] at unseen
      refine iff_of_false (by simp) ?_
      rintro ⟨-, given, -⟩
      exact unseen.2 (given f listed unseen.1)
    · next found =>
      have given : ∀ f ∈ fields, f.required = true → f.name ∈ seen := by
        simpa [List.find?_eq_none] using found
      constructor
      · intro done
        exact ⟨trivial, given, Except.ok.inj done⟩
      · rintro ⟨-, -, rfl⟩
        rfl

/-- When the members of a record are decoded, and what to. -/
theorem members_eq_ok_iff {close : Option Failure} {seen : List String} {r r' : ρ} :
    members fields context ms close seen r = .ok r' ↔
      ∃ us, Taken fields context ms us ∧ close = none ∧ (us.map Prod.fst).Nodup ∧
        (∀ name ∈ us.map Prod.fst, name ∉ seen) ∧
        (∀ f ∈ fields, f.required = true → f.name ∈ seen ∨ f.name ∈ us.map Prod.fst) ∧
        updated us r = r' := by
  induction ms generalizing seen r with
  | nil => simp [members_nil_eq_ok_iff, taken_nil_iff, updated]
  | cons m ms ih =>
    obtain ⟨key, source⟩ := m
    cases key with
    | error e =>
      refine iff_of_false (by simp [members, fail]) ?_
      rintro ⟨us, taken, -⟩
      exact taken.cons_error_false
    | ok key =>
      cases named : Field.named? fields key with
      | none =>
        simp only [members, named, taken_unknown_iff named]
        cases source.skim with
        | some e => simp [fail]
        | none => simp [ih]
      | some f =>
        simp only [members, named, taken_known_iff named]
        split
        · next again =>
          refine iff_of_false (by simp) ?_
          rintro ⟨_, ⟨update, us, set, taken, rfl⟩, -, -, fresh, -⟩
          exact fresh f.name (by simp) (by simpa using again)
        · next first =>
          -- for the members behind it the field counts as seen
          simp only [bind_eq_ok, ih]
          constructor
          · rintro ⟨update, set, us, taken, closed, distinct, fresh, required, done⟩
            refine ⟨_, ⟨update, us, set, taken, rfl⟩, closed, ?_, ?_, ?_, done⟩ <;> grind
          · rintro ⟨_, ⟨update, us, set, taken, rfl⟩, closed, distinct, fresh, required, done⟩
            refine ⟨update, set, us, taken, closed, ?_, ?_, ?_, done⟩ <;> grind

/-- The name of the field that a key spells. -/
def spelled? (fields : List (Field ρ)) (key : Except Failure String) : Option String :=
  (key.toOption.bind (Field.named? fields)).map Field.name

/-- The updates are those of the members whose keys spell fields. -/
theorem Taken.names (taken : Taken fields context ms us) :
    us.map Prod.fst = (ms.map Prod.fst).filterMap (spelled? fields) := by
  induction taken with
  | nil => rfl
  | known named set rest ih => simp [spelled?, Except.toOption, named, ih]
  | unknown other skims rest ih => simp [spelled?, Except.toOption, other, ih]

/-- Members with readable keys are taken if each can be taken by itself. -/
theorem exists_taken (each : ∀ m ∈ ms, m.2.skim = none ∧ ∃ key, m.1 = .ok key ∧
      ∀ f, Field.named? fields key = some f → ∃ update, f.set context m.2 = .ok update) :
    ∃ us, Taken fields context ms us := by
  induction ms with
  | nil => exact ⟨[], .nil⟩
  | cons m ms ih =>
    obtain ⟨k, source⟩ := m
    obtain ⟨us, rest⟩ := ih (fun m later => each m (List.mem_cons_of_mem _ later))
    obtain ⟨skims, key, rfl, sets⟩ := each _ List.mem_cons_self
    cases named : Field.named? fields key with
    | none => exact ⟨us, .unknown named skims rest⟩
    | some f =>
      obtain ⟨update, set⟩ := sets f named
      exact ⟨_, .known named set rest⟩

/-! ## components -/

/-- Whether a field leaves a component of the record as it is. -/
def Leaves (get : ρ → α) (f : Field ρ) : Prop :=
  ∀ ⦃context source update⦄, f.set context source = .ok update → ∀ r, get (update r) = get r

/-- A component of a record that one field sets and no other: to what a type makes of the field's
value. -/
structure Component (fields : List (Field ρ)) (name : String) (type : Value → Option α)
    (get : ρ → α) : Prop where
  listed : ∃ f ∈ fields, f.name = name
  sets : ∀ f ∈ fields, f.name = name → ∀ ⦃context source v a⦄, Source.Holds source v →
    type v = some a → ∃ update, f.set context source = .ok update
  own : ∀ f ∈ fields, f.name = name → ∀ ⦃context source v update⦄, Source.Holds source v →
    f.set context source = .ok update → ∃ a, type v = some a ∧ ∀ r, get (update r) = a
  others : ∀ f ∈ fields, f.name ≠ name → Leaves get f

@[simp] theorem field_name (name : String) (d : Decoder α) (set : α → ρ → ρ)
    (aliases : List String) : (field name d set aliases).name = name := rfl

/-- A field leaves what its update leaves. -/
theorem leaves_field {β : Type} {d : Decoder β} {set : β → ρ → ρ} {get : ρ → α}
    (keeps : ∀ b r, get (set b r) = get r) (name : String) (aliases : List String) :
    Leaves get (field name d set aliases) := by
  intro context source update done r
  obtain ⟨b, -, rfl⟩ := map_eq_ok.mp done
  exact keeps b r

/-- A field that is decoded by itself sets its component. -/
theorem Component.of_field {d : Decoder α} {type : Value → Option α} {set : α → ρ → ρ}
    {get : ρ → α} {aliases : List String} (distinct : (fields.map Field.name).Nodup)
    (listed : field name d set aliases ∈ fields) (decodes : Decodes d type)
    (gets : ∀ a r, get (set a r) = a) (others : ∀ f ∈ fields, f.name ≠ name → Leaves get f) :
    Component fields name type get := by
  have only : ∀ f ∈ fields, f.name = name → f = field name d set aliases :=
    fun f member own => List.inj_on_of_nodup_map distinct member listed own
  refine ⟨⟨_, listed, rfl⟩, ?_, ?_, others⟩
  · intro f member own context source v a holds typed
    rw [only f member own]
    exact ⟨set a, map_eq_ok.mpr ⟨a, (decodes holds).mpr typed, rfl⟩⟩
  · intro f member own context source v update holds done
    rw [only f member own] at done
    obtain ⟨a, decoded, rfl⟩ := map_eq_ok.mp done
    exact ⟨a, (decodes holds).mp decoded, gets a⟩

theorem mem_of_named? (named : Field.named? fields key = some f) : f ∈ fields :=
  List.mem_of_find?_eq_some named

variable {type : Value → Option α} {get : ρ → α}

/-- Updates of other fields leave a component as it was. -/
theorem get_updated_of_not_mem (others : ∀ f ∈ fields, f.name ≠ name → Leaves get f)
    (taken : Taken fields context ms us) (absent : name ∉ us.map Prod.fst) (r : ρ) :
    get (updated us r) = get r := by
  induction taken generalizing r with
  | nil => rfl
  | known named set rest ih =>
    obtain ⟨apart, later⟩ := List.ne_and_not_mem_of_not_mem_cons absent
    exact (ih later _).trans (others _ (mem_of_named? named) apart.symm set r)
  | unknown other skims rest ih => exact ih absent r

/-- A component is what the type makes of the value of the member that names its field. -/
theorem Component.type_get_updated (component : Component fields name type get)
    (taken : Taken fields context ms us) (distinct : (us.map Prod.fst).Nodup)
    (member : (.ok key, source) ∈ ms) (named : Field.named? fields key = some f)
    (own : f.name = name) (holds : source.Holds v) (r : ρ) :
    type v = some (get (updated us r)) := by
  induction taken generalizing r with
  | nil => contradiction
  | known named' set rest ih =>
    obtain ⟨fresh, distinct⟩ := List.nodup_cons.mp distinct
    rcases List.mem_cons.mp member with here | later
    · cases here
      cases named.symm.trans named'
      obtain ⟨a, typed, gets⟩ := component.own f (mem_of_named? named) own holds set
      rw [typed, ← gets r]
      exact congrArg some (get_updated_of_not_mem component.others rest (own ▸ fresh) _).symm
    · exact ih distinct later _
  | unknown other skims rest ih =>
    rcases List.mem_cons.mp member with here | later
    · cases here
      simp [named] at other
    · exact ih distinct later r

/-- Where there is a value under a key, it is of a type. -/
def Typed (fs : Fields) (name : String) (type : Value → Option α) : Prop :=
  ∀ v, Fields.get? fs name = some v → (type v).isSome

/-- A value of the right type sets its component. -/
theorem Component.exists_set (component : Component fields name type get) (listed : f ∈ fields)
    (own : f.name = name) (typed : Typed fs name type) (holds : source.Holds v)
    (found : Fields.get? fs f.name = some v) : ∃ update, f.set context source = .ok update := by
  obtain ⟨a, typed⟩ := Option.isSome_iff_exists.mp (typed v (own ▸ found))
  exact component.sets f listed own holds typed

/-! ## records without other spellings -/

/-- Fields that are spelled by their names only, have different names and need not be there. -/
structure Plain (fields : List (Field ρ)) : Prop where
  unaliased : ∀ f ∈ fields, f.aliases = []
  optional : ∀ f ∈ fields, f.required = false
  distinct : (fields.map Field.name).Nodup

/-- A key names the field whose name it is. -/
theorem Plain.named?_eq_some_iff (plain : Plain fields) :
    Field.named? fields key = some f ↔ f ∈ fields ∧ f.name = key := by
  have spells : ∀ g ∈ fields, (g.name == key || g.aliases.contains key) = (g.name == key) :=
    fun g member => by simp [plain.unaliased g member]
  constructor
  · intro named
    have member := mem_of_named? named
    have spelled := List.find?_some named
    rw [spells f member] at spelled
    exact ⟨member, by simpa using spelled⟩
  · rintro ⟨member, own⟩
    have found : (Field.named? fields key).isSome := by
      rw [Field.named?, List.find?_isSome]
      exact ⟨f, member, by simp [own]⟩
    obtain ⟨g, named⟩ := Option.isSome_iff_exists.mp found
    have spelled := List.find?_some named
    rw [spells g (mem_of_named? named)] at spelled
    have same : g.name = f.name := by rw [own]; simpa using spelled
    rw [named, List.inj_on_of_nodup_map plain.distinct (mem_of_named? named) member same]

theorem Plain.spelled?_eq_some_iff (plain : Plain fields) {key : Except Failure String} :
    spelled? fields key = some name ↔ key = .ok name ∧ ∃ f ∈ fields, f.name = name := by
  cases key with
  | error e => simp [spelled?, Except.toOption]
  | ok key =>
    simp only [spelled?, Except.toOption, Option.bind_some, Option.map_eq_some_iff,
      plain.named?_eq_some_iff, Except.ok.injEq]
    constructor
    · rintro ⟨f, ⟨listed, rfl⟩, rfl⟩
      exact ⟨rfl, f, listed, rfl⟩
    · rintro ⟨rfl, f, listed, own⟩
      exact ⟨f, ⟨listed, own⟩, own⟩

/-- A decoded record has in each component what the type makes of the field's value, and what it had
before where there is none. -/
theorem Plain.get_of_members (plain : Plain fields) (component : Component fields name type get)
    (held : Source.HoldFields ms fs) {r r' : ρ} {close : Option Failure}
    (done : members fields context ms close [] r = .ok r') :
    Typed fs name type ∧ get r' = ((Fields.get? fs name).bind type).getD (get r) := by
  obtain ⟨us, taken, -, distinct, -, -, rfl⟩ := members_eq_ok_iff.mp done
  obtain ⟨f, member, own⟩ := component.listed
  cases found : Fields.get? fs name with
  | some v =>
    obtain ⟨source, last, holds⟩ := held.exists_last? found
    have typed := component.type_get_updated taken distinct (Source.mem_of_last? last)
      (plain.named?_eq_some_iff.mpr ⟨member, own⟩) own holds r
    refine ⟨fun w found' => ?_, by simp [typed]⟩
    cases found.symm.trans found'
    simp [typed]
  | none =>
    refine ⟨fun v present => by simp [found] at present, ?_⟩
    refine get_updated_of_not_mem component.others taken (fun present => ?_) r
    rw [taken.names, List.mem_filterMap] at present
    obtain ⟨key, spells, spelled⟩ := present
    obtain ⟨rfl, -⟩ := plain.spelled?_eq_some_iff.mp spelled
    obtain ⟨⟨_, source⟩, member, rfl⟩ := List.mem_map.mp spells
    exact Source.last?_eq_none_iff.mp (held.last?_eq_none found) source member

/-- A record is decoded if its keys are distinct and each known member can be set. -/
theorem Plain.members_isOk (plain : Plain fields) (held : Source.HoldFields ms fs)
    (distinct : (ms.map Prod.fst).Nodup)
    (each : ∀ f ∈ fields, ∀ source v, source.Holds v → Fields.get? fs f.name = some v →
      ∃ update, f.set context source = .ok update) (r : ρ) :
    ∃ r', members fields context ms none [] r = .ok r' := by
  have taken : ∃ us, Taken fields context ms us := by
    refine exists_taken (fun m member => ?_)
    obtain ⟨key, v, readable, holds⟩ := held.readable m member
    refine ⟨holds.skim, key, readable, fun f named => ?_⟩
    obtain ⟨listed, own⟩ := plain.named?_eq_some_iff.mp named
    have last : Source.last? key ms = some m.2 := Source.last?_of_mem distinct (readable ▸ member)
    obtain ⟨w, found, holds⟩ := held.exists_get? last
    exact each f listed m.2 w holds (own ▸ found)
  obtain ⟨us, taken⟩ := taken
  refine ⟨updated us r, members_eq_ok_iff.mpr
    ⟨us, taken, rfl, ?_, by simp, fun f listed required => ?_, rfl⟩⟩
  · rw [taken.names]
    refine distinct.filterMap (fun k l name first second => ?_)
    exact (plain.spelled?_eq_some_iff.mp first).1.trans
      (plain.spelled?_eq_some_iff.mp second).1.symm
  · simp [plain.optional f listed] at required

/-! ## records as arrays -/

/-- A record is decoded from an object or an array. -/
theorem exists_of_record {default r : ρ}
    (done : record name fields default context source = .ok r) :
    (∃ ms close, source = .object ms close) ∨ ∃ items close, source = .array items close := by
  unfold record at done
  split at done
  · next ms close => exact .inl ⟨ms, close, rfl⟩
  · next items close => exact .inr ⟨items, close, rfl⟩
  · exact absurd done wrongType_ne_ok

/-- A field that makes the same of a source and of the value that the source holds. -/
def Faithful (f : Field ρ) : Prop :=
  ∀ ⦃context context' source v update⦄, Source.Holds source v →
    f.set context source = .ok update → f.set context' (Source.ofValue v) = .ok update

/-- A decoder that knows a type makes a field that is decoded alike from texts and from values. -/
theorem Decodes.faithful {d : Decoder α} (decodes : Decodes d type) (name : String)
    (set : α → ρ → ρ) (aliases : List String) : Faithful (field name d set aliases) := by
  intro context context' source v update holds done
  obtain ⟨a, decoded, rfl⟩ := map_eq_ok.mp done
  exact map_eq_ok.mpr ⟨a, (decodes (.made v)).mpr ((decodes holds).mp decoded), rfl⟩

/-- A record that is decoded from an array is decoded to the same from the array's value. -/
theorem positions_ofItems (faithful : ∀ f ∈ fields, Faithful f) {expected expected' : String}
    {context' : Context} {length length' room : Nat} {items : List Source} {vs : List Value}
    {close : Option Failure} {r r' : ρ} (read : Source.toItems room items close = .ok vs)
    (done : positions expected context length fields items close r = .ok r') :
    positions expected' context' length' fields (Source.ofItems vs) none r = .ok r' := by
  induction fields generalizing items vs r with
  | nil =>
    cases items with
    | nil => cases close <;> cases read; exact done
    | cons item items =>
      unfold positions at done
      split at done <;> simp [fail] at done
  | cons f fields ih =>
    have later : ∀ g ∈ fields, Faithful g :=
      fun g member => faithful g (List.mem_cons_of_mem f member)
    cases items with
    | nil =>
      cases close <;> cases read
      rw [positions] at done
      split at done
      · contradiction
      · next optional =>
        rw [Source.ofItems, positions, if_neg optional]
        have rest : Source.toItems room [] none = .ok [] := rfl
        exact ih later rest done
    | cons item items =>
      simp only [Source.toItems, bind_eq_ok] at read
      obtain ⟨v, first, vs, rest, same⟩ := read
      cases same
      rw [positions, bind_eq_ok] at done
      obtain ⟨update, set, done⟩ := done
      rw [Source.ofItems, positions, bind_eq_ok]
      exact ⟨update, faithful f List.mem_cons_self (.read first) set, ih later rest done⟩

end GatewayClient.Json.Decoder

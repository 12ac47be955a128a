import GatewayClient.Event
import GatewayClient.Proofs.Json.Printing

/-!
# GatewayClient.Proofs.Subscription.Matching

What it means that an event satisfies a filter, without any text: the filter's values are there
under their keys, where a value may be there as itself, or either of the two may be the string
that holds the other's text.

```
the filter has    an event satisfies it with
1                 1         "1"
"1"               1         "1"
[1,{}]            [1,{}]    "[1,{}]"
```
-/

namespace GatewayClient

open Json

namespace Json.Value

/-! ## equal texts -/

mutual

/-- Values that are structurally equal have one text. -/
theorem Same.render_eq {v w : Value} (same : v.Same w) (left : v.Sorted) (right : w.Sorted) :
    v.render = w.render := by
  cases v with
  | null => cases same; rfl
  | bool b => cases same; rfl
  | number m =>
    cases same with
    | number text => exact String.ofList_injective text
  | string s => cases same; rfl
  | array vs =>
    cases same with
    | array items =>
      cases items with
      | nil => rfl
      | cons first rest =>
        rw [render, render, first.render_eq left.1 right.1, renderItems_eq rest left.2 right.2]
  | object fs =>
    cases same with
    | object fields =>
      cases (Fields.Sorted.rel_get?_iff left.1 right.1).mp fields with
      | nil => rfl
      | @cons f g fs gs first rest =>
        obtain ⟨k, v⟩ := f
        obtain ⟨l, w⟩ := g
        obtain ⟨rfl, first⟩ := first
        rw [render, render, first.render_eq left.2.1 right.2.1,
          renderFields_eq rest left.2.2 right.2.2]

/-- Sorted items that are the same are written alike. -/
theorem renderItems_eq {vs ws : List Value} (same : List.Forall₂ Same vs ws)
    (left : ItemsSorted vs) (right : ItemsSorted ws) : renderItems vs = renderItems ws := by
  cases vs with
  | nil => cases same; rfl
  | cons v vs =>
    cases same with
    | cons first rest =>
      rw [renderItems, renderItems, first.render_eq left.1 right.1,
        renderItems_eq rest left.2 right.2]

/-- Sorted fields that are the same are written alike. -/
theorem renderFields_eq {fs gs : List (String × Value)} (same : SameFields fs gs)
    (left : FieldsSorted fs) (right : FieldsSorted gs) : renderFields fs = renderFields gs := by
  cases fs with
  | nil => cases same; rfl
  | cons f fs =>
    obtain ⟨k, v⟩ := f
    cases same with
    | @cons _ g _ gs first rest =>
      obtain ⟨l, w⟩ := g
      obtain ⟨rfl, first⟩ := first
      rw [renderFields, renderFields, first.render_eq left.1 right.1,
        renderFields_eq rest left.2 right.2]

end

/-- Values have one text if and only if they are structurally equal. -/
theorem text_eq_iff_same {v w : Value} (left : v.Sorted) (right : w.Sorted) :
    v.text = w.text ↔ v.Same w := by
  refine ⟨fun same => ?_, fun same => congrArg String.ofList (same.render_eq left right)⟩
  have written : v.render ++ [] = w.render ++ [] := by
    simpa [text] using String.ofList_injective same
  exact (same_of_render_append .nil .nil written).1

/-! ## match texts -/

/-- Whether a value is a string. -/
def IsString (v : Value) : Prop := ∃ s, v = .string s

theorem isString_string (s : String) : (string s).IsString := ⟨s, rfl⟩

theorem matchText_of_not_isString {v : Value} (other : ¬ v.IsString) : v.matchText = v.text := by
  cases v <;> first | rfl | exact absurd (isString_string _) other

theorem same_string_left : (string s).Same w ↔ w = string s :=
  ⟨fun same => by cases same; rfl, fun same => same ▸ .string s⟩

theorem same_string_right {v : Value} : v.Same (string s) ↔ v = string s :=
  ⟨fun same => by cases same; rfl, fun same => same ▸ .string s⟩

/-- Whether a value is the string that holds the text of another value, one that is no string. -/
def Quotes (v w : Value) : Prop := ¬ w.IsString ∧ v = .string w.text

/-- How a value of an event may be related to the value that a filter expects: as the same one, or
one of the two quotes the other. -/
def Related (v w : Value) : Prop := v.Same w ∨ v.Quotes w ∨ w.Quotes v

/-- A text is related to what has it as its match text. -/
theorem related_string_left {w : Value} : (string s).Related w ↔ s = w.matchText := by
  by_cases other : w.IsString
  · obtain ⟨t, rfl⟩ := other
    simp [Related, Quotes, isString_string, same_string_left, matchText, eq_comm]
  · have apart : w ≠ string s := fun same => other (same ▸ isString_string s)
    simp [Related, Quotes, isString_string, same_string_left, matchText_of_not_isString, other,
      apart]

theorem related_string_right {v : Value} : v.Related (string s) ↔ v.matchText = s := by
  by_cases other : v.IsString
  · obtain ⟨t, rfl⟩ := other
    simp [Related, Quotes, isString_string, same_string_left, matchText, eq_comm]
  · have apart : v ≠ string s := fun same => other (same ▸ isString_string s)
    simp [Related, Quotes, isString_string, same_string_right, matchText_of_not_isString, other,
      apart, eq_comm]

/-- Values have one match text if and only if they are related. -/
theorem matchText_eq_iff_related {v w : Value} (left : v.Sorted) (right : w.Sorted) :
    v.matchText = w.matchText ↔ v.Related w := by
  by_cases first : v.IsString
  · obtain ⟨s, rfl⟩ := first
    exact related_string_left.symm
  by_cases second : w.IsString
  · obtain ⟨s, rfl⟩ := second
    exact related_string_right.symm
  have unquoted : ¬ v.Quotes w ∧ ¬ w.Quotes v :=
    ⟨fun quote => first ⟨_, quote.2⟩, fun quote => second ⟨_, quote.2⟩⟩
  rw [matchText_of_not_isString first, matchText_of_not_isString second,
    text_eq_iff_same left right, Related, or_iff_left (not_or.mpr unquoted)]

/-- A string has the match text of a whole number if and only if it is its decimal numeral. -/
theorem matchText_number_eq_string_iff {n : Number} (whole : n.toInt? = some i) (s : String) :
    (number n).matchText = (string s).matchText ↔ s = Text.signedDecimal i := by
  rw [← Number.text_of_toInt? whole]
  exact eq_comm

end Json.Value

/-! ## filters -/

/-- The values of a filter have to be there under their keys, by their match texts. -/
theorem Filter.containedIn_iff_get? {filter : Filter} (sorted : Fields.Sorted filter)
    (event : Fields) :
    filter.containedIn event = true ↔ ∀ key expected, Fields.get? filter key = some expected →
      ∃ actual, Fields.get? event key = some actual ∧
        actual.matchText = expected.matchText := by
  simp only [containedIn, List.all_eq_true, Option.any_eq_true, beq_iff_eq, Prod.forall,
    sorted.get?_eq_some_iff]

/-- The values of a filter have to be there under their keys, as themselves or quoted. -/
theorem Filter.containedIn_iff_related_get? {event : Fields} {filter : Filter}
    (left : (Value.object event).Sorted) (right : (Value.object filter).Sorted) :
    filter.containedIn event = true ↔ ∀ key expected, Fields.get? filter key = some expected →
      ∃ actual, Fields.get? event key = some actual ∧ actual.Related expected := by
  rw [containedIn_iff_get? right.1]
  refine forall_congr' fun key => forall_congr' fun expected => imp_congr_right fun wanted => ?_
  refine exists_congr fun actual => and_congr_right fun found => ?_
  exact Value.matchText_eq_iff_related (left.2.of_get? found) (right.2.of_get? wanted)

/-- An event satisfies a filter if and only if each value of the filter is there under its key, as
itself or as a text, or with its text as the expected string. Values that are no strings are told
apart wherever they differ, and of all strings a whole number is matched by its numeral only. -/
theorem Filter.containedIn_iff_related {event : Fields} {filter : Filter}
    (left : (Value.object event).Sorted) (right : (Value.object filter).Sorted) :
    (filter.containedIn event = true ↔ ∀ key expected, Fields.get? filter key = some expected →
      ∃ actual, Fields.get? event key = some actual ∧ actual.Related expected) ∧
    (∀ v w : Value, v.Sorted → w.Sorted → ¬ v.IsString → ¬ w.IsString →
      (v.matchText = w.matchText ↔ v.Same w)) ∧
    ∀ (n : Number) (i : Int) (s : String), n.toInt? = some i →
      ((Value.number n).matchText = (Value.string s).matchText ↔ s = Text.signedDecimal i) := by
  refine ⟨containedIn_iff_related_get? left right, fun v w sorted sorted' first second => ?_,
    fun n i s whole => Value.matchText_number_eq_string_iff whole s⟩
  rw [Value.matchText_of_not_isString first, Value.matchText_of_not_isString second,
    Value.text_eq_iff_same sorted sorted']

/-- A number that the event holds as a string, and a list that the filter holds as a text. -/
theorem containedIn_build_seven :
    let event : Fields :=
      [("nodes", .array [.string "a\"b", .object []]), ("number", .string "7")]
    let filter : Fields :=
      [("nodes", .string "[\"a\\\"b\",\x7b\x7d]"), ("number", .number (.natural 7))]
    (Value.object event).Sorted ∧ (Value.object filter).Sorted ∧
      Filter.containedIn filter event = true ∧
      ∀ key expected, Fields.get? filter key = some expected →
        ∃ actual, Fields.get? event key = some actual ∧ actual.Related expected := by
  intro event filter
  have left : (Value.object event).Sorted :=
    ⟨by decide, ⟨trivial, ⟨⟨by decide, trivial⟩, trivial⟩⟩, trivial, trivial⟩
  have right : (Value.object filter).Sorted := ⟨by decide, trivial, trivial, trivial⟩
  have contained : Filter.containedIn filter event = true := by decide +kernel
  exact ⟨left, right, contained, (Filter.containedIn_iff_related left right).1.mp contained⟩

/-- What a text is read as needs no further condition: an event that was read satisfies a config
that was read if and only if each value of the config is there under its key. -/
theorem Event.satisfies_iff_related {data text : String} {e : Event} {config : SubscriptionConfig}
    (event : Event.read data = .ok e) (filter : Value.read text = .ok (.object config.fields)) :
    e.satisfies config = true ↔ ∀ key expected, Fields.get? config.fields key = some expected →
      ∃ actual, e.get? key = some actual ∧ actual.Related expected := by
  have left : (Value.object e.fields).Sorted := by
    unfold Event.read at event
    split at event
    · contradiction
    · next fields read =>
      cases event
      exact Value.sorted_read read
    · contradiction
  have right := Value.sorted_read filter
  exact Filter.containedIn_iff_related_get? left right

end GatewayClient

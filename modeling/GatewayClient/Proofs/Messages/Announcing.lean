import GatewayClient.Proofs.Json.Reading
import GatewayClient.Session

/-!
# GatewayClient.Proofs.Messages.Announcing

What the payload of an `open` frame announces. Each of the four fields counts under all of its
spellings together:

```
dispatcherId dispatcher    text or null
sessionId    sessionid     text or null
cookieName                 text or null
crumb                      null, an object of `name` and `value`, or an array of them in this order
```

A session is decoded when no field comes twice and each value is of its type, and then each part
of it is told by the one value of its field, or is absent (`Session.Announced`). Payloads that
differ in the order of their members, in the spelling of a name or in members of other names
announce the same.
-/

namespace GatewayClient

open Json Json.Decoder

/-- Whether a source is a text. -/
def IsText (source : Source) (s : String) : Prop := source = .string (.ok s)

/-- Whether a source is null, for an absent part, or is read as the part. -/
def OrNull {α : Type} (reads : Source → α → Prop) (source : Source) : Option α → Prop
  | none => source = .null
  | some a => reads source a

theorem makes_string (context : Context) : Makes string context = IsText := by
  funext source s
  exact propext string_eq_ok

theorem makes_nullable_iff {α : Type} {d : Decoder α} {context : Context} {source : Source}
    {o : Option α} (nonnull : ∀ a, ¬ Makes d context .null a) :
    Makes (nullable d) context source o ↔ OrNull (Makes d context) source o := by
  unfold Makes at *
  by_cases null : source = .null
  · subst null
    cases o with
    | none => simp [nullable_null, OrNull]
    | some a => simp [nullable_null, OrNull, nonnull]
  · rw [nullable_of_ne null, map_eq_ok]
    cases o <;> simp [OrNull, null]

theorem makes_nullable_string (context : Context) :
    Makes (nullable string) context = OrNull IsText := by
  funext source o
  refine propext ((makes_nullable_iff (fun s made => ?_)).trans ?_)
  · rw [makes_string] at made
    cases made
  · rw [makes_string]

/-! ## crumbs -/

namespace Crumb

/-- What members tell about a crumb. A part that is not given is empty. -/
structure Parts (ms : List (String × Source)) (c : Crumb) : Prop where
  name : Told ["name"] IsText "" ms c.name
  value : Told ["value"] IsText "" ms c.value

/-- How a crumb is read, from an object or from an array of its parts in their order. -/
inductive IsRead : Source → Crumb → Prop where
  | object {ms : List (String × Source)} {c : Crumb} (parts : Parts ms c) :
      IsRead (.object (named ms) none) c
  | empty : IsRead (.array [] none) ⟨"", ""⟩
  | single (name : String) : IsRead (.array [.string (.ok name)] none) ⟨name, ""⟩
  | pair (name value : String) :
      IsRead (.array [.string (.ok name), .string (.ok value)] none) ⟨name, value⟩

/-- The fields of a crumb. -/
def recordFields : List (Decoder.Field Crumb) :=
  [ field "name" string (fun s c => { c with name := s }) [],
    field "value" string (fun s c => { c with value := s }) [] ]

theorem decoder_eq : decoder = record "Crumb" recordFields ⟨"", ""⟩ := rfl

theorem members_eq_ok {context : Context} {ms : List (String × Source)} {c : Crumb}
    (skims : ∀ m ∈ ms, m.2.skim = none) :
    members recordFields context (named ms) none [] ⟨"", ""⟩ = .ok c ↔ Parts ms c := by
  have apart : Apart recordFields := by decide
  refine members_eq_ok_iff_of_told (Parts ms) apart skims (fun c done => ?_)
    (fun told f listed => ?_) (fun c' told told' => ?_)
  · have name := told_of_members Crumb.name apart (.head _) (fun _ => rfl) (fun _ _ => rfl)
      (by simp [recordFields, leaves_field]) done
    have value := told_of_members Crumb.value apart (.tail _ (.head _)) (fun _ => rfl)
      (fun _ _ => rfl) (by simp [recordFields, leaves_field]) done
    rw [makes_string] at name value
    exact ⟨name, value⟩
  · obtain ⟨name, value⟩ := told
    rw [← makes_string context] at name value
    simp only [recordFields, List.mem_cons, List.not_mem_nil, or_false] at listed
    rcases listed with rfl | rfl
    · exact given_of_told rfl (fun _ => rfl) name
    · exact given_of_told rfl (fun _ => rfl) value
  · obtain ⟨name, value⟩ := told
    obtain ⟨name', value'⟩ := told'
    rw [← makes_string context] at name value name' value'
    exact congrArg₂ Crumb.mk (told_unique name name') (told_unique value value')

/-- The items of an array are the parts of a crumb in their order. -/
theorem positions_eq_ok {expected : String} {context : Context} {length : Nat}
    {items : List Source} {close : Option Failure} {c : Crumb} (origin : context.origin = .text) :
    positions expected context length recordFields items close ⟨"", ""⟩ = .ok c ↔
      IsRead (.array items close) c := by
  have isRead : IsRead (.array items close) c ↔ close = none ∧
      ((items = [] ∧ c = ⟨"", ""⟩) ∨ (∃ s, items = [.string (.ok s)] ∧ c = ⟨s, ""⟩) ∨
        ∃ s t, items = [.string (.ok s), .string (.ok t)] ∧ c = ⟨s, t⟩) := by
    constructor
    · rintro (_ | _ | _) <;> simp
    · rintro ⟨rfl, ⟨rfl, rfl⟩ | ⟨s, rfl, rfl⟩ | ⟨s, t, rfl, rfl⟩⟩
      · exact .empty
      · exact .single s
      · exact .pair s t
  have set : ∀ {item : Source} {put : String → Crumb → Crumb} {update : Crumb → Crumb},
      (string context item).map put = .ok update ↔
        ∃ s, item = .string (.ok s) ∧ put s = update := by
    simp [map_eq_ok, string_eq_ok, Source.ofValue]
  rw [isRead]
  -- no item, one, two, and too many; each with and without the closing bracket
  rcases items with _ | ⟨name, _ | ⟨value, _ | ⟨third, items⟩⟩⟩ <;> cases close <;>
    simp only [positions, recordFields, field, bind_eq_ok, set, origin]
  all_goals simp [fail, eq_comm (a := c), and_assoc]

/-- A source that can be passed over is decoded as the crumb as which it is read. -/
theorem makes_iff {room : Nat} {source : Source} {c : Crumb} (skims : source.skim = none) :
    Makes decoder ⟨.text, room + 1⟩ source c ↔ IsRead source c := by
  rw [Makes, decoder_eq]
  cases source with
  | object ms close =>
    rw [record_object _ (Nat.succ_ne_zero room)]
    constructor
    · intro done
      obtain ⟨rfl, ms, rfl⟩ := exists_named_of_members done
      exact .object ((members_eq_ok (skimMembers_named.mp skims)).mp done)
    · rintro ⟨parts⟩
      exact (members_eq_ok (skimMembers_named.mp skims)).mpr parts
  | array items close => exact positions_eq_ok rfl
  | null | bool | number | string | broken =>
    refine iff_of_false (by simp [record, wrongType_ne_ok]) ?_
    rintro ⟨⟩

end Crumb

/-! ## sessions -/

namespace Session

/-- The spellings of the fields of a session. -/
def spellings : List (List String) :=
  [["dispatcherId", "dispatcher"], ["sessionId", "sessionid"], ["cookieName"], ["crumb"]]

/-- What members tell about a session, given how texts and crumbs are read. A part that is not
given is absent. -/
structure Parts (readsText : Source → Option String → Prop)
    (readsCrumb : Source → Option Crumb → Prop) (ms : List (String × Source)) (s : Session) :
    Prop where
  dispatcherId : Told ["dispatcherId", "dispatcher"] readsText none ms s.dispatcherId
  sessionId : Told ["sessionId", "sessionid"] readsText none ms s.sessionId
  cookieName : Told ["cookieName"] readsText none ms s.cookieName
  crumb : Told ["crumb"] readsCrumb none ms s.crumb

/-- The session that members announce, as its parts are read. -/
def Announced : List (String × Source) → Session → Prop :=
  Parts (OrNull IsText) (OrNull Crumb.IsRead)

/-- Whether a field comes at most once under all its names, with null or a value that can be read.
-/
def AtMostOnce {α : Type} (names : List String) (reads : Source → α → Prop)
    (ms : List (String × Source)) : Prop :=
  (sourcesOf names ms).length ≤ 1 ∧
    ∀ source ∈ sourcesOf names ms, source = .null ∨ ∃ a, reads source a

/-- Whether each field of a session comes at most once and with a value of its type. -/
structure Announceable (ms : List (String × Source)) : Prop where
  dispatcherId : AtMostOnce ["dispatcherId", "dispatcher"] IsText ms
  sessionId : AtMostOnce ["sessionId", "sessionid"] IsText ms
  cookieName : AtMostOnce ["cookieName"] IsText ms
  crumb : AtMostOnce ["crumb"] Crumb.IsRead ms

/-- The fields of a session. -/
def recordFields : List (Decoder.Field Session) :=
  [ field "dispatcherId" (nullable string) (fun s i => { i with dispatcherId := s }) ["dispatcher"],
    field "sessionId" (nullable string) (fun s i => { i with sessionId := s }) ["sessionid"],
    field "cookieName" (nullable string) (fun s i => { i with cookieName := s }) [],
    field "crumb" (nullable Crumb.decoder) (fun c i => { i with crumb := c }) [] ]

theorem decoder_eq : decoder = record "SessionInfo" recordFields empty := rfl

/-- What members announce is what the decoders make of them. -/
theorem announced_iff_makes (room : Nat) {ms : List (String × Source)} {s : Session}
    (skims : ∀ m ∈ ms, m.2.skim = none) : Announced ms s ↔
      Parts (Makes (nullable string) ⟨.text, room + 1⟩)
        (Makes (nullable Crumb.decoder) ⟨.text, room + 1⟩) ms s := by
  have crumbs : Told ["crumb"] (OrNull Crumb.IsRead) none ms s.crumb ↔
      Told ["crumb"] (Makes (nullable Crumb.decoder) ⟨.text, room + 1⟩) none ms s.crumb := by
    refine Told.congr (fun source among => ?_)
    obtain ⟨name, -, member⟩ := mem_sourcesOf.mp among
    have nonnull : ∀ c, ¬ Makes Crumb.decoder ⟨.text, room + 1⟩ .null c := by
      intro c made
      cases (Crumb.makes_iff rfl).mp made
    rw [makes_nullable_iff nonnull]
    cases s.crumb with
    | none => rfl
    | some c => exact (Crumb.makes_iff (skims _ member)).symm
  rw [makes_nullable_string]
  constructor
  · rintro ⟨dispatcherId, sessionId, cookieName, crumb⟩
    exact ⟨dispatcherId, sessionId, cookieName, crumbs.mp crumb⟩
  · rintro ⟨dispatcherId, sessionId, cookieName, crumb⟩
    exact ⟨dispatcherId, sessionId, cookieName, crumbs.mpr crumb⟩

/-- The members of an object tell all parts of a session. -/
theorem members_eq_ok {room : Nat} {ms : List (String × Source)} {s : Session}
    (skims : ∀ m ∈ ms, m.2.skim = none) :
    members recordFields ⟨.text, room + 1⟩ (named ms) none [] empty = .ok s ↔ Announced ms s := by
  have apart : Apart recordFields := by decide
  rw [announced_iff_makes room skims]
  refine members_eq_ok_iff_of_told (Parts _ _ ms) apart skims (fun s done => ?_)
    (fun told f listed => ?_) (fun s' told told' => ?_)
  · constructor
    · exact told_of_members Session.dispatcherId apart (.head _) (fun _ => rfl) (fun _ _ => rfl)
        (by simp [recordFields, leaves_field]) done
    · exact told_of_members Session.sessionId apart (.tail _ (.head _)) (fun _ => rfl)
        (fun _ _ => rfl) (by simp [recordFields, leaves_field]) done
    · exact told_of_members Session.cookieName apart (.tail _ (.tail _ (.head _))) (fun _ => rfl)
        (fun _ _ => rfl) (by simp [recordFields, leaves_field]) done
    · exact told_of_members Session.crumb apart (.tail _ (.tail _ (.tail _ (.head _))))
        (fun _ => rfl) (fun _ _ => rfl) (by simp [recordFields, leaves_field]) done
  · simp only [recordFields, List.mem_cons, List.not_mem_nil, or_false] at listed
    rcases listed with rfl | rfl | rfl | rfl
    · exact given_of_told rfl (fun _ => rfl) told.dispatcherId
    · exact given_of_told rfl (fun _ => rfl) told.sessionId
    · exact given_of_told rfl (fun _ => rfl) told.cookieName
    · exact given_of_told rfl (fun _ => rfl) told.crumb
  · have dispatcherId := told_unique told.dispatcherId told'.dispatcherId
    have sessionId := told_unique told.sessionId told'.sessionId
    have cookieName := told_unique told.cookieName told'.cookieName
    have crumb := told_unique told.crumb told'.crumb
    cases s'
    cases s
    simp_all

variable {ms ms' : List (String × Source)} {s : Session}

/-- A field comes at most once if its members tell some value, or none. -/
theorem atMostOnce_iff {α : Type} {names : List String} {reads : Source → α → Prop} :
    AtMostOnce names reads ms ↔ ∃ o, Told names (OrNull reads) none ms o := by
  have values : ∀ source, (∃ o, OrNull reads source o) ↔ source = .null ∨ ∃ a, reads source a := by
    intro source
    constructor
    · rintro ⟨_ | a, read⟩
      · exact .inl read
      · exact .inr ⟨a, read⟩
    · rintro (null | ⟨a, read⟩)
      · exact ⟨none, null⟩
      · exact ⟨some a, read⟩
  rw [exists_told_iff, AtMostOnce]
  simp only [values]

/-- Members announce some session if each field comes at most once and is of its type. -/
theorem exists_announced_iff : (∃ s, Announced ms s) ↔ Announceable ms := by
  constructor
  · rintro ⟨s, dispatcherId, sessionId, cookieName, crumb⟩
    exact ⟨atMostOnce_iff.mpr ⟨_, dispatcherId⟩, atMostOnce_iff.mpr ⟨_, sessionId⟩,
      atMostOnce_iff.mpr ⟨_, cookieName⟩, atMostOnce_iff.mpr ⟨_, crumb⟩⟩
  · rintro ⟨dispatcherId, sessionId, cookieName, crumb⟩
    obtain ⟨dispatcherId, toldDispatcher⟩ := atMostOnce_iff.mp dispatcherId
    obtain ⟨sessionId, toldSession⟩ := atMostOnce_iff.mp sessionId
    obtain ⟨cookieName, toldCookie⟩ := atMostOnce_iff.mp cookieName
    obtain ⟨crumb, toldCrumb⟩ := atMostOnce_iff.mp crumb
    exact ⟨⟨dispatcherId, sessionId, cookieName, crumb⟩, toldDispatcher, toldSession, toldCookie,
      toldCrumb⟩

/-- Members announce a session by the values of its fields only. -/
theorem Announced.of_perm
    (same : ∀ group ∈ spellings, (sourcesOf group ms).Perm (sourcesOf group ms'))
    (announced : Announced ms s) : Announced ms' s where
  dispatcherId := announced.dispatcherId.perm (same _ (.head _))
  sessionId := announced.sessionId.perm (same _ (.tail _ (.head _)))
  cookieName := announced.cookieName.perm (same _ (.tail _ (.tail _ (.head _))))
  crumb := announced.crumb.perm (same _ (.tail _ (.tail _ (.tail _ (.head _)))))

/-- A payload is decoded to the session that its members announce. -/
theorem read_eq_ok_iff {data : String} (payload : IsValue data (.object (named ms) none)) :
    read data = .ok s ↔ Announced ms s := by
  rw [read, payload.decode, decoder_eq, record_object _ (by decide)]
  exact members_eq_ok (skimMembers_named.mp payload.wellFormed)

/-- When the payload of an `open` frame is decoded, to what session, and what may be changed in
it. -/
theorem decoded_from_its_members {data : String}
    (payload : IsValue data (.object (named ms) none)) :
    ((∃ s, read data = .ok s) ↔ Announceable ms) ∧ (∀ s, read data = .ok s ↔ Announced ms s) ∧
      ∀ data' ms', IsValue data' (.object (named ms') none) → Rearranged spellings ms ms' →
        (read data').toOption = (read data).toOption := by
  refine ⟨?_, fun s => read_eq_ok_iff payload, fun data' ms' payload' rearranged => ?_⟩
  · rw [← exists_announced_iff]
    exact exists_congr (fun s => read_eq_ok_iff payload)
  · have same : ∀ group ∈ spellings, (sourcesOf group ms).Perm (sourcesOf group ms') :=
      fun group listed => rearranged.sourcesOf_perm (by decide) listed
    have value : ∀ (x : Except Json.Error Session) s, x.toOption = some s ↔ x = .ok s := by
      intro x s
      cases x <;> simp [Except.toOption]
    ext s
    rw [value, value, read_eq_ok_iff payload, read_eq_ok_iff payload']
    exact ⟨Announced.of_perm (fun group listed => (same group listed).symm), Announced.of_perm same⟩

/-- An old gateway's payload, and one with another spelling, another order and one more member. -/
theorem decoded_from_its_members_old :
    read (objectText [("dispatcher", (Value.string "d-1").text), ("sessionid", Value.null.text),
        ("crumb", objectText [("value", (Value.string "v").text),
          ("name", (Value.string "n").text)])]) =
      .ok ⟨some "d-1", none, none, some ⟨"n", "v"⟩⟩ ∧
    (read (objectText [("crumb", objectText [("value", (Value.string "v").text),
        ("name", (Value.string "n").text)]), ("version", arrayText [Value.null.text]),
        ("sessionid", Value.null.text), ("dispatcherId", (Value.string "d-1").text)])).toOption =
    (read (objectText [("dispatcher", (Value.string "d-1").text), ("sessionid", Value.null.text),
        ("crumb", objectText [("value", (Value.string "v").text),
          ("name", (Value.string "n").text)])])).toOption := by
  have parts := isValue_objectText
    (.cons ((isValue_string "v").member "value") (.cons ((isValue_string "n").member "name") .nil))
  have absent : IsValue Value.null.text .null := Value.isValue_text trivial
  have given := isValue_string "d-1"
  have old := isValue_objectText (.cons (given.member "dispatcher")
    (.cons (absent.member "sessionid") (.cons (parts.member "crumb") .nil)))
  have new := isValue_objectText (.cons (parts.member "crumb")
    (.cons ((isValue_arrayText (.cons absent .nil)).member "version")
      (.cons (absent.member "sessionid") (.cons (given.member "dispatcherId") .nil))))
  obtain ⟨-, told, alike⟩ := decoded_from_its_members old
  refine ⟨(told _).mpr ⟨.inr ⟨_, rfl, rfl⟩, .inr ⟨_, rfl, rfl⟩, .inl ⟨rfl, rfl⟩, .inr ⟨_, rfl, ?_⟩⟩,
    alike _ _ new ?_⟩
  · exact .object ⟨.inr ⟨_, rfl, rfl⟩, .inr ⟨_, rfl, rfl⟩⟩
  · have here : ["dispatcherId", "dispatcher"] ∈ spellings := .head _
    refine .trans (@Rearranged.respelled _ "dispatcher" "dispatcherId" _ _ [] _ here
      (.tail _ (.head _)) (.head _)) ?_
    refine .trans (.reordered (List.reverse_perm _).symm) ?_
    exact @Rearranged.inserted _ "version" _ [_] [_, _] (by decide)

end Session

end GatewayClient

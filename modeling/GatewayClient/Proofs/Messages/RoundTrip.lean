import GatewayClient.Configuration
import GatewayClient.Proofs.Json.Reading
import GatewayClient.Settings.Basic

/-!
# GatewayClient.Proofs.Messages.RoundTrip

Each message is decoded from its text as what it was. For each field of a message what is written
is set beside how it is read, in the order of the fields (`Decoder.Written`), a part that is
absent being left out:

```
written    "dispatcherId": "d"                       "cookieName": null is never written
read       dispatcherId := some "d"                  cookieName stays none
```

That the text is well-formed and read as these fields is a fact about all values
(`Value.isValue_text`).
-/

namespace GatewayClient

open Json Json.Decoder

namespace Json.Decoder

variable {ρ α : Type} {context : Context} {fields : List (Field ρ)} {fs : Fields} {rest : ρ → ρ}
  {name : String} {aliases : List String} {d : Decoder α}

/-! ## parts of a message -/

/-- A part that is always written. -/
theorem Written.always {set : α → ρ → ρ} {v : Value} {a : α} (whole : v.Whole)
    (reads : d context (Source.ofValue v) = .ok a) (behind : Written context fields fs rest) :
    Written context (field name d set aliases :: fields) ((name, v) :: fs) (rest ∘ set a) :=
  .given whole (map_eq_ok.mpr ⟨a, reads, rfl⟩) behind

/-- A part that is left out when it is absent. -/
theorem Written.optional {set : Option α → ρ → ρ} {write : α → Value} (o : Option α)
    (whole : ∀ a, (write a).Whole) (reads : ∀ a, d context (Source.ofValue (write a)) = .ok a)
    (nonnull : ∀ a, Source.ofValue (write a) ≠ .null) (behind : Written context fields fs rest) :
    Written context (field name (nullable d) set aliases :: fields)
      (o.elim [] (fun a => [(name, write a)]) ++ fs)
      (o.elim rest (fun a => rest ∘ set (some a))) := by
  cases o with
  | none => exact .absent rfl behind
  | some a =>
    have reads : nullable d context (Source.ofValue (write a)) = .ok (some a) := by
      rw [nullable_of_ne (nonnull a), reads]
      rfl
    exact .always (whole a) reads behind

/-- An optional text. -/
theorem Written.text {set : Option String → ρ → ρ} (o : Option String)
    (behind : Written context fields fs rest) :
    Written context (field name (nullable string) set aliases :: fields) (optionalText name o ++ fs)
      (o.elim rest (fun s => rest ∘ set (some s))) :=
  .optional o (fun _ => trivial) (fun _ => rfl) (by simp [Source.ofValue]) behind

/-- A list is decoded from what it is written as, if its elements are. -/
theorem elements_ofItems {write : α → Value} {as : List α}
    (reads : ∀ a ∈ as, d context (Source.ofValue (write a)) = .ok a) :
    elements d context (Source.ofItems (as.map write)) none = .ok as := by
  induction as with
  | nil => rfl
  | cons a as ih =>
    rw [List.map_cons, Source.ofItems, elements, reads a List.mem_cons_self,
      ih (fun b later => reads b (.tail _ later))]
    rfl

/-- A record is decoded from the text of the object that it is written as. -/
theorem Written.read_text {update : ρ → ρ} {default : ρ} (apart : Apart fields)
    (written : Written ⟨.text, maxDepth - 1⟩ fields fs update) :
    Decoder.read (record name fields default) (Value.object fs).text = .ok (update default) := by
  have value : IsValue (Value.object fs).text (Source.ofValue (.object fs)) :=
    Value.isValue_text written.fieldsWhole
  rw [value.decode, Source.ofValue, record_object _ (by decide)]
  exact written.members_eq apart default

end Json.Decoder

/-! ## sessions -/

theorem Crumb.whole_toJson (c : Crumb) : c.toJson.Whole := ⟨trivial, trivial, trivial⟩

/-- A crumb is decoded from its value. -/
theorem Crumb.decoder_ofValue {context : Context} (room : context.room ≠ 0) (c : Crumb) :
    Crumb.decoder context (Source.ofValue c.toJson) = .ok c := by
  rw [Crumb.decoder, Crumb.toJson, Source.ofValue, record_object _ room]
  exact Written.members_eq (.always (by trivial) rfl (.always (by trivial) rfl .nil)) (by decide) _

/-- A session is read back, whatever parts of it are absent. -/
theorem Session.read_text (s : Session) : Session.read s.text = .ok s := by
  have crumbs : ∀ c : Crumb,
      Crumb.decoder ⟨.text, maxDepth - 1⟩ (Source.ofValue c.toJson) = .ok c :=
    Crumb.decoder_ofValue (by decide)
  have parts : s.toJson = .object (optionalText "dispatcherId" s.dispatcherId ++
      (optionalText "sessionId" s.sessionId ++ (optionalText "cookieName" s.cookieName ++
        (s.crumb.elim [] (fun c => [("crumb", c.toJson)]) ++ [])))) := by
    simp [toJson]
  rw [text, parts]
  refine (Written.read_text (by decide) (.text _ (.text _ (.text _ (.optional _ Crumb.whole_toJson
    crumbs (by simp [Crumb.toJson, Source.ofValue]) .nil))))).trans ?_
  obtain ⟨_ | _, _ | _, _ | _, _ | _⟩ := s <;> rfl

/-- The reply to a connect is read back. -/
theorem ConnectReply.read_text (r : ConnectReply) : ConnectReply.read r.toJson.text = .ok r := by
  have parts : r.toJson = .object (optionalText "jsessionid" r.jsessionid ++ []) := by simp [toJson]
  rw [parts]
  refine (Written.read_text (by decide) (.text _ .nil)).trans ?_
  obtain ⟨_ | _⟩ := r <;> rfl

/-! ## configuration requests -/

/-- A config is decoded from its value, if that is sorted and not too deep. -/
theorem SubscriptionConfig.decoder_ofValue {context : Context} {c : SubscriptionConfig}
    (sorted : c.toJson.Sorted) (fits : c.toJson.depth ≤ context.room) :
    SubscriptionConfig.decoder context (Source.ofValue c.toJson) = .ok c := by
  rw [toJson, Value.depth] at fits
  have room : context.room ≠ 0 := by omega
  have read : Source.toFields (context.room - 1) [] (Source.ofFields c.fields) none =
      .ok ([] ++ c.fields) :=
    Source.toFields_ofFields sorted.1 sorted.2 (by omega)
  rw [toJson, Source.ofValue, decoder, Decoder.fields, enter, if_neg room]
  simp only [bind, Except.bind, read]
  rfl

theorem SubscriptionConfig.list_ofValue {context : Context} {cs : List SubscriptionConfig}
    (sorted : ∀ c ∈ cs, c.toJson.Sorted)
    (fits : (Value.array (cs.map toJson)).depth ≤ context.room) :
    Decoder.list SubscriptionConfig.decoder context (Source.ofValue (.array (cs.map toJson))) =
      .ok cs := by
  rw [Value.depth] at fits
  have room : context.room ≠ 0 := by omega
  have reads : ∀ c ∈ cs, SubscriptionConfig.decoder { context with room := context.room - 1 }
      (Source.ofValue c.toJson) = .ok c := by
    intro c listed
    have within := Value.depth_le_itemsDepth (List.mem_map_of_mem (f := toJson) listed)
    exact decoder_ofValue (sorted c listed) (show _ ≤ context.room - 1 by omega)
  rw [Source.ofValue, Decoder.list, enter, if_neg room]
  exact elements_ofItems reads

/-- A configuration request is read back, if its configs are sorted and have whole numbers only,
and none nests too deep. -/
theorem ConfigurationRequest.read_text {r : ConfigurationRequest}
    (configs : ∀ c ∈ r.subscribe ++ r.unsubscribe, c.toJson.Sorted ∧ c.toJson.Whole)
    (fits : r.toJson.depth ≤ maxDepth) : ConfigurationRequest.read r.text = .ok r := by
  have parts : r.toJson = .object
      ([("subscribe", .array (r.subscribe.map SubscriptionConfig.toJson)),
        ("unsubscribe", .array (r.unsubscribe.map SubscriptionConfig.toJson))] ++
          (optionalText "dispatcherId" r.dispatcherId ++ [])) := by
    simp [toJson]
  have list : ∀ cs : List SubscriptionConfig, (∀ c ∈ cs, c ∈ r.subscribe ++ r.unsubscribe) →
      (Value.array (cs.map SubscriptionConfig.toJson)).depth ≤ maxDepth - 1 →
      (Value.array (cs.map SubscriptionConfig.toJson)).Whole ∧
        Decoder.list SubscriptionConfig.decoder ⟨.text, maxDepth - 1⟩
          (Source.ofValue (.array (cs.map SubscriptionConfig.toJson))) = .ok cs := by
    intro cs among within
    refine ⟨Value.itemsWhole_iff.mpr (List.forall_mem_map.mpr ?_),
      SubscriptionConfig.list_ofValue (fun c listed => (configs c (among c listed)).1) within⟩
    exact fun c listed => (configs c (among c listed)).2
  rw [parts, Value.depth, List.cons_append, List.cons_append, Value.fieldsDepth,
    Value.fieldsDepth] at fits
  obtain ⟨wholeSubscribe, subscribe⟩ := list r.subscribe (by simp +contextual) (by omega)
  obtain ⟨wholeUnsubscribe, unsubscribe⟩ := list r.unsubscribe (by simp +contextual) (by omega)
  rw [text, parts]
  refine (Written.read_text (by decide) (.always wholeSubscribe subscribe
    (.always wholeUnsubscribe unsubscribe (.text _ .nil)))).trans ?_
  obtain ⟨_, _, _ | _⟩ := r <;> rfl

/-! ## settings -/

/-- Settings are read back. -/
theorem Settings.read_text (s : Settings) : Settings.read s.text = .ok s := by
  refine (Written.read_text (by decide) (.always (by rfl) rfl (.always (by trivial) rfl (.text _
    (.always (by rfl) rfl (.always (by rfl) rfl (.always (by rfl) rfl .nil))))))).trans ?_
  obtain ⟨_, _, _ | _, _, _, _⟩ := s <;> rfl

/-- A patch is read back: what it leaves out stays left out. -/
theorem SettingsPatch.read_text (p : SettingsPatch) : SettingsPatch.read p.toJson.text = .ok p := by
  have parts : p.toJson = .object
      (p.batchDelay.elim [] (fun n => [("batchConfigDelayMs", Settings.millis n)]) ++
        (p.sendSessionId.elim [] (fun b => [("sendSessionId", .bool b)]) ++
          (optionalText "serverUrl" p.serverUrl ++ []))) := by
    simp [toJson]
  rw [parts]
  refine (Written.read_text (by decide) (.optional _ (fun _ => by rfl) (fun _ => rfl)
    (by simp [Settings.millis, Source.ofValue]) (.optional _ (fun _ => by trivial) (fun _ => rfl)
      (by simp [Source.ofValue]) (.text _ .nil)))).trans ?_
  obtain ⟨_ | _, _ | _, _ | _⟩ := p <;> rfl

/-! ## all messages -/

/-- Every message is decoded from its text as what it was, a configuration request if its configs
are in order, have whole numbers only and do not nest too deep. -/
theorem messages_read_back :
    (∀ s : Session, Session.read s.text = .ok s) ∧
    (∀ r : ConnectReply, ConnectReply.read r.toJson.text = .ok r) ∧
    (∀ r : ConfigurationRequest,
      (∀ c ∈ r.subscribe ++ r.unsubscribe, c.toJson.Sorted ∧ c.toJson.Whole) →
        r.toJson.depth ≤ maxDepth → ConfigurationRequest.read r.text = .ok r) ∧
    (∀ s : Settings, Settings.read s.text = .ok s) ∧
    ∀ p : SettingsPatch, SettingsPatch.read p.toJson.text = .ok p :=
  ⟨Session.read_text, ConnectReply.read_text, fun _ => ConfigurationRequest.read_text,
    Settings.read_text, SettingsPatch.read_text⟩

/-- A request with an escaped key, a text that is not of ASCII characters, the largest number and a
negative one. -/
theorem messages_read_back_escaped :
    ConfigurationRequest.read (ConfigurationRequest.text
      ⟨[⟨[("\u0001\"", .array [.number (.natural 18446744073709551615), .array []]),
          ("é", .object [("\n", .number (.negative 2))])]⟩], [⟨[]⟩], some "\\"⟩) =
      .ok ⟨[⟨[("\u0001\"", .array [.number (.natural 18446744073709551615), .array []]),
          ("é", .object [("\n", .number (.negative 2))])]⟩], [⟨[]⟩], some "\\"⟩ := by
  refine messages_read_back.2.2.1 _ (fun c listed => ?_) (by decide)
  simp only [List.mem_append, List.mem_singleton] at listed
  rcases listed with rfl | rfl
  · have keys : Fields.Sorted
        [("\u0001\"", .array [.number (.natural 18446744073709551615), .array []]),
          ("é", .object [("\n", .number (.negative 2))])] := by decide
    have inner : Fields.Sorted [("\n", .number (.negative 2))] := by decide
    exact ⟨⟨keys, ⟨trivial, trivial, trivial⟩, ⟨inner, trivial, trivial⟩, trivial⟩,
      ⟨rfl, trivial, trivial⟩, ⟨rfl, trivial⟩, trivial⟩
  · exact ⟨⟨.nil, trivial⟩, trivial⟩

end GatewayClient

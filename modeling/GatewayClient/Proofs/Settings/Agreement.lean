import GatewayClient.Proofs.Settings.Layering

/-!
# GatewayClient.Proofs.Settings.Agreement

The two ways to read settings from a text. Decoding takes the text as it comes, with a default for
each field that is not there; loading reads it as a value, merges that into the object of the
defaults and decodes the result. Where both accept a text they agree, and among the objects that
can be read only these make a difference:

```
                                         decoded    loaded
zero for a delay that must not be zero   yes        no, it is not valid
the key of a setting twice               no         yes, the last one counts
null for a setting but the URL           no         yes, it gives nothing
```
-/

namespace GatewayClient.Settings

open Json (Value Fields Decoder Source Members WithinLimits bind_eq_ok map_eq_ok mapError_eq_ok)

/-- A text is decoded by itself if its root is and nothing follows it. -/
theorem read_eq_ok_iff {text : String} : Settings.read text = .ok s ↔
    decoder ⟨.text, Json.maxDepth⟩ (Json.Document.read text).root = .ok s ∧
      (Json.Document.read text).trailing = false := by
  simp only [Settings.read, Decoder.read, bind_eq_ok]
  constructor
  · rintro ⟨w, root, ends⟩
    split at ends
    · contradiction
    · next behind =>
      cases ends
      exact ⟨root, by simpa using behind⟩
  · rintro ⟨root, ends⟩
    exact ⟨s, root, by rw [ends]; rfl⟩

theorem ofText_eq_ok_iff {text : String} :
    ofText text = .ok s ↔ mergeText (some text) = .ok s ∧ s.validate = .ok () := by
  simp only [ofText, bind_eq_ok]
  constructor
  · rintro ⟨w, decoded, u, valid, same⟩
    cases same
    exact ⟨decoded, valid⟩
  · rintro ⟨decoded, valid⟩
    exact ⟨s, decoded, (), valid, rfl⟩

theorem Decodable.wellTyped {fs : Fields} (decodable : Decodable fs) : WellTyped fs :=
  EachSetting.mono decodable (fun _ _ typed v found _ => typed v found)

/-- Without `null`, what a file gives has its type also for the decoder. -/
theorem WellTyped.decodable {fs : Fields} (wellTyped : WellTyped fs)
    (full : ∀ key v, Fields.get? fs key = some v → v ≠ .null) : Decodable fs :=
  EachSetting.mono wellTyped (fun _ _ typed v found => typed v found (full _ v found))

/-- Each setting is decoded alike from a text and from a value. -/
theorem faithful_recordFields : ∀ f ∈ recordFields, Decoder.Faithful f := by
  intro f member
  obtain ⟨x, -, rfl⟩ := Setting.mem_recordFields_iff.mp member
  exact x.decodes.faithful x.key x.set []

/-- What is decoded from a source is decoded as well from its value over the defaults. -/
theorem decode_merge_of_decode {source : Source} {v : Value}
    (decoded : decoder ⟨.text, Json.maxDepth⟩ source = .ok s)
    (value : source.toValue Json.maxDepth = .ok v) :
    Decoder.ofValue decoder (defaultFields.merge v) = .ok s := by
  rcases Decoder.exists_of_record decoded with ⟨ms, close, rfl⟩ | ⟨items, close, rfl⟩
  · obtain ⟨-, fs, fields, rfl⟩ := Source.toValue_object_eq_ok.mp value
    have held := Source.holdFields_of_toFields fields
    obtain ⟨decodable, same⟩ := eq_ofFields_of_members held decoded
    exact (decode_merge_eq_ok (Source.sorted_toValue value).1).mpr ⟨decodable.wellTyped, same⟩
  · obtain ⟨vs, read, rfl⟩ := map_eq_ok.mp value
    have replaced : defaultFields.merge (.array vs) = .array vs := by
      rw [defaultFields_eq]
      rfl
    rw [replaced]
    exact Decoder.positions_ofItems faithful_recordFields read decoded

/-- An object without repeated keys and without `null` is decoded if it is loaded. -/
theorem read_of_mergeText {text : String} {ms : Members} {close : Option Json.Failure} {v : Value}
    (loaded : mergeText (some text) = .ok s) (read : Value.read text = .ok v)
    (root : (Json.Document.read text).root = .object ms close)
    (distinct : (ms.map Prod.fst).Nodup) (full : ∀ m ∈ ms, m.2 ≠ .null) :
    Settings.read text = .ok s := by
  obtain ⟨value, ends⟩ := Value.read_eq_ok_iff.mp read
  rw [root] at value
  obtain ⟨-, fs, fields, rfl⟩ := Source.toValue_object_eq_ok.mp value
  rw [mergeText_of_read read, mapError_eq_ok,
    decode_merge_eq_ok (Source.sorted_toValue value).1] at loaded
  obtain ⟨wellTyped, rfl⟩ := loaded
  have held := Source.holdFields_of_toFields fields
  have present : ∀ key v, Fields.get? fs key = some v → v ≠ .null := by
    rintro key v found rfl
    obtain ⟨source, last, holds⟩ := held.exists_last? found
    have empty : source = .null := (holds.eq_ofValue_iff (w := .null) trivial).mpr rfl
    exact full _ (Source.mem_of_last? last) empty
  have closed := (Source.readable_of_toFields fields).1
  rw [read_eq_ok_iff, root, closed]
  exact ⟨members_of_decodable held distinct (wellTyped.decodable present), ends⟩

/-- Decoding and loading a text agree. Settings that are decoded are loaded, unless they are not
valid; and settings that are loaded from an object without repeated keys and without `null` are
decoded. -/
theorem read_agrees_ofText {text : String} (limits : WithinLimits text) :
    (∀ s, Settings.read text = .ok s →
      (s.validate = .ok () → ofText text = .ok s) ∧
      ∀ e, s.validate = .error e → ofText text = .error e ∧ ∃ reason, e = .invalid reason) ∧
    ∀ s ms close, ofText text = .ok s → (Json.Document.read text).root = .object ms close →
      (ms.map Prod.fst).Nodup → (∀ m ∈ ms, m.2 ≠ .null) → Settings.read text = .ok s := by
  obtain ⟨v, read⟩ := Value.exists_read_iff.mpr limits
  constructor
  · intro s decoded
    have merged : mergeText (some text) = .ok s := by
      rw [mergeText_of_read read, mapError_eq_ok]
      exact decode_merge_of_decode (read_eq_ok_iff.mp decoded).1 (Value.read_eq_ok_iff.mp read).1
    refine ⟨fun valid => ofText_eq_ok_iff.mpr ⟨merged, valid⟩, fun e invalid => ⟨?_, ?_⟩⟩
    · simp [ofText, merged, invalid, bind, Except.bind]
    · exact exists_invalid_of_validate invalid
  · intro s ms close loaded root distinct full
    exact read_of_mergeText (ofText_eq_ok_iff.mp loaded).1 read root distinct full

/-- Settings by their places in an array, the last two left out. -/
theorem ofText_places :
    let s := { default with batchDelay := 0, sendSessionId := true, sessionRetryDelay := 7 }
    WithinLimits "[0,true,null,7]" ∧ Settings.read "[0,true,null,7]" = .ok s ∧
      ofText "[0,true,null,7]" = .ok s := by
  intro s
  have limits : WithinLimits "[0,true,null,7]" :=
    Value.exists_read_iff.mp
      ⟨.array [.number (.natural 0), .bool true, .null, .number (.natural 7)], by decide +kernel⟩
  have decoded : Settings.read "[0,true,null,7]" = .ok s :=
    Json.eq_ok_of_toOption (by decide +kernel)
  exact ⟨limits, decoded, ((read_agrees_ofText limits).1 s decoded).1 rfl⟩

end GatewayClient.Settings

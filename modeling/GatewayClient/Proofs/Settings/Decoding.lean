import GatewayClient.Proofs.Json.Records
import GatewayClient.Proofs.Settings.Merging

/-!
# GatewayClient.Proofs.Settings.Decoding

What settings an object is decoded to. Each setting comes from the value under its own key, or is
the default; and a text is decoded to the same settings whether it is decoded by itself or first
read and merged into the defaults.

What the settings have in common is said of all of them at once (`Setting`): a setting is decoded
from the value of one field, and no other field sets it.
-/

namespace GatewayClient

open Json (Value Fields Decoder Source Members)
open Json.Decoder (Component Plain Typed)

namespace Settings

/-! ## single settings -/

/-- A setting by itself: the key of its field, how its value is decoded, of which type it is, and
the part of the settings that it is. -/
structure Setting where
  {α : Type}
  key : String
  decoder : Decoder α
  type : Value → Option α
  get : Settings → α
  set : α → Settings → Settings
  decodes : Decoder.Decodes decoder type
  get_set : ∀ a s, get (set a s) = a

namespace Setting

/-- A setting that is a number of milliseconds. -/
def duration (key : String) (get : Settings → UInt64) (set : UInt64 → Settings → Settings)
    (get_set : ∀ n s, get (set n s) = n) : Setting :=
  { key, decoder := .unsigned, type := Value.natural?, get, set,
    decodes := Decoder.decodes_unsigned, get_set }

/-- All settings, in the order of their fields. -/
def all : List Setting :=
  [ duration "batchConfigDelayMs" batchDelay (fun n s => { s with batchDelay := n })
      (fun _ _ => rfl),
    { key := "sendSessionId"
      decoder := .bool
      type := Value.truth?
      get := sendSessionId
      set := fun b s => { s with sendSessionId := b }
      decodes := Decoder.decodes_bool
      get_set := fun _ _ => rfl },
    { key := "serverUrl"
      decoder := .nullable .string
      type := Value.orNull? Value.asString?
      get := serverUrl
      set := fun u s => { s with serverUrl := u }
      decodes := Decoder.decodes_string.nullable
      get_set := fun _ _ => rfl },
    duration "sessionRetryDelayMs" sessionRetryDelay (fun n s => { s with sessionRetryDelay := n })
      (fun _ _ => rfl),
    duration "reconnectDelayMs" reconnectDelay (fun n s => { s with reconnectDelay := n })
      (fun _ _ => rfl),
    duration "requestTimeoutMs" requestTimeout (fun n s => { s with requestTimeout := n })
      (fun _ _ => rfl) ]

/-- The field of a setting. -/
def field (x : Setting) : Decoder.Field Settings := Decoder.field x.key x.decoder x.set []

theorem mem_recordFields_iff {f : Decoder.Field Settings} :
    f ∈ recordFields ↔ ∃ x ∈ all, x.field = f := by
  have fields : recordFields = all.map field := rfl
  rw [fields, List.mem_map]

/-- What holds of all settings holds of each of the six. -/
theorem forall_mem_all {p : Setting → Prop} : (∀ x ∈ all, p x) ↔
    p all[0] ∧ p all[1] ∧ p all[2] ∧ p all[3] ∧ p all[4] ∧ p all[5] := by
  simp [all]

/-- Settings that agree in each setting are the same. -/
theorem eq_of_get_eq {s t : Settings} (same : ∀ x ∈ all, x.get s = x.get t) : s = t := by
  obtain ⟨batchDelay, sendSessionId, serverUrl, sessionRetryDelay, reconnectDelay,
    requestTimeout⟩ := forall_mem_all.mp same
  cases s
  cases t
  simp_all [all, duration]

/-- The field of one setting leaves every other setting as it is. -/
theorem get_set_of_ne {x y : Setting} (listed : x ∈ all) (other : y ∈ all) (apart : y.key ≠ x.key)
    (b : y.α) (s : Settings) : x.get (y.set b s) = x.get s := by
  simp only [all, List.mem_cons, List.not_mem_nil, or_false] at listed other
  rcases listed with rfl | rfl | rfl | rfl | rfl | rfl <;>
    rcases other with rfl | rfl | rfl | rfl | rfl | rfl <;>
    first
    | exact absurd rfl apart
    | rfl

end Setting

/-! ## the record -/

theorem plain_recordFields : Plain recordFields where
  unaliased := by simp [recordFields, Decoder.field]
  optional := by simp [recordFields, Decoder.field]
  distinct := by decide

/-- Each setting is a component of the record: its own field sets it, and no other does. -/
theorem Setting.component {x : Setting} (listed : x ∈ all) :
    Component recordFields x.key x.type x.get := by
  have own : x.field ∈ recordFields := mem_recordFields_iff.mpr ⟨x, listed, rfl⟩
  refine .of_field plain_recordFields.distinct own x.decodes x.get_set ?_
  intro f theirs apart
  obtain ⟨y, other, rfl⟩ := mem_recordFields_iff.mp theirs
  exact Decoder.leaves_field (get_set_of_ne listed other apart) y.key []

/-- The settings that fields stand for: each by the value of its type under its key, or the
default. -/
def ofFields (fs : Fields) : Settings where
  batchDelay := ((Fields.get? fs "batchConfigDelayMs").bind Value.natural?).getD default.batchDelay
  sendSessionId := ((Fields.get? fs "sendSessionId").bind Value.truth?).getD default.sendSessionId
  serverUrl := (Fields.get? fs "serverUrl").bind Value.asString?
  sessionRetryDelay :=
    ((Fields.get? fs "sessionRetryDelayMs").bind Value.natural?).getD default.sessionRetryDelay
  reconnectDelay :=
    ((Fields.get? fs "reconnectDelayMs").bind Value.natural?).getD default.reconnectDelay
  requestTimeout :=
    ((Fields.get? fs "requestTimeoutMs").bind Value.natural?).getD default.requestTimeout

/-- Whether something holds of the key of each setting and the type that its value has. -/
structure EachSetting (fits : ∀ {α : Type}, String → (Value → Option α) → Prop) : Prop where
  batchDelay : fits "batchConfigDelayMs" Value.natural?
  sendSessionId : fits "sendSessionId" Value.truth?
  serverUrl : fits "serverUrl" (Value.orNull? Value.asString?)
  sessionRetryDelay : fits "sessionRetryDelayMs" Value.natural?
  reconnectDelay : fits "reconnectDelayMs" Value.natural?
  requestTimeout : fits "requestTimeoutMs" Value.natural?

/-- Something holds of each setting if it holds of all that are listed. -/
theorem eachSetting_iff {fits : ∀ {α : Type}, String → (Value → Option α) → Prop} :
    EachSetting fits ↔ ∀ x ∈ Setting.all, fits x.key x.type := by
  rw [Setting.forall_mem_all]
  constructor
  · intro each
    exact ⟨each.1, each.2, each.3, each.4, each.5, each.6⟩
  · rintro ⟨batchDelay, sendSessionId, serverUrl, sessionRetryDelay, reconnectDelay,
      requestTimeout⟩
    exact ⟨batchDelay, sendSessionId, serverUrl, sessionRetryDelay, reconnectDelay, requestTimeout⟩

theorem EachSetting.zip {p q r : ∀ {α : Type}, String → (Value → Option α) → Prop}
    (left : EachSetting p) (right : EachSetting q)
    (both : ∀ {α : Type} (name : String) (type : Value → Option α),
      p name type → q name type → r name type) : EachSetting r :=
  eachSetting_iff.mpr fun x listed =>
    both x.key x.type (eachSetting_iff.mp left x listed) (eachSetting_iff.mp right x listed)

theorem EachSetting.mono {p q : ∀ {α : Type}, String → (Value → Option α) → Prop}
    (each : EachSetting p) (implies : ∀ {α : Type} (name : String) (type : Value → Option α),
      p name type → q name type) : EachSetting q :=
  each.zip each (fun name type fits _ => implies name type fits)

/-- Whether the value under each key has the setting's type, as the decoder asks. -/
def Decodable (fs : Fields) : Prop := EachSetting (Typed fs)

/-- A text or `null` is that text, if there is one. -/
theorem getD_bind_orNull? (found : Option Value) :
    (found.bind (Value.orNull? Value.asString?)).getD none = found.bind Value.asString? := by
  cases found with
  | none => rfl
  | some v => cases v <;> rfl

/-- A setting comes from the value of its type under its key, or is the default. -/
theorem Setting.get_ofFields (fs : Fields) : ∀ x ∈ all,
    x.get (ofFields fs) = ((Fields.get? fs x.key).bind x.type).getD (x.get default) :=
  forall_mem_all.mpr ⟨rfl, rfl, (getD_bind_orNull? _).symm, rfl, rfl, rfl⟩

/-- Members are decoded to nothing but the settings that the fields stand for which they hold. -/
theorem eq_ofFields_of_members {context : Json.Context} {ms : Members} {fs : Fields}
    {close : Option Json.Failure} (held : Source.HoldFields ms fs)
    (done : Decoder.members recordFields context ms close [] default = .ok s) :
    Decodable fs ∧ s = ofFields fs := by
  have each : ∀ x ∈ Setting.all, Typed fs x.key x.type ∧
      x.get s = ((Fields.get? fs x.key).bind x.type).getD (x.get default) :=
    fun x listed => plain_recordFields.get_of_members (Setting.component listed) held done
  refine ⟨eachSetting_iff.mpr fun x listed => (each x listed).1, Setting.eq_of_get_eq ?_⟩
  intro x listed
  rw [(each x listed).2, Setting.get_ofFields fs x listed]

/-- Members with distinct keys are decoded if each value is of its type. -/
theorem members_of_decodable {context : Json.Context} {ms : Members} {fs : Fields}
    (held : Source.HoldFields ms fs) (distinct : (ms.map Prod.fst).Nodup)
    (decodable : Decodable fs) :
    Decoder.members recordFields context ms none [] default = .ok (ofFields fs) := by
  have each : ∀ f ∈ recordFields, ∀ source v, source.Holds v →
      Fields.get? fs f.name = some v → ∃ update, f.set context source = .ok update := by
    intro f member source v holds found
    obtain ⟨x, listed, rfl⟩ := Setting.mem_recordFields_iff.mp member
    have typed := eachSetting_iff.mp decodable x listed
    exact (Setting.component listed).exists_set member rfl typed holds found
  obtain ⟨s, done⟩ := plain_recordFields.members_isOk held distinct each default
  rw [done, (eq_ofFields_of_members held done).2]

/-! ## objects that were read -/

theorem ofValue_object (fs : Fields) : Decoder.ofValue decoder (.object fs) =
    Decoder.members recordFields ⟨.value, Json.maxDepth⟩ (Source.ofFields fs) none [] default :=
  rfl

/-- An object is decoded if each value is of its type, to the settings that its fields stand for. -/
theorem ofValue_object_eq_ok {fs : Fields} (sorted : Fields.Sorted fs) :
    Decoder.ofValue decoder (.object fs) = .ok s ↔ Decodable fs ∧ s = ofFields fs := by
  rw [ofValue_object]
  refine ⟨eq_ofFields_of_members (Source.holdFields_ofFields sorted), ?_⟩
  rintro ⟨decodable, rfl⟩
  exact members_of_decodable (Source.holdFields_ofFields sorted) (Source.nodup_ofFields sorted)
    decodable

end Settings

end GatewayClient

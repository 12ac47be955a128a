import GatewayClient.Proofs.Settings.Decoding
import GatewayClient.Proofs.Text.Numerals

/-!
# GatewayClient.Proofs.Settings.Layering

The layers of the settings. Each setting by itself comes from the first of these that has a value
for it:

```
its variable       if its text is valid
the settings file  if the value under its key is not null
the default
```

A variable does not make up for a value of the wrong type in the file, but for a zero it does.
-/

namespace GatewayClient

open Json (Value Fields Decoder Source Members bind_eq_ok map_eq_ok mapError_eq_ok)
open Json.Decoder (Typed)

namespace Settings

/-! ## the file over the defaults -/

/-- The fields of the defaults. -/
def defaults : Fields :=
  [ ("batchConfigDelayMs", millis 100), ("reconnectDelayMs", millis 3000),
    ("requestTimeoutMs", millis 30000), ("sendSessionId", .bool false),
    ("sessionRetryDelayMs", millis 100) ]

/-- The defaults as they are written: the server is not among them. -/
theorem defaultFields_eq : defaultFields = .object defaults := by decide

theorem sorted_defaults : Fields.Sorted defaults := by decide

/-- No default is an object, so a file replaces defaults and merges none. -/
theorem not_isObject_of_get?_defaults (found : Fields.get? defaults key = some v) :
    ¬ v.IsObject := by
  have member := Fields.mem_of_get? found
  simp only [defaults, List.mem_cons, List.not_mem_nil, or_false, Prod.mk.injEq] at member
  rintro ⟨fs, rfl⟩
  simp [millis] at member

/-- The fields of a file over those of the defaults. -/
def merged (file : Fields) : Fields := Value.mergeFields defaults file

theorem sorted_merged (file : Fields) : Fields.Sorted (merged file) :=
  Value.sorted_mergeFields sorted_defaults

/-- Each field is the one of the file, unless there is none or it is `null`. -/
theorem get?_merged {file : Fields} (sorted : Fields.Sorted file) (key : String) :
    Fields.get? (merged file) key =
      ((Fields.get? file key).filter (!·.isNull)).or (Fields.get? defaults key) := by
  rw [merged, Value.get?_mergeFields sorted]
  split
  · next v found =>
    rw [found, Option.some_or]
    cases old : Fields.get? defaults key with
    | none => rfl
    | some w =>
      exact congrArg some (Value.merge_of_not_isObject (not_isObject_of_get?_defaults old) v)
  · next absent => rw [absent, Option.none_or]

/-- Where there is a value under a key that is not `null`, it is of a type. -/
def TypedOrNull (fs : Fields) (name : String) (type : Value → Option α) : Prop :=
  ∀ v, Fields.get? fs name = some v → v ≠ .null → (type v).isSome

/-- Over a default of a type, a value of the file has to have the type unless it is `null`. -/
theorem typed_merged_iff {file : Fields} (sorted : Fields.Sorted file) {type : Value → Option α}
    (typed : Typed defaults name type) :
    Typed (merged file) name type ↔ TypedOrNull file name type := by
  unfold Typed TypedOrNull at *
  rw [get?_merged sorted]
  cases found : Fields.get? file name with
  | none => simpa using typed
  | some v =>
    by_cases empty : v = .null
    · simpa [empty, Value.isNull, Option.filter_some] using typed
    · simp [Value.isNull_eq_false_iff.mpr empty, empty, Option.filter_some]

/-- Merging into the defaults gives the value that a missing field has anyway. -/
theorem getD_merged {file : Fields} (sorted : Fields.Sorted file) {type : Value → Option α} {a : α}
    (unset : (type .null).getD a = a)
    (same : ((Fields.get? defaults name).bind type).getD a = a) :
    ((Fields.get? (merged file) name).bind type).getD a =
      ((Fields.get? file name).bind type).getD a := by
  rw [get?_merged sorted]
  cases found : Fields.get? file name with
  | none => simpa using same
  | some v =>
    by_cases empty : v = .null
    · simpa [empty, Value.isNull, Option.filter_some, unset] using same
    · simp [Value.isNull_eq_false_iff.mpr empty, Option.filter_some]

/-- What stands for nothing leaves a setting at its default: `null`, and the field of the default
itself. -/
theorem Setting.getD_default : ∀ x ∈ all, (x.type .null).getD (x.get default) = x.get default ∧
    ((Fields.get? defaults x.key).bind x.type).getD (x.get default) = x.get default :=
  forall_mem_all.mpr ⟨⟨rfl, rfl⟩, ⟨rfl, rfl⟩, ⟨rfl, rfl⟩, ⟨rfl, rfl⟩, ⟨rfl, rfl⟩, ⟨rfl, rfl⟩⟩

/-- Whether each setting that a file gives has its type; `null` gives nothing. -/
def WellTyped (file : Fields) : Prop := EachSetting (TypedOrNull file)

/-- The defaults have the types of their settings. -/
theorem decodable_defaults : Decodable defaults := by
  constructor <;> simp [Typed, defaults, millis, Value.natural?, Value.truth?]

/-- A file over the defaults is decoded if what it gives has its type. -/
theorem decodable_merged_iff {file : Fields} (sorted : Fields.Sorted file) :
    Decodable (merged file) ↔ WellTyped file := by
  constructor
  · intro decodable
    exact decodable_defaults.zip decodable
      (fun _ _ typed => (typed_merged_iff sorted typed).mp)
  · intro wellTyped
    exact decodable_defaults.zip wellTyped
      (fun _ _ typed => (typed_merged_iff sorted typed).mpr)

/-- A file over the defaults stands for the same settings as the file alone. -/
theorem ofFields_merged {file : Fields} (sorted : Fields.Sorted file) :
    ofFields (merged file) = ofFields file := by
  refine Setting.eq_of_get_eq fun x listed => ?_
  obtain ⟨unset, same⟩ := Setting.getD_default x listed
  rw [Setting.get_ofFields _ x listed, Setting.get_ofFields _ x listed,
    getD_merged sorted unset same]

/-! ## the variables over the settings -/

/-- What a variable of an environment says, if it is set and its text is valid. -/
def given? (env : Environment) (name : String) (read? : String → Option α) : Option α :=
  (env.lookup name).bind read?

/-- The words of a truth value, in any case. -/
theorem readFlag?_eq_some_iff {text : String} : readFlag? text = some b ↔
    Text.lower text ∈ if b then ["true", "1", "yes", "on"] else ["false", "0", "no", "off"] := by
  unfold readFlag?
  cases b <;> grind

/-- A number within bounds, both included: a numeral, perhaps behind a plus sign. -/
theorem readBounded?_eq_some_iff {text : String} {least greatest : UInt64} :
    readBounded? text least greatest = some n ↔
      (Text.IsNumeral text.toList n.toNat ∨
        ∃ ds, text.toList = '+' :: ds ∧ Text.IsNumeral ds n.toNat) ∧ least ≤ n ∧ n ≤ greatest := by
  simp [readBounded?, Option.filter_eq_some_iff, Text.readUnsigned?_eq_some_iff]

/-- A text that is not empty. -/
def nonEmpty? (s : String) : Option String := if s.isEmpty then none else some s

/-- The settings with those replaced that an environment gives. -/
def withVariables (env : Environment) (s : Settings) : Settings where
  batchDelay := (given? env "SSEGW_BATCH_DELAY_MS" (readBounded? · 0 60000)).getD s.batchDelay
  sendSessionId := (given? env "SSEGW_SEND_SESSION_ID" readFlag?).getD s.sendSessionId
  serverUrl := (given? env "SSEGW_SERVER_URL" nonEmpty?).or s.serverUrl
  sessionRetryDelay :=
    (given? env "SSEGW_SESSION_RETRY_MS" (readBounded? · 1 60000)).getD s.sessionRetryDelay
  reconnectDelay :=
    (given? env "SSEGW_RECONNECT_DELAY_MS" (readBounded? · 0 600000)).getD s.reconnectDelay
  requestTimeout :=
    (given? env "SSEGW_REQUEST_TIMEOUT_MS" (readBounded? · 1 600000)).getD s.requestTimeout

/-- What one variable of an environment makes of settings. -/
def applied (env : Environment) (v : Variable) (s : Settings) : Settings :=
  (env.lookup v.name).elim s (fun value => (v.override value s).1)

/-- An environment is applied variable by variable; the log is left aside here. -/
theorem override_eq_foldl (env : Environment) (s : Settings) :
    (s.override env).1 = Variable.all.foldl (fun s v => applied env v s) s := by
  refine (List.foldl_hom Prod.fst ?_).symm
  rintro ⟨s, log⟩ v
  unfold applied
  cases env.lookup v.name <;> rfl

/-- A variable replaces the component that `set` sets, if its text is valid. -/
theorem applied_eq_set (v : Variable) (read? : String → Option α) (get : Settings → α)
    (set : α → Settings → Settings) (same : ∀ s, set (get s) s = s)
    (each : ∀ value s, (v.override value s).1 = (read? value).elim s (set · s))
    (env : Environment) (s : Settings) :
    applied env v s = set ((given? env v.name read?).getD (get s)) s := by
  unfold applied given?
  cases env.lookup v.name with
  | none => exact (same s).symm
  | some value =>
    rw [Option.elim_some, each, Option.bind_some]
    cases read? value with
    | none => exact (same s).symm
    | some a => rfl

/-- A bounded variable replaces its setting if its text is a number within the bounds. -/
theorem applied_eq_setBounded (v : Variable) (least greatest : UInt64) (get : Settings → UInt64)
    (set : UInt64 → Settings → Settings) (same : ∀ s, set (get s) s = s)
    (each : ∀ value s, v.override value s = v.setBounded least greatest (set · s) value s)
    (env : Environment) (s : Settings) :
    applied env v s =
      set ((given? env v.name (readBounded? · least greatest)).getD (get s)) s := by
  refine applied_eq_set v (readBounded? · least greatest) get set same (fun value s => ?_) env s
  rw [each, Variable.setBounded]
  cases readBounded? value least greatest <;> rfl

/-- The flag is replaced by the word of its variable. -/
theorem applied_sendSessionId (env : Environment) (s : Settings) :
    applied env .sendSessionId s = { s with
      sendSessionId := (given? env "SSEGW_SEND_SESSION_ID" readFlag?).getD s.sendSessionId } := by
  refine applied_eq_set .sendSessionId readFlag? sendSessionId
    (fun b s => { s with sendSessionId := b }) (fun _ => rfl) (fun value s => ?_) env s
  unfold Variable.override
  cases readFlag? value <;> rfl

/-- The server is replaced by the text of its variable, unless that is empty. -/
theorem applied_serverUrl (env : Environment) (s : Settings) :
    applied env .serverUrl s = { s with
      serverUrl := (given? env "SSEGW_SERVER_URL" nonEmpty?).or s.serverUrl } := by
  unfold applied given?
  rw [Variable.name]
  cases env.lookup "SSEGW_SERVER_URL" with
  | none => rfl
  | some value =>
    simp only [Option.elim_some, Option.bind_some, Variable.override, nonEmpty?]
    split <;> rfl

/-- The variables override each setting by itself. -/
theorem override_fst (env : Environment) (s : Settings) :
    (s.override env).1 = s.withVariables env := by
  have batchDelay := applied_eq_setBounded .batchDelay 0 60000 batchDelay
    (fun n s => { s with batchDelay := n }) (fun _ => rfl) (fun _ _ => rfl) env
  have sessionRetryDelay := applied_eq_setBounded .sessionRetryDelay 1 60000 sessionRetryDelay
    (fun n s => { s with sessionRetryDelay := n }) (fun _ => rfl) (fun _ _ => rfl) env
  have reconnectDelay := applied_eq_setBounded .reconnectDelay 0 600000 reconnectDelay
    (fun n s => { s with reconnectDelay := n }) (fun _ => rfl) (fun _ _ => rfl) env
  have requestTimeout := applied_eq_setBounded .requestTimeout 1 600000 requestTimeout
    (fun n s => { s with requestTimeout := n }) (fun _ => rfl) (fun _ _ => rfl) env
  rw [override_eq_foldl]
  simp only [Variable.all, List.foldl_cons, List.foldl_nil, batchDelay, applied_sendSessionId,
    applied_serverUrl, sessionRetryDelay, reconnectDelay, requestTimeout, Variable.name,
    withVariables]

/-! ## loading -/

/-- Settings are valid if the two delays that have to be positive are. -/
theorem validate_eq_ok_iff {s : Settings} {u : Unit} :
    s.validate = .ok u ↔ s.sessionRetryDelay ≠ 0 ∧ s.requestTimeout ≠ 0 := by
  unfold validate
  split
  · simp_all
  split <;> simp_all

/-- Settings are refused for what is invalid in them. -/
theorem exists_invalid_of_validate {s : Settings} (refused : s.validate = .error e) :
    ∃ reason, e = .invalid reason := by
  unfold validate at refused
  split at refused
  · cases refused; exact ⟨_, rfl⟩
  split at refused
  · cases refused; exact ⟨_, rfl⟩
  · contradiction

/-- The object of a file is decoded over the defaults if what it gives has its type. -/
theorem decode_merge_eq_ok {fs : Fields} (sorted : Fields.Sorted fs) :
    Decoder.ofValue decoder (defaultFields.merge (.object fs)) = .ok s ↔
      WellTyped fs ∧ s = ofFields fs := by
  have replaced : defaultFields.merge (.object fs) = .object (merged fs) := by
    rw [defaultFields_eq]
    rfl
  rw [replaced, ofValue_object_eq_ok (sorted_merged fs), decodable_merged_iff sorted,
    ofFields_merged sorted]

/-- Whether a settings file is absent, with no fields, or holds an object with these fields. -/
inductive File.Holds : File → Fields → Prop where
  | absent : Holds .absent []
  | object {content : List UInt8} {text : String} {fs : Fields}
      (decoded : Text.Utf8.decode? content = some text)
      (read : Value.read text = .ok (.object fs)) : Holds (.bytes content) fs

theorem File.Holds.sorted {file : File} (holds : file.Holds fs) : Fields.Sorted fs := by
  cases holds with
  | absent => exact Fields.sorted_nil
  | object decoded read => exact (Value.sorted_read read).1

/-- A text that is read is decoded over the defaults. -/
theorem mergeText_of_read {text : String} {v : Value} (read : Value.read text = .ok v) :
    mergeText (some text) =
      (Decoder.ofValue decoder (defaultFields.merge v)).mapError .json := by
  simp [mergeText, read, bind, Except.bind, Except.map, Except.mapError]

/-- What a file makes of the defaults. -/
theorem mergeText_of_holds {file : File} (holds : file.Holds fs) :
    (file.text? >>= mergeText) =
      (Decoder.ofValue decoder (defaultFields.merge (.object fs))).mapError .json := by
  cases holds with
  | absent => rw [defaultFields_eq]; rfl
  | object decoded read =>
    rw [File.text?, decoded]
    exact mergeText_of_read read

/-- What loading gives: the file over the defaults, under the variables, checked in the end. -/
theorem load_fst (path : String) (file : File) (env : Environment) :
    (load path file env).1 = (do
      let merged ← file.text? >>= mergeText
      (merged.override env).1.validate
      return (merged.override env).1) := by
  unfold load
  cases file.text? >>= mergeText with
  | error e => rfl
  | ok merged =>
    cases valid : (merged.override env).1.validate <;>
      simp [bind, Except.bind, pure, Except.pure, Except.map, valid]

/-- Loading succeeds with the layered settings if the file is well-typed and they are valid. -/
theorem load_eq_ok_iff {file : File} (holds : file.Holds fs) (path : String) (env : Environment) :
    (load path file env).1 = .ok s ↔ WellTyped fs ∧ s = (ofFields fs).withVariables env ∧
      s.sessionRetryDelay ≠ 0 ∧ s.requestTimeout ≠ 0 := by
  simp only [load_fst, bind_eq_ok, mergeText_of_holds holds, mapError_eq_ok,
    decode_merge_eq_ok holds.sorted, override_fst, validate_eq_ok_iff]
  constructor
  · rintro ⟨_, ⟨wellTyped, rfl⟩, _, valid, same⟩
    cases same
    exact ⟨wellTyped, rfl, valid⟩
  · rintro ⟨wellTyped, rfl, valid⟩
    exact ⟨_, ⟨wellTyped, rfl⟩, (), valid, rfl⟩

/-- The members of a file's object hold its fields: of several members with one key the last one. -/
theorem File.Holds.holdFields {content : List UInt8} {text : String}
    (holds : (File.bytes content).Holds fs) (decoded : Text.Utf8.decode? content = some text)
    (root : (Json.Document.read text).root = .object ms close) : Source.HoldFields ms fs := by
  cases holds with
  | object decoded' read =>
    cases decoded.symm.trans decoded'
    have value := (Value.read_eq_ok_iff.mp read).1
    rw [root, Source.toValue_object_eq_ok] at value
    obtain ⟨-, gs, fields, same⟩ := value
    cases same
    exact Source.holdFields_of_toFields fields

/-- Loading a file that is absent or holds an object: each setting comes from its variable if that
is set and valid, else from the last member of the file with its key if that is not `null`, else
it is the default. Loading fails if and only if the file gives some setting a value of another
type, or one of the two delays that must not be zero is zero in the end. -/
theorem load_by_layers {file : File} {fs : Fields} (holds : file.Holds fs) (path : String)
    (env : Environment) :
    (∀ s, (load path file env).1 = .ok s → s = (ofFields fs).withVariables env) ∧
    ((∃ e, (load path file env).1 = .error e) ↔ ¬ WellTyped fs ∨
      ((ofFields fs).withVariables env).sessionRetryDelay = 0 ∨
      ((ofFields fs).withVariables env).requestTimeout = 0) ∧
    (∀ content text ms close, file = .bytes content → Text.Utf8.decode? content = some text →
      (Json.Document.read text).root = .object ms close →
      ∀ key, Option.Rel Source.Holds (Source.last? key ms) (Fields.get? fs key)) ∧
    (∀ text b, readFlag? text = some b ↔
      Text.lower text ∈ if b then ["true", "1", "yes", "on"] else ["false", "0", "no", "off"]) ∧
    ∀ text least greatest n, readBounded? text least greatest = some n ↔
      (Text.IsNumeral text.toList n.toNat ∨
        ∃ ds, text.toList = '+' :: ds ∧ Text.IsNumeral ds n.toNat) ∧
      least ≤ n ∧ n ≤ greatest := by
  refine ⟨fun s loaded => ((load_eq_ok_iff holds path env).mp loaded).2.1, ?_, ?_,
    fun _ _ => readFlag?_eq_some_iff, fun _ _ _ _ => readBounded?_eq_some_iff⟩
  · cases loaded : (load path file env).1 with
    | ok s =>
      obtain ⟨wellTyped, rfl, valid⟩ := (load_eq_ok_iff holds path env).mp loaded
      simp [wellTyped, valid]
    | error e =>
      have refused := mt (load_eq_ok_iff (s := (ofFields fs).withVariables env) holds path env).mpr
      rw [loaded] at refused
      grind
  · rintro content text ms close rfl decoded root key
    exact (holds.holdFields decoded root).last key

/-- A zero in the file that a variable replaces, and a variable that is not valid. -/
theorem load_retry_from_variable :
    let file := File.bytes (Text.Utf8.encode
      "\x7b\"sessionRetryDelayMs\":0,\"serverUrl\":null,\"x\":[]\x7d")
    let fs := [("serverUrl", .null), ("sessionRetryDelayMs", millis 0), ("x", .array [])]
    let env := [("SSEGW_SESSION_RETRY_MS", "5"), ("SSEGW_SEND_SESSION_ID", "maybe")]
    file.Holds fs ∧
      (load "settings.json" file env).1 = .ok { default with sessionRetryDelay := 5 } := by
  intro file fs env
  have holds : file.Holds fs := .object (Text.Utf8.decode?_encode _) (by decide +kernel)
  have layered : (ofFields fs).withVariables env = { default with sessionRetryDelay := 5 } := by
    decide +kernel
  have wellTyped : WellTyped fs := by
    constructor <;> simp [fs, TypedOrNull, millis, Value.natural?]
  obtain ⟨settings, fails, -⟩ := load_by_layers holds "settings.json" env
  rw [layered] at settings fails
  refine ⟨holds, ?_⟩
  cases loaded : (load "settings.json" file env).1 with
  | ok s => rw [settings s loaded]
  | error e => exact absurd (fails.mp ⟨e, loaded⟩) (by simp [default, wellTyped])

/-! ## files that are not read -/

/-- A file has the text whose bytes it holds. -/
theorem text?_encode (text : String) :
    (File.bytes (Text.Utf8.encode text)).text? = .ok (some text) := by
  rw [File.text?, Text.Utf8.decode?_encode]
  rfl

/-- A file whose text cannot be read is refused. -/
theorem load_of_unreadable {text : String} (unreadable : Value.read text = .error f) (path : String)
    (env : Environment) :
    (load path (.bytes (Text.Utf8.encode text)) env).1 = .error (.json (.text f)) := by
  rw [load_fst, text?_encode]
  simp [mergeText, unreadable, bind, Except.bind, Except.map, Except.mapError]

theorem document_read_ofList (cs : List Char) : Json.Document.read (.ofList cs) =
    { root := (Json.readValue (2 * cs.length + 2) cs).1
      trailing := (Json.readValue (2 * cs.length + 2) cs).2.any
        (fun r => !(Json.skipSpace r).isEmpty) } := by
  simp [Json.Document.read]

/-- An object with one member, which is no setting and in which arrays nest 127 deep. -/
def deepFile : List Char :=
  "\x7b\"x\":".toList ++ List.replicate 127 '[' ++ List.replicate 127 ']' ++ ['\x7d']

/-- A member that is no setting is passed over when a text is decoded by itself, but a file is
read as a whole and refused if it nests too deep anywhere. -/
theorem deep_member_refused :
    (Json.Document.read (.ofList deepFile)).root.skim = none ∧
    (Json.Document.read (.ofList deepFile)).trailing = false ∧
    (Settings.read (.ofList deepFile)).toOption = some default ∧
    (load "settings.json" (.bytes (Text.Utf8.encode (.ofList deepFile))) []).1 =
      .error (.json (.text .malformed)) := by
  have unreadable : Value.read (.ofList deepFile) = .error .malformed := by
    rw [Value.read, document_read_ofList]
    decide +kernel
  refine ⟨?_, ?_, ?_, load_of_unreadable unreadable _ _⟩
  · rw [document_read_ofList]
    decide +kernel
  · rw [document_read_ofList]
    decide +kernel
  · rw [Settings.read, Decoder.read, document_read_ofList]
    decide +kernel

end Settings

end GatewayClient

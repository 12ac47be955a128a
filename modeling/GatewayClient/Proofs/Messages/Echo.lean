import GatewayClient.Configuration
import GatewayClient.Endpoint
import GatewayClient.Proofs.Json.Reading

/-!
# GatewayClient.Proofs.Messages.Echo

The number of a batch and its echo. A batch is posted to a URL that ends in its number, and the
gateway sends the number back in the payload of a `configure` frame:

```
http://host/sse-gateway/configure?batchId=17   ->   {"batchId": 17}   or   {"batchId": "17"}
```

An acknowledgment is decoded when `batchId` comes once and is a natural number of 64 bits or the
text of one (`IsBatchId`). The URL's numeral is both, and of no other number.
-/

namespace GatewayClient

open Json Json.Decoder

namespace Text

theorem isBlank_digitChar : ∀ d < 10, isBlank (digitChar d) = false := by decide

theorem isNumeral_numeral (n : Nat) : IsNumeral (numeral 10 n) n :=
  ⟨numeral_ne_nil 10 n, fun _ => isDigit_of_mem_numeral, decimalValue_numeral n⟩

theorem trim_numeral (n : Nat) : trim (numeral 10 n) = numeral 10 n := by
  have kept : ∀ cs : List Char, (∀ c ∈ cs, c ∈ numeral 10 n) → cs.dropWhile isBlank = cs := by
    intro cs among
    cases cs with
    | nil => rfl
    | cons c cs =>
      obtain ⟨d, digit, rfl⟩ := List.mem_map.mp (among c List.mem_cons_self)
      rw [List.dropWhile_cons_of_neg]
      simp [isBlank_digitChar d (lt_of_mem_digits (by decide) digit)]
  rw [trim, trimStart, kept _ (fun _ => id), trimEnd, kept _ (by simp), List.reverse_reverse]

end Text

namespace Endpoint

/-- The text behind the last equals sign of a URL. -/
def echoed (url : String) : String :=
  .ofList (url.toList.reverse.takeWhile (· ≠ '=')).reverse

/-- A configuration URL ends in the numeral of its batch. -/
theorem configureUrl_parts (server : String) (n : Nat) : ∃ front,
    configureUrl server n = front ++ "batchId=" ++ Text.decimal n := by
  refine ⟨server ++ "/sse-gateway/configure?", String.toList_inj.mp ?_⟩
  simp [configureUrl, gatewayPath]

/-- The number at the end of the URL is the batch's. -/
theorem echoed_configureUrl (server : String) (n : Nat) :
    echoed (configureUrl server n) = Text.decimal n := by
  obtain ⟨front, parts⟩ := configureUrl_parts server n
  have numeral : ∀ c ∈ (Text.numeral 10 n).reverse, decide (c ≠ '=') = true := by
    intro c member
    have digit := Text.isDigit_of_mem_numeral (List.mem_reverse.mp member)
    rw [decide_eq_true_eq]
    rintro rfl
    contradiction
  have behind : (configureUrl server n).toList =
      front.toList ++ "batchId".toList ++ '=' :: Text.numeral 10 n := by
    rw [parts]
    simp [Text.decimal]
  rw [echoed, behind, List.reverse_append, List.reverse_cons, List.append_assoc,
    List.takeWhile_append_of_pos numeral, List.singleton_append,
    List.takeWhile_cons_of_neg (by simp), List.append_nil, List.reverse_reverse, Text.decimal]

end Endpoint

namespace Acknowledgment

/-- Whether a source is a batch id: a natural number, or a text that is a numeral, perhaps behind
a plus sign, when the blanks around it are removed. -/
inductive IsBatchId (n : UInt64) : Source → Prop where
  | literal : IsBatchId n (.number (.ok (.natural n)))
  | numeral {s : String} (digits : Text.IsNumeral (Text.trim s.toList) n.toNat) :
      IsBatchId n (.string (.ok s))
  | signed {s : String} {ds : List Char} (sign : Text.trim s.toList = '+' :: ds)
      (digits : Text.IsNumeral ds n.toNat) : IsBatchId n (.string (.ok s))

/-- A batch id is decoded from what is one. -/
theorem makes_batchId_iff (context : Context) {source : Source} {n : UInt64} :
    Makes batchIdDecoder context source n ↔ IsBatchId n source := by
  have steps : Makes batchIdDecoder context source n ↔
      ∃ v, source.toValue context.room = .ok v ∧
        (v = .number (.natural n) ∨
          ∃ s, v = .string s ∧ Text.readUnsigned? (Text.trim s.toList) = some n) := by
    rw [Makes, batchIdDecoder, bind_eq_ok]
    constructor
    · rintro ⟨v, read, made⟩
      refine ⟨v, (mapError_eq_ok).mp read, ?_⟩
      split at made
      · cases made
        exact .inl rfl
      · next s =>
        split at made
        · next m found =>
          cases made
          exact .inr ⟨s, rfl, found⟩
        · contradiction
      · contradiction
    · rintro ⟨v, read, rfl | ⟨s, rfl, found⟩⟩
      · exact ⟨_, mapError_eq_ok.mpr read, rfl⟩
      · refine ⟨_, mapError_eq_ok.mpr read, ?_⟩
        simp only [found]
  rw [steps]
  constructor
  · rintro ⟨v, read, rfl | ⟨s, rfl, found⟩⟩
    · have same : source = Source.ofValue (.number (.natural n)) :=
        ((Source.Holds.read read).eq_ofValue_iff (by trivial)).mpr rfl
      rw [same]
      exact .literal
    · have same : source = Source.ofValue (.string s) :=
        ((Source.Holds.read read).eq_ofValue_iff (by trivial)).mpr rfl
      rw [same]
      rcases Text.readUnsigned?_eq_some_iff.mp found with digits | ⟨ds, sign, digits⟩
      · exact .numeral digits
      · exact .signed sign digits
  · rintro (_ | digits | ⟨sign, digits⟩)
    · exact ⟨_, rfl, .inl rfl⟩
    · exact ⟨_, rfl, .inr ⟨_, rfl, Text.readUnsigned?_eq_some_iff.mpr (.inl digits)⟩⟩
    · exact ⟨_, rfl, .inr ⟨_, rfl, Text.readUnsigned?_eq_some_iff.mpr (.inr ⟨_, sign, digits⟩)⟩⟩

/-- A source is the id of one batch only. -/
theorem IsBatchId.unique {source : Source} {m n : UInt64} (first : IsBatchId m source)
    (second : IsBatchId n source) : m = n := by
  have made := (makes_batchId_iff ⟨.text, 0⟩).mpr first
  have made' := (makes_batchId_iff ⟨.text, 0⟩).mpr second
  exact Except.ok.inj (made.symm.trans made')

/-- The fields of an acknowledgment. -/
def recordFields : List (Decoder.Field Acknowledgment) :=
  [requiredField "batchId" batchIdDecoder (fun n a => { a with batchId := n })]

theorem decoder_eq : decoder = record "ConfigureAck" recordFields ⟨0⟩ := rfl

/-- Whether members acknowledge a batch: its id comes once, in one of its forms. -/
def Acknowledged (ms : List (String × Source)) (n : UInt64) : Prop :=
  ∃ source, sourcesOf ["batchId"] ms = [source] ∧ IsBatchId n source

/-- A payload is decoded to the batch that its members acknowledge. -/
theorem read_eq_ok_iff {data : String} {ms : List (String × Source)} {n : UInt64}
    (payload : IsValue data (.object (named ms) none)) :
    read data = .ok ⟨n⟩ ↔ Acknowledged ms n := by
  have apart : Apart recordFields := by decide
  have skims := skimMembers_named.mp payload.wellFormed
  rw [read, payload.decode, decoder_eq, record_object _ (by decide)]
  refine members_eq_ok_iff_of_told (fun a => Acknowledged ms a.batchId) apart skims
    (fun a done => ?_) (fun acknowledged f listed => ?_) (fun a' first second => ?_)
  · have told := told_of_members Acknowledgment.batchId apart (.head _) (fun _ => rfl)
      (fun _ _ => rfl) (by simp [recordFields]) done
    have given := (exists_members_iff apart skims _).mp ⟨a, done⟩ _ (.head _)
    rcases told with ⟨none, -⟩ | ⟨source, one, made⟩
    · rcases given with ⟨-, optional⟩ | ⟨source, update, one, -⟩
      · contradiction
      · rw [none] at one
        contradiction
    · exact ⟨source, one, (makes_batchId_iff _).mp made⟩
  · obtain ⟨source, one, isBatchId⟩ := acknowledged
    have made := (makes_batchId_iff ⟨.text, maxDepth - 1⟩).mpr isBatchId
    rw [recordFields, List.mem_singleton] at listed
    subst listed
    exact .inr ⟨source, _, one, map_eq_ok.mpr ⟨n, made, rfl⟩⟩
  · obtain ⟨source, one, isBatchId⟩ := first
    obtain ⟨source', one', isBatchId'⟩ := second
    cases one.symm.trans one'
    exact congrArg Acknowledgment.mk (isBatchId.unique isBatchId')

/-! ## echoes -/

/-- Whether a payload sends back what a batch's URL ends in, as a literal or as a text, once among
any other members. -/
structure Echoes (server : String) (n : UInt64) (data : String) (ms : List (String × Source))
    (source : Source) : Prop where
  payload : IsValue data (.object (named ms) none)
  once : sourcesOf ["batchId"] ms = [source]
  echo : IsValue (Endpoint.echoed (Endpoint.configureUrl server n.toNat)) source ∨
    source = .string (.ok (Endpoint.echoed (Endpoint.configureUrl server n.toNat)))

variable {server data : String} {n : UInt64} {ms : List (String × Source)} {source : Source}

theorem isValue_echoed (server : String) (n : UInt64) :
    IsValue (Endpoint.echoed (Endpoint.configureUrl server n.toNat))
      (.number (.ok (.natural n))) := by
  rw [Endpoint.echoed_configureUrl]
  exact isValue_number (n := .natural n) rfl

/-- An echo is the batch's id. -/
theorem Echoes.isBatchId (echoes : Echoes server n data ms source) : IsBatchId n source := by
  rcases echoes.echo with literal | rfl
  · cases literal.unique (isValue_echoed server n)
    exact .literal
  · refine .numeral ?_
    rw [Endpoint.echoed_configureUrl, Text.decimal, String.toList_ofList, Text.trim_numeral]
    exact Text.isNumeral_numeral n.toNat

/-- A payload with the echo is decoded to the batch. -/
theorem Echoes.read (echoes : Echoes server n data ms source) :
    Acknowledgment.read data = .ok ⟨n⟩ :=
  (read_eq_ok_iff echoes.payload).mpr ⟨source, echoes.once, echoes.isBatchId⟩

/-- An object with the echo among other members, behind a text that is well-formed and read as the
echo's source. -/
theorem echoes_objectText {text : String} {before after : List (String × String)}
    {before' after' : List (String × Source)} (value : IsValue text source)
    (echo : text = Endpoint.echoed (Endpoint.configureUrl server n.toNat) ∨
      text = (Value.string (Endpoint.echoed (Endpoint.configureUrl server n.toNat))).text)
    (members : List.Forall₂ IsMember before before') (members' : List.Forall₂ IsMember after after')
    (others : ∀ m ∈ before' ++ after', m.1 ≠ "batchId") :
    Echoes server n (objectText (before ++ ("batchId", text) :: after))
      (before' ++ ("batchId", source) :: after') source where
  payload := isValue_objectText (List.rel_append members (.cons (value.member "batchId") members'))
  once := by
    have none : ∀ ms, (∀ m ∈ ms, m ∈ before' ++ after') → sourcesOf ["batchId"] ms = [] :=
      fun ms among => sourcesOf_eq_nil (fun m listed => by simpa using others m (among m listed))
    simp [sourcesOf_cons, none before' (by simp +contextual), none after' (by simp +contextual)]
  echo := by
    rcases echo with rfl | rfl
    · exact .inl value
    · exact .inr (value.unique (isValue_string _))

/-- A payload that sends back what a batch's URL ends in is decoded to that batch and to no other;
and a payload is decoded to a batch only if its `batchId` comes once and is the batch's id, as a
literal its numeral. -/
theorem echoed_and_only_echoed :
    (∀ (server : String) (n : UInt64), ∃ front, Endpoint.configureUrl server n.toNat =
      front ++ "batchId=" ++ Endpoint.echoed (Endpoint.configureUrl server n.toNat)) ∧
    (∀ server n data ms source, Echoes server n data ms source →
      read data = .ok ⟨n⟩ ∧ ∀ k, read data = .ok ⟨k⟩ → k = n) ∧
    (∀ data ms n, IsValue data (.object (named ms) none) →
      (read data = .ok ⟨n⟩ ↔ ∃ source, sourcesOf ["batchId"] ms = [source] ∧ IsBatchId n source)) ∧
    ∀ text n, IsValue text (.number (.ok (.natural n))) ↔
      ∃ before after, skipSpace before = [] ∧ skipSpace after = [] ∧
        text.toList = before ++ Text.numeral 10 n.toNat ++ after := by
  refine ⟨fun server n => ?_, fun server n data ms source echoes => ⟨echoes.read, fun k done => ?_⟩,
    fun data ms n payload => read_eq_ok_iff payload, fun text n => isValue_natural_iff⟩
  · rw [Endpoint.echoed_configureUrl]
    exact Endpoint.configureUrl_parts server n.toNat
  · exact congrArg Acknowledgment.batchId (Except.ok.inj (done.symm.trans echoes.read))

/-- The largest number, sent back as a text between other members. -/
theorem echoed_and_only_echoed_largest :
    read (objectText [("ok", Value.null.text),
        ("batchId", (Value.string (Endpoint.echoed
          (Endpoint.configureUrl "http://h?batchId=3" 18446744073709551615))).text),
        ("batchid", Value.null.text)]) = .ok ⟨18446744073709551615⟩ := by
  have absent : IsValue Value.null.text .null := Value.isValue_text trivial
  have echoes : Echoes "http://h?batchId=3" 18446744073709551615 _ _ _ :=
    echoes_objectText (isValue_string _) (.inr rfl) (.cons (absent.member "ok") .nil)
      (.cons (absent.member "batchid") .nil) (by decide)
  exact (echoed_and_only_echoed.2.1 _ _ _ _ _ echoes).1

end Acknowledgment

end GatewayClient

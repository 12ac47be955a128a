import GatewayClient.Json.Printer
import GatewayClient.Json.Source

/-!
# GatewayClient.Json.Decode

Decoding JSON into records. A decoder walks a source in the order of the text, so the
first problem in that order is the one reported: a value of the wrong type wins over a
failure of the text behind it. Records may be given as objects, where unknown members are
passed over and a field may come only once under any of its spellings, or as arrays,
where the fields come in their order and missing ones at the end keep their default.
-/

namespace GatewayClient.Json

/-! ## errors -/

/-- What was found in the place of something else. -/
inductive Found where
  | number (n : Number)
  | bool (b : Bool)
  | string (s : String)
  | null
  | map
  | sequence

/-- How a well-formed text does not fit a record. Expectations are given by their
description. -/
inductive Mismatch where
  | wrongType (found : Found) (expected : String)
  | wrongValue (found : Found) (expected : String)
  | duplicateField (name : String)
  | missingField (name : String)
  | tooShort (length : Nat) (expected : String)
  | tooLong (length : Nat)
  | noAlternative (name : String)
  | batchId (text : String)

/-- Why a text could not be decoded. -/
inductive Error where
  | text (f : Failure)
  | mismatch (m : Mismatch)

/-- The description of what was found. -/
def Found.describe : Found → String
  | number (.double x) => "floating point `" ++ (Number.double x).text ++ "`"
  | number n => "integer `" ++ n.text ++ "`"
  | bool b => "boolean `" ++ (if b then "true" else "false") ++ "`"
  | string s => "string " ++ Text.quoted s
  | null => "null"
  | map => "map"
  | sequence => "sequence"

/-- The decimal digits at the front of a text and what follows them, if there are any
digits and they are a number below `2^64`. -/
def leadingNumber? (cs : List Char) : Option (List Char) :=
  let ds := cs.takeWhile Text.isDigit
  (Text.readUnsigned? ds).map (fun _ => cs.dropWhile Text.isDigit)

/-- Removes a prefix. -/
def dropWord? : List Char → List Char → Option (List Char)
  | [], cs => some cs
  | w :: ws, c :: cs => if c = w then dropWord? ws cs else none
  | _ :: _, [] => none

/-- Whether a text is a position: `L column C` with two numbers. -/
def isPosition (cs : List Char) : Bool :=
  match (leadingNumber? cs).bind (dropWord? " column ".toList) with
  | some rest => leadingNumber? rest == some []
  | none => false

/-- The text before the last ` at line `, if a position and nothing else follows it:
a position at the end of a message is never a part of the message. -/
def withoutPosition (cs : List Char) : List Char :=
  match cs with
  | [] => []
  | c :: rest =>
    if ((dropWord? " at line ".toList cs).map isPosition).getD false then []
    else c :: withoutPosition rest

/-- The message of a mismatch. -/
def Mismatch.message : Mismatch → String
  | wrongType found expected => "invalid type: " ++ found.describe ++ ", expected " ++ expected
  | wrongValue found expected => "invalid value: " ++ found.describe ++ ", expected " ++ expected
  | duplicateField name => "duplicate field `" ++ name ++ "`"
  | missingField name => "missing field `" ++ name ++ "`"
  | tooShort length expected =>
    "invalid length " ++ Text.decimal length ++ ", expected " ++ expected
  | tooLong length =>
    "invalid length " ++ Text.decimal length ++ ", expected fewer elements in array"
  | noAlternative name => "data did not match any variant of untagged enum " ++ name
  | batchId text =>
    String.ofList (withoutPosition ("invalid batch id: " ++ text).toList)

/-! ## decoders -/

/-- Where a source comes from: a text, or a value that was read before. Only the error for
an array with too many elements depends on it. -/
inductive Origin where
  | text
  | value
deriving DecidableEq

/-- The context of a decoder: where the source comes from, and how deep arrays and objects
may still nest. -/
structure Context where
  origin : Origin
  room : Nat

/-- Decodes a source into a value of a type. -/
abbrev Decoder (α : Type) := Context → Source → Except Error α

namespace Decoder

/-- The error of a failed text. -/
def fail {α : Type} (f : Failure) : Except Error α := .error (.text f)

/-- The error for a source of the wrong type. A number or string is read first and fails
if it cannot be read; an array or object is not looked into. -/
def wrongType {α : Type} (expected : String) : Source → Except Error α
  | .null => .error (.mismatch (.wrongType .null expected))
  | .bool b => .error (.mismatch (.wrongType (.bool b) expected))
  | .number (.ok n) => .error (.mismatch (.wrongType (.number n) expected))
  | .number (.error f) => fail f
  | .string (.ok s) => .error (.mismatch (.wrongType (.string s) expected))
  | .string (.error f) => fail f
  | .array _ _ => .error (.mismatch (.wrongType .sequence expected))
  | .object _ _ => .error (.mismatch (.wrongType .map expected))
  | .broken f _ => fail f

/-- A string. -/
def string : Decoder String := fun _ source =>
  match source with
  | .string (.ok s) => .ok s
  | _ => wrongType "a string" source

/-- A truth value. -/
def bool : Decoder Bool := fun _ source =>
  match source with
  | .bool b => .ok b
  | _ => wrongType "a boolean" source

/-- An unsigned integer of 64 bits. -/
def unsigned : Decoder UInt64 := fun _ source =>
  match source with
  | .number (.ok (.natural n)) => .ok n
  | .number (.ok (.negative n)) =>
    .error (.mismatch (.wrongValue (.number (.negative n)) "u64"))
  | _ => wrongType "u64" source

/-- A value or `null`. -/
def nullable {α : Type} (d : Decoder α) : Decoder (Option α) := fun context source =>
  match source with
  | .null => .ok none
  | _ => (d context source).map some

/-- The context inside an array or object. -/
def enter (context : Context) : Except Error Context :=
  if context.room = 0 then fail .malformed else .ok { context with room := context.room - 1 }

/-- The elements of an array, up to its end. -/
def elements {α : Type} (d : Decoder α) (context : Context) :
    List Source → Option Failure → Except Error (List α)
  | [], close => close.elim (.ok []) fail
  | item :: items, close => do
    let a ← d context item
    let as ← elements d context items close
    return a :: as

/-- An array of values of one type. -/
def list {α : Type} (d : Decoder α) : Decoder (List α) := fun context source =>
  match source with
  | .array items close => do elements d (← enter context) items close
  | _ => wrongType "a sequence" source

/-- The fields of an object with values of any kind. -/
def fields : Decoder Fields := fun context source =>
  match source with
  | .object members close => do
    let inside ← enter context
    (Source.toFields inside.room [] members close).mapError .text
  | _ => wrongType "a map" source

/-! ## records -/

/-- A field of a record `ρ`: its name, its other spellings, whether it has to be there, and
how its value is set. -/
structure Field (ρ : Type) where
  name : String
  aliases : List String
  required : Bool
  set : Decoder (ρ → ρ)

/-- A field with a default. -/
def field {ρ α : Type} (name : String) (d : Decoder α) (set : α → ρ → ρ)
    (aliases : List String) : Field ρ :=
  { name, aliases, required := false, set := fun context source => (d context source).map set }

/-- A field that has to be there. -/
def requiredField {ρ α : Type} (name : String) (d : Decoder α) (set : α → ρ → ρ) : Field ρ :=
  { name, aliases := [], required := true, set := fun context source => (d context source).map set }

/-- The field that a key spells. -/
def Field.named? {ρ : Type} (fields : List (Field ρ)) (key : String) : Option (Field ρ) :=
  fields.find? (fun f => f.name == key || f.aliases.contains key)

/-- Sets the fields of a record from the members of an object, up to its end. A second
member for a field is refused before its value is looked at; a member of no field is passed
over. -/
def members {ρ : Type} (fields : List (Field ρ)) (context : Context) :
    List (Except Failure String × Source) → Option Failure → List String → ρ → Except Error ρ
  | [], some f, _, _ => fail f
  | [], none, seen, record =>
    match fields.find? (fun f => f.required && !seen.contains f.name) with
    | some f => .error (.mismatch (.missingField f.name))
    | none => .ok record
  | (.error f, _) :: _, _, _, _ => fail f
  | (.ok key, value) :: rest, close, seen, record =>
    match Field.named? fields key with
    | some f =>
      if seen.contains f.name then .error (.mismatch (.duplicateField f.name))
      else do
        let set ← f.set context value
        members fields context rest close (f.name :: seen) (set record)
    | none =>
      match value.skim with
      | some failure => fail failure
      | none => members fields context rest close seen record

/-- The description of a record as an array of `n` elements. -/
def describeElements (structName : String) (n : Nat) : String :=
  structName ++ " with " ++ Text.decimal n ++ (if n = 1 then " element" else " elements")

/-- Sets the fields of a record from the elements of an array, up to its end. `expected`
describes the array and `length` is the number of its elements, for the errors if there are
too few or too many. -/
def positions {ρ : Type} (expected : String) (context : Context) (length : Nat) :
    List (Field ρ) → List Source → Option Failure → ρ → Except Error ρ
  | [], [], close, record => close.elim (.ok record) fail
  | [], _ :: _, _, _ =>
    match context.origin with
    | .text => fail .malformed
    | .value => .error (.mismatch (.tooLong length))
  | _ :: _, [], some f, _ => fail f
  | f :: fields, [], none, record =>
    if f.required then .error (.mismatch (.tooShort length expected))
    else positions expected context length fields [] none record
  | f :: fields, item :: items, close, record => do
    let set ← f.set context item
    positions expected context length fields items close (set record)

/-- A record: an object of its fields, or an array of them in their order. -/
def record {ρ : Type} (name : String) (fields : List (Field ρ)) (default : ρ) : Decoder ρ :=
  fun context source =>
    let structName := "struct " ++ name
    match source with
    | .object ms close => do members fields (← enter context) ms close [] default
    | .array items close => do
      positions (describeElements structName fields.length) (← enter context) items.length
        fields items close default
    | _ => wrongType structName source

/-! ## running -/

/-- Decodes a text. Nothing but spaces may follow the value. -/
def read {α : Type} (d : Decoder α) (text : String) : Except Error α := do
  let document := Document.read text
  let a ← d ⟨.text, maxDepth⟩ document.root
  if document.trailing then fail .malformed else return a

/-- Decodes a value. -/
def ofValue {α : Type} (d : Decoder α) (value : Value) : Except Error α :=
  d ⟨.value, maxDepth + 1⟩ (Source.ofValue value)

end Decoder

end GatewayClient.Json

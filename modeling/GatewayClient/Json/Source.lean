import GatewayClient.Json.Literal

/-!
# GatewayClient.Json.Source

The structure of a JSON text as far as it goes. A `Source` is a tree with the failures of
the text as leaves, in their places: what stands before a failure is still there, so that
whoever walks the tree in the order of the text meets the first problem first, be it a
failure of the text or a value that does not fit. Two walks are defined here: `toValue`
reads the whole value, `skim` passes over it.
-/

namespace GatewayClient.Json

/-- The structure of a JSON text. A `broken` leaf ends the text; `close` says whether the
closing bracket was found, and is of no concern after a broken leaf. A comma promises
another item or member: where none follows there is a broken one. -/
inductive Source where
  | null
  | bool (b : Bool)
  | number (n : Except Failure Number)
  | string (s : Except Failure String)
  | array (items : List Source) (close : Option Failure)
  | object (members : List (Except Failure String × Source)) (close : Option Failure)
  | broken (strict skim : Failure)

instance : Inhabited Source := ⟨.null⟩

/-! ## reading a text -/

/-- Whether a character separates tokens: space, tab, line feed or carriage return. -/
def isSpace (c : Char) : Bool := c == ' ' || c == '\t' || c == '\n' || c == '\r'

/-- The text from its first character that is no space. -/
def skipSpace (cs : List Char) : List Char := cs.dropWhile isSpace

/-- What stands at the front of a text, and the rest of the text unless it is broken. -/
abbrev Reading := Source × Option (List Char)

/-- The failure of a reading. -/
def failure? {α : Type} : Except Failure α → Option Failure
  | .ok _ => none
  | .error f => some f

/-- A text that breaks off in the same way for every reader. -/
def brokenReading (f : Failure) : Reading := (.broken f f, none)

/-- The letters of a fixed word. -/
def readWord : List Char → List Char → Except Failure (List Char)
  | [], cs => .ok cs
  | _ :: _, [] => .error .unfinished
  | w :: ws, c :: cs => if c = w then readWord ws cs else .error .malformed

/-- A fixed word that stands for a value. -/
def wordReading (word : String) (value : Source) (cs : List Char) : Reading :=
  match readWord word.toList cs with
  | .ok rest => (value, some rest)
  | .error f => brokenReading f

/-- A number. -/
def numberReading (cs : List Char) : Reading :=
  match readNumber cs with
  | .ok p => (.number p.value, some p.rest)
  | .error b => (.broken b.strict b.skim, none)

/-- A string, after its opening quote. -/
def stringReading (cs : List Char) : Reading :=
  match readString cs with
  | .ok p => (.string p.value, some p.rest)
  | .error b => (.broken b.strict b.skim, none)

mutual

/-- A value. The fuel bounds the length of the text. -/
def readValue : Nat → List Char → Reading
  | 0, _ => brokenReading .unfinished
  | fuel + 1, cs =>
    match skipSpace cs with
    | [] => brokenReading .unfinished
    | '"' :: rest => stringReading rest
    | '[' :: rest =>
      match skipSpace rest with
      | ']' :: rest => (.array [] none, some rest)
      | [] => (.array [] (some .unfinished), none)
      | rest =>
        let (items, close) := readItems fuel rest
        (.array items (failure? close), close.toOption)
    | '\x7b' :: rest =>
      match skipSpace rest with
      | '\x7d' :: rest => (.object [] none, some rest)
      | [] => (.object [] (some .unfinished), none)
      | rest =>
        let (members, close) := readMembers fuel rest
        (.object members (failure? close), close.toOption)
    | 'n' :: rest => wordReading "ull" .null rest
    | 't' :: rest => wordReading "rue" (.bool true) rest
    | 'f' :: rest => wordReading "alse" (.bool false) rest
    | c :: rest =>
      if c = '-' ∨ Text.isDigit c then numberReading (c :: rest) else brokenReading .malformed

/-- One or more items up to the closing bracket, and the rest of the text behind it. -/
def readItems : Nat → List Char → List Source × Except Failure (List Char)
  | 0, _ => ([.broken .unfinished .unfinished], .error .unfinished)
  | fuel + 1, cs =>
    match readValue fuel cs with
    | (item, none) => ([item], .error .malformed)
    | (item, some rest) =>
      match skipSpace rest with
      | [] => ([item], .error .unfinished)
      | ']' :: rest => ([item], .ok rest)
      | ',' :: rest =>
        let (items, close) := readItems fuel rest
        (item :: items, close)
      | _ => ([item], .error .malformed)

/-- One or more members up to the closing brace, and the rest of the text behind it. -/
def readMembers : Nat → List Char →
    List (Except Failure String × Source) × Except Failure (List Char)
  | 0, _ => ([(.error .unfinished, .broken .unfinished .unfinished)], .error .unfinished)
  | fuel + 1, cs =>
    match skipSpace cs with
    | [] => ([(.error .unfinished, .broken .unfinished .unfinished)], .error .unfinished)
    | '"' :: rest =>
      match readString rest with
      | .error b => ([(.error b.strict, .broken b.strict b.skim)], .error .malformed)
      | .ok key =>
        match skipSpace key.rest with
        | [] => ([(key.value, .broken .unfinished .unfinished)], .error .unfinished)
        | ':' :: rest =>
          match readValue fuel rest with
          | (value, none) => ([(key.value, value)], .error .malformed)
          | (value, some rest) =>
            match skipSpace rest with
            | [] => ([(key.value, value)], .error .unfinished)
            | '\x7d' :: rest => ([(key.value, value)], .ok rest)
            | ',' :: rest =>
              let (members, close) := readMembers fuel rest
              ((key.value, value) :: members, close)
            | _ => ([(key.value, value)], .error .malformed)
        | _ => ([(key.value, .broken .malformed .malformed)], .error .malformed)
    | _ => ([(.error .malformed, .broken .malformed .malformed)], .error .malformed)

end

/-- A whole text: its value, and whether anything but spaces follows it. -/
structure Document where
  root : Source
  trailing : Bool

/-- The structure of a text. -/
def Document.read (text : String) : Document :=
  let cs := text.toList
  let (root, rest) := readValue (2 * cs.length + 2) cs
  { root, trailing := rest.any (fun r => !(skipSpace r).isEmpty) }

/-! ## passing over -/

mutual

/-- The failure that passing over a value meets, if any. -/
def Source.skim : Source → Option Failure
  | .array items close => Source.skimItems items close
  | .object members close => Source.skimMembers members close
  | .broken _ skim => some skim
  | _ => none

/-- Passes over items and the closing bracket. -/
def Source.skimItems : List Source → Option Failure → Option Failure
  | [], close => close
  | item :: items, close => item.skim.or (Source.skimItems items close)

/-- Passes over members and the closing brace. -/
def Source.skimMembers : List (Except Failure String × Source) → Option Failure → Option Failure
  | [], close => close
  | (_, value) :: members, close => value.skim.or (Source.skimMembers members close)

end

/-! ## reading the value -/

/-- How deep arrays and objects may nest. -/
def maxDepth : Nat := 127

mutual

/-- The value of a source in which arrays and objects nest at most `room` deep. -/
def Source.toValue : (room : Nat) → Source → Except Failure Value
  | _, .null => .ok .null
  | _, .bool b => .ok (.bool b)
  | _, .number n => n.map .number
  | _, .string s => s.map .string
  | room, .array items close =>
    if room = 0 then .error .malformed
    else (Source.toItems (room - 1) items close).map .array
  | room, .object members close =>
    if room = 0 then .error .malformed
    else (Source.toFields (room - 1) [] members close).map .object
  | _, .broken strict _ => .error strict

/-- The values of items. -/
def Source.toItems : (room : Nat) → List Source → Option Failure → Except Failure (List Value)
  | _, [], close => close.elim (.ok []) .error
  | room, item :: items, close => do
    let v ← item.toValue room
    let vs ← Source.toItems room items close
    return v :: vs

/-- The fields of members, added to those read before. Of several members with one key
the last one counts. -/
def Source.toFields : (room : Nat) → Fields → List (Except Failure String × Source) →
    Option Failure → Except Failure Fields
  | _, fields, [], close => close.elim (.ok fields) .error
  | room, fields, (key, value) :: members, close => do
    let k ← key
    let v ← value.toValue room
    Source.toFields room (Fields.insert k v fields) members close

end

/-- The value of a text. -/
def Value.read (text : String) : Except Failure Value := do
  let document := Document.read text
  let value ← document.root.toValue maxDepth
  if document.trailing then .error .malformed else return value

/-! ## the source of a value -/

mutual

/-- The source that a value has as a text. -/
def Source.ofValue : Value → Source
  | .null => .null
  | .bool b => .bool b
  | .number n => .number (.ok n)
  | .string s => .string (.ok s)
  | .array vs => .array (Source.ofItems vs) none
  | .object fs => .object (Source.ofFields fs) none

/-- The sources of items. -/
def Source.ofItems : List Value → List Source
  | [] => []
  | v :: vs => Source.ofValue v :: Source.ofItems vs

/-- The sources of fields. -/
def Source.ofFields : List (String × Value) → List (Except Failure String × Source)
  | [] => []
  | (k, v) :: fs => (.ok k, Source.ofValue v) :: Source.ofFields fs

end

end GatewayClient.Json

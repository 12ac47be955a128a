import GatewayClient.Decimal.Binary64

/-!
# GatewayClient.Json.Value

JSON values. A number is a whole number of 64 bits or a finite 64-bit floating-point
number; an object is a list of fields in strictly increasing order of their keys, so
that equal objects are equal lists (`Value.Sorted` says it for every object inside a
value). Keys are ordered by code points, which is also the order of their UTF-8 bytes.
-/

namespace GatewayClient.Json

open Decimal (Binary64)

/-- How many whole numbers of 64 bits are negative: `2^63`. -/
abbrev Number.negativeCount : Nat := 9223372036854775808

/-- A JSON number. `negative n` stands for `-(n + 1)`, so that every whole number from
`-2^63` up to `2^64 - 1` has exactly one form. -/
inductive Number where
  | natural (n : UInt64)
  | negative (n : Fin Number.negativeCount)
  | double (x : Binary64)
deriving DecidableEq

namespace Number

/-- The whole number that a number stands for, if it was written as one. -/
def toInt? : Number → Option Int
  | natural n => some n.toNat
  | negative n => some (-(n.val + 1 : Int))
  | double _ => none

/-- Numeric equality: as equality, except that the two zeros of a floating-point
number are the same. -/
def sameValue : Number → Number → Bool
  | double x, double y => x.sameValue y
  | m, n => m == n

end Number

/-- A JSON value. -/
inductive Value where
  | null
  | bool (b : Bool)
  | number (n : Number)
  | string (s : String)
  | array (items : List Value)
  | object (fields : List (String × Value))

instance : Inhabited Value := ⟨.null⟩

/-- The fields of an object, keys in increasing order. -/
abbrev Fields := List (String × Value)

/-! ## equality -/

mutual

/-- Decides equality of two values. -/
def Value.decEq : (a b : Value) → Decidable (a = b)
  | .null, .null => isTrue rfl
  | .bool a, .bool b => if h : a = b then isTrue (h ▸ rfl) else isFalse (by simpa using h)
  | .number a, .number b => if h : a = b then isTrue (h ▸ rfl) else isFalse (by simpa using h)
  | .string a, .string b => if h : a = b then isTrue (h ▸ rfl) else isFalse (by simpa using h)
  | .array a, .array b =>
    match Value.decEqItems a b with
    | isTrue h => isTrue (h ▸ rfl)
    | isFalse h => isFalse (by simpa using h)
  | .object a, .object b =>
    match Value.decEqFields a b with
    | isTrue h => isTrue (h ▸ rfl)
    | isFalse h => isFalse (by simpa using h)
  | .null, .bool _ | .null, .number _ | .null, .string _ | .null, .array _ | .null, .object _
  | .bool _, .null | .bool _, .number _ | .bool _, .string _ | .bool _, .array _
  | .bool _, .object _ | .number _, .null | .number _, .bool _ | .number _, .string _
  | .number _, .array _ | .number _, .object _ | .string _, .null | .string _, .bool _
  | .string _, .number _ | .string _, .array _ | .string _, .object _ | .array _, .null
  | .array _, .bool _ | .array _, .number _ | .array _, .string _ | .array _, .object _
  | .object _, .null | .object _, .bool _ | .object _, .number _ | .object _, .string _
  | .object _, .array _ => isFalse (by simp)

/-- Decides equality of two lists of values. -/
def Value.decEqItems : (a b : List Value) → Decidable (a = b)
  | [], [] => isTrue rfl
  | a :: as, b :: bs =>
    match Value.decEq a b, Value.decEqItems as bs with
    | isTrue h, isTrue k => isTrue (h ▸ k ▸ rfl)
    | isFalse h, _ => isFalse (fun e => h (List.cons.inj e).1)
    | _, isFalse k => isFalse (fun e => k (List.cons.inj e).2)
  | [], _ :: _ | _ :: _, [] => isFalse (by simp)

/-- Decides equality of two lists of fields. -/
def Value.decEqFields : (a b : List (String × Value)) → Decidable (a = b)
  | [], [] => isTrue rfl
  | (j, a) :: as, (k, b) :: bs =>
    if hk : j = k then
      match Value.decEq a b, Value.decEqFields as bs with
      | isTrue h, isTrue l => isTrue (hk ▸ h ▸ l ▸ rfl)
      | isFalse h, _ => isFalse (fun e => h (Prod.mk.inj (List.cons.inj e).1).2)
      | _, isFalse l => isFalse (fun e => l (List.cons.inj e).2)
    else isFalse (fun e => hk (Prod.mk.inj (List.cons.inj e).1).1)
  | [], _ :: _ | _ :: _, [] => isFalse (by simp)

end

instance : DecidableEq Value := Value.decEq

mutual

/-- Equality of values with numbers compared as numbers. -/
def Value.sameValue : Value → Value → Bool
  | .number a, .number b => a.sameValue b
  | .array a, .array b => Value.sameItems a b
  | .object a, .object b => Value.sameFields a b
  | a, b => a == b

/-- Equality of lists of values with numbers compared as numbers. -/
def Value.sameItems : List Value → List Value → Bool
  | [], [] => true
  | a :: as, b :: bs => a.sameValue b && Value.sameItems as bs
  | _, _ => false

/-- Equality of lists of fields with numbers compared as numbers. -/
def Value.sameFields : List (String × Value) → List (String × Value) → Bool
  | [], [] => true
  | (j, a) :: as, (k, b) :: bs => j == k && a.sameValue b && Value.sameFields as bs
  | _, _ => false

end

/-! ## fields -/

namespace Fields

/-- The value of a key. -/
def get? (fs : Fields) (key : String) : Option Value := List.lookup key fs

/-- Sets the value of a key. -/
def insert (key : String) (value : Value) : Fields → Fields
  | [] => [(key, value)]
  | (k, v) :: rest =>
    if key < k then (key, value) :: (k, v) :: rest
    else if key = k then (key, value) :: rest
    else (k, v) :: insert key value rest

/-- The fields of a list of pairs in any order; of several values of one key the last
one counts. -/
def ofList (pairs : List (String × Value)) : Fields :=
  pairs.foldl (fun fs (k, v) => insert k v fs) []

/-- Sets all fields of `source` in `target`. -/
def insertAll (target source : Fields) : Fields :=
  source.foldl (fun fs (k, v) => insert k v fs) target

/-- The keys are in strictly increasing order. -/
def Sorted (fs : Fields) : Prop := (fs.map Prod.fst).Pairwise (· < ·)

/-- Setting a key makes its value the one that was set. -/
@[simp] theorem get?_insert_self (fs : Fields) (key : String) (value : Value) :
    get? (insert key value fs) key = some value := by
  induction fs with
  | nil => simp [insert, get?]
  | cons f rest ih =>
    obtain ⟨k, v⟩ := f
    unfold insert
    split
    · simp [get?]
    · split
      · simp [get?]
      · next hne =>
        have : (key == k) = false := by simpa using hne
        simpa [get?, List.lookup_cons, this] using ih

/-- Setting a key leaves every other key as it was. -/
theorem get?_insert_of_ne {fs : Fields} {key other : String} (value : Value)
    (h : other ≠ key) : get? (insert key value fs) other = get? fs other := by
  have h' : (other == key) = false := by simpa using h
  induction fs with
  | nil => simp [insert, get?, List.lookup_cons, h']
  | cons f rest ih =>
    obtain ⟨k, v⟩ := f
    unfold insert
    split
    · simp [get?, List.lookup_cons, h']
    · split
      · next he => subst he; simp [get?, List.lookup_cons, h']
      · simp only [get?, List.lookup_cons] at ih ⊢
        split <;> simp_all

end Fields

mutual

/-- Every object inside the value has its keys in strictly increasing order. -/
def Value.Sorted : Value → Prop
  | .array items => Value.ItemsSorted items
  | .object fields => Fields.Sorted fields ∧ Value.FieldsSorted fields
  | _ => True

/-- Every value of the list is sorted. -/
def Value.ItemsSorted : List Value → Prop
  | [] => True
  | v :: vs => v.Sorted ∧ Value.ItemsSorted vs

/-- Every value of the fields is sorted. -/
def Value.FieldsSorted : List (String × Value) → Prop
  | [] => True
  | (_, v) :: fs => v.Sorted ∧ Value.FieldsSorted fs

end

namespace Value

/-- The text of a string. -/
def asString? : Value → Option String
  | string s => some s
  | _ => none

/-- The fields of an object. -/
def asFields? : Value → Option Fields
  | object fs => some fs
  | _ => none

/-- Whether the value is `null`. -/
def isNull : Value → Bool
  | null => true
  | _ => false

end Value

end GatewayClient.Json

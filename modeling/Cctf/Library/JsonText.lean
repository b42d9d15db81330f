import Mathlib.Algebra.Group.Int.Defs
import Mathlib.Data.List.Basic

/-!
# The text of a JSON document, and its readers

A document as it is written: every member of an object in its place, also one whose key
is repeated, and numbers as the kind of literal they are.  Two readers look at the same
text: one keeps everything as a value, the other looks for the fields of a struct and
skips the rest.

* `JsonText` — a document.
* `JsonValue` — what the value reader keeps: nothing unreadable, and not too deep.
* `JsonText.get?` — the member of a value under a key, the last one if it is repeated.
* `JsonText.asI64?`, `JsonText.asString`, `JsonText.asI64` — reading a number or a string.
* `Serialize`, `Deserialize` — what a type is written as, and how it is read.
-/

/-- A JSON document. -/
inductive JsonText where
  | null
  | bool (b : Bool)
  /-- An integer literal of any size, other than `-0`. -/
  | int (n : ℤ)
  /-- Another number that a double can hold. -/
  | float
  /-- A number out of the range of a double, or a string that is not Unicode. -/
  | unreadable
  | string (s : String)
  | array (items : List JsonText)
  | object (members : List (String × JsonText))

/-- Why a document could not be read. -/
inductive JsonError where
  | syntaxError (reason : String)
  | unreadable
  | invalidType
  | invalidValue
  | invalidLength (len : ℕ)
  | missingField (name : String)
  | duplicateField (name : String)
  deriving DecidableEq, Repr

namespace JsonText

/-! ## Values -/

mutual

/-- Can a value hold the document, nested at most so deep? -/
def readableAt (depth : ℕ) : JsonText → Bool
  | .unreadable => false
  | .array items => 0 < depth && allReadable (depth - 1) items
  | .object members => 0 < depth && allMembersReadable (depth - 1) members
  | _ => true

/-- Can a value hold every item? -/
def allReadable (depth : ℕ) : List JsonText → Bool
  | [] => true
  | t :: ts => readableAt depth t && allReadable depth ts

/-- Can a value hold every member? -/
def allMembersReadable (depth : ℕ) : List (String × JsonText) → Bool
  | [] => true
  | (_, t) :: ms => readableAt depth t && allMembersReadable depth ms

end

/-- Can a value hold the document?  Its arrays and objects are nested at most 127 deep. -/
def readable (t : JsonText) : Bool := t.readableAt 127

/-- The value of the last member with the key. -/
def lastMember (key : String) (members : List (String × JsonText)) : Option JsonText :=
  ((members.filter fun m => m.1 = key).map Prod.snd).getLast?

/-- `Value::get` with a string: the member of an object, the last one if its key is
repeated. -/
def get? (key : String) : JsonText → Option JsonText
  | .object members => lastMember key members
  | _ => none

/-- `Value::as_i64`: an integer that fits. -/
def asI64? : JsonText → Option Int64
  | .int n => if -2 ^ 63 ≤ n ∧ n < 2 ^ 63 then some (.ofInt n) else none
  | _ => none

/-! ## Fields -/

/-- Read an `i64`.  An integer literal that fits in no 64-bit type is a float. -/
def asI64 (t : JsonText) : Except JsonError Int64 :=
  match t.asI64?, t with
  | some n, _ => .ok n
  | none, .int n => .error (if 0 ≤ n ∧ n < 2 ^ 64 then .invalidValue else .invalidType)
  | none, .unreadable => .error .unreadable
  | none, _ => .error .invalidType

/-- Read a `String`. -/
def asString : JsonText → Except JsonError String
  | .string s => .ok s
  | .unreadable => .error .unreadable
  | _ => .error .invalidType

/-- Read an `Option<String>`. -/
def asOptionString : JsonText → Except JsonError (Option String)
  | .null => .ok none
  | t => t.asString.map some

@[simp] theorem asI64?_int_toInt (n : Int64) : asI64? (.int n.toInt) = some n := by
  rw [asI64?, if_pos ⟨n.le_toInt, n.toInt_lt⟩, Int64.ofInt_toInt]

@[simp] theorem asI64_int_toInt (n : Int64) : asI64 (.int n.toInt) = .ok n := by
  simp only [asI64, asI64?_int_toInt]

/-- The integers that fit are read as themselves. -/
theorem asI64?_eq_some_iff {t : JsonText} {n : Int64} : t.asI64? = some n ↔ t = .int n.toInt := by
  constructor
  · intro h
    cases t with
    | int m =>
      rw [asI64?, Option.ite_none_right_eq_some] at h
      obtain ⟨⟨hge, hlt⟩, hm⟩ := h
      rw [← Option.some.inj hm, Int64.toInt_ofInt_of_le hge hlt]
    | _ => cases h
  · rintro rfl
    exact asI64?_int_toInt n

theorem asI64_eq_ok_iff {t : JsonText} {n : Int64} : t.asI64 = .ok n ↔ t = .int n.toInt := by
  rw [← asI64?_eq_some_iff]
  cases ht : t.asI64? with
  | some m => simp [asI64, ht]
  | none =>
    cases t <;> simp [asI64, ht]

theorem asString_eq_ok_iff {t : JsonText} {s : String} : t.asString = .ok s ↔ t = .string s := by
  cases t <;> simp [asString]

end JsonText

/-! ## Types -/

/-- A `serde_json::Value`: a document that a value can hold. -/
structure JsonValue where
  text : JsonText
  readable : text.readable = true

/-- How a type is written. -/
class Serialize (P : Type) where
  /-- The document of a value. -/
  serialize : P → Except JsonError JsonText

/-- How a type is read. -/
class Deserialize (P : Type) where
  /-- The value of a document. -/
  deserialize : JsonText → Except JsonError P

/-- A document is written as it is. -/
instance : Serialize JsonText := ⟨.ok⟩

/-- A value is read from every document that it can hold. -/
instance : Deserialize JsonValue where
  deserialize t := if h : t.readable = true then .ok ⟨t, h⟩ else .error .unreadable

import Cctf.Types.Records

/-!
# JSON columns

The `serde_json::Value` a record is turned into before it is stored, as the derived
`Serialize` writes it: a struct is an object, a variant without data its name, a
variant with data an object with its name as the only key.

* `Json` — a value; the fields of an object are sorted by their keys; `Json.texts` are its texts.
* `FlagValidator.toValue` and the other `toValue`s — `serde_json::to_value`.
* `FromValue` — `serde_json::from_value`, as a parameter.
-/

namespace Cctf

/-- A JSON value. -/
inductive Json where
  | null
  | bool (b : Bool)
  | number (q : ℚ)
  | string (s : String)
  | array (items : List Json)
  | object (fields : List (String × Json))

namespace Json

/-- A variant with data. -/
def tagged (variant : String) (content : Json) : Json := .object [(variant, content)]

/-- A `u32`. -/
def ofU32 (n : UInt32) : Json := .number n.toNat

/-- A list, item by item. -/
def ofList {α : Type} (toValue : α → Json) (items : List α) : Json := .array (items.map toValue)

/-- An optional value. -/
def ofOption {α : Type} (toValue : α → Json) : Option α → Json
  | none => .null
  | some a => toValue a

mutual

/-- The texts of a value, the keys of its objects included. -/
def texts : Json → List String
  | .null => []
  | .bool _ => []
  | .number _ => []
  | .string s => [s]
  | .array items => textsOfItems items
  | .object fields => textsOfFields fields

/-- The texts of the items of an array. -/
def textsOfItems : List Json → List String
  | [] => []
  | item :: rest => texts item ++ textsOfItems rest

/-- The texts of the fields of an object. -/
def textsOfFields : List (String × Json) → List String
  | [] => []
  | field :: rest => textsOfField field ++ textsOfFields rest

/-- The key of a field, and the texts of its value. -/
def textsOfField : String × Json → List String
  | (key, value) => key :: texts value

end

end Json

open Json

mutual

/-- The value of a flag validator. -/
def FlagValidator.toValue : FlagValidator → Json
  | .static flag => tagged "Static" (.string flag)
  | .regex pattern => tagged "Regex" (.string pattern)
  | .script content => tagged "Script" (.string content)
  | .instanced => .string "Instanced"
  | .multi flags => tagged "Multi" (.array (PartialFlag.toValues flags))

/-- The values of the parts of a `Multi` flag. -/
def PartialFlag.toValues : List PartialFlag → List Json
  | [] => []
  | f :: fs => PartialFlag.toValue f :: PartialFlag.toValues fs

/-- The value of one part. -/
def PartialFlag.toValue : PartialFlag → Json
  | ⟨id, validator, weight⟩ => .object
      [("id", .string id), ("validator", FlagValidator.toValue validator),
        ("weight", .number weight)]

end

/-- The value of a hint's cost. -/
def HintCost.toValue : HintCost → Json
  | .fixed cost => tagged "Fixed" (ofU32 cost)
  | .script content => tagged "Script" (.string content)

/-- The value of a hint. -/
def ChallengeHint.toValue (hint : ChallengeHint) : Json :=
  .object [("content", .string hint.content), ("cost", hint.cost.toValue)]

/-- The value of a file. -/
def ChallengeFile.toValue (file : ChallengeFile) : Json :=
  .object [("checksum_sha256", ofOption .string file.checksumSha256), ("name", .string file.name),
    ("url", .string file.url)]

/-- The value of a requirement. -/
def ChallengeRequirement.toValue : ChallengeRequirement → Json
  | .solve id => tagged "Solve" (.string id)

/-- The value of a deployment. -/
def ChallengeDeployment.toValue : ChallengeDeployment → Json
  | .none => .string "None"
  | .shared url => tagged "Shared" (.object [("url", .string url)])
  | .instanced => .string "Instanced"

/-- The value of what a locked challenge shows. -/
def LockedReveal.toValue (reveal : LockedReveal) : Json :=
  .object [("category", .bool reveal.category), ("connection_info", .bool reveal.connectionInfo),
    ("description", .bool reveal.description), ("files", .bool reveal.files),
    ("hints", .bool reveal.hints), ("points", .bool reveal.points),
    ("requirements", .bool reveal.requirements), ("tags", .bool reveal.tags)]

/-- The value of a visibility. -/
def ChallengeVisibility.toValue : ChallengeVisibility → Json
  | .visible => .string "Visible"
  | .hidden => .string "Hidden"
  | .locked reveal => tagged "Locked" reveal.toValue

/-- The value of a way of counting attempts. -/
def AttemptCountMode.toValue : AttemptCountMode → Json
  | .all => .string "All"
  | .unique => .string "Unique"
  | .incorrectOnly => .string "IncorrectOnly"
  | .uniqueIncorrect => .string "UniqueIncorrect"

/-- The value of an attempt limit. -/
def MaxAttempts.toValue (maxAttempts : MaxAttempts) : Json :=
  .object [("limit", ofU32 maxAttempts.limit), ("mode", maxAttempts.mode.toValue)]

/-- `serde_json::from_value` at the types of the columns; an error is its text. -/
structure FromValue where
  flag : Json → Except String FlagValidator
  hints : Json → Except String (List ChallengeHint)
  files : Json → Except String (List ChallengeFile)
  tags : Json → Except String (List String)
  requirements : Json → Except String (List ChallengeRequirement)
  deployment : Json → Except String ChallengeDeployment
  visibility : Json → Except String ChallengeVisibility
  maxAttempts : Json → Except String MaxAttempts

end Cctf

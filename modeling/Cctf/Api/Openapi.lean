import Cctf.Library.Text
import Cctf.Types.Json

/-!
# The API specification

The specification is served in the language of the reader: a text in it may be the key of a
message, and is then replaced by the message.

* `isTextKey` — the keys of an object that hold texts.
* `localizeText` — a text with its message, if it is the key of one.
* `localizeEntry`, `localizeSpec` — the walk over the document.
-/

namespace Cctf

/-- The keys that hold texts. -/
def isTextKey (key : String) : Bool :=
  key == "summary" || key == "description" || key == "title"

/-- The bundle of messages: the message for a key in a language, empty without one. -/
abbrev Lookup : Type := (lang : String) → (key : String) → String

section

variable (lookup : Lookup) (lang : String)

/-- A text without whitespace, and the message for it that says something else. -/
def localizeText (s : String) : String :=
  if s.toList.any Text.isWhitespace then s
  else if lookup lang s ≠ "" ∧ lookup lang s ≠ s then lookup lang s else s

/-- What is stored under a key that holds texts: only a text is looked at. -/
def localizeEntry : Json → Json
  | .string s => .string (localizeText lookup lang s)
  | value => value

mutual

/-- `localize_spec`. -/
def localizeSpec : Json → Json
  | .object fields => .object (localizeFields fields)
  | .array items => .array (localizeItems items)
  | value => value

/-- The loop over the entries of an object. -/
def localizeFields : List (String × Json) → List (String × Json)
  | [] => []
  | (key, value) :: fields =>
    (key, if isTextKey key then localizeEntry lookup lang value else localizeSpec value) ::
      localizeFields fields

/-- The loop over the items of an array. -/
def localizeItems : List Json → List Json
  | [] => []
  | item :: items => localizeSpec item :: localizeItems items

end

end

end Cctf

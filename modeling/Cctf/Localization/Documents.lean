import Cctf.Api.Openapi

/-!
# Which texts of a document are replaced

A key that holds texts may also be the name of something else, such as a property of a schema
that is called `description`.  What is stored there is an object, with texts of its own.

* `localized` — the document with every text replaced, wherever it is.
* `hasText`, `localized_eq_self_iff` — there is something to replace.
* `skipsText` — an object or an array is stored under a key that holds texts, with something to
  replace in it.
* `localizeSpec_iff` — **every text is replaced exactly when nothing is skipped**.
* `description_kept` — a property of a schema whose text stays as it is.
-/

namespace Cctf

section

variable (lookup : Lookup) (lang : String)

mutual

/-- Every text under a key that holds texts is replaced, at any depth, and nothing else is.
`under` says whether the value is under such a key. -/
def localized (under : Bool) : Json → Json
  | .string s => .string (if under then localizeText lookup lang s else s)
  | .object fields => .object (localizedFields fields)
  | .array items => .array (localizedItems items)
  | value => value

/-- The entries of an object. -/
def localizedFields : List (String × Json) → List (String × Json)
  | [] => []
  | (key, value) :: fields => (key, localized (isTextKey key) value) :: localizedFields fields

/-- The items of an array. -/
def localizedItems : List Json → List Json
  | [] => []
  | item :: items => localized false item :: localizedItems items

end

mutual

/-- There is something to replace in a value. -/
def hasText (under : Bool) : Json → Bool
  | .string s => under && localizeText lookup lang s != s
  | .object fields => fieldsHaveText fields
  | .array items => itemsHaveText items
  | _ => false

/-- There is something to replace in the entries of an object. -/
def fieldsHaveText : List (String × Json) → Bool
  | [] => false
  | (key, value) :: fields => hasText (isTextKey key) value || fieldsHaveText fields

/-- There is something to replace in the items of an array. -/
def itemsHaveText : List Json → Bool
  | [] => false
  | item :: items => hasText false item || itemsHaveText items

end

mutual

/-- An object or an array under a key that holds texts, not inside another such, has something
to replace in it. -/
def skipsText : Json → Bool
  | .object fields => fieldsSkipText fields
  | .array items => itemsSkipText items
  | _ => false

/-- Some entry of an object is skipped, or has something skipped in it. -/
def fieldsSkipText : List (String × Json) → Bool
  | [] => false
  | (key, value) :: fields =>
    (if isTextKey key then hasText lookup lang false value else skipsText value) ||
      fieldsSkipText fields

/-- Something is skipped in some item of an array. -/
def itemsSkipText : List Json → Bool
  | [] => false
  | item :: items => skipsText item || itemsSkipText items

end

end

section

variable {lookup : Lookup} {lang : String}

/-! ## Nothing to replace -/

mutual

/-- A document is changed when there is something to replace, and only then. -/
theorem localized_eq_self_iff (under : Bool) :
    ∀ value, localized lookup lang under value = value ↔ hasText lookup lang under value = false
  | .null => by simp [localized, hasText]
  | .bool b => by simp [localized, hasText]
  | .number q => by simp [localized, hasText]
  | .string s => by
    cases under with
    | false => simp [localized, hasText]
    | true => simp [localized, hasText]
  | .object fields => by
    rw [localized, hasText, Json.object.injEq]
    exact localizedFields_eq_self_iff fields
  | .array items => by
    rw [localized, hasText, Json.array.injEq]
    exact localizedItems_eq_self_iff items

theorem localizedFields_eq_self_iff :
    ∀ fields, localizedFields lookup lang fields = fields ↔ fieldsHaveText lookup lang fields = false
  | [] => by simp [localizedFields, fieldsHaveText]
  | (key, value) :: fields => by
    rw [localizedFields, fieldsHaveText, List.cons.injEq, Prod.mk.injEq, Bool.or_eq_false_iff,
      localized_eq_self_iff (isTextKey key) value, localizedFields_eq_self_iff fields]
    simp

theorem localizedItems_eq_self_iff :
    ∀ items, localizedItems lookup lang items = items ↔ itemsHaveText lookup lang items = false
  | [] => by simp [localizedItems, itemsHaveText]
  | item :: items => by
    rw [localizedItems, itemsHaveText, List.cons.injEq, Bool.or_eq_false_iff,
      localized_eq_self_iff false item, localizedItems_eq_self_iff items]

end

/-! ## The walk -/

/-- What the walk makes of the value under a key that holds texts. -/
theorem localizeEntry_eq_iff (value : Json) :
    localizeEntry lookup lang value = localized lookup lang true value ↔
      hasText lookup lang false value = false := by
  cases value with
  | string s => simp [localizeEntry, localized, hasText]
  | object fields =>
    rw [eq_comm]
    exact localized_eq_self_iff true (.object fields)
  | array items =>
    rw [eq_comm]
    exact localized_eq_self_iff true (.array items)
  | _ => simp [localizeEntry, localized, hasText]

mutual

theorem localizeSpec_eq_iff :
    ∀ value, localizeSpec lookup lang value = localized lookup lang false value ↔
      skipsText lookup lang value = false
  | .null => by simp [localizeSpec, localized, skipsText]
  | .bool b => by simp [localizeSpec, localized, skipsText]
  | .number q => by simp [localizeSpec, localized, skipsText]
  | .string s => by simp [localizeSpec, localized, skipsText]
  | .object fields => by
    rw [localizeSpec, localized, skipsText, Json.object.injEq]
    exact localizeFields_eq_iff fields
  | .array items => by
    rw [localizeSpec, localized, skipsText, Json.array.injEq]
    exact localizeItems_eq_iff items

theorem localizeFields_eq_iff :
    ∀ fields, localizeFields lookup lang fields = localizedFields lookup lang fields ↔
      fieldsSkipText lookup lang fields = false
  | [] => by simp [localizeFields, localizedFields, fieldsSkipText]
  | (key, value) :: fields => by
    rw [localizeFields, localizedFields, fieldsSkipText, List.cons.injEq, Prod.mk.injEq,
      Bool.or_eq_false_iff, localizeFields_eq_iff fields]
    cases hkey : isTextKey key with
    | true =>
      simp only [if_true, true_and]
      rw [localizeEntry_eq_iff value]
    | false =>
      simp only [Bool.false_eq_true, if_false, true_and]
      rw [localizeSpec_eq_iff value]

theorem localizeItems_eq_iff :
    ∀ items, localizeItems lookup lang items = localizedItems lookup lang items ↔
      itemsSkipText lookup lang items = false
  | [] => by simp [localizeItems, localizedItems, itemsSkipText]
  | item :: items => by
    rw [localizeItems, localizedItems, itemsSkipText, List.cons.injEq, Bool.or_eq_false_iff,
      localizeSpec_eq_iff item, localizeItems_eq_iff items]

end

/-- **When a document is localised**: when no object or array under a key that holds texts has
something to replace in it. -/
theorem localizeSpec_iff (lookup : Lookup) (lang : String) (doc : Json) :
    localizeSpec lookup lang doc = localized lookup lang false doc ↔
      skipsText lookup lang doc = false :=
  localizeSpec_eq_iff doc

end

/-- The property `description` of `PublicChallenge`. -/
def publicChallengeSchema (text : String) : Json :=
  .object [("properties", .object [("description",
    .object [("description", .string text), ("type", .string "string")])])]

/-- Messages with a text for one key. -/
def renderedHtmlMessages : Lookup := fun _ key =>
  if key = "schema-rendered-html" then "Rendered HTML" else ""

/-- **The description of a property stays a key.**  The property is itself called
`description`, so what is stored under it is not looked at. -/
theorem description_kept :
    localizeSpec renderedHtmlMessages "en-US" (publicChallengeSchema "schema-rendered-html") =
        publicChallengeSchema "schema-rendered-html" ∧
      localized renderedHtmlMessages "en-US" false (publicChallengeSchema "schema-rendered-html") =
        publicChallengeSchema "Rendered HTML" ∧
      localizeSpec renderedHtmlMessages "en-US" (publicChallengeSchema "schema-rendered-html") ≠
        localized renderedHtmlMessages "en-US" false
          (publicChallengeSchema "schema-rendered-html") := by
  have hkept : localizeSpec renderedHtmlMessages "en-US"
      (publicChallengeSchema "schema-rendered-html") =
        publicChallengeSchema "schema-rendered-html" := rfl
  have hreplaced : localized renderedHtmlMessages "en-US" false
      (publicChallengeSchema "schema-rendered-html") = publicChallengeSchema "Rendered HTML" := rfl
  refine ⟨hkept, hreplaced, ?_⟩
  rw [hkept, hreplaced]
  simp [publicChallengeSchema]

end Cctf

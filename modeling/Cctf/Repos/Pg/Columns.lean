import Cctf.Types.Json

/-!
# Texts in columns

What the database does with a text on its way into a column.  No column takes the character
U+0000; a `VARCHAR(n)` refuses what is too long, but drops an excess of spaces without a word.

* `storable` — a text without U+0000.
* `Varchar`, `Varchar.store` — the limits of the schema, and storing a text.
* `kept`, `keptIfAny` — what a `VARCHAR(n)` keeps of a text: one that fits, as it is.
-/

namespace Cctf.Pg

/-- A text that the database can hold. -/
def storable (text : String) : Bool := '\x00' ∉ text.toList

/-- A value of a `VARCHAR(n)` column. -/
abbrev Varchar (n : ℕ) : Type := { s : String // s.length ≤ n }

namespace Varchar

/-- Storing a text: what is too long is refused, unless all of the excess is spaces,
which are dropped. -/
def store (n : ℕ) (s : String) : Option (Varchar n) :=
  if (s.toList.drop n).all (· = ' ') then
    some ⟨String.ofList (s.toList.take n), by simp⟩
  else none

/-- What a column holds can be stored again. -/
theorem store_val {n : ℕ} (v : Varchar n) : store n v.val = some v := by
  have hlength : v.val.toList.length ≤ n := by
    rw [String.length_toList]
    exact v.property
  have hdrop : v.val.toList.drop n = [] := List.drop_eq_nil_of_le hlength
  have htake : v.val.toList.take n = v.val.toList := List.take_of_length_le hlength
  simp [store, hdrop, htake]

theorem store_of_length_le {n : ℕ} {s : String} (h : s.length ≤ n) : store n s = some ⟨s, h⟩ :=
  store_val ⟨s, h⟩

end Varchar

/-- What a `VARCHAR(n)` column keeps of a text. -/
def kept (n : ℕ) (s : String) : Option String := (Varchar.store n s).map Subtype.val

/-- The same of a column that may be `NULL`. -/
def keptIfAny (n : ℕ) : Option String → Option (Option String)
  | none => some none
  | some s => (kept n s).map some

section

variable {n : ℕ} {s t : String}

/-- A text that fits is kept as it is. -/
theorem kept_of_length_le (h : s.length ≤ n) : kept n s = some s := by
  rw [kept, Varchar.store_of_length_le h, Option.map_some]

/-- The spaces behind a text that fills its column are dropped. -/
theorem kept_append_spaces {cs spaces : List Char} (hlength : cs.length = n)
    (hspaces : ∀ c ∈ spaces, c = ' ') :
    kept n (String.ofList (cs ++ spaces)) = some (String.ofList cs) := by
  subst hlength
  simpa [kept, Varchar.store] using hspaces

/-- What a column keeps fits. -/
theorem length_of_kept (h : kept n s = some t) : t.length ≤ n := by
  obtain ⟨v, -, hv⟩ := Option.map_eq_some_iff.mp h
  rw [← hv]
  exact v.property

variable {o p : Option String}

theorem keptIfAny_of_length_le (h : ∀ s ∈ o, s.length ≤ n) : keptIfAny n o = some o := by
  cases o with
  | none => rfl
  | some s => rw [keptIfAny, kept_of_length_le (h s rfl), Option.map_some]

theorem length_of_keptIfAny (h : keptIfAny n o = some p) : ∀ t ∈ p, t.length ≤ n := by
  cases o with
  | none =>
    obtain rfl := Option.some.inj h
    simp
  | some s =>
    obtain ⟨t, ht, rfl⟩ := Option.map_eq_some_iff.mp h
    simpa using length_of_kept ht

end

end Cctf.Pg

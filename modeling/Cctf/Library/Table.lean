import Mathlib.Algebra.BigOperators.Group.List.Basic
import Mathlib.Data.List.Nodup

/-!
# Tables with a primary key

A table is a list of rows no two of which have the same key; the uniqueness is a
field, so a table that breaks its primary key cannot be built.  The operations
are the ones SQL statements need: look up by key, insert a row unless its key is
taken, delete by key, and update the rows a condition picks without touching
their keys.

* `find?_eq_some_iff` — a lookup finds exactly the row with that key.
* `find?_rel` — corresponding tables answer a lookup with corresponding rows.
* `find?_updateWhere`, `find?_insert`, `find?_erase` — what each statement does
  to every lookup; `sum_map_erase` — what a deletion does to a sum.
-/

/-- Rows of type `ρ` with pairwise different keys. -/
structure Table (ρ κ : Type) (key : ρ → κ) where
  /-- The rows, in the order the table returns them. -/
  rows : List ρ
  /-- The primary key. -/
  nodup : (rows.map key).Nodup

namespace Table

variable {ρ κ : Type} {key : ρ → κ}

/-- The table without rows. -/
def empty : Table ρ κ key := ⟨[], List.nodup_nil⟩

/-- The table of one row. -/
def single (r : ρ) : Table ρ κ key := ⟨[r], List.nodup_singleton _⟩

@[simp] theorem single_rows (r : ρ) : (single r : Table ρ κ key).rows = [r] := rfl

@[ext] theorem ext {T U : Table ρ κ key} (h : T.rows = U.rows) : T = U := by
  cases T
  cases U
  cases h
  rfl

theorem eq_of_key_eq (T : Table ρ κ key) {r r' : ρ} (hr : r ∈ T.rows) (hr' : r' ∈ T.rows)
    (h : key r = key r') : r = r' :=
  List.inj_on_of_nodup_map T.nodup hr hr' h

/-! ## Updating -/

theorem map_key_update (p : ρ → Bool) {f : ρ → ρ} (hf : ∀ r, key (f r) = key r) (rows : List ρ) :
    (rows.map fun r => if p r then f r else r).map key = rows.map key := by
  rw [List.map_map]
  refine List.map_congr_left fun r _ => ?_
  show key (if p r then f r else r) = key r
  split
  · exact hf r
  · rfl

/-- `UPDATE … WHERE p`: rewrite the rows that satisfy `p`, leaving keys alone. -/
def updateWhere (T : Table ρ κ key) (p : ρ → Bool) (f : ρ → ρ) (hf : ∀ r, key (f r) = key r) :
    Table ρ κ key where
  rows := T.rows.map fun r => if p r then f r else r
  nodup := by rw [map_key_update p hf]; exact T.nodup

theorem keys_updateWhere (T : Table ρ κ key) (p : ρ → Bool) (f : ρ → ρ)
    (hf : ∀ r, key (f r) = key r) : (T.updateWhere p f hf).rows.map key = T.rows.map key :=
  map_key_update p hf T.rows

theorem mem_updateWhere {T : Table ρ κ key} {p : ρ → Bool} {f : ρ → ρ}
    {hf : ∀ r, key (f r) = key r} {r' : ρ} :
    r' ∈ (T.updateWhere p f hf).rows ↔ ∃ r ∈ T.rows, (if p r then f r else r) = r' :=
  List.mem_map

variable [DecidableEq κ]

/-! ## Looking up, inserting, deleting -/

/-- The row with a given key. -/
def find? (T : Table ρ κ key) (k : κ) : Option ρ := T.rows.find? fun r => key r = k

/-- `INSERT`: refused when the key is taken. -/
def insert (T : Table ρ κ key) (r : ρ) : Option (Table ρ κ key) :=
  if h : key r ∈ T.rows.map key then none
  else some ⟨T.rows ++ [r], by
    rw [List.map_append, List.nodup_append]
    refine ⟨T.nodup, List.nodup_singleton _, ?_⟩
    intro a ha b hb
    rw [List.map_singleton, List.mem_singleton] at hb
    rintro rfl
    exact h (hb ▸ ha)⟩

/-- `DELETE … WHERE key = k`. -/
def erase (T : Table ρ κ key) (k : κ) : Table ρ κ key where
  rows := T.rows.filter fun r => key r ≠ k
  nodup := (List.filter_sublist.map key).nodup T.nodup

/-- **A lookup finds exactly the row with that key.** -/
theorem find?_eq_some_iff {T : Table ρ κ key} {k : κ} {r : ρ} :
    T.find? k = some r ↔ r ∈ T.rows ∧ key r = k := by
  constructor
  · intro h
    exact ⟨List.mem_of_find?_eq_some h, by simpa using List.find?_some h⟩
  · rintro ⟨hr, rfl⟩
    cases h : T.find? (key r) with
    | none =>
      rw [find?, List.find?_eq_none] at h
      exact absurd (decide_eq_true rfl) (h r hr)
    | some r' =>
      have hr' : r' ∈ T.rows := List.mem_of_find?_eq_some h
      have hk : key r' = key r := by simpa using List.find?_some h
      rw [T.eq_of_key_eq hr' hr hk]

theorem find?_eq_none_iff {T : Table ρ κ key} {k : κ} :
    T.find? k = none ↔ ∀ r ∈ T.rows, key r ≠ k := by
  simp [find?, List.find?_eq_none]

/-- Lookups in two tables whose rows correspond find corresponding rows. -/
theorem find?_rel {R : ρ → ρ → Prop} {T U : Table ρ κ key} (h : List.Forall₂ R T.rows U.rows)
    (hkey : ∀ r r', R r r' → key r' = key r) (k : κ) : Option.Rel R (T.find? k) (U.find? k) := by
  rw [find?, find?]
  generalize T.rows = rows, U.rows = rows' at h
  induction h with
  | nil => exact .none
  | @cons r r' rows rows' hrel _ ih =>
    by_cases hk : key r = k
    · have hk' : key r' = k := (hkey r r' hrel).trans hk
      simpa [List.find?_cons, hk, hk'] using Option.Rel.some hrel
    · have hk' : ¬ key r' = k := fun e => hk ((hkey r r' hrel).symm.trans e)
      simpa [List.find?_cons, hk, hk'] using ih

theorem find?_key {T : Table ρ κ key} {r : ρ} (h : r ∈ T.rows) : T.find? (key r) = some r :=
  find?_eq_some_iff.2 ⟨h, rfl⟩

/-- An update changes the picked rows and no other lookup. -/
theorem find?_updateWhere (T : Table ρ κ key) (p : ρ → Bool) (f : ρ → ρ)
    (hf : ∀ r, key (f r) = key r) (k : κ) :
    (T.updateWhere p f hf).find? k = (T.find? k).map fun r => if p r then f r else r := by
  have hkey : ∀ r, key (if p r then f r else r) = key r := by
    intro r
    split
    · exact hf r
    · rfl
  cases h : T.find? k with
  | none =>
    rw [Option.map_none, find?_eq_none_iff]
    intro r' hr'
    obtain ⟨r, hr, rfl⟩ := mem_updateWhere.1 hr'
    rw [hkey]
    exact find?_eq_none_iff.1 h r hr
  | some r =>
    obtain ⟨hr, rfl⟩ := find?_eq_some_iff.1 h
    rw [Option.map_some, find?_eq_some_iff]
    exact ⟨mem_updateWhere.2 ⟨r, hr, rfl⟩, hkey r⟩

/-- A row with a new key is inserted after the others. -/
theorem exists_insert (T : Table ρ κ key) {r : ρ} (h : key r ∉ T.rows.map key) :
    ∃ U, T.insert r = some U ∧ U.rows = T.rows ++ [r] :=
  ⟨_, dif_neg h, rfl⟩

/-- An insert adds its row after the others. -/
theorem rows_insert {T U : Table ρ κ key} {r : ρ} (h : T.insert r = some U) :
    U.rows = T.rows ++ [r] := by
  rw [insert] at h
  split at h
  · exact absurd h (by simp)
  · obtain rfl : _ = U := by simpa using h
    rfl

/-- An insert adds its row, whose key no other row has. -/
theorem mem_insert {T U : Table ρ κ key} {r : ρ} (h : T.insert r = some U) :
    (∀ r', r' ∈ U.rows ↔ r' ∈ T.rows ∨ r' = r) ∧ ∀ r' ∈ T.rows, key r' ≠ key r := by
  rw [insert] at h
  split at h
  · exact absurd h (by simp)
  · rename_i hnew
    obtain rfl : _ = U := by simpa using h
    refine ⟨fun r' => by simp, fun r' hr' hk => hnew ?_⟩
    exact hk ▸ List.mem_map_of_mem hr'

/-- An insert that is tried: the row is there unless its key was taken. -/
theorem mem_getD_insert {T : Table ρ κ key} {r r' : ρ} :
    r' ∈ ((T.insert r).getD T).rows ↔ r' ∈ T.rows ∨ key r ∉ T.rows.map key ∧ r' = r := by
  by_cases hkey : key r ∈ T.rows.map key
  · have hnone : T.insert r = none := dif_pos hkey
    simp [hnone, hkey]
  · obtain ⟨U, hinsert, hrows⟩ := T.exists_insert hkey
    rw [hinsert, Option.getD_some, hrows]
    simp [hkey]

/-- An insert adds its row and changes no other lookup. -/
theorem find?_insert {T U : Table ρ κ key} {r : ρ} (h : T.insert r = some U) (k : κ) :
    U.find? k = if k = key r then some r else T.find? k := by
  rw [insert] at h
  split at h
  · exact absurd h (by simp)
  · rename_i hnew
    obtain rfl : _ = U := by simpa using h
    by_cases hk : k = key r
    · subst hk
      rw [if_pos rfl]
      exact find?_eq_some_iff.2 ⟨by simp, rfl⟩
    · rw [if_neg hk]
      show (T.rows ++ [r]).find? _ = _
      rw [List.find?_append]
      cases hT : T.rows.find? fun r => key r = k with
      | none => simp [find?, hT, Ne.symm hk]
      | some r' => simp [find?, hT]

theorem insert_isSome_iff {T : Table ρ κ key} {r : ρ} :
    (T.insert r).isSome ↔ T.find? (key r) = none := by
  rw [find?_eq_none_iff, insert]
  split
  · rename_i h
    simpa using h
  · rename_i h
    simpa [eq_comm] using h

/-- A delete removes one key and changes no other lookup. -/
theorem find?_erase (T : Table ρ κ key) (k k' : κ) :
    (T.erase k).find? k' = if k' = k then none else T.find? k' := by
  by_cases hk : k' = k
  · subst hk
    rw [if_pos rfl, find?_eq_none_iff]
    intro r hr
    simpa using (List.mem_filter.1 hr).2
  · rw [if_neg hk]
    cases h : T.find? k' with
    | none =>
      rw [find?_eq_none_iff] at h ⊢
      exact fun r hr => h r (List.mem_filter.1 hr).1
    | some r =>
      obtain ⟨hr, rfl⟩ := find?_eq_some_iff.1 h
      exact find?_eq_some_iff.2 ⟨List.mem_filter.2 ⟨hr, by simpa using hk⟩, rfl⟩

/-- Deleting a row that counts nothing does not change a sum over the rows. -/
theorem sum_map_erase {M : Type} [AddMonoid M] (T : Table ρ κ key) (k : κ) {f : ρ → M}
    (h : ∀ r ∈ T.rows, key r = k → f r = 0) :
    ((T.erase k).rows.map f).sum = (T.rows.map f).sum := by
  show ((T.rows.filter fun r => key r ≠ k).map f).sum = _
  generalize T.rows = rows at h
  induction rows with
  | nil => rfl
  | cons r rows ih =>
    have hrest := ih fun r' hr' => h r' (List.mem_cons_of_mem r hr')
    by_cases hk : key r = k
    · rw [List.filter_cons_of_neg (by simpa using hk), hrest, List.map_cons, List.sum_cons,
        h r List.mem_cons_self hk, zero_add]
    · rw [List.filter_cons_of_pos (by simpa using hk), List.map_cons, List.map_cons,
        List.sum_cons, List.sum_cons, hrest]

end Table

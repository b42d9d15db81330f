import Mathlib.Data.List.Induction
import Mathlib.Data.List.Count
import Mathlib.Data.List.Nodup

/-!
# Multimaps

A multimap is the list of its pairs; a key may have several values, in their order.  Of two ways
to add a pair, one keeps what the key has, and one replaces it.

* `getAll`, `get` — the values of a key, and the first one.
* `append`, `insert`, `remove` — a value more, one value instead of all, and none.
* `copy` — every pair of a multimap, inserted into a new one; `getAll_copy` — **only the last value
  of a key arrives**.
* `copy_lossless_iff` — nothing is lost exactly if every key has one value.
-/

namespace Multimap

variable {κ α : Type} [DecidableEq κ]

/-- The values of a key. -/
def getAll (m : List (κ × α)) (k : κ) : List α := (m.filter fun p => p.1 = k).map Prod.snd

/-- The first value of a key. -/
def get (m : List (κ × α)) (k : κ) : Option α := (getAll m k).head?

/-- The key loses its values. -/
def remove (m : List (κ × α)) (k : κ) : List (κ × α) := m.filter fun p => p.1 ≠ k

/-- The key has one value more. -/
def append (m : List (κ × α)) (k : κ) (a : α) : List (κ × α) := m ++ [(k, a)]

/-- The key has this value and no other. -/
def insert (m : List (κ × α)) (k : κ) (a : α) : List (κ × α) := append (remove m k) k a

variable (m : List (κ × α))

@[simp] theorem getAll_remove_self (k : κ) : getAll (remove m k) k = [] := by
  rw [getAll, remove, List.filter_filter, List.map_eq_nil_iff, List.filter_eq_nil_iff]
  simp

theorem getAll_remove_of_ne {k k' : κ} (h : k' ≠ k) : getAll (remove m k) k' = getAll m k' := by
  rw [getAll, getAll, remove, List.filter_filter]
  congr 1
  refine List.filter_congr fun p _ => ?_
  by_cases hp : p.1 = k'
  · simp [hp, h]
  · simp [hp]

@[simp] theorem getAll_append_self (k : κ) (a : α) : getAll (append m k a) k = getAll m k ++ [a] := by
  simp [getAll, append]

theorem getAll_append_of_ne {k k' : κ} (h : k' ≠ k) (a : α) :
    getAll (append m k a) k' = getAll m k' := by
  simp [getAll, append, h.symm]

theorem getAll_insert_self (k : κ) (a : α) : getAll (insert m k a) k = [a] := by
  rw [insert, getAll_append_self, getAll_remove_self, List.nil_append]

theorem getAll_insert_of_ne {k k' : κ} (h : k' ≠ k) (a : α) :
    getAll (insert m k a) k' = getAll m k' := by
  rw [insert, getAll_append_of_ne _ h, getAll_remove_of_ne _ h]

/-- Every pair, inserted in its turn into a new multimap. -/
def copy (m : List (κ × α)) : List (κ × α) := m.foldl (fun new p => insert new p.1 p.2) []

/-- **Of the values of a key only the last one arrives.** -/
theorem getAll_copy (k : κ) : getAll (copy m) k = (getAll m k).getLast?.toList := by
  induction m using List.reverseRecOn with
  | nil => rfl
  | append_singleton m p ih =>
    have hstep : copy (m ++ [p]) = insert (copy m) p.1 p.2 := by
      rw [copy, List.foldl_append]
      rfl
    have hpair : m ++ [p] = append m p.1 p.2 := rfl
    rw [hstep, hpair]
    by_cases hk : k = p.1
    · rw [hk, getAll_insert_self, getAll_append_self, List.getLast?_concat]
      rfl
    · rw [getAll_insert_of_ne _ hk, getAll_append_of_ne _ hk, ih]

theorem length_getAll (k : κ) : (getAll m k).length = (m.map Prod.fst).count k := by
  rw [getAll, List.length_map, List.count, List.countP_map, List.countP_eq_length_filter]
  rfl

/-- A list is its last element only if it has at most one. -/
theorem toList_getLast?_eq_iff {l : List α} : l.getLast?.toList = l ↔ l.length ≤ 1 := by
  match l with
  | [] => simp
  | [a] => simp
  | a :: b :: l =>
    refine iff_of_false (fun h => ?_) (by simp)
    have hlength := congrArg List.length h
    rw [List.getLast?_cons_cons] at hlength
    have hle := Option.length_toList_le (o := (b :: l).getLast?)
    simp only [List.length_cons] at hlength
    omega

/-- **Nothing is lost exactly if no key has two values.** -/
theorem copy_lossless_iff :
    (∀ k, getAll (copy m) k = getAll m k) ↔ (m.map Prod.fst).Nodup := by
  rw [List.nodup_iff_count_le_one]
  refine forall_congr' fun k => ?_
  rw [getAll_copy, toList_getLast?_eq_iff, length_getAll]

end Multimap

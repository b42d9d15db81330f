import Mathlib.Data.List.AList
import Mathlib.Data.List.Induction

/-!
# Maps built by a loop

A common loop walks a list and files every element under a key:
`map.entry(key).or_default()`, then an update of the entry.  `collect` is that
loop; the theorem about it is that the entry of a key is what the update makes
of the elements with that key, in their order, and that a key without elements
has no entry.

* `lookup_collect` — the entry of a key, from the list.
-/

namespace Grouping

variable {α β κ : Type} [DecidableEq κ]

/-- One round of the loop: elements without a key are skipped. -/
def file (key? : α → Option κ) (start : β) (add : α → β → β) (m : AList fun _ : κ => β) (a : α) :
    AList fun _ : κ => β :=
  match key? a with
  | some k => m.insert k (add a ((m.lookup k).getD start))
  | none => m

/-- File every element of a list under its key, a new entry starting at
`start`. -/
def collect (key? : α → Option κ) (start : β) (add : α → β → β) (l : List α) :
    AList fun _ : κ => β :=
  l.foldl (file key? start add) ∅

variable (key? : α → Option κ) (start : β) (add : α → β → β)

/-- The elements of a list with a given key. -/
def having (k : κ) (l : List α) : List α := l.filter fun a => key? a = some k

theorem collect_append_singleton (l : List α) (a : α) :
    collect key? start add (l ++ [a]) = file key? start add (collect key? start add l) a := by
  simp [collect, List.foldl_append]

theorem having_append_singleton (k : κ) (l : List α) (a : α) :
    having key? k (l ++ [a]) = having key? k l ++ if key? a = some k then [a] else [] := by
  rw [having, List.filter_append]
  by_cases h : key? a = some k <;> simp [having, h]

/-- **The entry of a key**: the update applied to the elements with that key, in
order; no entry when there are none. -/
theorem lookup_collect (k : κ) (l : List α) :
    (collect key? start add l).lookup k =
      if having key? k l = [] then none
      else some ((having key? k l).foldl (fun b a => add a b) start) := by
  induction l using List.reverseRecOn with
  | nil => rfl
  | append_singleton l a ih =>
    rw [collect_append_singleton, having_append_singleton, file]
    cases hkey : key? a with
    | none => simpa using ih
    | some k' =>
      by_cases hk : k' = k
      · subst hk
        rw [if_pos rfl, if_neg (by simp)]
        simp only [AList.lookup_insert, List.foldl_append, List.foldl_cons, List.foldl_nil, ih]
        by_cases hnil : having key? k' l = []
        · simp [hnil]
        · simp [hnil]
      · have hne : ¬ some k' = some k := by simpa using hk
        rw [if_neg hne, List.append_nil]
        simpa only [AList.lookup_insert_ne (Ne.symm hk)] using ih

end Grouping

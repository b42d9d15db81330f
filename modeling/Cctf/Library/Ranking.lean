import Mathlib.Data.List.Sort

/-!
# Ranking by a comparison

A list is sorted by a function into `Ordering` that is a total preorder (`Std.TransCmp`): it
may call different elements equal.  A stable sort then leaves equal elements in the order they
came in, so the place of an element is fixed by the list: those that come strictly before it
in the order, and its equals before it in the list.

* `filter_insertionSort` — **restricting a list and sorting it commute**.
* `sort` — the stable sort by a comparison; `pairwise_sort` and `lt_of_idx` say that it ranks.
* `eq_append_of_pairwise` — below, equal, above: a sorted list in three pieces.
* `exists_place` — **the place of an element**.
* `Top` — the first few of a ranking; `top_filter_take_iff` — **when the first few, restricted,
  are the first few of the restriction**.
-/

namespace Ranking

variable {α β : Type}

/-! ## Restriction -/

section

variable {r : α → α → Prop} [DecidableRel r]

theorem orderedInsert_of_forall {a : α} {l : List α} (h : ∀ b ∈ l, r a b) :
    l.orderedInsert r a = a :: l := by
  cases l with
  | nil => rfl
  | cons b l => exact List.orderedInsert_cons_of_le r l (h b List.mem_cons_self)

variable [IsTrans α r]

theorem filter_orderedInsert (p : α → Bool) (a : α) {l : List α} (h : l.Pairwise r) :
    (l.orderedInsert r a).filter p =
      if p a then (l.filter p).orderedInsert r a else l.filter p := by
  induction l with
  | nil => cases hp : p a <;> simp [hp]
  | cons b l ih =>
    obtain ⟨hb, hl⟩ := List.pairwise_cons.mp h
    by_cases hab : r a b
    · -- the element goes first, and so it does among those that are kept
      have hfirst : ∀ c ∈ (b :: l).filter p, r a c := by
        intro c hc
        rcases List.mem_cons.mp (List.mem_of_mem_filter hc) with rfl | hcl
        · exact hab
        · exact trans_of r hab (hb c hcl)
      rw [List.orderedInsert_cons_of_le r l hab, orderedInsert_of_forall hfirst,
        List.filter_cons]
    · rw [List.orderedInsert_of_not_le r l hab, List.filter_cons, ih hl, List.filter_cons]
      cases hpb : p b with
      | false => rfl
      | true =>
        cases hpa : p a with
        | false => rfl
        | true =>
          simp only [if_true]
          rw [List.orderedInsert_of_not_le r _ hab]

variable [Std.Total r]

/-- **Restricting a list and sorting it commute.** -/
theorem filter_insertionSort (p : α → Bool) (l : List α) :
    (l.insertionSort r).filter p = (l.filter p).insertionSort r := by
  induction l with
  | nil => rfl
  | cons a l ih =>
    rw [List.insertionSort_cons, filter_orderedInsert p a (List.pairwise_insertionSort r l), ih,
      List.filter_cons]
    split <;> rfl

end

/-! ## Comparisons -/

section

variable (cmp : α → α → Ordering)

/-- Sort a list; elements that compare equal stay in their order. -/
def sort (l : List α) : List α := l.insertionSort fun a b => cmp a b ≠ .gt

theorem perm_sort (l : List α) : (sort cmp l).Perm l := List.perm_insertionSort _ l

/-- Sorting by a comparison of images. -/
theorem map_sort (f : β → α) (l : List β) :
    (sort (fun a b => cmp (f a) (f b)) l).map f = sort cmp (l.map f) :=
  List.map_insertionSort _ _ f l fun _ _ _ _ => Iff.rfl

end

variable {cmp : α → α → Ordering} [Std.TransCmp cmp]

omit [Std.TransCmp cmp] in
theorem isLE_iff {a b : α} : (cmp a b).isLE = true ↔ cmp a b ≠ .gt := by
  cases cmp a b <;> simp

instance isTrans_ne_gt : IsTrans α fun a b => cmp a b ≠ .gt where
  trans a b c hab hbc := by
    rw [← isLE_iff] at hab hbc ⊢
    exact Std.TransCmp.isLE_trans hab hbc

instance total_ne_gt : Std.Total fun a b => cmp a b ≠ .gt where
  total a b := by
    by_contra hboth
    rw [not_or, not_not, not_not] at hboth
    rw [Std.OrientedCmp.gt_iff_lt, hboth.2] at hboth
    cases hboth.1

variable (cmp) in
/-- A comparison of images is a total preorder too. -/
theorem transCmp_on (f : β → α) : Std.TransCmp fun a b => cmp (f a) (f b) where
  eq_swap := Std.OrientedCmp.eq_swap
  isLE_trans := Std.TransCmp.isLE_trans

/-- **The sorted list is in order.** -/
theorem pairwise_sort (l : List α) : (sort cmp l).Pairwise fun a b => cmp a b ≠ .gt :=
  List.pairwise_insertionSort _ l

theorem filter_sort (p : α → Bool) (l : List α) : (sort cmp l).filter p = sort cmp (l.filter p) :=
  filter_insertionSort p l

/-- In a list in order, of two elements the smaller comes first. -/
theorem lt_of_idx {l : List α} (h : l.Pairwise fun a b => cmp a b ≠ .gt) {i j : ℕ}
    (hi : i < l.length) (hj : j < l.length) (hlt : cmp l[i] l[j] = .lt) : i < j := by
  rcases Nat.lt_trichotomy i j with hij | rfl | hji
  · exact hij
  · have hself : cmp l[i] l[i] = .eq := Std.ReflCmp.compare_self
    rw [hself] at hlt
    cases hlt
  · exact absurd (Std.OrientedCmp.gt_of_lt hlt) (List.pairwise_iff_getElem.mp h j i hj hi hji)

/-! ## Places -/

/-- **A list in order, seen from an element**: those below it, its equals, those above. -/
theorem eq_append_of_pairwise (a : α) {l : List α} (h : l.Pairwise fun a b => cmp a b ≠ .gt) :
    l = l.filter (fun b => cmp b a = .lt) ++ l.filter (fun b => cmp b a = .eq) ++
      l.filter (fun b => cmp b a = .gt) := by
  induction l with
  | nil => rfl
  | cons b l ih =>
    obtain ⟨hb, hl⟩ := List.pairwise_cons.mp h
    have hrest := ih hl
    -- nothing that follows is below an element that is not itself below
    have hlow : cmp b a ≠ .lt → l.filter (fun c => cmp c a = .lt) = [] := by
      intro hba
      refine List.filter_eq_nil_iff.mpr fun c hc hca => hba ?_
      exact Std.TransCmp.lt_of_isLE_of_lt (isLE_iff.mpr (hb c hc)) (of_decide_eq_true hca)
    have hmiddle : cmp b a = .gt → l.filter (fun c => cmp c a = .eq) = [] := by
      intro hba
      refine List.filter_eq_nil_iff.mpr fun c hc hca => hb c hc ?_
      have heq := Std.OrientedCmp.eq_symm (of_decide_eq_true hca)
      exact Std.TransCmp.gt_of_gt_of_eq hba heq
    cases hba : cmp b a with
    | lt => simpa [List.filter_cons, hba] using hrest
    | eq =>
      rw [hlow (by simp [hba]), List.nil_append] at hrest
      simpa [List.filter_cons, hba, hlow] using hrest
    | gt =>
      rw [hlow (by simp [hba]), hmiddle hba, List.nil_append, List.nil_append] at hrest
      simpa [List.filter_cons, hba, hlow, hmiddle] using hrest

/-- How many elements a sort puts before an element: those below it, and its equals among the
elements that come before it in the list. -/
def place (cmp : α → α → Ordering) (before after : List α) (a : α) : ℕ :=
  (before ++ a :: after).countP (fun b => cmp b a = .lt) + before.countP fun b => cmp b a = .eq

/-- Elements that equal one are in order among themselves. -/
theorem pairwise_of_forall_eq {a : α} {l : List α} (h : ∀ b ∈ l, cmp b a = .eq) :
    l.Pairwise fun a b => cmp a b ≠ .gt := by
  refine List.pairwise_of_forall_mem_list fun b hb c hc => ?_
  rw [Std.TransCmp.congr_left (h b hb), Std.OrientedCmp.eq_symm (h c hc)]
  exact nofun

variable (cmp) in
/-- **The place of an element** of the sorted list. -/
theorem exists_place (before after : List α) (a : α) :
    ∃ s t, sort cmp (before ++ a :: after) = s ++ a :: t ∧
      s.length = place cmp before after a := by
  have hself : cmp a a = .eq := Std.ReflCmp.compare_self
  -- the equals of the element stay as they are
  have hequal : (sort cmp (before ++ a :: after)).filter (fun b => cmp b a = .eq) =
      before.filter (fun b => cmp b a = .eq) ++ a :: after.filter (fun b => cmp b a = .eq) := by
    rw [filter_sort]
    refine (List.Pairwise.insertionSort_eq (pairwise_of_forall_eq (a := a) ?_)).trans ?_
    · exact fun b hb => of_decide_eq_true (List.mem_filter.mp hb).2
    · rw [List.filter_append, List.filter_cons_of_pos (by simpa using hself)]
  have hsorted : (sort cmp (before ++ a :: after)).Pairwise fun b c => cmp b c ≠ .gt :=
    pairwise_sort _
  have hsplit := eq_append_of_pairwise a hsorted
  rw [hequal] at hsplit
  refine ⟨_, _, hsplit.trans (by rw [← List.append_assoc, List.append_assoc _ (a :: _),
    List.cons_append]), ?_⟩
  rw [List.length_append, ← List.countP_eq_length_filter, ← List.countP_eq_length_filter,
    (perm_sort cmp _).countP_eq]
  rfl

/-! ## The first few -/

section

variable {r : α → α → Prop} {k : ℕ}

/-- **The first `k` of a ranking**, in order.  Those that tie may come in any order, and any of
them may be left out. -/
structure Top (r : α → α → Prop) (k : ℕ) (l top : List α) : Prop where
  sorted : top.Pairwise r
  length : top.length = min k l.length
  best : ∃ rest, (top ++ rest).Perm l ∧ ∀ a ∈ top, ∀ b ∈ rest, r a b

/-- What is cut off, or dropped by the restriction, is the same number only if one of the two
does nothing. -/
theorem length_filter_take_iff (p : α → Bool) (k : ℕ) (s : List α) :
    ((s.take k).filter p).length = min k (s.filter p).length ↔
      (∀ a ∈ s.take k, p a = true) ∨ ∀ a ∈ s.drop k, p a = false := by
  have hsum : (s.filter p).length =
      ((s.take k).filter p).length + ((s.drop k).filter p).length := by
    rw [← List.length_append, ← List.filter_append, List.take_append_drop]
  have htake : (s.take k).length = min k s.length := List.length_take
  have hdrop : (s.drop k).length = s.length - k := List.length_drop
  have hkept : ((s.take k).filter p).length ≤ (s.take k).length := List.length_filter_le _ _
  have hrest : ((s.drop k).filter p).length ≤ (s.drop k).length := List.length_filter_le _ _
  have hall : (∀ a ∈ s.take k, p a = true) ↔
      ((s.take k).filter p).length = (s.take k).length := List.length_filter_eq_length_iff.symm
  have hnone : (∀ a ∈ s.drop k, p a = false) ↔ ((s.drop k).filter p).length = 0 := by
    rw [List.length_eq_zero_iff, List.filter_eq_nil_iff]
    simp
  rw [hall, hnone]
  omega

/-- **The first few of a ranking, restricted, are the first few of the restriction** exactly
when all of them are kept, or nothing beyond them is. -/
theorem top_filter_take_iff {s l : List α} (hperm : s.Perm l) (hsorted : s.Pairwise r)
    (p : α → Bool) :
    Top r k (l.filter p) ((s.take k).filter p) ↔
      (∀ a ∈ s.take k, p a = true) ∨ ∀ a ∈ s.drop k, p a = false := by
  rw [← length_filter_take_iff, (hperm.filter p).length_eq]
  constructor
  · exact Top.length
  · intro hlength
    rw [← List.take_append_drop k s] at hsorted
    obtain ⟨htake, -, hacross⟩ := List.pairwise_append.mp hsorted
    refine ⟨htake.sublist List.filter_sublist, hlength, (s.drop k).filter p, ?_, ?_⟩
    · rw [← List.filter_append, List.take_append_drop]
      exact hperm.filter p
    · intro a ha b hb
      exact hacross a (List.mem_of_mem_filter ha) b (List.mem_of_mem_filter hb)

end

end Ranking

import Mathlib.Data.List.Basic
import Mathlib.Data.List.DropRight

/-!
# Paths

Paths of a Unix file system, as texts, and the place that a path names: the dots in it are
resolved by name, without looking at the file system.

* `join` — a path below another one, as it is written.
* `Place`, `Place.enter` — a place, and the one that a component leads to from there.
* `resolve` — the place that a path names.
* `resolve_join`, `resolve_below` — **one component more**, and what is in between does not count.
* `Place.child`, `enter_eq_child` — a component that is not made of dots names an entry.
-/

namespace Paths

/-! ## Writing a path -/

/-- `Path::join` on Unix. -/
def join (dir path : List Char) : List Char :=
  if path.head? = some '/' then path
  else if dir = [] ∨ dir.getLast? = some '/' then dir ++ path
  else dir ++ '/' :: path

/-- `trim_end_matches('/')`. -/
def trimEnd (path : List Char) : List Char := path.rdropWhile (· == '/')

/-! ## Places -/

/-- A place in a file system: from the root or from where one is, by the names on the way, the
last one first. -/
structure Place where
  absolute : Bool
  names : List (List Char)
  deriving DecidableEq

namespace Place

/-- The entry of a name. -/
def child (p : Place) (name : List Char) : Place := { p with names := name :: p.names }

/-- One level up.  There is nothing above the root. -/
def up (p : Place) : Place :=
  match p.names with
  | [] => if p.absolute then p else p.child ['.', '.']
  | name :: rest => if name = ['.', '.'] then p.child ['.', '.'] else { p with names := rest }

/-- The place that a component leads to. -/
def enter (p : Place) (component : List Char) : Place :=
  if component = [] ∨ component = ['.'] then p
  else if component = ['.', '.'] then p.up
  else p.child component

/-- The place that a relative path leads to. -/
def follow (p : Place) (path : List Char) : Place := (path.splitOn '/').foldl enter p

variable (p : Place) {name : List Char}

theorem child_inj {name' : List Char} : p.child name = p.child name' ↔ name = name' := by
  constructor
  · intro h
    exact (List.cons.inj (congrArg Place.names h)).1
  · rintro rfl
    rfl

/-- **An entry is another place.** -/
theorem child_ne (name : List Char) : p.child name ≠ p := by
  intro h
  have hlength := congrArg (fun q => q.names.length) h
  exact Nat.succ_ne_self _ hlength

/-- A component that is not made of dots names an entry. -/
theorem enter_eq_child (hempty : name ≠ []) (hdot : name ≠ ['.']) (hdots : name ≠ ['.', '.']) :
    p.enter name = p.child name := by
  rw [enter, if_neg (by simp [hempty, hdot]), if_neg hdots]

/-- What is behind a slash comes after what is before it. -/
theorem follow_append (a b : List Char) : p.follow (a ++ '/' :: b) = (p.follow a).follow b := by
  rw [follow, List.splitOn_append_cons_self, List.foldl_append]
  rfl

@[simp] theorem follow_nil : p.follow [] = p := rfl

/-- A path without slashes is a component. -/
theorem follow_of_not_mem (h : '/' ∉ name) : p.follow name = p.enter name := by
  rw [follow, List.splitOn_eq_singleton h]
  rfl

/-- Slashes at the end do not count. -/
theorem follow_trimEnd (path : List Char) : p.follow (trimEnd path) = p.follow path := by
  induction path using List.reverseRecOn with
  | nil => rfl
  | append_singleton path c ih =>
    rw [trimEnd]
    by_cases hc : c = '/'
    · rw [List.rdropWhile_concat_pos _ _ _ (by simp [hc]), hc, follow_append, follow_nil]
      exact ih
    · rw [List.rdropWhile_concat_neg _ _ _ (by simp [hc])]

end Place

/-! ## The place of a path -/

/-- The place that a path names. -/
def resolve (path : List Char) : Place :=
  Place.follow ⟨decide (path.head? = some '/'), []⟩ path

variable {dir name : List Char}

/-- A component alone is relative. -/
theorem resolve_of_not_mem (hslash : '/' ∉ name) : resolve name = (resolve []).enter name := by
  have hrelative : name.head? ≠ some '/' := fun h => hslash (List.mem_of_head? h)
  rw [resolve, resolve, decide_eq_false hrelative, Place.follow_of_not_mem _ hslash]
  rfl

/-- **One component more**, behind a slash or at the end of one. -/
theorem resolve_join (hslash : '/' ∉ name) : resolve (join dir name) = (resolve dir).enter name := by
  have hrelative : name.head? ≠ some '/' := fun h => hslash (List.mem_of_head? h)
  rw [join, if_neg hrelative]
  split_ifs with hend
  · rcases hend with rfl | hlast
    · rw [List.nil_append, resolve_of_not_mem hslash]
    · have hdir := List.dropLast_append_getLast? '/' hlast
      have hne : dir ≠ [] := by
        rintro rfl
        cases hlast
      have hpath : dir ++ name = dir.dropLast ++ '/' :: name := by
        rw [← List.singleton_append, ← List.append_assoc, hdir]
      have hsame := Place.follow_append ⟨decide (dir.head? = some '/'), []⟩ dir.dropLast []
      rw [hdir, Place.follow_nil] at hsame
      rw [resolve, List.head?_append_of_ne_nil dir hne, hpath, Place.follow_append, ← hsame,
        Place.follow_of_not_mem _ hslash]
      rfl
  · have hne : dir ≠ [] := fun h => hend (.inl h)
    rw [resolve, List.head?_append_of_ne_nil dir hne, Place.follow_append,
      Place.follow_of_not_mem _ hslash]
    rfl

/-- The same, however many slashes there are. -/
theorem resolve_below (hdir : dir ≠ []) (hslash : '/' ∉ name) :
    resolve (trimEnd dir ++ '/' :: name) = (resolve dir).enter name := by
  have hhead : (trimEnd dir ++ '/' :: name).head? = some '/' ↔ dir.head? = some '/' := by
    cases htrim : trimEnd dir with
    | nil =>
      have hall := List.rdropWhile_eq_nil_iff.mp htrim
      obtain ⟨c, cs, rfl⟩ := List.exists_cons_of_ne_nil hdir
      have hc := hall c List.mem_cons_self
      simpa using hc
    | cons c cs =>
      obtain ⟨rest, hrest⟩ := List.rdropWhile_prefix (fun c : Char => c == '/') (l := dir)
      rw [← trimEnd, htrim] at hrest
      rw [← hrest]
      rfl
  rw [resolve, Place.follow_append, Place.follow_trimEnd, Place.follow_of_not_mem _ hslash,
    resolve]
  rw [decide_eq_decide.mpr hhead]

end Paths

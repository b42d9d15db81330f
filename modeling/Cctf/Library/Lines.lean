import Mathlib.Data.List.Infix

/-!
# Lines of a stream

A stream is cut into lines at the occurrences of a terminator.

* `takeLine` — the first line with its terminator, and what follows it.
* `complete` — the lines that are terminated, each with its terminator; what comes after
  the last terminator is not a line yet.
* `takeLine_append`, `complete_append_line`, `complete_prefix` — text that arrives later
  does not change the lines that are already there.
-/

namespace Lines

variable {α : Type} [DecidableEq α] (eol : α)

/-- The first line with its terminator, and the rest; all of it if no line ends. -/
def takeLine : List α → List α × List α
  | [] => ([], [])
  | a :: as => if a = eol then ([a], as) else (a :: (takeLine as).1, (takeLine as).2)

/-- The terminated lines, given the part of the first that has been read. -/
def completeFrom (read : List α) : List α → List (List α)
  | [] => []
  | a :: as => if a = eol then (read ++ [a]) :: completeFrom [] as
    else completeFrom (read ++ [a]) as

/-- The terminated lines, each with its terminator. -/
def complete (as : List α) : List (List α) := completeFrom eol [] as

variable {eol}

/-! ## One line -/

/-- **Later text does not change the first line.** -/
theorem takeLine_append {as : List α} (h : eol ∈ as) (bs : List α) :
    takeLine eol (as ++ bs) = ((takeLine eol as).1, (takeLine eol as).2 ++ bs) := by
  induction as with
  | nil => simp at h
  | cons a as ih =>
    rw [List.cons_append, takeLine, takeLine]
    by_cases ha : a = eol
    · rw [if_pos ha, if_pos ha]
    · have hrest : eol ∈ as := by
        rcases List.mem_cons.1 h with heq | hmem
        · exact absurd heq.symm ha
        · exact hmem
      rw [if_neg ha, if_neg ha, ih hrest]

theorem takeLine_line {line : List α} (h : eol ∉ line) (rest : List α) :
    takeLine eol (line ++ eol :: rest) = (line ++ [eol], rest) := by
  induction line with
  | nil => simp [takeLine]
  | cons a line ih =>
    rw [List.mem_cons, not_or] at h
    rw [List.cons_append, takeLine, if_neg (Ne.symm h.1), ih h.2]
    rfl

/-! ## All lines -/

theorem completeFrom_line {line : List α} (h : eol ∉ line) (read rest : List α) :
    completeFrom eol read (line ++ eol :: rest) =
      (read ++ line ++ [eol]) :: complete eol rest := by
  induction line generalizing read with
  | nil => simp [completeFrom, complete]
  | cons a line ih =>
    rw [List.mem_cons, not_or] at h
    rw [List.cons_append, completeFrom, if_neg (Ne.symm h.1), ih h.2]
    simp

/-- **A terminated line at the front is the first line.** -/
theorem complete_append_line {line : List α} (h : eol ∉ line) (rest : List α) :
    complete eol (line ++ eol :: rest) = (line ++ [eol]) :: complete eol rest :=
  completeFrom_line h [] rest

/-- The lines of lines that are put one after the other. -/
theorem complete_flatMap {lines : List (List α)} (h : ∀ line ∈ lines, eol ∉ line) :
    complete eol (lines.flatMap (· ++ [eol])) = lines.map (· ++ [eol]) := by
  induction lines with
  | nil => rfl
  | cons line lines ih =>
    rw [List.forall_mem_cons] at h
    rw [List.flatMap_cons, List.append_assoc, List.singleton_append, complete_append_line h.1,
      ih h.2, List.map_cons]

/-- The part that has been read goes in front of the first line. -/
theorem completeFrom_eq (read as : List α) :
    completeFrom eol read as = (complete eol as).modifyHead (read ++ ·) := by
  induction as generalizing read with
  | nil => rfl
  | cons a as ih =>
    unfold complete
    rw [completeFrom, completeFrom]
    by_cases ha : a = eol
    · rw [if_pos ha, if_pos ha]
      rfl
    · rw [if_neg ha, if_neg ha, ih (read ++ [a]), ih ([] ++ [a]), List.modifyHead_modifyHead]
      simp [Function.comp_def]

/-- Text without a terminator belongs to the first line that follows. -/
theorem complete_append {text : List α} (h : eol ∉ text) (as : List α) :
    complete eol (text ++ as) = completeFrom eol text as := by
  suffices hread : ∀ read, completeFrom eol read (text ++ as) = completeFrom eol (read ++ text) as from
    hread []
  induction text with
  | nil => simp
  | cons a text ih =>
    intro read
    rw [List.mem_cons, not_or] at h
    rw [List.cons_append, completeFrom, if_neg (Ne.symm h.1), ih h.2]
    simp

/-- A terminator ends what is before it. -/
theorem complete_append_eol (as bs : List α) :
    complete eol (as ++ eol :: bs) = complete eol (as ++ [eol]) ++ complete eol bs := by
  suffices hread : ∀ read, completeFrom eol read (as ++ eol :: bs) =
      completeFrom eol read (as ++ [eol]) ++ complete eol bs from hread []
  induction as with
  | nil =>
    intro read
    simp [completeFrom, complete]
  | cons a as ih =>
    intro read
    rw [List.cons_append, List.cons_append, completeFrom, completeFrom]
    by_cases ha : a = eol
    · rw [if_pos ha, if_pos ha, ih, List.cons_append]
    · rw [if_neg ha, if_neg ha, ih]

theorem completeFrom_append (read as bs : List α) :
    ∃ read', completeFrom eol read (as ++ bs) =
      completeFrom eol read as ++ completeFrom eol read' bs := by
  induction as generalizing read with
  | nil => exact ⟨read, rfl⟩
  | cons a as ih =>
    rw [List.cons_append, completeFrom, completeFrom]
    by_cases ha : a = eol
    · obtain ⟨read', hrest⟩ := ih []
      rw [if_pos ha, if_pos ha]
      exact ⟨read', by rw [hrest, List.cons_append]⟩
    · rw [if_neg ha, if_neg ha]
      exact ih _

/-- **Later text adds lines at the end.** -/
theorem complete_prefix {as bs : List α} (h : as <+: bs) : complete eol as <+: complete eol bs := by
  obtain ⟨rest, rfl⟩ := h
  have hlines : ∃ read', completeFrom eol [] (as ++ rest) =
      completeFrom eol [] as ++ completeFrom eol read' rest := completeFrom_append [] as rest
  obtain ⟨read', hlines⟩ := hlines
  exact ⟨completeFrom eol read' rest, hlines.symm⟩

end Lines

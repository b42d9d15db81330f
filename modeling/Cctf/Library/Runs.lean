/-!
# Runs of a deterministic machine

A machine is a step function `σ → ι → σ`; a run is a list of inputs.  Two ways
of quantifying over a run, both read off the recursion of the run itself:

* `Always step P s is` — the property `P` holds in every state the run visits,
  the first and the last included.
* `Each step G s is` — every step of the run meets the condition `G` on the state
  it starts from and on its input.

`always_of_each` is the invariant rule under a condition on the steps, and
`each_of_each` what the invariant then says about the steps themselves;
`always_iff_each` is its exact form, for a condition that is also necessary.
-/

namespace Runs

variable {σ ι : Type} {step : σ → ι → σ}

/-- The state at the end of a run. -/
def run (step : σ → ι → σ) (s : σ) (is : List ι) : σ := is.foldl step s

/-- `P` holds in every state of a run. -/
def Always (step : σ → ι → σ) (P : σ → Prop) : σ → List ι → Prop
  | s, [] => P s
  | s, i :: is => P s ∧ Always step P (step s i) is

/-- Every step of a run meets `G`. -/
def Each (step : σ → ι → σ) (G : σ → ι → Prop) : σ → List ι → Prop
  | _, [] => True
  | s, i :: is => G s i ∧ Each step G (step s i) is

variable {P J : σ → Prop} {G : σ → ι → Prop}

theorem Always.head {s : σ} {is : List ι} (h : Always step P s is) : P s := by
  cases is with
  | nil => exact h
  | cons i is => exact h.1

/-- A property of every state of a run holds at its end. -/
theorem Always.last {s : σ} {is : List ι} (h : Always step P s is) : P (run step s is) := by
  induction is generalizing s with
  | nil => exact h
  | cons i is ih => exact ih h.2

/-- Where the first step is decided, the rest of a run decides. -/
theorem always_cons_iff {s : σ} {i : ι} {is : List ι} (hs : P s) (hstep : P (step s i) ↔ G s i)
    (hrest : P (step s i) → (Always step P (step s i) is ↔ Each step G (step s i) is)) :
    Always step P s (i :: is) ↔ Each step G s (i :: is) := by
  constructor
  · rintro ⟨-, his⟩
    exact ⟨hstep.1 his.head, (hrest his.head).1 his⟩
  · rintro ⟨hg, his⟩
    exact ⟨hs, (hrest (hstep.2 hg)).2 his⟩

/-- **The exact invariant rule.**  Within the states that satisfy `J`, which
every step keeps: if from a state with `P` a step leads to `P` exactly when it
meets `G`, then `P` holds all along a run exactly when every step meets `G`. -/
theorem always_iff_each (hJ : ∀ s i, J s → J (step s i))
    (hstep : ∀ s i, J s → P s → (P (step s i) ↔ G s i)) {s : σ} (h0 : J s) (hs : P s)
    (is : List ι) : Always step P s is ↔ Each step G s is := by
  induction is generalizing s with
  | nil => exact ⟨fun _ => trivial, fun _ => hs⟩
  | cons i is ih => exact always_cons_iff hs (hstep s i h0 hs) (ih (hJ s i h0))

/-- The exact invariant rule for runs all of whose steps meet `F`. -/
theorem always_iff_each_of_each {F : σ → ι → Prop}
    (hstep : ∀ s i, F s i → P s → (P (step s i) ↔ G s i)) {s : σ} (hs : P s) {is : List ι}
    (hF : Each step F s is) : Always step P s is ↔ Each step G s is := by
  induction is generalizing s with
  | nil => exact ⟨fun _ => trivial, fun _ => hs⟩
  | cons i is ih =>
    exact always_cons_iff hs (hstep s i hF.1 hs) fun hnext => ih hnext hF.2

/-- **The invariant rule under a condition on the steps.** -/
theorem always_of_each (hstep : ∀ s i, P s → G s i → P (step s i)) {s : σ} (hs : P s)
    {is : List ι} (h : Each step G s is) : Always step P s is := by
  induction is generalizing s with
  | nil => exact hs
  | cons i is ih => exact ⟨hs, ih (hstep s i hs h.1) h.2⟩

theorem Always.imp {Q : σ → Prop} (hPQ : ∀ s, P s → Q s) {s : σ} {is : List ι}
    (h : Always step P s is) : Always step Q s is := by
  induction is generalizing s with
  | nil => exact hPQ s h
  | cons i is ih => exact ⟨hPQ s h.1, ih h.2⟩

/-- A condition on the inputs alone. -/
theorem each_of_forall {G : ι → Prop} {s : σ} {is : List ι} (h : ∀ i ∈ is, G i) :
    Each step (fun _ i => G i) s is := by
  induction is generalizing s with
  | nil => trivial
  | cons i is ih =>
    exact ⟨h i List.mem_cons_self, ih fun j hj => h j (List.mem_cons_of_mem i hj)⟩

theorem Each.and {G' : σ → ι → Prop} {s : σ} {is : List ι} (h : Each step G s is)
    (h' : Each step G' s is) : Each step (fun s i => G s i ∧ G' s i) s is := by
  induction is generalizing s with
  | nil => trivial
  | cons i is ih => exact ⟨⟨h.1, h'.1⟩, ih h.2 h'.2⟩

/-- One step more. -/
theorem each_concat {s : σ} {is : List ι} {i : ι} :
    Each step G s (is ++ [i]) ↔ Each step G s is ∧ G (run step s is) i := by
  induction is generalizing s with
  | nil => exact ⟨fun h => ⟨trivial, h.1⟩, fun h => ⟨h.2, trivial⟩⟩
  | cons j is ih =>
    constructor
    · rintro ⟨hj, hrest⟩
      obtain ⟨his, hi⟩ := ih.1 hrest
      exact ⟨⟨hj, his⟩, hi⟩
    · rintro ⟨⟨hj, his⟩, hi⟩
      exact ⟨hj, ih.2 ⟨his, hi⟩⟩

theorem run_concat (s : σ) (is : List ι) (i : ι) :
    run step s (is ++ [i]) = step (run step s is) i := by
  rw [run, run, List.foldl_append]
  rfl

/-- What the invariant of a run gives for its steps. -/
theorem each_of_each {Q : σ → ι → Prop} (hstep : ∀ s i, P s → G s i → P (step s i))
    (hQ : ∀ s i, P s → G s i → Q s i) {s : σ} (hs : P s) {is : List ι} (h : Each step G s is) :
    Each step Q s is := by
  induction is generalizing s with
  | nil => trivial
  | cons i is ih => exact ⟨hQ s i hs h.1, ih (hstep s i hs h.1) h.2⟩

/-- What a property that every step keeps gives for the steps. -/
theorem each_of_invariant {Q : σ → ι → Prop} (hstep : ∀ s i, P s → P (step s i))
    (hQ : ∀ s i, P s → Q s i) {s : σ} (hs : P s) {is : List ι} : Each step Q s is := by
  induction is generalizing s with
  | nil => trivial
  | cons i is ih => exact ⟨hQ s i hs, ih (hstep s i hs)⟩

end Runs

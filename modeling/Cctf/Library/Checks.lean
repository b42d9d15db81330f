import Mathlib.Logic.Basic

/-!
# Sequences of checks

A validator is a sequence of steps that return a value or an error.  The two forms a check
takes, and what it says that the whole sequence succeeded.

* `ensure`, `ensureFor`, `required` — go on if a condition holds, if it holds of the value
  there is, or if there is a value.
* `bind_eq_ok_iff`, `ensure_eq_ok_iff`, `ensureFor_eq_ok_iff` — a sequence succeeds when
  every step does.
-/

namespace Checks

variable {ε ε' α β : Type}

/-- Go on if a condition holds. -/
def ensure (p : Prop) [Decidable p] (e : ε) : Except ε Unit := if p then .ok () else .error e

/-- Go on if a condition holds of the value, or if there is none. -/
def ensureFor (o : Option α) (p : α → Prop) [DecidablePred p] (e : ε) : Except ε Unit :=
  match o with
  | some a => ensure (p a) e
  | none => .ok ()

/-- Go on with the value there must be. -/
def required (o : Option α) (e : ε) : Except ε α :=
  match o with
  | some a => .ok a
  | none => .error e

theorem bind_eq_ok_iff {x : Except ε α} {f : α → Except ε β} {b : β} :
    (x >>= f) = .ok b ↔ ∃ a, x = .ok a ∧ f a = .ok b := by
  cases x with
  | error e =>
    constructor
    · intro h
      cases h
    · rintro ⟨a, ha, -⟩
      cases ha
  | ok a =>
    constructor
    · exact fun h => ⟨a, rfl, h⟩
    · rintro ⟨a', ha, hf⟩
      cases ha
      exact hf

theorem bind_ok (a : α) (f : α → Except ε β) : (Except.ok a >>= f) = f a := rfl

theorem map_eq_ok_iff {x : Except ε α} {f : α → β} {b : β} :
    x.map f = .ok b ↔ ∃ a, x = .ok a ∧ f a = b := by
  cases x with
  | error e => simp [Except.map]
  | ok a => simp [Except.map]

theorem mapError_eq_ok_iff {x : Except ε α} {f : ε → ε'} {a : α} :
    x.mapError f = .ok a ↔ x = .ok a := by
  cases x with
  | error e => exact iff_of_false nofun nofun
  | ok b => exact ⟨fun h => congrArg _ (Except.ok.inj h), fun h => congrArg _ (Except.ok.inj h)⟩

theorem mapError_eq_error_iff {x : Except ε α} {f : ε → ε'} {e' : ε'} :
    x.mapError f = .error e' ↔ ∃ e, x = .error e ∧ f e = e' := by
  cases x with
  | error e =>
    constructor
    · exact fun h => ⟨e, rfl, Except.error.inj h⟩
    · rintro ⟨e₀, he, rfl⟩
      rw [Except.error.inj he]
      rfl
  | ok a =>
    refine iff_of_false nofun ?_
    rintro ⟨e₀, he, -⟩
    cases he

theorem required_eq_ok_iff {o : Option α} {e : ε} {a : α} : required o e = .ok a ↔ o = some a := by
  cases o with
  | none => simp [required]
  | some b => simp [required]

section Ensure

variable {p : Prop} [Decidable p] {e : ε}

theorem ensure_of_pos (hp : p) : ensure p e = .ok () := if_pos hp

theorem ensure_of_neg (hp : ¬ p) : ensure p e = .error e := if_neg hp

theorem ensure_eq_ok_iff {u : Unit} : ensure p e = .ok u ↔ p := by
  by_cases hp : p
  · rw [ensure_of_pos hp]
    exact iff_of_true rfl hp
  · rw [ensure_of_neg hp]
    exact iff_of_false nofun hp

theorem ensureFor_eq_ok_iff {o : Option α} {p : α → Prop} [DecidablePred p] {u : Unit} :
    ensureFor o p e = .ok u ↔ ∀ a, o = some a → p a := by
  cases o with
  | none => simp [ensureFor]
  | some a => simp [ensureFor, ensure_eq_ok_iff]

end Ensure

end Checks

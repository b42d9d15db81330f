import Mathlib.Data.Rat.Defs
import Cctf.Library.Text

/-!
# Flag validators

How a challenge's flag is checked: `FlagValidator::is_match` and
`FlagValidator::find_matching_partial`, with the `regex` and `rhai` crates as a
parameter.

* `Engines` — what a pattern or a script answers, `none` being a pattern that
  does not compile or a script that ends in an error.
* `FlagValidator.isMatch` — the check; surrounding whitespace never counts.
* `FlagValidator.findMatchingPartial` — the first part of a `Multi` flag a
  submission satisfies.
* `isMatch_trim` — whitespace around a flag never counts.
* `isMatch_congr` — a check without an `Instanced` part ignores the live instance flag.
* `isMatch_self` — **a flag that was accepted is also accepted when it is judged
  with itself as the live instance flag**, the way the scoreboard judges it
  later; the converse fails, since `Instanced` accepts any flag so judged
  (`isMatch_instanced_self`).
-/

namespace Cctf

open Text

/-- The engines of the `regex` and `rhai` crates. -/
structure Engines where
  /-- `Regex::new(pattern)` and then `is_match(text)`; `none` when the pattern
  does not compile. -/
  regexIsMatch : (pattern text : String) → Option Bool
  /-- `eval_with_scope::<bool>` with `flag` in scope; `none` on an error. -/
  evalFlag : (script flag : String) → Option Bool
  /-- `eval_with_scope::<i64>` with `solves` and `now` in scope; `none` on an
  error. -/
  evalCost : (script : String) → (solves : UInt32) → (now : ℤ) → Option ℤ
  /-- `eval_with_scope::<bool>` with `email` and `username` in scope; `none` on
  an error. -/
  evalBracket : (script email username : String) → Option Bool

/-- Engines that accept no pattern and fail on every script. -/
def Engines.silent : Engines where
  regexIsMatch := fun _ _ => none
  evalFlag := fun _ _ => none
  evalCost := fun _ _ _ => none
  evalBracket := fun _ _ _ => none

mutual

/-- One weighted part of a `Multi` flag. -/
structure PartialFlag where
  /-- The part's name. -/
  id : String
  /-- How the part is verified. -/
  validator : FlagValidator
  /-- The fraction of the challenge's value the part is worth. -/
  weight : ℚ

/-- How a challenge's flag is verified. -/
inductive FlagValidator where
  /-- Equal to a fixed text. -/
  | static (flag : String)
  /-- Matched by a pattern. -/
  | regex (pattern : String)
  /-- Accepted by a sandboxed script. -/
  | script (content : String)
  /-- Equal to the live flag of the submitter's own instance. -/
  | instanced
  /-- Weighted parts, each with a validator of its own. -/
  | multi (flags : List PartialFlag)

end

namespace FlagValidator

mutual

/-- `FlagValidator::is_match`: `activeInstancedFlag` is the live per-instance
flag, used by `instanced` only. -/
def isMatch (E : Engines) (submittedFlag : String) (activeInstancedFlag : Option String) :
    FlagValidator → Bool
  | .static flag => trim flag = trim submittedFlag
  | .regex pattern => (E.regexIsMatch pattern (trim submittedFlag)).getD false
  | .instanced =>
    match activeInstancedFlag with
    | some activeFlag => trim activeFlag = trim submittedFlag
    | none => false
  | .script content => (E.evalFlag content (trim submittedFlag)).getD false
  | .multi flags => anyMatch E submittedFlag activeInstancedFlag flags

/-- The `any` over the parts of a `Multi` flag. -/
def anyMatch (E : Engines) (submittedFlag : String) (activeInstancedFlag : Option String) :
    List PartialFlag → Bool
  | [] => false
  | f :: fs =>
    partMatch E submittedFlag activeInstancedFlag f ||
      anyMatch E submittedFlag activeInstancedFlag fs

/-- The check of one part of a `Multi` flag. -/
def partMatch (E : Engines) (submittedFlag : String) (activeInstancedFlag : Option String) :
    PartialFlag → Bool
  | ⟨_, validator, _⟩ => isMatch E submittedFlag activeInstancedFlag validator

end

/-- `FlagValidator::find_matching_partial`: the first part the submission
satisfies; `none` for the other validators. -/
def findMatchingPartial (E : Engines) (submittedFlag : String)
    (activeInstancedFlag : Option String) : FlagValidator → Option PartialFlag
  | .multi flags => flags.find? fun f => f.validator.isMatch E submittedFlag activeInstancedFlag
  | _ => none

/-- `matches!(flag, FlagValidator::Multi(_))`. -/
def isMulti : FlagValidator → Bool
  | .multi _ => true
  | _ => false

mutual

/-- Does the check look at the live instance flag, in some part? -/
def usesInstance : FlagValidator → Bool
  | .instanced => true
  | .multi flags => anyUsesInstance flags
  | _ => false

/-- Does one of some parts look at the live instance flag? -/
def anyUsesInstance : List PartialFlag → Bool
  | [] => false
  | f :: fs => partUsesInstance f || anyUsesInstance fs

/-- Does a part look at the live instance flag? -/
def partUsesInstance : PartialFlag → Bool
  | ⟨_, validator, _⟩ => usesInstance validator

end

/-- The parts of a `Multi` flag. -/
def parts : FlagValidator → List PartialFlag
  | .multi flags => flags
  | _ => []

variable {E : Engines} {f : String} {active : Option String}

@[simp] theorem partMatch_eq (p : PartialFlag) :
    partMatch E f active p = p.validator.isMatch E f active := by
  cases p
  rfl

/-- Only a `Multi` flag has parts to match. -/
theorem findMatchingPartial_of_not_multi {v : FlagValidator} (h : v.isMulti = false) :
    v.findMatchingPartial E f active = none := by
  cases v with
  | multi flags => simp [isMulti] at h
  | _ => rfl

/-- A matched part is a part of the flag, and it accepts the submission. -/
theorem findMatchingPartial_spec {flags : List PartialFlag} {p : PartialFlag}
    (h : (FlagValidator.multi flags).findMatchingPartial E f active = some p) :
    p ∈ flags ∧ p.validator.isMatch E f active = true :=
  ⟨List.mem_of_find?_eq_some h, by simpa using List.find?_some h⟩

/-- `Instanced` accepts every flag that is judged with itself as the live one. -/
theorem isMatch_instanced_self : isMatch E f (some f) .instanced = true := by
  simp [isMatch]

mutual

/-- **What was accepted is accepted again when judged with itself as the live
flag.** -/
theorem isMatch_self : ∀ v : FlagValidator, v.isMatch E f active = true →
    v.isMatch E f (some f) = true
  | .static _, h => h
  | .regex _, h => h
  | .script _, h => h
  | .instanced, _ => isMatch_instanced_self
  | .multi flags, h => anyMatch_self flags h

theorem anyMatch_self : ∀ flags : List PartialFlag, anyMatch E f active flags = true →
    anyMatch E f (some f) flags = true
  | [], h => h
  | p :: ps, h => by
    have hor : partMatch E f active p = true ∨ anyMatch E f active ps = true := by
      simpa [anyMatch] using h
    show (partMatch E f (some f) p || anyMatch E f (some f) ps) = true
    rcases hor with h | h
    · rw [partMatch_self p h, Bool.true_or]
    · rw [anyMatch_self ps h, Bool.or_true]

theorem partMatch_self : ∀ p : PartialFlag, partMatch E f active p = true →
    partMatch E f (some f) p = true
  | ⟨_, validator, _⟩, h => isMatch_self validator h

end

mutual

/-- **A check without `Instanced` does not depend on the live flag.** -/
theorem isMatch_congr {active' : Option String} : ∀ v : FlagValidator, v.usesInstance = false →
    v.isMatch E f active = v.isMatch E f active'
  | .static _, _ => rfl
  | .regex _, _ => rfl
  | .script _, _ => rfl
  | .instanced, h => absurd h (by simp [usesInstance])
  | .multi flags, h => anyMatch_congr flags h

theorem anyMatch_congr {active' : Option String} : ∀ flags : List PartialFlag,
    anyUsesInstance flags = false → anyMatch E f active flags = anyMatch E f active' flags
  | [], _ => rfl
  | p :: ps, h => by
    have hboth : partUsesInstance p = false ∧ anyUsesInstance ps = false := by
      simpa [anyUsesInstance] using h
    rw [anyMatch, anyMatch, partMatch_congr p hboth.1, anyMatch_congr ps hboth.2]

theorem partMatch_congr {active' : Option String} : ∀ p : PartialFlag,
    partUsesInstance p = false → partMatch E f active p = partMatch E f active' p
  | ⟨_, validator, _⟩, h => isMatch_congr validator h

end

mutual

/-- **Whitespace around the flags never counts**, neither around the submission nor around
the live flag. -/
theorem isMatch_trim : ∀ v : FlagValidator,
    v.isMatch E (trim f) (active.map trim) = v.isMatch E f active
  | .static _ => by rw [isMatch, isMatch, trim_trim]
  | .regex _ => by rw [isMatch, isMatch, trim_trim]
  | .script _ => by rw [isMatch, isMatch, trim_trim]
  | .instanced => by cases active <;> simp [isMatch]
  | .multi flags => anyMatch_trim flags

theorem anyMatch_trim : ∀ flags : List PartialFlag,
    anyMatch E (trim f) (active.map trim) flags = anyMatch E f active flags
  | [] => rfl
  | p :: ps => by rw [anyMatch, anyMatch, partMatch_trim p, anyMatch_trim ps]

theorem partMatch_trim : ∀ p : PartialFlag,
    partMatch E (trim f) (active.map trim) p = partMatch E f active p
  | ⟨_, validator, _⟩ => isMatch_trim validator

end

theorem isMatch_trim_right (v : FlagValidator) :
    v.isMatch E f (active.map trim) = v.isMatch E f active := by
  have htwice : (active.map trim).map trim = active.map trim := by cases active <;> simp
  calc
    v.isMatch E f (active.map trim)
      = v.isMatch E (trim f) ((active.map trim).map trim) := (isMatch_trim v).symm
    _ = v.isMatch E (trim f) (active.map trim) := by rw [htwice]
    _ = v.isMatch E f active := isMatch_trim v

@[simp] theorem isMatch_trim_left (v : FlagValidator) :
    v.isMatch E (trim f) active = v.isMatch E f active := by
  rw [← isMatch_trim_right v, isMatch_trim]

theorem findMatchingPartial_trim (v : FlagValidator) :
    v.findMatchingPartial E (trim f) active = v.findMatchingPartial E f active := by
  cases v with
  | multi flags => simp [findMatchingPartial]
  | _ => rw [findMatchingPartial_of_not_multi rfl, findMatchingPartial_of_not_multi rfl]

end FlagValidator

end Cctf

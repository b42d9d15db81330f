import Mathlib.Algebra.BigOperators.Ring.List
import Mathlib.Algebra.Order.BigOperators.Group.List
import Cctf.Services.Scoreboard

/-!
# The shares of the parts

The parts of a `Multi` flag share the value of their challenge by weight, and the share of
each part is rounded to whole points.

* `added` — what a challenge adds to the points of a team; `added_multi` gives it for a
  team that has every part.
* `Weighted` — weights that are not negative and add up to one.
* `added_near_value` — **all parts together are worth the value of the challenge, up to
  half a point for each part**, and exactly the value when every share is whole.
* `halves_gain_a_point` — two halves of 101 points are 102.
-/

namespace Cctf

open Rounding

section

variable (E : Engines) (team : Team) (subs : List Submission)
  (solvers : AList fun _ : String => Finset String) (before after : List Challenge)
  (challenge : Challenge)

/-- What a challenge of the list adds to the points of a team. -/
def added : ℤ :=
  (computeTeamSolveScore E team (before ++ challenge :: after) subs solvers).points -
    (computeTeamSolveScore E team (before ++ after) subs solvers).points

theorem added_eq :
    added E team subs solvers before after challenge =
      challengeValue E team (teamSubs team subs) (liveValue solvers challenge) challenge := by
  rw [added, computeTeamSolveScore_points, computeTeamSolveScore_points]
  simp only [List.map_append, List.sum_append, List.map_cons, List.sum_cons]
  ring

end

/-- The parts of a challenge, with weights that are not negative and add up to one. -/
structure Weighted (challenge : Challenge) (parts : List PartialFlag) : Prop where
  multi : challenge.flag = .multi parts
  nonneg : ∀ pf ∈ parts, 0 ≤ pf.weight
  sum : (parts.map fun pf => pf.weight).sum = 1

/-- The unrounded shares of a value. -/
def shares (value : UInt32) (parts : List PartialFlag) : List ℚ :=
  parts.map fun pf => (value.toNat : ℚ) * pf.weight

section

variable {E : Engines} {team : Team} {subs : List Submission}
  {solvers : AList fun _ : String => Finset String} {before after : List Challenge}
  {challenge : Challenge} {parts : List PartialFlag}

theorem Weighted.ne_nil (h : Weighted challenge parts) : parts ≠ [] := by
  rintro rfl
  exact absurd h.sum (by simp)

theorem Weighted.weight_le_one (h : Weighted challenge parts) {pf : PartialFlag}
    (hpf : pf ∈ parts) : pf.weight ≤ 1 := by
  have hle := List.single_le_sum (show ∀ w ∈ parts.map fun pf => pf.weight, 0 ≤ w by
    intro w hw
    obtain ⟨pf', hpf', rfl⟩ := List.mem_map.1 hw
    exact h.nonneg pf' hpf') pf.weight (List.mem_map_of_mem hpf)
  rwa [h.sum] at hle

/-- Together the unrounded shares are the value. -/
theorem Weighted.sum_shares (h : Weighted challenge parts) (value : UInt32) :
    (shares value parts).sum = value.toNat := by
  rw [shares, List.sum_map_mul_left, h.sum, mul_one]

theorem Weighted.shares_nonneg (h : Weighted challenge parts) (value : UInt32) :
    ∀ q ∈ shares value parts, 0 ≤ q := by
  intro q hq
  obtain ⟨pf, hpf, rfl⟩ := List.mem_map.1 hq
  exact mul_nonneg (Nat.cast_nonneg _) (h.nonneg pf hpf)

/-- The cast of a share to `i64` changes nothing. -/
theorem Weighted.saturateI64_share (h : Weighted challenge parts) (value : UInt32)
    {pf : PartialFlag} (hpf : pf ∈ parts) :
    saturateI64 (partialValue value pf.weight) = partialValue value pf.weight := by
  have hlow : roundHalfAway ((0 : ℤ) : ℚ) ≤ partialValue value pf.weight := by
    refine roundHalfAway_mono ?_
    rw [Int.cast_zero]
    exact mul_nonneg (Nat.cast_nonneg _) (h.nonneg pf hpf)
  have hhigh : partialValue value pf.weight ≤ roundHalfAway (value.toNat : ℚ) :=
    roundHalfAway_mono (mul_le_of_le_one_right (Nat.cast_nonneg _) (h.weight_le_one hpf))
  rw [roundHalfAway_intCast] at hlow
  rw [roundHalfAway_natCast] at hhigh
  have hvalue : value.toNat < 2 ^ 32 := value.toNat_lt
  exact saturateI64_of_mem hlow (by omega)

/-- **What a team that has every part is given**: the rounded shares. -/
theorem added_multi (h : Weighted challenge parts)
    (hsolved : ∀ pf ∈ parts, partScored E team challenge (teamSubs team subs) pf = true) :
    added E team subs solvers before after challenge =
      ((shares (liveValue solvers challenge) parts).map roundHalfAway).sum := by
  rw [added_eq, challengeValue, h.multi]
  simp only
  rw [List.filter_eq_self.2 hsolved, shares, List.map_map]
  exact congrArg List.sum (List.map_congr_left fun pf hpf => h.saturateI64_share _ hpf)

/-- **All parts together are worth the value, up to the rounding.**  A team that has solved
every part is given the value of the challenge, less than half a point per part short of it
and at most half a point per part above; and exactly the value when every share of it is a
whole number. -/
theorem added_near_value (h : Weighted challenge parts)
    (hsolved : ∀ pf ∈ parts, partScored E team challenge (teamSubs team subs) pf = true) :
    ((liveValue solvers challenge).toNat : ℚ) - parts.length / 2 <
        added E team subs solvers before after challenge ∧
      (added E team subs solvers before after challenge : ℚ) ≤
        (liveValue solvers challenge).toNat + parts.length / 2 ∧
      ((∀ pf ∈ parts, ∃ n : ℤ, ((liveValue solvers challenge).toNat : ℚ) * pf.weight = n) →
        added E team subs solvers before after challenge =
          ((liveValue solvers challenge).toNat : ℤ)) := by
  have hsum := h.sum_shares (liveValue solvers challenge)
  have hnonneg := h.shares_nonneg (liveValue solvers challenge)
  have hlength : (shares (liveValue solvers challenge) parts).length = parts.length :=
    List.length_map _
  rw [added_multi h hsolved]
  refine ⟨?_, ?_, fun hwhole => ?_⟩
  · have hlow := sum_roundHalfAway_gt hnonneg (by simpa [shares] using h.ne_nil)
    rwa [hsum, hlength] at hlow
  · have hhigh := (sum_roundHalfAway_near hnonneg).2
    rwa [hsum, hlength] at hhigh
  · have hkept := sum_roundHalfAway_of_whole (show ∀ q ∈ shares (liveValue solvers challenge) parts,
        ∃ n : ℤ, q = n by
      intro q hq
      obtain ⟨pf, hpf, rfl⟩ := List.mem_map.1 hq
      exact hwhole pf hpf)
    rw [hsum] at hkept
    exact_mod_cast hkept

end

/-! ## Two halves -/

/-- A part worth half of the challenge. -/
def half (flag : String) : PartialFlag := ⟨flag, .static flag, 1 / 2⟩

/-- Two of them. -/
def halfParts : List PartialFlag := [half "a", half "b"]

/-- A challenge of the two parts. -/
def halves (value : String) : Challenge :=
  .plain "c" "halves" ⟨.pointValue, value⟩ (.multi halfParts)

/-- Alice of `red` submits both. -/
def solvedHalves : List Submission :=
  [.correct "1" "c" (some "red") "alice" "a" 51 0, .correct "2" "c" (some "red") "alice" "b" 51 1]

/-- What the challenge adds to the points of `red`. -/
def addedHalves (value : String) : ℤ :=
  added .silent (.plain "red" ["alice"]) solvedHalves (buildChallengeSolvers solvedHalves) [] []
    (halves value)

/-- What the challenge is worth. -/
def valueHalves (value : String) : UInt32 :=
  liveValue (buildChallengeSolvers solvedHalves) (halves value)

theorem weighted_halves (value : String) : Weighted (halves value) halfParts where
  multi := rfl
  nonneg := by
    intro pf hpf
    simp only [halfParts, List.mem_cons, List.not_mem_nil, or_false] at hpf
    rcases hpf with rfl | rfl <;> norm_num [half]
  sum := by norm_num [halfParts, half]

/-- Two halves of 100 points are 100. -/
theorem added_near_value_halves :
    ((valueHalves "100").toNat : ℚ) - halfParts.length / 2 < addedHalves "100" ∧
      (addedHalves "100" : ℚ) ≤ (valueHalves "100").toNat + halfParts.length / 2 ∧
      ((∀ pf ∈ halfParts, ∃ n : ℤ, ((valueHalves "100").toNat : ℚ) * pf.weight = n) →
        addedHalves "100" = ((valueHalves "100").toNat : ℤ)) :=
  added_near_value (weighted_halves "100") (by decide +kernel)

/-- **Two halves of 101 points are 102.**  A team that has solved both parts has a point more
than the challenge is worth. -/
theorem halves_gain_a_point :
    Weighted (halves "101") halfParts ∧
      (∀ pf ∈ halfParts, partScored .silent (.plain "red" ["alice"]) (halves "101")
        (teamSubs (.plain "red" ["alice"]) solvedHalves) pf = true) ∧
      valueHalves "101" = 101 ∧ addedHalves "101" = 102 :=
  ⟨weighted_halves "101", by decide +kernel, by decide +kernel, by decide +kernel⟩

end Cctf

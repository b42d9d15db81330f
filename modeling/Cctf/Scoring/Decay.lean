import Cctf.Services.Solve

/-!
# The decay curve

A `DynamicDecay` challenge is worth `initial` to its first solver and falls towards
`minimum` as more teams solve it.

* `decayCurve`, `decayRatio` — the value before it is rounded, and the share of the span
  between the two bounds that it keeps.
* `calculateDynamicPoints_antitone`, `decayedPoints_antitone` — the price goes down with
  the solver count.
* `decayCurve_mem` — the curve stays between its bounds.
* `decay_bounded` — **so does the price, and the cast that ends it cuts nothing**.
-/

namespace Cctf

open Rounding

/-! ## The curve -/

/-- The share of the span that is left for so many solvers, from the second one on. -/
def decayRatio (decay solveCount : UInt32) : ℚ :=
  if decay = 0 then 0
  else
    1 / (1 + ((solveCount - 1).toNat : ℚ) * (solveCount - 1).toNat /
      ((decay.toNat : ℚ) * decay.toNat))

theorem calculateDynamicPoints_of_many {initial minimum decay solveCount : UInt32}
    (h : ¬ solveCount ≤ 1) :
    calculateDynamicPoints initial minimum decay solveCount =
      saturateU32 (roundHalfAway (((initial.toNat : ℚ) - minimum.toNat) *
        decayRatio decay solveCount + minimum.toNat)) := by
  rw [calculateDynamicPoints, if_neg h]
  rfl

/-- It is never more than all of it. -/
theorem decayRatio_le_one (decay solveCount : UInt32) : decayRatio decay solveCount ≤ 1 := by
  unfold decayRatio
  split
  · norm_num
  · have hpos : (0 : ℚ) ≤ ((solveCount - 1).toNat : ℚ) * (solveCount - 1).toNat /
        ((decay.toNat : ℚ) * decay.toNat) := by positivity
    rw [div_le_one (by positivity)]
    linarith

/-- The further from the first solver, the less. -/
theorem ratio_antitone {x y d : ℚ} (hx : 0 ≤ x) (hxy : x ≤ y) (hd : 0 < d) :
    1 / (1 + y * y / (d * d)) ≤ 1 / (1 + x * x / (d * d)) := by
  have hsq : x * x ≤ y * y := mul_self_le_mul_self hx hxy
  have hpos : 0 ≤ x * x / (d * d) := by positivity
  refine one_div_le_one_div_of_le (by linarith) ?_
  gcongr

theorem decayRatio_antitone (decay : UInt32) {m n : UInt32} (hm : ¬ m ≤ 1) (h : m ≤ n) :
    decayRatio decay n ≤ decayRatio decay m := by
  have hn : ¬ n ≤ 1 := fun hn => hm (UInt32.le_trans h hn)
  have hsub : ((m - 1).toNat : ℚ) ≤ ((n - 1).toNat : ℚ) := by
    have hle : m.toNat ≤ n.toNat := UInt32.le_iff_toNat_le.mp h
    rw [UInt32.toNat_sub_of_le _ _ (UInt32.le_of_lt (UInt32.not_le.mp hm)),
      UInt32.toNat_sub_of_le _ _ (UInt32.le_of_lt (UInt32.not_le.mp hn))]
    exact_mod_cast Nat.sub_le_sub_right hle _
  unfold decayRatio
  by_cases hdecay : decay = 0
  · rw [if_pos hdecay, if_pos hdecay]
  · rw [if_neg hdecay, if_neg hdecay]
    have hd : (0 : ℚ) < decay.toNat := by
      rw [Nat.cast_pos, Nat.pos_iff_ne_zero]
      exact fun hzero => hdecay (UInt32.toNat_inj.mp hzero)
    exact ratio_antitone (by positivity) hsub hd

/-- The value before it is rounded, from the second solver on. -/
def decayCurve (initial minimum decay solveCount : UInt32) : ℚ :=
  ((initial.toNat : ℚ) - minimum.toNat) * decayRatio decay solveCount + minimum.toNat

/-- **The decay curve falls.** -/
theorem calculateDynamicPoints_antitone {initial minimum decay m n : UInt32}
    (hfall : minimum ≤ initial) (h : m ≤ n) :
    calculateDynamicPoints initial minimum decay n ≤
      calculateDynamicPoints initial minimum decay m := by
  have hspan : (0 : ℚ) ≤ (initial.toNat : ℚ) - minimum.toNat := by
    rw [UInt32.le_iff_toNat_le] at hfall
    exact sub_nonneg.mpr (by exact_mod_cast hfall)
  by_cases hn : n ≤ 1
  · rw [calculateDynamicPoints, if_pos hn, calculateDynamicPoints, if_pos (UInt32.le_trans h hn)]
    exact UInt32.le_refl _
  · rw [calculateDynamicPoints_of_many hn]
    by_cases hm : m ≤ 1
    · -- whatever is left of the span is at most all of it
      have hcast : saturateU32 (roundHalfAway ((initial.toNat : ℕ) : ℚ)) = initial := by
        rw [roundHalfAway_natCast, saturateU32_natCast]
      rw [calculateDynamicPoints, if_pos hm]
      conv_rhs => rw [← hcast]
      refine saturateU32_mono (roundHalfAway_mono ?_)
      have hleft := mul_le_mul_of_nonneg_left (decayRatio_le_one decay n) hspan
      linarith
    · rw [calculateDynamicPoints_of_many hm]
      refine saturateU32_mono (roundHalfAway_mono ?_)
      have hleft := mul_le_mul_of_nonneg_left (decayRatio_antitone decay hm h) hspan
      linarith

/-! ## Its bounds -/

/-- It is never less than nothing. -/
theorem decayRatio_nonneg (decay solveCount : UInt32) : 0 ≤ decayRatio decay solveCount := by
  unfold decayRatio
  split
  · exact le_refl 0
  · positivity

section

variable {initial minimum : UInt32} (hfall : minimum ≤ initial) (decay solveCount : UInt32)
include hfall

/-- **The curve stays between its bounds.** -/
theorem decayCurve_mem :
    (minimum.toNat : ℚ) ≤ decayCurve initial minimum decay solveCount ∧
      decayCurve initial minimum decay solveCount ≤ initial.toNat := by
  have hspan : (0 : ℚ) ≤ (initial.toNat : ℚ) - minimum.toNat := by
    rw [UInt32.le_iff_toNat_le] at hfall
    exact sub_nonneg.mpr (by exact_mod_cast hfall)
  have hlow := mul_nonneg hspan (decayRatio_nonneg decay solveCount)
  have hhigh := mul_le_mul_of_nonneg_left (decayRatio_le_one decay solveCount) hspan
  unfold decayCurve
  constructor <;> linarith

/-- So does the rounded curve, and a `u32` holds it. -/
theorem roundHalfAway_decayCurve_mem :
    (minimum.toNat : ℤ) ≤ roundHalfAway (decayCurve initial minimum decay solveCount) ∧
      roundHalfAway (decayCurve initial minimum decay solveCount) ≤ initial.toNat := by
  obtain ⟨hlow, hhigh⟩ := decayCurve_mem hfall decay solveCount
  have hmin := roundHalfAway_mono hlow
  have hinit := roundHalfAway_mono hhigh
  rw [roundHalfAway_natCast] at hmin hinit
  exact ⟨hmin, hinit⟩

/-- The cast returns the rounded curve. -/
theorem toNat_calculateDynamicPoints (hmany : ¬ solveCount ≤ 1) :
    ((calculateDynamicPoints initial minimum decay solveCount).toNat : ℤ) =
      roundHalfAway (decayCurve initial minimum decay solveCount) := by
  obtain ⟨hlow, hhigh⟩ := roundHalfAway_decayCurve_mem hfall decay solveCount
  have hinit : initial.toNat < 2 ^ 32 := initial.toNat_lt
  rw [calculateDynamicPoints_of_many hmany, ← decayCurve, toNat_saturateU32]
  omega

/-- The price stays between its bounds. -/
theorem calculateDynamicPoints_mem :
    minimum ≤ calculateDynamicPoints initial minimum decay solveCount ∧
      calculateDynamicPoints initial minimum decay solveCount ≤ initial := by
  by_cases hmany : solveCount ≤ 1
  · rw [calculateDynamicPoints, if_pos hmany]
    exact ⟨hfall, UInt32.le_refl _⟩
  · obtain ⟨hlow, hhigh⟩ := roundHalfAway_decayCurve_mem hfall decay solveCount
    rw [← toNat_calculateDynamicPoints hfall decay solveCount hmany] at hlow hhigh
    rw [UInt32.le_iff_toNat_le, UInt32.le_iff_toNat_le]
    omega

end

/-- **The decay curve is bounded and falls.**  It never leaves the span between `minimum`
and `initial`, it never rises, up to the first solver it is `initial`, and from the second
one on the cast to `u32` returns the rounded value, which needs no clamping. -/
theorem decay_bounded {initial minimum decay n m : UInt32} (hfall : minimum ≤ initial)
    (h : n ≤ m) :
    minimum ≤ calculateDynamicPoints initial minimum decay m ∧
      calculateDynamicPoints initial minimum decay m ≤
        calculateDynamicPoints initial minimum decay n ∧
      calculateDynamicPoints initial minimum decay n ≤ initial ∧
      (∀ first : UInt32, first ≤ 1 →
        calculateDynamicPoints initial minimum decay first = initial) ∧
      ∀ many : UInt32, ¬ many ≤ 1 →
        0 ≤ roundHalfAway (decayCurve initial minimum decay many) ∧
          roundHalfAway (decayCurve initial minimum decay many) < 2 ^ 32 ∧
          ((calculateDynamicPoints initial minimum decay many).toNat : ℤ) =
            roundHalfAway (decayCurve initial minimum decay many) := by
  refine ⟨(calculateDynamicPoints_mem hfall decay m).1, calculateDynamicPoints_antitone hfall h,
    (calculateDynamicPoints_mem hfall decay n).2, fun first hfirst => ?_, fun many hmany => ?_⟩
  · rw [calculateDynamicPoints, if_pos hfirst]
  · obtain ⟨hlow, hhigh⟩ := roundHalfAway_decayCurve_mem hfall decay many
    have hinit : initial.toNat < 2 ^ 32 := initial.toNat_lt
    exact ⟨by omega, by omega, toNat_calculateDynamicPoints hfall decay many hmany⟩

/-- From 500 points down to 100, for two solvers and for fifty. -/
theorem decay_bounded_fifty :
    (100 : UInt32) ≤ calculateDynamicPoints 500 100 10 50 ∧
      calculateDynamicPoints 500 100 10 50 ≤ calculateDynamicPoints 500 100 10 2 ∧
      calculateDynamicPoints 500 100 10 2 ≤ 500 ∧
      (∀ first : UInt32, first ≤ 1 → calculateDynamicPoints 500 100 10 first = 500) ∧
      ∀ many : UInt32, ¬ many ≤ 1 →
        0 ≤ roundHalfAway (decayCurve 500 100 10 many) ∧
          roundHalfAway (decayCurve 500 100 10 many) < 2 ^ 32 ∧
          ((calculateDynamicPoints 500 100 10 many).toNat : ℤ) =
            roundHalfAway (decayCurve 500 100 10 many) :=
  decay_bounded (by decide) (by decide)

/-! ## Prices -/

/-- A decaying price goes down. -/
def ChallengePoints.Falling (p : ChallengePoints) : Prop :=
  ∀ initial minimum decay, p.mode = .dynamicDecay initial minimum decay → minimum ≤ initial

theorem decayedPoints_antitone {p : ChallengePoints} (hfall : p.Falling) {m n : UInt32}
    (h : m ≤ n) : decayedPoints p n ≤ decayedPoints p m := by
  unfold decayedPoints
  cases hmode : p.mode with
  | pointValue => exact UInt32.le_refl _
  | pointAttribution => exact UInt32.le_refl _
  | dynamicDecay initial minimum decay =>
    exact calculateDynamicPoints_antitone (hfall initial minimum decay hmode) h

theorem partialValue_mono {v v' : UInt32} (h : v ≤ v') {weight : ℚ} (hweight : 0 ≤ weight) :
    partialValue v weight ≤ partialValue v' weight := by
  refine roundHalfAway_mono (mul_le_mul_of_nonneg_right ?_ hweight)
  exact_mod_cast UInt32.le_iff_toNat_le.mp h

theorem partialValue_nonneg (v : UInt32) {weight : ℚ} (hweight : 0 ≤ weight) :
    0 ≤ partialValue v weight := by
  have hzero : roundHalfAway 0 = 0 := by simpa using roundHalfAway_natCast 0
  calc (0 : ℤ) = roundHalfAway 0 := hzero.symm
    _ ≤ partialValue v weight := roundHalfAway_mono (by positivity)

end Cctf

import Mathlib.Data.Rat.Floor

/-!
# Rounding and machine casts

Numbers that a program computes in floating point and casts to an integer are
read here as exact rationals.  `roundHalfAway` is rounding to the nearest
integer with halves going away from zero; `saturateU32` and `saturateI64` are
the float-to-integer casts, which clamp; `wrapU32` is the integer-to-integer
cast, which drops the high bits.

Rounding and the clamping casts keep the order (`roundHalfAway_mono`, `saturateU32_mono`,
`saturateI64_mono`); `wrapU32` keeps it until the count it cuts passes a multiple of `2 ^ 32`
(`wrapU32_succ`).  Numbers that are rounded one by one miss their sum by at most a half each
(`sum_roundHalfAway_near`).  A sum that wraps around keeps the order of two numbers that are
as many times through the range of an `i64` (`ofInt_le_ofInt_iff`).
-/

namespace Rounding

/-- Round to the nearest integer, halves away from zero. -/
def roundHalfAway (q : ℚ) : ℤ :=
  if 0 ≤ q then ⌊q + 1 / 2⌋ else ⌈q - 1 / 2⌉

/-- A float-to-`u32` cast: values out of range are clamped. -/
def saturateU32 (z : ℤ) : UInt32 :=
  if z < 0 then 0 else if 2 ^ 32 ≤ z then UInt32.ofNat (2 ^ 32 - 1) else UInt32.ofNat z.toNat

/-- A float-to-`i64` cast: values out of range are clamped. -/
def saturateI64 (z : ℤ) : ℤ := max (-2 ^ 63) (min z (2 ^ 63 - 1))

/-- A `usize`-to-`u32` cast: the high bits are dropped. -/
def wrapU32 (n : ℕ) : UInt32 := UInt32.ofNat n

/-- The clamping cast keeps what a `u32` can hold. -/
theorem saturateU32_natCast (n : UInt32) : saturateU32 (n.toNat : ℤ) = n := by
  have hlt : n.toNat < 2 ^ 32 := n.toNat_lt
  rw [saturateU32, if_neg (by omega), if_neg (by omega)]
  simp

/-! ## Order -/

theorem roundHalfAway_mono {p q : ℚ} (h : p ≤ q) : roundHalfAway p ≤ roundHalfAway q := by
  unfold roundHalfAway
  split
  · rename_i hp
    rw [if_pos (hp.trans h)]
    exact Int.floor_le_floor (by linarith)
  · rename_i hp
    split
    · -- a negative number is rounded to at most zero, the other to at least zero
      rename_i hq
      have hlow : ⌈p - 1 / 2⌉ ≤ 0 := by
        rw [Int.ceil_le]
        push_cast
        linarith
      have hhigh : 0 ≤ ⌊q + 1 / 2⌋ := Int.floor_nonneg.mpr (by linarith)
      exact hlow.trans hhigh
    · exact Int.ceil_le_ceil (by linarith)

theorem roundHalfAway_intCast (z : ℤ) : roundHalfAway z = z := by
  unfold roundHalfAway
  split
  · rw [Int.floor_eq_iff]
    constructor <;> linarith
  · rw [Int.ceil_eq_iff]
    constructor <;> linarith

theorem roundHalfAway_natCast (n : ℕ) : roundHalfAway n = n := by
  simpa using roundHalfAway_intCast (n : ℤ)

/-- Rounding a number that is not negative takes less than a half away, or adds at most a
half. -/
theorem roundHalfAway_near {q : ℚ} (h : 0 ≤ q) :
    q - 1 / 2 < roundHalfAway q ∧ (roundHalfAway q : ℚ) ≤ q + 1 / 2 := by
  rw [roundHalfAway, if_pos h]
  have hlow := Int.lt_floor_add_one (q + 1 / 2)
  have hhigh := Int.floor_le (q + 1 / 2)
  constructor <;> linarith

/-- **Rounding part by part**: over several numbers the errors add up to at most a half for
each. -/
theorem sum_roundHalfAway_near {qs : List ℚ} (h : ∀ q ∈ qs, 0 ≤ q) :
    qs.sum - qs.length / 2 ≤ ((qs.map roundHalfAway).sum : ℤ) ∧
      (((qs.map roundHalfAway).sum : ℤ) : ℚ) ≤ qs.sum + qs.length / 2 := by
  induction qs with
  | nil => simp
  | cons q qs ih =>
    obtain ⟨hlow, hhigh⟩ := ih fun x hx => h x (List.mem_cons_of_mem q hx)
    obtain ⟨hlow', hhigh'⟩ := roundHalfAway_near (h q List.mem_cons_self)
    simp only [List.map_cons, List.sum_cons, List.length_cons, Int.cast_add, Nat.cast_add,
      Nat.cast_one]
    constructor <;> linarith

/-- Whole numbers are not changed. -/
theorem sum_roundHalfAway_of_whole {qs : List ℚ} (h : ∀ q ∈ qs, ∃ n : ℤ, q = n) :
    (((qs.map roundHalfAway).sum : ℤ) : ℚ) = qs.sum := by
  induction qs with
  | nil => simp
  | cons q qs ih =>
    obtain ⟨n, rfl⟩ := h q List.mem_cons_self
    rw [List.map_cons, List.sum_cons, List.sum_cons, roundHalfAway_intCast, Int.cast_add,
      ih fun x hx => h x (List.mem_cons_of_mem _ hx)]

/-- With at least one number the whole of the lower error is never reached. -/
theorem sum_roundHalfAway_gt {qs : List ℚ} (h : ∀ q ∈ qs, 0 ≤ q) (hne : qs ≠ []) :
    qs.sum - qs.length / 2 < ((qs.map roundHalfAway).sum : ℤ) := by
  cases qs with
  | nil => exact absurd rfl hne
  | cons q qs =>
    have hlow := (sum_roundHalfAway_near fun x hx => h x (List.mem_cons_of_mem q hx)).1
    have hlow' := (roundHalfAway_near (h q List.mem_cons_self)).1
    simp only [List.map_cons, List.sum_cons, List.length_cons, Int.cast_add, Nat.cast_add,
      Nat.cast_one]
    linarith

theorem toNat_saturateU32 (z : ℤ) :
    ((saturateU32 z).toNat : ℤ) = max 0 (min z (2 ^ 32 - 1)) := by
  unfold saturateU32
  split
  · simp
    omega
  · split
    · simp
      omega
    · rw [UInt32.toNat_ofNat_of_lt' (by simp only [UInt32.size]; omega)]
      omega

theorem saturateU32_mono {y z : ℤ} (h : y ≤ z) : saturateU32 y ≤ saturateU32 z := by
  rw [UInt32.le_iff_toNat_le, ← Int.ofNat_le, toNat_saturateU32, toNat_saturateU32]
  omega

theorem saturateI64_mono {y z : ℤ} (h : y ≤ z) : saturateI64 y ≤ saturateI64 z := by
  unfold saturateI64
  omega

theorem saturateI64_nonneg {z : ℤ} (h : 0 ≤ z) : 0 ≤ saturateI64 z := by
  unfold saturateI64
  omega

/-- The clamping cast keeps what an `i64` can hold. -/
theorem saturateI64_of_mem {z : ℤ} (hlow : 0 ≤ z) (hhigh : z < 2 ^ 63) : saturateI64 z = z := by
  unfold saturateI64
  omega

theorem toNat_wrapU32 (n : ℕ) : (wrapU32 n).toNat = n % 2 ^ 32 := UInt32.toNat_ofNat'

/-- Counting one more is seen, or the count starts again from zero. -/
theorem wrapU32_succ (n : ℕ) :
    wrapU32 n ≤ wrapU32 (n + 1) ∨ (wrapU32 n = UInt32.ofNat (2 ^ 32 - 1) ∧ wrapU32 (n + 1) = 0) := by
  rw [UInt32.le_iff_toNat_le, ← UInt32.toNat_inj, ← UInt32.toNat_inj, toNat_wrapU32, toNat_wrapU32]
  simp
  omega

/-! ## Sums that wrap around -/

/-- How often a number has run through the range of an `i64`. -/
def lap (n : ℤ) : ℤ := (n + 2 ^ 63) / 2 ^ 64

/-- An `i64` shows the place within the lap. -/
theorem toInt_ofInt_eq (n : ℤ) : (Int64.ofInt n).toInt = n - 2 ^ 64 * lap n := by
  rw [Int64.toInt_ofInt, lap, Int.bmod_def]
  simp only [Int64.size]
  omega

/-- **The order of two `i64`s**: the one does not pass the other if what it gains on it makes up
for every lap more. -/
theorem ofInt_le_ofInt_iff (n m : ℤ) :
    Int64.ofInt n ≤ Int64.ofInt m ↔ 2 ^ 64 * (lap m - lap n) ≤ m - n := by
  rw [Int64.le_iff_toInt_le, toInt_ofInt_eq, toInt_ofInt_eq]
  omega

theorem ofInt_le_ofInt_of_lap {n m : ℤ} (h : lap n = lap m) :
    Int64.ofInt n ≤ Int64.ofInt m ↔ n ≤ m := by
  rw [ofInt_le_ofInt_iff, h]
  omega

end Rounding

/-
  VipChannel.Lib.Doubles

  Binary floating point of 53 bits, said of rational numbers.  `nearest` is the double
  nearest to a rational, ties to even; the exponent has no bounds, so that this is the
  format of `float` for numbers that neither overflow nor underflow.  Whole numbers below
  `2 ^ 53` are doubles, and the floor of a fraction survives where half a unit in the last
  place is less than the fraction's step.
-/
import VipChannel.Lib.Clock
import VipChannel.Lib.Rounding

namespace VipChannel.Lib

namespace Double

/-! ## The nearest double -/

/-- The digits of a significand. -/
def PRECISION : ℕ := 53

/-- The exponent of the last place of a double near `q`. -/
def lastBit (q : ℚ) : ℤ := Int.log 2 |q| + 1 - PRECISION

/-- The nearest double, ties to even. -/
def nearest (q : ℚ) : ℚ := halfEven (q / 2 ^ lastBit q) * 2 ^ lastBit q

@[simp] theorem nearest_zero : nearest 0 = 0 := by
  have hzero : halfEven 0 = 0 := halfEven_intCast 0
  rw [nearest, zero_div, hzero, Int.cast_zero, zero_mul]

theorem lastBit_neg (q : ℚ) : lastBit (-q) = lastBit q := by
  rw [lastBit, abs_neg, lastBit]

theorem nearest_neg (q : ℚ) : nearest (-q) = -nearest q := by
  rw [nearest, lastBit_neg, neg_div, halfEven_neg, Int.cast_neg, neg_mul, nearest]

/-- Rounding moves a number by half a unit in its last place at most. -/
theorem abs_nearest_sub_le (q : ℚ) : |nearest q - q| ≤ 2 ^ lastBit q / 2 := by
  have hunit : (0 : ℚ) < 2 ^ lastBit q := by positivity
  have hsplit : nearest q - q =
      ((halfEven (q / 2 ^ lastBit q) : ℚ) - q / 2 ^ lastBit q) * 2 ^ lastBit q := by
    rw [sub_mul, div_mul_cancel₀ q hunit.ne', nearest]
  rw [hsplit, abs_mul, abs_of_pos hunit]
  calc |(halfEven (q / 2 ^ lastBit q) : ℚ) - q / 2 ^ lastBit q| * 2 ^ lastBit q
      ≤ 1 / 2 * 2 ^ lastBit q :=
        mul_le_mul_of_nonneg_right (abs_halfEven_sub_le _) hunit.le
    _ = 2 ^ lastBit q / 2 := by ring

theorem lastBit_le {q : ℚ} {n : ℤ} (h0 : q ≠ 0) (h : |q| < 2 ^ n) : lastBit q ≤ n - PRECISION := by
  have hlog : Int.log 2 |q| < n :=
    (Int.lt_zpow_iff_log_lt (by norm_num) (abs_pos.mpr h0)).mp (by exact_mod_cast h)
  unfold lastBit
  omega

/-- A whole number of at most 53 digits is a double. -/
theorem nearest_intCast {z : ℤ} (h : |z| < 2 ^ PRECISION) : nearest (z : ℚ) = z := by
  by_cases h0 : z = 0
  · rw [h0, Int.cast_zero, nearest_zero]
  have hle : lastBit (z : ℚ) ≤ 0 := by
    have habs : |(z : ℚ)| < 2 ^ (PRECISION : ℤ) := by exact_mod_cast h
    have := lastBit_le (Int.cast_ne_zero.mpr h0) habs
    omega
  have hunit : (0 : ℚ) < 2 ^ lastBit (z : ℚ) := by positivity
  have hwhole : (z : ℚ) / 2 ^ lastBit (z : ℚ) = (z * 2 ^ (-lastBit (z : ℚ)).toNat : ℤ) := by
    push_cast
    rw [← zpow_natCast, Int.toNat_of_nonneg (by omega), zpow_neg, div_eq_mul_inv]
  rw [nearest, hwhole, halfEven_intCast, ← hwhole, div_mul_cancel₀ _ hunit.ne']

/-- A whole number of more digits is rounded to one that is as large. -/
theorem nearest_large {z : ℤ} (h : 2 ^ PRECISION ≤ |z|) :
    ∃ z' : ℤ, nearest (z : ℚ) = z' ∧ 2 ^ (PRECISION - 1) ≤ |z'| := by
  have h0 : (z : ℚ) ≠ 0 := by
    rintro hz
    rw [Int.cast_eq_zero.mp hz, abs_zero] at h
    exact absurd h (by decide)
  have hlast : 0 ≤ lastBit (z : ℚ) := by
    have hlog : (PRECISION : ℤ) ≤ Int.log 2 |(z : ℚ)| := by
      rw [← Int.zpow_le_iff_le_log (by norm_num) (abs_pos.mpr h0)]
      exact_mod_cast h
    unfold lastBit
    omega
  have hunit : (0 : ℚ) < 2 ^ lastBit (z : ℚ) := by positivity
  have hpow : (2 : ℚ) ^ lastBit (z : ℚ) = ((2 ^ (lastBit (z : ℚ)).toNat : ℤ) : ℚ) := by
    push_cast
    rw [← zpow_natCast, Int.toNat_of_nonneg hlast]
  -- The significand has all its digits.
  have hdigits : ∀ {q : ℚ}, q ≠ 0 → 0 ≤ q → 2 ^ (PRECISION - 1) ≤ halfEven (q / 2 ^ lastBit q) := by
    intro q hq hpos
    apply le_halfEven
    have hlog := Int.zpow_log_le_self (b := 2) (by norm_num) (lt_of_le_of_ne hpos hq.symm)
    rw [le_div_iff₀ (by positivity), lastBit, abs_of_nonneg hpos]
    refine le_trans (le_of_eq ?_) hlog
    push_cast
    rw [← zpow_natCast, ← zpow_add₀ (by norm_num)]
    congr 1
    simp only [PRECISION]
    omega
  have hsize : 2 ^ (PRECISION - 1) ≤ |halfEven ((z : ℚ) / 2 ^ lastBit (z : ℚ))| := by
    rcases le_total 0 (z : ℚ) with hz | hz
    · exact (hdigits h0 hz).trans (le_abs_self _)
    · have hneg := hdigits (neg_ne_zero.mpr h0) (neg_nonneg.mpr hz)
      rw [lastBit_neg, neg_div, halfEven_neg] at hneg
      exact hneg.trans (neg_le_abs _)
  refine ⟨halfEven ((z : ℚ) / 2 ^ lastBit (z : ℚ)) * 2 ^ (lastBit (z : ℚ)).toNat, ?_, ?_⟩
  · rw [nearest, Int.cast_mul, ← hpow]
  · rw [abs_mul, abs_of_pos (by positivity : (0 : ℤ) < 2 ^ (lastBit (z : ℚ)).toNat)]
    exact hsize.trans (le_mul_of_one_le_right (abs_nonneg _) (one_le_pow₀ (by norm_num)))

/-! ## Whole parts -/

/-- `int(x)`, and the whole part that `modf` gives. -/
def trunc (x : ℚ) : ℤ := if x < 0 then ⌈x⌉ else ⌊x⌋

theorem trunc_neg (x : ℚ) : trunc (-x) = -trunc x := by
  unfold trunc
  rcases lt_trichotomy x 0 with h | h | h
  · rw [if_neg (by linarith), if_pos h, Int.floor_neg]
  · rw [h]
    norm_num
  · rw [if_pos (by linarith), if_neg (by linarith), Int.ceil_neg]

@[simp] theorem trunc_intCast (z : ℤ) : trunc (z : ℚ) = z := by
  unfold trunc
  split_ifs
  · exact Int.ceil_intCast z
  · exact Int.floor_intCast z

/-- What the whole part leaves is of the number's sign. -/
theorem floor_eq_trunc (x : ℚ) : ⌊x⌋ = if x < trunc x then trunc x - 1 else trunc x := by
  unfold trunc
  split_ifs with hneg hlt hlt
  · rw [Int.floor_eq_iff]
    have hceil := Int.ceil_lt_add_one x
    push_cast
    constructor <;> linarith
  · exact le_antisymm (Int.floor_le_ceil x) (Int.le_floor.mpr (not_lt.mp hlt))
  · exact absurd (Int.floor_le x) (not_le.mpr hlt)
  · rfl

theorem abs_trunc_le (x : ℚ) : |(trunc x : ℚ)| ≤ |x| := by
  unfold trunc
  split_ifs with h
  · have hle : (⌈x⌉ : ℚ) ≤ 0 := by exact_mod_cast Int.ceil_le.mpr (by exact_mod_cast h.le)
    rw [abs_of_nonpos hle, abs_of_neg h]
    exact neg_le_neg (Int.le_ceil x)
  · have hge : (0 : ℚ) ≤ ⌊x⌋ := by exact_mod_cast Int.floor_nonneg.mpr (not_lt.mp h)
    rw [abs_of_nonneg hge, abs_of_nonneg (not_lt.mp h)]
    exact Int.floor_le x

section Fractions

variable {m : ℤ} {d n : ℕ}

/-- The double of a fraction lies between the same whole numbers, where the fraction's step
    is more than half a unit in the last place. -/
theorem floor_nearest (hd : 0 < d) (hlt : |m| < d * 2 ^ n)
    (hfits : d * 2 ^ n < 2 ^ (PRECISION + 1)) :
    ⌊nearest (m / d)⌋ = m / d := by
  have hd' : (0 : ℚ) < d := by exact_mod_cast hd
  have hdiv := Int.mul_ediv_add_emod m d
  have hpos : 0 ≤ m % d := Int.emod_nonneg m (by omega)
  have hless : m % d < d := Int.emod_lt_of_pos m (by omega)
  generalize hk : m / (d : ℤ) = k at *
  have hq : (m : ℚ) / d = k + ((m % d : ℤ) : ℚ) / d := by
    have hcast : (m : ℚ) = d * k + (m % d : ℤ) := by exact_mod_cast hdiv.symm
    rw [hcast, add_div, mul_div_cancel_left₀ _ hd'.ne']
  have hsmall : |(m : ℚ) / d| < 2 ^ (n : ℤ) := by
    rw [abs_div, abs_of_pos hd', div_lt_iff₀ hd', mul_comm]
    exact_mod_cast hlt
  by_cases hwhole : m % d = 0
  · have hq' : (m : ℚ) / d = k := by rw [hq, hwhole]; simp
    have hn : n ≤ PRECISION := by
      have hpow : 2 ^ n < 2 ^ (PRECISION + 1) := lt_of_le_of_lt (Nat.le_mul_of_pos_left _ hd) hfits
      have := (Nat.pow_lt_pow_iff_right (by norm_num)).mp hpow
      omega
    have hk' : |k| < 2 ^ PRECISION := by
      rw [hq'] at hsmall
      have hk'' : |k| < 2 ^ n := by exact_mod_cast hsmall
      exact hk''.trans_le (pow_le_pow_right₀ (by norm_num) hn)
    rw [hq', nearest_intCast hk', Int.floor_intCast]
  · have h0 : (m : ℚ) / d ≠ 0 := by
      intro h
      have hm : m = 0 := by
        rcases div_eq_zero_iff.mp h with h | h
        · exact_mod_cast h
        · exact absurd h hd'.ne'
      exact hwhole (by rw [hm, Int.zero_emod])
    -- The error is below the distance to either neighbour.
    have herror : |nearest (m / d) - m / d| < 1 / d := by
      have hlast : (2 : ℚ) ^ lastBit (m / d) ≤ 2 ^ ((n : ℤ) - PRECISION) :=
        zpow_le_zpow_right₀ (by norm_num) (lastBit_le h0 hsmall)
      have hhalf : (2 : ℚ) ^ ((n : ℤ) - PRECISION) / 2 < 1 / d := by
        have hfits' : (d : ℚ) * 2 ^ n < 2 ^ (PRECISION + 1) := by exact_mod_cast hfits
        rw [zpow_sub₀ (by norm_num), zpow_natCast, zpow_natCast, div_div, ← pow_succ,
          div_lt_div_iff₀ (by positivity) hd', one_mul, mul_comm]
        exact hfits'
      have := abs_nearest_sub_le ((m : ℚ) / d)
      linarith
    have hlow : (1 : ℚ) / d ≤ ((m % d : ℤ) : ℚ) / d := by
      apply div_le_div_of_nonneg_right _ hd'.le
      exact_mod_cast (by omega : 1 ≤ m % d)
    have hhigh : ((m % d : ℤ) : ℚ) / d ≤ 1 - 1 / d := by
      rw [le_sub_iff_add_le, ← add_div, div_le_one hd']
      exact_mod_cast (by omega : m % d + 1 ≤ d)
    obtain ⟨hlo, hhi⟩ := abs_lt.mp herror
    rw [Int.floor_eq_iff]
    constructor <;> linarith

/-- So does its whole part. -/
theorem trunc_nearest (hd : 0 < d) (hlt : |m| < d * 2 ^ n)
    (hfits : d * 2 ^ n < 2 ^ (PRECISION + 1)) :
    trunc (nearest (m / d)) = m.tdiv d := by
  have hnonneg : ∀ {z : ℤ}, 0 ≤ z → |z| < d * 2 ^ n → trunc (nearest (z / d)) = z.tdiv d := by
    intro z hz hlt
    have hfloor := floor_nearest hd hlt hfits
    have hpos : (0 : ℚ) ≤ nearest (z / d) := by
      rw [← Int.cast_zero, ← Int.le_floor, hfloor]
      exact Int.ediv_nonneg hz (by omega)
    rw [trunc, if_neg (not_lt.mpr hpos), hfloor, Int.tdiv_eq_ediv_of_nonneg hz]
  rcases le_total 0 m with h | h
  · exact hnonneg h hlt
  · have hneg := hnonneg (neg_nonneg.mpr h) (by rwa [abs_neg])
    rw [Int.cast_neg, neg_div, nearest_neg, trunc_neg, Int.neg_tdiv] at hneg
    exact neg_injective hneg

end Fractions

/-! ## Python's arithmetic -/

/-- `x * y`. -/
def mul (x y : ℚ) : ℚ := nearest (x * y)

/-- `fmod(x, y)`, which is exact. -/
def fmod (x y : ℚ) : ℚ := x - trunc (x / y) * y

/-- The multiple of `y` that `fmod` leaves of `x`, over `y`; one less where the remainder is
    not of `y`'s sign. -/
def quotient (x y : ℚ) : ℚ :=
  let div := nearest (nearest (x - fmod x y) / y)
  if fmod x y ≠ 0 ∧ ¬ (y < 0 ↔ fmod x y < 0) then nearest (div - 1) else div

/-- The nearest whole number to a quotient. -/
def snap (div : ℚ) : ℚ :=
  if 1 / 2 < nearest (div - ⌊div⌋) then nearest (⌊div⌋ + 1) else ⌊div⌋

/-- `x // y`, for `y` other than zero. -/
def floorDiv (x y : ℚ) : ℚ := snap (quotient x y)

theorem snap_intCast (z : ℤ) : snap (z : ℚ) = z := by
  rw [snap, Int.floor_intCast, sub_self, nearest_zero, if_neg (by norm_num)]

/-- By a whole number the quotient is not rounded. -/
theorem quotient_whole {x : ℚ} {n : ℤ} (hn : 0 < n) (hx : |x| + 1 < 2 ^ PRECISION) :
    quotient x n = ⌊x / n⌋ := by
  have hn' : (1 : ℚ) ≤ n := by exact_mod_cast hn
  have hn0 : (0 : ℚ) < n := by linarith
  have hround : ∀ {z : ℤ}, |(z : ℚ)| ≤ |x| + 1 → nearest z = z := by
    intro z hz
    apply nearest_intCast
    have hlt : |(z : ℚ)| < 2 ^ PRECISION := by linarith
    exact_mod_cast hlt
  have htrunc : |(trunc (x / n) : ℚ)| * n ≤ |x| := by
    have hle := abs_trunc_le (x / n)
    rwa [abs_div, abs_of_pos hn0, le_div_iff₀ hn0] at hle
  have hle : |(trunc (x / n) : ℚ)| ≤ |x| :=
    (le_mul_of_one_le_right (abs_nonneg _) hn').trans htrunc
  have hback : x - fmod x n = (trunc (x / n) * n : ℤ) := by
    rw [fmod]
    push_cast
    ring
  have hmul : |((trunc (x / n) * n : ℤ) : ℚ)| ≤ |x| + 1 := by
    rw [Int.cast_mul, abs_mul, abs_of_pos hn0]
    linarith
  have hdiv : nearest (nearest (x - fmod x n) / n) = trunc (x / n) := by
    rw [hback, hround hmul, Int.cast_mul, mul_div_cancel_right₀ _ hn0.ne']
    exact hround (by linarith)
  have hmod : fmod x n < 0 ↔ x / n < trunc (x / n) := by
    rw [fmod, sub_neg, div_lt_iff₀ hn0]
  have hpos : ¬ (n : ℚ) < 0 := not_lt.mpr hn0.le
  rw [quotient, hdiv, floor_eq_trunc]
  by_cases hneg : fmod x n < 0
  · -- Below zero `fmod` rounds up, and the quotient is one too large.
    have hsub : |((trunc (x / n) - 1 : ℤ) : ℚ)| ≤ |x| + 1 := by
      push_cast
      have := abs_sub (trunc (x / n) : ℚ) 1
      rw [abs_one] at this
      linarith
    have hless := hround hsub
    push_cast at hless
    rw [if_pos ⟨hneg.ne, fun h => hpos (h.mpr hneg)⟩, if_pos (hmod.mp hneg), hless]
    push_cast
    rfl
  · rw [if_neg fun h => h.2 ⟨fun h => absurd h hpos, fun h => absurd h hneg⟩,
      if_neg fun h => hneg (hmod.mpr h)]

theorem floorDiv_whole {x : ℚ} {n : ℤ} (hn : 0 < n) (hx : |x| + 1 < 2 ^ PRECISION) :
    floorDiv x n = ⌊x / n⌋ := by
  rw [floorDiv, quotient_whole hn hx, snap_intCast]

end Double

/-! ## Seconds -/

/-- `total_seconds()` of so many microseconds, and `timestamp()` of the instant so many
    microseconds from the epoch. -/
def totalSeconds (micros : Int) : ℚ := Double.nearest (micros / MICROS_PER_SECOND)

theorem totalSeconds_whole {n : Int} (h : |n| < 2 ^ Double.PRECISION) :
    totalSeconds (n * MICROS_PER_SECOND) = n := by
  have hsecond : (MICROS_PER_SECOND : ℚ) ≠ 0 := by norm_num [MICROS_PER_SECOND]
  rw [totalSeconds, Int.cast_mul, mul_div_cancel_right₀ _ hsecond, Double.nearest_intCast h]

/-- Within `2 ^ 34` seconds of the epoch, that is before the year 2514, the seconds are
    rounded to no other whole second. -/
theorem floor_totalSeconds {micros : Int} (h : |micros| < 2 ^ 34 * MICROS_PER_SECOND) :
    ⌊totalSeconds micros⌋ = micros / MICROS_PER_SECOND := by
  rw [Int.mul_comm] at h
  exact Double.floor_nearest (d := 1000000) (n := 34) (by decide) h (by decide)

theorem trunc_totalSeconds {micros : Int} (h : |micros| < 2 ^ 34 * MICROS_PER_SECOND) :
    Double.trunc (totalSeconds micros) = micros.tdiv MICROS_PER_SECOND := by
  rw [Int.mul_comm] at h
  exact Double.trunc_nearest (d := 1000000) (n := 34) (by decide) h (by decide)

end VipChannel.Lib

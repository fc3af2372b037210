/-
  VipChannel.Lib.Numeric

  A column of type NUMERIC(precision, scale): it keeps so many decimal places, and so many
  digits in all.  What does not fit in the places is rounded, half away from zero; what does
  not fit in the digits is refused.
-/
import VipChannel.Lib.Rounding

namespace VipChannel.Lib.Decimal

/-- The coefficient of a number at an exponent of `-scale`. -/
def atScale (scale coeff : Nat) (exp : Int) : Nat :=
  if -(scale : Int) ≤ exp then coeff * 10 ^ (exp + scale).toNat
  else
    let unit := 10 ^ (-(scale : Int) - exp).toNat
    (2 * coeff + unit) / (2 * unit)

/-- What the column keeps; `none` is a numeric field overflow. -/
def toNumeric? (precision scale : Nat) : Decimal → Option Decimal
  | .finite s c e =>
    let q := atScale scale c e
    if 10 ^ precision ≤ q then none else some (.finite (s && q != 0) q (-scale))
  | .infinity _ => none
  | .nan _ => some (.nan false)

/-- The number has no more places than the scale, and no more digits before the point than
    the precision leaves. -/
def Fits (precision scale : Nat) (d : Decimal) : Prop :=
  ∃ q, d.value = some q ∧ (∃ n : ℤ, q * 10 ^ scale = n) ∧ |q| * 10 ^ scale < 10 ^ precision

section Numeric

variable {precision scale : Nat} {d kept : Decimal} {q : ℚ}

theorem val_mul_scale (s : Bool) (c : ℕ) (e : ℤ) :
    val s c e * 10 ^ scale = signed s c * (10 : ℚ) ^ (e + scale) := by
  rw [val, mul_assoc, zpow_add₀ (by norm_num), zpow_natCast]

theorem val_atScale (s : Bool) (n : ℕ) : val s n (-scale) * 10 ^ scale = signed s n := by
  rw [val_mul_scale, neg_add_cancel, zpow_zero, mul_one]

/-- Zero has no sign of its own. -/
theorem signed_and_ne_zero (s : Bool) (n : ℕ) : signed (s && n != 0) n = signed s n := by
  by_cases hn : n = 0
  · rw [hn, signed_zero, signed_zero]
  · have hne : (n != 0) = true := bne_iff_ne.mpr hn
    rw [hne, Bool.and_true]

/-- A whole number of units is kept as it is. -/
theorem atScale_exact {s : Bool} {c : ℕ} {e n : ℤ} (h : val s c e * 10 ^ scale = n) :
    signed s (atScale scale c e) = n := by
  rw [val_mul_scale] at h
  unfold atScale
  split
  · next hle =>
    have hnat : ((e + scale).toNat : ℤ) = e + scale := Int.toNat_of_nonneg (by omega)
    rw [← hnat, zpow_natCast] at h
    have hint : signed s c * 10 ^ (e + scale).toNat = n := by exact_mod_cast h
    rw [← hint]
    cases s <;> simp [signed]
  · next hlt =>
    dsimp only
    have hnat : ((-(scale : ℤ) - e).toNat : ℤ) = -(e + scale) := by
      rw [Int.toNat_of_nonneg (by omega)]
      omega
    generalize (-(scale : ℤ) - e).toNat = k at hnat
    have hpos : 0 < 10 ^ k := Nat.pow_pos (by decide)
    -- The coefficient is the units, times the power that is dropped.
    have hunits : signed s c = n * 10 ^ k := by
      have hzpow : (10 : ℚ) ^ (e + scale) = ((10 : ℚ) ^ k)⁻¹ := by
        rw [← zpow_natCast, hnat, zpow_neg, inv_inv]
      rw [hzpow] at h
      have hne : (10 : ℚ) ^ k ≠ 0 := by positivity
      have hmul : (signed s c : ℚ) = n * 10 ^ k := by
        rw [← h, inv_mul_cancel_right₀ hne]
      exact_mod_cast hmul
    have hc : c = n.natAbs * 10 ^ k := by
      rw [← natAbs_signed s c, hunits, Int.natAbs_mul, Int.natAbs_pow]
      rfl
    have hround : (2 * c + 10 ^ k) / (2 * 10 ^ k) = n.natAbs := by
      have hodd : 2 * c + 10 ^ k = (2 * n.natAbs + 1) * 10 ^ k := by
        rw [hc]
        ring
      rw [hodd, Nat.mul_div_mul_right _ _ hpos]
      omega
    have hsame : signed s n.natAbs * 10 ^ k = n * 10 ^ k := by
      rw [← hunits, hc]
      cases s <;> simp [signed]
    rw [hround]
    exact Int.eq_of_mul_eq_mul_right (by positivity) hsame

/-- What a column keeps fits it. -/
theorem fits_of_toNumeric? (h : d.toNumeric? precision scale = some kept)
    (hq : kept.value = some q) : kept.Fits precision scale := by
  cases d with
  | infinity s => cases h
  | nan s =>
    cases h
    cases hq
  | finite s c e =>
    simp only [toNumeric?] at h
    generalize atScale scale c e = n at h
    split at h
    · cases h
    · next hlt =>
      cases h
      refine ⟨_, rfl, ⟨_, val_atScale _ n⟩, ?_⟩
      rw [abs_val, mul_assoc, ← zpow_natCast, ← zpow_add₀ (by norm_num), neg_add_cancel, zpow_zero,
        mul_one]
      exact_mod_cast not_le.mp hlt

/-- A number that fits is kept as it is. -/
theorem toNumeric?_of_fits (h : d.Fits precision scale) :
    ∃ kept, d.toNumeric? precision scale = some kept ∧ kept.value = d.value := by
  obtain ⟨q, hq, ⟨n, hn⟩, hroom⟩ := h
  obtain ⟨s, c, e, rfl, rfl⟩ := value_eq_some hq
  have hunits := atScale_exact hn
  simp only [toNumeric?]
  generalize atScale scale c e = m at hunits
  have hm : |val s c e| * 10 ^ scale = m := by
    have hpow : |(10 : ℚ) ^ scale| = 10 ^ scale := abs_of_pos (by positivity)
    rw [← hpow, ← abs_mul, hn, ← hunits, abs_signed]
  have hlt : m < 10 ^ precision := by
    rw [hm] at hroom
    exact_mod_cast hroom
  rw [if_neg (not_le.mpr hlt)]
  refine ⟨_, rfl, congrArg some ?_⟩
  have hkept : val (s && m != 0) m (-scale) * 10 ^ scale = val s c e * 10 ^ scale := by
    rw [val_atScale, signed_and_ne_zero, hunits, hn]
  exact mul_right_cancel₀ (by positivity) hkept

end Numeric

end VipChannel.Lib.Decimal

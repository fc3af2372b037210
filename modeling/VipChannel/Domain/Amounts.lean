/-
  VipChannel.Domain.Amounts

  What `formatAmount` prints: the amount rounded up to a whole number of cents, which the
  `Decimal` constructor reads back, and as a plain numeral unless it is a positive
  multiple of ten.
-/
import VipChannel.Domain.Messages
import VipChannel.Lib.Numerals

namespace VipChannel.Messages

open Lib Decimal

/-- The least whole number of cents that is not below `q`. -/
def cents (q : ℚ) : ℤ := ⌈q * 100⌉

/-- The amount printed for `q`. -/
def roundedUp (q : ℚ) : ℚ := cents q / 100

/-- The number a printed amount stands for. -/
def reading (text : String) : Option ℚ :=
  (ofString? text).bind value

/-! ## Rounding up to cents -/

theorem isLeast_roundedUp (q : ℚ) :
    IsLeast {x : ℚ | (∃ n : ℤ, x = n / 100) ∧ q ≤ x} (roundedUp q) := by
  constructor
  · refine ⟨⟨cents q, rfl⟩, ?_⟩
    rw [roundedUp, le_div_iff₀ (by norm_num)]
    exact Int.le_ceil _
  · rintro x ⟨⟨n, rfl⟩, hle⟩
    rw [le_div_iff₀ (by norm_num)] at hle
    rw [roundedUp, div_le_div_iff_of_pos_right (by norm_num)]
    exact_mod_cast Int.ceil_le.mpr hle

/-- What is rounded and normalized: the cents without their trailing zeros. -/
theorem quantized_normalized (s : Bool) (c : ℕ) (e : ℤ)
    (hfits : |cents (val s c e)| < 10 ^ PREC) :
    ∃ c' e', (quantizeCeiling 2 (.finite s c e)).map normalize = .ok (.finite s c' e') ∧
      val s c' e' = roundedUp (val s c e) ∧
      ((c' = 0 ∧ e' = 0 ∧ cents (val s c e) = 0) ∨
        ∃ k : ℕ, e' = k - 2 ∧ (cents (val s c e)).natAbs = c' * 10 ^ k ∧ c' % 10 ≠ 0) := by
  obtain ⟨hsigned, hquantize⟩ := quantizeCeiling_finite 2 s c e
  have hcents : ⌈val s c e * 10 ^ 2⌉ = cents (val s c e) := by
    rw [cents]
    norm_num
  rw [hcents] at hsigned hquantize
  have hdigits : ¬ PREC < numDigits (cents (val s c e)).natAbs := by
    rw [not_lt, numDigits_le_iff (by decide), ← Int.ofNat_lt, Int.natCast_natAbs]
    exact_mod_cast hfits
  rw [hquantize, if_neg hdigits]
  have hvalue : val s (cents (val s c e)).natAbs (-(2 : ℕ)) = roundedUp (val s c e) := by
    rw [val, hsigned, roundedUp, div_eq_mul_inv]
    norm_num
  by_cases h0 : (cents (val s c e)).natAbs = 0
  · refine ⟨0, 0, ?_, ?_, .inl ⟨rfl, rfl, Int.natAbs_eq_zero.mp h0⟩⟩
    · rw [h0]
      rfl
    · rw [← hvalue, h0]
      exact (val_eq_zero.mpr rfl).trans (val_eq_zero.mpr rfl).symm
  · obtain ⟨c', k, hnorm, hc, hlast⟩ := normalize_finite s h0 (-(2 : ℕ))
    refine ⟨c', _, congrArg Except.ok hnorm, ?_, .inr ⟨k, ?_, hc, hlast⟩⟩
    · rw [← val_mul_pow, ← hc, hvalue]
    · push_cast
      ring

theorem formatAmount_eq (v : Decimal) :
    formatAmount v = trap (((quantizeCeiling 2 v).map normalize).map text) := by
  unfold formatAmount
  cases quantizeCeiling 2 v <;> rfl

/-- Numbers of the size of the context are constructed. -/
theorem construct?_small {c k : ℕ} (s : Bool) (hc : c ≠ 0) (hlt : c * 10 ^ k < 10 ^ PREC) :
    construct? s c (k - 2) = some (.finite s c (k - 2)) := by
  have hk : k < 28 := by
    rw [← Nat.pow_lt_pow_iff_right (a := 10) (by norm_num)]
    refine lt_of_le_of_lt ?_ hlt
    exact Nat.le_mul_of_pos_left _ (Nat.pos_of_ne_zero hc)
  have hdigits : numDigits c ≤ 28 := by
    rw [numDigits_le_iff (by norm_num)]
    refine lt_of_le_of_lt ?_ hlt
    exact Nat.le_mul_of_pos_right _ (by positivity)
  have hmax : MAX_EMAX = 999999999999999999 := rfl
  have hmin : MIN_ETINY = -1999999999999999997 := rfl
  rw [construct?, if_neg]
  omega

/-- An amount that fits is printed, and the text reads as the amount rounded up. -/
theorem formatAmount_reading {v : Decimal} {q : ℚ} (hv : v.value = some q)
    (hfits : |cents q| < 10 ^ PREC) :
    ∃ text, formatAmount v = .ok text ∧ reading text = some (roundedUp q) := by
  obtain ⟨s, c, e, rfl, rfl⟩ := value_eq_some hv
  obtain ⟨c', e', hmap, hval, hparts⟩ := quantized_normalized s c e hfits
  refine ⟨text (.finite s c' e'), ?_, ?_⟩
  · rw [formatAmount_eq, hmap]
    rfl
  have hconstruct : construct? s c' e' = some (.finite s c' e') := by
    rcases hparts with ⟨rfl, rfl, -⟩ | ⟨k, rfl, hcents, hlast⟩
    · rfl
    · apply construct?_small s (by rintro rfl; exact hlast rfl)
      rw [← hcents, ← Int.ofNat_lt, Int.natCast_natAbs]
      exact_mod_cast hfits
  rw [reading, ofString?_text, hconstruct, Option.bind_some, value, hval]

/-- What is printed is a finite amount that fits. -/
theorem fits_of_formatAmount {v : Decimal} {q : ℚ} {text : String} (hv : v.value = some q)
    (h : formatAmount v = .ok text) : |cents q| < 10 ^ PREC := by
  obtain ⟨s, c, e, rfl, rfl⟩ := value_eq_some hv
  obtain ⟨-, hquantize⟩ := quantizeCeiling_finite 2 s c e
  have hcents : ⌈val s c e * 10 ^ 2⌉ = cents (val s c e) := by
    rw [cents]
    norm_num
  rw [hcents] at hquantize
  rw [formatAmount_eq, hquantize] at h
  split_ifs at h with hbig
  · cases h
  rw [not_lt, numDigits_le_iff (by decide), ← Int.ofNat_lt, Int.natCast_natAbs] at hbig
  exact_mod_cast hbig

/-! ## Plain numerals -/

/-- `text` is a plain decimal numeral of `q`: digits, and behind a point more digits that
    do not end in a zero. -/
inductive Plain : String → ℚ → Prop
  | whole {ds : List Char} : ds ≠ [] → (∀ c ∈ ds, c.isDigit = true) →
      Plain (String.ofList ds) (digitsValue ds)
  | point {ds fs : List Char} : ds ≠ [] → (∀ c ∈ ds ++ fs, c.isDigit = true) → fs ≠ [] →
      fs.getLast? ≠ some '0' →
      Plain (String.ofList (ds ++ '.' :: fs)) (digitsValue (ds ++ fs) / 10 ^ fs.length)

/-- A plain numeral has no sign and no exponent. -/
theorem Plain.characters {text : String} {q : ℚ} (h : Plain text q) :
    ∀ c ∈ text.toList, c.isDigit = true ∨ c = '.' := by
  cases h with
  | whole _ hds =>
    rw [String.toList_ofList]
    exact fun c hc => .inl (hds c hc)
  | point _ hds =>
    rw [String.toList_ofList]
    intro c hc
    rcases List.mem_append.mp hc with hc | hc
    · exact .inl (hds c (List.mem_append_left _ hc))
    · rcases List.mem_cons.mp hc with rfl | hc
      · exact .inr rfl
      · exact .inl (hds c (List.mem_append_right _ hc))

/-- The last digit of a run is its number's remainder by ten. -/
theorem mod_ten_of_getLast? {ds : List Char} (h : ds.getLast? = some '0') :
    digitsValue ds % 10 = 0 := by
  obtain ⟨init, rfl⟩ := List.getLast?_eq_some_iff.mp h
  rw [digitsValue_append_singleton]
  show (10 * digitsValue init + 0) % 10 = 0
  omega

/-- Without a sign, an exponent or a trailing zero a number is printed plainly. -/
theorem plain_text {c : ℕ} {e : ℤ} (he : e ≤ 0) (hleft : -6 < e + (digits c).length)
    (hlast : e < 0 → c % 10 ≠ 0) : Plain (text (.finite false c e)) (val false c e) := by
  obtain ⟨whole, frac, hspells, htext⟩ := text_parts_plain he hleft
  obtain ⟨k, hk, hshift⟩ := hspells.shifted
  have hzero : k = 0 := (Option.some.inj hk).symm
  have hstring : text (.finite false c e) = String.ofList (whole ++ fraction frac) := by
    rw [← String.ofList_toList (s := text (.finite false c e)), htext, List.append_nil]
  have hspelled := hspells.spelled
  rw [hstring]
  by_cases hnone : frac = []
  · subst hnone
    have hexp : e = 0 := by
      rw [hzero] at hshift
      simpa using hshift.symm
    rw [List.append_nil] at hspelled
    have hvalue : val false c e = digitsValue whole := by
      rw [hspelled, hexp, val]
      simp [signed]
    rw [hvalue, fraction, if_pos rfl, List.append_nil]
    exact .whole hspells.nonempty hspells.wholeDigits
  · have hexp : e = -(frac.length : ℤ) := by omega
    have hvalue : val false c e = digitsValue (whole ++ frac) / 10 ^ frac.length := by
      rw [hspelled, hexp, val, zpow_neg, zpow_natCast, div_eq_mul_inv]
      simp [signed]
    have hpos : 0 < frac.length := List.length_pos_of_ne_nil hnone
    rw [hvalue, fraction_of_ne_nil hnone]
    refine .point hspells.nonempty ?_ hnone ?_
    · intro d hd
      rcases List.mem_append.mp hd with hd | hd
      · exact hspells.wholeDigits d hd
      · exact hspells.fracDigits d hd
    · intro hend
      apply hlast (by omega)
      rw [← hspelled]
      apply mod_ten_of_getLast?
      rw [List.getLast?_append, hend]
      rfl

/-- A number with a positive exponent is printed with it. -/
theorem exponent_mem_text {c : ℕ} {e : ℤ} (he : 0 < e) :
    'E' ∈ (text (.finite false c e)).toList := by
  obtain ⟨whole, frac, exponent, hspells, htext⟩ := text_parts_scientific (c := c) (e := e)
    (by omega)
  obtain ⟨k, hk, hshift⟩ := hspells.shifted
  rw [htext]
  cases exponent with
  | nil =>
    have hzero : k = 0 := (Option.some.inj hk).symm
    omega
  | cons d exponent =>
    have hd : d = 'E' := hspells.mark d rfl
    rw [hd]
    simp

/-! ## When an amount is printed plainly -/

/-- `q` is printed as a plain numeral of the least whole number of cents not below it. -/
def PrintsPlainly (v : Decimal) (q : ℚ) : Prop :=
  ∃ text a, formatAmount v = .ok text ∧ Plain text a ∧
    IsLeast {x : ℚ | (∃ n : ℤ, x = n / 100) ∧ q ≤ x} a

/-- A zero with a minus sign. -/
def NegativeZero (v : Decimal) : Prop :=
  ∃ e, v = .finite true 0 e

/-- A number that is not negative carries a minus sign only as a zero. -/
theorem val_nonneg {s : Bool} {c : ℕ} {e : ℤ} (h : 0 ≤ val s c e) : s = true → c = 0 := by
  rintro rfl
  have hten : (0 : ℚ) < 10 ^ e := by positivity
  have hsign : (0 : ℚ) ≤ signed true c := by
    by_contra hneg
    exact absurd h (not_le.mpr (mul_neg_of_neg_of_pos (not_le.mp hneg) hten))
  simp only [signed, if_true, Int.cast_neg, Int.cast_natCast] at hsign
  have hc : (c : ℚ) ≤ 0 := by linarith
  exact_mod_cast Nat.le_zero.mp (by exact_mod_cast hc)

theorem cents_fits {q : ℚ} (h0 : 0 ≤ q) (hlt : q < 10 ^ 22) : |cents q| < 10 ^ PREC := by
  have hnonneg : 0 ≤ cents q := Int.ceil_nonneg (by linarith)
  have hle : cents q ≤ 10 ^ 24 := by
    rw [cents, Int.ceil_le]
    push_cast
    linarith
  rw [abs_of_nonneg hnonneg]
  exact lt_of_le_of_lt hle (by norm_num [PREC])

theorem thousand_dvd_iff {c k : ℕ} (h : c % 10 ≠ 0) : 1000 ∣ c * 10 ^ k ↔ 3 ≤ k := by
  constructor
  · intro hdvd
    by_contra hlt
    have hk : k = 0 ∨ k = 1 ∨ k = 2 := by omega
    rcases hk with rfl | rfl | rfl <;> omega
  · intro hk
    have hpow : 10 ^ k = 1000 * 10 ^ (k - 3) := by
      rw [show (1000 : ℕ) = 10 ^ 3 by norm_num, ← pow_add, Nat.add_sub_cancel' hk]
    rw [hpow]
    exact ⟨c * 10 ^ (k - 3), by ring⟩

/-- An amount is printed plainly exactly when, rounded up, it is zero or no multiple of ten,
    and is no negative zero. -/
theorem formatAmount_plain_iff {v : Decimal} {q : ℚ} (hv : v.value = some q) (h0 : 0 ≤ q)
    (hlt : q < 10 ^ 22) :
    PrintsPlainly v q ↔ ¬ NegativeZero v ∧ (cents q = 0 ∨ ¬ 1000 ∣ cents q) := by
  obtain ⟨s, c, e, rfl, rfl⟩ := value_eq_some hv
  have hfits := cents_fits h0 hlt
  obtain ⟨c', e', hmap, hval, hparts⟩ := quantized_normalized s c e hfits
  have htext : formatAmount (.finite s c e) = .ok (text (.finite s c' e')) := by
    rw [formatAmount_eq, hmap]
    rfl
  have hnegative : NegativeZero (.finite s c e) ↔ s = true := by
    constructor
    · rintro ⟨e₀, heq⟩
      cases heq
      rfl
    · intro hs
      refine ⟨e, ?_⟩
      rw [val_nonneg h0 hs, hs]
  -- The exponent that is left is positive just when the amount ends in a whole ten.
  have hexp : 0 < e' ↔ cents (val s c e) ≠ 0 ∧ 1000 ∣ cents (val s c e) := by
    rcases hparts with ⟨-, rfl, hzero⟩ | ⟨k, rfl, hcents, hlast⟩
    · simp [hzero]
    · have hne : cents (val s c e) ≠ 0 := by
        intro hzero
        rw [hzero] at hcents
        have hc' : c' = 0 := by simpa using hcents.symm
        exact hlast (by rw [hc'])
      have hdvd : 1000 ∣ cents (val s c e) ↔ 3 ≤ k := by
        rw [← thousand_dvd_iff hlast, ← hcents]
        exact Int.natCast_dvd.trans Iff.rfl
      rw [hdvd]
      omega
  constructor
  · rintro ⟨t, a, ht, hplain, -⟩
    rw [htext] at ht
    cases ht
    have hchars := hplain.characters
    constructor
    · intro hneg
      rw [hnegative.mp hneg, text_sign] at hchars
      rcases hchars '-' (by simp) with h | h
      · exact absurd h (by decide)
      · exact absurd h (by decide)
    · by_contra hten
      push Not at hten
      have hmem := exponent_mem_text (c := c') (hexp.mpr hten)
      rw [text_sign] at hchars
      rcases hchars 'E' (List.mem_append_right _ hmem) with h | h
      · exact absurd h (by decide)
      · exact absurd h (by decide)
  · rintro ⟨hpos, hten⟩
    have hs : s = false := by
      rw [hnegative] at hpos
      simpa using hpos
    subst hs
    have he' : e' ≤ 0 := by
      by_contra hbig
      obtain ⟨hne, hdvd⟩ := hexp.mp (not_le.mp hbig)
      rcases hten with h | h
      · exact hne h
      · exact h hdvd
    have hlength : 0 < (digits c').length := List.length_pos_of_ne_nil (digits_ne_nil c')
    refine ⟨_, _, htext, plain_text he' ?_ ?_, ?_⟩
    · rcases hparts with ⟨-, rfl, -⟩ | ⟨k, rfl, -, -⟩ <;> omega
    · intro hneg
      rcases hparts with ⟨-, rfl, -⟩ | ⟨k, -, -, hlast⟩
      · omega
      · exact hlast
    · rw [hval]
      exact isLeast_roundedUp _

/-- An amount with a fraction of a cent is printed plainly. -/
theorem a_fraction_is_plain : PrintsPlainly (.finite false 123456 (-3)) (123456 / 1000) := by
  have hcents : cents (123456 / 1000) = 12346 := by
    rw [cents, Int.ceil_eq_iff]
    norm_num
  apply (formatAmount_plain_iff ?_ (by norm_num) (by norm_num)).mpr
  · refine ⟨?_, .inr ?_⟩
    · rintro ⟨e, heq⟩
      cases heq
    · rw [hcents]
      decide
  · norm_num [value, val, signed]

/-- The usual minimum is printed with an exponent. -/
theorem three_hundred_is_not_plain :
    formatAmount (.ofInt 300) = .ok "3E+2" ∧ ¬ PrintsPlainly (.ofInt 300) 300 := by
  have htext : formatAmount (.ofInt 300) = .ok "3E+2" := by decide +kernel
  refine ⟨htext, ?_⟩
  rintro ⟨text, a, ht, hplain, -⟩
  rw [htext] at ht
  cases ht
  rcases hplain.characters 'E' (by simp) with h | h
  · exact absurd h (by decide)
  · exact absurd h (by decide)

end VipChannel.Messages

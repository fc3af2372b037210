/-
  VipChannel.Lib.Rounding

  What decimal arithmetic computes, said of rational numbers.  `value` reads a finite
  `Decimal`, `rounded` is the nearest number of the context's precision, ties to even;
  a sum is the rounded exact sum, or overflows.
-/
import VipChannel.Lib.Decimal

namespace VipChannel.Lib

/-! ## Rounding to an integer -/

/-- The nearest integer, ties to even. -/
def halfEven (x : ℚ) : ℤ :=
  if x - ⌊x⌋ < 1 / 2 then ⌊x⌋
  else if x - ⌊x⌋ = 1 / 2 then (if Even ⌊x⌋ then ⌊x⌋ else ⌊x⌋ + 1)
  else ⌊x⌋ + 1

theorem abs_halfEven_sub_le (x : ℚ) : |(halfEven x : ℚ) - x| ≤ 1 / 2 := by
  have hlo := Int.floor_le x
  have hhi := Int.lt_floor_add_one x
  unfold halfEven
  split_ifs <;> push_cast <;> rw [abs_le] <;> constructor <;> linarith

/-- At a tie the even neighbour is taken. -/
theorem halfEven_even {x : ℚ} (h : |(halfEven x : ℚ) - x| = 1 / 2) : Even (halfEven x) := by
  have hlo := Int.floor_le x
  have hhi := Int.lt_floor_add_one x
  unfold halfEven at h ⊢
  split_ifs at h ⊢ with hlt htie heven
  · rw [abs_sub_comm, abs_of_nonneg (by linarith)] at h
    linarith
  · exact heven
  · exact Int.even_add_one.mpr heven
  · push_cast at h
    rw [abs_of_nonneg (by linarith)] at h
    exact absurd (by linarith) htie

/-- Being nearest, and even at a tie, determines the result. -/
theorem halfEven_eq {x : ℚ} {n : ℤ} (h : |(n : ℚ) - x| ≤ 1 / 2)
    (heven : |(n : ℚ) - x| = 1 / 2 → Even n) : halfEven x = n := by
  have hx := abs_halfEven_sub_le x
  by_contra hne
  have hfar : (1 : ℚ) ≤ |(halfEven x : ℚ) - n| := by
    have hint : (1 : ℤ) ≤ |halfEven x - n| := Int.one_le_abs (sub_ne_zero.mpr hne)
    exact_mod_cast hint
  have htri : |(halfEven x : ℚ) - n| ≤ |(halfEven x : ℚ) - x| + |(n : ℚ) - x| := by
    rw [abs_sub_comm (n : ℚ) x]
    exact abs_sub_le _ _ _
  -- Two neighbours at distance one half each: both would be even.
  have hn : |(n : ℚ) - x| = 1 / 2 := by linarith
  have he : |(halfEven x : ℚ) - x| = 1 / 2 := by linarith
  have hone : |(halfEven x : ℚ) - n| = 1 := by linarith
  have hodd : |halfEven x - n| = 1 := by exact_mod_cast hone
  have heven' : Even (halfEven x - n) := (halfEven_even he).sub (heven hn)
  rw [← even_abs, hodd] at heven'
  exact absurd heven' (by decide)

@[simp] theorem halfEven_intCast (n : ℤ) : halfEven (n : ℚ) = n := by
  apply halfEven_eq
  · norm_num
  · intro h
    norm_num at h

theorem halfEven_neg (x : ℚ) : halfEven (-x) = -halfEven x := by
  have hdist : |((-halfEven x : ℤ) : ℚ) - -x| = |(halfEven x : ℚ) - x| := by
    push_cast
    rw [← abs_neg]
    ring_nf
  apply halfEven_eq
  · rw [hdist]
    exact abs_halfEven_sub_le x
  · intro h
    rw [hdist] at h
    exact (halfEven_even h).neg

/-- Rounding does not pass an integer. -/
theorem halfEven_le {x : ℚ} {n : ℤ} (h : x ≤ n) : halfEven x ≤ n := by
  have hx := (abs_le.mp (abs_halfEven_sub_le x)).2
  have hlt : (halfEven x : ℚ) < n + 1 := by linarith
  have hint : halfEven x < n + 1 := by exact_mod_cast hlt
  omega

theorem le_halfEven {x : ℚ} {n : ℤ} (h : (n : ℚ) ≤ x) : n ≤ halfEven x := by
  have hx := (abs_le.mp (abs_halfEven_sub_le x)).1
  have hlt : (n : ℚ) < halfEven x + 1 := by linarith
  have hint : n < halfEven x + 1 := by exact_mod_cast hlt
  omega

theorem halfEven_mono {x y : ℚ} (h : x ≤ y) : halfEven x ≤ halfEven y := by
  by_contra hlt
  have hx := (abs_le.mp (abs_halfEven_sub_le x)).2
  have hy := (abs_le.mp (abs_halfEven_sub_le y)).1
  have hstep : (halfEven y : ℚ) + 1 ≤ halfEven x := by
    have hint : halfEven y + 1 ≤ halfEven x := by omega
    exact_mod_cast hint
  -- The two results are neighbours, so the arguments are equal.
  have hxy : x = y := by linarith
  rw [hxy] at hlt
  exact hlt le_rfl

/-- An even number is not passed until the tie beyond it is. -/
theorem halfEven_le_iff {x : ℚ} {n : ℤ} (hn : Even n) : halfEven x ≤ n ↔ x ≤ n + 1 / 2 := by
  have hx := abs_le.mp (abs_halfEven_sub_le x)
  constructor
  · intro h
    have hcast : (halfEven x : ℚ) ≤ n := by exact_mod_cast h
    linarith
  · intro h
    by_contra hlt
    have hcast : (n : ℚ) + 1 ≤ halfEven x := by
      have hint : n + 1 ≤ halfEven x := by omega
      exact_mod_cast hint
    -- The result is the odd neighbour at a tie, which is never taken.
    have htie : (halfEven x : ℚ) - x = 1 / 2 := by linarith
    have hnext : halfEven x = n + 1 := by
      have hle : (halfEven x : ℚ) ≤ n + 1 := by linarith
      have hint : halfEven x ≤ n + 1 := by exact_mod_cast hle
      omega
    have heven := halfEven_even (x := x) (by rw [htie]; norm_num)
    rw [hnext, Int.even_add_one] at heven
    exact heven hn

namespace Decimal

theorem roundHalfEven_eq (c : ℕ) {d : ℕ} (hd : 0 < d) :
    (roundHalfEven c d : ℤ) = halfEven ((c : ℚ) / d) := by
  have hd' : (0 : ℚ) < d := by exact_mod_cast hd
  have hdiv := Nat.div_add_mod c d
  have hrd := Nat.mod_lt c hd
  symm
  unfold roundHalfEven
  simp only
  generalize c / d = q at *
  generalize c % d = r at *
  have hx : (c : ℚ) / d = q + (r : ℚ) / d := by
    rw [← hdiv]
    push_cast
    field_simp
  have hr0 : (0 : ℚ) ≤ (r : ℚ) / d := by positivity
  rw [hx]
  split_ifs with hlt htie heven
  · have hlt' : (r : ℚ) / d < 1 / 2 := by
      rw [div_lt_div_iff₀ hd' two_pos]
      exact_mod_cast (by omega : r * 2 < 1 * d)
    have hdist : |((q : ℤ) : ℚ) - (q + r / d)| < 1 / 2 := by
      rw [Int.cast_natCast, sub_add_cancel_left, abs_neg, abs_of_nonneg hr0]
      exact hlt'
    exact halfEven_eq hdist.le fun h => absurd h hdist.ne
  · have htie' : (r : ℚ) / d = 1 / 2 := by
      rw [div_eq_div_iff hd'.ne' two_ne_zero]
      exact_mod_cast (by omega : r * 2 = 1 * d)
    apply halfEven_eq
    · rw [Int.cast_natCast, sub_add_cancel_left, abs_neg, abs_of_nonneg hr0, htie']
    · intro _
      exact_mod_cast Nat.even_iff.mpr heven
  · have htie' : (r : ℚ) / d = 1 / 2 := by
      rw [div_eq_div_iff hd'.ne' two_ne_zero]
      exact_mod_cast (by omega : r * 2 = 1 * d)
    apply halfEven_eq
    · rw [htie']
      push_cast
      rw [add_sub_add_left_eq_sub]
      norm_num
    · intro _
      have hodd : Even (q + 1) := Nat.even_iff.mpr (by omega)
      exact_mod_cast hodd
  · have hgt : (1 : ℚ) / 2 < (r : ℚ) / d := by
      rw [div_lt_div_iff₀ two_pos hd']
      exact_mod_cast (by omega : 1 * d < r * 2)
    have hle : (r : ℚ) / d < 1 := by
      rw [div_lt_one hd']
      exact_mod_cast hrd
    have hdist : |((q + 1 : ℕ) : ℤ) - (q + (r : ℚ) / d)| < 1 / 2 := by
      push_cast
      rw [add_sub_add_left_eq_sub, abs_of_pos (by linarith)]
      linarith
    exact halfEven_eq hdist.le fun h => absurd h hdist.ne

/-! ## The value of a number -/

/-- The rational `±coeff · 10^exp`. -/
def val (negative : Bool) (coeff : ℕ) (exp : ℤ) : ℚ :=
  signed negative coeff * 10 ^ exp

/-- The rational a finite number stands for. -/
def value : Decimal → Option ℚ
  | .finite s c e => some (val s c e)
  | .infinity _ | .nan _ => none

theorem value_eq_some {d : Decimal} {q : ℚ} (h : d.value = some q) :
    ∃ s c e, d = .finite s c e ∧ val s c e = q := by
  cases d with
  | finite s c e => exact ⟨s, c, e, rfl, Option.some.inj h⟩
  | infinity s => cases h
  | nan s => cases h

@[simp] theorem natAbs_signed (s : Bool) (c : ℕ) : (signed s c).natAbs = c := by
  cases s <;> simp [signed]

@[simp] theorem signed_zero (s : Bool) : signed s 0 = 0 := by
  cases s <;> rfl

theorem signed_not (s : Bool) (c : ℕ) : signed (!s) c = -signed s c := by
  cases s <;> simp [signed]

/-- A number is its sign and its size. -/
theorem signed_natAbs {n : ℤ} {s : Bool} (h : n ≠ 0 → s = decide (n < 0)) :
    signed s n.natAbs = n := by
  rcases lt_trichotomy n 0 with hn | rfl | hn
  · rw [h hn.ne, decide_eq_true hn]
    simp only [signed, if_true]
    omega
  · simp
  · rw [h hn.ne', decide_eq_false (by omega)]
    simp only [signed, Bool.false_eq_true, if_false]
    omega

theorem abs_signed (s : Bool) (c : ℕ) : |((signed s c : ℤ) : ℚ)| = c := by
  rw [← Int.cast_abs, Int.abs_eq_natAbs, natAbs_signed]
  rfl

theorem abs_val (s : Bool) (c : ℕ) (e : ℤ) : |val s c e| = c * 10 ^ e := by
  rw [val, abs_mul, abs_signed, abs_of_pos (by positivity)]

theorem val_eq_zero {s : Bool} {c : ℕ} {e : ℤ} : val s c e = 0 ↔ c = 0 := by
  rw [← abs_eq_zero, abs_val, mul_eq_zero, Nat.cast_eq_zero]
  exact or_iff_left (by positivity)

/-- A trailing zero of the coefficient is a step of the exponent. -/
theorem val_ten_mul (s : Bool) (c : ℕ) (e : ℤ) : val s (10 * c) e = val s c (e + 1) := by
  rw [val, val, zpow_add₀ (by norm_num), zpow_one]
  cases s <;> simp only [signed, if_true, Bool.false_eq_true, if_false] <;> push_cast <;> ring

/-- Writing a number at a smaller exponent does not change it. -/
theorem scaled_mul (s : Bool) (c : ℕ) {e m : ℤ} (h : m ≤ e) :
    (scaled s c e m : ℚ) * 10 ^ m = val s c e := by
  unfold scaled val
  push_cast
  rw [mul_assoc, ← zpow_natCast, ← zpow_add₀ (by norm_num)]
  congr 2
  omega

/-! ## Rounding to the context -/

/-- The exponent of the last digit that is kept. -/
def lastPlace (q : ℚ) : ℤ :=
  max (Int.log 10 |q| + 1 - PREC) ETINY

/-- The nearest number of the context's precision, ties to even. -/
def rounded (q : ℚ) : ℚ :=
  halfEven (q / 10 ^ lastPlace q) * 10 ^ lastPlace q

/-- The numbers that are too large for the context start here. -/
def LIMIT : ℚ := 10 ^ (EMAX + 1)

@[simp] theorem rounded_zero : rounded 0 = 0 := by
  have h : halfEven 0 = 0 := by exact_mod_cast halfEven_intCast 0
  simp [rounded, h]

theorem numDigits_pos {c : ℕ} (h : c ≠ 0) : numDigits c = Nat.log 10 c + 1 := by
  rw [numDigits, if_neg h]

theorem numDigits_le_iff {c k : ℕ} (hk : 0 < k) : numDigits c ≤ k ↔ c < 10 ^ k := by
  unfold numDigits
  split_ifs with h
  · subst h
    have hpos : 0 < 10 ^ k := by positivity
    omega
  · rw [Nat.succ_le_iff]
    exact Nat.log_lt_iff_lt_pow (by norm_num) h

theorem log_val {s : Bool} {c : ℕ} {e : ℤ} (h : c ≠ 0) :
    Int.log 10 |val s c e| = Nat.log 10 c + e := by
  have hpos : 0 < |val s c e| := abs_pos.mpr (mt val_eq_zero.mp h)
  have hlo : ((10 ^ Nat.log 10 c : ℕ) : ℚ) ≤ c := by
    exact_mod_cast Nat.pow_log_le_self 10 h
  have hhi : (c : ℚ) < ((10 ^ (Nat.log 10 c + 1) : ℕ) : ℚ) := by
    exact_mod_cast Nat.lt_pow_succ_log_self (by norm_num) c
  have hten : (0 : ℚ) < 10 ^ e := by positivity
  apply le_antisymm
  · apply Int.lt_add_one_iff.mp
    rw [← Int.lt_zpow_iff_log_lt (by norm_num) hpos, abs_val]
    calc (c : ℚ) * 10 ^ e < ((10 ^ (Nat.log 10 c + 1) : ℕ) : ℚ) * 10 ^ e :=
          mul_lt_mul_of_pos_right hhi hten
      _ = (10 : ℕ) ^ ((Nat.log 10 c : ℤ) + e + 1) := by
          push_cast
          rw [← zpow_natCast, ← zpow_add₀ (by norm_num)]
          push_cast
          ring_nf
  · rw [← Int.zpow_le_iff_le_log (by norm_num) hpos, abs_val]
    calc ((10 : ℕ) : ℚ) ^ ((Nat.log 10 c : ℤ) + e)
        = ((10 ^ Nat.log 10 c : ℕ) : ℚ) * 10 ^ e := by
          push_cast
          rw [zpow_add₀ (by norm_num), zpow_natCast]
      _ ≤ (c : ℚ) * 10 ^ e := mul_le_mul_of_nonneg_right hlo hten.le

/-- A whole number of last places is not rounded. -/
theorem rounded_eq_self {q : ℚ} {n : ℤ} (h : q = n * 10 ^ lastPlace q) : rounded q = q := by
  have hten : (10 : ℚ) ^ lastPlace q ≠ 0 := by positivity
  have hdiv : q / 10 ^ lastPlace q = n := by
    rw [div_eq_iff hten]
    exact h
  rw [rounded, hdiv, halfEven_intCast, ← h]

theorem halfEven_signed (s : Bool) (c : ℕ) {d : ℕ} (hd : 0 < d) :
    halfEven ((signed s c : ℤ) / (d : ℚ)) = signed s (roundHalfEven c d) := by
  have h := roundHalfEven_eq c hd
  cases s
  · simp only [signed, Bool.false_eq_true, if_false, Int.cast_natCast]
    exact h.symm
  · simp only [signed, if_true, Int.cast_neg, Int.cast_natCast, neg_div, halfEven_neg]
    rw [h]

/-- The size of a number against the context's limit is read off its exponent and its
    digits. -/
theorem limit_le_iff {s : Bool} {c : ℕ} {e : ℤ} (h : c ≠ 0) :
    LIMIT ≤ |val s c e| ↔ EMAX < e + numDigits c - 1 := by
  have hpos : 0 < |val s c e| := abs_pos.mpr (mt val_eq_zero.mp h)
  have hlog := log_val (s := s) (e := e) h
  have hiff := Int.zpow_le_iff_le_log (b := 10) (x := EMAX + 1) (by norm_num) hpos
  rw [hlog] at hiff
  rw [LIMIT, numDigits_pos h]
  push_cast at hiff ⊢
  rw [hiff]
  omega

/-- What became of an exact result `q` with the sign `s`. -/
inductive Fixed (s : Bool) (q : ℚ) : Except DecimalSignal Decimal → Prop
  | fits {c : ℕ} {e : ℤ} : val s c e = rounded q → |rounded q| < LIMIT →
      Fixed s q (.ok (.finite s c e))
  | large : LIMIT ≤ |rounded q| → Fixed s q (.error .overflow)

theorem fixed_of_val {s : Bool} {q : ℚ} {c : ℕ} {e : ℤ} (h : val s c e = rounded q)
    (hc : c = 0 → e ≤ EMAX) :
    Fixed s q (if EMAX < e + numDigits c - 1 then .error .overflow else .ok (.finite s c e)) := by
  by_cases h0 : c = 0
  · have hq : rounded q = 0 := by rw [← h, h0]; exact val_eq_zero.mpr rfl
    have he := hc h0
    rw [if_neg (by rw [h0, numDigits, if_pos rfl]; push_cast; omega)]
    apply Fixed.fits h
    rw [hq, abs_zero, LIMIT]
    positivity
  · have hiff := limit_le_iff (s := s) (e := e) h0
    rw [h] at hiff
    split_ifs with hbig
    · exact .large (hiff.mpr hbig)
    · exact .fits h (lt_of_not_ge fun hge => hbig (hiff.mp hge))

/-- The coefficient in units of the last place: at most one digit too many to be kept. -/
theorem div_lastPlace_bounds {s : Bool} {c : ℕ} {e : ℤ} (h : c ≠ 0)
    (hlt : e < lastPlace (val s c e)) :
    (c : ℚ) / (10 ^ (lastPlace (val s c e) - e).toNat : ℕ) ≤ (10 ^ PREC : ℕ) ∧
      (lastPlace (val s c e) ≠ ETINY →
        1 ≤ (c : ℚ) / (10 ^ (lastPlace (val s c e) - e).toNat : ℕ)) := by
  have hplace : lastPlace (val s c e) = max (Nat.log 10 c + e + 1 - PREC) ETINY := by
    rw [lastPlace, log_val h]
  generalize lastPlace (val s c e) = t at *
  have hd : (0 : ℚ) < (10 ^ (t - e).toNat : ℕ) := by positivity
  have hup := Nat.lt_pow_succ_log_self (b := 10) (by norm_num) c
  have hlow := Nat.pow_log_le_self 10 h
  constructor
  · rw [div_le_iff₀ hd]
    have hle : c ≤ 10 ^ PREC * 10 ^ (t - e).toNat := by
      rw [← pow_add]
      refine hup.le.trans (Nat.pow_le_pow_right (by norm_num) ?_)
      omega
    exact_mod_cast hle
  · intro htiny
    rw [le_div_iff₀ hd, one_mul]
    have hle : 10 ^ (t - e).toNat ≤ c := by
      refine (Nat.pow_le_pow_right (by norm_num) ?_).trans hlow
      have hprec : PREC = 28 := rfl
      omega
    exact_mod_cast hle

/-- `fix` rounds. -/
theorem fix_fixed (s : Bool) (c : ℕ) (e : ℤ) : Fixed s (val s c e) (fix s c e) := by
  unfold fix
  by_cases h0 : c = 0
  · rw [if_pos h0]
    subst h0
    have hzero : val s 0 e = 0 := val_eq_zero.mpr rfl
    have hval : val s 0 (max ETINY (min e EMAX)) = rounded (val s 0 e) := by
      rw [hzero, rounded_zero]
      exact val_eq_zero.mpr rfl
    apply Fixed.fits hval
    rw [hzero, rounded_zero, abs_zero, LIMIT]
    positivity
  rw [if_neg h0]
  have hplace : lastPlace (val s c e) = max (e + numDigits c - PREC) ETINY := by
    rw [lastPlace, log_val h0, numDigits_pos h0]
    congr 1
    push_cast
    ring
  simp only
  rw [← hplace]
  by_cases hle : lastPlace (val s c e) ≤ e
  · -- Nothing is dropped.
    rw [if_pos hle]
    have hself : rounded (val s c e) = val s c e :=
      rounded_eq_self (scaled_mul s c hle).symm
    exact fixed_of_val hself.symm fun h => absurd h h0
  rw [if_neg hle]
  obtain ⟨hupper, hlower⟩ := div_lastPlace_bounds h0 (not_le.mp hle)
  have hunits : val s c e / 10 ^ lastPlace (val s c e) = (signed s c : ℤ) /
      ((10 ^ (lastPlace (val s c e) - e).toNat : ℕ) : ℚ) := by
    generalize lastPlace (val s c e) = t at hle ⊢
    have hsplit : (10 : ℚ) ^ t = 10 ^ (t - e).toNat * 10 ^ e := by
      rw [← zpow_natCast, ← zpow_add₀ (by norm_num)]
      congr 1
      omega
    rw [val, hsplit, mul_div_mul_right _ _ (by positivity)]
    push_cast
    rfl
  have hrounded : rounded (val s c e) = halfEven (val s c e / 10 ^ lastPlace (val s c e)) *
      10 ^ lastPlace (val s c e) := rfl
  rw [hunits] at hrounded
  generalize lastPlace (val s c e) = t at *
  have hd : 0 < 10 ^ (t - e).toNat := by positivity
  rw [halfEven_signed s c hd] at hrounded
  have hround : val s (roundHalfEven c (10 ^ (t - e).toNat)) t = rounded (val s c e) :=
    hrounded.symm
  have hbound : roundHalfEven c (10 ^ (t - e).toNat) ≤ 10 ^ PREC := by
    have h := halfEven_le (n := (10 ^ PREC : ℕ)) (by exact_mod_cast hupper)
    rw [← roundHalfEven_eq c hd] at h
    exact_mod_cast h
  have hzero : roundHalfEven c (10 ^ (t - e).toNat) = 0 → t ≤ EMAX := by
    intro hnone
    have htiny : t = ETINY := by
      by_contra hne
      have h := le_halfEven (n := 1) (by exact_mod_cast hlower hne)
      rw [← roundHalfEven_eq c hd, hnone] at h
      exact absurd h (by decide)
    rw [htiny]
    decide
  generalize roundHalfEven c (10 ^ (t - e).toNat) = c' at *
  by_cases hmore : PREC < numDigits c'
  · -- The coefficient was rounded up to the next power of ten.
    rw [if_pos hmore]
    have hge : 10 ^ PREC ≤ c' := by
      by_contra hlt
      exact absurd ((numDigits_le_iff (by decide)).mpr (not_le.mp hlt)) (not_le.mpr hmore)
    have hc' : c' = 10 * 10 ^ (PREC - 1) := le_antisymm hbound hge
    have hten : c' / 10 = 10 ^ (PREC - 1) := by
      rw [hc', Nat.mul_div_cancel_left _ (by norm_num)]
    apply fixed_of_val
    · rw [← hround, hten, hc', val_ten_mul]
    · intro h
      change c' / 10 = 0 at h
      rw [hten] at h
      exact absurd h (by decide)
  · rw [if_neg hmore]
    exact fixed_of_val hround hzero

/-! ## Sums and comparisons -/

/-- What `a + b` gives for finite operands. -/
theorem add_fixed {a b : Decimal} {p q : ℚ} (ha : a.value = some p) (hb : b.value = some q) :
    ∃ s, Fixed s (p + q) (a.add b) := by
  obtain ⟨s, c, e, rfl, rfl⟩ := value_eq_some ha
  obtain ⟨s', c', e', rfl, rfl⟩ := value_eq_some hb
  simp only [add]
  generalize hsum : scaled s c e (min e e') + scaled s' c' e' (min e e') = sum
  generalize hsign : (if sum = 0 then s && s' else decide (sum < 0)) = sign
  have hvalue : val sign sum.natAbs (min e e') = val s c e + val s' c' e' := by
    have hs : signed sign sum.natAbs = sum := by
      apply signed_natAbs
      intro hne
      rw [← hsign, if_neg hne]
    rw [← scaled_mul s c (min_le_left e e'), ← scaled_mul s' c' (min_le_right e e'), ← add_mul,
      ← Int.cast_add, hsum, val, hs]
  refine ⟨sign, ?_⟩
  rw [← hvalue]
  exact fix_fixed sign sum.natAbs (min e e')

theorem value_neg {a : Decimal} {p : ℚ} (h : a.value = some p) : a.neg.value = some (-p) := by
  obtain ⟨s, c, e, rfl, rfl⟩ := value_eq_some h
  simp only [neg, value, val, signed_not, Int.cast_neg, neg_mul]

/-- What `a - b` gives for finite operands. -/
theorem sub_fixed {a b : Decimal} {p q : ℚ} (ha : a.value = some p) (hb : b.value = some q) :
    ∃ s, Fixed s (p - q) (a.sub b) := by
  rw [sub_eq_add_neg]
  exact add_fixed ha (value_neg hb)

/-- A result that fits is the rounded exact one. -/
theorem Fixed.value {s : Bool} {q : ℚ} {d : Decimal} (h : Fixed s q (.ok d)) :
    d.value = some (rounded q) := by
  cases h with
  | fits hval _ => exact congrArg some hval

theorem Fixed.lt_limit {s : Bool} {q : ℚ} {d : Decimal} (h : Fixed s q (.ok d)) :
    |rounded q| < LIMIT := by
  cases h with
  | fits _ hlt => exact hlt

theorem add_value {a b d : Decimal} {p q : ℚ} (ha : a.value = some p) (hb : b.value = some q)
    (h : a.add b = .ok d) : d.value = some (rounded (p + q)) := by
  obtain ⟨s, hfix⟩ := add_fixed ha hb
  rw [h] at hfix
  exact hfix.value

theorem sub_value {a b d : Decimal} {p q : ℚ} (ha : a.value = some p) (hb : b.value = some q)
    (h : a.sub b = .ok d) : d.value = some (rounded (p - q)) := by
  obtain ⟨s, hfix⟩ := sub_fixed ha hb
  rw [h] at hfix
  exact hfix.value

/-- An exact result below the limit is computed. -/
theorem Fixed.exists_ok {s : Bool} {q : ℚ} {r : Except DecimalSignal Decimal} (h : Fixed s q r)
    (hlim : |rounded q| < LIMIT) : ∃ d, r = .ok d := by
  cases h with
  | fits => exact ⟨_, rfl⟩
  | large hge => exact absurd hlim (not_lt.mpr hge)

/-- Comparing finite numbers compares their values. -/
theorem lt_value {a b : Decimal} {p q : ℚ} (ha : a.value = some p) (hb : b.value = some q) :
    a.lt b = .ok (decide (p < q)) := by
  obtain ⟨s, c, e, rfl, rfl⟩ := value_eq_some ha
  obtain ⟨s', c', e', rfl, rfl⟩ := value_eq_some hb
  simp only [lt]
  congr 1
  apply decide_eq_decide.mpr
  rw [← scaled_mul s c (min_le_left e e'), ← scaled_mul s' c' (min_le_right e e')]
  rw [mul_lt_mul_iff_left₀ (by positivity)]
  exact Int.cast_lt.symm

/-! ## Exact results -/

theorem abs_lt_zpow_lastPlace (q : ℚ) : |q| < 10 ^ PREC * 10 ^ lastPlace q := by
  have hlog := Int.lt_zpow_succ_log_self (b := 10) (by norm_num) |q|
  rw [← zpow_natCast, ← zpow_add₀ (by norm_num)]
  push_cast at hlog
  refine hlog.trans_le (zpow_le_zpow_right₀ (by norm_num) ?_)
  have hmax := le_max_left (Int.log 10 |q| + 1 - PREC) ETINY
  rw [lastPlace]
  omega

/-- At most 28 digits, none below the context's last place. -/
def Representable (q : ℚ) : Prop :=
  ∃ m k : ℤ, q = m * 10 ^ k ∧ |m| < 10 ^ PREC ∧ ETINY ≤ k

theorem rounded_of_representable {q : ℚ} (h : Representable q) : rounded q = q := by
  obtain ⟨m, k, rfl, hm, hk⟩ := h
  by_cases h0 : m = 0
  · simp [h0]
  have hten : (0 : ℚ) < 10 ^ k := by positivity
  have hpos : (0 : ℚ) < |(m : ℚ) * 10 ^ k| := by
    apply abs_pos.mpr
    exact mul_ne_zero (Int.cast_ne_zero.mpr h0) hten.ne'
  have hlog : Int.log 10 |(m : ℚ) * 10 ^ k| < PREC + k := by
    rw [← Int.lt_zpow_iff_log_lt (by norm_num) hpos]
    push_cast
    rw [zpow_add₀ (by norm_num), zpow_natCast, abs_mul, abs_of_pos hten]
    apply mul_lt_mul_of_pos_right _ hten
    exact_mod_cast hm
  have hle : lastPlace ((m : ℚ) * 10 ^ k) ≤ k := by
    unfold lastPlace
    omega
  have hsplit : (m : ℚ) * 10 ^ k = (m * 10 ^ (k - lastPlace ((m : ℚ) * 10 ^ k)).toNat : ℤ) *
      10 ^ lastPlace ((m : ℚ) * 10 ^ k) := by
    generalize lastPlace ((m : ℚ) * 10 ^ k) = t at hle ⊢
    push_cast
    rw [mul_assoc, ← zpow_natCast, ← zpow_add₀ (by norm_num)]
    congr 2
    omega
  exact rounded_eq_self hsplit

/-- The last place that is kept of a number of `j` digits more than the precision. -/
theorem lastPlace_of_digits {N k : ℤ} {j : ℕ} (hlow : 10 ^ (PREC - 1 + j) ≤ N)
    (hhigh : N < 10 ^ (PREC + j)) (hk : ETINY ≤ k + j) :
    lastPlace ((N : ℚ) * 10 ^ k) = k + j := by
  have hten : (0 : ℚ) < 10 ^ k := by positivity
  have hpos : 0 < N := lt_of_lt_of_le (by positivity) hlow
  have hNpos : (0 : ℚ) < N * 10 ^ k := by
    have hcast : (0 : ℚ) < N := by exact_mod_cast hpos
    positivity
  have hlog : Int.log 10 |(N : ℚ) * 10 ^ k| = PREC - 1 + j + k := by
    rw [abs_of_pos hNpos]
    apply le_antisymm
    · apply Int.lt_add_one_iff.mp
      rw [← Int.lt_zpow_iff_log_lt (by norm_num) hNpos]
      have hsum : (PREC : ℤ) - 1 + j + k + 1 = (PREC + j : ℕ) + k := by
        push_cast
        ring
      rw [hsum]
      push_cast
      rw [zpow_add₀ (by norm_num)]
      apply mul_lt_mul_of_pos_right _ hten
      have hcast : ((N : ℤ) : ℚ) < ((10 ^ (PREC + j) : ℤ) : ℚ) := by exact_mod_cast hhigh
      push_cast at hcast
      exact_mod_cast hcast
    · rw [← Int.zpow_le_iff_le_log (by norm_num) hNpos]
      have hsum : (PREC : ℤ) - 1 + j + k = (PREC - 1 + j : ℕ) + k := by
        have hprec : PREC = 28 := rfl
        rw [hprec]
        push_cast
        ring
      rw [hsum]
      push_cast
      rw [zpow_add₀ (by norm_num)]
      apply mul_le_mul_of_nonneg_right _ hten.le
      have hcast : ((10 ^ (PREC - 1 + j) : ℤ) : ℚ) ≤ ((N : ℤ) : ℚ) := by exact_mod_cast hlow
      push_cast at hcast
      exact_mod_cast hcast
  unfold lastPlace
  rw [hlog]
  omega

/-- What rounding takes off a number of `j` digits too many: it ends at or below an even
    multiple of the last place kept just when it was at most half a unit above it. -/
theorem rounded_le_iff {N B k : ℤ} {j : ℕ} (hlow : 10 ^ (PREC - 1 + j) ≤ N)
    (hhigh : N < 10 ^ (PREC + j)) (hk : ETINY ≤ k + j) (hB : 2 * 10 ^ j ∣ B) :
    rounded ((N : ℚ) * 10 ^ k) ≤ (B : ℚ) * 10 ^ k ↔ 2 * (N - B) ≤ 10 ^ j := by
  obtain ⟨b, rfl⟩ := hB
  have hten : (0 : ℚ) < 10 ^ k := by positivity
  have hj : (0 : ℚ) < 10 ^ j := by positivity
  have hplace : (0 : ℚ) < 10 ^ (k + j : ℤ) := by positivity
  have hsplit : (10 : ℚ) ^ (k + j : ℤ) = 10 ^ j * 10 ^ k := by
    rw [zpow_add₀ (by norm_num), zpow_natCast]
    ring
  have hbound : ((2 * 10 ^ j * b : ℤ) : ℚ) * 10 ^ k = ((2 * b : ℤ) : ℚ) * 10 ^ (k + j : ℤ) := by
    rw [hsplit]
    push_cast
    ring
  have hquot : (N : ℚ) * 10 ^ k / 10 ^ (k + j : ℤ) = N / 10 ^ j := by
    rw [hsplit, mul_div_mul_right _ _ hten.ne']
  rw [rounded, lastPlace_of_digits hlow hhigh hk, hbound, hquot, mul_le_mul_iff_left₀ hplace,
    Int.cast_le, halfEven_le_iff (even_two_mul b), div_le_iff₀ hj]
  push_cast
  have hcast : 2 * (N - 2 * 10 ^ j * b) ≤ 10 ^ j ↔
      2 * ((N : ℚ) - 2 * 10 ^ j * b) ≤ 10 ^ j := by
    constructor
    · intro h
      exact_mod_cast h
    · intro h
      exact_mod_cast h
  rw [hcast]
  constructor <;> intro h <;> linarith

/-! ## Running sums -/

/-- The running sum of `as` from `t`, rounded at every step, unless a step is too large. -/
def runningSum (t : ℚ) : List ℚ → Option ℚ
  | [] => some t
  | a :: as => if |rounded (t + a)| < LIMIT then runningSum (rounded (t + a)) as else none

/-- Adding up finite numbers gives their running sum. -/
theorem foldlM_add {ds : List Decimal} {as : List ℚ} (h : ds.map value = as.map some)
    {t : Decimal} {q : ℚ} (ht : t.value = some q) (x : ℚ) :
    (∃ d, ds.foldlM add t = .ok d ∧ d.value = some x) ↔ runningSum q as = some x := by
  induction ds generalizing as t q with
  | nil =>
    cases as with
    | nil =>
      constructor
      · rintro ⟨d, hd, hx⟩
        cases hd
        rw [ht] at hx
        exact hx
      · intro hx
        exact ⟨t, rfl, ht.trans hx⟩
    | cons a as => cases h
  | cons d ds ih =>
    cases as with
    | nil => cases h
    | cons a as =>
      obtain ⟨hd, hds⟩ := List.cons.inj h
      obtain ⟨sign, hfix⟩ := add_fixed ht hd
      rw [List.foldlM_cons, runningSum]
      by_cases hlim : |rounded (q + a)| < LIMIT
      · obtain ⟨t', ht'⟩ := hfix.exists_ok hlim
        rw [if_pos hlim, ht', ← ih hds (add_value ht hd ht')]
        rfl
      · rw [if_neg hlim]
        cases hadd : t.add d with
        | error e => simp [bind, Except.bind]
        | ok t' =>
          rw [hadd] at hfix
          exact absurd hfix.lt_limit hlim

/-- Sums of numbers the context holds are exact. -/
theorem runningSum_exact {t : ℚ} {as : List ℚ}
    (h : ∀ k < as.length, Representable (t + (as.take (k + 1)).sum) ∧
      |t + (as.take (k + 1)).sum| < LIMIT) : runningSum t as = some (t + as.sum) := by
  induction as generalizing t with
  | nil => simp [runningSum]
  | cons a as ih =>
    obtain ⟨hrep, hlim⟩ := h 0 (by simp)
    rw [List.take_succ_cons, List.take_zero, List.sum_singleton] at hrep hlim
    rw [runningSum, rounded_of_representable hrep, if_pos hlim, ih, List.sum_cons, add_assoc]
    intro k hk
    have hnext := h (k + 1) (by simpa using hk)
    rw [List.take_succ_cons, List.sum_cons, ← add_assoc] at hnext
    exact hnext

/-! ## Order -/

theorem lastPlace_mono {p q : ℚ} (hp : 0 < p) (h : p ≤ q) : lastPlace p ≤ lastPlace q := by
  have hlog : Int.log 10 |p| ≤ Int.log 10 |q| := by
    rw [abs_of_pos hp, abs_of_pos (hp.trans_le h)]
    exact Int.log_mono_right hp h
  unfold lastPlace
  omega

/-- Rounding keeps the order of positive numbers. -/
theorem rounded_mono {p q : ℚ} (hp : 0 < p) (h : p ≤ q) : rounded p ≤ rounded q := by
  have hq : 0 < q := hp.trans_le h
  have hp10 : (0 : ℚ) < 10 ^ lastPlace p := by positivity
  have hq10 : (0 : ℚ) < 10 ^ lastPlace q := by positivity
  rcases (lastPlace_mono hp h).eq_or_lt with heq | hlt
  · rw [rounded, rounded, ← heq]
    apply mul_le_mul_of_nonneg_right _ hp10.le
    exact_mod_cast halfEven_mono (div_le_div_of_nonneg_right h hp10.le)
  · -- A power of ten lies between the two results.
    have hupper : halfEven (p / 10 ^ lastPlace p) ≤ 10 ^ PREC := by
      apply halfEven_le
      rw [div_le_iff₀ hp10]
      exact_mod_cast (le_abs_self p).trans (abs_lt_zpow_lastPlace p).le
    have hlower : 10 ^ (PREC - 1) ≤ halfEven (q / 10 ^ lastPlace q) := by
      apply le_halfEven
      rw [le_div_iff₀ hq10]
      have hlog := Int.zpow_log_le_self (b := 10) (by norm_num) hq
      refine le_trans ?_ hlog
      have htiny : ETINY ≤ lastPlace p := le_max_right _ _
      have hplace : lastPlace q = Int.log 10 q + 1 - PREC := by
        have hmax : lastPlace q = max (Int.log 10 |q| + 1 - PREC) ETINY := rfl
        rw [abs_of_pos hq] at hmax
        omega
      rw [hplace]
      push_cast
      rw [← zpow_natCast, ← zpow_add₀ (by norm_num)]
      apply zpow_le_zpow_right₀ (by norm_num)
      have hprec : PREC = 28 := rfl
      omega
    calc rounded p ≤ (10 : ℚ) ^ PREC * 10 ^ lastPlace p := by
          apply mul_le_mul_of_nonneg_right _ hp10.le
          exact_mod_cast hupper
      _ = 10 ^ (PREC - 1) * 10 ^ (lastPlace p + 1) := by
          rw [zpow_add₀ (by norm_num), zpow_one]
          norm_num [PREC]
          ring
      _ ≤ 10 ^ (PREC - 1) * 10 ^ lastPlace q := by
          apply mul_le_mul_of_nonneg_left _ (by positivity)
          exact zpow_le_zpow_right₀ (by norm_num) hlt
      _ ≤ rounded q := by
          apply mul_le_mul_of_nonneg_right _ hq10.le
          exact_mod_cast hlower

theorem rounded_nonneg {q : ℚ} (h : 0 ≤ q) : 0 ≤ rounded q := by
  have hten : (0 : ℚ) < 10 ^ lastPlace q := by positivity
  apply mul_nonneg _ hten.le
  have hint : 0 ≤ halfEven (q / 10 ^ lastPlace q) := by
    apply le_halfEven
    rw [Int.cast_zero]
    exact div_nonneg h hten.le
  exact_mod_cast hint

/-- Rounding does not pass a number of the context. -/
theorem rounded_le_of_representable {q b : ℚ} (h0 : 0 ≤ q) (h : q ≤ b) (hb : Representable b) :
    rounded q ≤ b := by
  rcases h0.eq_or_lt with rfl | hpos
  · rwa [rounded_zero]
  · have hmono := rounded_mono hpos h
    rwa [rounded_of_representable hb] at hmono

/-! ## Rounding up, and dropping zeros -/

/-- A quotient rounded up. -/
theorem ceil_div_eq (c : ℕ) {d : ℕ} (hd : 0 < d) : ⌈(c : ℚ) / d⌉ = ((c + d - 1) / d : ℕ) := by
  have hd' : (0 : ℚ) < d := by exact_mod_cast hd
  have hdiv := Nat.div_add_mod (c + d - 1) d
  have hmod := Nat.mod_lt (c + d - 1) hd
  generalize (c + d - 1) / d = q at *
  rw [Int.ceil_eq_iff, lt_div_iff₀ hd', div_le_iff₀ hd']
  have hlow : d * q < c + d := by omega
  have hhigh : c ≤ d * q := by omega
  constructor
  · have hcast : (d : ℚ) * q < c + d := by exact_mod_cast hlow
    rw [Int.cast_natCast]
    linarith
  · rw [Int.cast_natCast, mul_comm]
    exact_mod_cast hhigh

/-- Rounding up to a number of places: the least multiple, unless it has too many digits. -/
theorem quantizeCeiling_finite (places : ℕ) (s : Bool) (c : ℕ) (e : ℤ) :
    signed s ⌈val s c e * 10 ^ places⌉.natAbs = ⌈val s c e * 10 ^ places⌉ ∧
    quantizeCeiling places (.finite s c e) =
      if PREC < numDigits ⌈val s c e * 10 ^ places⌉.natAbs then .error .invalidOperation
      else .ok (.finite s ⌈val s c e * 10 ^ places⌉.natAbs (-places)) := by
  -- The coefficient is the number of units, with the number's sign.
  suffices hunits : ⌈val s c e * 10 ^ places⌉ =
      signed s (if -(places : ℤ) ≤ e then c * 10 ^ (e + places).toNat
        else if s then c / 10 ^ (-(places : ℤ) - e).toNat
        else (c + 10 ^ (-(places : ℤ) - e).toNat - 1) / 10 ^ (-(places : ℤ) - e).toNat) by
    rw [hunits, natAbs_signed]
    exact ⟨rfl, rfl⟩
  have hval : val s c e * 10 ^ places = signed s c * 10 ^ (e + places) := by
    rw [val, mul_assoc, ← zpow_natCast, ← zpow_add₀ (by norm_num)]
  rw [hval]
  split_ifs with hle hneg
  · have hpow : (10 : ℚ) ^ (e + places) = ((10 ^ (e + places).toNat : ℤ) : ℚ) := by
      push_cast
      rw [← zpow_natCast]
      congr 1
      omega
    rw [hpow, ← Int.cast_mul, Int.ceil_intCast]
    cases s <;> simp only [signed, if_true, Bool.false_eq_true, if_false] <;> push_cast <;> ring
  all_goals
    have hpos : 0 < 10 ^ (-(places : ℤ) - e).toNat := by positivity
    have hpow : (10 : ℚ) ^ (e + places) = (((10 ^ (-(places : ℤ) - e).toNat : ℕ) : ℚ))⁻¹ := by
      push_cast
      rw [← zpow_natCast, ← zpow_neg]
      congr 1
      omega
    rw [hpow, ← div_eq_mul_inv]
  · rw [hneg]
    simp only [signed, if_true]
    push_cast
    rw [neg_div, Int.ceil_neg]
    congr 1
    exact_mod_cast Rat.floor_natCast_div_natCast c _
  · simp only [signed, hneg]
    exact ceil_div_eq c hpos

theorem stripZeros_spec {n c : ℕ} (h0 : c ≠ 0) (hlt : c < 10 ^ n) (e : ℤ) :
    ∃ c' k : ℕ, stripZeros n c e = (c', e + k) ∧ c = c' * 10 ^ k ∧ c' % 10 ≠ 0 := by
  induction n generalizing c e with
  | zero => omega
  | succ n ih =>
    rw [stripZeros]
    split_ifs with hzero
    · have hten : c = c / 10 * 10 := (Nat.div_mul_cancel (Nat.dvd_of_mod_eq_zero hzero)).symm
      have hless : c / 10 < 10 ^ n := by
        rw [pow_succ] at hlt
        omega
      obtain ⟨c', k, hstrip, hc, hlast⟩ := ih (by omega : c / 10 ≠ 0) hless (e + 1)
      refine ⟨c', k + 1, ?_, ?_, hlast⟩
      · rw [hstrip]
        push_cast
        rw [add_assoc, add_comm 1]
      · rw [hten, hc, pow_succ, mul_assoc]
    · exact ⟨c, 0, by simp, by simp, hzero⟩

/-- A number other than zero loses exactly its trailing zeros. -/
theorem normalize_finite (s : Bool) {c : ℕ} (h0 : c ≠ 0) (e : ℤ) :
    ∃ c' k : ℕ, normalize (.finite s c e) = .finite s c' (e + k) ∧ c = c' * 10 ^ k ∧
      c' % 10 ≠ 0 := by
  have hlt : c < 10 ^ numDigits c := (numDigits_le_iff (by rw [numDigits_pos h0]; omega)).mp le_rfl
  obtain ⟨c', k, hstrip, hc, hlast⟩ := stripZeros_spec h0 hlt e
  refine ⟨c', k, ?_, hc, hlast⟩
  simp only [normalize, if_neg h0, hstrip]

theorem val_mul_pow (s : Bool) (c k : ℕ) (e : ℤ) : val s (c * 10 ^ k) e = val s c (e + k) := by
  rw [val, val, zpow_add₀ (by norm_num), zpow_natCast]
  cases s <;> simp only [signed, if_true, Bool.false_eq_true, if_false] <;> push_cast <;> ring

end Decimal

end VipChannel.Lib

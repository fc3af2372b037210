/-
  VipChannel.Services.ShortfallMessage

  The three numbers of the message about a low balance.  Each is rounded up to cents on
  its own, so they add up, and understate nothing, when the balance is a whole number of
  cents and the 28 digits of decimal arithmetic carry the difference.
-/
import VipChannel.Services.BotConversation
import VipChannel.Domain.Amounts
import VipChannel.Domain.EligibilityOrder

namespace VipChannel

open Lib Decimal Messages

/-- The texts of the message's three numbers. -/
structure Shown (v : EligibilityVerdict) (minimum balance shortfall : String) : Prop where
  minimum : ∃ total, v.balance.add v.shortfall = .ok total ∧ formatAmount total = .ok minimum
  balance : formatAmount v.balance = .ok balance
  shortfall : formatAmount v.shortfall = .ok shortfall

/-- `render` puts these three into the message. -/
theorem render_of_shown {v : EligibilityVerdict} {minimum balance shortfall : String}
    (h : Shown v minimum balance shortfall) {result : OnboardingResult}
    (ho : result.outcome = .insufficientBalance) (hv : result.verdict = some v)
    (referralLink : String) :
    render result referralLink = .ok (INSUFFICIENT_BALANCE minimum balance shortfall) := by
  obtain ⟨total, hadd, htotal⟩ := h.minimum
  simp only [render, ho, hv, hadd, htotal, h.balance, h.shortfall, trap, bind, Except.bind, pure,
    Except.pure]

/-- The message for an answer `c` under the rules `r`: what it shows, read as exact
    numbers, is no more than the balance, and covers the minimum. -/
def NeverMisleads (c : ReferralCheck) (r : ReferralRules) (v : EligibilityVerdict) : Prop :=
  ∃ minimum balance shortfall m b s p q,
    Shown v minimum balance shortfall ∧
    (∀ uid referralLink, render { outcome := .insufficientBalance, verdict := some v, uid }
      referralLink = .ok (INSUFFICIENT_BALANCE minimum balance shortfall)) ∧
    reading minimum = some m ∧ reading balance = some b ∧ reading shortfall = some s ∧
    c.depositTotal.value = some p ∧ r.minimumBalance.value = some q ∧
    b ≤ p ∧ b < m ∧ m ≤ b + s ∧ q ≤ p + s

/-- A whole number of cents. -/
def WholeCents (p : ℚ) : Prop :=
  ∃ n : ℤ, p = n / 100

/-- The context's digits carry the difference of the minimum `q` and the balance `p`: what
    its rounding leaves of the difference and of the sum is printed, and still separates
    the balance from the minimum. -/
structure Carried (p q : ℚ) : Prop where
  printed : |cents p| < 10 ^ PREC ∧ |cents (rounded (q - p))| < 10 ^ PREC ∧
    |cents (rounded (p + rounded (q - p)))| < 10 ^ PREC
  above : p < roundedUp (rounded (p + rounded (q - p)))
  sum : roundedUp (rounded (p + rounded (q - p))) ≤ p + roundedUp (rounded (q - p))
  enough : q ≤ p + roundedUp (rounded (q - p))

/-! ## Rounding up to cents -/

theorem le_roundedUp (q : ℚ) : q ≤ roundedUp q :=
  (isLeast_roundedUp q).1.2

/-- A number is its own rounding up just when it is a whole number of cents. -/
theorem roundedUp_le_iff {p : ℚ} : roundedUp p ≤ p ↔ WholeCents p := by
  constructor
  · intro h
    exact ⟨cents p, le_antisymm (le_roundedUp p) h⟩
  · intro h
    exact (isLeast_roundedUp p).2 ⟨h, le_rfl⟩

theorem roundedUp_of_wholeCents {p : ℚ} (h : WholeCents p) : roundedUp p = p :=
  le_antisymm (roundedUp_le_iff.mpr h) (le_roundedUp p)

theorem roundedUp_add_wholeCents {p : ℚ} (h : WholeCents p) (q : ℚ) :
    roundedUp (p + q) = p + roundedUp q := by
  obtain ⟨n, rfl⟩ := h
  have hcents : cents (n / 100 + q) = n + cents q := by
    rw [cents, add_mul, div_mul_cancel₀ _ (by norm_num), Int.ceil_intCast_add]
    rfl
  rw [roundedUp, hcents, roundedUp]
  push_cast
  ring

theorem cents_mono {p q : ℚ} (h : p ≤ q) : cents p ≤ cents q :=
  Int.ceil_mono (by linarith)

/-- What is printed in cents is far below the context's limit. -/
theorem lt_limit_of_cents {q : ℚ} (h : |cents q| < 10 ^ PREC) : |q| < LIMIT := by
  have hceil := Int.ceil_lt_add_one (q * 100)
  have hle := Int.le_ceil (q * 100)
  have hbound := abs_lt.mp h
  have hlow : (-10 ^ PREC : ℚ) < cents q := by exact_mod_cast hbound.1
  have hhigh : (cents q : ℚ) < 10 ^ PREC := by exact_mod_cast hbound.2
  have hsmall : (10 : ℚ) ^ PREC ≤ LIMIT := by
    rw [LIMIT, ← zpow_natCast]
    exact zpow_le_zpow_right₀ (by norm_num) (by decide)
  have hten : (1 : ℚ) ≤ 10 ^ PREC := one_le_pow₀ (by norm_num)
  unfold cents at hlow hhigh
  rw [abs_lt]
  constructor <;> linarith

/-! ## When the message is right -/

theorem neverMisleads_of_carried {c : ReferralCheck} {r : ReferralRules}
    {v : EligibilityVerdict} {p q : ℚ} (hp : c.depositTotal.value = some p)
    (hq : r.minimumBalance.value = some q) (hbal : v.balance = c.depositTotal)
    (hsub : r.minimumBalance.sub c.depositTotal = .ok v.shortfall) (hwhole : WholeCents p)
    (hcarried : Carried p q) : NeverMisleads c r v := by
  have hb : v.balance.value = some p := by rw [hbal, hp]
  have hs := sub_value hq hp hsub
  obtain ⟨sign, hfixed⟩ := add_fixed hb hs
  obtain ⟨hcb, hcs, hcm⟩ := hcarried.printed
  obtain ⟨total, htotal⟩ := hfixed.exists_ok (lt_limit_of_cents hcm)
  have ht := add_value hb hs htotal
  obtain ⟨balance, hbalance, hreadb⟩ := formatAmount_reading hb hcb
  obtain ⟨shortfall, hshortfall, hreads⟩ := formatAmount_reading hs hcs
  obtain ⟨minimum, hminimum, hreadm⟩ := formatAmount_reading ht hcm
  have hshown : Shown v minimum balance shortfall :=
    ⟨⟨total, htotal, hminimum⟩, hbalance, hshortfall⟩
  refine ⟨minimum, balance, shortfall, _, _, _, p, q, hshown, fun _ _ => render_of_shown hshown
    rfl rfl _, hreadm, hreadb, hreads, hp, hq, ?_⟩
  rw [roundedUp_of_wholeCents hwhole]
  exact ⟨le_rfl, hcarried.above, hcarried.sum, hcarried.enough⟩

theorem carried_of_neverMisleads {c : ReferralCheck} {r : ReferralRules}
    {v : EligibilityVerdict} (hbal : v.balance = c.depositTotal)
    (hsub : r.minimumBalance.sub c.depositTotal = .ok v.shortfall) (h : NeverMisleads c r v) :
    ∃ p q, c.depositTotal.value = some p ∧ r.minimumBalance.value = some q ∧
      WholeCents p ∧ Carried p q := by
  obtain ⟨minimum, balance, shortfall, m, b, s, p, q, ⟨⟨total, htotal, hminimum⟩, hbalance,
    hshortfall⟩, -, hreadm, hreadb, hreads, hp, hq, hle, hlt, hsum, henough⟩ := h
  have hb : v.balance.value = some p := by rw [hbal, hp]
  have hs := sub_value hq hp hsub
  have ht := add_value hb hs htotal
  have hcb := fits_of_formatAmount hb hbalance
  have hcs := fits_of_formatAmount hs hshortfall
  have hcm := fits_of_formatAmount ht hminimum
  -- The texts read as the amounts rounded up.
  have hbvalue : b = roundedUp p := by
    obtain ⟨t, htext, hread⟩ := formatAmount_reading hb hcb
    rw [hbalance] at htext
    cases htext
    rw [hreadb] at hread
    exact Option.some.inj hread
  have hsvalue : s = roundedUp (rounded (q - p)) := by
    obtain ⟨t, htext, hread⟩ := formatAmount_reading hs hcs
    rw [hshortfall] at htext
    cases htext
    rw [hreads] at hread
    exact Option.some.inj hread
  have hmvalue : m = roundedUp (rounded (p + rounded (q - p))) := by
    obtain ⟨t, htext, hread⟩ := formatAmount_reading ht hcm
    rw [hminimum] at htext
    cases htext
    rw [hreadm] at hread
    exact Option.some.inj hread
  subst hbvalue hsvalue hmvalue
  have hwhole := roundedUp_le_iff.mp hle
  rw [roundedUp_of_wholeCents hwhole] at hlt hsum
  exact ⟨p, q, hp, hq, hwhole, ⟨hcb, hcs, hcm⟩, hlt, hsum, henough⟩

/-! ## Amounts the digits carry -/

/-- The difference of a whole number of cents that is not negative and a larger number of
    at most 28 digits has at most 28 digits. -/
theorem representable_sub {p q : ℚ} (hp : WholeCents p) (h0 : 0 ≤ p) (hlt : p < q)
    (hq : Representable q) (hprinted : |cents q| < 10 ^ PREC) : Representable (q - p) := by
  obtain ⟨n, rfl⟩ := hp
  have hn : 0 ≤ n := by
    have hcast : (0 : ℚ) ≤ n := by linarith
    exact_mod_cast hcast
  obtain ⟨m, k, hmk, hm, hk⟩ := hq
  have hten : (0 : ℚ) < 10 ^ k := by positivity
  by_cases hfine : k ≤ -2
  · -- The minimum's last place is a cent or finer, and the balance is a multiple of it.
    have hcent : (n / 100 : ℚ) = (n * 10 ^ (-2 - k).toNat : ℤ) * 10 ^ k := by
      push_cast
      rw [mul_assoc, ← zpow_natCast, ← zpow_add₀ (by norm_num), div_eq_mul_inv]
      congr 1
      rw [Int.toNat_of_nonneg (by omega), sub_add_cancel]
      norm_num
    refine ⟨m - n * 10 ^ (-2 - k).toNat, k, ?_, ?_, hk⟩
    · rw [hcent, hmk]
      push_cast
      ring
    · rw [hcent, hmk] at hlt
      have hpos : n * 10 ^ (-2 - k).toNat < m := by
        have hcast := lt_of_mul_lt_mul_right hlt hten.le
        exact_mod_cast hcast
      have hnonneg : 0 ≤ n * 10 ^ (-2 - k).toNat := by positivity
      rw [abs_of_nonneg (by omega)]
      have hmabs := le_abs_self m
      omega
  · -- The minimum is a whole number of cents too.
    have hcent : q * 100 = (m * 10 ^ (k + 2).toNat : ℤ) := by
      rw [hmk]
      push_cast
      rw [mul_assoc, ← zpow_natCast, Int.toNat_of_nonneg (by omega), zpow_add₀ (by norm_num)]
      norm_num
    have hcents : cents q = m * 10 ^ (k + 2).toNat := by
      rw [cents, hcent, Int.ceil_intCast]
    refine ⟨cents q - n, -2, ?_, ?_, by decide⟩
    · have hq100 : q = cents q / 100 := by
        rw [hcents, eq_div_iff (by norm_num)]
        exact hcent
      rw [hq100]
      push_cast
      rw [← sub_div, div_eq_mul_inv]
      congr 1
      rw [← hq100]
    · have hpos : n < cents q := by
        rw [hcents]
        have hcast : (n : ℚ) < (m * 10 ^ (k + 2).toNat : ℤ) := by linarith
        exact_mod_cast hcast
      rw [abs_of_nonneg (by omega)]
      have habs := le_abs_self (cents q)
      omega

/-- Balances and minimums as they are stored are carried. -/
theorem carried_of_representable {p q : ℚ} (hp : WholeCents p) (h0 : 0 ≤ p) (hlt : p < q)
    (hq : Representable q) (hprinted : |cents q| < 10 ^ PREC) : Carried p q := by
  have hdiff := rounded_of_representable (representable_sub hp h0 hlt hq hprinted)
  have hsum : rounded (p + (q - p)) = q := by
    rw [add_sub_cancel, rounded_of_representable hq]
  have hbelow : ∀ x, 0 ≤ x → x ≤ q → |cents x| < 10 ^ PREC := by
    intro x hx hle
    have hmono := cents_mono hle
    have hnonneg : 0 ≤ cents x := Int.ceil_nonneg (by linarith)
    have habs := le_abs_self (cents q)
    rw [abs_of_nonneg hnonneg]
    omega
  have hsplit := roundedUp_add_wholeCents hp (q - p)
  rw [add_sub_cancel] at hsplit
  constructor
  · rw [hdiff, hsum]
    exact ⟨hbelow p h0 hlt.le, hbelow (q - p) (by linarith) (by linarith), hprinted⟩
  · rw [hdiff, hsum]
    exact lt_of_lt_of_le hlt (le_roundedUp q)
  · rw [hdiff, hsum, hsplit]
  · rw [hdiff]
    have hle := le_roundedUp (q - p)
    linarith

/-! ## Amounts of more digits -/

/-- What rounding to 28 digits may take off a whole number of at most 30: half a unit of the
    last place that is kept. -/
def lost (n : ℤ) : ℤ :=
  if n < 10 ^ 28 then 0 else if n < 10 ^ 29 then 5 else 50

theorem lost_bounds (n : ℤ) : 0 ≤ lost n ∧ lost n ≤ 50 := by
  unfold lost
  split_ifs <;> decide

/-- An amount of eight places is rounded to a smaller whole number of cents, or to it, just
    when the rounding takes off what is above it. -/
theorem rounded_le_iff_lost {N B : ℤ} (hN : 0 ≤ N) (hlt : N < 10 ^ 30) (hB : 10 ^ 6 ∣ B) :
    rounded ((N : ℚ) / 10 ^ 8) ≤ (B : ℚ) / 10 ^ 8 ↔ N - B ≤ lost N := by
  have hplace : ∀ x : ℚ, x / 10 ^ 8 = x * 10 ^ (-8 : ℤ) := by
    intro x
    rw [div_eq_mul_inv]
    rfl
  rw [hplace, hplace]
  unfold lost
  split_ifs with h28 h29
  · -- The number is exact.
    have hrep : Representable ((N : ℚ) * 10 ^ (-8 : ℤ)) :=
      ⟨N, -8, rfl, by rw [abs_of_nonneg hN]; exact h28, by decide⟩
    rw [rounded_of_representable hrep, mul_le_mul_iff_left₀ (by positivity), Int.cast_le]
    omega
  · have hdvd : (2 * 10 ^ 1 : ℤ) ∣ B := Int.dvd_trans (by decide) hB
    have hiff := Decimal.rounded_le_iff (N := N) (B := B) (k := -8) (j := 1) (not_lt.mp h28) h29
      (by decide) hdvd
    rw [hiff]
    omega
  · have hdvd : (2 * 10 ^ 2 : ℤ) ∣ B := Int.dvd_trans (by decide) hB
    have hiff := Decimal.rounded_le_iff (N := N) (B := B) (k := -8) (j := 2) (not_lt.mp h29) hlt
      (by decide) hdvd
    rw [hiff]
    omega

theorem wholeCents_iff_dvd {P : ℤ} : WholeCents ((P : ℚ) / 10 ^ 8) ↔ 10 ^ 6 ∣ P := by
  constructor
  · rintro ⟨n, hn⟩
    refine ⟨n, ?_⟩
    rw [div_eq_div_iff (by norm_num) (by norm_num)] at hn
    have hcast : P * 100 = n * 10 ^ 8 := by exact_mod_cast hn
    omega
  · rintro ⟨n, rfl⟩
    refine ⟨n, ?_⟩
    push_cast
    ring

section Digits

variable {P Q : ℤ}

/-- The balance shows below the minimum unless the rounding of the minimum takes off all of
    the difference. -/
theorem above_iff_lost (hP : 10 ^ 6 ∣ P) (h0 : 0 ≤ P) (hlt : P < Q) (hQ : Q < 10 ^ 30) :
    (P : ℚ) / 10 ^ 8 < rounded (P / 10 ^ 8 + rounded (Q / 10 ^ 8 - P / 10 ^ 8)) ↔
      lost Q < Q - P := by
  have hdiff : (Q : ℚ) / 10 ^ 8 - P / 10 ^ 8 = ((Q - P : ℤ) : ℚ) / 10 ^ 8 := by
    push_cast
    ring
  by_cases hexact : Q - P < 10 ^ 28
  · -- The difference is exact, so that the sum is the minimum again.
    have hrep : Representable (((Q - P : ℤ) : ℚ) / 10 ^ 8) := by
      refine ⟨Q - P, -8, ?_, ?_, by decide⟩
      · rw [div_eq_mul_inv]
        rfl
      · rw [abs_of_pos (by omega)]
        exact hexact
    have hsum : (P : ℚ) / 10 ^ 8 + ((Q - P : ℤ) : ℚ) / 10 ^ 8 = (Q : ℚ) / 10 ^ 8 := by
      push_cast
      ring
    rw [hdiff, rounded_of_representable hrep, hsum, ← not_le,
      rounded_le_iff_lost (by omega) hQ hP]
    omega
  · -- The difference is so large that no rounding takes it off.
    have hlarge : ((P + 10 ^ 28 : ℤ) : ℚ) / 10 ^ 8 ≤
        P / 10 ^ 8 + rounded (Q / 10 ^ 8 - P / 10 ^ 8) := by
      have hrep : Representable (((10 ^ 28 : ℤ) : ℚ) / 10 ^ 8) :=
        ⟨1, 20, by norm_num, by decide, by decide⟩
      have hmono : rounded (((10 ^ 28 : ℤ) : ℚ) / 10 ^ 8) ≤ rounded (Q / 10 ^ 8 - P / 10 ^ 8) := by
        apply rounded_mono (by norm_num)
        rw [hdiff]
        apply div_le_div_of_nonneg_right _ (by norm_num)
        exact_mod_cast not_lt.mp hexact
      rw [rounded_of_representable hrep] at hmono
      push_cast at hmono ⊢
      rw [add_div]
      linarith
    have hnot : ¬ rounded (((P + 10 ^ 28 : ℤ) : ℚ) / 10 ^ 8) ≤ (P : ℚ) / 10 ^ 8 := by
      rw [rounded_le_iff_lost (by omega) (by omega) hP]
      have hbounds := lost_bounds (P + 10 ^ 28)
      omega
    have hpos : (0 : ℚ) < ((P + 10 ^ 28 : ℤ) : ℚ) / 10 ^ 8 := by
      have hcast : (0 : ℚ) < ((P + 10 ^ 28 : ℤ) : ℚ) := by
        have hint : 0 < P + 10 ^ 28 := by omega
        exact_mod_cast hint
      positivity
    have hmono := rounded_mono hpos hlarge
    have hbounds := lost_bounds Q
    constructor
    · intro _
      omega
    · intro _
      exact lt_of_lt_of_le (not_le.mp hnot) hmono

/-- The shortfall that is shown covers the difference unless the rounding takes off all that
    is above a whole number of cents. -/
theorem enough_iff_lost {D : ℤ} (h0 : 0 < D) (hD : D < 10 ^ 30) :
    (D : ℚ) / 10 ^ 8 ≤ roundedUp (rounded ((D : ℚ) / 10 ^ 8)) ↔
      ¬ (0 < D % 10 ^ 6 ∧ D % 10 ^ 6 ≤ lost D) := by
  have hdvd : (10 ^ 6 : ℤ) ∣ D - D % 10 ^ 6 := Int.dvd_self_sub_emod
  have hrest := Int.emod_nonneg D (b := 10 ^ 6) (by decide)
  have hiff := rounded_le_iff_lost h0.le hD hdvd
  rw [sub_sub_cancel] at hiff
  by_cases hwhole : D % 10 ^ 6 = 0
  · -- A whole number of cents is exact.
    have hle : rounded ((D : ℚ) / 10 ^ 8) = D / 10 ^ 8 := by
      obtain ⟨n, rfl⟩ := Int.dvd_of_emod_eq_zero hwhole
      refine rounded_of_representable ⟨n, -2, ?_, ?_, by decide⟩
      · push_cast
        rw [zpow_neg]
        norm_num
        ring
      · rw [abs_of_pos (by omega), PREC]
        omega
    rw [hle]
    constructor
    · rintro - ⟨hpos, -⟩
      omega
    · intro _
      exact le_roundedUp _
  · have hcents : WholeCents (((D - D % 10 ^ 6 : ℤ) : ℚ) / 10 ^ 8) := wholeCents_iff_dvd.mpr hdvd
    have hlow : ((D - D % 10 ^ 6 : ℤ) : ℚ) / 10 ^ 8 < D / 10 ^ 8 := by
      apply div_lt_div_of_pos_right _ (by norm_num)
      exact_mod_cast (by omega : D - D % 10 ^ 6 < D)
    constructor
    · rintro h ⟨-, hlost⟩
      have hup := (isLeast_roundedUp (rounded ((D : ℚ) / 10 ^ 8))).2 ⟨hcents, hiff.mpr hlost⟩
      linarith
    · intro h
      have hgt : ((D - D % 10 ^ 6 : ℤ) : ℚ) / 10 ^ 8 < rounded ((D : ℚ) / 10 ^ 8) := by
        rw [← not_le, hiff]
        intro hlost
        exact h ⟨by omega, hlost⟩
      obtain ⟨b, hb⟩ := hdvd
      have hcents : b + 1 ≤ cents (rounded ((D : ℚ) / 10 ^ 8)) := by
        rw [hb] at hgt
        push_cast at hgt
        apply Int.lt_ceil.mpr
        linarith
      have hcast : ((b + 1 : ℤ) : ℚ) / 100 ≤ roundedUp (rounded ((D : ℚ) / 10 ^ 8)) := by
        apply div_le_div_of_nonneg_right _ (by norm_num)
        exact_mod_cast hcents
      have hle : (D : ℚ) / 10 ^ 8 ≤ ((b + 1 : ℤ) : ℚ) / 100 := by
        rw [div_le_div_iff₀ (by norm_num) (by norm_num)]
        have hmod := Int.emod_lt_of_pos D (b := 10 ^ 6) (by decide)
        have hint : D * 100 ≤ (b + 1) * 10 ^ 8 := by omega
        exact_mod_cast hint
      linarith

/-- Where the digits separate the balance from the minimum, the message is printed and its
    numbers add up. -/
theorem carried_of_separated {p q : ℚ} (hp : WholeCents p) (h0 : 0 ≤ p) (hle : p ≤ q)
    (hq : q ≤ 10 ^ 22) (habove : p < rounded (p + rounded (q - p)))
    (henough : q - p ≤ roundedUp (rounded (q - p))) : Carried p q := by
  -- Nothing that is shown comes near the digits that are printed.
  have hbelow : ∀ x : ℚ, 0 ≤ x → x ≤ 2 * 10 ^ 22 → |cents x| < 10 ^ PREC := by
    intro x hx hle
    have hnonneg : 0 ≤ cents x := Int.ceil_nonneg (by linarith)
    have hmost : cents x ≤ 2 * 10 ^ 24 := by
      apply Int.ceil_le.mpr
      push_cast
      linarith
    rw [abs_of_nonneg hnonneg, PREC]
    omega
  have hdnonneg : 0 ≤ rounded (q - p) := rounded_nonneg (by linarith)
  have hdle : rounded (q - p) ≤ 10 ^ 22 :=
    rounded_le_of_representable (by linarith) (by linarith)
      ⟨1, 22, by norm_num, by decide, by decide⟩
  have hsum : p + rounded (q - p) ≤ 2 * 10 ^ 22 := by linarith
  have hsumup := hbelow _ (by linarith) hsum
  have hup : rounded (p + rounded (q - p)) ≤ roundedUp (p + rounded (q - p)) := by
    refine rounded_le_of_representable (by linarith) (le_roundedUp _)
      ⟨cents (p + rounded (q - p)), -2, ?_, hsumup, by decide⟩
    rw [roundedUp, div_eq_mul_inv, zpow_neg]
    norm_num
  constructor
  · refine ⟨hbelow _ h0 (by linarith), hbelow _ hdnonneg (by linarith), hbelow _ ?_ ?_⟩
    · exact rounded_nonneg (by linarith)
    · exact rounded_le_of_representable (by linarith) hsum
        ⟨2, 22, by norm_num, by decide, by decide⟩
  · exact lt_of_lt_of_le habove (le_roundedUp _)
  · rw [← roundedUp_add_wholeCents hp]
    exact (isLeast_roundedUp _).2 ⟨⟨cents (p + rounded (q - p)), rfl⟩, hup⟩
  · linarith

/-- Balances and minimums of eight places and at most 30 digits are carried just when the
    rounding takes off neither all of the difference nor all that is above its cents. -/
theorem carried_iff_lost (hP : 10 ^ 6 ∣ P) (h0 : 0 ≤ P) (hlt : P < Q) (hQ : Q < 10 ^ 30) :
    Carried (P / 10 ^ 8) (Q / 10 ^ 8) ↔ lost Q < Q - P ∧
      ¬ (0 < (Q - P) % 10 ^ 6 ∧ (Q - P) % 10 ^ 6 ≤ lost (Q - P)) := by
  have hdiff : (Q : ℚ) / 10 ^ 8 - P / 10 ^ 8 = ((Q - P : ℤ) : ℚ) / 10 ^ 8 := by
    push_cast
    ring
  have habove := above_iff_lost hP h0 hlt hQ
  have henough := enough_iff_lost (D := Q - P) (by omega) (by omega)
  rw [← hdiff] at henough
  have hcents : WholeCents ((P : ℚ) / 10 ^ 8) := wholeCents_iff_dvd.mpr hP
  constructor
  · intro h
    refine ⟨habove.mp ?_, henough.mp (by linarith [h.enough])⟩
    -- A whole number of cents that is not above the balance would not be shown above it.
    by_contra hnot
    have hup := (isLeast_roundedUp _).2 ⟨hcents, not_lt.mp hnot⟩
    exact absurd h.above (not_lt.mpr hup)
  · rintro ⟨hlost, hcovered⟩
    have hp0 : (0 : ℚ) ≤ P / 10 ^ 8 := div_nonneg (by exact_mod_cast h0) (by norm_num)
    have hd0 : (P : ℚ) / 10 ^ 8 ≤ Q / 10 ^ 8 := by
      apply div_le_div_of_nonneg_right _ (by norm_num)
      exact_mod_cast hlt.le
    have hq : (Q : ℚ) / 10 ^ 8 ≤ 10 ^ 22 := by
      rw [div_le_iff₀ (by norm_num)]
      exact_mod_cast (by omega : Q ≤ 10 ^ 22 * 10 ^ 8)
    have hge := henough.mpr hcovered
    exact carried_of_separated hcents hp0 hd0 hq (habove.mpr hlost) (by linarith)

end Digits
/-! ## The message and the verdict -/

/-- The message about a low balance never misleads exactly when the balance is a whole
    number of cents and the context carries the difference; for a balance that is not
    negative and a minimum of at most 28 digits, exactly when the balance is a whole number
    of cents.  For amounts as the columns keep them, of eight places and at most 30 digits,
    the digits of the two say when the difference is carried. -/
theorem shortfall_message_iff {c : ReferralCheck} {r : ReferralRules} {rt : Bool}
    {v : EligibilityVerdict} (h : evaluateReferral (some c) r rt = .ok v)
    (hv : v.reason = .insufficientBalance) :
    (NeverMisleads c r v ↔ ∃ p q, c.depositTotal.value = some p ∧
      r.minimumBalance.value = some q ∧ WholeCents p ∧ Carried p q) ∧
    (∀ p q, c.depositTotal.value = some p → r.minimumBalance.value = some q → 0 ≤ p →
      Representable q → |cents q| < 10 ^ PREC → (NeverMisleads c r v ↔ WholeCents p)) ∧
    ∀ P Q : ℤ, c.depositTotal.value = some ((P : ℚ) / 10 ^ 8) →
      r.minimumBalance.value = some ((Q : ℚ) / 10 ^ 8) → 0 ≤ P → Q < 10 ^ 30 →
      (NeverMisleads c r v ↔ 10 ^ 6 ∣ P ∧ lost Q < Q - P ∧
        ¬ (0 < (Q - P) % 10 ^ 6 ∧ (Q - P) % 10 ^ 6 ≤ lost (Q - P))) := by
  obtain ⟨c₀, hc₀, -, hlt, hbal, hsub⟩ := evaluateReferral_insufficientBalance h hv
  cases hc₀
  have hiff : NeverMisleads c r v ↔ ∃ p q, c.depositTotal.value = some p ∧
      r.minimumBalance.value = some q ∧ WholeCents p ∧ Carried p q := by
    constructor
    · exact carried_of_neverMisleads hbal hsub
    · rintro ⟨p, q, hp, hq, hwhole, hcarried⟩
      exact neverMisleads_of_carried hp hq hbal hsub hwhole hcarried
  have hshort : ∀ {p q}, c.depositTotal.value = some p → r.minimumBalance.value = some q →
      p < q := by
    intro p q hp hq
    rw [lt_value hp hq] at hlt
    exact of_decide_eq_true (Except.ok.inj hlt)
  -- The two values are the ones that the condition speaks of.
  have hvalues : ∀ {p q}, c.depositTotal.value = some p → r.minimumBalance.value = some q →
      (NeverMisleads c r v ↔ WholeCents p ∧ Carried p q) := by
    intro p q hp hq
    rw [hiff]
    constructor
    · rintro ⟨p', q', hp', hq', hboth⟩
      rw [hp] at hp'
      rw [hq] at hq'
      cases hp'
      cases hq'
      exact hboth
    · intro hboth
      exact ⟨p, q, hp, hq, hboth⟩
  refine ⟨hiff, fun p q hp hq h0 hrep hprinted => ?_, fun P Q hp hq h0 hQ => ?_⟩
  · rw [hvalues hp hq]
    constructor
    · exact And.left
    · intro hwhole
      exact ⟨hwhole, carried_of_representable hwhole h0 (hshort hp hq) hrep hprinted⟩
  · have hlt' : P < Q := by
      have hcast : (P : ℚ) < Q :=
        (div_lt_div_iff_of_pos_right (c := 10 ^ 8) (by norm_num)).mp (hshort hp hq)
      exact_mod_cast hcast
    rw [hvalues hp hq, wholeCents_iff_dvd]
    exact and_congr_right fun hP => carried_iff_lost hP h0 hlt' hQ

/-- A balance of 299.50 against 300. -/
theorem half_a_dollar_is_shown_right :
    NeverMisleads (accountCheck 29950 none) (rulesOf 30000 1)
      { reason := .insufficientBalance, complianceState := .nonCompliant
        balance := .finite false 29950 (-2), shortfall := .finite false 50 (-2) } := by
  have hverdict : evaluateReferral (some (accountCheck 29950 none)) (rulesOf 30000 1) false =
      .ok { reason := .insufficientBalance, complianceState := .nonCompliant
            balance := .finite false 29950 (-2), shortfall := .finite false 50 (-2) } := rfl
  have hp : (accountCheck 29950 none).depositTotal.value = some (29950 / 100) := by
    norm_num [accountCheck, value, val, signed]
  have hq : (rulesOf 30000 1).minimumBalance.value = some (30000 / 100) := by
    norm_num [rulesOf, value, val, signed]
  have hcents : cents (30000 / 100) = 30000 := by
    rw [cents, Int.ceil_eq_iff]
    norm_num
  apply ((shortfall_message_iff hverdict rfl).2.1 _ _ hp hq (by norm_num) ?_ ?_).mpr
  · exact ⟨29950, by norm_num⟩
  · exact ⟨30000, -2, by norm_num, by norm_num [PREC], by decide⟩
  · rw [hcents]
    norm_num [PREC]

/-- A balance half a cent below 300 is shown as 300, not below the minimum. -/
theorem half_a_cent_is_shown_wrong :
    evaluateReferral (some { accountCheck 0 none with depositTotal := .finite false 299995 (-3) })
        (rulesOf 30000 1) false =
      .ok { reason := .insufficientBalance, complianceState := .nonCompliant
            balance := .finite false 299995 (-3), shortfall := .finite false 5 (-3) } ∧
    ¬ NeverMisleads { accountCheck 0 none with depositTotal := .finite false 299995 (-3) }
      (rulesOf 30000 1)
      { reason := .insufficientBalance, complianceState := .nonCompliant
        balance := .finite false 299995 (-3), shortfall := .finite false 5 (-3) } := by
  refine ⟨rfl, ?_⟩
  intro h
  obtain ⟨p, q, hp, -, ⟨n, hn⟩, -⟩ := carried_of_neverMisleads rfl rfl h
  have hvalue : p = 299995 / 1000 := by
    rw [← Option.some.inj hp]
    norm_num [val, signed]
  rw [hvalue] at hn
  have hint : (n : ℚ) * 10 = 299995 := by linarith
  have hodd : n * 10 = 299995 := by exact_mod_cast hint
  omega

end VipChannel

/-
  VipChannel.Domain.EligibilityOrder

  How `evaluateReferral` depends on the facts and the rules: a better answer and milder
  rules keep an eligible verdict eligible, and the shortfall is the least deposit that
  ends a blame for the balance.

  Amounts are finite; the shortfall is exact where the context holds the difference.
-/
import VipChannel.Domain.Eligibility
import VipChannel.Lib.Rounding

namespace VipChannel

open Lib Decimal

/-- `c'` states nothing worse than `c`: still registered, no lower deposit, and as many
    trades if any number is known. -/
structure AtLeastAsGood (c c' : ReferralCheck) : Prop where
  registered : c.registered = true → c'.registered = true
  deposit : ∃ p p', c.depositTotal.value = some p ∧ c'.depositTotal.value = some p' ∧ p ≤ p'
  trades : ∀ n, c.qualifyingTrades = some n → ∃ n', c'.qualifyingTrades = some n' ∧ n ≤ n'

/-- No threshold of `r'` is above the one of `r`. -/
structure NotStricter (r r' : ReferralRules) : Prop where
  balance : ∃ m m', r.minimumBalance.value = some m ∧ r'.minimumBalance.value = some m' ∧ m' ≤ m
  trades : r'.minimumTradesPerPeriod ≤ r.minimumTradesPerPeriod

/-- A fact the answer states that falls short of the rules. -/
inductive FallsShort (c : ReferralCheck) (r : ReferralRules) (requireTrading : Bool) : Prop
  | registration : c.registered = false → FallsShort c r requireTrading
  | deposit : c.depositTotal.lt r.minimumBalance = .ok true → FallsShort c r requireTrading
  | trading {n : Int} : requireTrading = true → c.qualifyingTrades = some n →
      n < r.minimumTradesPerPeriod → FallsShort c r requireTrading

/-! ## One lemma for each exit -/

section Exits

variable {c : ReferralCheck} {r : ReferralRules} {rt : Bool} {v : EligibilityVerdict}

/-- Enough of everything asked for: eligible. -/
theorem evaluateReferral_enough (hreg : c.registered = true)
    (hbal : c.depositTotal.lt r.minimumBalance = .ok false)
    (ht : rt = true → ∃ n, c.qualifyingTrades = some n ∧ r.minimumTradesPerPeriod ≤ n) :
    ∃ v, evaluateReferral (some c) r rt = .ok v ∧ v.eligible = true := by
  cases rt with
  | false => exact ⟨_, evaluateReferral_funded hreg hbal, rfl⟩
  | true =>
    obtain ⟨n, hn, hle⟩ := ht rfl
    refine ⟨{ reason := .eligible, complianceState := .compliant, balance := c.depositTotal },
      ?_, rfl⟩
    simp [evaluateReferral, hreg, hbal, hn, trap, bind, Except.bind, pure, Except.pure,
      not_lt.mpr hle]

/-- A registered account with too low a deposit: the verdict is the difference. -/
theorem evaluateReferral_short (hreg : c.registered = true)
    (hlt : c.depositTotal.lt r.minimumBalance = .ok true) {d : Decimal}
    (hsub : r.minimumBalance.sub c.depositTotal = .ok d) :
    evaluateReferral (some c) r rt =
      .ok { reason := .insufficientBalance, complianceState := .nonCompliant
            balance := c.depositTotal, shortfall := d } := by
  simp [evaluateReferral, hreg, hlt, hsub, trap, bind, Except.bind, pure, Except.pure]

/-- A deposit that is not too low is not blamed. -/
theorem evaluateReferral_not_short (hreg : c.registered = true)
    (hbal : c.depositTotal.lt r.minimumBalance = .ok false) :
    ∃ v, evaluateReferral (some c) r rt = .ok v ∧ v.reason ≠ .insufficientBalance := by
  cases rt with
  | false => exact ⟨_, evaluateReferral_funded hreg hbal, by simp⟩
  | true =>
    cases ht : c.qualifyingTrades with
    | none => exact ⟨_, evaluateReferral_noTrades hreg hbal ht, by simp⟩
    | some n =>
      simp only [evaluateReferral, hreg, hbal, ht, trap, bind, Except.bind, Bool.not_true,
        Bool.false_eq_true, if_false, if_true]
      split
      · exact ⟨_, rfl, by simp⟩
      · exact ⟨_, rfl, by simp⟩

/-- The balance is blamed only when a registered account's deposit is below the minimum. -/
theorem evaluateReferral_insufficientBalance {check : Option ReferralCheck}
    (h : evaluateReferral check r rt = .ok v) (hv : v.reason = .insufficientBalance) :
    ∃ c, check = some c ∧ c.registered = true ∧
      c.depositTotal.lt r.minimumBalance = .ok true ∧ v.balance = c.depositTotal ∧
      r.minimumBalance.sub c.depositTotal = .ok v.shortfall := by
  cases check with
  | none => cases h; cases hv
  | some c =>
    refine ⟨c, rfl, ?_⟩
    by_cases hreg : c.registered = true
    swap
    · simp only [evaluateReferral, hreg, Bool.not_false, if_true, Except.ok.injEq] at h
      subst h
      cases hv
    cases hlt : c.depositTotal.lt r.minimumBalance with
    | error s => simp [evaluateReferral, hreg, hlt, trap, bind, Except.bind] at h
    | ok short =>
      cases short with
      | true =>
        cases hsub : r.minimumBalance.sub c.depositTotal with
        | error s => simp [evaluateReferral, hreg, hlt, hsub, trap, bind, Except.bind] at h
        | ok d =>
          rw [evaluateReferral_short hreg hlt hsub] at h
          cases h
          exact ⟨hreg, rfl, rfl, rfl⟩
      | false =>
        simp only [evaluateReferral, hreg, hlt, trap, bind, Except.bind, Bool.not_true,
          Bool.false_eq_true, if_false] at h
        split at h
        · split at h
          · cases h; cases hv
          · split at h <;> cases h <;> cases hv
        · cases h; cases hv

/-- Nobody is `NON_COMPLIANT` without a fact that falls short. -/
theorem evaluateReferral_nonCompliant {check : Option ReferralCheck}
    (h : evaluateReferral check r rt = .ok v) (hv : v.complianceState = .nonCompliant) :
    ∃ c, check = some c ∧ FallsShort c r rt := by
  cases check with
  | none => cases h; cases hv
  | some c =>
    refine ⟨c, rfl, ?_⟩
    by_cases hreg : c.registered = true
    swap
    · exact .registration (by simpa using hreg)
    cases hlt : c.depositTotal.lt r.minimumBalance with
    | error s => simp [evaluateReferral, hreg, hlt, trap, bind, Except.bind] at h
    | ok short =>
      cases short with
      | true => exact .deposit hlt
      | false =>
        simp only [evaluateReferral, hreg, hlt, trap, bind, Except.bind, Bool.not_true,
          Bool.false_eq_true, if_false] at h
        split at h
        · next hrt =>
          split at h
          · cases h; cases hv
          · next n hn =>
            split at h
            · next hfew => exact .trading hrt hn hfew
            · cases h; cases hv
        · cases h; cases hv

end Exits

/-! ## Monotonicity -/

theorem evaluateReferral_mono {c c' : ReferralCheck} {r r' : ReferralRules} {rt : Bool}
    {v : EligibilityVerdict} (hgood : AtLeastAsGood c c') (hrules : NotStricter r r')
    (h : evaluateReferral (some c) r rt = .ok v) (he : v.eligible = true) :
    ∃ v', evaluateReferral (some c') r' rt = .ok v' ∧ v'.eligible = true := by
  obtain ⟨c₀, hc₀, hreg, hbal, ht⟩ := evaluateReferral_eligible h he
  cases hc₀
  obtain ⟨p, p', hp, hp', hle⟩ := hgood.deposit
  obtain ⟨m, m', hm, hm', hle'⟩ := hrules.balance
  rw [lt_value hp hm] at hbal
  have henough : m ≤ p := not_lt.mp (of_decide_eq_false (Except.ok.inj hbal))
  apply evaluateReferral_enough (hgood.registered hreg)
  · rw [lt_value hp' hm', decide_eq_false (not_lt.mpr (hle'.trans (henough.trans hle)))]
  · intro hrt
    obtain ⟨n, hn, hmin⟩ := ht hrt
    obtain ⟨n', hn', hnn'⟩ := hgood.trades n hn
    exact ⟨n', hn', hrules.trades.trans (hmin.trans hnn')⟩

/-- What monitoring finds eligible, sign-up does too. -/
theorem evaluateReferral_without_trading {check : Option ReferralCheck} {r : ReferralRules}
    {v : EligibilityVerdict} (h : evaluateReferral check r true = .ok v)
    (he : v.eligible = true) :
    ∃ v', evaluateReferral check r false = .ok v' ∧ v'.eligible = true := by
  obtain ⟨c, rfl, hreg, hbal, -⟩ := evaluateReferral_eligible h he
  exact ⟨_, evaluateReferral_funded hreg hbal, rfl⟩

/-! ## The shortfall -/

/-- The same answer with another deposit. -/
def ReferralCheck.withDeposit (c : ReferralCheck) (d : Decimal) : ReferralCheck :=
  { c with depositTotal := d }

/-- `v`'s shortfall is exact and the least raise of the deposit that ends the blame. -/
structure ExactShortfall (c : ReferralCheck) (r : ReferralRules) (rt : Bool)
    (v : EligibilityVerdict) : Prop where
  balanced : ∃ b s m, v.balance.value = some b ∧ v.shortfall.value = some s ∧
    r.minimumBalance.value = some m ∧ c.depositTotal.value = some b ∧ 0 < s ∧ b + s = m
  enough : ∀ b s d, v.balance.value = some b → v.shortfall.value = some s →
    d.value = some (b + s) → ∃ v', evaluateReferral (some (c.withDeposit d)) r rt = .ok v' ∧
      v'.reason ≠ .insufficientBalance
  least : ∀ b s x d, v.balance.value = some b → v.shortfall.value = some s → 0 ≤ x → x < s →
    d.value = some (b + x) → ∃ v', evaluateReferral (some (c.withDeposit d)) r rt = .ok v' ∧
      v'.reason = .insufficientBalance

theorem exactShortfall_of_representable {c : ReferralCheck} {r : ReferralRules} {rt : Bool}
    {v : EligibilityVerdict} {p m : ℚ} (hp : c.depositTotal.value = some p)
    (hm : r.minimumBalance.value = some m) (hexact : Representable (m - p))
    (h : evaluateReferral (some c) r rt = .ok v) (hv : v.reason = .insufficientBalance) :
    ExactShortfall c r rt v := by
  obtain ⟨c₀, hc₀, hreg, hlt, hbal, hsub⟩ := evaluateReferral_insufficientBalance h hv
  cases hc₀
  have hs : v.shortfall.value = some (m - p) := by
    rw [sub_value hm hp hsub, rounded_of_representable hexact]
  have hb : v.balance.value = some p := by rw [hbal, hp]
  have hshort : p < m := by
    rw [lt_value hp hm] at hlt
    exact of_decide_eq_true (Except.ok.inj hlt)
  constructor
  · exact ⟨p, m - p, m, hb, hs, hm, hp, sub_pos.mpr hshort, add_sub_cancel p m⟩
  · intro b s d hb' hs' hd
    rw [hb] at hb'
    rw [hs] at hs'
    cases hb'
    cases hs'
    have hd' : (c.withDeposit d).depositTotal.value = some m := by
      rw [add_sub_cancel] at hd
      exact hd
    have hreg' : (c.withDeposit d).registered = true := hreg
    apply evaluateReferral_not_short hreg'
    rw [lt_value hd' hm, decide_eq_false (lt_irrefl m)]
  · intro b s x d hb' hs' hx hxs hd
    rw [hb] at hb'
    rw [hs] at hs'
    cases hb'
    cases hs'
    have hd' : (c.withDeposit d).depositTotal.value = some (p + x) := hd
    have hless : p + x < m := by linarith
    obtain ⟨sign, hfix⟩ := sub_fixed hm hp
    rw [hsub] at hfix
    -- The smaller difference is below the limit because the larger one is.
    have hlim : |rounded (m - (p + x))| < LIMIT := by
      have hfits := hfix.lt_limit
      have hle : rounded (m - (p + x)) ≤ rounded (m - p) :=
        rounded_mono (by linarith) (by linarith)
      rw [abs_of_nonneg (rounded_nonneg (by linarith))] at hfits ⊢
      exact lt_of_le_of_lt hle hfits
    obtain ⟨sign', hfix'⟩ := sub_fixed hm hd'
    obtain ⟨e, he⟩ := hfix'.exists_ok hlim
    have hlt' : (c.withDeposit d).depositTotal.lt r.minimumBalance = .ok true := by
      rw [lt_value hd' hm, decide_eq_true hless]
    have hreg' : (c.withDeposit d).registered = true := hreg
    exact ⟨_, evaluateReferral_short hreg' hlt' he, rfl⟩

/-- Eligibility is monotone in the facts and the rules, and the shortfall is exactly what
    is missing. -/
theorem eligibility_is_monotone :
    (∀ c c' r r' rt v, AtLeastAsGood c c' → NotStricter r r' →
      evaluateReferral (some c) r rt = .ok v → v.eligible = true →
      ∃ v', evaluateReferral (some c') r' rt = .ok v' ∧ v'.eligible = true) ∧
    (∀ check r v, evaluateReferral check r true = .ok v → v.eligible = true →
      ∃ v', evaluateReferral check r false = .ok v' ∧ v'.eligible = true) ∧
    (∀ check r rt v, evaluateReferral check r rt = .ok v → v.complianceState = .nonCompliant →
      ∃ c, check = some c ∧ FallsShort c r rt) ∧
    (∀ c r rt v p m, c.depositTotal.value = some p → r.minimumBalance.value = some m →
      Representable (m - p) → evaluateReferral (some c) r rt = .ok v →
      v.reason = .insufficientBalance → ExactShortfall c r rt v) := by
  refine ⟨?_, ?_, ?_, ?_⟩
  · intro c c' r r' rt v hgood hrules h he
    exact evaluateReferral_mono hgood hrules h he
  · intro check r v h he
    exact evaluateReferral_without_trading h he
  · intro check r rt v h hv
    exact evaluateReferral_nonCompliant h hv
  · intro c r rt v p m hp hm hexact h hv
    exact exactShortfall_of_representable hp hm hexact h hv

/-- An account with `balance` cents and `trades` trades. -/
def accountCheck (balance : Nat) (trades : Option Int) : ReferralCheck where
  uid := "123456789"
  registered := true
  depositTotal := .finite false balance (-2)
  qualifyingTrades := trades

def rulesOf (minimum : Nat) (trades : Int) : ReferralRules where
  minimumBalance := .finite false minimum (-2)
  minimumTradesPerPeriod := trades

/-- Half a dollar short of 300, and then a richer, busier account under milder rules. -/
theorem half_a_dollar_short :
    ExactShortfall (accountCheck 29950 none) (rulesOf 30000 1) false
      { reason := .insufficientBalance, complianceState := .nonCompliant
        balance := .finite false 29950 (-2), shortfall := .finite false 50 (-2) } ∧
    (∃ v', evaluateReferral (some (accountCheck 50000 (some 7))) (rulesOf 20000 1) true = .ok v' ∧
      v'.eligible = true) ∧
    (∃ v', evaluateReferral (some (accountCheck 40000 (some 3))) (rulesOf 30000 2) false = .ok v' ∧
      v'.eligible = true) ∧
    ∃ c, some (accountCheck 40000 (some 1)) = some c ∧ FallsShort c (rulesOf 30000 2) true := by
  obtain ⟨hmono, hwithout, hblame, hshort⟩ := eligibility_is_monotone
  refine ⟨?_, ?_, ?_, ?_⟩
  · apply hshort _ _ _ _ (29950 / 100) (30000 / 100)
    · norm_num [accountCheck, value, val, signed]
    · norm_num [rulesOf, value, val, signed]
    · exact ⟨50, -2, by norm_num, by norm_num [PREC], by norm_num [ETINY]⟩
    · rfl
    · rfl
  · apply hmono (accountCheck 40000 (some 3)) _ (rulesOf 30000 2) _ true
      { reason := .eligible, complianceState := .compliant, balance := .finite false 40000 (-2) }
    · refine ⟨fun _ => rfl, ⟨400, 500, ?_, ?_, by norm_num⟩, ?_⟩
      · norm_num [accountCheck, value, val, signed]
      · norm_num [accountCheck, value, val, signed]
      · intro n hn
        cases hn
        exact ⟨7, rfl, by decide⟩
    · refine ⟨⟨300, 200, ?_, ?_, by norm_num⟩, by decide⟩
      · norm_num [rulesOf, value, val, signed]
      · norm_num [rulesOf, value, val, signed]
    · rfl
    · rfl
  · apply hwithout _ _
      { reason := .eligible, complianceState := .compliant, balance := .finite false 40000 (-2) }
    · rfl
    · rfl
  · apply hblame _ _ _ { reason := .insufficientTrading, complianceState := .nonCompliant
                         balance := .finite false 40000 (-2) }
    · rfl
    · rfl

end VipChannel

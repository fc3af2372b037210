/-
  VipChannel.Domain.Eligibility

  Who qualifies for VIP access through a referral (domain/eligibility.py), and the
  provider's answer it judges (application/ports/referral_provider.py).

  `evaluateReferral` compares and subtracts `Decimal`s, so it raises where they
  signal: an amount that is NaN has no verdict.
-/
import VipChannel.Errors
import VipChannel.Domain.Enums
import VipChannel.Lib.Json

namespace VipChannel

open Lib

/-- What a provider can tell about one UID, right now. -/
structure ReferralCheck where
  uid : String
  registered : Bool
  depositTotal : Decimal := .zero
  qualifyingTrades : Option Int := none
  raw : Json := .obj []

inductive EligibilityReason where
  | eligible
  | notRegistered
  | insufficientBalance
  | insufficientTrading
  | providerUnavailable
  deriving DecidableEq

def EligibilityReason.value : EligibilityReason → String
  | eligible => "ELIGIBLE"
  | notRegistered => "NOT_REGISTERED"
  | insufficientBalance => "INSUFFICIENT_BALANCE"
  | insufficientTrading => "INSUFFICIENT_TRADING"
  | providerUnavailable => "PROVIDER_UNAVAILABLE"

/-- The tenant's configured thresholds. -/
structure ReferralRules where
  minimumBalance : Decimal
  minimumTradesPerPeriod : Int := 1
  tradePeriodDays : Int := 7

structure EligibilityVerdict where
  reason : EligibilityReason
  complianceState : ComplianceState
  balance : Decimal := .zero
  shortfall : Decimal := .zero
  deriving DecidableEq

/-- `verdict.eligible`. -/
def EligibilityVerdict.eligible (v : EligibilityVerdict) : Bool :=
  v.reason = .eligible

/-- Decide whether one referral account qualifies.  `none` is a provider that could not
    be reached. -/
def evaluateReferral (check : Option ReferralCheck) (rules : ReferralRules)
    (requireTrading : Bool) : Except PyError EligibilityVerdict :=
  match check with
  | none =>
    .ok { reason := .providerUnavailable, complianceState := .providerUnavailable }
  | some check =>
    if !check.registered then
      .ok { reason := .notRegistered, complianceState := .nonCompliant
            balance := check.depositTotal }
    else do
      if ← trap (check.depositTotal.lt rules.minimumBalance) then
        let shortfall ← trap (rules.minimumBalance.sub check.depositTotal)
        return { reason := .insufficientBalance, complianceState := .nonCompliant
                 balance := check.depositTotal, shortfall }
      else if requireTrading then
        match check.qualifyingTrades with
        | none =>
          -- The answer says nothing about trading: not "they did not trade".
          return { reason := .providerUnavailable, complianceState := .providerUnavailable
                   balance := check.depositTotal }
        | some trades =>
          if trades < rules.minimumTradesPerPeriod then
            return { reason := .insufficientTrading, complianceState := .nonCompliant
                     balance := check.depositTotal }
          else
            return { reason := .eligible, complianceState := .compliant
                     balance := check.depositTotal }
      else
        return { reason := .eligible, complianceState := .compliant
                 balance := check.depositTotal }

/-! ## What each verdict says about the answer -/

/-- No answer, no blame: an outage has one verdict whatever the rules. -/
@[simp] theorem evaluateReferral_none (rules : ReferralRules) (rt : Bool) :
    evaluateReferral none rules rt =
      .ok { reason := .providerUnavailable, complianceState := .providerUnavailable } := rfl

/-- An eligible verdict states registration and a balance that is not short; with
    trading required it states enough trades too. -/
theorem evaluateReferral_eligible {check : Option ReferralCheck} {rules : ReferralRules}
    {rt : Bool} {v : EligibilityVerdict} (h : evaluateReferral check rules rt = .ok v)
    (he : v.eligible = true) :
    ∃ c, check = some c ∧ c.registered = true ∧
      c.depositTotal.lt rules.minimumBalance = .ok false ∧
      (rt = true → ∃ n, c.qualifyingTrades = some n ∧ rules.minimumTradesPerPeriod ≤ n) := by
  unfold evaluateReferral at h
  cases check with
  | none => cases h; simp [EligibilityVerdict.eligible] at he
  | some c =>
    refine ⟨c, rfl, ?_⟩
    by_cases hreg : c.registered
    · simp only [hreg, Bool.not_true, Bool.false_eq_true, if_false] at h
      cases hlt : c.depositTotal.lt rules.minimumBalance with
      | error s => simp [hlt, trap, bind, Except.bind] at h
      | ok short =>
        cases short with
        | true =>
          simp only [hlt, trap, bind, Except.bind, if_true] at h
          cases hs : rules.minimumBalance.sub c.depositTotal with
          | error s => simp [hs] at h
          | ok d =>
            simp only [hs, pure, Except.pure, Except.ok.injEq] at h
            subst h
            simp [EligibilityVerdict.eligible] at he
        | false =>
          refine ⟨hreg, rfl, fun hrt => ?_⟩
          subst hrt
          simp only [hlt, trap, bind, Except.bind, Bool.false_eq_true, if_false, if_true] at h
          cases ht : c.qualifyingTrades with
          | none =>
            simp only [ht, pure, Except.pure, Except.ok.injEq] at h
            subst h
            simp [EligibilityVerdict.eligible] at he
          | some n =>
            refine ⟨n, rfl, ?_⟩
            simp only [ht] at h
            split at h
            · simp only [pure, Except.pure, Except.ok.injEq] at h
              subst h
              simp [EligibilityVerdict.eligible] at he
            · omega
    · simp only [hreg, Bool.not_false, if_true, Except.ok.injEq] at h
      subst h
      simp [EligibilityVerdict.eligible] at he

/-- A funded, registered account about whose trading nothing is said: no verdict. -/
theorem evaluateReferral_noTrades {c : ReferralCheck} {rules : ReferralRules}
    (hreg : c.registered = true)
    (hbal : c.depositTotal.lt rules.minimumBalance = .ok false)
    (ht : c.qualifyingTrades = none) :
    evaluateReferral (some c) rules true =
      .ok { reason := .providerUnavailable, complianceState := .providerUnavailable
            balance := c.depositTotal } := by
  simp [evaluateReferral, hreg, hbal, ht, trap, bind, Except.bind, pure, Except.pure]

/-- At sign-up, registration and a balance that is not short are all it takes. -/
theorem evaluateReferral_funded {c : ReferralCheck} {rules : ReferralRules}
    (hreg : c.registered = true)
    (hbal : c.depositTotal.lt rules.minimumBalance = .ok false) :
    evaluateReferral (some c) rules false =
      .ok { reason := .eligible, complianceState := .compliant, balance := c.depositTotal } := by
  simp [evaluateReferral, hreg, hbal, trap, bind, Except.bind, pure, Except.pure]

end VipChannel

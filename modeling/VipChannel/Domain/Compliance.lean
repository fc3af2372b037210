/-
  VipChannel.Domain.Compliance

  What to do about a member who stopped qualifying (domain/compliance.py): the
  pure decision of one monitoring pass over one membership.

  Dates are computed as Python computes them, so a decision that needs an instant
  Python cannot represent raises instead.  The inversion lemmas say, per action,
  everything a decision tells about its inputs; whoever reasons about passes uses
  them and never unfolds `decideCompliance`.
-/
import VipChannel.Domain.Eligibility

namespace VipChannel

open Lib

inductive ComplianceAction where
  | none
  | warn
  | revoke
  | restore
  deriving DecidableEq

/-- Why nothing happened. -/
inductive ComplianceSkipReason where
  | stillCompliant
  | providerUnavailable
  | onboardingGrace
  | warningIntervalNotElapsed
  | notAnActiveMembership
  deriving DecidableEq

structure CompliancePolicy where
  maxWarnings : Int := 3
  warningIntervalDays : Int := 5
  onboardingGraceDays : Int := 30

/-- Just enough of a membership to decide. -/
structure MembershipSnapshot where
  status : MembershipStatus
  memberSince : DateTime
  warningsSent : Int := 0
  lastWarningAt : Option DateTime := none

structure ComplianceDecision where
  action : ComplianceAction
  skipReason : Option ComplianceSkipReason := none
  warningsAfter : Int := 0
  detail : Option String := none
  deriving DecidableEq

/-- Membership in `_MONITORED`: the statuses the monitoring pass may act on. -/
def MembershipStatus.monitored : MembershipStatus → Bool
  | .invited | .active | .suspended => true
  | .pending | .expired | .revoked => false

/-- Whether the configured spacing still forbids another warning. -/
def warningTooSoon (membership : MembershipSnapshot) (policy : CompliancePolicy)
    (now : DateTime) : Except PyError Bool :=
  match membership.lastWarningAt with
  | none => .ok false
  | some last => do
    let nextAllowed ← plusDays last.aware policy.warningIntervalDays
    earlier now nextAllowed

def decideCompliance (membership : MembershipSnapshot) (verdict : EligibilityVerdict)
    (policy : CompliancePolicy) (now : DateTime) : Except PyError ComplianceDecision :=
  if !membership.status.monitored then
    .ok { action := .none, skipReason := some .notAnActiveMembership
          warningsAfter := membership.warningsSent }
  else if verdict.reason = .providerUnavailable then
    .ok { action := .none, skipReason := some .providerUnavailable
          warningsAfter := membership.warningsSent }
  else if verdict.eligible then
    if 0 < membership.warningsSent ∨ membership.status = .suspended then
      .ok { action := .restore, warningsAfter := 0 }
    else
      .ok { action := .none, skipReason := some .stillCompliant }
  else do
    let graceEnds ← plusDays membership.memberSince.aware policy.onboardingGraceDays
    if ← earlier now graceEnds then
      return { action := .none, skipReason := some .onboardingGrace
               warningsAfter := membership.warningsSent }
    else if ← warningTooSoon membership policy now then
      return { action := .none, skipReason := some .warningIntervalNotElapsed
               warningsAfter := membership.warningsSent }
    else if policy.maxWarnings ≤ membership.warningsSent then
      return { action := .revoke, warningsAfter := membership.warningsSent
               detail := some verdict.reason.value }
    else
      return { action := .warn, warningsAfter := membership.warningsSent + 1
               detail := some verdict.reason.value }

/-! ## Inversion -/

/-- The facts behind a decision that goes against the member: a monitored membership,
    a verdict that blames the member, the grace over and the spacing kept. -/
structure Punishable (membership : MembershipSnapshot) (verdict : EligibilityVerdict)
    (policy : CompliancePolicy) (now : DateTime) : Prop where
  monitored : membership.status.monitored = true
  blamed : verdict.reason ≠ .providerUnavailable ∧ verdict.eligible = false
  graceOver : membership.memberSince.utc + policy.onboardingGraceDays * MICROS_PER_DAY ≤ now.utc
  spaced : ∀ last, membership.lastWarningAt = some last →
    last.utc + policy.warningIntervalDays * MICROS_PER_DAY ≤ now.utc

theorem warningTooSoon_false {m : MembershipSnapshot} {p : CompliancePolicy} {now : DateTime}
    (h : warningTooSoon m p now = .ok false) :
    ∀ last, m.lastWarningAt = some last →
      last.utc + p.warningIntervalDays * MICROS_PER_DAY ≤ now.utc := by
  intro last hlast
  simp only [warningTooSoon, hlast, bind, Except.bind] at h
  split at h
  · cases h
  · next next hnext =>
    have hlt := earlier_ok h
    have hutc := plusDays_utc hnext
    rw [DateTime.aware_utc] at hutc
    have := of_decide_eq_false hlt.symm
    omega

/-- Every decision is one of four actions, each with what it says about its inputs. -/
theorem decideCompliance_cases {m : MembershipSnapshot} {v : EligibilityVerdict}
    {p : CompliancePolicy} {now : DateTime} {d : ComplianceDecision}
    (h : decideCompliance m v p now = .ok d) :
    (d.action = .none ∧
      (v.eligible = true → m.warningsSent ≤ 0 ∨ m.status.monitored = false)) ∨
    (d.action = .restore ∧ m.status.monitored = true ∧ v.eligible = true) ∨
    (d.action = .warn ∧ Punishable m v p now ∧ m.warningsSent < p.maxWarnings ∧
      d.warningsAfter = m.warningsSent + 1 ∧ d.detail = some v.reason.value) ∨
    (d.action = .revoke ∧ Punishable m v p now ∧ p.maxWarnings ≤ m.warningsSent ∧
      d.detail = some v.reason.value) := by
  unfold decideCompliance at h
  by_cases hmon : m.status.monitored = true
  swap
  · have hmon' : m.status.monitored = false := by simpa using hmon
    simp only [hmon', Bool.not_false, if_true, Except.ok.injEq] at h
    subst h
    exact .inl ⟨rfl, fun _ => .inr hmon'⟩
  simp only [hmon, Bool.not_true, Bool.false_eq_true, if_false] at h
  by_cases hpu : v.reason = .providerUnavailable
  · simp only [hpu, if_true, Except.ok.injEq] at h
    subst h
    exact .inl ⟨rfl, fun he => by simp [EligibilityVerdict.eligible, hpu] at he⟩
  simp only [hpu, if_false] at h
  by_cases hel : v.eligible = true
  · simp only [hel, if_true] at h
    split at h
    · simp only [Except.ok.injEq] at h
      subst h
      exact .inr (.inl ⟨rfl, hmon, hel⟩)
    · next hno =>
      simp only [Except.ok.injEq] at h
      subst h
      exact .inl ⟨rfl, fun _ => .inl (by omega)⟩
  have hel' : v.eligible = false := by simpa using hel
  simp only [hel', Bool.false_eq_true, if_false, bind, Except.bind] at h
  split at h
  · cases h
  next graceEnds hgrace =>
  split at h
  · cases h
  next inGrace hin =>
  cases inGrace with
  | true =>
    simp only [if_true, pure, Except.pure, Except.ok.injEq] at h
    subst h
    exact .inl ⟨rfl, fun he => by simp [hel'] at he⟩
  | false =>
    simp only [Bool.false_eq_true, if_false] at h
    split at h
    · cases h
    next tooSoon hsoon =>
    cases tooSoon with
    | true =>
      simp only [if_true, pure, Except.pure, Except.ok.injEq] at h
      subst h
      exact .inl ⟨rfl, fun he => by simp [hel'] at he⟩
    | false =>
      have hover : m.memberSince.utc + p.onboardingGraceDays * MICROS_PER_DAY ≤ now.utc := by
        have hlt := of_decide_eq_false (earlier_ok hin).symm
        have hutc := plusDays_utc hgrace
        rw [DateTime.aware_utc] at hutc
        omega
      have hpun : Punishable m v p now := ⟨hmon, ⟨hpu, hel'⟩, hover, warningTooSoon_false hsoon⟩
      simp only [Bool.false_eq_true, if_false] at h
      split at h
      · next hmax =>
        simp only [pure, Except.pure, Except.ok.injEq] at h
        subst h
        exact .inr (.inr (.inr ⟨rfl, hpun, hmax, rfl⟩))
      · next hmax =>
        simp only [pure, Except.pure, Except.ok.injEq] at h
        subst h
        exact .inr (.inr (.inl ⟨rfl, hpun, by omega, rfl, rfl⟩))

/-- An outage decides nothing. -/
theorem decideCompliance_unavailable {m : MembershipSnapshot} {v : EligibilityVerdict}
    {p : CompliancePolicy} {now : DateTime} {d : ComplianceDecision}
    (h : decideCompliance m v p now = .ok d) (hv : v.reason = .providerUnavailable) :
    d.action = .none := by
  rcases decideCompliance_cases h with ⟨ha, -⟩ | ⟨-, -, hel⟩ | ⟨-, hp, -⟩ | ⟨-, hp, -⟩
  · exact ha
  · simp [EligibilityVerdict.eligible, hv] at hel
  · exact absurd hv hp.blamed.1
  · exact absurd hv hp.blamed.1

/-- A decision against the member is `Punishable`. -/
theorem decideCompliance_punishable {m : MembershipSnapshot} {v : EligibilityVerdict}
    {p : CompliancePolicy} {now : DateTime} {d : ComplianceDecision}
    (h : decideCompliance m v p now = .ok d) (ha : d.action = .warn ∨ d.action = .revoke) :
    Punishable m v p now := by
  rcases decideCompliance_cases h with ⟨hn, -⟩ | ⟨hr, -⟩ | ⟨-, hp, -⟩ | ⟨-, hp, -⟩
  · simp [hn] at ha
  · simp [hr] at ha
  · exact hp
  · exact hp

end VipChannel

/-
  VipChannel.Web.GraceLimits

  How long a grace period can be.

  The schema bounds `compliance_grace_period_days` from below only.  A decision adds the
  days to the instant the member joined, so that it returns exactly when the sum, and the
  end of the spacing where it is looked at, are instants Python can represent.
-/
import VipChannel.Jobs.MembershipMonitor
import VipChannel.Web.Admin

namespace VipChannel

open Lib

/-! ## Dates that can be told -/

/-- Python can represent the instant `n` days later. -/
def Lib.DateTime.Addable (d : DateTime) (n : Int) : Prop :=
  MIN_MICROS ≤ d.micros + n * MICROS_PER_DAY ∧ d.micros + n * MICROS_PER_DAY ≤ MAX_MICROS

instance (d : DateTime) (n : Int) : Decidable (d.Addable n) :=
  inferInstanceAs (Decidable (_ ∧ _))

/-- The bound on a `timedelta` never bites first: a sum within the calendar is one of few
    days. -/
theorem plusDays_isOk_iff {d : DateTime} {n : Int} :
    (∃ e, plusDays d n = .ok e) ↔ d.Addable n := by
  have hd := d.inRange
  unfold MIN_MICROS MAX_MICROS at hd
  constructor
  · rintro ⟨e, he⟩
    unfold plusDays at he
    split at he
    · cases he
    · next δ hδ =>
      have hmicros := TimeDelta.days?_micros hδ
      split at he
      · cases he
      · next e' hadd =>
        unfold DateTime.add? at hadd
        split at hadd
        · next hrange =>
          rw [hmicros] at hrange
          exact hrange
        · cases hadd
  · intro h
    have hdelta : -(MAX_DELTA_DAYS * MICROS_PER_DAY) ≤ n * MICROS_PER_DAY ∧
        n * MICROS_PER_DAY < (MAX_DELTA_DAYS + 1) * MICROS_PER_DAY := by
      have hrange := h
      unfold DateTime.Addable MIN_MICROS MAX_MICROS at hrange
      unfold MAX_DELTA_DAYS
      unfold MICROS_PER_DAY at hrange ⊢
      omega
    have hδ : TimeDelta.days? n = some ⟨n * MICROS_PER_DAY, hdelta⟩ := dif_pos hdelta
    have hadd : d.add? ⟨n * MICROS_PER_DAY, hdelta⟩ =
        some ⟨d.micros + n * MICROS_PER_DAY, h, d.utcoffset⟩ := dif_pos h
    refine ⟨⟨d.micros + n * MICROS_PER_DAY, h, d.utcoffset⟩, ?_⟩
    unfold plusDays
    rw [hδ]
    dsimp only
    rw [hadd]

theorem earlier_of_aware {a b : DateTime} (ha : a.utcoffset.isSome = true)
    (hb : b.utcoffset.isSome = true) : earlier a b = .ok (decide (a.utc < b.utc)) := by
  unfold earlier DateTime.lt?
  rw [ha, hb, if_pos rfl]

theorem plusDays_utcoffset {d e : DateTime} {n : Int} (h : plusDays d n = .ok e) :
    e.utcoffset = d.utcoffset := by
  unfold plusDays at h
  split at h
  · cases h
  · split at h
    · cases h
    · next hadd =>
      cases h
      exact DateTime.add?_utcoffset hadd

theorem Lib.DateTime.aware_addable {d : DateTime} {n : Int} :
    d.aware.Addable n ↔ d.Addable n := by
  have hmicros : d.aware.micros = d.micros := by
    unfold DateTime.aware
    split <;> rfl
  unfold DateTime.Addable
  rw [hmicros]

/-! ## Decisions that return -/

section Decisions

variable {m : MembershipSnapshot} {v : EligibilityVerdict} {p : CompliancePolicy}
  {now : DateTime}

/-- The verdict goes against a member the pass looks after. -/
def Judged (m : MembershipSnapshot) (v : EligibilityVerdict) : Prop :=
  m.status.monitored = true ∧ v.reason ≠ .providerUnavailable ∧ v.eligible = false

instance : Decidable (Judged m v) := inferInstanceAs (Decidable (_ ∧ _ ∧ _))

/-- The end of the grace can be told, and once it is over so can the end of the spacing. -/
structure Datable (m : MembershipSnapshot) (p : CompliancePolicy) (now : DateTime) : Prop where
  grace : m.memberSince.Addable p.onboardingGraceDays
  spacing : m.memberSince.utc + p.onboardingGraceDays * MICROS_PER_DAY ≤ now.utc →
    ∀ last, m.lastWarningAt = some last → last.Addable p.warningIntervalDays

theorem warningTooSoon_isOk_iff (haware : now.utcoffset.isSome = true) :
    (∃ b, warningTooSoon m p now = .ok b) ↔
      ∀ last, m.lastWarningAt = some last → last.Addable p.warningIntervalDays := by
  unfold warningTooSoon
  cases m.lastWarningAt with
  | none => simp
  | some last =>
    simp only [Option.some.injEq, forall_eq', bind, Except.bind]
    rw [← DateTime.aware_addable, ← plusDays_isOk_iff]
    cases hnext : plusDays last.aware p.warningIntervalDays with
    | error e => simp
    | ok next =>
      have hzone : next.utcoffset.isSome = true := by
        rw [plusDays_utcoffset hnext]
        exact DateTime.aware_isSome last
      simp [earlier_of_aware haware hzone]

/-- A decision returns unless it needs a date that cannot be told. -/
theorem decideCompliance_isOk_iff (haware : now.utcoffset.isSome = true) :
    (∃ d, decideCompliance m v p now = .ok d) ↔ (Judged m v → Datable m p now) := by
  unfold decideCompliance
  by_cases hmon : m.status.monitored = true
  swap
  · simp [Judged, hmon]
  by_cases hpu : v.reason = .providerUnavailable
  · simp [Judged, hmon, hpu]
  by_cases hel : v.eligible = true
  · simp only [hmon, Bool.not_true, Bool.false_eq_true, if_false, hpu, hel, if_true]
    split <;> simp [Judged, hel]
  have hel' : v.eligible = false := by simpa using hel
  have hjudged : Judged m v := ⟨hmon, hpu, hel'⟩
  simp only [hmon, Bool.not_true, Bool.false_eq_true, if_false, hpu, hel', hjudged, true_imp_iff,
    bind, Except.bind]
  cases hgrace : plusDays m.memberSince.aware p.onboardingGraceDays with
  | error e =>
    have hno : ¬ m.memberSince.Addable p.onboardingGraceDays := by
      rw [← DateTime.aware_addable, ← plusDays_isOk_iff, hgrace]
      simp
    refine iff_of_false (by simp) fun h => hno h.grace
  | ok graceEnds =>
    have hyes : m.memberSince.Addable p.onboardingGraceDays :=
      DateTime.aware_addable.mp (plusDays_isOk_iff.mp ⟨_, hgrace⟩)
    have hzone : graceEnds.utcoffset.isSome = true := by
      rw [plusDays_utcoffset hgrace]
      exact DateTime.aware_isSome _
    have hends : graceEnds.utc = m.memberSince.utc + p.onboardingGraceDays * MICROS_PER_DAY := by
      rw [plusDays_utc hgrace, DateTime.aware_utc]
    dsimp only
    rw [earlier_of_aware haware hzone]
    dsimp only
    by_cases hin : now.utc < graceEnds.utc
    · rw [decide_eq_true hin, if_pos rfl]
      refine iff_of_true ⟨_, rfl⟩ ⟨hyes, fun hover => ?_⟩
      omega
    · rw [decide_eq_false hin, if_neg (by decide)]
      have hdatable : Datable m p now ↔
          ∀ last, m.lastWarningAt = some last → last.Addable p.warningIntervalDays :=
        ⟨fun h => h.spacing (by omega), fun h => ⟨hyes, fun _ => h⟩⟩
      rw [hdatable, ← warningTooSoon_isOk_iff haware]
      cases warningTooSoon m p now with
      | error e => simp
      | ok tooSoon =>
        dsimp only
        refine iff_of_true ?_ ⟨_, rfl⟩
        cases tooSoon with
        | true => exact ⟨_, rfl⟩
        | false =>
          rw [if_neg (by decide)]
          split <;> exact ⟨_, rfl⟩

end Decisions

/-! ## Accepted programs -/

/-- What the schema lets through (`Field(…)` of `ReferralConfigRequest`). -/
structure ReferralConfigRequest.Accepted (payload : ReferralConfigRequest) : Prop where
  referralLink : 1 ≤ payload.referralLink.length ∧ payload.referralLink.length ≤ 500
  ibId : ∀ ibId, payload.ibId = some ibId → ibId.length ≤ 100
  minimumBalance : ∃ negative coeff exp, payload.minimumBalance = .finite negative coeff exp ∧
    (negative = false ∨ coeff = 0)
  minimumTradesPerPeriod : 0 ≤ payload.minimumTradesPerPeriod
  tradePeriodDays : 1 ≤ payload.tradePeriodDays
  complianceGracePeriodDays : 0 ≤ payload.complianceGracePeriodDays

/-- The columns of the texts and the INTEGER columns have room for what they are sent. -/
structure ReferralConfigRequest.Storable (payload : ReferralConfigRequest) : Prop where
  referralLink : HasRoom 500 payload.referralLink
  ibId : ∀ ibId, payload.ibId = some ibId → HasRoom 100 ibId
  minimumTradesPerPeriod : HasBits 32 payload.minimumTradesPerPeriod
  tradePeriodDays : HasBits 32 payload.tradePeriodDays
  complianceGracePeriodDays : HasBits 32 payload.complianceGracePeriodDays

section Accepted

variable {payload : ReferralConfigRequest} {config : ReferralProgramConfig}
  {m : MembershipSnapshot} {v : EligibilityVerdict} {policy : CompliancePolicy}
  {now : DateTime}

/-- Under an accepted program the decision about a member returns if and only if the member
    is not judged, or the grace ends in the year 9999 at the latest and, once it is over, so
    does the spacing. -/
theorem accepted_grace_decides_iff (haccepted : payload.Accepted)
    (haware : now.utcoffset.isSome = true) :
    (∃ d, decideCompliance m v (MembershipMonitor.policyFor policy
        (Admin.configureProgram payload config)) now = .ok d) ↔
      (Judged m v →
        m.memberSince.micros + payload.complianceGracePeriodDays * MICROS_PER_DAY ≤ MAX_MICROS ∧
        (m.memberSince.utc + payload.complianceGracePeriodDays * MICROS_PER_DAY ≤ now.utc →
          ∀ last, m.lastWarningAt = some last → last.Addable policy.warningIntervalDays)) := by
  rw [decideCompliance_isOk_iff haware]
  refine imp_congr_right fun _ => ?_
  have hgrace := haccepted.complianceGracePeriodDays
  have hsince := m.memberSince.inRange
  constructor
  · intro h
    exact ⟨h.grace.2, h.spacing⟩
  · rintro ⟨hend, hspacing⟩
    refine ⟨⟨?_, hend⟩, hspacing⟩
    have hdays : 0 ≤ payload.complianceGracePeriodDays * MICROS_PER_DAY :=
      Int.mul_nonneg hgrace (by decide)
    exact Int.le_trans hsince.1 (Int.le_add_of_nonneg_right hdays)

end Accepted

/-! ### A grace of centuries -/

/-- A program with so many days of grace. -/
def graceRequest (days : Int) : ReferralConfigRequest where
  referralLink := "https://partner/crypto"
  complianceGracePeriodDays := days

theorem accepted_graceRequest {days : Int} (h : 0 ≤ days) : (graceRequest days).Accepted where
  referralLink := by
    show 1 ≤ "https://partner/crypto".length ∧ "https://partner/crypto".length ≤ 500
    decide
  ibId := by
    intro ibId h
    cases h
  minimumBalance := ⟨false, 300, 0, rfl, .inl rfl⟩
  minimumTradesPerPeriod := Int.one_nonneg
  tradePeriodDays := by
    show (1 : Int) ≤ 7
    decide
  complianceGracePeriodDays := h

theorem storable_graceRequest {days : Int} (h : HasBits 32 days) :
    (graceRequest days).Storable where
  referralLink := by
    show HasRoom 500 "https://partner/crypto"
    decide +kernel
  ibId := by
    intro ibId h
    cases h
  minimumTradesPerPeriod := by
    show HasBits 32 1
    decide
  tradePeriodDays := by
    show HasBits 32 7
    decide
  complianceGracePeriodDays := h

/-- A member of day 100 who is not registered. -/
def joinedMember : MembershipSnapshot where
  status := .active
  memberSince := .day 100

def unregisteredVerdict : EligibilityVerdict where
  reason := .notRegistered
  complianceState := .nonCompliant

/-- The policy for a tenant that asked for so many days of grace. -/
def gracePolicy (days : Int) : CompliancePolicy :=
  MembershipMonitor.policyFor {} (Admin.configureProgram (graceRequest days)
    { tenantId := 1, providerType := .bitunix, market := .crypto
      referralLink := "https://partner/crypto" })

/-- Two grace periods that are accepted and stored: one ends after the calendar, the other
    is none that a `timedelta` holds.  Every decision about the member raises. -/
theorem accepted_grace_overflows :
    ((graceRequest 3000000).Accepted ∧ (graceRequest 3000000).Storable ∧
      decideCompliance joinedMember unregisteredVerdict (gracePolicy 3000000) (.day 20000) =
        .error .dateOverflow) ∧
    (graceRequest 2147483647).Accepted ∧ (graceRequest 2147483647).Storable ∧
      decideCompliance joinedMember unregisteredVerdict (gracePolicy 2147483647) (.day 20000) =
        .error ⟨.overflowError, "days=2147483647; must have magnitude <= 999999999"⟩ := by
  refine ⟨⟨accepted_graceRequest (by decide), storable_graceRequest (by decide), ?_⟩,
    accepted_graceRequest (by decide), storable_graceRequest (by decide), ?_⟩
  · decide +kernel
  · decide +kernel

/-- With 30 days the decision returns. -/
theorem month_of_grace_decides :
    ∃ d, decideCompliance joinedMember unregisteredVerdict (gracePolicy 30) (.day 20000) =
      .ok d := by
  refine (accepted_grace_decides_iff (accepted_graceRequest (by decide)) rfl).mpr fun _ => ⟨?_, ?_⟩
  · decide
  · intro _ last hlast
    cases hlast

end VipChannel

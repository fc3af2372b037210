/-
  VipChannel.Runs.Removal

  Who no longer meets the rules is removed, and by when.

  A membership is a matter with a due date: the end of its grace period, or of the interval
  after its last warning.  A completed pass that is told that the rules are not met leaves
  the row alone before that date, and takes it one warning further from then on; after the
  last warning the row is REVOKED.  With the passes a week apart, the number of warnings
  bounds the time it takes.
-/
import VipChannel.Lib.Deadlines
import VipChannel.Runs.Outages

namespace VipChannel

open Lib MembershipMonitor

/-! ## Due dates -/

/-- No warning and no removal before this instant, under the grace period of the policy. -/
def VIPMembership.due (policy : CompliancePolicy) (m : VIPMembership) : Int :=
  let graceEnds := m.snapshot.memberSince.utc + policy.onboardingGraceDays * MICROS_PER_DAY
  match m.lastWarningAt with
  | none => graceEnds
  | some last => max graceEnds (last.utc + policy.warningIntervalDays * MICROS_PER_DAY)

/-- The warnings that are still to come. -/
def VIPMembership.warningsLeft (policy : CompliancePolicy) (m : VIPMembership) : Nat :=
  (policy.maxWarnings - m.warningsSent).toNat

section Decisions

variable {policy : CompliancePolicy} {graceDays : Int} {m : VIPMembership}
  {v : EligibilityVerdict} {moment : DateTime} {d : ComplianceDecision}

/-- What is decided on a member who is to blame: nothing, before the due date, or the next
    warning, or the removal. -/
theorem decideCompliance_blamed (hmonitored : m.status.monitored = true)
    (hblamed : v.reason ≠ .providerUnavailable ∧ v.eligible = false)
    (h : decideCompliance m.snapshot v policy moment = .ok d) :
    (d.action = .none ∧ moment.utc < m.due policy) ∨
    (d.action = .warn ∧ m.warningsSent < policy.maxWarnings ∧
      d.warningsAfter = m.warningsSent + 1) ∨
    (d.action = .revoke ∧ policy.maxWarnings ≤ m.warningsSent) := by
  obtain ⟨hreason, heligible⟩ := hblamed
  have hsnapshot : m.snapshot.status.monitored = true := hmonitored
  rcases decideCompliance_cases h with ⟨ha, -⟩ | ⟨-, -, hel⟩ | ⟨ha, -, hlt, hafter, -⟩ |
    ⟨ha, -, hle, -⟩
  · -- Nothing was decided: the grace period or the interval was not over.
    refine .inl ⟨ha, ?_⟩
    simp only [decideCompliance, hsnapshot, hreason, heligible, Bool.not_true,
      Bool.false_eq_true, if_false, bind, Except.bind] at h
    split at h
    · cases h
    next graceEnds hgrace =>
    have hends := plusDays_utc hgrace
    rw [DateTime.aware_utc] at hends
    split at h
    · cases h
    next inGrace hin =>
    have hearly := earlier_ok hin
    cases inGrace with
    | true =>
      have hlt := of_decide_eq_true hearly.symm
      simp only [VIPMembership.due]
      split <;> omega
    | false =>
      simp only [Bool.false_eq_true, if_false] at h
      split at h
      · cases h
      next tooSoon hsoon =>
      cases tooSoon with
      | false =>
        simp only [Bool.false_eq_true, if_false] at h
        split at h
        · cases h
          cases ha
        · cases h
          cases ha
      | true =>
        cases hlast : m.lastWarningAt with
        | none =>
          simp only [warningTooSoon, VIPMembership.snapshot, hlast] at hsoon
          cases hsoon
        | some last =>
          simp only [warningTooSoon, VIPMembership.snapshot, hlast, bind, Except.bind] at hsoon
          split at hsoon
          · cases hsoon
          next next hnext =>
          have hlt := of_decide_eq_true (earlier_ok hsoon).symm
          have hutc := plusDays_utc hnext
          rw [DateTime.aware_utc] at hutc
          simp only [VIPMembership.due, hlast]
          omega
  · rw [heligible] at hel
    cases hel
  · exact .inr (.inl ⟨ha, hlt, hafter⟩)
  · exact .inr (.inr ⟨ha, hle⟩)

/-- A shorter grace period makes nothing due later. -/
theorem VIPMembership.due_mono (h : policy.onboardingGraceDays ≤ graceDays) :
    m.due policy ≤ m.due { policy with onboardingGraceDays := graceDays } := by
  have hgrace : policy.onboardingGraceDays * MICROS_PER_DAY ≤ graceDays * MICROS_PER_DAY := by
    have hday : (0 : Int) ≤ MICROS_PER_DAY := by decide
    exact Int.mul_le_mul_of_nonneg_right h hday
  simp only [VIPMembership.due]
  split
  · omega
  · omega

/-- A warning puts the next due date off by the interval. -/
theorem VIPMembership.due_warned (m : VIPMembership) (n : Int) (moment : DateTime)
    (hrest : 0 ≤ policy.warningIntervalDays) :
    moment.utc ≤ (m.warned n moment).due policy ∧
      (m.warned n moment).due policy ≤
        max (m.due policy) (moment.utc + policy.warningIntervalDays * MICROS_PER_DAY) := by
  have hnonneg : 0 ≤ policy.warningIntervalDays * MICROS_PER_DAY := by
    have hday : (0 : Int) ≤ MICROS_PER_DAY := by decide
    exact Int.mul_nonneg hrest hday
  have hdue : (m.warned n moment).due policy =
      max (m.snapshot.memberSince.utc + policy.onboardingGraceDays * MICROS_PER_DAY)
        (moment.utc + policy.warningIntervalDays * MICROS_PER_DAY) := rfl
  have hgrace : m.snapshot.memberSince.utc + policy.onboardingGraceDays * MICROS_PER_DAY ≤
      m.due policy := by
    simp only [VIPMembership.due]
    split
    · omega
    · omega
  rw [hdue]
  omega

end Decisions

/-! ## One pass -/

/-- The exchange lets the rules of no program be met that the member may be judged by, and
    none of them gives a longer grace period. -/
structure Wanting (G : World → Op → Choice → Prop) (A : TenantId) (graceDays : Int)
    (d : Database) (m : VIPMembership) : Prop where
  account : ∃ r ∈ d .referralAccounts, r.tenantId = A ∧ r.userId = m.userId
  program : ∀ r ∈ d .referralAccounts, r.tenantId = A → r.userId = m.userId →
    ∃ config ∈ d .referralProgramConfigs, config.tenantId = A ∧
      config.providerType = r.providerType ∧ config.market = r.market ∧
      config.complianceGracePeriodDays ≤ graceDays ∧
      ∀ check verdict, Answerable G r.uid check →
        evaluateReferral check config.rules true = .ok verdict →
        verdict.reason ≠ .providerUnavailable ∧ verdict.eligible = false

/-- The row is on its way to the removal. -/
structure Member (A : TenantId) (id : RowId) (policy : CompliancePolicy) (w : World) (due : Int)
    (left : Nat) : Prop where
  sound : w.Sound
  row : ∃ m ∈ w.db .vipMemberships, m.id = id ∧ m.tenantId = A ∧ m.status.monitored = true ∧
    m.due policy = due ∧ m.warningsLeft policy = left

/-- The row has been REVOKED. -/
structure Removed (id : RowId) (w : World) (t : Int) : Prop where
  sound : w.Sound
  row : ∃ m ∈ w.db .vipMemberships, m.id = id ∧ m.status = .revoked ∧ m.inviteLink = none ∧
    ∃ revokedAt, m.revokedAt = some revokedAt ∧ revokedAt.utc = t

/-- A completed pass at `t` of a tenant whose member does not meet the rules. -/
def PassAgainst (G : World → Op → Choice → Prop) (S : Settings) (A : TenantId) (id : RowId)
    (graceDays : Int) (t : Int) (w w' : World) : Prop :=
  (∃ account input, input.moment.utc = t ∧ PassMade G S A account input w w') ∧
    ∀ m ∈ w.db .vipMemberships, m.id = id → Wanting G A graceDays w.db m

/-- An operation that leaves the row as it is. -/
def Untouching (G : World → Op → Choice → Prop) (key : EncryptionKey) (S : Settings) (id : RowId)
    (w w' : World) : Prop :=
  (∃ B op r, Runs (serial G) (Operation.program key S B op) w r w') ∧
    ∀ m ∈ w.db .vipMemberships, m.id = id → m ∈ w'.db .vipMemberships

/-- The removal of a member: the passes of the tenant lead to it. -/
def removal (G : World → Op → Choice → Prop) (key : EncryptionKey) (S : Settings)
    (A : TenantId) (id : RowId) (graceDays : Int) : Errand World where
  pending := Member A id { S.policy with onboardingGraceDays := graceDays }
  done := Removed id
  look := PassAgainst G S A id graceDays
  other := Untouching G key S id

/-- When the last stage of the removal is due, with the passes `gap` apart from `t₀` on. -/
def VIPMembership.removalDate (policy : CompliancePolicy) (graceDays gap t₀ : Int)
    (m : VIPMembership) : Int :=
  Errand.deadline (policy.warningIntervalDays * MICROS_PER_DAY) gap t₀
    (m.due { policy with onboardingGraceDays := graceDays })
    (m.warningsLeft { policy with onboardingGraceDays := graceDays })

section Passes

variable {G : World → Op → Choice → Prop} {key : EncryptionKey} {S : Settings} {A : TenantId}
  {id : RowId} {account : RowId → RowId} {input : PassInput} {graceDays : Int} {w w' : World}
  {m : VIPMembership}

theorem PassMade.sound (h : PassMade G S A account input w w') (hw : w.Sound) : w'.Sound := by
  obtain ⟨⟨now, report, -, hruns⟩, -⟩ := h
  exact wp_sound (wp_sound_world _ _) hruns hw

/-- The pass judges the member, and finds it wanting. -/
theorem PassMade.judged (h : PassMade G S A account input w w')
    (hm : m ∈ w.db .vipMemberships) (ht : m.tenantId = A) (hmonitored : m.status.monitored = true)
    (hwanting : Wanting G A graceDays w.db m) :
    ∃ d days, days ≤ graceDays ∧ m.applied d input.moment ∈ w'.db .vipMemberships ∧
      ∃ v : EligibilityVerdict, (v.reason ≠ .providerUnavailable ∧ v.eligible = false) ∧
        decideCompliance m.snapshot v { S.policy with onboardingGraceDays := days }
          input.moment = .ok d := by
  obtain ⟨-, periodStart, ms, visited, acts, w₂, hp⟩ := h
  have hview : m ∈ (w.opened A).view .vipMemberships := hm
  have hlisted : m ∈ ms := by
    refine hp.listed.perm.mem_iff.mpr (List.mem_filter.mpr ⟨hview, ?_⟩)
    have htenant : (m.tenantId == (w.opened A).tenantId) = true := beq_iff_eq.mpr ht
    have hstatus : MONITORED.contains m.status = true := by
      rw [← hmonitored]
      cases m.status <;> rfl
    simp only [World.inScope, rowTenant, monitoredRow, htenant, hstatus, Bool.and_self]
  have hvisited : m ∈ visited := by
    by_contra hout
    exact hp.left_out m hlisted hout
  have hmem : finalRow (w.opened A) input.moment acts m ∈ w'.db .vipMemberships := by
    rw [hp.committed _ (by decide), hp.passed.rows]
    exact List.mem_map_of_mem hview
  rcases hp.loop.complete m hvisited with ⟨a, ha, rfl⟩ | ⟨picked, hunasked⟩
  · have hj := (hp.passed.holds a ha).judged
    obtain ⟨config, hconfig, hct, hcp, hcm, hgrace, hrules⟩ :=
      hwanting.program a.judgement.account hj.account_mem hj.account_tenant hj.account_user
    have hsame : config = a.judgement.config := by
      refine config_unique hp.listed.sound.db hconfig hj.config_mem ?_ ?_ ?_
      · exact hct.trans hj.config_tenant.symm
      · exact hcp.trans hj.config_provider.symm
      · exact hcm.trans hj.config_market.symm
    rw [hsame] at hgrace hrules
    refine ⟨a.judgement.decision, a.judgement.config.complianceGracePeriodDays, hgrace, ?_,
      a.judgement.verdict, hrules _ _ hj.answer hj.judged, hj.decided⟩
    rcases hp.passed.row_cases hp.listed hview with ⟨-, hno⟩ | ⟨b, hb, hbm, hrow⟩
    · exact absurd rfl (hno a ha)
    · rw [hrow] at hmem
      have hba : b = a := by
        by_contra hne
        have : Std.Symm fun a b : Act => a.membership.id ≠ b.membership.id :=
          ⟨fun _ _ h => h.symm⟩
        exact (hp.passed.distinct hp.listed).forall hb ha hne (by rw [hbm])
      rw [← hba]
      rw [hba] at hmem ⊢
      exact hmem
  · -- There is an account, and a program for each.
    exfalso
    cases hunasked with
    | noAccount hnone =>
      obtain ⟨r, hr, hrt, hru⟩ := hwanting.account
      have hout := hnone r hr
      have htenant : (r.tenantId == (w.opened A).tenantId) = true := beq_iff_eq.mpr hrt
      simp [World.inScope, rowTenant, accountOf, htenant, hru] at hout
    | @noProgram r hr hin hnone =>
      have hcond := World.inScope_cond hin
      simp only [accountOf, Bool.and_eq_true, beq_iff_eq] at hcond
      obtain ⟨config, hconfig, hct, hcp, hcm, -⟩ := hwanting.program r hr hcond.1 hcond.2
      have hout := hnone config hconfig
      have htenant : (config.tenantId == (w.opened A).tenantId) = true := beq_iff_eq.mpr hct
      simp [World.inScope, rowTenant, programOf, htenant, hcp, hcm] at hout

/-- A pass that finds a member wanting takes the removal further. -/
theorem PassAgainst.looked {t due : Int} {left : Nat} (hrest : 0 ≤ S.policy.warningIntervalDays)
    (h : PassAgainst G S A id graceDays t w w')
    (hmember : Member A id { S.policy with onboardingGraceDays := graceDays } w due left) :
    (removal G key S A id graceDays).Looked
      (S.policy.warningIntervalDays * MICROS_PER_DAY) t due left w' := by
  obtain ⟨⟨account, input, rfl, hmade⟩, hwanting⟩ := h
  obtain ⟨hw, m, hm, rfl, ht, hmonitored, rfl, rfl⟩ := hmember
  have hw' : w'.Sound := hmade.sound hw
  obtain ⟨d, days, hgrace, hrow, v, hblamed, hdecided⟩ :=
    hmade.judged hm ht hmonitored (hwanting m hm rfl)
  have hdue : m.due { S.policy with onboardingGraceDays := days } ≤
      m.due { S.policy with onboardingGraceDays := graceDays } :=
    VIPMembership.due_mono hgrace
  rcases decideCompliance_blamed hmonitored hblamed hdecided with ⟨ha, hearly⟩ |
    ⟨ha, hlt, hafter⟩ | ⟨ha, -⟩
  · -- Not due yet: the row is as it was.
    have hsame : m.applied d input.moment = m := by simp only [VIPMembership.applied, ha]
    rw [hsame] at hrow
    exact .waits (by omega) ⟨hw', m, hrow, rfl, ht, hmonitored, rfl, rfl⟩
  · -- The next warning.
    have hwarned : m.applied d input.moment = m.warned (m.warningsSent + 1) input.moment := by
      simp only [VIPMembership.applied, ha, hafter]
    rw [hwarned] at hrow
    have hinterval : 0 ≤ ({ S.policy with onboardingGraceDays := graceDays } :
        CompliancePolicy).warningIntervalDays := hrest
    obtain ⟨hnext, hbound⟩ := m.due_warned (m.warningsSent + 1) input.moment hinterval
    refine .advances ?_ hnext hbound ⟨hw', _, hrow, rfl, ht, hmonitored, rfl, rfl⟩
    simp only [VIPMembership.warningsLeft, VIPMembership.warned]
    simp only at hlt
    omega
  · have hremoved : m.applied d input.moment = m.removed input.moment d.detail := by
      simp only [VIPMembership.applied, ha]
    rw [hremoved] at hrow
    exact .ends ⟨hw', _, hrow, rfl, rfl, rfl, _, rfl, rfl⟩

/-- A REVOKED row is not looked at any more. -/
theorem PassMade.keeps (h : PassMade G S A account input w w')
    (hm : m ∈ w.db .vipMemberships) (hrevoked : m.status = .revoked) :
    m ∈ w'.db .vipMemberships := by
  obtain ⟨-, periodStart, ms, visited, acts, w₂, hp⟩ := h
  rw [hp.committed _ (by decide), hp.passed.rows]
  refine List.mem_map.mpr ⟨m, hm, ?_⟩
  rcases hp.passed.row_cases hp.listed hm with ⟨hsame, -⟩ | ⟨a, ha, rfl, -⟩
  · exact hsame
  · exfalso
    have hmonitored := (hp.listed.mem (hp.passed.membership_mem ha)).2.2
    rw [hrevoked] at hmonitored
    cases hmonitored

/-- Nothing takes a removal back, but for what touches the row. -/
theorem removal_progresses (hrest : 0 ≤ S.policy.warningIntervalDays) :
    (removal G key S A id graceDays).Progresses
      (S.policy.warningIntervalDays * MICROS_PER_DAY) where
  look := fun hlook hmember => hlook.looked hrest hmember
  look_done := fun hlook hremoved => by
    obtain ⟨⟨account, input, -, hmade⟩, -⟩ := hlook
    obtain ⟨hw, m, hm, hid, hrevoked, hrest⟩ := hremoved
    exact ⟨hmade.sound hw, m, hmade.keeps hm hrevoked, hid, hrevoked, hrest⟩
  other := fun hother hmember => by
    obtain ⟨⟨B, op, r, hruns⟩, hkept⟩ := hother
    obtain ⟨hw, m, hm, hid, hrest⟩ := hmember
    exact ⟨wp_sound (wp_sound_world _ _) hruns hw, m, hkept m hm hid, hid, hrest⟩
  other_done := fun hother hremoved => by
    obtain ⟨⟨B, op, r, hruns⟩, hkept⟩ := hother
    obtain ⟨hw, m, hm, hid, hrest⟩ := hremoved
    exact ⟨wp_sound (wp_sound_world _ _) hruns hw, m, hkept m hm hid, hid, hrest⟩

/-- A member who does not meet the rules in any of the tenant's passes is REVOKED in time: when
    the passes follow each other by `gap` at most, then, whatever else happens, for every
    warning that is left there is an interval and a gap, and one gap for the removal. -/
theorem removed_in_time {t₀ t gap : Int} {w₀ : World} (hsound : w₀.Sound)
    (hrest : 0 ≤ S.policy.warningIntervalDays) (hgap : 0 ≤ gap)
    (hm : m ∈ w₀.db .vipMemberships) (ht : m.tenantId = A) (hmonitored : m.status.monitored = true)
    (h : (removal G key S A m.id graceDays).Looks gap t₀ w₀ t w)
    (hlate : m.removalDate S.policy graceDays gap t₀ < t) :
    ∃ m' ∈ w.db .vipMemberships, m'.id = m.id ∧ m'.status = .revoked ∧ m'.inviteLink = none ∧
      ∃ revokedAt, m'.revokedAt = some revokedAt ∧
        revokedAt.utc ≤ m.removalDate S.policy graceDays gap t₀ + gap := by
  have hstart : Member A m.id { S.policy with onboardingGraceDays := graceDays } w₀
      (m.due { S.policy with onboardingGraceDays := graceDays })
      (m.warningsLeft { S.policy with onboardingGraceDays := graceDays }) :=
    ⟨hsound, m, hm, rfl, ht, hmonitored, rfl, rfl⟩
  have hnonneg : 0 ≤ S.policy.warningIntervalDays * MICROS_PER_DAY := by
    have hday : (0 : Int) ≤ MICROS_PER_DAY := by decide
    exact Int.mul_nonneg hrest hday
  obtain ⟨t₁, hin, -, m', hm', hid, hrevoked, hlink, revokedAt, hat, hutc⟩ :=
    h.done_of_late (removal_progresses hrest) hnonneg hgap hstart hlate
  refine ⟨m', hm', hid, hrevoked, hlink, revokedAt, hat, ?_⟩
  rw [hutc]
  exact hin

end Passes

/-! ## A member who is warned once -/

/-- On whatever day it is asked, the exchange does not know the member. -/
def Disowning (w : World) (op : Op) (c : Choice) : Prop :=
  ∃ day, c = calmEnv day (fun uid => some (strangerCheck uid)) w op

/-- One warning, five days before the removal. -/
def briefSettings : Settings := { defaultSettings with policy := { maxWarnings := 1 } }

/-- The pass of a day. -/
def passedOn (day : Fin 2932896) (w : World) : Except PyError (Option MonitorReport) × World :=
  exec World.step (calmEnv day fun uid => some (strangerCheck uid))
    (passTx briefSettings.period briefSettings.policy 1 (some (.day day))) w

theorem unregistered_disowning {uid : String} {check : Option ReferralCheck}
    (h : Answerable Disowning uid check) : check = some (strangerCheck uid) := by
  obtain ⟨w, c, ⟨day, rfl⟩, ⟨hcheck, -⟩ | ⟨-, e, hfault, -⟩⟩ := h
  · rw [hcheck]
    rfl
  · cases hfault

/-- The member has an account, and there is a program with thirty days of grace for it. -/
def Programmed (d : Database) : Prop :=
  (∃ r ∈ d .referralAccounts, r.tenantId = 1 ∧ r.userId = 0) ∧
    ∀ r ∈ d .referralAccounts, r.tenantId = 1 → r.userId = 0 →
      ∃ config ∈ d .referralProgramConfigs, config.tenantId = 1 ∧
        config.providerType = r.providerType ∧ config.market = r.market ∧
        config.complianceGracePeriodDays ≤ 30

instance (d : Database) : Decidable (Programmed d) :=
  inferInstanceAs (Decidable (_ ∧ _))

theorem wanting_disowning {d : Database} {m : VIPMembership} (hm : m.userId = 0)
    (h : Programmed d) : Wanting Disowning 1 30 d m where
  account := by
    rw [hm]
    exact h.1
  program := fun r hr ht hu => by
    obtain ⟨config, hconfig, hct, hcp, hcm, hgrace⟩ := h.2 r hr ht (hu.trans hm)
    refine ⟨config, hconfig, hct, hcp, hcm, hgrace, fun check verdict hcheck hverdict => ?_⟩
    rw [unregistered_disowning hcheck] at hverdict
    cases hverdict
    exact ⟨nofun, rfl⟩

theorem passAgainst_passedOn (day : Fin 2932896) {w : World} (hw : w.Sound)
    (hclaimed : (passedOn day w).1.toOption.join.any (·.claimed) = true)
    (hrows : ∀ m ∈ w.db .vipMemberships, m.userId = 0) (hprogrammed : Programmed w.db)
    {t : Int} (ht : (DateTime.day day).utc = t) :
    PassAgainst Disowning briefSettings 1 3 30 t w (passedOn day w).2 := by
  obtain ⟨report, hsome, hreport⟩ := (Option.any_eq_true _ _).mp hclaimed
  have hruns : Runs (serial Disowning)
      (passTx briefSettings.period briefSettings.policy 1 (some (.day day))) w
      (passedOn day w).1 (passedOn day w).2 :=
    runs_exec World.step (G := Disowning) (fun _ _ => ⟨day, rfl⟩) _ w
  have hok : (passedOn day w).1 = .ok (some report) := by
    generalize (passedOn day w).1 = result at hsome
    cases result with
    | error e => cases hsome
    | ok report? =>
      have hjoin : report? = some report := hsome
      rw [hjoin]
  rw [hok] at hruns
  obtain ⟨account, input, hmoment, hmade⟩ := passMade_of_runs hw hreport hruns
  have hinput : input.moment = .day day := by
    rcases hmoment with hsome | ⟨hnone, -⟩
    · exact (Option.some.inj hsome).symm
    · cases hnone
  refine ⟨⟨account, input, by rw [hinput, ht], hmade⟩, fun m hm _ => ?_⟩
  exact wanting_disowning (hrows m hm) hprogrammed

def afterFirst : World := (passedOn 135 admittedWorld).2

def afterSecond : World := (passedOn 142 afterFirst).2

def afterThird : World := (passedOn 149 afterSecond).2

/-- Passes a week apart: the member is warned by the first and removed by the second of them,
    which is within the time that is given for it. -/
theorem removed_on_the_second :
    (afterFirst.db .vipMemberships).map (fun m => (m.status, m.warningsSent)) = [(.invited, 1)] ∧
      ∃ m ∈ afterThird.db .vipMemberships, m.status = .revoked ∧
        ∃ revokedAt, m.revokedAt = some revokedAt ∧ revokedAt.utc ≤ 154 * MICROS_PER_DAY := by
  have hsound : admittedWorld.Sound :=
    wp_sound (wp_sound_world _ _) (runs_only welcomingEnv _ hookedWorld) sound_hookedWorld
  have hfirst : PassAgainst Disowning briefSettings 1 3 30 (135 * MICROS_PER_DAY) admittedWorld
      afterFirst :=
    passAgainst_passedOn 135 hsound (by decide +kernel) (by decide +kernel) (by decide +kernel)
      (by decide)
  have hsound₁ : afterFirst.Sound := by
    obtain ⟨⟨_, _, -, hmade⟩, -⟩ := hfirst
    exact hmade.sound hsound
  have hsecond : PassAgainst Disowning briefSettings 1 3 30 (142 * MICROS_PER_DAY) afterFirst
      afterSecond :=
    passAgainst_passedOn 142 hsound₁ (by decide +kernel) (by decide +kernel) (by decide +kernel)
      (by decide)
  have hsound₂ : afterSecond.Sound := by
    obtain ⟨⟨_, _, -, hmade⟩, -⟩ := hsecond
    exact hmade.sound hsound₁
  have hthird : PassAgainst Disowning briefSettings 1 3 30 (149 * MICROS_PER_DAY) afterSecond
      afterThird :=
    passAgainst_passedOn 149 hsound₂ (by decide +kernel) (by decide +kernel) (by decide +kernel)
      (by decide)
  obtain ⟨m, hm, hid, ht, hmonitored, hdate⟩ : ∃ m ∈ admittedWorld.db .vipMemberships, m.id = 3 ∧
      m.tenantId = 1 ∧ m.status.monitored = true ∧
      m.removalDate briefSettings.policy 30 (7 * MICROS_PER_DAY) (135 * MICROS_PER_DAY) =
        147 * MICROS_PER_DAY := by decide +kernel
  have hlooks : (removal Disowning (.key some) briefSettings 1 m.id 30).Looks (7 * MICROS_PER_DAY)
      (135 * MICROS_PER_DAY) admittedWorld (149 * MICROS_PER_DAY) afterThird := by
    rw [hid]
    exact ((Errand.Looks.start.look (by decide) hfirst).look (by decide) hsecond).look (by decide)
      hthird
  obtain ⟨m', hm', -, hrevoked, -, revokedAt, hat, hin⟩ :=
    removed_in_time hsound (by decide) (by decide) hm ht hmonitored hlooks (by rw [hdate]; decide)
  refine ⟨by decide +kernel, m', hm', hrevoked, revokedAt, hat, hin.trans ?_⟩
  rw [hdate]
  decide

end VipChannel

/-
  VipChannel.Runs.Grace

  The grace period of an approval.

  Grace is counted from the creation of the membership row: `joined_at` is never
  written, and a returning member's row keeps its `created_at`.  So a first approval
  opens a grace period, and a return does not.
-/
import VipChannel.Runs.Revocation

namespace VipChannel

open Lib MembershipMonitor

/-! ## The dates of a row -/

/-- Rows stay, and keep the dates that grace is counted from; a new row was created at a
    reading of the clock. -/
structure KeepsDates (G : World → Op → Choice → Prop) (d d' : Database) : Prop where
  stay : ∀ m ∈ d .vipMemberships, ∃ m' ∈ d' .vipMemberships, m'.id = m.id
  dates : ∀ m' ∈ d' .vipMemberships,
    (∃ m ∈ d .vipMemberships, m.id = m'.id ∧ m'.createdAt = m.createdAt ∧
      m'.joinedAt = m.joinedAt) ∨
    (Reading G m'.createdAt ∧ m'.joinedAt = none ∧ ∀ m ∈ d .vipMemberships, m.id ≠ m'.id)

theorem KeepsDates.of_eq {G : World → Op → Choice → Prop} {d d' : Database}
    (h : d' .vipMemberships = d .vipMemberships) : KeepsDates G d d' := by
  refine ⟨fun m hm => ⟨m, h ▸ hm, rfl⟩, fun m hm => .inl ⟨m, h ▸ hm, rfl, rfl, rfl⟩⟩

section Dates

variable {G : World → Op → Choice → Prop} {S : Settings} {w w' : World}

theorem applied_dates (d : ComplianceDecision) (moment : DateTime) (m : VIPMembership) :
    (m.applied d moment).createdAt = m.createdAt ∧
      (m.applied d moment).joinedAt = m.joinedAt := by
  unfold VIPMembership.applied
  cases d.action <;> exact ⟨rfl, rfl⟩

/-- The dates of the membership a grant ends with. -/
theorem Grant.Holds.dates {ttl : TimeDelta} {providerType : ProviderType} {market : Market}
    {g : Grant} {calls : List Sent} (h : g.Holds G ttl providerType market w w' calls) :
    match g.prior with
    | some prior => g.membership.createdAt = prior.createdAt ∧
        g.membership.joinedAt = prior.joinedAt
    | none => Reading G g.membership.createdAt ∧ g.membership.joinedAt = none := by
  have hbase : g.membership.createdAt = g.base.createdAt ∧
      g.membership.joinedAt = g.base.joinedAt := by
    rcases h.invite.cases with ⟨-, hm, -⟩ | ⟨_, -, -, -, hm, -⟩
    · rw [hm]
      exact ⟨rfl, rfl⟩
    · rw [hm]
      exact ⟨rfl, rfl⟩
  have hfrom := h.membership
  cases hprior : g.prior with
  | none =>
    rw [hprior] at hfrom
    obtain ⟨-, id, createdAt, hreading, hb⟩ := hfrom
    rw [hbase.1, hbase.2, hb]
    exact ⟨hreading, rfl⟩
  | some prior =>
    rw [hprior] at hfrom
    obtain ⟨-, -, -, hb⟩ := hfrom
    rw [hbase.1, hbase.2, hb]
    unfold ReferralOnboardingService.reinstate
    dsimp only
    split <;> exact ⟨rfl, rfl⟩

/-- Every event keeps the dates. -/
theorem Event.Steps.keepsDates {e : Event} (hw : w.Sound) (h : e.Steps G S w w') :
    KeepsDates G w.db w'.db := by
  cases e with
  | channel =>
    cases channel_effect hw h with
    | quiet hdb _ => exact .of_eq (by rw [hdb])
    | upserted hdb _ _ _ => exact .of_eq (hdb _ (by decide))
  | pass =>
    cases pass_effect hw h with
    | quiet hdb _ | lost _ _ _ hdb _ => exact .of_eq (by rw [hdb])
    | committed hstart hpassed hdb _ _ =>
      have hrows := hdb .vipMemberships (by decide)
      refine ⟨fun m hm => ?_, fun m' hm' => ?_⟩
      · rw [hrows, hpassed.rows]
        refine ⟨_, List.mem_map_of_mem hm, ?_⟩
        rcases hpassed.row_cases hstart.listed hm with ⟨heq, -⟩ | ⟨a, -, -, heq⟩
        · rw [heq]
        · rw [heq, (applied_id ..).1]
      · rw [hrows] at hm'
        obtain ⟨m, hm, hid, hrow⟩ := hpassed.row_of_mem hstart.listed hm'
        refine .inl ⟨m, hm, hid.symm, ?_⟩
        rcases hrow with rfl | ⟨a, -, -, rfl⟩
        · exact ⟨rfl, rfl⟩
        · exact applied_dates _ _ _
  | submit =>
    cases submit_effect hw h with
    | lost hdb _ _ _ => exact .of_eq (by rw [hdb])
    | quiet hdb _ => exact .of_eq (hdb _ (by decide))
    | @granted g w₁ calls hg hdb _ _ =>
      have hrows : ∀ {r}, r ∈ w'.db .vipMemberships ↔
          r = g.membership ∨ (r ∈ w.db .vipMemberships ∧ r.id ≠ g.membership.id) := by
        intro r
        rw [hdb]
        exact hg.memberships.mem_iff
      refine ⟨fun m hm => ?_, fun m' hm' => ?_⟩
      · by_cases hid : m.id = g.membership.id
        · exact ⟨g.membership, hrows.mpr (.inl rfl), hid.symm⟩
        · exact ⟨m, hrows.mpr (.inr ⟨hm, hid⟩), rfl⟩
      · rcases hrows.mp hm' with rfl | ⟨hold, -⟩
        · have hdates := hg.dates
          have hup := hg.memberships
          cases hprior : g.prior with
          | none =>
            rw [hprior] at hdates hup
            exact .inr ⟨hdates.1, hdates.2, hup.fresh⟩
          | some prior =>
            rw [hprior] at hdates hup
            obtain ⟨hmem, hid⟩ := hup.prior_mem
            exact .inl ⟨prior, hmem, hid, hdates⟩
        · exact .inl ⟨m', hold, rfl, rfl, rfl⟩

/-- `joined_at` is never written. -/
theorem never_joined {C : World → Event → Prop} {w₀ : World} (h0 : Initial w₀)
    (h : Run G S C w₀ w) : w.Sound ∧ ∀ m ∈ w.db .vipMemberships, m.joinedAt = none := by
  refine h.invariant
    (I := fun w => w.Sound ∧ ∀ m ∈ w.db .vipMemberships, m.joinedAt = none)
    ⟨h0.sound, fun m hm => ?_⟩ ?_
  · rw [h0.empty .vipMemberships (by decide)] at hm
    cases hm
  · rintro w w' e ⟨hw, hjoined⟩ - he
    refine ⟨he.sound hw, fun m' hm' => ?_⟩
    rcases (he.keepsDates hw).dates m' hm' with ⟨m, hm, -, -, hj⟩ | ⟨-, hj, -⟩
    · rw [hj]
      exact hjoined m hm
    · exact hj

/-- The row is there, and grace is counted from `t` or later. -/
structure Since (membershipId : RowId) (t : Int) (d : Database) : Prop where
  there : ∃ m ∈ d .vipMemberships, m.id = membershipId
  since : ∀ m ∈ d .vipMemberships, m.id = membershipId →
    m.joinedAt = none ∧ t ≤ m.createdAt.utc

theorem Since.keep {membershipId : RowId} {t : Int} {d d' : Database}
    (h : Since membershipId t d) (hk : KeepsDates G d d') : Since membershipId t d' := by
  obtain ⟨m₀, hm₀, hid₀⟩ := h.there
  refine ⟨?_, fun m' hm' hid => ?_⟩
  · obtain ⟨m', hm', hid⟩ := hk.stay m₀ hm₀
    exact ⟨m', hm', hid.trans hid₀⟩
  · rcases hk.dates m' hm' with ⟨m, hm, hmid, hc, hj⟩ | ⟨-, -, hfresh⟩
    · rw [hc, hj]
      exact h.since m hm (hmid.trans hid)
    · exact absurd (hid₀.trans hid.symm) (hfresh m₀ hm₀)

theorem Since.run {C : World → Event → Prop} {membershipId : RowId} {t : Int} (hw : w.Sound)
    (h : Since membershipId t w.db) (hrun : Run G S C w w') :
    w'.Sound ∧ Since membershipId t w'.db := by
  refine hrun.invariant (I := fun w => w.Sound ∧ Since membershipId t w.db) ⟨hw, h⟩ ?_
  rintro w w' e ⟨hw, h⟩ - he
  exact ⟨he.sound hw, h.keep (he.keepsDates hw)⟩

end Dates

/-! ## Approvals -/

/-- A submission took the membership out of no row, REVOKED or EXPIRED into INVITED. -/
structure Approves (w w' : World) (m : VIPMembership) : Prop where
  mem : m ∈ w'.db .vipMemberships
  invited : m.status = .invited
  before : ∀ r ∈ w.db .vipMemberships, r.id = m.id → r.status = .revoked ∨ r.status = .expired

/-- All readings of the clock are at `t` or later. -/
def ClockFrom (G : World → Op → Choice → Prop) (t : Int) : Prop :=
  ∀ w c, G w .utcnow c → t ≤ (World.reading c).utc

/-- The pass takes place before `t`. -/
def PassBefore (G : World → Op → Choice → Prop) (tenantId : TenantId) (now : Option DateTime)
    (w : World) (t : Int) : Prop :=
  ∀ moment, MomentOf G (w.opened tenantId) now moment → moment.utc < t

/-- Every program under which the member could be judged grants `days` of grace or more. -/
def GraceAtLeast (w : World) (m : VIPMembership) (days : Int) : Prop :=
  ∀ a ∈ w.db .referralAccounts, a.tenantId = m.tenantId → a.userId = m.userId →
    ∀ config ∈ w.db .referralProgramConfigs, config.tenantId = a.tenantId →
      config.providerType = a.providerType → config.market = a.market →
      days ≤ config.complianceGracePeriodDays

/-- An approval whose row was not created before it opens a grace period. -/
theorem first_approval_opens_grace {G G₁ G₂ G' : World → Op → Choice → Prop} {S : Settings}
    {w₀ w₁ w₂ w₃ w₄ : World} {t : Int} {tenantId tenantId' : TenantId} {telegramUserId : Int}
    {market : Market} {rawUid : String} {username firstName : Option String}
    {now : Option DateTime} {m m' : VIPMembership} {config : ReferralProgramConfig}
    (h0 : Initial w₀) (hrun : Run G S Always w₀ w₁) (hclock : ClockFrom G₁ t)
    (hsubmit : Event.Steps G₁ S
      (.submit tenantId telegramUserId market rawUid username firstName) w₁ w₂)
    (happroves : Approves w₁ w₂ m)
    (hfirst : ∀ r ∈ w₁.db .vipMemberships, r.id = m.id → t ≤ r.createdAt.utc)
    (hrun' : Run G₂ S Always w₂ w₃)
    (hpass : Event.Steps G' S (.pass tenantId' now) w₃ w₄)
    (hbefore : PassBefore G' tenantId' now w₃
      (t + config.complianceGracePeriodDays * MICROS_PER_DAY))
    (hm' : m' ∈ w₃.db .vipMemberships) (hid : m'.id = m.id)
    (hgrace : GraceAtLeast w₃ m' config.complianceGracePeriodDays) : Unpunished m' w₃ w₄ := by
  obtain ⟨hw₁, hjoined⟩ := never_joined h0 hrun
  have hw₂ := hsubmit.sound hw₁
  have hsince : Since m.id t w₂.db := by
    refine ⟨⟨m, happroves.mem, rfl⟩, fun r hr hrid => ?_⟩
    rcases (hsubmit.keepsDates hw₁).dates r hr with ⟨r₀, hr₀, hid₀, hc, hj⟩ | ⟨hread, hj, -⟩
    · rw [hc, hj]
      exact ⟨hjoined r₀ hr₀, hfirst r₀ hr₀ (hid₀.trans hrid)⟩
    · obtain ⟨w, c, hg, heq⟩ := hread
      rw [heq]
      exact ⟨hj, hclock w c hg⟩
  obtain ⟨hw₃, hsince₃⟩ := hsince.run hw₂ hrun'
  obtain ⟨hnone, hcreated⟩ := hsince₃.since m' hm' hid
  refine pass_spares hw₃ hpass hm' fun moment hmoment j hj ht => ?_
  by_contra hpunishes
  -- A punishment means that the grace of the judging program is over.
  have hp : Punishable m'.snapshot j.verdict (policyFor S.policy j.config) moment := by
    refine decideCompliance_punishable hj.decided ?_
    cases ha : j.decision.action with
    | warn => exact .inl rfl
    | revoke => exact .inr rfl
    | none | restore =>
      rw [ha] at hpunishes
      exact absurd rfl hpunishes
  have hover := hp.graceOver
  have hmember : m'.snapshot.memberSince = m'.createdAt := by
    simp only [VIPMembership.snapshot, hnone, Option.getD_none]
  have hdays : config.complianceGracePeriodDays ≤ j.config.complianceGracePeriodDays :=
    hgrace j.account hj.account_mem (hj.account_tenant.trans ht.symm) hj.account_user j.config
      hj.config_mem (hj.config_tenant.trans hj.account_tenant.symm) hj.config_provider
      hj.config_market
  have hlate := hbefore moment hmoment
  rw [hmember] at hover
  simp only [policyFor, MICROS_PER_DAY] at hover hlate
  omega

/-! ### A return -/

/-- The member of one market, removed on day 221. -/
def removedWorld : World :=
  (Event.pass 1 none).play (calmEnv 221 strangerAnswers) defaultSettings
    (threePasses strangerAnswers oneMarket)

/-- The member is back on day 230. -/
def returnedWorld : World :=
  secondSubmission.play (calmEnv 230 typoAnswers) defaultSettings removedWorld

def returnedMembership : VIPMembership where
  id := 3
  createdAt := .day 100
  tenantId := 1
  userId := 0
  channelId := 1
  subscriptionId := some 2
  status := .invited
  inviteLink := some "https://t.me/+7"
  inviteIssuedAt := some (.day 230)

theorem clockFrom_calmEnv (day : Fin 2932896) (answers : String → Option ReferralCheck) :
    ClockFrom (Only (calmEnv day answers)) (DateTime.day day).utc := by
  rintro w c rfl
  exact Int.le_refl _

theorem passBefore_calmEnv {day : Fin 2932896} {answers : String → Option ReferralCheck}
    {tenantId : TenantId} {w : World} {t : Int} (h : (DateTime.day day).utc < t) :
    PassBefore (Only (calmEnv day answers)) tenantId none w t := by
  rintro moment (hnow | ⟨-, c, rfl, rfl⟩)
  · cases hnow
  · exact h

theorem run_oneMarket : Run Anything defaultSettings Always configuredWorld oneMarket :=
  Run.play .refl (fun _ _ => trivial) secondSubmission trivial

theorem run_removedWorld : Run Anything defaultSettings Always configuredWorld removedWorld :=
  (run_threePasses strangerAnswers run_oneMarket).play (fun _ _ => trivial) (.pass 1 none) trivial

/-- The returning member is warned five days after the return. -/
theorem return_opens_no_grace :
    ¬ ∀ (G G₁ G₂ G' : World → Op → Choice → Prop) (S : Settings) (w₀ w₁ w₂ w₃ w₄ : World)
      (t : Int) (tenantId tenantId' : TenantId) (telegramUserId : Int) (market : Market)
      (rawUid : String) (username firstName : Option String) (now : Option DateTime)
      (m m' : VIPMembership) (config : ReferralProgramConfig),
      Initial w₀ → Run G S Always w₀ w₁ → ClockFrom G₁ t →
      Event.Steps G₁ S
        (.submit tenantId telegramUserId market rawUid username firstName) w₁ w₂ →
      Approves w₁ w₂ m → Run G₂ S Always w₂ w₃ →
      Event.Steps G' S (.pass tenantId' now) w₃ w₄ →
      PassBefore G' tenantId' now w₃ (t + config.complianceGracePeriodDays * MICROS_PER_DAY) →
      m' ∈ w₃.db .vipMemberships → m'.id = m.id →
      GraceAtLeast w₃ m' config.complianceGracePeriodDays → Unpunished m' w₃ w₄ := by
  intro h
  have hgrace : ∀ config ∈ returnedWorld.db .referralProgramConfigs,
      config.complianceGracePeriodDays = 30 := by decide +kernel
  have hrow : returnedMembership ∈ returnedWorld.db .vipMemberships := by decide +kernel
  have hbefore : ∀ r ∈ removedWorld.db .vipMemberships, r.id = returnedMembership.id →
      r.status = .revoked ∨ r.status = .expired := by decide +kernel
  have hspared := h _ _ Anything (Only (calmEnv 235 strangerAnswers)) _ _ _ _ returnedWorld _ _
    1 1 77 .crypto "222222222" none none none returnedMembership returnedMembership
    (configOf .crypto) initial_configuredWorld run_removedWorld (clockFrom_calmEnv 230 typoAnswers)
    (Event.steps_only _ _ secondSubmission _) ⟨hrow, rfl, hbefore⟩ .refl
    (Event.steps_only _ _ (.pass 1 none) _) (passBefore_calmEnv (by decide)) hrow rfl
    fun _ _ _ _ config hconfig _ _ _ => (hgrace config hconfig).ge
  have hwarned : { returnedMembership with
      warningsSent := 1, lastWarningAt := some (.day 235) } ∈
      ((Event.pass 1 none).play (calmEnv 235 strangerAnswers) defaultSettings returnedWorld).db
        .vipMemberships := by decide +kernel
  have hkept := hspared.row _ hwarned rfl
  revert hkept
  decide

/-- The first spell of the same member: nothing happens twenty days after the approval. -/
theorem first_spell_is_spared :
    ∃ m ∈ oneMarket.db .vipMemberships, Unpunished m oneMarket
      ((Event.pass 1 none).play (calmEnv 120 strangerAnswers) defaultSettings oneMarket) := by
  have hrows : ∃ m, m ∈ oneMarket.db .vipMemberships ∧ m.status = .invited := by
    refine ⟨{ returnedMembership with
      inviteLink := some "https://t.me/+0", inviteIssuedAt := some (.day 100) }, ?_, rfl⟩
    decide +kernel
  obtain ⟨m, hm, hinvited⟩ := hrows
  have hgrace : ∀ config ∈ oneMarket.db .referralProgramConfigs,
      config.complianceGracePeriodDays = 30 := by decide +kernel
  have hstart : Run Anything defaultSettings Always configuredWorld configuredWorld := .refl
  have hstay : Run Anything defaultSettings Always oneMarket oneMarket := .refl
  have hbefore : PassBefore (Only (calmEnv 120 strangerAnswers)) 1 none oneMarket
      ((DateTime.day 100).utc + (configOf .crypto).complianceGracePeriodDays * MICROS_PER_DAY) :=
    passBefore_calmEnv (by decide)
  refine ⟨m, hm, first_approval_opens_grace initial_configuredWorld hstart
    (clockFrom_calmEnv 100 typoAnswers) (Event.steps_only _ _ secondSubmission _)
    ⟨hm, hinvited, ?_⟩ ?_ hstay (Event.steps_only _ _ (.pass 1 none) _) hbefore hm rfl
    fun _ _ _ _ config hconfig _ _ _ => (hgrace config hconfig).ge⟩
  · intro r hr
    cases hr
  · intro r hr
    cases hr

end VipChannel

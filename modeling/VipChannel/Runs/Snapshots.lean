/-
  VipChannel.Runs.Snapshots

  One snapshot of an account in a period.

  The pass goes over memberships, and a snapshot's key is the account.  So a pass that
  judges two memberships through one account adds a second snapshot of it, and the next
  flush raises.  It cannot, where no user with two monitored memberships has an account
  that could be judged.
-/
import VipChannel.Jobs.PassCalls
import VipChannel.Runs.Revocation

namespace VipChannel

open Lib MembershipMonitor
open Program (perform raising UsesOnly usesOnly_bind usesOnly_tryCatch)

/-! ## Snapshots and claimed periods -/

/-- Every snapshot is of a period that a job row claims. -/
def SnapshotsClaimed (d : Database) : Prop :=
  ∀ r ∈ d .tradingActivitySnapshots, ∃ e ∈ d .jobExecutions,
    jobKey e = (r.tenantId, JOB_NAME, r.periodStart)

section Events

variable {G : World → Op → Choice → Prop} {S : Settings} {w w' : World}

theorem SnapshotsClaimed.of_eq {d d' : Database} (h : SnapshotsClaimed d)
    (hs : d' .tradingActivitySnapshots = d .tradingActivitySnapshots)
    (hj : d' .jobExecutions = d .jobExecutions) : SnapshotsClaimed d' := by
  intro r hr
  rw [hj]
  rw [hs] at hr
  exact h r hr

theorem SnapshotsClaimed.event {e : Event} (hw : w.Sound) (h : SnapshotsClaimed w.db)
    (hstep : e.Steps G S w w') : SnapshotsClaimed w'.db := by
  cases e with
  | channel =>
    cases channel_effect hw hstep with
    | quiet hdb _ => exact h.of_eq (by rw [hdb]) (by rw [hdb])
    | upserted hdb _ _ _ => exact h.of_eq (hdb _ (by decide)) (hdb _ (by decide))
  | submit =>
    cases submit_effect hw hstep with
    | quiet hdb _ => exact h.of_eq (hdb _ (by decide)) (hdb _ (by decide))
    | lost hdb _ _ _ => exact h.of_eq (by rw [hdb]) (by rw [hdb])
    | granted hg hdb _ _ =>
      refine h.of_eq ?_ ?_
      · rw [hdb]
        exact hg.other _ (by decide)
      · rw [hdb]
        exact hg.other _ (by decide)
  | pass =>
    cases pass_effect hw hstep with
    | quiet hdb _ | lost _ _ _ hdb _ => exact h.of_eq (by rw [hdb]) (by rw [hdb])
    | @committed moment periodStart ms acts w₂ hstart hpassed hdb hkeys _ =>
      intro r hr
      rw [hdb _ (by decide)] at hr
      have hclaimed : (r.tenantId, JOB_NAME, r.periodStart) ∈
          (w'.db .jobExecutions).map jobKey := by
        rw [hkeys, List.mem_append, List.mem_singleton]
        rcases hpassed.snapshots r hr with hold | ⟨a, -, hkey⟩
        · obtain ⟨e, he, hekey⟩ := h r hold
          exact .inl (hekey ▸ List.mem_map_of_mem he)
        · simp only [snapshotKey, Prod.mk.injEq] at hkey
          obtain ⟨ht, -, hp⟩ := hkey
          right
          rw [ht, hp]
          rfl
      exact List.mem_map.mp hclaimed

theorem snapshotsClaimed_of_run {C : World → Event → Prop} {w₀ : World} (h0 : Initial w₀)
    (h : Run G S C w₀ w) : w.Sound ∧ SnapshotsClaimed w.db := by
  refine h.invariant (I := fun w => w.Sound ∧ SnapshotsClaimed w.db) ⟨h0.sound, fun r hr => ?_⟩ ?_
  · rw [h0.empty .tradingActivitySnapshots (by decide)] at hr
    cases hr
  · rintro w w' e ⟨hw, hclaimed⟩ - he
    exact ⟨he.sound hw, hclaimed.event hw he⟩

end Events

/-! ## A pass that adds no snapshot twice -/

/-- A check of the user could be answered, through one account or another. -/
def Checkable (G : World → Op → Choice → Prop) (tenantId : TenantId) (userId : RowId)
    (w : World) : Prop :=
  ∃ account ∈ w.db .referralAccounts, ∃ config ∈ w.db .referralProgramConfigs, ∃ check,
    account.tenantId = tenantId ∧ account.userId = userId ∧ config.tenantId = tenantId ∧
      config.providerType = account.providerType ∧ config.market = account.market ∧
      Answerable G account.uid (some check)

/-- No user whose check could be answered has two monitored memberships. -/
def OneMonitored (G : World → Op → Choice → Prop) (tenantId : TenantId) (w : World) : Prop :=
  ∀ m ∈ w.db .vipMemberships, ∀ m' ∈ w.db .vipMemberships,
    monitoredRow tenantId m = true → monitoredRow tenantId m' = true → m.userId = m'.userId →
    Checkable G tenantId m.userId w → m.id = m'.id

section Pass

variable {G : World → Op → Choice → Prop} {policy : CompliancePolicy} {period : TimeDelta}
  {periodStart moment : DateTime} {w₀ w : World}

/-- The calls that write no snapshot. -/
theorem plain_spares (op : Op) (h : op.plain) : op.spares .tradingActivitySnapshots := by
  cases op with
  | select | flush | utcnow | uuid4 | tokenUrlsafe | encrypt | validateUser | telegram => trivial
  | openSession | closeSession | add | update | savepoint | releaseSavepoint
  | rollbackToSavepoint | commit | rollback | activeTenantIds | tenantsOfToken => exact h.elim

/-- Writing down an answer brings about no conflict where the account has no snapshot of
    the period. -/
theorem wp_recordAnswer {account : ReferralAccount} {check : Option ReferralCheck}
    {verdict : EligibilityVerdict} (hw : w.conflict ≠ some .tradingActivitySnapshots)
    (hfresh : check ≠ none → ∀ r ∈ w.view .tradingActivitySnapshots,
      ¬ (r.tenantId = w.tenantId ∧ r.referralAccountId = account.id ∧
        r.periodStart.utc = periodStart.utc)) :
    wp (serial G) (recordAnswer w.tenantId account period periodStart moment check verdict)
      (fun _ w' => w'.conflict ≠ some .tradingActivitySnapshots) w := by
  unfold recordAnswer
  refine wp_bind_spares (Q := fun _ w' => w' = { w with
      view := w.view.modify .referralAccounts (w.inScope fun r => r.id == account.id)
        (recordVerdict check verdict moment) })
    (meets_update (keepsKeys_recordVerdict _ _ _ _) rfl)
    (usesOnly_update (by simp [Op.spares])) hw ?_
  rintro - w' rfl hw'
  cases check with
  | none => exact hw'
  | some check =>
    dsimp only
    rw [wp_bind, wp_raising]
    cases plusDelta periodStart period with
    | error e => exact hw'
    | ok periodEnd =>
      rw [bindPost_ok, wp_bind, wp_raising]
      cases answerColumns check verdict with
      | error e => exact hw'
      | ok _ =>
        rw [bindPost_ok]
        unfold add serial
        rw [wp_perform_handler]
        intro c _
        have hrows : (w.view.modify .referralAccounts (w.inScope fun r => r.id == account.id)
            (recordVerdict (some check) verdict moment)) .tradingActivitySnapshots =
            w.view .tradingActivitySnapshots := Store.modify_other _ (by decide) _ _
        simp only [World.step, World.withPending, hrows]
        split
        · next hany =>
          obtain ⟨r, hr, hclash⟩ := List.any_eq_true.mp hany
          have hkey := of_decide_eq_true hclash
          exact absurd ⟨hkey.1.symm, hkey.2.1.symm, hkey.2.2.symm⟩
            (hfresh (Option.some_ne_none check) r hr)
        · exact hw'

/-- So does judging through such an account. -/
theorem wp_judge {m : VIPMembership} {account : ReferralAccount} {config : ReferralProgramConfig}
    {report : MonitorReport} (hw : w.conflict ≠ some .tradingActivitySnapshots)
    (hfresh : ∀ check, Answerable G account.uid (some check) →
      ∀ r ∈ w.view .tradingActivitySnapshots, ¬ (r.tenantId = w.tenantId ∧
        r.referralAccountId = account.id ∧ r.periodStart.utc = periodStart.utc)) :
    wp (serial G) (judge period policy w.tenantId m account config periodStart moment report)
      (fun _ w' => w'.conflict ≠ some .tradingActivitySnapshots) w := by
  unfold judge
  refine wp_bind_spares (Q := fun check w' => Answerable G account.uid check ∧
      w' = { w with asked := w.asked ++ [(w.tenantId, account.uid)] })
    (meets_checkUser (fun check hcheck => ⟨hcheck, rfl⟩) fun _ => trivial)
    (usesOnly_checkUser plain_spares _) hw ?_
  rintro check w₁ ⟨hcheck, rfl⟩ hw₁
  rw [wp_bind, wp_raising]
  cases evaluateReferral check config.rules true with
  | error e => exact hw₁
  | ok verdict =>
    rw [bindPost_ok, wp_bind]
    have hno : check ≠ none → ∀ r ∈ w.view .tradingActivitySnapshots,
        ¬ (r.tenantId = w.tenantId ∧ r.referralAccountId = account.id ∧
          r.periodStart.utc = periodStart.utc) := by
      intro hanswered
      cases check with
      | none => exact absurd rfl hanswered
      | some check => exact hfresh check hcheck
    have hrecord : wp (serial G) (recordAnswer _ account period periodStart moment check verdict)
        _ _ := wp_recordAnswer hw₁ hno
    refine wp_mono ?_ hrecord
    rintro (e | u) w₂ hw₂
    · exact hw₂
    · -- What is left spares the snapshots.
      refine wp_spares (usesOnly_bind (by simp) fun decision => ?_) hw₂
      exact usesOnly_apply plain_spares nofun nofun _ _ _ _ _

/-- So does a step over a membership whose user's accounts have none. -/
theorem wp_process {m : VIPMembership} {report : MonitorReport}
    (hw : w.conflict ≠ some .tradingActivitySnapshots)
    (hfresh : ∀ account ∈ w.view .referralAccounts,
      account.tenantId = w.tenantId → account.userId = m.userId →
      ∀ config ∈ w.view .referralProgramConfigs, config.tenantId = w.tenantId →
      config.providerType = account.providerType → config.market = account.market →
      ∀ check, Answerable G account.uid (some check) →
      ∀ r ∈ w.view .tradingActivitySnapshots,
        ¬ (r.tenantId = w.tenantId ∧ r.referralAccountId = account.id ∧
          r.periodStart.utc = periodStart.utc)) :
    wp (serial G) (process period policy w.tenantId periodStart moment report m)
      (fun _ w' => w'.conflict ≠ some .tradingActivitySnapshots) w := by
  unfold process ReferralAccountRepository.listForUser
  refine wp_bind_spares (Q := fun rows w' => w' = w ∧ rows.Perm _)
    (meets_select (fun _ rows hrows => ⟨rfl, hrows⟩) fun _ => trivial)
    (usesOnly_select plain_spares _) hw ?_
  rintro accounts w' ⟨rfl, haccounts⟩ -
  cases accounts with
  | nil => exact hw
  | cons account rest =>
    have hmem := List.mem_filter.mp (haccounts.mem_iff.mp List.mem_cons_self)
    have hcond := World.inScope_cond hmem.2
    simp only [Bool.and_eq_true, beq_iff_eq] at hcond
    refine wp_bind_spares (Q := fun config w'' => w'' = w' ∧ w'.Found .referralProgramConfigs
        (fun r => r.tenantId == w'.tenantId && r.providerType == account.providerType &&
          r.market == account.market) config)
      (meets_selectOneOrNone (fun _ config hconfig => ⟨rfl, hconfig⟩) fun _ => trivial)
      (usesOnly_selectOneOrNone plain_spares _) hw ?_
    rintro config w'' ⟨rfl, hconfig⟩ -
    cases config with
    | none => exact hw
    | some config =>
      have hkeys := World.inScope_cond hconfig.2.1
      simp only [Bool.and_eq_true, beq_iff_eq] at hkeys
      exact wp_judge hw (hfresh account hmem.1 hcond.1 hcond.2 config hconfig.1 hkeys.1.1
        hkeys.1.2 hkeys.2)

/-- Where no two of the memberships are of one user, each step finds no snapshot of the
    accounts it could judge through: those of the period came from earlier steps. -/
theorem wp_processes {tenantId : TenantId} {ms done : List VIPMembership} {acts : List Act}
    {report : MonitorReport} (hcond : OneMonitored G tenantId w₀)
    (hold : ∀ r ∈ w₀.db .tradingActivitySnapshots,
      ¬ (r.tenantId = tenantId ∧ r.periodStart.utc = periodStart.utc))
    (hl : Listed (w₀.opened tenantId) (done ++ ms))
    (hpassed : Passed G policy periodStart moment (w₀.opened tenantId) done acts w)
    (hw : w.conflict ≠ some .tradingActivitySnapshots) :
    wp (serial G) (ms.foldlM (process period policy tenantId periodStart moment) report)
      (fun _ w' => w'.conflict ≠ some .tradingActivitySnapshots) w := by
  induction ms generalizing w done acts report with
  | nil => exact hw
  | cons m rest ih =>
    rw [List.foldlM_cons, wp_bind]
    have ht : w.tenantId = tenantId := hpassed.tenantId
    have hstep : wp (serial G) (process period policy w.tenantId periodStart moment report m)
        (fun _ w' => w'.conflict ≠ some .tradingActivitySnapshots) w := by
      refine wp_process hw fun account hmem hat hau config hconfig hct hcp hcm check hcheck
        r hr hkey => ?_
      obtain ⟨account₀, hmem₀, hfacts⟩ := exists_of_map_eq hpassed.accountsKept hmem
      simp only [accountFacts, Prod.mk.injEq] at hfacts
      obtain ⟨hid, hat₀, hau₀, hap₀, ham₀, huid₀⟩ := hfacts
      rcases hpassed.snapshots r hr with hr₀ | ⟨a, ha, hsnap⟩
      · exact hold r hr₀ ⟨hkey.1.trans ht, hkey.2.2⟩
      simp only [snapshotKey, Prod.mk.injEq] at hsnap
      -- An earlier step judged through the same account, so a membership of the same user.
      have hjudged := (hpassed.holds a ha).judged
      have hsame : a.judgement.account = account₀ := by
        refine hl.sound.view.eq_of_clash (t := .referralAccounts) hjudged.account_mem hmem₀ ?_
        simp [clash, ← hsnap.2.1, hkey.2.1, hid]
      have hlisted := hl.mem (m := m) (List.mem_append_right _ List.mem_cons_self)
      have hdone := hpassed.membership_mem ha
      have hlisted' := hl.mem (m := a.membership) (List.mem_append_left _ hdone)
      have huser : m.userId = a.membership.userId := by
        rw [← hjudged.account_user, hsame, hau₀, hau]
      have hconfigs : w.view .referralProgramConfigs = w₀.db .referralProgramConfigs :=
        hpassed.other _ (by decide)
      have hcheckable : Checkable G tenantId m.userId w₀ := by
        refine ⟨account₀, hmem₀, config, hconfigs ▸ hconfig, check, ?_, ?_, hct.trans ht, ?_, ?_,
          ?_⟩
        · rw [hat₀, hat, ht]
        · rw [hau₀, hau]
        · rw [hap₀, hcp]
        · rw [ham₀, hcm]
        · rw [huid₀]
          exact hcheck
      have heq : m.id = a.membership.id := by
        refine hcond m hlisted.1 a.membership hlisted'.1 ?_ ?_ huser hcheckable
        · simp only [monitoredRow, Bool.and_eq_true, beq_iff_eq]
          exact hlisted.2
        · simp only [monitoredRow, Bool.and_eq_true, beq_iff_eq]
          exact hlisted'.2
      have hne := List.pairwise_append.mp hl.distinct
      exact hne.2.2 a.membership hdone m List.mem_cons_self heq.symm
    have hboth := wp_and hstep meets_process
    rw [ht] at hboth
    refine wp_mono ?_ hboth
    rintro (e | report') w' ⟨hw', hresult⟩
    · exact hw'
    · obtain ⟨more, hmore⟩ := hpassed.step hresult
      refine ih (by rwa [List.append_assoc, List.singleton_append]) hmore hw'

theorem nests_spares : Op.Nests (Op.spares .tradingActivitySnapshots) :=
  ⟨trivial, trivial, trivial⟩

theorem finish_spares (error : Option String) :
    (finish JOB_NAME periodStart error).UsesOnly (Op.spares .tradingActivitySnapshots) :=
  usesOnly_finish plain_spares fun _ => nofun

/-- Once the period is claimed, the work adds no snapshot twice. -/
theorem wp_work {tenantId : TenantId} (hsound : w₀.Sound) (hcond : OneMonitored G tenantId w₀)
    (hsnaps : SnapshotsClaimed w₀.db)
    (hclaim : Claimed tenantId periodStart (w₀.opened tenantId) w)
    (hw : w.conflict ≠ some .tradingActivitySnapshots) :
    wp (serial G) (work period policy tenantId periodStart moment)
      (fun _ w' => w'.conflict ≠ some .tradingActivitySnapshots) w := by
  have hold : ∀ r ∈ w₀.db .tradingActivitySnapshots,
      ¬ (r.tenantId = tenantId ∧ r.periodStart.utc = periodStart.utc) := by
    rintro r hr ⟨ht, hp⟩
    obtain ⟨e, he, hkey⟩ := hsnaps r hr
    simp only [jobKey, Prod.mk.injEq] at hkey
    exact hclaim.unclaimed e he ⟨hkey.1.trans ht, hkey.2.1, by rw [hkey.2.2, hp]⟩
  have ht : w.tenantId = tenantId := hclaim.same.tenantId
  have hrows : w.view .vipMemberships = w₀.db .vipMemberships := hclaim.same.view _ (by decide)
  have hall : wp (serial G) (processAll period policy tenantId periodStart moment)
      (fun _ w' => w'.conflict ≠ some .tradingActivitySnapshots) w := by
    unfold processAll MembershipRepository.listByStatus
    refine wp_bind_spares (Q := fun rows w' => w' = w ∧ rows.Perm _)
      (meets_select (fun _ rows hrows => ⟨rfl, hrows⟩) fun _ => trivial)
      (usesOnly_select plain_spares _) hw ?_
    rintro ms w' ⟨rfl, hms⟩ -
    rw [hrows, World.inScope_congr (w := w₀.opened tenantId) ht] at hms
    have hl : Listed (w₀.opened tenantId) ([] ++ ms) := ⟨hms, hsound.opened tenantId⟩
    exact wp_processes hcond hold hl (.start hclaim.same) hw
  unfold work
  rw [wp_bind, wp_tryCatch]
  refine wp_mono ?_ hall
  rintro (e | report) w' hw'
  · rw [catchPost_error]
    refine wp_mono ?_ (wp_spares (usesOnly_bind (finish_spares _) fun _ => trivial) hw')
    rintro (e | r) w'' hw''
    · exact hw''
    · exact wp_spares (usesOnly_bind (usesOnly_update nofun) fun _ =>
        usesOnly_bind (finish_spares _) fun _ => by simp) hw''
  · rw [catchPost_ok, bindPost_ok]
    exact wp_spares (usesOnly_bind (usesOnly_update nofun) fun _ =>
      usesOnly_bind (finish_spares _) fun _ => by simp) hw'

/-- A monitoring pass breaks no uniqueness constraint of its snapshots where no user whose
    check could be answered has two monitored memberships: whatever it runs into, no
    snapshot it has added clashes with another. -/
theorem pass_adds_no_snapshot_twice {G' : World → Op → Choice → Prop} {S : Settings}
    {tenantId : TenantId} {now : Option DateTime} {r : Except PyError MonitorReport}
    {w₁ w' : World} (h0 : Initial w₁) (hrun : Run G' S Always w₁ w₀)
    (hpass : Runs (serial G) (run S.period S.policy tenantId now) (w₀.opened tenantId) r w')
    (hcond : OneMonitored G tenantId w₀) : w'.conflict ≠ some .tradingActivitySnapshots := by
  obtain ⟨hsound, hsnaps⟩ := snapshotsClaimed_of_run h0 hrun
  refine wp_sound (Q := fun _ w' => w'.conflict ≠ some .tradingActivitySnapshots) ?_ hpass
  unfold run
  refine wp_bind_spares (Q := fun _ w => (w₀.opened tenantId).SameButJobs w ∧
      w.view .jobExecutions = w₀.db .jobExecutions)
    (meets_nowOr (fun _ _ => ⟨.refl _, rfl⟩) fun _ _ _ => ⟨⟨fun _ _ => rfl, rfl, rfl⟩, rfl⟩)
    (usesOnly_nowOr plain_spares now) nofun ?_
  rintro moment w ⟨hsame, hjobs⟩ hw
  rw [wp_bind, wp_raising]
  cases periodStartFor moment S.period with
  | error e => exact hw
  | ok periodStart =>
    rw [bindPost_ok]
    have hopen : w.conflict = none := hsame.conflict
    refine wp_bind_spares (Q := fun b w' =>
        b = true → Claimed tenantId periodStart (w₀.opened tenantId) w')
      (meets_claimPeriod hopen (fun w' hclaim _ => ?_) (fun _ _ _ => nofun) fun _ => trivial)
      (usesOnly_claimPeriod plain_spares nests_spares fun _ => nofun) hw ?_
    · have hview : (w₀.opened tenantId).view .jobExecutions = w.view .jobExecutions := hjobs.symm
      exact ⟨hsame.trans hclaim.same, by rw [hview]; exact hclaim.unclaimed,
        by rw [hview]; exact hclaim.rows⟩
    · rintro (_ | _) w'' hclaim hw''
      · exact hw''
      · exact wp_work hsound hcond hsnaps (hclaim rfl) hw''

end Pass

/-! ### A user in two markets -/

/-- Every account is in good standing. -/
def fundedAnswers (uid : String) : Option ReferralCheck := some (fundedCheck uid)

/-- One user joins the channels of two markets, with one UID. -/
def bothMarkets : World :=
  forexSubmission.play (calmEnv 100 fundedAnswers) defaultSettings
    (secondSubmission.play (calmEnv 100 fundedAnswers) defaultSettings configuredWorld)

theorem run_bothMarkets : Run Anything defaultSettings Always configuredWorld bothMarkets :=
  have first := Run.play .refl (fun _ _ => trivial) secondSubmission trivial
  first.play (fun _ _ => trivial) forexSubmission trivial

/-- The pass judges both memberships through the same account. -/
theorem second_snapshot_of_an_account :
    ¬ ∀ (G G' : World → Op → Choice → Prop) (S : Settings) (tenantId : TenantId)
      (now : Option DateTime) (r : Except PyError MonitorReport) (w₁ w₀ w' : World),
      Initial w₁ → Run G' S Always w₁ w₀ →
      Runs (serial G) (run S.period S.policy tenantId now) (w₀.opened tenantId) r w' →
      w'.conflict ≠ some .tradingActivitySnapshots := by
  intro h
  have hruns := runs_only (calmEnv 200 fundedAnswers)
    (run defaultSettings.period defaultSettings.policy 1 none) (bothMarkets.opened 1)
  refine h _ _ _ 1 none _ _ _ _ initial_configuredWorld run_bothMarkets hruns ?_
  decide +kernel

/-- A user of one market gets one snapshot. -/
theorem oneMarket_adds_no_snapshot_twice :
    (exec World.step (calmEnv 200 fundedAnswers)
      (run defaultSettings.period defaultSettings.policy 1 none)
      (oneMarket.opened 1)).2.conflict ≠ some .tradingActivitySnapshots := by
  have hjoined : Run Anything defaultSettings Always configuredWorld oneMarket :=
    Run.play .refl (fun _ _ => trivial) secondSubmission trivial
  have hruns := runs_only (calmEnv 200 fundedAnswers)
    (run defaultSettings.period defaultSettings.policy 1 none) (oneMarket.opened 1)
  refine pass_adds_no_snapshot_twice initial_configuredWorld hjoined hruns ?_
  have hone : ∀ m ∈ oneMarket.db .vipMemberships, m.id = 3 := by decide +kernel
  intro m hm m' hm' _ _ _ _
  rw [hone m hm, hone m' hm']

example : ((exec World.step (calmEnv 200 fundedAnswers)
    (run defaultSettings.period defaultSettings.policy 1 none)
    (oneMarket.opened 1)).2.view .tradingActivitySnapshots).length = 1 := by
  decide +kernel

end VipChannel

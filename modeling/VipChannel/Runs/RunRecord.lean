/-
  VipChannel.Runs.RunRecord

  What is left on record of a monitoring pass that claimed its period.

  The pass is cut where its loop over the memberships ends: `processAll` ends in `y`,
  `settle` writes that down on the job row, and the transaction around commits or rolls
  back.  A loop that raises is written down as well, in a transaction that is then rolled
  back together with the row.
-/
import VipChannel.Runs.Revocation
import VipChannel.Runs.Sweeps
import VipChannel.Services.ServiceCalls

namespace VipChannel

open Lib MembershipMonitor
open Program (perform raising)

/-! ## A pass, cut at the end of its loop -/

namespace MembershipMonitor

/-- `run` once its loop has ended. -/
def settle (periodStart : DateTime) : Except PyError MonitorReport → App MonitorReport
  | .ok report => do
    update .jobExecutions (isExecution JOB_NAME periodStart) (recordCounts report)
    finish JOB_NAME periodStart none
    return report
  | .error e => do
    finish JOB_NAME periodStart (some (e.cls.name ++ ": " ++ e.text))
    throw e

end MembershipMonitor

/-- A pass over a tenant that claims its period: the loop ends with `y` in `w₂`, and the
    transaction with `x` in `w'`. -/
structure ClaimedPass (G : World → Op → Choice → Prop) (period : TimeDelta)
    (policy : CompliancePolicy) (tenantId : TenantId) (now : Option DateTime) (w : World)
    (moment periodStart : DateTime) (w₁ : World) (y : Except PyError MonitorReport)
    (w₂ : World) (x : Except PyError (Option MonitorReport)) (w' : World) : Prop where
  claimed : Runs (serial G) (claimStage period tenantId now) (w.opened tenantId)
    (.ok (moment, periodStart, true)) w₁
  looped : Runs (serial G) (processAll period policy tenantId periodStart moment) w₁ y w₂
  ended : ∃ w₃, Runs (serial G) (committed (settle periodStart y)) w₂ x w₃ ∧ w' = w₃.closed

section Cut

variable {G : World → Op → Choice → Prop} {period : TimeDelta} {policy : CompliancePolicy}
  {tenantId : TenantId} {now : Option DateTime} {w w' w₁ : World}
  {moment periodStart : DateTime}

/-- Work is the loop, and then what settles it. -/
theorem runs_work {r : Except PyError MonitorReport}
    (h : Runs (serial G) (work period policy tenantId periodStart moment) w r w') :
    ∃ y w₂, Runs (serial G) (processAll period policy tenantId periodStart moment) w y w₂ ∧
      Runs (serial G) (settle periodStart y) w₂ r w' := by
  obtain ⟨z, t, htried, hrest⟩ := runs_bind h
  obtain ⟨y, w₂, hloop, hrecovers⟩ := runs_tryCatch htried
  refine ⟨y, w₂, hloop, ?_⟩
  cases y with
  | ok report =>
    obtain ⟨rfl, rfl⟩ := hrecovers
    exact hrest
  | error e =>
    -- What settles a failure raises it again, so that nothing follows.
    obtain ⟨z', u, hfinish, hthrow⟩ := runs_bind hrecovers
    have herr : ∃ e', z = .error e' := by
      cases z' with
      | ok _ => exact ⟨_, hthrow.1⟩
      | error _ => exact ⟨_, hthrow.1⟩
    obtain ⟨e', rfl⟩ := herr
    obtain ⟨rfl, rfl⟩ := hrest
    refine Runs.bind hfinish ?_
    cases z' with
    | ok _ =>
      obtain ⟨hz, rfl⟩ := hthrow
      cases hz
      exact ⟨rfl, rfl⟩
    | error _ =>
      obtain ⟨hz, rfl⟩ := hthrow
      cases hz
      exact ⟨rfl, rfl⟩

/-- A sweep over a tenant claims the period in a pass that is cut as above, or the tenant
    is not set up, or the claim does not succeed. -/
theorem runs_sweepTenant {env : EncryptionKey} {providerType : ProviderType}
    {r : Except PyError Unit}
    (h : Runs (serial G) (Scheduler.sweepTenant env providerType period tenantId) w r w') :
    (∃ moment periodStart w₁ y w₂ x,
      ClaimedPass G period {} tenantId none w moment periodStart w₁ y w₂ x w') ∨
    (∃ z, Runs (serial G) (Scheduler.configured env tenantId providerType) (w.opened tenantId) z
      (w.opened tenantId) ∧ z ≠ .ok true) ∨
    ∃ z w₁, Runs (serial G) (claimStage period tenantId none) (w.opened tenantId) z w₁ ∧
      ∀ moment periodStart, z ≠ .ok (moment, periodStart, true) := by
  obtain ⟨w₃, hbody, rfl⟩ := runs_withSession h
  obtain ⟨z, v, hconfigured, hpass⟩ := runs_bind hbody
  -- Building the providers only reads.
  have hv : v = w.opened tenantId :=
    wp_sound (wp_reads (usesOnly_configured (fun _ hop => hop) env tenantId providerType))
      hconfigured
  rw [hv] at hconfigured hpass
  by_cases hz : z = .ok true
  swap
  · exact .inr (.inl ⟨z, hconfigured, hz⟩)
  rw [hz] at hpass
  obtain ⟨x, w₄, hcommitted, hend⟩ := runs_bind hpass
  have hw₄ : w₃ = w₄ := by
    cases x with
    | ok _ => exact hend.2
    | error _ => exact hend.2
  subst hw₄
  obtain ⟨b, t, htried, hrecovers⟩ := runs_tryCatch hcommitted
  obtain ⟨report, u, hrun, hcommit⟩ := runs_bind htried
  rw [run_eq] at hrun
  obtain ⟨stage, w₁, hstage, hwork⟩ := runs_bind hrun
  cases stage with
  | error e => exact .inr (.inr ⟨_, _, hstage, fun _ _ => by simp⟩)
  | ok stage =>
    obtain ⟨moment, periodStart, claimed⟩ := stage
    cases claimed with
    | false => exact .inr (.inr ⟨_, _, hstage, fun _ _ => by simp⟩)
    | true =>
      obtain ⟨y, w₂, hloop, hsettle⟩ := runs_work hwork
      exact .inl ⟨moment, periodStart, w₁, y, w₂, x, hstage, hloop, w₃,
        Runs.tryCatch (Runs.bind hsettle hcommit) hrecovers, rfl⟩

end Cut

/-! ## What a pass counts -/

namespace Act

/-- The three kinds of acts a report counts. -/
def warns (a : Act) : Bool := a.judgement.decision.action == .warn

def revokes (a : Act) : Bool := a.judgement.decision.action == .revoke

def skips (a : Act) : Bool :=
  a.judgement.decision.action == .none &&
    a.judgement.decision.skipReason == some .providerUnavailable

end Act

/-- Between the reports `r` and `r'` lie the memberships `ms`, of which `acts` came. -/
structure Counted (ms : List VIPMembership) (acts : List Act) (r r' : MonitorReport) : Prop where
  processed : r'.processed = r.processed + ms.length
  warned : r'.warned = r.warned + acts.countP Act.warns
  revoked : r'.revoked = r.revoked + acts.countP Act.revokes
  skippedUnavailable : r'.skippedUnavailable = r.skippedUnavailable + acts.countP Act.skips

section Counting

variable {G : World → Op → Choice → Prop} {policy : CompliancePolicy}
  {periodStart moment : DateTime} {w₀ w w' : World} {ms ms' : List VIPMembership}
  {acts acts' : List Act} {r r' r'' : MonitorReport}

theorem Counted.refl (r : MonitorReport) : Counted [] [] r r :=
  ⟨by simp, by simp, by simp, by simp⟩

theorem Counted.trans (h : Counted ms acts r r') (h' : Counted ms' acts' r' r'') :
    Counted (ms ++ ms') (acts ++ acts') r r'' := by
  refine ⟨?_, ?_, ?_, ?_⟩
  · rw [h'.processed, h.processed, List.length_append]
    omega
  · rw [h'.warned, h.warned, List.countP_append]
    omega
  · rw [h'.revoked, h.revoked, List.countP_append]
    omega
  · rw [h'.skippedUnavailable, h.skippedUnavailable, List.countP_append]
    omega

/-- A step that judges `m` counts the act, and nothing else. -/
theorem counted_tally {j : Judgement} {a : Act} (m : VIPMembership) (r : MonitorReport)
    (h : a.judgement.decision = j.decision) :
    Counted [m] [a] r (j.tally { r with processed := r.processed + 1 }) := by
  unfold Judgement.tally
  cases haction : j.decision.action with
  | none =>
    by_cases hskip : j.decision.skipReason = some .providerUnavailable
    · refine ⟨?_, ?_, ?_, ?_⟩ <;> simp [Act.warns, Act.revokes, Act.skips, h, haction, hskip]
    · refine ⟨?_, ?_, ?_, ?_⟩ <;> simp [Act.warns, Act.revokes, Act.skips, h, haction, hskip]
  | warn => refine ⟨?_, ?_, ?_, ?_⟩ <;> simp [Act.warns, Act.revokes, Act.skips, h, haction]
  | revoke => refine ⟨?_, ?_, ?_, ?_⟩ <;> simp [Act.warns, Act.revokes, Act.skips, h, haction]
  | restore => refine ⟨?_, ?_, ?_, ?_⟩ <;> simp [Act.warns, Act.revokes, Act.skips, h, haction]

/-- The report of a pass counts its acts. -/
theorem Steps.counted {rest : List VIPMembership}
    (h : Passed G policy periodStart moment w₀ ms acts w)
    (hsteps : Steps G policy periodStart moment w r rest r' w') :
    ∃ more, Passed G policy periodStart moment w₀ (ms ++ rest) (acts ++ more) w' ∧
      Counted rest more r r' := by
  induction hsteps generalizing ms acts with
  | @done w r =>
    refine ⟨[], ?_, .refl r⟩
    rw [List.append_nil, List.append_nil]
    exact h
  | @next w w₁ w'' r r₁ r'' m rest hstep _ _ ih =>
    -- One step, as no act or as one, and the steps after it.
    have hfirst : ∃ first, Passed G policy periodStart moment w₀ (ms ++ [m]) (acts ++ first) w₁ ∧
        Counted [m] first r r₁ := by
      rcases hstep with ⟨rfl, rfl⟩ | ⟨j, x, hj, hx, rfl, rfl⟩
      · refine ⟨[], ?_, ⟨by simp, by simp, by simp, by simp⟩⟩
        rw [List.append_nil]
        exact h.skip
      · obtain ⟨a, -, -, -, hdecision, hpassed⟩ := h.judge hj hx
        exact ⟨[a], hpassed, counted_tally m r hdecision⟩
    obtain ⟨first, hpassed, hcounted⟩ := hfirst
    obtain ⟨more, hpassed', hcounted'⟩ := ih hpassed
    refine ⟨first ++ more, ?_, hcounted.trans hcounted'⟩
    rw [List.append_assoc, List.singleton_append, List.append_assoc] at hpassed'
    exact hpassed'

/-- Steps, and a step that raises, leave the committed rows alone. -/
theorem StepsError.db {l : Ledger} (h : StepsError G policy periodStart moment w r ms l) :
    l.db = w.db := by
  obtain ⟨done, rest, r', w', -, hsteps, hl⟩ := h
  obtain ⟨acts, hpassed⟩ := hsteps.passed (Passed.start (.refl w))
  have hdb : w'.db = w.db := congrArg Ledger.db hpassed.ledger
  rcases hl with rfl | ⟨m, -, calls, rfl, -⟩
  · exact hdb
  · exact hdb

end Counting

/-! ## The job row -/

/-- The committed job row of the tenant's period. -/
structure World.JobRow (w : World) (tenantId : TenantId) (periodStart : DateTime)
    (row : JobExecution) : Prop where
  mem : row ∈ w.db .jobExecutions
  tenantId_eq : row.tenantId = tenantId
  jobName_eq : row.jobName = JOB_NAME
  periodStart_eq : row.periodStart.utc = periodStart.utc

section Settling

variable {G : World → Op → Choice → Prop} {periodStart : DateTime} {w w' : World}

/-- A loop that returned is recorded with its counts, as succeeded. -/
theorem meets_settle_ok {report : MonitorReport} :
    Meets G (settle periodStart (.ok report))
      (fun r w' => r = report ∧ (∀ t, t ≠ .jobExecutions → w'.view t = w.view t) ∧
        ∃ finishedAt, w'.view .jobExecutions =
          modifyRows (w.inScope (isExecution JOB_NAME periodStart))
            (recordEnd finishedAt none)
            (modifyRows (w.inScope (isExecution JOB_NAME periodStart)) (recordCounts report)
              (w.view .jobExecutions)))
      (fun _ _ => False) w := by
  unfold settle
  rw [meets_bind]
  refine meets_update (fun _ _ _ => rfl) ?_
  rw [meets_bind]
  unfold finish
  rw [meets_bind]
  refine meets_utcnow fun c _ => ?_
  refine meets_update (fun _ _ _ => rfl) ?_
  refine ⟨rfl, fun t ht => ?_, World.reading c, ?_⟩
  · exact (Store.modify_other _ ht _ _).trans (Store.modify_other _ ht _ _)
  · refine (Store.modify_self _ Table.jobExecutions _ _).trans ?_
    exact congrArg _ (Store.modify_self _ Table.jobExecutions _ _)

/-- A failure is written down, and goes on. -/
theorem meets_settle_error {e : PyError} :
    Meets G (settle periodStart (.error e)) (fun _ _ => False)
      (fun _ l => l.db = w.db) w := by
  unfold settle
  rw [meets_bind]
  refine meets_finish fun w' hsame _ => ?_
  rw [meets_throw]
  exact congrArg Ledger.db hsame.ledger

/-- The transaction of a loop that raised commits nothing. -/
theorem settle_error_db {e : PyError} {x : Except PyError (Option MonitorReport)}
    (h : Runs (serial G) (committed (settle periodStart (.error e))) w x w') : w'.db = w.db := by
  have hmeets : Meets G (settle periodStart (.error e)) (fun _ _ => False)
      (fun _ l => l.db = w.db) w := meets_settle_error
  have hcommit : wp (serial G) (committed (settle periodStart (.error e)))
      (fun _ w' => TxEnd G (fun _ _ => False) (fun _ l => l.db = w.db) w') w :=
    wp_commit hmeets fun _ _ _ hP w' hw' => hP w' hw'
  cases wp_sound hcommit h with
  | committed _ _ hno _ _ _ => exact hno.elim
  | failed _ hdb => exact hdb
  | uncommitted _ _ hno _ _ => exact hno.elim

end Settling

/-! ## What is on record -/

/-- The pass over `ms`, with its `acts`, is committed and on record as `row`. -/
structure SuccessRecorded (G : World → Op → Choice → Prop) (policy : CompliancePolicy)
    (tenantId : TenantId) (w : World) (moment periodStart : DateTime) (w' : World)
    (ms : List VIPMembership) (acts : List Act) (row : JobExecution) : Prop where
  listed : ms.Perm (((w.opened tenantId).view .vipMemberships).filter
    ((w.opened tenantId).inScope (t := .vipMemberships) (monitoredRow tenantId)))
  passed : ∃ w₂, Passed G policy periodStart moment (w.opened tenantId) ms acts w₂ ∧
    ∀ t, t ≠ .jobExecutions → w'.db t = w₂.view t
  committed : w'.JobRow tenantId periodStart row
  only : ∀ r, w'.JobRow tenantId periodStart r → r = row
  state : row.state = .succeeded ∧ row.error = none
  processed : row.processed = ms.length
  warned : row.warned = acts.countP Act.warns
  revoked : row.revoked = acts.countP Act.revokes
  skippedUnavailable : row.skippedUnavailable = acts.countP Act.skips

/-- The record of a run that raised `e`. -/
structure FailureRecorded (tenantId : TenantId) (periodStart : DateTime) (e : PyError)
    (w' : World) (row : JobExecution) : Prop where
  committed : w'.JobRow tenantId periodStart row
  state : row.state = .failed
  error : row.error = some (String.ofList ((e.cls.name ++ ": " ++ e.text).toList.take 1000))

section Records

variable {G : World → Op → Choice → Prop} {period : TimeDelta} {policy : CompliancePolicy}
  {tenantId : TenantId} {now : Option DateTime} {w w' w₁ w₂ w₃ : World}
  {moment periodStart : DateTime} {y : Except PyError MonitorReport}
  {x : Except PyError (Option MonitorReport)}

theorem ClaimedPass.begun
    (h : ClaimedPass G period policy tenantId now w moment periodStart w₁ y w₂ x w') :
    Begun G period now (w.opened tenantId) moment periodStart w₁ := by
  have hmeets : Meets G (claimStage period (w.opened tenantId).tenantId now) _ _
      (w.opened tenantId) := meets_claimStage rfl
  rcases wp_sound hmeets h.claimed with ⟨-, hbegun⟩ | ⟨hno, -⟩
  · exact hbegun
  · cases hno

/-- The row a claim added is the only one of the period, and once settled says how the pass
    went. -/
theorem settled_row {row : JobExecution} {report : MonitorReport} {finishedAt : DateTime}
    {rows : List JobExecution} (ht : w.tenantId = tenantId)
    (hunclaimed : ∀ r ∈ rows,
      ¬ (r.tenantId = tenantId ∧ r.jobName = JOB_NAME ∧ r.periodStart.utc = periodStart.utc))
    (hkey : jobKey row = (tenantId, JOB_NAME, periodStart))
    (hdb : w'.db .jobExecutions =
      modifyRows (w.inScope (isExecution JOB_NAME periodStart)) (recordEnd finishedAt none)
        (modifyRows (w.inScope (isExecution JOB_NAME periodStart)) (recordCounts report)
          (rows ++ [row]))) :
    w'.JobRow tenantId periodStart (recordEnd finishedAt none (recordCounts report row)) ∧
      ∀ r, w'.JobRow tenantId periodStart r →
        r = recordEnd finishedAt none (recordCounts report row) := by
  simp only [jobKey, Prod.mk.injEq] at hkey
  obtain ⟨hrowt, hrown, hrowp⟩ := hkey
  have hscope : w.inScope (t := .jobExecutions) (isExecution JOB_NAME periodStart) row = true := by
    simp [World.inScope, rowTenant, isExecution, hrowt, ht, hrown, hrowp]
  refine ⟨⟨?_, hrowt, hrown, congrArg DateTime.utc hrowp⟩, ?_⟩
  · rw [hdb, mem_modifyRows]
    refine ⟨recordCounts report row, ?_, (if_pos hscope).symm⟩
    rw [mem_modifyRows]
    exact ⟨row, by simp, (if_pos hscope).symm⟩
  · rintro r ⟨hmem, hrt, hrn, hrp⟩
    rw [hdb, mem_modifyRows] at hmem
    obtain ⟨r₁, hr₁, hr⟩ := hmem
    rw [mem_modifyRows] at hr₁
    obtain ⟨r₀, hr₀, hr₁⟩ := hr₁
    -- The updates keep the key, so that it is the key of the row they started from.
    have hcounted : jobKey r₁ = jobKey r₀ := by
      rw [hr₁]
      split <;> rfl
    have hkept : jobKey r = jobKey r₀ := by
      rw [← hcounted, hr]
      split <;> rfl
    simp only [jobKey, Prod.mk.injEq] at hkept
    have hrow : r₀ = row := by
      rcases List.mem_append.mp hr₀ with hold | hnew
      · refine absurd ⟨?_, ?_, ?_⟩ (hunclaimed r₀ hold)
        · rw [← hkept.1, hrt]
        · rw [← hkept.2.1, hrn]
        · rw [← hkept.2.2, hrp]
      · exact List.mem_singleton.mp hnew
    have hcounts : r₁ = recordCounts report row := by
      rw [hr₁, hrow, if_pos hscope]
    rw [hr, hcounts]
    exact if_pos hscope

/-- A pass whose loop raised returns nothing that could be committed. -/
theorem ClaimedPass.returned {report : MonitorReport}
    (h : ClaimedPass G period policy tenantId now w moment periodStart w₁ y w₂
      (.ok (some report)) w') : ∃ r, y = .ok r := by
  cases y with
  | ok r => exact ⟨r, rfl⟩
  | error e =>
    obtain ⟨w₃, hended, -⟩ := h.ended
    obtain ⟨w₄, hsettle, -⟩ := runs_committed_some hended
    have hmeets : Meets G (settle periodStart (.error e)) (fun _ _ => False)
        (fun _ l => l.db = w₂.db) w₂ := meets_settle_error
    exact (wp_sound hmeets hsettle).elim

/-- A pass that was committed is on record as it went. -/
theorem ClaimedPass.success {report : MonitorReport}
    (h : ClaimedPass G period policy tenantId now w moment periodStart w₁ y w₂
      (.ok (some report)) w') :
    ∃ ms acts row, SuccessRecorded G policy tenantId w moment periodStart w' ms acts row := by
  obtain ⟨r, rfl⟩ := h.returned
  have hbegun := h.begun
  have ht : w₁.tenantId = tenantId := hbegun.claimed.same.tenantId
  have hlooped := h.looped
  rw [← ht] at hlooped
  obtain ⟨ms, hms, hsteps⟩ := wp_sound meets_processAll hlooped
  have hstarted := hbegun.listed hms
  obtain ⟨acts, hpassed, hcounted⟩ := hsteps.counted (Passed.start hbegun.claimed.same)
  obtain ⟨w₃, hended, rfl⟩ := h.ended
  obtain ⟨w₄, hsettle, rfl⟩ := runs_committed_some hended
  have hmeets : Meets G (settle periodStart (.ok r)) _ _ w₂ := meets_settle_ok
  obtain ⟨rfl, hviews, finishedAt, hjobs⟩ := wp_sound hmeets hsettle
  obtain ⟨row, hkey, hrows⟩ := hbegun.claimed.rows
  rw [hsteps.jobs, hrows] at hjobs
  have hdb : (World.closed { w₄ with db := w₄.view }).db .jobExecutions = _ := hjobs
  have ht₂ : w₂.tenantId = tenantId := hpassed.tenantId
  obtain ⟨hrow, honly⟩ := settled_row ht₂ hbegun.claimed.unclaimed hkey hdb
  refine ⟨ms, acts, _, {
    listed := hstarted.listed
    passed := ⟨w₂, hpassed, hviews⟩
    committed := hrow
    only := honly
    state := ⟨rfl, rfl⟩
    processed := hcounted.processed.trans (Int.zero_add _)
    warned := hcounted.warned.trans (Int.zero_add _)
    revoked := hcounted.revoked.trans (Int.zero_add _)
    skippedUnavailable := hcounted.skippedUnavailable.trans (Int.zero_add _) }⟩

/-- A pass whose loop raised leaves no row of its period. -/
theorem ClaimedPass.lost {e : PyError}
    (h : ClaimedPass G period policy tenantId now w moment periodStart w₁ (.error e) w₂ x w')
    (row : JobExecution) : ¬ w'.JobRow tenantId periodStart row := by
  have hbegun := h.begun
  have ht : w₁.tenantId = tenantId := hbegun.claimed.same.tenantId
  have hlooped := h.looped
  rw [← ht] at hlooped
  have hloop : w₂.db = w₁.db := by
    rcases wp_sound meets_processAll hlooped with hl | ⟨ms, -, hl⟩
    · exact congrArg Ledger.db hl
    · exact hl.db
  obtain ⟨w₃, hended, rfl⟩ := h.ended
  have hdb : w₃.closed.db = w.db :=
    (settle_error_db hended).trans (hloop.trans (congrArg Ledger.db hbegun.claimed.same.ledger))
  rintro ⟨hmem, hrt, hrn, hrp⟩
  rw [hdb] at hmem
  exact hbegun.claimed.unclaimed row hmem ⟨hrt, hrn, hrp⟩

/-- What a sweep leaves of a tenant: the pass that claims the period is on record with its
    counts when it is committed, and when its loop raises, for whatever member and reason,
    there is no row of the period at all.  A tenant is without such a pass only if it is not
    set up, or the period is not claimed. -/
theorem attempts_recorded_unless_raised {env : EncryptionKey} {providerType : ProviderType}
    {r : Except PyError Unit}
    (h : Runs (serial G) (Scheduler.sweepTenant env providerType period tenantId) w r w') :
    ((∃ moment periodStart w₁ y w₂ x,
        ClaimedPass G period {} tenantId none w moment periodStart w₁ y w₂ x w') ∨
      (∃ z, Runs (serial G) (Scheduler.configured env tenantId providerType) (w.opened tenantId)
        z (w.opened tenantId) ∧ z ≠ .ok true) ∨
      ∃ z w₁, Runs (serial G) (claimStage period tenantId none) (w.opened tenantId) z w₁ ∧
        ∀ moment periodStart, z ≠ .ok (moment, periodStart, true)) ∧
    ∀ moment periodStart w₁ y w₂ x,
      ClaimedPass G period {} tenantId none w moment periodStart w₁ y w₂ x w' →
        (∀ report, x = .ok (some report) → ∃ ms acts row,
          SuccessRecorded G {} tenantId w moment periodStart w' ms acts row) ∧
        ∀ e, y = .error e → ∀ row, ¬ w'.JobRow tenantId periodStart row := by
  refine ⟨runs_sweepTenant h, fun moment periodStart w₁ y w₂ x hpass => ⟨?_, ?_⟩⟩
  · intro report hx
    rw [hx] at hpass
    exact hpass.success
  · intro e hy row
    rw [hy] at hpass
    exact hpass.lost row

end Records

/-! ## A warning that is not delivered -/

/-- Day 200: the member is to be warned, and Telegram does not answer. -/
def telegramDown : PyError :=
  ⟨.providerUnavailableError, "Telegram sendMessage failed: ReadTimeout"⟩

def silentEnv (w : World) : Op → Choice
  | .telegram .. => { fault := some telegramDown }
  | op => calmEnv 200 strangerAnswers w op

/-- A tenant with a member, and what a sweep needs to be configured. -/
def staffed : World := { oneMarket with db := configureTenant oneMarket.db 1 "ciphertext" }

/-- The sweep over the tenant, in an environment. -/
def sweepRun (env : World → Op → Choice) : Except PyError Unit × World :=
  exec World.step env (Scheduler.sweepTenant (.key some) .bitunix defaultSettings.period 1) staffed

/-- The three parts of its pass. -/
def claimRun (env : World → Op → Choice) : Except PyError (DateTime × DateTime × Bool) × World :=
  exec World.step env (claimStage defaultSettings.period 1 none) (staffed.opened 1)

def loopRun (env : World → Op → Choice) : Except PyError MonitorReport × World :=
  exec World.step env (processAll defaultSettings.period defaultSettings.policy 1 (.day 196)
    (.day 200)) (claimRun env).2

def endRun (env : World → Op → Choice) : Except PyError (Option MonitorReport) × World :=
  exec World.step env (committed (settle (.day 196) (loopRun env).1)) (loopRun env).2

/-- The loop raises, and nothing says so. -/
theorem failed_pass_leaves_no_record :
    ClaimedPass (Only silentEnv) defaultSettings.period defaultSettings.policy 1 none staffed
      (.day 200) (.day 196) (claimRun silentEnv).2 (.error telegramDown) (loopRun silentEnv).2
      (endRun silentEnv).1 (endRun silentEnv).2.closed ∧
    ¬ ∃ row, FailureRecorded 1 (.day 196) telegramDown (endRun silentEnv).2.closed row := by
  have hclaim := runs_only silentEnv (claimStage defaultSettings.period 1 none) (staffed.opened 1)
  have hclaimed : (claimRun silentEnv).1 = .ok (.day 200, .day 196, true) := by decide +kernel
  change Runs _ _ _ (claimRun silentEnv).1 _ at hclaim
  rw [hclaimed] at hclaim
  have hloop : (loopRun silentEnv).1 = .error telegramDown := by decide +kernel
  have hlooped := runs_only silentEnv (processAll defaultSettings.period defaultSettings.policy 1
    (.day 196) (.day 200)) (claimRun silentEnv).2
  change Runs _ _ _ (loopRun silentEnv).1 _ at hlooped
  have hended := runs_only silentEnv (committed (settle (.day 196) (loopRun silentEnv).1))
    (loopRun silentEnv).2
  rw [hloop] at hlooped hended
  refine ⟨⟨hclaim, hlooped, _, ?_, rfl⟩, ?_⟩
  · unfold endRun
    rw [hloop]
    exact hended
  · rintro ⟨row, hrow⟩
    have hnone : (endRun silentEnv).2.closed.db .jobExecutions = [] := by decide +kernel
    have hmem := hrow.committed.mem
    rw [hnone] at hmem
    cases hmem

/-- Had Telegram answered, the warning would be counted. -/
theorem delivered_warning_is_recorded :
    ∃ ms acts row, SuccessRecorded (Only (calmEnv 200 strangerAnswers)) defaultSettings.policy 1
      staffed (.day 200) (.day 196) (sweepRun (calmEnv 200 strangerAnswers)).2 ms acts row := by
  obtain ⟨hswept, hrecorded⟩ := attempts_recorded_unless_raised
    (runs_only (calmEnv 200 strangerAnswers)
      (Scheduler.sweepTenant (.key some) .bitunix defaultSettings.period 1) staffed)
  have hclaimed : (claimRun (calmEnv 200 strangerAnswers)).1 = .ok (.day 200, .day 196, true) := by
    decide +kernel
  have hconfigured : (exec World.step (calmEnv 200 strangerAnswers)
      (Scheduler.configured (.key some) 1 .bitunix) (staffed.opened 1)).1 = .ok true := by
    decide +kernel
  have hend : ((endRun (calmEnv 200 strangerAnswers)).1.toOption.join.map (·.warned)) =
      some 1 := by decide +kernel
  rcases hswept with ⟨moment, periodStart, w₁, y, w₂, x, hpass⟩ | ⟨z, hz, hne⟩ | ⟨z, w₁, hz, hne⟩
  · have hsame := runs_only_eq hpass.claimed
    obtain ⟨hstage, hw₁⟩ := hsame
    change _ = (claimRun (calmEnv 200 strangerAnswers)).1 at hstage
    rw [hclaimed] at hstage
    cases hstage
    have hlooped := hpass.looped
    rw [hw₁] at hlooped
    obtain ⟨hy, hw₂⟩ := runs_only_eq hlooped
    obtain ⟨w₃, hended, -⟩ := hpass.ended
    rw [hy, hw₂] at hended
    obtain ⟨hx, -⟩ := runs_only_eq hended
    change x = (endRun (calmEnv 200 strangerAnswers)).1 at hx
    rw [← hx] at hend
    have hreport : ∃ report, x = .ok (some report) := by
      rcases x with e | (_ | report)
      · cases hend
      · cases hend
      · exact ⟨report, rfl⟩
    obtain ⟨report, hreport⟩ := hreport
    exact (hrecorded _ _ _ _ _ _ hpass).1 report hreport
  · exact absurd ((runs_only_eq hz).1.trans hconfigured) hne
  · exact absurd ((runs_only_eq hz).1.trans hclaimed) (hne _ _)

end VipChannel

/-
  VipChannel.Runs.Periods

  The sweeps of one period.

  The scheduler fires once a day, late, or twice; the pass of a tenant is to be made once a
  week.  A step of a sweep that is not committed leaves the tenant as it was, and so the next
  one begins where it began; after the one that is committed, the steps of the same period
  find it on record and do nothing.  The steps of other tenants make no difference to that.
-/
import VipChannel.Persistence.Sparing
import VipChannel.Runs.Sweeps
import VipChannel.Runs.Updates

namespace VipChannel

open Lib

/-! ## Steps of sweeps -/

/-- A sweep's step for tenant `A`. -/
def SweepStep (G : World → Op → Choice → Prop) (key : EncryptionKey) (S : Settings)
    (A : TenantId) (w w' : World) : Prop :=
  ∃ r, Runs (serial G) (Scheduler.sweepTenant key S.providerType S.period A) w r w'

/-- What a sweep makes a pass with: the job's own policy. -/
def Settings.swept (S : Settings) : Settings := { S with policy := {} }

/-- Sweeps of the service, one after the other, however each of them ends. -/
def Sweeps (G : World → Op → Choice → Prop) (key : EncryptionKey) (S : Settings) :
    World → World → Prop :=
  Relation.ReflTransGen fun w w' =>
    ∃ r, Runs (serial G) (Scheduler.runComplianceSweep key S.providerType S.period) w r w'

/-- Steps of sweeps, of any tenants. -/
def SweepSteps (G : World → Op → Choice → Prop) (key : EncryptionKey) (S : Settings) :
    World → World → Prop :=
  Relation.ReflTransGen fun w w' => ∃ A, SweepStep G key S A w w'

section Steps

variable {G : World → Op → Choice → Prop} {key : EncryptionKey} {S : Settings}
  {A B : TenantId} {w w' : World}

/-- The loop of a sweep performs steps. -/
theorem sweepSteps_of_sweepAll {tenantIds : List TenantId} {r : Except PyError Unit}
    (h : Runs (serial G) (Scheduler.sweepAll key S.providerType S.period tenantIds) w r w') :
    SweepSteps G key S w w' := by
  induction tenantIds generalizing w with
  | nil =>
    obtain ⟨-, rfl⟩ := h
    exact .refl
  | cons A rest ih =>
    obtain ⟨x, w₁, hstep, hrest⟩ := runs_bind h
    have hfirst : SweepStep G key S A w w₁ := ⟨x, hstep⟩
    cases x with
    | ok _ => exact .head ⟨A, hfirst⟩ (ih hrest)
    | error _ =>
      obtain ⟨-, rfl⟩ := hrest
      exact .single ⟨A, hfirst⟩

theorem Sweeps.steps (h : Sweeps G key S w w') : SweepSteps G key S w w' := by
  induction h with
  | refl => exact .refl
  | tail _ hlast ih =>
    obtain ⟨r, hruns⟩ := hlast
    obtain ⟨x, w₁, hlist, hrest⟩ := runs_bind hruns
    -- Listing the tenants changes nothing.
    obtain ⟨c, -, hstep⟩ := runs_perform hlist
    have hw₁ : w₁ = _ := (congrArg Prod.snd hstep).symm
    subst hw₁
    cases x with
    | ok tenantIds => exact ih.trans (sweepSteps_of_sweepAll hrest)
    | error e =>
      obtain ⟨-, rfl⟩ := hrest
      exact ih

theorem SweepStep.sound (h : SweepStep G key S A w w') (hw : w.Sound) : w'.Sound := by
  obtain ⟨r, hruns⟩ := h
  exact wp_sound (wp_sound_world _ _) hruns hw

/-- A run in the session of a sweep leaves what a pass leaves. -/
theorem passEffect_of_committed {x : Except PyError (Option MonitorReport)} (hw : w.Sound)
    (h : Runs (serial G) (committed (MembershipMonitor.run S.period S.policy A none))
      (w.opened A) x w') : PassEffect G S A none w w'.closed := by
  have htx : wp (serial G) (committed (MembershipMonitor.run S.period S.policy A none))
      (fun _ w' => TxEnd G (RunResult G S.period S.policy none (w.opened A))
        (fun _ => RunError G S.period S.policy none (w.opened A)) w')
      (w.opened A) := wp_commit meets_run_opened fun _ _ _ hP w' hw' => hP w' hw'
  exact passEffect_of_end hw (wp_sound htx h).close

/-- A step is a pass under the policy of the job, or does nothing. -/
theorem SweepStep.effect (h : SweepStep G key S A w w') (hw : w.Sound) :
    PassEffect G S.swept A none w w' := by
  obtain ⟨r, hruns⟩ := h
  obtain ⟨w₁, hbody, rfl⟩ := runs_withSession hruns
  obtain ⟨z, v, hconfigured, hpass⟩ := runs_bind hbody
  have hv : v = w.opened A :=
    wp_sound (wp_reads (usesOnly_configured (fun _ hop => hop) key A S.providerType)) hconfigured
  have hquiet : PassEffect G S.swept A none w (w.opened A).closed :=
    .quiet rfl (List.append_nil _)
  have hlast : Except.ok true ≠ z → w₁ = v := by
    intro hz
    cases z with
    | error e => exact hpass.2
    | ok set =>
      cases set with
      | true => exact (hz rfl).elim
      | false => exact hpass.2
  by_cases hz : Except.ok true = z
  · subst hz
    obtain ⟨x, w₂, hcommitted, hend⟩ := runs_bind hpass
    have hw₂ : w₁ = w₂ := by
      cases x with
      | ok _ => exact hend.2
      | error _ => exact hend.2
    rw [hv] at hcommitted
    rw [hw₂]
    exact passEffect_of_committed (S := S.swept) hw hcommitted
  · rw [hlast hz, hv]
    exact hquiet

/-- The tenant of a message is that of its pass. -/
theorem Act.tenant_of_mem {a : Act} {policy : CompliancePolicy} {periodStart : DateTime}
    {s : Sent} (hs : s ∈ a.calls policy A periodStart) : s.tenantId = A := by
  have htold : ∀ chatId text about, s ∈ toldCalls A chatId text about → s.tenantId = A := by
    intro chatId text about hs
    unfold toldCalls at hs
    split at hs
    · split at hs
      · rw [List.mem_singleton.mp hs]
        rfl
      · cases hs
    · cases hs
  unfold Act.calls Judgement.reactions at hs
  cases ha : a.judgement.decision.action with
  | none => simp [ha] at hs
  | restore | warn =>
    simp only [ha] at hs
    exact htold _ _ _ hs
  | revoke =>
    simp only [ha, List.mem_append] at hs
    rcases hs with hs | hs
    · unfold removalCalls at hs
      split at hs
      · cases hs
      · simp only [List.mem_cons, List.not_mem_nil, or_false] at hs
        rcases hs with rfl | rfl <;> rfl
    · exact htold _ _ _ hs

/-- What a pass sends, it sends for its tenant. -/
theorem PassEffect.sent {now : Option DateTime} (h : PassEffect G S A now w w') :
    ∃ calls, w'.allSent = w.allSent ++ calls ∧ ∀ s ∈ calls, s.tenantId = A := by
  have hacts : ∀ (acts : List Act) (periodStart : DateTime),
      ∀ s ∈ acts.flatMap (·.calls S.policy A periodStart), s.tenantId = A := by
    intro acts periodStart s hs
    obtain ⟨a, -, hsa⟩ := List.mem_flatMap.mp hs
    exact Act.tenant_of_mem hsa
  cases h with
  | quiet _ hsent => exact ⟨[], by rw [hsent, List.append_nil], fun _ hs => nomatch hs⟩
  | committed _ _ _ _ hsent => exact ⟨_, hsent, hacts _ _⟩
  | lost _ _ htrail _ hsent =>
    refine ⟨_, hsent, fun s hs => ?_⟩
    rcases List.mem_append.mp hs with hs | hs
    · exact hacts _ _ s hs
    · rcases htrail with rfl | ⟨a, -, -, hpart⟩
      · cases hs
      · exact Act.tenant_of_mem (hpart.subset hs)

end Steps

/-! ## Other tenants -/

/-- The rows of the tenant are the same in both worlds. -/
def SameRows (A : TenantId) (w w' : World) : Prop :=
  ∀ t, ownRows A t (w'.db t) = ownRows A t (w.db t)

/-- Nothing of the tenant has changed, and nobody was told anything for it. -/
structure Undisturbed (A : TenantId) (w w' : World) : Prop where
  rows : SameRows A w w'
  sent : w'.allSent.filter (·.tenantId == A) = w.allSent.filter (·.tenantId == A)

section Others

variable {G : World → Op → Choice → Prop} {key : EncryptionKey} {S : Settings}
  {A B : TenantId} {w w' w'' : World}

theorem SameRows.trans (h : SameRows A w w') (h' : SameRows A w' w'') : SameRows A w w'' :=
  fun t => (h' t).trans (h t)

theorem Undisturbed.refl (A : TenantId) (w : World) : Undisturbed A w w := ⟨fun _ => rfl, rfl⟩

theorem Undisturbed.trans (h : Undisturbed A w w') (h' : Undisturbed A w' w'') :
    Undisturbed A w w'' :=
  ⟨h.rows.trans h'.rows, h'.sent.trans h.sent⟩

/-- A tenant's rows are among those that are foreign to another tenant. -/
theorem ownRows_foreignRows (h : A ≠ B) {t : Table} (rows : List (Row t)) :
    ownRows A t (foreignRows B t rows) = ownRows A t rows := by
  unfold ownRows foreignRows
  rw [List.filter_filter]
  apply List.filter_congr
  intro r _
  by_cases hr : rowTenant t r = A
  · simp [hr, h]
  · simp [hr]

theorem Spared.undisturbed (h : Spared B w w') (hne : A ≠ B) : Undisturbed A w w' where
  rows := fun t => by
    rw [← ownRows_foreignRows hne, h.rows t, ownRows_foreignRows hne]
  sent := by
    have hamong : ∀ v : World, v.allSent.filter (·.tenantId == A) =
        (v.sentForOthers B).filter (·.tenantId == A) := by
      intro v
      rw [World.sentForOthers, List.filter_filter]
      refine List.filter_congr fun s _ => ?_
      by_cases hs : s.tenantId = A
      · simp [hs, hne]
      · simp [hs]
    rw [hamong w', hamong w, h.sent]

/-- A step makes no difference to another tenant. -/
theorem SweepStep.other (h : SweepStep G key S B w w') (hne : A ≠ B) : Undisturbed A w w' := by
  obtain ⟨r, hruns⟩ := h
  have hconfined : Confined B (fun _ => False) {}
      (Scheduler.sweepTenant key S.providerType S.period B) := confined_sweepTenant _ _ _
  have hspared : Spared B w w' := runs_confined hconfined hruns
  exact hspared.undisturbed hne

end Others

/-! ## The pass of a period -/

/-- The tenant's pass over the period is on record. -/
def PassRecorded (A : TenantId) (periodStart : DateTime) (w : World) : Prop :=
  ∃ r ∈ w.db .jobExecutions, r.tenantId = A ∧ r.jobName = JOB_NAME ∧
    r.periodStart.utc = periodStart.utc

/-- Whenever the clock is read, it is in the period. -/
def WithinPeriod (G : World → Op → Choice → Prop) (period : TimeDelta)
    (periodStart : DateTime) : Prop :=
  ∀ w c, G w .utcnow c → periodStartFor (World.reading c) period = .ok periodStart

/-- Between the two worlds lies the tenant's pass over the period: it began on the rows of
    the first one, and nothing has come after it. -/
structure PassedOnce (G : World → Op → Choice → Prop) (key : EncryptionKey) (S : Settings)
    (A : TenantId) (periodStart : DateTime) (w w' v v' : World) : Prop where
  before : SameRows A w v
  unrecorded : ¬ PassRecorded A periodStart v
  step : SweepStep G key S A v v'
  recorded : PassRecorded A periodStart v'
  after : Undisturbed A v' w'

section Period

variable {G : World → Op → Choice → Prop} {key : EncryptionKey} {S : Settings}
  {A : TenantId} {periodStart : DateTime} {w w' : World}

/-- A record is one of the tenant's rows. -/
theorem passRecorded_iff_of_sameRows (h : SameRows A w w') :
    PassRecorded A periodStart w' ↔ PassRecorded A periodStart w := by
  have hown : ∀ v : World, PassRecorded A periodStart v ↔
      ∃ r ∈ ownRows A .jobExecutions (v.db .jobExecutions), r.jobName = JOB_NAME ∧
        r.periodStart.utc = periodStart.utc := by
    intro v
    constructor
    · rintro ⟨r, hr, ht, hfacts⟩
      exact ⟨r, mem_ownRows.mpr ⟨hr, ht⟩, hfacts⟩
    · rintro ⟨r, hr, hfacts⟩
      obtain ⟨hmem, ht⟩ := mem_ownRows.mp hr
      exact ⟨r, hmem, ht, hfacts⟩
  rw [hown w', hown w, h .jobExecutions]

/-- What is on record is not begun again. -/
theorem PassEffect.idle (hperiod : WithinPeriod G S.period periodStart)
    (h : PassEffect G S A none w w') (hrecord : PassRecorded A periodStart w) :
    w'.db = w.db ∧ w'.allSent = w.allSent := by
  have hnone : ∀ moment start ms, PassStart G S A none w moment start ms → False := by
    intro moment start ms hstart
    rcases hstart.moment_of with hno | ⟨-, c, hc, hmoment⟩
    · cases hno
    · have hsame : start = periodStart := by
        have hof := hstart.period_of
        rw [hmoment, hperiod _ c hc] at hof
        exact (Except.ok.inj hof).symm
      obtain ⟨r, hr, hkey⟩ := hrecord
      rw [← hsame] at hkey
      exact hstart.unclaimed r hr hkey
  cases h with
  | quiet hdb hsent => exact ⟨hdb, hsent⟩
  | committed hstart _ _ _ _ => exact (hnone _ _ _ hstart).elim
  | lost hstart _ _ _ _ => exact (hnone _ _ _ hstart).elim

/-- A pass that is not on record afterwards has left the rows as they were. -/
theorem PassEffect.retried (hperiod : WithinPeriod G S.period periodStart)
    (h : PassEffect G S A none w w') (hnone : ¬ PassRecorded A periodStart w') : w'.db = w.db := by
  cases h with
  | quiet hdb _ => exact hdb
  | lost _ _ _ hdb _ => exact hdb
  | @committed moment start ms acts w₂ hstart _ _ hkeys _ =>
    exfalso
    have hsame : start = periodStart := by
      rcases hstart.moment_of with hno | ⟨-, c, hc, hmoment⟩
      · cases hno
      · have hof := hstart.period_of
        rw [hmoment, hperiod _ c hc] at hof
        exact (Except.ok.inj hof).symm
    have hmem : (A, JOB_NAME, start) ∈ (w'.db .jobExecutions).map jobKey := by
      rw [hkeys]
      exact List.mem_append_right _ (List.mem_singleton.mpr rfl)
    obtain ⟨r, hr, hkey⟩ := List.mem_map.mp hmem
    simp only [jobKey, Prod.mk.injEq] at hkey
    exact hnone ⟨r, hr, hkey.1, hkey.2.1, by rw [hkey.2.2, hsame]⟩

/-- However many sweeps there are in a period, and whatever fails in them, a tenant's pass is
    committed once at most.  Until then its rows are as they were when the period began;
    afterwards no sweep changes a row of the tenant, or sends anything for it. -/
theorem one_pass_a_period (hw : w.Sound) (hperiod : WithinPeriod G S.period periodStart)
    (h : Sweeps G key S w w') (A : TenantId) :
    (PassRecorded A periodStart w → Undisturbed A w w') ∧
    (¬ PassRecorded A periodStart w → ¬ PassRecorded A periodStart w' → SameRows A w w') ∧
    (¬ PassRecorded A periodStart w → PassRecorded A periodStart w' →
      ∃ v v', PassedOnce G key S A periodStart w w' v v') := by
  suffices hall : w'.Sound ∧ (PassRecorded A periodStart w → Undisturbed A w w') ∧
      (¬ PassRecorded A periodStart w → ¬ PassRecorded A periodStart w' → SameRows A w w') ∧
      (¬ PassRecorded A periodStart w → PassRecorded A periodStart w' →
        ∃ v v', PassedOnce G key S A periodStart w w' v v') from hall.2
  have hsteps := h.steps
  clear h
  induction hsteps with
  | refl =>
    exact ⟨hw, fun _ => .refl A w, fun _ _ _ => rfl, fun hno hyes => (hno hyes).elim⟩
  | @tail u u' _ hlast ih =>
    obtain ⟨hu, hrecorded, hunrecorded, honce⟩ := ih
    obtain ⟨B, hstep⟩ := hlast
    refine ⟨hstep.sound hu, ?_⟩
    by_cases hne : A = B
    swap
    · -- Another tenant's step.
      have hother := hstep.other hne
      have hsame : PassRecorded A periodStart u' ↔ PassRecorded A periodStart u :=
        passRecorded_iff_of_sameRows hother.rows
      refine ⟨fun hyes => (hrecorded hyes).trans hother, fun hno hno' => ?_, fun hno hyes => ?_⟩
      · exact (hunrecorded hno (mt hsame.mpr hno')).trans hother.rows
      · obtain ⟨v, v', hpassed⟩ := honce hno (hsame.mp hyes)
        exact ⟨v, v', { hpassed with after := hpassed.after.trans hother }⟩
    · subst hne
      have heffect := hstep.effect hu
      have hafter : PassRecorded A periodStart u → Undisturbed A u u' := by
        intro hyes
        obtain ⟨hdb, hsent⟩ := heffect.idle (S := S.swept) hperiod hyes
        exact ⟨fun t => by rw [hdb], by rw [hsent]⟩
      by_cases hu' : PassRecorded A periodStart u
      · -- The pass is on record: the step does nothing.
        have hidle := hafter hu'
        have hsame : PassRecorded A periodStart u' ↔ PassRecorded A periodStart u :=
          passRecorded_iff_of_sameRows hidle.rows
        refine ⟨fun hyes => (hrecorded hyes).trans hidle, fun _ hno' => ?_, fun hno _ => ?_⟩
        · exact (hno' (hsame.mpr hu')).elim
        · obtain ⟨v, v', hpassed⟩ := honce hno hu'
          exact ⟨v, v', { hpassed with after := hpassed.after.trans hidle }⟩
      · -- The step is an attempt on the rows the period began with.
        have hbefore : ¬ PassRecorded A periodStart w := by
          intro hyes
          exact hu' ((passRecorded_iff_of_sameRows (hrecorded hyes).rows).mpr hyes)
        refine ⟨fun hyes => (hbefore hyes).elim, fun _ hno' => ?_, fun _ hyes => ?_⟩
        · have hdb := heffect.retried (S := S.swept) hperiod hno'
          exact (hunrecorded hbefore hu').trans fun t => by rw [hdb]
        · exact ⟨u, u', ⟨hunrecorded hbefore hu', hu', hstep, hyes, .refl A u'⟩⟩

end Period

/-! ## A sweep that comes twice -/

/-- The exchange does not know the member, and the grace period is over. -/
def strangeEnv : World → Op → Choice := calmEnv 140 fun uid => some (strangerCheck uid)

def sweptOnce : World :=
  (exec World.step strangeEnv (Scheduler.runComplianceSweep (.key some) .bitunix
    Scheduler.DEFAULT_COMPLIANCE_PERIOD) afterMessage).2

def sweptTwice : World :=
  (exec World.step strangeEnv (Scheduler.runComplianceSweep (.key some) .bitunix
    Scheduler.DEFAULT_COMPLIANCE_PERIOD) sweptOnce).2

/-- The member is warned by one of them. -/
theorem two_sweeps_one_pass :
    (sweptTwice.allSent.map (·.about)).count
        (some (.compliance 3 .warn (.day 140))) = 1 ∧
      ∃ v v', PassedOnce (Only strangeEnv) (.key some) defaultSettings 1 (.day 140) afterMessage
        sweptTwice v v' := by
  have hsound : afterMessage.Sound :=
    wp_sound (wp_sound_world _ _) (runs_only welcomingEnv _ hookedWorld) sound_hookedWorld
  have hperiod : WithinPeriod (Only strangeEnv) defaultSettings.period (.day 140) := by
    rintro w c rfl
    show periodStartFor (.day 140) defaultSettings.period = .ok (.day 140)
    decide +kernel
  have hsweeps : Sweeps (Only strangeEnv) (.key some) defaultSettings afterMessage sweptTwice :=
    (Relation.ReflTransGen.single ⟨_, runs_only strangeEnv _ afterMessage⟩).tail
      ⟨_, runs_only strangeEnv _ sweptOnce⟩
  have hbefore : ¬ PassRecorded 1 (.day 140) afterMessage := by
    unfold PassRecorded
    decide +kernel
  have hafter : PassRecorded 1 (.day 140) sweptTwice := by
    unfold PassRecorded
    decide +kernel
  exact ⟨by decide +kernel,
    (one_pass_a_period hsound hperiod hsweeps 1).2.2 hbefore hafter⟩

end VipChannel

/-
  VipChannel.Jobs.PassSpec

  What a whole monitoring pass can do: claim its period, take the steps one after the
  other, and record how it ended.

  A pass that returns is a chain of `StepResult`s (`Steps`) between the claim and the
  final update of the job row.  A pass that raises has taken some of these steps, and
  its ledger is that of the last world or of a step that raised.
-/
import VipChannel.Jobs.MonitorSpec
import VipChannel.Jobs.Scheduler

namespace VipChannel

open Lib MembershipMonitor
open Program (perform raising)

/-! ## Rules for the remaining calls -/

section Rules

variable {G : World → Op → Choice → Prop} {w : World} {E : PyError → Ledger → Prop}

theorem meets_nowOr {now : Option DateTime} {Q : DateTime → World → Prop}
    (hgiven : ∀ moment, now = some moment → Q moment w)
    (hread : now = none → ∀ c, G w .utcnow c →
      Q (World.reading c) { w with clock := (World.reading c).utc }) :
    Meets G (nowOr now) Q E w := by
  cases now with
  | some moment => exact hgiven moment rfl
  | none => exact meets_utcnow (hread rfl)

/-- Two worlds that differ in the job executions, the savepoint and the clock at most. -/
structure World.SameButJobs (w w' : World) : Prop where
  view : ∀ t, t ≠ .jobExecutions → w'.view t = w.view t
  ledger : w'.ledger = w.ledger
  conflict : w'.conflict = w.conflict

theorem World.SameButJobs.refl (w : World) : w.SameButJobs w :=
  ⟨fun _ _ => rfl, rfl, rfl⟩

theorem World.SameButJobs.trans {w w' w'' : World} (h : w.SameButJobs w')
    (h' : w'.SameButJobs w'') : w.SameButJobs w'' :=
  ⟨fun t ht => (h'.view t ht).trans (h.view t ht), h'.ledger.trans h.ledger,
    h'.conflict.trans h.conflict⟩

theorem World.SameButJobs.tenantId {w w' : World} (h : w.SameButJobs w') :
    w'.tenantId = w.tenantId :=
  congrArg Ledger.tenantId h.ledger

/-- The key of a job execution. -/
def jobKey (r : JobExecution) : TenantId × String × DateTime :=
  (r.tenantId, r.jobName, r.periodStart)

/-- The world a successful claim leaves: the row is new. -/
structure Claimed (tenantId : TenantId) (periodStart : DateTime) (w w' : World) : Prop where
  same : w.SameButJobs w'
  unclaimed : ∀ r ∈ w.view .jobExecutions,
    ¬ (r.tenantId = tenantId ∧ r.jobName = JOB_NAME ∧ r.periodStart.utc = periodStart.utc)
  rows : ∃ row : JobExecution, jobKey row = (tenantId, JOB_NAME, periodStart) ∧
    w'.view .jobExecutions = w.view .jobExecutions ++ [row]

/-- The claim: the row is in, or the view is as it was. -/
theorem meets_claimPeriod {tenantId : TenantId} {periodStart : DateTime}
    {Q : Bool → World → Prop} (hconflict : w.conflict = none)
    (hyes : ∀ w', Claimed tenantId periodStart w w' → Q true w')
    (hno : ∀ w', w.SameButJobs w' → w'.view .jobExecutions = w.view .jobExecutions →
      Q false w')
    (herr : ∀ e, E e w.ledger) :
    Meets G (claimPeriod tenantId JOB_NAME periodStart) Q E w := by
  unfold claimPeriod
  rw [meets_bind]
  refine meets_utcnow fun now _ => ?_
  -- Whatever made the attempt fail, the handler finds the view as it was.
  have hhandler : ∀ (e : PyError) (w' : World), w.SameButJobs w' →
      w'.view .jobExecutions = w.view .jobExecutions →
      wp (serial G)
        (if e.cls = ExcClass.integrityError then pure false else throw e : App Bool)
        (either Q fun e w' => E e w'.ledger) w' := by
    intro e w' hsame hjobs
    split
    · exact hno w' hsame hjobs
    · change E e w'.ledger
      rw [hsame.ledger]
      exact herr e
  unfold Meets
  rw [wp_tryCatch_either, wp_bind_either]
  unfold beginNested
  rw [wp_bind_either]
  refine wp_serial_perform fun c _ => ?_
  simp only [World.step, World.flushed, hconflict]
  cases c.fault with
  | some e => exact hhandler e _ ⟨fun _ _ => rfl, rfl, hconflict.symm⟩ rfl
  | none =>
    dsimp only
    -- Inside the savepoint: a failure is followed by the rollback to it.
    have hundo : ∀ (e : PyError) (w' : World), w'.saved = w.view → w'.ledger = w.ledger →
        wp (serial G) (do perform Op.rollbackToSavepoint; throw e : App Unit)
          (either (fun _ _ => False) fun e w' => wp (serial G)
            (if e.cls = ExcClass.integrityError then pure false else throw e : App Bool)
            (either Q fun e w' => E e w'.ledger) w') w' := by
      intro e w' hsaved hledger
      rw [wp_bind_either]
      refine wp_serial_perform fun c _ => ?_
      have hback : w.SameButJobs { w' with view := w'.saved, conflict := none } :=
        ⟨fun t _ => by rw [hsaved], hledger, hconflict.symm⟩
      simp only [World.step]
      cases c.fault with
      | some e' => exact hhandler e' _ hback (by rw [hsaved])
      | none => exact hhandler e _ hback (by rw [hsaved])
    have hfail : ∀ (e : PyError) (w' : World) (Q' : Unit → World → Prop),
        w'.saved = w.view → w'.ledger = w.ledger →
        wp (serial G) (do perform Op.rollbackToSavepoint; throw e : App Unit)
          (either Q' fun e w' => wp (serial G)
            (if e.cls = ExcClass.integrityError then pure false else throw e : App Bool)
            (either Q fun e w' => E e w'.ledger) w') w' :=
      fun e w' Q' hsaved hledger =>
        wp_either_mono (hundo e w' hsaved hledger) (fun _ _ h => h.elim) fun _ _ h => h
    rw [wp_tryCatch_either, wp_bind_either, wp_bind_either]
    refine wp_serial_perform fun _ _ => ?_
    simp only [World.step, World.withPending]
    split
    · -- Another row has the key: the flush raises.
      refine wp_serial_perform fun c _ => ?_
      simp only [World.step, World.flushed]
      cases c.fault with
      | some e => exact hfail e _ _ rfl rfl
      | none => exact hfail _ _ _ rfl rfl
    · next hfresh =>
      refine wp_serial_perform fun c _ => ?_
      simp only [World.step, World.flushed]
      cases c.fault with
      | some e => exact hfail e _ _ rfl rfl
      | none =>
        refine wp_serial_perform fun c _ => ?_
        simp only [World.step, World.flushed]
        cases c.fault with
        | some e => exact hfail e _ _ rfl rfl
        | none =>
          refine hyes _ ⟨⟨fun t ht => Store.append_other _ ht _, rfl, hconflict.symm⟩, ?_, ?_⟩
          · intro r hr hkey
            refine hfresh (List.any_eq_true.mpr ⟨r, hr, ?_⟩)
            simp only [clash, decide_eq_true_eq]
            exact ⟨hkey.1.symm, hkey.2.1.symm, hkey.2.2.symm⟩
          · exact ⟨_, rfl, Store.append_self w.view Table.jobExecutions _⟩

/-- Recording the end of a run changes the job row only, and keeps its key. -/
theorem meets_finish {periodStart : DateTime} {error : Option String}
    {Q : Unit → World → Prop}
    (h : ∀ w', w.SameButJobs w' →
      (w'.view .jobExecutions).map jobKey = (w.view .jobExecutions).map jobKey → Q () w') :
    Meets G (finish JOB_NAME periodStart error) Q E w := by
  unfold finish
  rw [meets_bind]
  refine meets_utcnow fun now _ => ?_
  refine meets_update (fun _ _ _ => rfl) (h _ ?_ ?_)
  · exact ⟨fun t ht => Store.modify_other _ ht _ _, rfl, rfl⟩
  · have hrows := Store.modify_self w.view .jobExecutions
      (w.inScope (isExecution JOB_NAME periodStart)) (recordEnd (World.reading now) error)
    exact (congrArg (List.map jobKey) hrows).trans (map_modifyRows fun _ => rfl)

/-! ## The steps of a pass -/

/-- Steps over a list of memberships, one after the other. -/
inductive Steps (G : World → Op → Choice → Prop) (policy : CompliancePolicy)
    (periodStart moment : DateTime) :
    World → MonitorReport → List VIPMembership → MonitorReport → World → Prop
  | done {w : World} {r : MonitorReport} : Steps G policy periodStart moment w r [] r w
  | next {w w' w'' : World} {r r' r'' : MonitorReport} {m : VIPMembership}
      {rest : List VIPMembership} :
      StepResult G policy periodStart moment { r with processed := r.processed + 1 } w m r' w' →
      (w.Sound → w'.Sound) →
      Steps G policy periodStart moment w' r' rest r'' w'' →
      Steps G policy periodStart moment w r (m :: rest) r'' w''

/-- A loop that raises: some steps, then a step that raises or nothing more. -/
def StepsError (G : World → Op → Choice → Prop) (policy : CompliancePolicy)
    (periodStart moment : DateTime) (w : World) (r : MonitorReport) (ms : List VIPMembership)
    (l : Ledger) : Prop :=
  ∃ done rest r' w', ms = done ++ rest ∧ Steps G policy periodStart moment w r done r' w' ∧
    (l = w'.ledger ∨ ∃ m, rest.head? = some m ∧ StepError G policy periodStart moment w' m l)

theorem StepResult.tenantId {policy : CompliancePolicy} {m : VIPMembership}
    {periodStart moment : DateTime} {r r' : MonitorReport} {w' : World}
    (h : StepResult G policy periodStart moment r w m r' w') : w'.tenantId = w.tenantId := by
  rcases h with ⟨-, rfl⟩ | ⟨j, x, -, -, rfl, -⟩
  · rfl
  · exact tenantId_outcome

theorem meets_steps {period : TimeDelta} {policy : CompliancePolicy}
    {periodStart moment : DateTime} {ms : List VIPMembership} {r : MonitorReport} :
    Meets G (ms.foldlM (process period policy w.tenantId periodStart moment) r)
      (fun r' w' => Steps G policy periodStart moment w r ms r' w')
      (fun _ l => StepsError G policy periodStart moment w r ms l) w := by
  induction ms generalizing w r with
  | nil => exact .done
  | cons m rest ih =>
    rw [List.foldlM_cons, meets_bind]
    have hstep : wp (serial G) (process period policy w.tenantId periodStart moment r m) _ w :=
      wp_and meets_process (wp_sound_world _ w)
    refine wp_mono ?_ hstep
    rintro (e | r') w' ⟨hstep, hsound⟩
    · exact ⟨[], m :: rest, r, w, rfl, .done, .inr ⟨m, rfl, hstep⟩⟩
    · have ht := StepResult.tenantId hstep
      have hrest := ih (w := w') (r := r')
      rw [ht] at hrest
      refine meets_mono hrest (fun r'' w'' h => .next hstep hsound h) ?_
      rintro - l ⟨done, left, r'', w'', rfl, hdone, hl⟩
      exact ⟨m :: done, left, r'', w'', rfl, .next hstep hsound hdone, hl⟩

/-! ## A run -/

/-- The memberships a run lists. -/
def monitoredRow (tenantId : TenantId) (r : VIPMembership) : Bool :=
  r.tenantId == tenantId && MONITORED.contains r.status

/-- The instant a run takes for `now`. -/
def MomentOf (G : World → Op → Choice → Prop) (w : World) (now : Option DateTime)
    (moment : DateTime) : Prop :=
  now = some moment ∨ (now = none ∧ ∃ c, G w .utcnow c ∧ moment = World.reading c)

/-- The report a run starts with. -/
def freshReport (periodStart : DateTime) : MonitorReport :=
  { claimed := true, periodStart := some periodStart }

/-- A run between its claim and its list of memberships. -/
structure Started (G : World → Op → Choice → Prop) (period : TimeDelta) (now : Option DateTime)
    (w : World) (moment periodStart : DateTime) (w₁ : World) (ms : List VIPMembership) :
    Prop where
  moment_of : MomentOf G w now moment
  period_of : periodStartFor moment period = .ok periodStart
  claimed : Claimed w.tenantId periodStart w w₁
  sound : w.Sound → w₁.Sound
  listed : ms.Perm ((w.view .vipMemberships).filter
    (w.inScope (t := .vipMemberships) (monitoredRow w.tenantId)))

/-- What a run that returns has done. -/
inductive RunResult (G : World → Op → Choice → Prop) (period : TimeDelta)
    (policy : CompliancePolicy) (now : Option DateTime) (w : World) :
    MonitorReport → World → Prop
  | standDown {periodStart : DateTime} {w' : World} :
      w.SameButJobs w' → w'.view .jobExecutions = w.view .jobExecutions →
      RunResult G period policy now w { claimed := false, periodStart := some periodStart } w'
  | ran {moment periodStart : DateTime} {w₁ w₂ w' : World} {ms : List VIPMembership}
      {r : MonitorReport} :
      Started G period now w moment periodStart w₁ ms →
      Steps G policy periodStart moment w₁ (freshReport periodStart) ms r w₂ →
      w₂.SameButJobs w' →
      (w'.view .jobExecutions).map jobKey = (w₂.view .jobExecutions).map jobKey →
      RunResult G period policy now w r w'

/-- What a run that raises has done. -/
def RunError (G : World → Op → Choice → Prop) (period : TimeDelta)
    (policy : CompliancePolicy) (now : Option DateTime) (w : World) (l : Ledger) : Prop :=
  l = w.ledger ∨
    ∃ moment periodStart w₁ ms, Started G period now w moment periodStart w₁ ms ∧
      StepsError G policy periodStart moment w₁ (freshReport periodStart) ms l

theorem meets_processAll {period : TimeDelta} {policy : CompliancePolicy}
    {periodStart moment : DateTime} :
    Meets G (processAll period policy w.tenantId periodStart moment)
      (fun r w' => ∃ ms, ms.Perm ((w.view .vipMemberships).filter
          (w.inScope (t := .vipMemberships) (monitoredRow w.tenantId))) ∧
        Steps G policy periodStart moment w (freshReport periodStart) ms r w')
      (fun _ l => l = w.ledger ∨ ∃ ms, ms.Perm ((w.view .vipMemberships).filter
          (w.inScope (t := .vipMemberships) (monitoredRow w.tenantId))) ∧
        StepsError G policy periodStart moment w (freshReport periodStart) ms l) w := by
  unfold processAll MembershipRepository.listByStatus
  rw [meets_bind]
  refine meets_select (fun _ ms hms => ?_) fun _ => .inl rfl
  exact meets_mono meets_steps (fun r w' h => ⟨ms, hms, h⟩) fun _ l h => .inr ⟨ms, hms, h⟩

/-- What is known of the loop is known of the work around it. -/
theorem meets_work_of {period : TimeDelta} {policy : CompliancePolicy} {tenantId : TenantId}
    {periodStart moment : DateTime} {Q : MonitorReport → World → Prop} {F : Ledger → Prop}
    (h : Meets G (processAll period policy tenantId periodStart moment) Q (fun _ => F) w) :
    Meets G (work period policy tenantId periodStart moment)
      (fun r w' => ∃ w₂, Q r w₂ ∧ w₂.SameButJobs w' ∧
        (w'.view .jobExecutions).map jobKey = (w₂.view .jobExecutions).map jobKey)
      (fun _ => F) w := by
  unfold work
  rw [meets_bind]
  refine meets_tryCatch (meets_mono h ?_ fun _ _ h => h) fun e w' hl => ?_
  · intro r w₂ hq
    rw [meets_bind]
    refine meets_update (fun _ _ _ => rfl) ?_
    rw [meets_bind]
    refine meets_finish fun w' hsame hjobs => ?_
    have hcounts : w₂.SameButJobs w' :=
      ⟨fun t ht => (hsame.view t ht).trans (Store.modify_other _ ht _ _), hsame.ledger,
        hsame.conflict⟩
    have hrows := Store.modify_self w₂.view .jobExecutions
      (w₂.inScope (isExecution JOB_NAME periodStart)) (recordCounts r)
    have hkeys := (congrArg (List.map jobKey) hrows).trans (map_modifyRows fun _ => rfl)
    exact ⟨w₂, hq, hcounts, hjobs.trans hkeys⟩
  · -- The failure is written on the job row, and goes on.
    rw [meets_bind]
    refine meets_finish fun w'' hsame _ => ?_
    rw [meets_throw, hsame.ledger]
    exact hl

/-- A run that has claimed its period. -/
structure Begun (G : World → Op → Choice → Prop) (period : TimeDelta) (now : Option DateTime)
    (w : World) (moment periodStart : DateTime) (w₁ : World) : Prop where
  moment_of : MomentOf G w now moment
  period_of : periodStartFor moment period = .ok periodStart
  claimed : Claimed w.tenantId periodStart w w₁
  sound : w.Sound → w₁.Sound

/-- A run that returns: it stood down, or its loop left what `Q` says. -/
def RunOf (G : World → Op → Choice → Prop) (period : TimeDelta) (now : Option DateTime)
    (w : World) (Q : DateTime → DateTime → World → MonitorReport → World → Prop)
    (r : MonitorReport) (w' : World) : Prop :=
  (∃ periodStart, r = { claimed := false, periodStart := some periodStart } ∧
    w.SameButJobs w' ∧ w'.view .jobExecutions = w.view .jobExecutions) ∨
  ∃ moment periodStart w₁ w₂, Begun G period now w moment periodStart w₁ ∧
    Q moment periodStart w₁ r w₂ ∧ w₂.SameButJobs w' ∧
    (w'.view .jobExecutions).map jobKey = (w₂.view .jobExecutions).map jobKey

/-- `run` as far as the claim of its period. -/
def MembershipMonitor.claimStage (period : TimeDelta) (tenantId : TenantId)
    (now : Option DateTime) : App (DateTime × DateTime × Bool) := do
  let moment ← nowOr now
  let periodStart ← raising (periodStartFor moment period)
  let claimed ← claimPeriod tenantId JOB_NAME periodStart
  return (moment, periodStart, claimed)

theorem MembershipMonitor.run_eq (period : TimeDelta) (policy : CompliancePolicy)
    (tenantId : TenantId) (now : Option DateTime) :
    run period policy tenantId now = claimStage period tenantId now >>= fun stage =>
      if stage.2.2 then work period policy tenantId stage.2.1 stage.1
      else pure { claimed := false, periodStart := some stage.2.1 } := by
  unfold run claimStage
  simp only [bind_assoc, pure_bind]

/-- The claim succeeds, or the run stands down; a failure leaves no trace. -/
theorem meets_claimStage {period : TimeDelta} {now : Option DateTime}
    (hconflict : w.conflict = none) :
    Meets G (claimStage period w.tenantId now)
      (fun stage w₁ =>
        (stage.2.2 = true ∧ Begun G period now w stage.1 stage.2.1 w₁) ∨
        (stage.2.2 = false ∧ w.SameButJobs w₁ ∧
          w₁.view .jobExecutions = w.view .jobExecutions))
      (fun _ l => l = w.ledger) w := by
  unfold claimStage
  rw [meets_bind]
  have hmain : ∀ moment (w₀ : World), w.SameButJobs w₀ → w₀.view = w.view →
      (w.Sound → w₀.Sound) → MomentOf G w now moment →
      Meets G (do
        let periodStart ← raising (periodStartFor moment period)
        let claimed ← claimPeriod w.tenantId JOB_NAME periodStart
        return (moment, periodStart, claimed))
        (fun stage w₁ =>
          (stage.2.2 = true ∧ Begun G period now w stage.1 stage.2.1 w₁) ∨
          (stage.2.2 = false ∧ w.SameButJobs w₁ ∧
            w₁.view .jobExecutions = w.view .jobExecutions))
        (fun _ l => l = w.ledger) w₀ := by
    intro moment w₀ hsame hview hsound hmoment
    rw [meets_bind]
    refine meets_raising (fun periodStart hstart => ?_) fun _ => hsame.ledger
    rw [meets_bind]
    have hclaim : wp (serial G) (claimPeriod w.tenantId JOB_NAME periodStart) _ w₀ :=
      wp_and (meets_claimPeriod (w := w₀) (G := G) (E := fun _ l => l = w.ledger)
        (Q := fun b w₁ => (b = true ∧ Claimed w.tenantId periodStart w₀ w₁) ∨
          (b = false ∧ w₀.SameButJobs w₁ ∧
            w₁.view .jobExecutions = w₀.view .jobExecutions))
        (hsame.conflict.trans hconflict) (fun w₁ h => .inl ⟨rfl, h⟩)
        (fun w₁ h hjobs => .inr ⟨rfl, h, hjobs⟩) fun _ => hsame.ledger)
        (wp_sound_world _ w₀)
    refine wp_mono ?_ hclaim
    rintro (e | b) w₁ ⟨hb, hsound₁⟩
    · exact hb
    · rcases hb with ⟨rfl, hclaimed⟩ | ⟨rfl, hsame₁, hjobs⟩
      · have hwhole : Claimed w.tenantId periodStart w w₁ :=
          ⟨hsame.trans hclaimed.same, by rw [← hview]; exact hclaimed.unclaimed,
            by rw [← hview]; exact hclaimed.rows⟩
        exact .inl ⟨rfl, hmoment, hstart, hwhole, fun h => hsound₁ (hsound h)⟩
      · exact .inr ⟨rfl, hsame.trans hsame₁, by rw [hjobs, hview]⟩
  cases now with
  | some moment => exact hmain moment w (.refl w) rfl id (.inl rfl)
  | none =>
    refine meets_utcnow fun c hc => ?_
    refine hmain _ _ ⟨fun _ _ => rfl, rfl, rfl⟩ rfl (fun h => ⟨h.db, h.view, h.saved⟩) ?_
    exact .inr ⟨rfl, c, hc, rfl⟩

/-- What is known of the loop of a run that has claimed its period is known of the run. -/
theorem meets_run_of {period : TimeDelta} {policy : CompliancePolicy} {now : Option DateTime}
    {Q : DateTime → DateTime → World → MonitorReport → World → Prop} {F : Ledger → Prop}
    (hconflict : w.conflict = none) (hquiet : F w.ledger)
    (h : ∀ moment periodStart w₁, Begun G period now w moment periodStart w₁ →
      Meets G (processAll period policy w.tenantId periodStart moment)
        (Q moment periodStart w₁) (fun _ => F) w₁) :
    Meets G (run period policy w.tenantId now) (RunOf G period now w Q) (fun _ => F) w := by
  rw [run_eq, meets_bind]
  refine meets_mono (meets_claimStage hconflict) ?_ fun _ l hl => hl ▸ hquiet
  rintro ⟨moment, periodStart, claimed⟩ w₁ hstage
  dsimp only at hstage ⊢
  rcases hstage with ⟨rfl, hbegun⟩ | ⟨rfl, hsame, hjobs⟩
  · rw [if_pos rfl]
    refine meets_mono (meets_work_of (h moment periodStart w₁ hbegun)) ?_ fun _ _ hl => hl
    rintro r w' ⟨w₂, hq, hend, hkeys⟩
    exact .inr ⟨moment, periodStart, w₁, w₂, hbegun, hq, hend, hkeys⟩
  · rw [if_neg (by decide)]
    exact .inl ⟨periodStart, rfl, hsame, hjobs⟩

/-- The list a run takes does not show that the period is claimed. -/
theorem Begun.listed {period : TimeDelta} {now : Option DateTime} {moment periodStart : DateTime}
    {w₁ : World} {ms : List VIPMembership} (h : Begun G period now w moment periodStart w₁)
    (hms : ms.Perm ((w₁.view .vipMemberships).filter
      (w₁.inScope (t := .vipMemberships) (monitoredRow w₁.tenantId)))) :
    Started G period now w moment periodStart w₁ ms := by
  have ht : w₁.tenantId = w.tenantId := h.claimed.same.tenantId
  have hrows : w₁.view .vipMemberships = w.view .vipMemberships :=
    h.claimed.same.view _ (by decide)
  have hscope : w₁.inScope (t := .vipMemberships) (monitoredRow w₁.tenantId) =
      w.inScope (t := .vipMemberships) (monitoredRow w.tenantId) := by
    funext r
    simp only [World.inScope, ht]
  rw [hrows, hscope] at hms
  exact ⟨h.moment_of, h.period_of, h.claimed, h.sound, hms⟩

theorem meets_run {period : TimeDelta} {policy : CompliancePolicy} {now : Option DateTime}
    (hconflict : w.conflict = none) :
    Meets G (run period policy w.tenantId now) (RunResult G period policy now w)
      (fun _ => RunError G period policy now w) w := by
  have hloop : ∀ moment periodStart w₁, Begun G period now w moment periodStart w₁ →
      Meets G (processAll period policy w.tenantId periodStart moment)
        (fun r w₂ => ∃ ms, Started G period now w moment periodStart w₁ ms ∧
          Steps G policy periodStart moment w₁ (freshReport periodStart) ms r w₂)
        (fun _ => RunError G period policy now w) w₁ := by
    intro moment periodStart w₁ hbegun
    have hall : Meets G (processAll period policy w₁.tenantId periodStart moment) _ _ w₁ :=
      meets_processAll
    rw [hbegun.claimed.same.tenantId] at hall
    refine meets_mono hall ?_ ?_
    · rintro r w₂ ⟨ms, hms, hsteps⟩
      rw [← hbegun.claimed.same.tenantId] at hms
      exact ⟨ms, hbegun.listed hms, hsteps⟩
    · rintro - l (hl | ⟨ms, hms, hl⟩)
      · exact .inl (hl.trans hbegun.claimed.same.ledger)
      · rw [← hbegun.claimed.same.tenantId] at hms
        exact .inr ⟨moment, periodStart, w₁, ms, hbegun.listed hms, hl⟩
  refine meets_mono (meets_run_of
    (Q := fun moment periodStart w₁ r w₂ => ∃ ms,
      Started G period now w moment periodStart w₁ ms ∧
        Steps G policy periodStart moment w₁ (freshReport periodStart) ms r w₂)
    hconflict (.inl rfl) hloop) ?_ fun _ _ h => h
  rintro r w' (⟨periodStart, rfl, hsame, hjobs⟩ |
    ⟨moment, periodStart, w₁, w₂, -, ⟨ms, hstarted, hsteps⟩, hend, hkeys⟩)
  · exact .standDown hsame hjobs
  · exact .ran hstarted hsteps hend hkeys

end Rules

end VipChannel

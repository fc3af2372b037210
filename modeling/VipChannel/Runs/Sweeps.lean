/-
  VipChannel.Runs.Sweeps

  The sweep over the tenants: whose step is reached, and what it comes to.

  Every tenant's step has an environment of its own, which sees the calls of that step
  only.  A step that escapes the sweep's except clauses ends the sweep; the theorem says
  that nothing else about a tenant touches the others.
-/
import VipChannel.Runs.Isolation

namespace VipChannel

open Lib
open Program (perform raising UsesOnly usesOnly_bind usesOnly_tryCatch)

/-! ## A sweep, step by step -/

/-- What became of one tenant's step. -/
abbrev StepOutcome := Outcome Op Op.Ret PyError Unit World

/-- The step of a tenant, in the environment of the tenant. -/
def stepOf (key : EncryptionKey) (providerType : ProviderType) (period : TimeDelta)
    (env : TenantId → Environment) (tenantId : TenantId) (w : World) : StepOutcome :=
  follow World.step (env tenantId) (Scheduler.sweepTenant key providerType period tenantId) [] w

/-- The steps a sweep performs. -/
def stepsOf (key : EncryptionKey) (providerType : ProviderType) (period : TimeDelta)
    (env : TenantId → Environment) : List TenantId → World → List (TenantId × StepOutcome)
  | [], _ => []
  | tenantId :: rest, w =>
    let o := stepOf key providerType period env tenantId w
    (tenantId, o) :: match o.result with
      | .ok () => stepsOf key providerType period env rest o.state
      | .error _ => []

/-- How the steps end, and the world they leave. -/
def endOf (w : World) : List (TenantId × StepOutcome) → Except PyError Unit × World
  | [] => (.ok (), w)
  | (_, o) :: rest =>
    match o.result with
    | .ok () => endOf o.state rest
    | .error e => (.error e, o.state)

section Steps

variable {key : EncryptionKey} {providerType : ProviderType} {period : TimeDelta}
  {env : TenantId → Environment} {A : TenantId} {w w' : World}

theorem stepsOf_cons_ok {rest : List TenantId}
    (h : (stepOf key providerType period env A w).result = .ok ()) :
    stepsOf key providerType period env (A :: rest) w =
      (A, stepOf key providerType period env A w) ::
        stepsOf key providerType period env rest
          (stepOf key providerType period env A w).state := by
  rw [stepsOf, h]

theorem stepsOf_cons_error {rest : List TenantId} {e : PyError}
    (h : (stepOf key providerType period env A w).result = .error e) :
    stepsOf key providerType period env (A :: rest) w =
      [(A, stepOf key providerType period env A w)] := by
  rw [stepsOf, h]

/-- They are a run of the sweep. -/
theorem runs_stepsOf {G : World → Op → Choice → Prop}
    (hG : ∀ A w past op, G w op (env A past op)) (tenantIds : List TenantId) (w : World) :
    Runs (serial G) (Scheduler.sweepAll key providerType period tenantIds) w
      (endOf w (stepsOf key providerType period env tenantIds w)).1
      (endOf w (stepsOf key providerType period env tenantIds w)).2 := by
  induction tenantIds generalizing w with
  | nil => exact ⟨rfl, rfl⟩
  | cons A rest ih =>
    have hstep : Runs (serial G) (Scheduler.sweepTenant key providerType period A) w
        (stepOf key providerType period env A w).result
        (stepOf key providerType period env A w).state :=
      runs_follow World.step (fun w past op => hG A w past op) _ [] w
    cases hresult : (stepOf key providerType period env A w).result with
    | error e =>
      rw [stepsOf_cons_error hresult]
      rw [hresult] at hstep
      simp only [endOf, hresult]
      exact hstep.bind ⟨rfl, rfl⟩
    | ok u =>
      rw [stepsOf_cons_ok hresult]
      rw [hresult] at hstep
      simp only [endOf, hresult]
      exact hstep.bind (ih _)

end Steps

/-! ## A step generates no key -/

/-- A call that is answered with a new id or token. -/
def Op.generates : Op → Prop
  | .uuid4 | .tokenUrlsafe => True
  | .openSession _ | .closeSession | .select .. | .add .. | .update .. | .flush | .savepoint
  | .releaseSavepoint | .rollbackToSavepoint | .commit | .rollback | .utcnow | .activeTenantIds
  | .tenantsOfToken _ | .encrypt _ | .validateUser _ | .telegram .. => False

section Generates

variable {P : Op → Prop}

theorem usesOnly_withSession {α : Type} {tenantId : TenantId} {body : App α}
    (hopen : P (.openSession tenantId)) (hclose : P .closeSession) (h : body.UsesOnly P) :
    (withSession tenantId body).UsesOnly P := by
  unfold withSession
  refine usesOnly_bind (by simpa using hopen) fun _ => ?_
  refine usesOnly_bind (usesOnly_tryCatch h fun e => ?_) fun a => ?_
  · exact usesOnly_bind (by simpa using hclose) fun _ => trivial
  · exact usesOnly_bind (by simpa using hclose) fun _ => trivial

theorem usesOnly_committed {α : Type} {body : App α} (hcommit : P .commit)
    (hrollback : P .rollback) (h : body.UsesOnly P) : (committed body).UsesOnly P := by
  unfold committed
  refine usesOnly_tryCatch (usesOnly_bind h fun a => ?_) fun e => ?_
  · exact usesOnly_bind (by simpa using hcommit) fun _ => trivial
  · exact usesOnly_bind (by simpa using hrollback) fun _ => trivial

theorem plain_not_generates (op : Op) (h : op.plain) : ¬ op.generates := by
  cases op with
  | uuid4 | tokenUrlsafe => exact h.elim
  | _ => exact not_false

namespace MembershipMonitor

theorem run_generates_nothing (period : TimeDelta) (policy : CompliancePolicy)
    (tenantId : TenantId) (now : Option DateTime) :
    (run period policy tenantId now).UsesOnly (¬ ·.generates) := by
  have hP := plain_not_generates
  have hN : Op.Nests (¬ ·.generates) := ⟨not_false, not_false, not_false⟩
  have hfinish : ∀ periodStart error,
      (finish JOB_NAME periodStart error).UsesOnly (¬ ·.generates) := fun _ _ =>
    usesOnly_finish hP fun _ => not_false
  have hprocess : ∀ periodStart moment report membership,
      (process period policy tenantId periodStart moment report membership).UsesOnly
        (¬ ·.generates) := by
    intro periodStart moment report membership
    unfold process ReferralAccountRepository.listForUser ReferralProgramConfigRepository.getFor
    refine usesOnly_bind (usesOnly_select hP _) fun accounts => ?_
    cases accounts with
    | nil => trivial
    | cons account rest =>
      refine usesOnly_bind (usesOnly_selectOneOrNone hP _) fun config => ?_
      cases config with
      | none => trivial
      | some config =>
        refine usesOnly_bind (usesOnly_checkUser hP _) fun check => ?_
        refine usesOnly_bind (by simp) fun verdict => ?_
        refine usesOnly_bind (usesOnly_bind (usesOnly_update not_false) fun _ => ?_) fun _ => ?_
        · cases check with
          | none => trivial
          | some check =>
            refine usesOnly_bind (by simp) fun periodEnd => ?_
            refine usesOnly_bind (by simp) fun _ => ?_
            unfold add
            rw [Program.usesOnly_perform]
            exact not_false
        · refine usesOnly_bind (by simp) fun decision => ?_
          exact usesOnly_apply hP not_false (fun _ => not_false) _ _ _ _ _
  have hfold : ∀ periodStart moment report (ms : List VIPMembership),
      (ms.foldlM (process period policy tenantId periodStart moment) report).UsesOnly
        (¬ ·.generates) := by
    intro periodStart moment report ms
    induction ms generalizing report with
    | nil => trivial
    | cons m rest ih =>
      rw [List.foldlM_cons]
      exact usesOnly_bind (hprocess _ _ _ _) fun report' => ih report'
  unfold run
  refine usesOnly_bind (usesOnly_nowOr hP _) fun moment => ?_
  refine usesOnly_bind (by simp) fun periodStart => ?_
  refine usesOnly_bind (usesOnly_claimPeriod hP hN fun _ => not_false) fun claimed => ?_
  split
  · refine usesOnly_bind (usesOnly_tryCatch ?_ fun e => ?_) fun report => ?_
    · exact usesOnly_bind (usesOnly_select hP _) fun ms => hfold _ _ _ ms
    · exact usesOnly_bind (hfinish _ _) fun _ => trivial
    · refine usesOnly_bind (usesOnly_update not_false) fun _ => ?_
      exact usesOnly_bind (hfinish _ _) fun _ => trivial
  · trivial

end MembershipMonitor

theorem sweepTenant_generates_nothing (key : EncryptionKey) (providerType : ProviderType)
    (period : TimeDelta) (tenantId : TenantId) :
    (Scheduler.sweepTenant key providerType period tenantId).UsesOnly (¬ ·.generates) := by
  have hreads : ∀ op : Op, op.reads → ¬ op.generates := by
    intro op hop
    cases op with
    | select => exact not_false
    | _ => exact hop.elim
  refine usesOnly_withSession not_false not_false ?_
  refine usesOnly_bind (usesOnly_configured hreads _ _ _) fun configured => ?_
  split
  · refine usesOnly_bind (usesOnly_committed not_false not_false ?_) fun _ => trivial
    exact MembershipMonitor.run_generates_nothing _ _ _ _
  · trivial

end Generates

/-! ## Steps of different tenants -/

section Isolated

variable {key : EncryptionKey} {providerType : ProviderType} {period : TimeDelta}
  {env : TenantId → Environment} {A B : TenantId} {w w' : World}

/-- The same step of a tenant. -/
structure SameStep (A : TenantId) (o o' : StepOutcome) : Prop where
  calls : o.calls = o'.calls
  result : o.result = o'.result
  own : ∀ t, ownRows A t (o.state.db t) = ownRows A t (o'.state.db t)

/-- A step depends on the tenant's own rows, and leaves those of others alone. -/
theorem stepOf_own (hown : ∀ t, ownRows A t (w.db t) = ownRows A t (w'.db t)) :
    SameStep A (stepOf key providerType period env A w)
        (stepOf key providerType period env A w') ∧
      ∀ t, foreignRows A t ((stepOf key providerType period env A w).state.db t) =
        foreignRows A t (w.db t) := by
  let D := (confinement A fun _ => False).restrict (¬ ·.generates)
  have hprogram : wp D (Scheduler.sweepTenant key providerType period A) (fun _ _ => True) {} := by
    have hconfined : Confined A (fun _ => False) {}
        (Scheduler.sweepTenant key providerType period A) := confined_sweepTenant _ _ _
    have hwp := wp_restrict (hconfined {} (.refl {})) (sweepTenant_generates_nothing _ _ _ _)
    exact wp_mono (fun _ _ _ => trivial) hwp
  have hstart : Twins A w.db w'.db {} w w' := by
    refine ⟨⟨hown, fun _ => rfl, fun _ => rfl⟩, fun hb => ?_, fun hn => ?_, fun k hk => ?_⟩
    · cases hb
    · cases hn
    · cases hk
  have hstep : ∀ s v₁ v₂ op c, D.allowed s op → True → Twins A w.db w'.db s v₁ v₂ →
      (World.step v₁ op c).1 = (World.step v₂ op c).1 ∧
        ∃ s', D.steps s op (World.step v₁ op c).1 s' ∧
          Twins A w.db w'.db s' (World.step v₁ op c).2 (World.step v₂ op c).2 := by
    rintro s v₁ v₂ op c ⟨hop, hgen⟩ - h
    have hfresh : ∀ d, FreshFor A d op c := by
      intro d
      cases op with
      | uuid4 | tokenUrlsafe => exact absurd trivial hgen
      | _ => trivial
    exact h.step (fun _ _ => id) (fun _ _ => id) hop (hfresh _) (hfresh _)
  obtain ⟨hcalls, hresult, s', -, hend⟩ :=
    follow_related (C := fun _ _ => True) hstep (fun _ _ => trivial) hprogram hstart []
  exact ⟨⟨hcalls, hresult, hend.db.own⟩, hend.db.left⟩

/-- The step of one tenant leaves another's rows. -/
theorem stepOf_other (h : A ≠ B) (t : Table) :
    ownRows B t ((stepOf key providerType period env A w).state.db t) = ownRows B t (w.db t) := by
  have hforeign : foreignRows A t ((stepOf key providerType period env A w).state.db t) =
      foreignRows A t (w.db t) := (stepOf_own fun _ => rfl).2 t
  have hsub : ∀ rows : List (Row t), ownRows B t rows = ownRows B t (foreignRows A t rows) := by
    intro rows
    unfold ownRows foreignRows
    rw [List.filter_filter]
    apply List.filter_congr
    intro r _
    by_cases hr : rowTenant t r = B
    · simp [hr, h.symm]
    · simp [hr]
  rw [hsub, hforeign, ← hsub]

end Isolated

/-! ## What escapes a step -/

/-- The first `try` of a step. -/
def Scheduler.providers (key : EncryptionKey) (tenantId : TenantId)
    (providerType : ProviderType) : App Bool := do
  let _ ← ProviderFactory.referralProvider key tenantId providerType
  let _ ← ProviderFactory.telegram key tenantId
  return true

/-- The second. -/
def Scheduler.runAndCommit (period : TimeDelta) (tenantId : TenantId) :
    App (Option MonitorReport) := do
  let report ← MembershipMonitor.run period {} tenantId none
  perform Op.commit
  return some report

section Escapes

variable (key : EncryptionKey) (providerType : ProviderType) (period : TimeDelta)
  (env : TenantId → Environment) (A : TenantId) (w : World)

/-- Building the tenant's providers. -/
def building : Outcome Op Op.Ret PyError Bool World :=
  follow World.step (env A) (Scheduler.providers key A providerType)
    [⟨.openSession A, .ok ()⟩] (w.opened A)

/-- The pass over a tenant whose providers are there, and its commit. -/
def running : Outcome Op Op.Ret PyError (Option MonitorReport) World :=
  follow World.step (env A) (Scheduler.runAndCommit period A)
    (building key providerType env A w).calls (building key providerType env A w).state

/-- No except clause of the step contains what happens. -/
inductive Escapes : Prop
  /-- The providers cannot be built, and not because a credential is missing. -/
  | unbuilt (e : PyError) : (building key providerType env A w).result = .error e →
      e.cls ≠ .missingCredentialError → Escapes
  /-- The pass or its commit raised, and so does the rollback. -/
  | unrolled (e e' : PyError) : (building key providerType env A w).result = .ok true →
      (running key providerType period env A w).result = .error e →
      (env A (running key providerType period env A w).calls .rollback).fault = some e' → Escapes

end Escapes

/-- Opening and leaving the session raise nothing themselves. -/
theorem follow_withSession_result {α : Type} (env : Environment) (A : TenantId) (body : App α)
    (past : List (Call Op Op.Ret PyError)) (w : World) :
    (follow World.step env (withSession A body) past w).result =
      (follow World.step env body (past ++ [⟨.openSession A, .ok ()⟩]) (w.opened A)).result := by
  unfold withSession
  rw [follow_bind]
  change (follow World.step env (do
    let a ← body.tryCatch fun e => do
      perform Op.closeSession
      throw e
    perform Op.closeSession
    return a) (past ++ [⟨.openSession A, .ok ()⟩]) (w.opened A)).result = _
  rw [follow_bind, follow_tryCatch]
  generalize follow World.step env body (past ++ [⟨.openSession A, .ok ()⟩]) (w.opened A) = o
  obtain ⟨calls, result, w'⟩ := o
  cases result with
  | ok a => rfl
  | error e => rfl

section Rollback

variable {α : Type} {env : Environment} {calls : List (Call Op Op.Ret PyError)} {w : World}

theorem follow_rollback_ok (h : (env calls .rollback).fault = none) :
    (follow World.step env (do perform Op.rollback; return none : App (Option α)) calls w).result =
      .ok none := by
  have hanswer : (World.step w .rollback (env calls .rollback)).1 = .ok () := by
    simp only [World.step, h]
  show (follow World.step env (raising (World.step w .rollback (env calls .rollback)).1 >>=
    fun _ => pure none) _ _).result = _
  rw [hanswer]
  rfl

theorem follow_rollback_error {e : PyError} (h : (env calls .rollback).fault = some e) :
    (follow World.step env (do perform Op.rollback; return none : App (Option α)) calls w).result =
      .error e := by
  have hanswer : (World.step w .rollback (env calls .rollback)).1 = .error e := by
    simp only [World.step, h]
  show (follow World.step env (raising (World.step w .rollback (env calls .rollback)).1 >>=
    fun _ => pure none) _ _).result = _
  rw [hanswer]
  rfl

end Rollback

/-- A step raises exactly what its except clauses do not contain. -/
theorem stepOf_raises_iff {key : EncryptionKey} {providerType : ProviderType} {period : TimeDelta}
    {env : TenantId → Environment} {A : TenantId} {w : World} :
    (∃ e, (stepOf key providerType period env A w).result = .error e) ↔
      Escapes key providerType period env A w := by
  have hbody : (stepOf key providerType period env A w).result =
      (((building key providerType env A w).recover World.step (env A) fun e =>
        if e.cls = .missingCredentialError then pure false else throw e).andThen World.step (env A)
          fun configured => if configured then do
              let _ ← committed (MembershipMonitor.run period {} A none)
              return ()
            else return ()).result := by
    unfold stepOf Scheduler.sweepTenant
    rw [follow_withSession_result, follow_bind]
    unfold Scheduler.configured
    rw [follow_tryCatch]
    rfl
  have hrun : ∀ calls w', (follow World.step (env A) (do
        let _ ← committed (MembershipMonitor.run period {} A none)
        return () : App Unit) calls w').result =
      (((follow World.step (env A) (Scheduler.runAndCommit period A) calls w').recover World.step
        (env A) fun _ => do
          perform Op.rollback
          return none).andThen World.step (env A) fun _ => pure ()).result := by
    intro calls w'
    rw [follow_bind]
    unfold committed
    rw [follow_tryCatch]
    rfl
  have hran : ∀ e, (running key providerType period env A w).result = .error e →
      (building key providerType env A w).result = .ok true →
      (stepOf key providerType period env A w).result =
        ((follow World.step (env A) (do
          perform Op.rollback
          return none : App (Option MonitorReport))
          (running key providerType period env A w).calls
          (running key providerType period env A w).state).andThen World.step (env A)
            fun _ => pure ()).result := by
    intro e he hbuilt
    rw [hbody, Outcome.recover_ok hbuilt, Outcome.andThen_ok hbuilt, if_pos rfl, hrun]
    change (((running key providerType period env A w).recover World.step (env A) _).andThen
      World.step (env A) _).result = _
    rw [Outcome.recover_error he]
  constructor
  · rintro ⟨e', h⟩
    cases hbuilt : (building key providerType env A w).result with
    | error e =>
      by_cases hmissing : e.cls = .missingCredentialError
      · -- The tenant has not finished setting up: it is skipped.
        rw [hbody, Outcome.recover_error hbuilt, if_pos hmissing] at h
        cases h
      · exact .unbuilt e hbuilt hmissing
    | ok configured =>
      cases configured with
      | false =>
        rw [hbody, Outcome.recover_ok hbuilt, Outcome.andThen_ok hbuilt] at h
        cases h
      | true =>
        cases hend : (running key providerType period env A w).result with
        | ok report =>
          rw [hbody, Outcome.recover_ok hbuilt, Outcome.andThen_ok hbuilt, if_pos rfl, hrun] at h
          change (((running key providerType period env A w).recover World.step (env A) _).andThen
            World.step (env A) _).result = _ at h
          rw [Outcome.recover_ok hend, Outcome.andThen_ok hend] at h
          cases h
        | error e =>
          cases hfault :
              (env A (running key providerType period env A w).calls .rollback).fault with
          | none =>
            rw [hran e hend hbuilt, Outcome.andThen_ok (follow_rollback_ok hfault)] at h
            cases h
          | some e'' => exact .unrolled e e'' hbuilt hend hfault
  · intro h
    cases h with
    | unbuilt e hbuilt hne =>
      refine ⟨e, ?_⟩
      rw [hbody, Outcome.recover_error hbuilt, if_neg hne]
      rfl
    | unrolled e e' hbuilt hend hfault =>
      refine ⟨e', ?_⟩
      rw [hran e hend hbuilt, Outcome.andThen_error (follow_rollback_error hfault)]

/-! ## One tenant cannot stop the sweep -/

section Sweep

variable {key : EncryptionKey} {providerType : ProviderType} {period : TimeDelta}
  {env : TenantId → Environment} {tenantIds : List TenantId} {w w₀ : World}

/-- A sweep over others leaves a tenant's rows. -/
theorem endOf_other {A : TenantId} (h : A ∉ tenantIds) (t : Table) :
    ownRows A t ((endOf w (stepsOf key providerType period env tenantIds w)).2.db t) =
      ownRows A t (w.db t) := by
  induction tenantIds generalizing w with
  | nil => rfl
  | cons B rest ih =>
    rw [List.mem_cons, not_or] at h
    have hstep : ownRows A t ((stepOf key providerType period env B w).state.db t) = _ :=
      stepOf_other (Ne.symm h.1) t
    cases hresult : (stepOf key providerType period env B w).result with
    | error e =>
      rw [stepsOf_cons_error hresult]
      simp only [endOf, hresult]
      exact hstep
    | ok u =>
      rw [stepsOf_cons_ok hresult]
      simp only [endOf, hresult]
      rw [ih h.2]
      exact hstep

/-- The worlds have the rows of these tenants in common. -/
def Agree (tenantIds : List TenantId) (w w₀ : World) : Prop :=
  ∀ A ∈ tenantIds, ∀ t, ownRows A t (w.db t) = ownRows A t (w₀.db t)

theorem Agree.after {B : TenantId} {rest : List TenantId} (h : Agree (B :: rest) w w₀)
    (hnodup : (B :: rest).Nodup) :
    Agree rest (stepOf key providerType period env B w).state w₀ := by
  obtain ⟨hB, -⟩ := List.nodup_cons.mp hnodup
  intro C hC t
  have hne : B ≠ C := fun heq => hB (heq ▸ hC)
  rw [stepOf_other hne]
  exact h C (List.mem_cons_of_mem _ hC) t

/-- The tenant's step is performed, and comes to what it would come to if the tenant were
    alone. -/
def Served (key : EncryptionKey) (providerType : ProviderType) (period : TimeDelta)
    (env : TenantId → Environment) (tenantIds : List TenantId) (w : World) (A : TenantId) : Prop :=
  ∃ o, (A, o) ∈ stepsOf key providerType period env tenantIds w ∧
    SameStep A o (stepOf key providerType period env A w) ∧
    ∀ t, ownRows A t ((endOf w (stepsOf key providerType period env tenantIds w)).2.db t) =
      ownRows A t ((stepOf key providerType period env A w).state.db t)

/-- A step that is performed finds the tenant's rows as they were before the sweep, and
    they stay as it leaves them. -/
theorem performed_alike {A : TenantId} {o : StepOutcome} (hnodup : tenantIds.Nodup)
    (hagree : Agree tenantIds w w₀)
    (ho : (A, o) ∈ stepsOf key providerType period env tenantIds w) :
    A ∈ tenantIds ∧ SameStep A o (stepOf key providerType period env A w₀) ∧
      ∀ t, ownRows A t ((endOf w (stepsOf key providerType period env tenantIds w)).2.db t) =
        ownRows A t ((stepOf key providerType period env A w₀).state.db t) := by
  induction tenantIds generalizing w with
  | nil => cases ho
  | cons B rest ih =>
    obtain ⟨hB, hrest⟩ := List.nodup_cons.mp hnodup
    have hfirst : SameStep B (stepOf key providerType period env B w)
        (stepOf key providerType period env B w₀) := (stepOf_own (hagree B List.mem_cons_self)).1
    have hagree' : Agree rest (stepOf key providerType period env B w).state w₀ :=
      hagree.after hnodup
    cases hresult : (stepOf key providerType period env B w).result with
    | error e =>
      rw [stepsOf_cons_error hresult] at ho ⊢
      obtain ⟨rfl, rfl⟩ : A = B ∧ o = stepOf key providerType period env B w := by
        simpa using ho
      simp only [endOf, hresult]
      exact ⟨List.mem_cons_self, hfirst, hfirst.own⟩
    | ok u =>
      rw [stepsOf_cons_ok hresult] at ho ⊢
      simp only [endOf, hresult]
      rcases List.mem_cons.mp ho with heq | ho
      · obtain ⟨rfl, rfl⟩ : A = B ∧ o = stepOf key providerType period env B w := by
          simpa using heq
        refine ⟨List.mem_cons_self, hfirst, fun t => ?_⟩
        rw [endOf_other hB]
        exact hfirst.own t
      · obtain ⟨hmem, hstep⟩ := ih hrest hagree' ho
        exact ⟨List.mem_cons_of_mem _ hmem, hstep⟩

/-- Every step is performed exactly where no step before the last one raises. -/
theorem all_performed_iff (hnodup : tenantIds.Nodup)
    (hagree : Agree tenantIds w w₀) :
    (∀ A ∈ tenantIds, ∃ o, (A, o) ∈ stepsOf key providerType period env tenantIds w) ↔
      ∀ A ∈ tenantIds.dropLast,
        ¬ ∃ e, (stepOf key providerType period env A w₀).result = .error e := by
  induction tenantIds generalizing w with
  | nil => simp
  | cons B rest ih =>
    obtain ⟨hB, hrest⟩ := List.nodup_cons.mp hnodup
    have hfirst : SameStep B (stepOf key providerType period env B w)
        (stepOf key providerType period env B w₀) := (stepOf_own (hagree B List.mem_cons_self)).1
    have hagree' : Agree rest (stepOf key providerType period env B w).state w₀ :=
      hagree.after hnodup
    cases hresult : (stepOf key providerType period env B w).result with
    | error e =>
      rw [stepsOf_cons_error hresult]
      cases rest with
      | nil => simp
      | cons C rest =>
        constructor
        · intro hall
          obtain ⟨o, ho⟩ := hall C (by simp)
          obtain ⟨rfl, -⟩ : C = B ∧ _ := by simpa using ho
          simp at hB
        · intro hnone
          refine absurd ⟨e, ?_⟩ (hnone B (by simp))
          rw [← hfirst.result, hresult]
    | ok u =>
      rw [stepsOf_cons_ok hresult]
      have hcons : (∀ A ∈ B :: rest, ∃ o, (A, o) ∈ (B, stepOf key providerType period env B w) ::
          stepsOf key providerType period env rest (stepOf key providerType period env B w).state) ↔
          ∀ A ∈ rest, ∃ o, (A, o) ∈ stepsOf key providerType period env rest
            (stepOf key providerType period env B w).state := by
        constructor
        · intro hall A hA
          obtain ⟨o, ho⟩ := hall A (List.mem_cons_of_mem _ hA)
          rcases List.mem_cons.mp ho with heq | ho
          · cases heq
            exact absurd hA hB
          · exact ⟨o, ho⟩
        · intro hall A hA
          rcases List.mem_cons.mp hA with rfl | hA
          · exact ⟨_, List.mem_cons_self⟩
          · obtain ⟨o, ho⟩ := hall A hA
            exact ⟨o, List.mem_cons_of_mem _ ho⟩
      rw [hcons, ih hrest hagree']
      cases rest with
      | nil => simp
      | cons C rest =>
        have hB : ¬ ∃ e, (stepOf key providerType period env B w₀).result = .error e := by
          rintro ⟨e, he⟩
          rw [← hfirst.result, hresult] at he
          cases he
        have hdrop : (B :: C :: rest).dropLast = B :: (C :: rest).dropLast := rfl
        rw [hdrop, List.forall_mem_cons]
        exact ⟨fun h => ⟨hB, h⟩, And.right⟩

theorem served_iff (hnodup : tenantIds.Nodup) :
    (∀ A ∈ tenantIds, Served key providerType period env tenantIds w A) ↔
      ∀ A ∈ tenantIds.dropLast, ¬ Escapes key providerType period env A w := by
  have hreached : (∀ A ∈ tenantIds, ∃ o,
      (A, o) ∈ stepsOf key providerType period env tenantIds w) ↔ _ :=
    all_performed_iff hnodup fun _ _ _ => rfl
  simp only [← stepOf_raises_iff]
  rw [← hreached]
  constructor
  · intro h A hA
    obtain ⟨o, ho, -⟩ := h A hA
    exact ⟨o, ho⟩
  · intro h A hA
    obtain ⟨o, ho⟩ := h A hA
    obtain ⟨-, hsame, hend⟩ := performed_alike hnodup (fun _ _ _ => rfl) ho
    exact ⟨o, ho, hsame, hend⟩

/-- The scheduled job performs the steps of the tenants it has listed. -/
theorem runs_runComplianceSweep {G : World → Op → Choice → Prop} {c : Choice}
    (hG : ∀ A w past op, G w op (env A past op)) (hc : G w .activeTenantIds c)
    (hlisted : c.fault = none)
    (hids : tenantIds = pick c.order ((w.registry.filter (·.isActive)).map (·.id))) :
    Runs (serial G) (Scheduler.runComplianceSweep key providerType period) w
      (endOf w (stepsOf key providerType period env tenantIds w)).1
      (endOf w (stepsOf key providerType period env tenantIds w)).2 := by
  have hlist : Runs (serial G) (perform Op.activeTenantIds) w (.ok tenantIds) w := by
    refine ⟨.ok tenantIds, w, ⟨c, hc, ?_⟩, rfl, rfl⟩
    simp only [World.step, hlisted, hids]
  exact hlist.bind (runs_stepsOf hG tenantIds w)

/-- Every tenant is served exactly where nothing escapes the step of a tenant that others
    come after; and the steps spoken of are what the scheduled job performs of the tenants it
    has listed. -/
theorem sweep_serves_all_iff (hnodup : tenantIds.Nodup) :
    ((∀ A ∈ tenantIds, Served key providerType period env tenantIds w A) ↔
      ∀ A ∈ tenantIds.dropLast, ¬ Escapes key providerType period env A w) ∧
    ∀ (G : World → Op → Choice → Prop) (c : Choice), (∀ A w past op, G w op (env A past op)) →
      G w .activeTenantIds c → c.fault = none →
      tenantIds = pick c.order ((w.registry.filter (·.isActive)).map (·.id)) →
      Runs (serial G) (Scheduler.runComplianceSweep key providerType period) w
        (endOf w (stepsOf key providerType period env tenantIds w)).1
        (endOf w (stepsOf key providerType period env tenantIds w)).2 := by
  refine ⟨served_iff hnodup, fun G c hG hc hlisted hids => ?_⟩
  exact runs_runComplianceSweep hG hc hlisted hids

end Sweep

/-! ## A key that has changed -/

/-- A tenant's bot, and what it stored of its exchange account and its bot. -/
def configureTenant (d : Database) (tenantId : TenantId) (ciphertext : String) : Database :=
  (((d.append .providerCredentials
    { id := 10 * tenantId + 1, tenantId, providerType := .bitunix
      credentialName := BITUNIX_API_KEY, encryptedSecret := ciphertext }).append
    .providerCredentials
    { id := 10 * tenantId + 2, tenantId, providerType := .bitunix
      credentialName := BITUNIX_API_SECRET, encryptedSecret := ciphertext }).append
    .providerCredentials
    { id := 10 * tenantId + 3, tenantId, providerType := .telegram
      credentialName := TELEGRAM_BOT_TOKEN, encryptedSecret := ciphertext }).append
    .telegramBotConfigs { tenantId, credentialId := 10 * tenantId + 3 }

/-- Two tenants; the first one's credentials are from before the key was rotated. -/
def rotatedWorld : World :=
  { configuredWorld with db := configureTenant (configureTenant configuredDb 1 "old") 2 "new" }

def rotatedKey : EncryptionKey := .key fun ciphertext =>
  if ciphertext = "new" then some "plaintext" else none

/-- Nothing fails. -/
def faultless : TenantId → Environment := fun _ _ _ => {}

/-- What cannot be decrypted ends the sweep: the second tenant is not reached. -/
theorem undecryptable_stops_the_sweep :
    ¬ ∀ A ∈ [1, 2], Served rotatedKey .bitunix Scheduler.DEFAULT_COMPLIANCE_PERIOD faultless
      [1, 2] rotatedWorld A := by
  intro h
  obtain ⟨o, ho, -⟩ := h 2 (by simp)
  have hsteps : (stepsOf rotatedKey .bitunix Scheduler.DEFAULT_COMPLIANCE_PERIOD faultless [1, 2]
      rotatedWorld).map (·.1) = [1] := by
    decide +kernel
  have hmem := List.mem_map_of_mem (f := (·.1)) ho
  rw [hsteps] at hmem
  simp at hmem

/-- Listed last, it stops nobody. -/
theorem undecryptable_last_is_harmless :
    Served rotatedKey .bitunix Scheduler.DEFAULT_COMPLIANCE_PERIOD faultless [2, 1] rotatedWorld 2 ∧
      Served rotatedKey .bitunix Scheduler.DEFAULT_COMPLIANCE_PERIOD faultless [2, 1]
        rotatedWorld 1 := by
  have hall : ∀ A ∈ [2, 1], Served rotatedKey .bitunix Scheduler.DEFAULT_COMPLIANCE_PERIOD
      faultless [2, 1] rotatedWorld A := by
    refine (sweep_serves_all_iff (by decide)).1.mpr fun A hA => ?_
    have hfirst : A = 2 := by simpa using hA
    rw [hfirst, ← stepOf_raises_iff]
    rintro ⟨e, he⟩
    have hok : (stepOf rotatedKey .bitunix Scheduler.DEFAULT_COMPLIANCE_PERIOD faultless 2
        rotatedWorld).result.isOk = true := by
      decide +kernel
    rw [he] at hok
    cases hok
  exact ⟨hall 2 (by simp), hall 1 (by simp)⟩

end VipChannel

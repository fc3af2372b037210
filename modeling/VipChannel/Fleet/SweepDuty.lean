/-
  VipChannel.Fleet.SweepDuty

  What a sweep owes: it punishes only for a period it has claimed in the open transaction,
  and nobody twice in one transaction.
-/
import VipChannel.Fleet.Rules

namespace VipChannel

open Lib MembershipMonitor
open Program (perform raising UsesOnly usesOnly_bind usesOnly_tryCatch usesOnly_perform
  usesOnly_raising)

namespace Shift

/-- A claim of the period is held, and nobody but `done` was punished so far. -/
structure On (tenantId : TenantId) (periodStart : Int) (done : List RowId) (s : Shift) : Prop where
  tenantId_eq : s.tenantId = tenantId
  held : .execution tenantId JOB_NAME periodStart ∈ s.held
  told : ∀ x ∈ s.told, ∀ p, x.penalty = some p → p.2.1 ∈ done

section Rules

variable {α β : Type} {who : Option Enrolment} {s : Shift} {t : TenantId} {ps : Int}
  {done : List RowId}

theorem On.mono {done' : List RowId} (h : s.On t ps done) (hsub : ∀ m ∈ done, m ∈ done') :
    s.On t ps done' :=
  ⟨h.tenantId_eq, h.held, fun x hx p hp => hsub _ (h.told x hx p hp)⟩

theorem On.keeps {s' : Shift} (h : s.On t ps done) (hkeeps : s.Keeps s') : s'.On t ps done :=
  ⟨hkeeps.tenantId.trans h.tenantId_eq, hkeeps.held _ h.held,
    fun x hx => h.told x (hkeeps.silent x hx)⟩

/-- What is known during a pass is framed over a quiet part of it. -/
theorem wp_on_bind {p : App α} {f : α → App β} {done' : List RowId} (h : s.On t ps done)
    (hsub : ∀ m ∈ done, m ∈ done') (hp : p.UsesOnly Op.quiet)
    (hf : ∀ a s', s'.On t ps done → wp (machine who) (f a) (fun _ s' => s'.On t ps done') s') :
    wp (machine who) (p >>= f) (fun _ s' => s'.On t ps done') s :=
  wp_quiet_bind hp (fun _ _ hs' => (h.keeps hs').mono hsub) fun a s' hs' => hf a s' (h.keeps hs')

/-- A message to somebody who may have been punished by then. -/
theorem On.tell {done' : List RowId} {call : TelegramCall} {about : Option Concern}
    (h : s.On t ps done) (hsub : ∀ m ∈ done, m ∈ done')
    (hpenalty : ∀ p, penaltyOf call about = some p → p.2.1 ∈ done') (d : Decision) (landed : Bool) :
    (s.after d (.telegram call about) landed).On t ps done' := by
  refine ⟨h.tenantId_eq, h.held, fun x hx p hp => ?_⟩
  rcases told_after hx with ⟨hold, -⟩ | hnew
  · exact hsub _ (h.told x hold p hp)
  · simp only [messages] at hnew
    split at hnew
    · rw [List.mem_singleton.mp hnew] at hp
      exact hpenalty p hp
    · cases hnew

/-- A call that sends no penalty, and mints nothing. -/
theorem wp_harmless {call : TelegramCall} {about : Option Concern} (h : s.On t ps done)
    (hnone : penaltyOf call about = none) (hmint : ¬ call.mints) :
    wp (machine who) (perform (Op.telegram call about) : App call.Ret)
      (fun _ s' => s'.On t ps done) s := by
  have hblameless : (Op.telegram call about).blameless := ⟨hnone, hmint⟩
  rw [wp_perform]
  refine ⟨may_blameless hblameless, ?_⟩
  rintro r s' ⟨d, -, -, rfl⟩
  refine h.tell (fun _ hm => hm) (fun p hp => ?_) d _
  rw [hnone] at hp
  cases hp

/-- The one penalty a membership may get. -/
theorem wp_penalty {call : TelegramCall} {about : Option Concern} {kind : Penalty} {m : RowId}
    (h : s.On t ps done) (hm : m ∉ done) (hpenalty : penaltyOf call about = some (kind, m, ps))
    (hmint : ¬ call.mints) :
    wp (machine who) (perform (Op.telegram call about) : App call.Ret)
      (fun _ s' => s'.On t ps (m :: done)) s := by
  rw [wp_perform]
  refine ⟨⟨fun p hp => ?_, fun hmints => (hmint hmints).elim⟩, ?_⟩
  · rw [hpenalty] at hp
    cases hp
    refine ⟨?_, fun x hx heq => hm (h.told x hx _ heq)⟩
    show Claim.execution s.tenantId JOB_NAME ps ∈ s.held
    rw [h.tenantId_eq]
    exact h.held
  · rintro r s' ⟨d, -, -, rfl⟩
    refine h.tell (fun _ hm => List.mem_cons_of_mem _ hm) (fun p hp => ?_) d _
    rw [hpenalty] at hp
    cases hp
    exact List.mem_cons_self

end Rules

/-! ## Quiet parts -/

section Quiet

theorem quiet_call {op : Op} (h : op.quiet) : (perform op : App op.Ret).UsesOnly Op.quiet := by
  rw [usesOnly_perform]
  exact h

theorem quiet_checkUser (uid : String) : (checkUser uid).UsesOnly Op.quiet := by
  unfold checkUser
  rw [map_eq_pure_bind]
  refine usesOnly_tryCatch (usesOnly_bind (quiet_call trivial) fun _ => trivial) fun e => ?_
  split <;> trivial

theorem quiet_recordAnswer (tenantId : TenantId) (account : ReferralAccount) (period : TimeDelta)
    (periodStart moment : DateTime) (check : Option ReferralCheck) (verdict : EligibilityVerdict) :
    (recordAnswer tenantId account period periodStart moment check verdict).UsesOnly Op.quiet := by
  have hupdate : (Op.update .referralAccounts (fun r => r.id == account.id)
      (recordVerdict check verdict moment)).quiet := fun _ => rfl
  refine usesOnly_bind (quiet_call hupdate) fun _ => ?_
  cases check with
  | none => trivial
  | some check =>
    have ht : Table.tradingActivitySnapshots ≠ .webhookRoutes := by decide
    exact usesOnly_bind ((usesOnly_raising _).mpr trivial) fun _ =>
      usesOnly_bind ((usesOnly_raising _).mpr trivial) fun _ => quiet_call ht

theorem quiet_expireSubscription (tenantId : TenantId) (userId : RowId) (market : Market)
    (moment : DateTime) : (expireSubscription tenantId userId market moment).UsesOnly Op.quiet := by
  refine usesOnly_bind (usesOnly_bind (quiet_call trivial) fun _ => trivial) fun subscription => ?_
  cases subscription with
  | none => trivial
  | some subscription => exact quiet_call fun _ => rfl

theorem quiet_finish (jobName : String) (periodStart : DateTime) (error : Option String) :
    (finish jobName periodStart error).UsesOnly Op.quiet :=
  usesOnly_bind (quiet_call trivial) fun _ => quiet_call fun _ => rfl

theorem quiet_nowOr (now : Option DateTime) : (nowOr now).UsesOnly Op.quiet := by
  cases now with
  | none => exact quiet_call trivial
  | some now => trivial

end Quiet

/-! ## A pass -/

section Pass

variable {who : Option Enrolment} {s : Shift} {t : TenantId} {done : List RowId}
  {m : VIPMembership} {market : Market} {d : ComplianceDecision} {moment periodStart : DateTime}
  {period : TimeDelta} {policy : CompliancePolicy}

/-- A message that is no warning. -/
theorem wp_tell_harmless {chatId : Option Int} {text : String} {about : Concern}
    (h : s.On t periodStart.utc done)
    (hnone : ∀ chat, penaltyOf (.sendMessage chat text) (some about) = none) :
    wp (machine who) (MembershipMonitor.tell chatId text about)
      (fun _ s' => s'.On t periodStart.utc done) s := by
  unfold MembershipMonitor.tell
  cases chatId with
  | none => exact h
  | some chat =>
    dsimp only
    split
    · exact wp_harmless h (hnone chat) id
    · exact h

/-- A warning, to who was not punished yet. -/
theorem wp_tell_warning {chatId : Option Int} {text : String} (h : s.On t periodStart.utc done)
    (hm : m.id ∉ done) :
    wp (machine who) (MembershipMonitor.tell chatId text (.compliance m.id .warn periodStart))
      (fun _ s' => s'.On t periodStart.utc (m.id :: done)) s := by
  have hlater : s.On t periodStart.utc (m.id :: done) :=
    h.mono fun _ hm => List.mem_cons_of_mem _ hm
  unfold MembershipMonitor.tell
  cases chatId with
  | none => exact hlater
  | some chat =>
    dsimp only
    split
    · have hpenalty : penaltyOf (.sendMessage chat text)
          (some (.compliance m.id .warn periodStart)) =
            some (.warning, m.id, periodStart.utc) := rfl
      exact wp_penalty h hm hpenalty id
    · exact hlater

/-- A removal bans once. -/
theorem wp_removeFromChannel {chatId : Option Int} (h : s.On t periodStart.utc done)
    (hm : m.id ∉ done) :
    wp (machine who) (removeFromChannel t market chatId (.compliance m.id .revoke periodStart))
      (fun _ s' => s'.On t periodStart.utc (m.id :: done)) s := by
  unfold removeFromChannel TelegramChannelRepository.getForMarket
  refine wp_on_bind h (fun _ hm => List.mem_cons_of_mem _ hm)
    (usesOnly_read Op.quiet_of_reads _) fun channel s' hs' => ?_
  cases channel with
  | none => exact hs'.mono fun _ hm => List.mem_cons_of_mem _ hm
  | some channel =>
    dsimp only
    rw [wp_bind]
    have hpenalty : penaltyOf (.banChatMember channel.chatId (chatId.getD 0))
        (some (.compliance m.id .revoke periodStart)) = some (.ban, m.id, periodStart.utc) := rfl
    refine wp_mono ?_ (wp_penalty hs' hm hpenalty id)
    rintro (e | a) s'' hs''
    · exact hs''
    · exact wp_harmless hs'' rfl id

theorem wp_write (h : s.On t periodStart.utc done) :
    wp (machine who) (write m d moment) (fun _ s' => s'.On t periodStart.utc done) s := by
  have hwrite : (write m d moment).UsesOnly Op.quiet := quiet_call fun _ => rfl
  exact wp_mono (fun _ _ hs' => h.keeps hs') (wp_quiet hwrite)

/-- Carrying out a decision punishes the membership once at most. -/
theorem wp_apply {report : MonitorReport} (h : s.On t periodStart.utc done) (hm : m.id ∉ done) :
    wp (machine who)
      (MembershipMonitor.apply t m market d moment periodStart report policy)
      (fun _ s' => s'.On t periodStart.utc (m.id :: done)) s := by
  have hsub : ∀ m' ∈ done, m' ∈ m.id :: done := fun _ hm => List.mem_cons_of_mem _ hm
  have hlater : ∀ s' : Shift, s'.On t periodStart.utc done →
      s'.On t periodStart.utc (m.id :: done) :=
    fun s' h => h.mono hsub
  unfold MembershipMonitor.apply
  split
  · exact hlater s h
  refine wp_on_bind h hsub (usesOnly_read Op.quiet_of_reads _) fun user s hs => ?_
  cases haction : d.action with
  | none => exact hlater s hs
  | restore =>
    dsimp only
    rw [wp_bind]
    refine wp_mono ?_ (wp_write hs)
    rintro (e | a) s' hs'
    · exact hlater s' hs'
    rw [bindPost_ok, wp_bind]
    refine wp_mono ?_ (wp_tell_harmless hs' fun _ => rfl)
    rintro (e | a) s'' hs''
    · exact hlater s'' hs''
    · exact hlater s'' hs''
  | warn =>
    dsimp only
    rw [wp_bind]
    refine wp_mono ?_ (wp_write hs)
    rintro (e | a) s' hs'
    · exact hlater s' hs'
    rw [bindPost_ok, wp_bind]
    refine wp_mono ?_ (wp_tell_warning hs' hm)
    rintro (e | a) s'' hs''
    · exact hs''
    · exact hs''
  | revoke =>
    dsimp only
    rw [wp_bind]
    refine wp_mono ?_ (wp_removeFromChannel hs hm)
    rintro (e | a) s' hs'
    · exact hs'
    rw [bindPost_ok, wp_bind]
    refine wp_mono ?_ (wp_write hs')
    rintro (e | a) s'' hs''
    · exact hs''
    rw [bindPost_ok]
    refine wp_on_bind hs'' (fun _ hm => hm) (quiet_expireSubscription _ _ _ _) fun _ s₃ hs₃ => ?_
    rw [wp_bind]
    refine wp_mono ?_ (wp_tell_harmless hs₃ fun _ => rfl)
    rintro (e | a) s₄ hs₄
    · exact hs₄
    · exact hs₄

/-- One membership is punished once at most. -/
theorem wp_process {report : MonitorReport} (h : s.On t periodStart.utc done) (hm : m.id ∉ done) :
    wp (machine who) (process period policy t periodStart moment report m)
      (fun _ s' => s'.On t periodStart.utc (m.id :: done)) s := by
  have hsub : ∀ m' ∈ done, m' ∈ m.id :: done := fun _ hm => List.mem_cons_of_mem _ hm
  unfold process ReferralAccountRepository.listForUser ReferralProgramConfigRepository.getFor
  refine wp_on_bind h hsub (quiet_call trivial) fun accounts s h => ?_
  cases accounts with
  | nil => exact h.mono hsub
  | cons account rest =>
    dsimp only
    refine wp_on_bind h hsub (usesOnly_read Op.quiet_of_reads _) fun config s h => ?_
    cases config with
    | none => exact h.mono hsub
    | some config =>
      dsimp only
      unfold judge
      refine wp_on_bind h hsub (quiet_checkUser _) fun check s h => ?_
      refine wp_on_bind h hsub ((usesOnly_raising _).mpr trivial) fun verdict s h => ?_
      refine wp_on_bind h hsub (quiet_recordAnswer _ _ _ _ _ _ _) fun _ s h => ?_
      refine wp_on_bind h hsub ((usesOnly_raising _).mpr trivial) fun decision s h => ?_
      exact wp_apply h hm

/-- So is each of a list of memberships that are none of those punished before. -/
theorem wp_loop {ms : List VIPMembership} {report : MonitorReport}
    (h : s.On t periodStart.utc done) (hnodup : (ms.map (·.id)).Nodup)
    (hnew : ∀ m ∈ ms, m.id ∉ done) :
    wp (machine who) (ms.foldlM (process period policy t periodStart moment) report)
      (fun _ s' => ∃ done', s'.On t periodStart.utc done') s := by
  induction ms generalizing s done report with
  | nil => exact ⟨done, h⟩
  | cons m rest ih =>
    rw [List.map_cons, List.nodup_cons] at hnodup
    rw [List.foldlM_cons, wp_bind]
    refine wp_mono ?_ (wp_process h (hnew m List.mem_cons_self))
    rintro (e | report') s' hs'
    · exact ⟨_, hs'⟩
    · refine ih hs' hnodup.2 fun m' hm' hmem => ?_
      rcases List.mem_cons.mp hmem with heq | hmem
      · exact hnodup.1 (heq ▸ List.mem_map_of_mem hm')
      · exact hnew m' (List.mem_cons_of_mem _ hm') hmem

/-- Memberships that are shown together differ in their ids. -/
theorem nodup_ids {ms : List VIPMembership}
    (h : ms.Pairwise fun r r' => clash .vipMemberships r r' = false) : (ms.map (·.id)).Nodup := by
  rw [List.Nodup, List.pairwise_map]
  refine h.imp fun {a b} hab heq => ?_
  simp [clash, heq] at hab

theorem wp_processAll (h : s.On t periodStart.utc []) :
    wp (machine who) (processAll period policy t periodStart moment)
      (fun _ s' => ∃ done, s'.On t periodStart.utc done) s := by
  unfold processAll MembershipRepository.listByStatus
  rw [wp_bind]
  refine wp_select (fun e s' hs' => ⟨[], h.keeps hs'⟩) fun ms s' hsaw => ?_
  exact wp_loop (h.keeps hsaw.toKeeps) (nodup_ids hsaw.distinct) fun _ _ => List.not_mem_nil

theorem quiet_blameless {α : Type} {p : App α} (hp : p.UsesOnly Op.quiet) :
    p.UsesOnly Op.blameless :=
  hp.mono fun _ => Op.blameless_of_quiet

/-- What comes after the loop punishes nobody. -/
theorem wp_work (h : s.On t periodStart.utc []) :
    wp (machine who) (work period policy t periodStart moment) (fun _ _ => True) s := by
  unfold work
  rw [wp_bind, wp_tryCatch]
  refine wp_mono ?_ (wp_processAll h)
  rintro (e | report) s' -
  · rw [catchPost_error, wp_bind]
    refine wp_mono ?_ (wp_blameless (quiet_blameless (quiet_finish _ _ _)))
    rintro (e' | u) s'' -
    · trivial
    · trivial
  · rw [catchPost_ok, bindPost_ok]
    have hcounts : (update .jobExecutions (isExecution JOB_NAME periodStart)
        (recordCounts report)).UsesOnly Op.quiet := quiet_call fun _ => rfl
    refine wp_blameless (quiet_blameless ?_)
    exact usesOnly_bind hcounts fun _ => usesOnly_bind (quiet_finish _ _ _) fun _ => trivial

/-- A claim that succeeds is held. -/
theorem wp_claimPeriod (ht : s.tenantId = t) (htold : s.told = []) :
    wp (machine who) (claimPeriod t JOB_NAME periodStart)
      (fun r s' => r = .ok true → s'.On t periodStart.utc []) s := by
  have hnever : ∀ {e : PyError} {s' : Shift},
      (Except.error e : Except PyError Bool) = .ok true → s'.On t periodStart.utc [] := by
    intro e s' h
    cases h
  have hrefused : ∀ {s' : Shift},
      (Except.ok false : Except PyError Bool) = .ok true → s'.On t periodStart.utc [] := by
    intro s' h
    cases h
  unfold claimPeriod beginNested
  refine wp_quiet_bind (quiet_call trivial) (fun _ _ _ => hnever) fun startedAt s₀ hs₀ => ?_
  have htold₀ : s₀.told = [] := hs₀.told_nil htold
  have ht₀ : s₀.tenantId = t := hs₀.tenantId.trans ht
  rw [wp_tryCatch]
  refine wp_mono (Q := fun r s'' => r = .ok true → s''.On t periodStart.utc []) ?_ ?_
  · rintro (e | claimed) s'' hclaimed
    · rw [catchPost_error]
      split
      · exact hrefused
      · exact hnever
    · exact hclaimed
  rw [wp_bind, wp_bind, wp_perform]
  refine ⟨trivial, ?_⟩
  rintro (e | u) s₁ ⟨d₁, -, -, rfl⟩
  · exact hnever
  rw [bindPost_ok, wp_tryCatch, wp_bind, wp_bind]
  unfold add
  rw [wp_perform]
  refine ⟨trivial, ?_⟩
  rintro (e | u) s₂ ⟨d₂, -, hok, rfl⟩
  · cases hok
  rw [bindPost_ok]
  unfold flush
  rw [wp_perform]
  refine ⟨trivial, ?_⟩
  -- Whatever fails from here on is raised again after the savepoint is restored.
  have hfailed : ∀ (e : PyError) (s : Shift), s.told = [] →
      wp (machine who) (do perform Op.rollbackToSavepoint; throw e : App Unit)
        (bindPost (machine who) (fun _ => (pure true : App Bool))
          fun r s' => r = .ok true → s'.On t periodStart.utc []) s := by
    intro e s hs
    rw [wp_bind, wp_perform]
    refine ⟨hs, ?_⟩
    rintro (e' | u) s' -
    · exact hnever
    · exact hnever
  rintro (e | u) s₃ ⟨d₃, -, -, rfl⟩
  · exact hfailed e _ htold₀
  rw [bindPost_ok, wp_perform]
  refine ⟨trivial, ?_⟩
  rintro (e | u) s₄ ⟨d₄, -, -, rfl⟩
  · exact hfailed e _ htold₀
  intro _
  refine ⟨ht₀, ?_, fun x hx => ?_⟩
  · simp [after, Op.landed, flushed, Except.isOk, Except.toBool, rowClaim]
  · have hnone : x ∈ s₀.told := hx
    rw [htold₀] at hnone
    cases hnone

theorem wp_run {now : Option DateTime} (ht : s.tenantId = t) (htold : s.told = []) :
    wp (machine who) (run period policy t now) (fun _ _ => True) s := by
  unfold run
  refine wp_quiet_bind (quiet_nowOr now) (fun _ _ _ => trivial) fun moment s₁ hs₁ => ?_
  refine wp_quiet_bind ((usesOnly_raising _).mpr trivial) (fun _ _ _ => trivial)
    fun periodStart s₂ hs₂ => ?_
  have hkeeps := hs₁.trans hs₂
  rw [wp_bind]
  refine wp_mono ?_ (wp_claimPeriod (hkeeps.tenantId.trans ht) (hkeeps.told_nil htold))
  rintro (e | claimed) s' hclaimed
  · trivial
  rw [bindPost_ok]
  cases claimed with
  | false => trivial
  | true => exact wp_work (hclaimed rfl)

end Pass

/-! ## A sweep -/

section Sweep

variable {who : Option Enrolment} {s : Shift} {key : EncryptionKey} {providerType : ProviderType}
  {period : TimeDelta}

/-- Committing, or rolling back, punishes nobody. -/
theorem wp_committed_true {α : Type} {body : App α}
    (h : wp (machine who) body (fun _ _ => True) s) :
    wp (machine who) (committed body) (fun _ _ => True) s :=
  wp_mono (fun _ _ _ => trivial)
    (wp_committed (Q := fun _ _ => True) (wp_mono (fun _ _ _ _ _ => trivial) h))

theorem wp_passTx {policy : CompliancePolicy} {tenantId : TenantId} {now : Option DateTime} :
    wp (machine who) (passTx period policy tenantId now) (fun _ _ => True) s :=
  wp_withSession (wp_committed_true (wp_run rfl rfl))

theorem wp_sweepTenant {tenantId : TenantId} :
    wp (machine who) (Scheduler.sweepTenant key providerType period tenantId)
      (fun _ _ => True) s := by
  unfold Scheduler.sweepTenant
  refine wp_withSession ?_
  refine wp_quiet_bind (usesOnly_configured Op.quiet_of_reads _ _ _) (fun _ _ _ => trivial)
    fun configured s' hs' => ?_
  cases configured with
  | false => trivial
  | true =>
    rw [if_pos rfl, wp_bind]
    refine wp_mono ?_ (wp_committed_true (wp_run hs'.tenantId (hs'.told_nil rfl)))
    rintro (e | a) s'' -
    · trivial
    · trivial

theorem wp_sweepAll (tenantIds : List TenantId) :
    wp (machine who) (Scheduler.sweepAll key providerType period tenantIds)
      (fun _ _ => True) s := by
  induction tenantIds generalizing s with
  | nil => trivial
  | cons tenantId rest ih =>
    unfold Scheduler.sweepAll
    rw [wp_bind]
    refine wp_mono ?_ wp_sweepTenant
    rintro (e | u) s' -
    · trivial
    · exact ih

/-- A sweep keeps to its duty, whatever the database shows it. -/
theorem wp_runComplianceSweep :
    wp (machine who) (Scheduler.runComplianceSweep key providerType period)
      (fun _ _ => True) s := by
  unfold Scheduler.runComplianceSweep
  rw [wp_bind, wp_perform]
  refine ⟨trivial, ?_⟩
  rintro (e | tenantIds) s' -
  · trivial
  · exact wp_sweepAll tenantIds

end Sweep

end Shift

end VipChannel

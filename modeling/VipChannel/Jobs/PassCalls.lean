/-
  VipChannel.Jobs.PassCalls

  Which calls the parts of a monitoring pass make: reads, the clock, the exchange and
  Telegram, and a handful of writes, each named in the lemma of the part that makes it.
-/
import VipChannel.Jobs.MembershipMonitor
import VipChannel.Persistence.Integrity

namespace VipChannel

open Lib
open Program (perform raising UsesOnly usesOnly_bind usesOnly_tryCatch)

/-- A call that neither writes rows nor controls the session and its transaction, and
    generates nothing. -/
def Op.plain : Op → Prop
  | .select .. | .flush | .utcnow | .validateUser _ | .telegram .. => True
  | .openSession _ | .closeSession | .add .. | .update .. | .savepoint | .releaseSavepoint
  | .rollbackToSavepoint | .commit | .rollback | .uuid4 | .activeTenantIds | .tenantsOfToken _
  | .tokenUrlsafe | .encrypt _ => False

section Calls

variable {P : Op → Prop}

theorem usesOnly_select (hP : ∀ op, op.plain → P op) {t : Table} (cond : Row t → Bool) :
    (select t cond).UsesOnly P := by
  unfold select
  rw [Program.usesOnly_perform]
  exact hP _ trivial

theorem usesOnly_selectOneOrNone (hP : ∀ op, op.plain → P op) {t : Table}
    (cond : Row t → Bool) : (selectOneOrNone t cond).UsesOnly P := by
  unfold selectOneOrNone
  exact usesOnly_bind (usesOnly_select hP cond) fun rows => by simp

theorem usesOnly_utcnow (hP : ∀ op, op.plain → P op) : utcnow.UsesOnly P := by
  unfold utcnow
  rw [Program.usesOnly_perform]
  exact hP _ trivial

theorem usesOnly_nowOr (hP : ∀ op, op.plain → P op) (now : Option DateTime) :
    (nowOr now).UsesOnly P := by
  cases now with
  | some moment => trivial
  | none => exact usesOnly_utcnow hP

theorem usesOnly_update {t : Table} {which : Row t → Bool} {change : Row t → Row t}
    (h : P (.update t which change)) : (update t which change).UsesOnly P := by
  unfold update
  rw [Program.usesOnly_perform]
  exact h

theorem usesOnly_telegram (hP : ∀ op, op.plain → P op) (call : TelegramCall)
    (about : Option Concern) : (perform (Op.telegram call about) : App call.Ret).UsesOnly P := by
  rw [Program.usesOnly_perform]
  exact hP _ trivial

theorem usesOnly_checkUser (hP : ∀ op, op.plain → P op) (uid : String) :
    (checkUser uid).UsesOnly P := by
  unfold checkUser
  rw [map_eq_pure_bind]
  refine usesOnly_tryCatch (usesOnly_bind ?_ fun _ => by simp) fun e => ?_
  · rw [Program.usesOnly_perform]
    exact hP _ trivial
  · split
    · simp
    · trivial

namespace MembershipMonitor

theorem usesOnly_tell (hP : ∀ op, op.plain → P op) (chatId : Option Int) (text : String)
    (about : Concern) : (tell chatId text about).UsesOnly P := by
  unfold tell
  split
  · split
    · exact usesOnly_telegram hP _ _
    · simp
  · simp

theorem usesOnly_removeFromChannel (hP : ∀ op, op.plain → P op) (tenantId : TenantId)
    (market : Market) (chatId : Option Int) (about : Concern) :
    (removeFromChannel tenantId market chatId about).UsesOnly P := by
  unfold removeFromChannel
  refine usesOnly_bind (usesOnly_selectOneOrNone hP _) fun channel => ?_
  split
  · simp
  · exact usesOnly_bind (usesOnly_telegram hP _ _) fun _ => usesOnly_telegram hP _ _

theorem usesOnly_expireSubscription (hP : ∀ op, op.plain → P op) {moment : DateTime}
    (hexpire : ∀ id, P (.update .subscriptions (fun r => r.id == id)
      (Subscription.expired moment)))
    (tenantId : TenantId) (userId : RowId) (market : Market) :
    (expireSubscription tenantId userId market moment).UsesOnly P := by
  unfold expireSubscription SubscriptionRepository.getActiveForUser
  refine usesOnly_bind (usesOnly_bind (usesOnly_select hP _) fun _ => by simp)
    fun subscription => ?_
  split
  · simp
  · exact usesOnly_update (hexpire _)

theorem usesOnly_apply (hP : ∀ op, op.plain → P op) {m : VIPMembership}
    {d : ComplianceDecision} {moment : DateTime}
    (hwrite : P (.update .vipMemberships (fun r => r.id == m.id) (.applied d moment)))
    (hexpire : ∀ id, P (.update .subscriptions (fun r => r.id == id)
      (Subscription.expired moment)))
    (tenantId : TenantId) (market : Market) (periodStart : DateTime) (report : MonitorReport)
    (policy : CompliancePolicy) :
    (MembershipMonitor.apply tenantId m market d moment periodStart report policy).UsesOnly P := by
  have hrow : (write m d moment).UsesOnly P := usesOnly_update hwrite
  unfold MembershipMonitor.apply
  split
  · simp
  refine usesOnly_bind (usesOnly_selectOneOrNone hP _) fun user => ?_
  dsimp only
  split
  · simp
  · refine usesOnly_bind hrow fun _ => ?_
    exact usesOnly_bind (usesOnly_tell hP _ _ _) fun _ => by simp
  · refine usesOnly_bind hrow fun _ => ?_
    exact usesOnly_bind (usesOnly_tell hP _ _ _) fun _ => by simp
  · refine usesOnly_bind (usesOnly_removeFromChannel hP _ _ _ _) fun _ => ?_
    refine usesOnly_bind hrow fun _ => ?_
    refine usesOnly_bind (usesOnly_expireSubscription hP hexpire _ _ _) fun _ => ?_
    exact usesOnly_bind (usesOnly_tell hP _ _ _) fun _ => by simp

end MembershipMonitor

theorem usesOnly_finish (hP : ∀ op, op.plain → P op) {jobName : String}
    {periodStart : DateTime} {error : Option String}
    (hend : ∀ finishedAt, P (.update .jobExecutions (isExecution jobName periodStart)
      (recordEnd finishedAt error))) : (finish jobName periodStart error).UsesOnly P := by
  unfold finish
  exact usesOnly_bind (usesOnly_utcnow hP) fun _ => usesOnly_update (hend _)

/-- The calls around a nested transaction. -/
structure Op.Nests (P : Op → Prop) : Prop where
  savepoint : P .savepoint
  releaseSavepoint : P .releaseSavepoint
  rollbackToSavepoint : P .rollbackToSavepoint

theorem usesOnly_claimPeriod (hP : ∀ op, op.plain → P op) (hN : Op.Nests P)
    {tenantId : TenantId} {jobName : String} {periodStart : DateTime}
    (hadd : ∀ startedAt, P (.add .jobExecutions
      { tenantId, jobName, periodStart, state := .running, startedAt := some startedAt })) :
    (claimPeriod tenantId jobName periodStart).UsesOnly P := by
  unfold claimPeriod beginNested
  refine usesOnly_bind (usesOnly_utcnow hP) fun now => usesOnly_tryCatch ?_ fun e => ?_
  · refine usesOnly_bind (usesOnly_bind ?_ fun _ => ?_) fun _ => by simp
    · rw [Program.usesOnly_perform]
      exact hN.savepoint
    refine usesOnly_tryCatch (usesOnly_bind (usesOnly_bind ?_ fun _ => ?_) fun _ => ?_) fun e => ?_
    · unfold add
      rw [Program.usesOnly_perform]
      exact hadd now
    · unfold flush
      rw [Program.usesOnly_perform]
      exact hP _ trivial
    · rw [Program.usesOnly_perform]
      exact hN.releaseSavepoint
    · refine usesOnly_bind ?_ fun _ => trivial
      rw [Program.usesOnly_perform]
      exact hN.rollbackToSavepoint
  · split
    · simp
    · trivial

end Calls

end VipChannel

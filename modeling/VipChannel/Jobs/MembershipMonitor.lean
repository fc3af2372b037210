/-
  VipChannel.Jobs.MembershipMonitor

  The periodic pass that keeps membership honest (jobs/membership_monitor.py).

  Once per period, for one tenant: re-check every monitored member, decide what the
  compliance rules say, and carry it out.  What an action writes on the membership
  row is a function of its own (`applied`), so that the run of a single row can be
  studied without the database around it.
-/
import VipChannel.Jobs.PeriodLock
import VipChannel.Domain.Messages
import VipChannel.Services.ReferralOnboarding

namespace VipChannel

open Lib
open Program (perform raising)

def JOB_NAME : String := "referral_compliance_check"

structure MonitorReport where
  claimed : Bool
  periodStart : Option DateTime := none
  processed : Int := 0
  warned : Int := 0
  revoked : Int := 0
  restored : Int := 0
  skippedUnavailable : Int := 0
  deriving DecidableEq

/-! ## What an action writes on the membership -/

namespace VIPMembership

/-- The facts about a membership the decision is made on. -/
def snapshot (membership : VIPMembership) : MembershipSnapshot where
  status := membership.status
  memberSince := membership.joinedAt.getD membership.createdAt
  warningsSent := membership.warningsSent
  lastWarningAt := membership.lastWarningAt

def restored (membership : VIPMembership) : VIPMembership :=
  { membership with
    warningsSent := 0
    lastWarningAt := none
    status := if membership.status = .suspended then .active else membership.status }

def warned (warningsAfter : Int) (moment : DateTime) (membership : VIPMembership) :
    VIPMembership :=
  { membership with warningsSent := warningsAfter, lastWarningAt := some moment }

def removed (moment : DateTime) (detail : Option String) (membership : VIPMembership) :
    VIPMembership :=
  { membership with
    status := .revoked
    revokedAt := some moment
    revocationReason := detail
    inviteLink := none }

/-- What `_apply` writes on the membership row. -/
def applied (decision : ComplianceDecision) (moment : DateTime) (membership : VIPMembership) :
    VIPMembership :=
  match decision.action with
  | .none => membership
  | .restore => membership.restored
  | .warn => membership.warned decision.warningsAfter moment
  | .revoke => membership.removed moment decision.detail

end VIPMembership

/-- The entitlement expires; the payment history it came from is never touched. -/
def Subscription.expired (moment : DateTime) (subscription : Subscription) : Subscription :=
  { subscription with status := .expired, endsAt := some moment }

namespace MembershipMonitor

/-- `if chat_id: await telegram.send_message(…)`. -/
def tell (chatId : Option Int) (text : String) (about : Concern) : App Unit :=
  match chatId with
  | some chatId =>
    if chatId ≠ 0 then TelegramBotProvider.sendMessage chatId text (some about) else pure ()
  | none => pure ()

/-- The removal itself, from the active channel of the market. -/
def removeFromChannel (tenantId : TenantId) (market : Market) (chatId : Option Int)
    (about : Concern) : App Unit := do
  match ← TelegramChannelRepository.getForMarket tenantId market with
  | none => pure ()
  | some channel =>
    TelegramBotProvider.banChatMember channel.chatId (chatId.getD 0) (some about)
    -- A ban is sticky: without the unban a future renewal is impossible.
    TelegramBotProvider.unbanChatMember channel.chatId (chatId.getD 0) (some about)

def expireSubscription (tenantId : TenantId) (userId : RowId) (market : Market)
    (moment : DateTime) : App Unit := do
  match ← SubscriptionRepository.getActiveForUser tenantId userId market with
  | none => pure ()
  | some subscription =>
    update .subscriptions (fun r => r.id == subscription.id) (Subscription.expired moment)

/-- Assign the action's fields to the membership. -/
def write (membership : VIPMembership) (decision : ComplianceDecision) (moment : DateTime) :
    App Unit :=
  update .vipMemberships (fun r => r.id == membership.id) (.applied decision moment)

/-- `_apply`. -/
def apply (tenantId : TenantId) (membership : VIPMembership) (market : Market)
    (decision : ComplianceDecision) (moment periodStart : DateTime) (report : MonitorReport)
    (policy : CompliancePolicy) : App MonitorReport := do
  if decision.action = .none then
    return if decision.skipReason = some .providerUnavailable then
      { report with skippedUnavailable := report.skippedUnavailable + 1 } else report
  else
    let user ← TelegramUserRepository.getById tenantId membership.userId
    let chatId := user.map (·.telegramUserId)
    let reasonText := Messages.reasonText (decision.detail.getD "")
    let about := Concern.compliance membership.id decision.action periodStart
    match decision.action with
    | .none => return report
    | .restore =>
      write membership decision moment
      tell chatId Messages.MEMBERSHIP_RESTORED about
      return { report with restored := report.restored + 1 }
    | .warn =>
      write membership decision moment
      tell chatId
        (Messages.COMPLIANCE_WARNING decision.warningsAfter policy.maxWarnings reasonText) about
      return { report with warned := report.warned + 1 }
    | .revoke =>
      removeFromChannel tenantId market chatId about
      write membership decision moment
      expireSubscription tenantId membership.userId market moment
      tell chatId (Messages.MEMBERSHIP_REVOKED reasonText) about
      return { report with revoked := report.revoked + 1 }

/-- What the pass writes on the account it judged. -/
def recordVerdict (check : Option ReferralCheck) (verdict : EligibilityVerdict)
    (moment : DateTime) (account : ReferralAccount) : ReferralAccount :=
  ReferralOnboardingService.recordCheck check verdict moment account

/-- The snapshot of an answer, as its columns keep it. -/
def snapshotOf (tenantId : TenantId) (account : ReferralAccount) (periodStart periodEnd : DateTime)
    (check : ReferralCheck) (verdict : EligibilityVerdict) : TradingActivitySnapshot where
  tenantId := tenantId
  referralAccountId := account.id
  periodStart := periodStart
  periodEnd := periodEnd
  qualifyingTrades := check.qualifyingTrades.getD 0
  balance := (numericColumn check.depositTotal).toOption
  stillUnderReferral := some check.registered
  providerState := verdict.complianceState

/-- The flush fails where the columns have no room for the answer. -/
def answerColumns (check : ReferralCheck) (verdict : EligibilityVerdict) : Except PyError Unit := do
  let _ ← numericColumn verdict.balance
  let _ ← numericColumn check.depositTotal
  let _ ← integerColumn 32 (check.qualifyingTrades.getD 0)
  return ()

/-- Write down what was found out about the account. -/
def recordAnswer (tenantId : TenantId) (account : ReferralAccount) (period : TimeDelta)
    (periodStart moment : DateTime) (check : Option ReferralCheck)
    (verdict : EligibilityVerdict) : App Unit := do
  update .referralAccounts (fun r => r.id == account.id) (recordVerdict check verdict moment)
  match check with
  | none => pure ()
  | some check =>
    let periodEnd ← raising (plusDelta periodStart period)
    raising (answerColumns check verdict)
    add .tradingActivitySnapshots
      (snapshotOf tenantId account periodStart periodEnd check verdict)

/-- The tenant's grace period joins the job's policy. -/
def policyFor (policy : CompliancePolicy) (config : ReferralProgramConfig) : CompliancePolicy :=
  { policy with onboardingGraceDays := config.complianceGracePeriodDays }

/-- Judge one membership through one account. -/
def judge (period : TimeDelta) (policy : CompliancePolicy) (tenantId : TenantId)
    (membership : VIPMembership) (account : ReferralAccount) (config : ReferralProgramConfig)
    (periodStart moment : DateTime) (report : MonitorReport) : App MonitorReport := do
  let check ← checkUser account.uid
  let verdict ← raising (evaluateReferral check config.rules true)
  recordAnswer tenantId account period periodStart moment check verdict
  let decision ← raising
    (decideCompliance membership.snapshot verdict (policyFor policy config) moment)
  apply tenantId membership account.market decision moment periodStart report
    (policyFor policy config)

/-- `_process`. -/
def process (period : TimeDelta) (policy : CompliancePolicy) (tenantId : TenantId)
    (periodStart moment : DateTime) (report : MonitorReport) (membership : VIPMembership) :
    App MonitorReport := do
  let report := { report with processed := report.processed + 1 }
  match ← ReferralAccountRepository.listForUser tenantId membership.userId with
  | [] => return report
  | account :: _ =>
    match ← ReferralProgramConfigRepository.getFor tenantId account.providerType
      account.market with
    | none => return report
    | some config =>
      judge period policy tenantId membership account config periodStart moment report

/-- The statuses `run` lists. -/
def MONITORED : List MembershipStatus := [.invited, .active, .suspended]

/-- The loop over the monitored memberships. -/
def processAll (period : TimeDelta) (policy : CompliancePolicy) (tenantId : TenantId)
    (periodStart moment : DateTime) : App MonitorReport := do
  let memberships ← MembershipRepository.listByStatus tenantId MONITORED
  memberships.foldlM (process period policy tenantId periodStart moment)
    { claimed := true, periodStart := some periodStart }

/-- The counters of a finished run. -/
def recordCounts (report : MonitorReport) (execution : JobExecution) : JobExecution :=
  { execution with
    processed := report.processed
    warned := report.warned
    revoked := report.revoked
    skippedUnavailable := report.skippedUnavailable }

/-- The period is ours: do the work, and record how it ended. -/
def work (period : TimeDelta) (policy : CompliancePolicy) (tenantId : TenantId)
    (periodStart moment : DateTime) : App MonitorReport := do
  let report ← (processAll period policy tenantId periodStart moment).tryCatch fun e => do
    finish JOB_NAME periodStart (some (e.cls.name ++ ": " ++ e.text))
    throw e
  update .jobExecutions (isExecution JOB_NAME periodStart) (recordCounts report)
  finish JOB_NAME periodStart none
  return report

def run (period : TimeDelta) (policy : CompliancePolicy) (tenantId : TenantId)
    (now : Option DateTime) : App MonitorReport := do
  let moment ← nowOr now
  let periodStart ← raising (periodStartFor moment period)
  if ← claimPeriod tenantId JOB_NAME periodStart then
    work period policy tenantId periodStart moment
  else
    -- Another instance owns this period, or it already ran.
    return { claimed := false, periodStart := some periodStart }

end MembershipMonitor

end VipChannel

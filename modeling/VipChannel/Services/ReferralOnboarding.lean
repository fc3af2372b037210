/-
  VipChannel.Services.ReferralOnboarding

  A UID arrives, and a member either gets in or is told why
  (services/referral_onboarding.py).

  `submitUid` is cut where the source returns early; each part takes up what the
  previous one found out.  The assignments to one entity are a function on its row,
  used both for the statement that writes it and for the entity in hand.
-/
import VipChannel.Persistence.Columns
import VipChannel.Services.InviteService
import VipChannel.Domain.Uid

namespace VipChannel

open Lib
open Program (perform raising)

def REFERRAL_PLAN_CODE : String := "REFERRAL_FREE"

inductive OnboardingOutcome where
  | invited
  | alreadyMember
  | invalidUid
  | uidClaimedByAnotherUser
  | notRegistered
  | insufficientBalance
  | providerUnavailable
  | notConfigured
  deriving DecidableEq

structure OnboardingResult where
  outcome : OnboardingOutcome
  inviteLink : Option String := none
  verdict : Option EligibilityVerdict := none
  uid : Option String := none
  deriving DecidableEq

/-- `config`'s thresholds as the eligibility rules take them. -/
def ReferralProgramConfig.rules (config : ReferralProgramConfig) : ReferralRules where
  minimumBalance := config.minimumBalance
  minimumTradesPerPeriod := config.minimumTradesPerPeriod
  tradePeriodDays := config.tradePeriodDays

/-- The provider's answer, or `none` when it is unavailable; any other exception goes
    on. -/
def checkUser (uid : String) : App (Option ReferralCheck) :=
  (some <$> perform (Op.validateUser uid) : App (Option ReferralCheck)).tryCatch fun e =>
    if e.cls = .providerUnavailableError then pure none else throw e

/-- `a or b` on optional texts. -/
def textOr : Option String → Option String → Option String
  | none, b => b
  | some a, b => if a = "" then b else some a

namespace ReferralOnboardingService

/-- Display names change; keep the latest without losing the row. -/
def renameUser (username firstName : Option String) (user : TelegramUser) : TelegramUser :=
  { user with
    username := textOr username user.username
    firstName := textOr firstName user.firstName }

def ensureUser (tenantId : TenantId) (telegramUserId : Int)
    (username firstName : Option String) : App TelegramUser := do
  match ← TelegramUserRepository.getByTelegramId tenantId telegramUserId with
  | none =>
    let id ← uuid4
    saveNew .telegramUsers (fun r => r.id == id)
      { id, tenantId, telegramUserId, username, firstName }
  | some user =>
    update .telegramUsers (fun r => r.id == user.id) (renameUser username firstName)
    return renameUser username firstName user

def ensureSubscription (tenantId : TenantId) (userId : RowId) (market : Market) :
    App Subscription := do
  match ← SubscriptionRepository.getActiveForUser tenantId userId market with
  | some existing =>
    let startsAt ← nowOr existing.startsAt
    let activate : Subscription → Subscription := fun r =>
      { r with status := .active, startsAt := some startsAt }
    update .subscriptions (fun r => r.id == existing.id) activate
    return activate existing
  | none =>
    let startsAt ← utcnow
    let id ← uuid4
    -- No endsAt: a referral entitlement runs while the member stays eligible.
    saveNew .subscriptions (fun r => r.id == id)
      { id, tenantId, userId, market, accessType := .referral, planCode := REFERRAL_PLAN_CODE
        status := .active, startsAt := some startsAt }

/-- A returning member starts clean: the old revocation must not count towards the
    warning budget of the new spell. -/
def reinstate (subscriptionId : RowId) (membership : VIPMembership) : VIPMembership :=
  if membership.status = .revoked ∨ membership.status = .expired then
    { membership with
      subscriptionId := some subscriptionId
      status := .pending
      revokedAt := none
      revocationReason := none
      warningsSent := 0
      lastWarningAt := none }
  else
    { membership with subscriptionId := some subscriptionId }

def ensureMembership (tenantId : TenantId) (userId channelId subscriptionId : RowId) :
    App VIPMembership := do
  match ← MembershipRepository.getForUserAndChannel tenantId userId channelId with
  | some existing =>
    update .vipMemberships (fun r => r.id == existing.id) (reinstate subscriptionId)
    return reinstate subscriptionId existing
  | none =>
    let id ← uuid4
    let createdAt ← utcnow
    saveNew .vipMemberships (fun r => r.id == id)
      { id, createdAt, tenantId, userId, channelId, subscriptionId := some subscriptionId
        status := .pending }

/-- What a check writes on the account.  The balance is overwritten only when the
    provider told one, with what `balanceColumn` has let through. -/
def recordCheck (check : Option ReferralCheck) (verdict : EligibilityVerdict)
    (checkedAt : DateTime) (account : ReferralAccount) : ReferralAccount :=
  { account with
    complianceState := verdict.complianceState
    lastCheckedAt := some checkedAt
    lastKnownBalance := match check with
      | some _ => (numericColumn verdict.balance).toOption
      | none => account.lastKnownBalance }

/-- The flush of the account fails where `last_known_balance` has no room for the
    balance. -/
def balanceColumn (check : Option ReferralCheck) (verdict : EligibilityVerdict) :
    Except PyError Unit :=
  match check with
  | some _ => (numericColumn verdict.balance).map fun _ => ()
  | none => .ok ()

/-- `save` of `claimed or ReferralAccount(…)`, with the assignments `change` made to
    it. -/
def saveAccount (tenantId : TenantId) (userId : RowId) (providerType : ProviderType)
    (market : Market) (uid : String) (claimed : Option ReferralAccount)
    (change : ReferralAccount → ReferralAccount) : App ReferralAccount := do
  match claimed with
  | some account =>
    update .referralAccounts (fun r => r.id == account.id) change
    saveLoaded .referralAccounts fun r => r.id == account.id
  | none =>
    let id ← uuid4
    saveNew .referralAccounts (fun r => r.id == id)
      (change { id, tenantId, userId, providerType, market, uid })

/-- The last part: the account qualifies. -/
def grant (ttl : TimeDelta) (tenantId : TenantId) (userId : RowId) (market : Market)
    (uid : String) (channel : TelegramChannel) (verdict : EligibilityVerdict) :
    App OnboardingResult := do
  let subscription ← ensureSubscription tenantId userId market
  let membership ← ensureMembership tenantId userId channel.id subscription.id
  let alreadyIn := membership.status = .active
  let (invite, membership) ← InviteService.issue ttl tenantId membership channel none
  let _ ← saveLoaded .vipMemberships fun r => r.id == membership.id
  return {
    outcome := if alreadyIn then .alreadyMember else .invited
    inviteLink := some invite.link
    verdict := some verdict
    uid := some uid }

/-- The provider has answered, or not: record the verdict and act on it. -/
def settle (ttl : TimeDelta) (tenantId : TenantId) (providerType : ProviderType)
    (market : Market) (uid : String) (channel : TelegramChannel) (userId : RowId)
    (claimed : Option ReferralAccount) (check : Option ReferralCheck)
    (verdict : EligibilityVerdict) : App OnboardingResult := do
  let checkedAt ← utcnow
  let save := fun change => do
    raising (balanceColumn check verdict)
    saveAccount tenantId userId providerType market uid claimed change
  if verdict.reason = .providerUnavailable then
    -- The attempt is recorded, but the user is neither rejected nor blamed.
    let _ ← save fun account =>
      { recordCheck check verdict checkedAt account with status := .unverified }
    return { outcome := .providerUnavailable, verdict := some verdict, uid := some uid }
  else if !verdict.eligible then
    let _ ← save fun account =>
      { recordCheck check verdict checkedAt account with
        status := .rejected
        rejectionReason := some verdict.reason.value }
    return {
      outcome := if verdict.reason = .notRegistered then .notRegistered
        else .insufficientBalance
      verdict := some verdict
      uid := some uid }
  else
    let verifiedAt ← utcnow
    let _ ← save fun account =>
      { recordCheck check verdict checkedAt account with
        status := .verified
        rejectionReason := none
        verifiedAt := some verifiedAt }
    grant ttl tenantId userId market uid channel verdict

/-- The market is set up: identify the user, refuse a UID that is someone else's, and
    ask the provider. -/
def enroll (ttl : TimeDelta) (tenantId : TenantId) (providerType : ProviderType)
    (telegramUserId : Int) (market : Market) (uid : String)
    (username firstName : Option String) (config : ReferralProgramConfig)
    (channel : TelegramChannel) : App OnboardingResult := do
  let user ← ensureUser tenantId telegramUserId username firstName
  let claimed ← ReferralAccountRepository.getByUid tenantId providerType uid
  if claimed.any fun account => account.userId != user.id then
    -- One exchange account backs one member.
    return { outcome := .uidClaimedByAnotherUser, uid := some uid }
  else
    let check ← checkUser uid
    let verdict ← raising (evaluateReferral check config.rules false)
    settle ttl tenantId providerType market uid channel user.id claimed check verdict

def submitUid (ttl : TimeDelta) (providerType : ProviderType) (tenantId : TenantId)
    (telegramUserId : Int) (market : Market) (rawUid : String)
    (username firstName : Option String) : App OnboardingResult := do
  let uid := normalizeUid rawUid
  if !isValidBitunixUid uid then
    -- Checked before anything is written or any API is called.
    return { outcome := .invalidUid, uid := some uid }
  else
    let config ← ReferralProgramConfigRepository.getFor tenantId providerType market
    let channel ← TelegramChannelRepository.getForMarket tenantId market
    match config, channel with
    | some config, some channel =>
      if !config.isActive then
        return { outcome := .notConfigured, uid := some uid }
      else
        enroll ttl tenantId providerType telegramUserId market uid username firstName
          config channel
    | _, _ => return { outcome := .notConfigured, uid := some uid }

end ReferralOnboardingService

end VipChannel

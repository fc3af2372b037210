/-
  VipChannel.Persistence.Models

  The tables of a tenant (adapters/persistence/models) and their unique constraints.  A row
  has the columns some modelled function reads or writes; a primary key is kept where
  another row or an update refers to it.  `Table` indexes the row types, so that one `Store`
  holds the database.
-/
import VipChannel.Errors
import VipChannel.Domain.Enums
import VipChannel.Lib.Store

namespace VipChannel

open Lib

abbrev TenantId := Nat

/-- A surrogate key (`default=uuid4`). -/
abbrev RowId := Nat

/-- What Telegram identifies and names a user by is far shorter than the columns are wide
    (`BigInteger`, `String(100)`, `String(200)`), and so are its invite links. -/
structure TelegramUser where
  id : RowId
  tenantId : TenantId
  telegramUserId : Int
  pendingMarket : Option Market := none
  username : Option String
  firstName : Option String
  deriving DecidableEq

structure ReferralAccount where
  id : RowId
  tenantId : TenantId
  userId : RowId
  providerType : ProviderType
  market : Market
  uid : String
  status : ReferralAccountStatus := .unverified
  complianceState : ComplianceState := .verificationPending
  lastKnownBalance : Option Decimal := none
  lastCheckedAt : Option DateTime := none
  verifiedAt : Option DateTime := none
  rejectionReason : Option String := none
  deriving DecidableEq

structure Subscription where
  id : RowId
  tenantId : TenantId
  userId : RowId
  market : Market
  accessType : AccessType
  planCode : String
  status : SubscriptionStatus
  startsAt : Option DateTime
  endsAt : Option DateTime := none
  deriving DecidableEq

structure VIPMembership where
  id : RowId
  createdAt : DateTime
  tenantId : TenantId
  userId : RowId
  channelId : RowId
  subscriptionId : Option RowId
  status : MembershipStatus := .pending
  inviteLink : Option String := none
  inviteIssuedAt : Option DateTime := none
  joinedAt : Option DateTime := none
  revokedAt : Option DateTime := none
  revocationReason : Option String := none
  warningsSent : Int := 0
  lastWarningAt : Option DateTime := none
  deriving DecidableEq

structure TradingActivitySnapshot where
  tenantId : TenantId
  referralAccountId : RowId
  periodStart : DateTime
  periodEnd : DateTime
  qualifyingTrades : Int
  balance : Option Decimal
  stillUnderReferral : Option Bool
  providerState : ComplianceState
  deriving DecidableEq

structure ReferralProgramConfig where
  tenantId : TenantId
  providerType : ProviderType
  market : Market
  referralLink : String
  ibId : Option String := none
  minimumBalance : Decimal := .ofInt 300
  minimumTradesPerPeriod : Int := 1
  tradePeriodDays : Int := 7
  complianceGracePeriodDays : Int := 30
  isActive : Bool := true
  deriving DecidableEq

structure TelegramChannel where
  id : RowId
  tenantId : TenantId
  market : Market
  chatId : Int
  title : Option String := none
  isActive : Bool := true
  deriving DecidableEq

structure JobExecution where
  tenantId : TenantId
  jobName : String
  periodStart : DateTime
  state : JobRunState
  startedAt : Option DateTime
  finishedAt : Option DateTime := none
  processed : Int := 0
  warned : Int := 0
  revoked : Int := 0
  skippedUnavailable : Int := 0
  error : Option String := none
  deriving DecidableEq

structure ProviderCredential where
  id : RowId
  tenantId : TenantId
  providerType : ProviderType
  credentialName : String
  encryptedSecret : String
  lastFour : Option String := none
  verifiedAt : Option DateTime := none
  deriving DecidableEq

structure TelegramBotConfig where
  tenantId : TenantId
  credentialId : RowId
  botUsername : Option String := none
  verifiedAt : Option DateTime := none
  deriving DecidableEq

/-- Money received. -/
structure PaymentRecord where
  id : RowId
  tenantId : TenantId
  userId : RowId
  txHash : String
  amount : Decimal
  currency : String
  status : String
  deriving DecidableEq

/-- Which tenant a webhook path belongs to.  Not `TenantScoped`, but for the lookup of a
    path every statement on it names its tenant. -/
structure WebhookRoute where
  tenantId : TenantId
  token : String
  provider : String
  deriving DecidableEq

/-- The tables whose rows belong to a tenant. -/
inductive Table where
  | telegramUsers
  | referralAccounts
  | subscriptions
  | vipMemberships
  | tradingActivitySnapshots
  | referralProgramConfigs
  | telegramChannels
  | jobExecutions
  | providerCredentials
  | telegramBotConfigs
  | paymentRecords
  | webhookRoutes
  deriving DecidableEq

/-- `__tablename__`. -/
def Table.name : Table → String
  | telegramUsers => "telegram_users"
  | referralAccounts => "referral_accounts"
  | subscriptions => "subscriptions"
  | vipMemberships => "vip_memberships"
  | tradingActivitySnapshots => "trading_activity_snapshots"
  | referralProgramConfigs => "referral_program_configs"
  | telegramChannels => "telegram_channels"
  | jobExecutions => "job_executions"
  | providerCredentials => "provider_credentials"
  | telegramBotConfigs => "telegram_bot_configs"
  | paymentRecords => "payment_records"
  | webhookRoutes => "webhook_routes"

/-- The row type of a table. -/
abbrev Row : Table → Type
  | .telegramUsers => TelegramUser
  | .referralAccounts => ReferralAccount
  | .subscriptions => Subscription
  | .vipMemberships => VIPMembership
  | .tradingActivitySnapshots => TradingActivitySnapshot
  | .referralProgramConfigs => ReferralProgramConfig
  | .telegramChannels => TelegramChannel
  | .jobExecutions => JobExecution
  | .providerCredentials => ProviderCredential
  | .telegramBotConfigs => TelegramBotConfig
  | .paymentRecords => PaymentRecord
  | .webhookRoutes => WebhookRoute

/-- All tables of the tenants. -/
abbrev Database := Store Row

/-- The `tenant_id` column. -/
def rowTenant : (t : Table) → Row t → TenantId
  | .telegramUsers, r => r.tenantId
  | .referralAccounts, r => r.tenantId
  | .subscriptions, r => r.tenantId
  | .vipMemberships, r => r.tenantId
  | .tradingActivitySnapshots, r => r.tenantId
  | .referralProgramConfigs, r => r.tenantId
  | .telegramChannels, r => r.tenantId
  | .jobExecutions, r => r.tenantId
  | .providerCredentials, r => r.tenantId
  | .telegramBotConfigs, r => r.tenantId
  | .paymentRecords, r => r.tenantId
  | .webhookRoutes, r => r.tenantId

/-- Whether two rows of a table together violate its primary key or one of its unique
    constraints. -/
def clash : (t : Table) → Row t → Row t → Bool
  | .telegramUsers, r, s =>
    r.id = s.id ∨ (r.tenantId = s.tenantId ∧ r.telegramUserId = s.telegramUserId)
  | .referralAccounts, r, s =>
    r.id = s.id ∨
      (r.tenantId = s.tenantId ∧ r.providerType = s.providerType ∧ r.uid = s.uid)
  | .subscriptions, r, s => r.id = s.id
  | .vipMemberships, r, s =>
    r.id = s.id ∨
      (r.tenantId = s.tenantId ∧ r.userId = s.userId ∧ r.channelId = s.channelId)
  | .tradingActivitySnapshots, r, s =>
    r.tenantId = s.tenantId ∧ r.referralAccountId = s.referralAccountId ∧
      r.periodStart.utc = s.periodStart.utc
  | .referralProgramConfigs, r, s =>
    r.tenantId = s.tenantId ∧ r.providerType = s.providerType ∧ r.market = s.market
  | .telegramChannels, r, s =>
    r.id = s.id ∨
      (r.tenantId = s.tenantId ∧ r.market = s.market) ∨
      (r.tenantId = s.tenantId ∧ r.chatId = s.chatId)
  | .jobExecutions, r, s =>
    r.tenantId = s.tenantId ∧ r.jobName = s.jobName ∧ r.periodStart.utc = s.periodStart.utc
  | .providerCredentials, r, s =>
    r.id = s.id ∨
      (r.tenantId = s.tenantId ∧ r.providerType = s.providerType ∧
        r.credentialName = s.credentialName)
  | .telegramBotConfigs, r, s => r.tenantId = s.tenantId
  | .paymentRecords, r, s => r.id = s.id
  | .webhookRoutes, r, s => r.token = s.token

/-- A row of the tenant registry, which is not tenant-scoped. -/
structure Tenant where
  id : TenantId
  isActive : Bool := true

end VipChannel

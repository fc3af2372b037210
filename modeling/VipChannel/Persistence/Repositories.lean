/-
  VipChannel.Persistence.Repositories

  Tenant-scoped data access (adapters/persistence/repositories.py), and the few
  session statements the services issue themselves.

  A repository method is one statement.  An entity is the row it was loaded as;
  assigning to its attributes is an `update` of that row, `save` adds or keeps it,
  flushes, and reads it back.
-/
import VipChannel.Persistence.Session

namespace VipChannel

open Lib
open Program (perform raising)

/-- `utcnow()`. -/
def utcnow : App DateTime := perform Op.utcnow

/-- `now or utcnow()`. -/
def nowOr : Option DateTime → App DateTime
  | some now => pure now
  | none => utcnow

def uuid4 : App RowId := perform Op.uuid4

def flush : App Unit := perform Op.flush

def select (t : Table) (cond : Row t → Bool) : App (List (Row t)) :=
  perform (Op.select t cond)

def add (t : Table) (row : Row t) : App Unit := perform (Op.add t row)

def update (t : Table) (which : Row t → Bool) (change : Row t → Row t) : App Unit :=
  perform (Op.update t which change)

def multipleResultsFound : PyError :=
  ⟨.multipleResultsFound, "Multiple rows were found when one or none was required"⟩

/-- `session.refresh` of a row that is not there. -/
def couldNotRefresh : PyError :=
  ⟨.other "InvalidRequestError", "Could not refresh instance"⟩

/-- `result.scalar_one_or_none()`. -/
def scalarOneOrNone {α : Type} : List α → Except PyError (Option α)
  | [] => .ok none
  | [r] => .ok (some r)
  | _ => .error multipleResultsFound

def selectOneOrNone (t : Table) (cond : Row t → Bool) : App (Option (Row t)) := do
  raising (scalarOneOrNone (← select t cond))

/-- `session.refresh`: the row as the database now has it. -/
def refresh (t : Table) (which : Row t → Bool) : App (Row t) := do
  match ← select t which with
  | r :: _ => pure r
  | [] => throw couldNotRefresh

/-- `save` of a new entity. -/
def saveNew (t : Table) (which : Row t → Bool) (row : Row t) : App (Row t) := do
  add t row
  flush
  refresh t which

/-- `save` of an entity loaded before. -/
def saveLoaded (t : Table) (which : Row t → Bool) : App (Row t) := do
  flush
  refresh t which

/-! ## Users -/

namespace TelegramUserRepository

def getById (tenantId : TenantId) (entityId : RowId) : App (Option TelegramUser) :=
  selectOneOrNone .telegramUsers fun r => r.tenantId == tenantId && r.id == entityId

def getByTelegramId (tenantId : TenantId) (telegramUserId : Int) : App (Option TelegramUser) :=
  selectOneOrNone .telegramUsers fun r =>
    r.tenantId == tenantId && r.telegramUserId == telegramUserId

end TelegramUserRepository

/-! ## Referral accounts -/

namespace ReferralAccountRepository

/-- Used before enrolling a UID, so one exchange account backs one member. -/
def getByUid (tenantId : TenantId) (providerType : ProviderType) (uid : String) :
    App (Option ReferralAccount) :=
  selectOneOrNone .referralAccounts fun r =>
    r.tenantId == tenantId && r.providerType == providerType && r.uid == uid

def listForUser (tenantId : TenantId) (userId : RowId) : App (List ReferralAccount) :=
  select .referralAccounts fun r => r.tenantId == tenantId && r.userId == userId

end ReferralAccountRepository

/-! ## Subscriptions -/

namespace SubscriptionRepository

/-- `scalars().first()`: one of the user's subscriptions of the market, whatever its
    status. -/
def getActiveForUser (tenantId : TenantId) (userId : RowId) (market : Market) :
    App (Option Subscription) := do
  let rows ← select .subscriptions fun r =>
    r.tenantId == tenantId && r.userId == userId && r.market == market
  return rows.head?

end SubscriptionRepository

/-! ## Memberships -/

namespace MembershipRepository

def getForUserAndChannel (tenantId : TenantId) (userId channelId : RowId) :
    App (Option VIPMembership) :=
  selectOneOrNone .vipMemberships fun r =>
    r.tenantId == tenantId && r.userId == userId && r.channelId == channelId

def listByStatus (tenantId : TenantId) (statuses : List MembershipStatus) :
    App (List VIPMembership) :=
  select .vipMemberships fun r => r.tenantId == tenantId && statuses.contains r.status

end MembershipRepository

/-! ## A tenant's configuration -/

namespace TelegramChannelRepository

/-- The only sanctioned way to learn a chat id. -/
def getForMarket (tenantId : TenantId) (market : Market) : App (Option TelegramChannel) :=
  selectOneOrNone .telegramChannels fun r =>
    r.tenantId == tenantId && r.market == market && r.isActive

end TelegramChannelRepository

namespace ReferralProgramConfigRepository

def getFor (tenantId : TenantId) (providerType : ProviderType) (market : Market) :
    App (Option ReferralProgramConfig) :=
  selectOneOrNone .referralProgramConfigs fun r =>
    r.tenantId == tenantId && r.providerType == providerType && r.market == market

end ReferralProgramConfigRepository

namespace ProviderCredentialRepository

def getNamed (tenantId : TenantId) (providerType : ProviderType) (credentialName : String) :
    App (Option ProviderCredential) :=
  selectOneOrNone .providerCredentials fun r =>
    r.tenantId == tenantId && r.providerType == providerType &&
      r.credentialName == credentialName

end ProviderCredentialRepository

namespace TelegramBotConfigRepository

def get (tenantId : TenantId) : App (Option TelegramBotConfig) :=
  selectOneOrNone .telegramBotConfigs fun r => r.tenantId == tenantId

end TelegramBotConfigRepository

end VipChannel

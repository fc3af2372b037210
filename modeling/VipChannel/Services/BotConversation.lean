/-
  VipChannel.Services.BotConversation

  The chat flow (services/bot_conversation.py): which message, which buttons, whether to
  run onboarding.
-/
import VipChannel.Services.ReferralOnboarding
import VipChannel.Domain.Messages

namespace VipChannel

open Lib
open Program (perform raising)

/-- `list_all`: at most 100 rows, whichever come first. -/
def listAll (t : Table) (tenantId : TenantId) : App (List (Row t)) := do
  return (← select t fun r => rowTenant t r == tenantId).take 100

def MARKET_CALLBACK_PREFIX : String := "market:"

def MARKET_LABELS : Market → String
  | .crypto => "کریپتو"
  | .forex => "فارکس"

/-- The handful of fields of an update that the flow uses. -/
structure IncomingUpdate where
  chatId : Int
  userId : Int
  text : Option String := none
  callbackData : Option String := none
  username : Option String := none
  firstName : Option String := none

/-- A button of an inline keyboard. -/
structure Button where
  text : String
  callbackData : String
  deriving DecidableEq

structure Reply where
  text : String
  replyMarkup : Option (List (List Button)) := none
  deriving DecidableEq

/-- An AssertionError. -/
def assertionError : PyError := ⟨.other "AssertionError", ""⟩

/-- Turn an outcome into words the member can act on. -/
def render (result : OnboardingResult) (referralLink : String) : Except PyError String :=
  match result.outcome with
  | .invited => .ok (Messages.INVITED (result.inviteLink.getD "None"))
  | .alreadyMember => .ok (Messages.ALREADY_MEMBER (result.inviteLink.getD "None"))
  | .invalidUid => .ok Messages.INVALID_UID
  | .uidClaimedByAnotherUser => .ok Messages.UID_CLAIMED
  | .notRegistered => .ok (Messages.NOT_REGISTERED referralLink)
  | .insufficientBalance =>
    match result.verdict with
    | none => .error assertionError
    | some verdict => do
      let minimum ← Messages.formatAmount (← trap (verdict.balance.add verdict.shortfall))
      let balance ← Messages.formatAmount verdict.balance
      let shortfall ← Messages.formatAmount verdict.shortfall
      return Messages.INSUFFICIENT_BALANCE minimum balance shortfall
  | .providerUnavailable => .ok Messages.PROVIDER_UNAVAILABLE
  | .notConfigured => .ok Messages.NOT_CONFIGURED

namespace BotConversation

/-- `_available_markets`: a market is offered only when it is completely set up. -/
def availableMarkets (providerType : ProviderType) (tenantId : TenantId) : App (List Market) := do
  let configs ← listAll .referralProgramConfigs tenantId
  let channels ← listAll .telegramChannels tenantId
  -- The set, sorted by the values.
  return [Market.crypto, Market.forex].filter fun market =>
    configs.any (fun c => c.isActive && c.providerType == providerType && c.market == market) &&
      channels.any fun c => c.isActive && c.market == market

def ensureUser (tenantId : TenantId) (update : IncomingUpdate) : App TelegramUser := do
  match ← TelegramUserRepository.getByTelegramId tenantId update.userId with
  | none =>
    let id ← uuid4
    saveNew .telegramUsers (fun r => r.id == id)
      { id, tenantId, telegramUserId := update.userId, username := update.username
        firstName := update.firstName }
  | some user => return user

def offerReferralLink (providerType : ProviderType) (tenantId : TenantId)
    (incoming : IncomingUpdate) (market : Market) : App (List Reply) := do
  match ← ReferralProgramConfigRepository.getFor tenantId providerType market with
  | none => return [{ text := Messages.NOT_CONFIGURED }]
  | some config =>
    if !config.isActive then
      return [{ text := Messages.NOT_CONFIGURED }]
    else
      let user ← ensureUser tenantId incoming
      -- Remembered in the database: a redeploy must not lose the choice.
      update .telegramUsers (fun r => r.id == user.id) fun r =>
        { r with pendingMarket := some market }
      return [{ text := Messages.WELCOME (incoming.firstName.getD "") config.referralLink }]

def start (providerType : ProviderType) (tenantId : TenantId) (incoming : IncomingUpdate) :
    App (List Reply) := do
  match ← availableMarkets providerType tenantId with
  | [] => return [{ text := Messages.NOT_CONFIGURED }]
  | [market] => offerReferralLink providerType tenantId incoming market
  | markets =>
    let buttons := markets.map fun market =>
      [{ text := MARKET_LABELS market, callbackData := MARKET_CALLBACK_PREFIX ++ market.value }]
    return [{ text := Messages.CHOOSE_MARKET, replyMarkup := some buttons }]

/-- The market is known: submit the UID and answer. -/
def submit (ttl : TimeDelta) (providerType : ProviderType) (tenantId : TenantId)
    (incoming : IncomingUpdate) (market : Market) (uid : String) : App (List Reply) := do
  let config ← ReferralProgramConfigRepository.getFor tenantId providerType market
  let referralLink := match config with
    | some config => config.referralLink
    | none => ""
  let result ← ReferralOnboardingService.submitUid ttl providerType tenantId incoming.userId
    market uid incoming.username incoming.firstName
  return [{ text := ← raising (render result referralLink) }]

/-- `_handle_uid`. -/
def handleUid (ttl : TimeDelta) (providerType : ProviderType) (tenantId : TenantId)
    (incoming : IncomingUpdate) (rawText : String) : App (List Reply) := do
  let uid := normalizeUid rawText
  if !isValidBitunixUid uid then
    return [{ text := Messages.INVALID_UID }]
  else
    let user ← TelegramUserRepository.getByTelegramId tenantId incoming.userId
    match user.bind (·.pendingMarket) with
    | some market => submit ttl providerType tenantId incoming market uid
    | none =>
      match ← availableMarkets providerType tenantId with
      | [market] => submit ttl providerType tenantId incoming market uid
      -- A UID arrived before a market was chosen: ask rather than guess.
      | _ => start providerType tenantId incoming

/-- `update.callback_data`, where it is a market's button: what follows the prefix. -/
def callbackMarket (callbackData : Option String) : Option String :=
  match callbackData with
  | none => none
  | some data =>
    if MARKET_CALLBACK_PREFIX.toList.isPrefixOf data.toList then
      some (String.ofList (data.toList.drop MARKET_CALLBACK_PREFIX.length))
    else none

def handle (ttl : TimeDelta) (providerType : ProviderType) (tenantId : TenantId)
    (incoming : IncomingUpdate) : App (List Reply) :=
  match callbackMarket incoming.callbackData with
  | some raw =>
    match Market.ofValue? raw with
    | none => return [{ text := Messages.NOT_CONFIGURED }]
    | some market => offerReferralLink providerType tenantId incoming market
  | none =>
    let text := strip (incoming.text.getD "").toList
    if "/start".toList.isPrefixOf text then
      start providerType tenantId incoming
    else if text ≠ [] ∧ isDigits (normalizeUid (String.ofList text)).toList then
      handleUid ttl providerType tenantId incoming (String.ofList text)
    else
      return [{ text := Messages.ASK_FOR_UID }]

end BotConversation

end VipChannel

/-
  VipChannel.Web.Configuration

  A tenant's configuration as its owner sees it: secrets by name, programs and channels by
  market, the bot, and the path of its webhook.

  The tables hold it under unique keys (`configurationOf`).  A request that is answered puts
  one value at one key, whatever was there (`Configuration.accept`); the services look values
  up (`Configuration.referralProvider`, `Configuration.telegram`).
-/
import VipChannel.Lib.KeyedRows
import VipChannel.Runs.Isolation
import VipChannel.Web.Verification

namespace VipChannel

open Lib
open Program (perform raising)

/-! ## The configuration -/

/-- A secret that is kept, and what it opens to. -/
structure KeptSecret where
  opened : Except PyError String
  lastFour : Option String
  verifiedAt : Option DateTime

/-- What a program asks for. -/
structure ProgramTerms where
  referralLink : String
  ibId : Option String
  minimumBalance : Decimal
  minimumTradesPerPeriod : Int
  tradePeriodDays : Int
  complianceGracePeriodDays : Int
  isActive : Bool

/-- Where a market's members are sent. -/
structure ChannelTerms where
  chatId : Int
  title : Option String
  isActive : Bool

/-- What is known of the bot. -/
structure BotTerms where
  username : Option String
  verifiedAt : Option DateTime

@[ext] structure Configuration where
  secrets : ProviderType × String → Option KeptSecret
  programs : ProviderType × Market → Option ProgramTerms
  channels : Market → Option ChannelTerms
  bot : Option BotTerms
  webhookPath : Option String

/-! ## As the tables have it -/

def secretKey (r : ProviderCredential) : TenantId × ProviderType × String :=
  (r.tenantId, r.providerType, r.credentialName)

def programKey (r : ReferralProgramConfig) : TenantId × ProviderType × Market :=
  (r.tenantId, r.providerType, r.market)

def channelPlace (r : TelegramChannel) : TenantId × Market := (r.tenantId, r.market)

def botKey (r : TelegramBotConfig) : TenantId := r.tenantId

def routeKey (r : WebhookRoute) : TenantId × String := (r.tenantId, r.provider)

def keptSecret (key : EncryptionKey) (r : ProviderCredential) : KeptSecret where
  opened := decryptSecret key r.encryptedSecret
  lastFour := r.lastFour
  verifiedAt := r.verifiedAt

def programTerms (r : ReferralProgramConfig) : ProgramTerms where
  referralLink := r.referralLink
  ibId := r.ibId
  minimumBalance := r.minimumBalance
  minimumTradesPerPeriod := r.minimumTradesPerPeriod
  tradePeriodDays := r.tradePeriodDays
  complianceGracePeriodDays := r.complianceGracePeriodDays
  isActive := r.isActive

def channelTerms (r : TelegramChannel) : ChannelTerms where
  chatId := r.chatId
  title := r.title
  isActive := r.isActive

def botTerms (r : TelegramBotConfig) : BotTerms where
  username := r.botUsername
  verifiedAt := r.verifiedAt

def pathOf (r : WebhookRoute) : String := "/api/v1/telegram/" ++ r.token

/-- The configuration of each tenant. -/
def configurationOf (key : EncryptionKey) (d : Database) (A : TenantId) : Configuration where
  secrets name := valueAt secretKey (keptSecret key) (d .providerCredentials) (A, name)
  programs place := valueAt programKey programTerms (d .referralProgramConfigs) (A, place)
  channels market := valueAt channelPlace channelTerms (d .telegramChannels) (A, market)
  bot := valueAt botKey botTerms (d .telegramBotConfigs) A
  webhookPath := valueAt routeKey pathOf (d .webhookRoutes) (A, "TELEGRAM")

/-! ## What becomes of it -/

namespace Configuration

variable (c : Configuration)

def putSecret (name : ProviderType × String) (s : KeptSecret) : Configuration :=
  { c with secrets := Function.update c.secrets name (some s) }

def putProgram (place : ProviderType × Market) (terms : ProgramTerms) : Configuration :=
  { c with programs := Function.update c.programs place (some terms) }

def putChannel (market : Market) (terms : ChannelTerms) : Configuration :=
  { c with channels := Function.update c.channels market (some terms) }

/-- What an operation that is answered makes of its tenant's configuration. -/
def accept : Operation → Response → Configuration
  | .upsertCredential payload, _ =>
    c.putSecret (payload.providerType, payload.credentialName)
      ⟨.ok payload.secret, some (lastFour payload.secret), none⟩
  | .upsertReferralConfig payload, _ =>
    -- The columns keep what they have room for, and round the balance.
    match Admin.programColumns payload with
    | .ok stored => c.putProgram (payload.providerType, payload.market) { stored with }
    | .error _ => c
  | .upsertChannel payload, _ =>
    match Admin.channelColumns payload with
    | .ok stored => c.putChannel payload.market { stored with }
    | .error _ => c
  | .upsertBot payload, .bot response =>
    -- A path that was given out stays.
    { c.putSecret (.telegram, TELEGRAM_BOT_TOKEN)
        ⟨.ok payload.botToken, some (lastFour payload.botToken), response.verifiedAt⟩ with
      bot := some ⟨response.botUsername, response.verifiedAt⟩
      webhookPath := c.webhookPath.or response.webhookPath }
  | _, _ => c

/-! ### What the services look up -/

def secret (providerType : ProviderType) (name : String) : Except PyError String :=
  match c.secrets (providerType, name) with
  | none => .error (missingCredential
      ("tenant has no " ++ providerType.value ++ " credential named '" ++ name ++ "'"))
  | some s => s.opened

def referralProvider (providerType : ProviderType) : Except PyError BitunixCredentials :=
  if providerType = .bitunix then do
    let apiKey ← c.secret providerType BITUNIX_API_KEY
    let apiSecret ← c.secret providerType BITUNIX_API_SECRET
    return { apiKey, apiSecret }
  else
    .error (missingCredential ("no referral adapter is implemented for " ++ providerType.value))

def telegram : Except PyError String :=
  match c.bot with
  | none => .error (missingCredential "tenant has not configured a Telegram bot")
  | some _ => c.secret .telegram TELEGRAM_BOT_TOKEN

end Configuration

end VipChannel

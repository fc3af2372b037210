/-
  VipChannel.Web.Admin

  The admin surface (adapters/web/routers/admin.py): a tenant's credentials, its referral
  programs, its bot, and the check of all of them.  The channels are in
  VipChannel.Web.AdminChannels.

  Requests are taken as validated; a response has the columns that the rows of
  VipChannel.Persistence.Models have.
-/
import VipChannel.Persistence.Columns
import VipChannel.Services.BotConversation
import VipChannel.Services.ProviderFactory
import VipChannel.Web.AdminChannels

namespace VipChannel

open Lib
open Program (perform raising)

structure CredentialUpsertRequest where
  providerType : ProviderType
  credentialName : String
  secret : String

structure CredentialResponse where
  id : RowId
  providerType : ProviderType
  credentialName : String
  lastFour : Option String
  verifiedAt : Option DateTime

structure ReferralConfigRequest where
  providerType : ProviderType := .bitunix
  market : Market := .crypto
  referralLink : String
  ibId : Option String := none
  minimumBalance : Decimal := .ofInt 300
  minimumTradesPerPeriod : Int := 1
  tradePeriodDays : Int := 7
  complianceGracePeriodDays : Int := 30
  isActive : Bool := true

structure BotConfigRequest where
  botToken : String

structure BotConfigResponse where
  botUsername : Option String
  tokenLastFour : Option String
  verifiedAt : Option DateTime
  webhookPath : Option String := none

/-- The username is as Telegram gave it. -/
structure IntegrationCheckResponse where
  botOk : Bool
  botUsername : Json := .null
  referralOk : Bool := false
  channelsChecked : List Market := []
  problems : List String := []

def httpException (status : Nat) (detail : String) : PyError :=
  ⟨.other "HTTPException", toString status ++ ": " ++ detail⟩

namespace Admin

/-! ## Credentials -/

/-- Rotating a key invalidates whatever was verified with it. -/
def rotated (ciphertext secret : String) (credential : ProviderCredential) :
    ProviderCredential :=
  { credential with
    encryptedSecret := ciphertext
    lastFour := some (lastFour secret)
    verifiedAt := none }

/-- The columns have room for the secret's token, and for its last characters. -/
def SecretFits (secret : String) : Prop :=
  fernetLength secret ≤ 4096 ∧ HasRoom 4 (lastFour secret)

instance (secret : String) : Decidable (SecretFits secret) :=
  inferInstanceAs (Decidable (_ ∧ _))

def secretColumns (secret : String) : Except PyError Unit :=
  if SecretFits secret then .ok () else .error stringDataError

/-- `_store_secret`. -/
def storeSecret (env : EncryptionKey) (tenantId : TenantId) (providerType : ProviderType)
    (name secret : String) : App ProviderCredential := do
  -- A name with a NUL is not even looked up.
  let _ ← raising (stringColumn 100 name)
  let existing ← ProviderCredentialRepository.getNamed tenantId providerType name
  -- A misconfigured server must not fall back to storing plaintext.
  let ciphertext ← (encryptSecret env secret).tryCatch fun e =>
    if e.cls = .credentialEncryptionError then throw (httpException 503 e.text) else throw e
  -- The flush sends the token, which is longer than the secret, to a column of 4096.
  raising (secretColumns secret)
  match existing with
  | some existing =>
    update .providerCredentials (fun r => r.id == existing.id) (rotated ciphertext secret)
    return rotated ciphertext secret existing
  | none =>
    let id ← uuid4
    saveNew .providerCredentials (fun r => r.id == id)
      { id, tenantId, providerType, credentialName := name, encryptedSecret := ciphertext
        lastFour := some (lastFour secret) }

/-- The value is never returned. -/
def credentialResponse (record : ProviderCredential) : CredentialResponse where
  id := record.id
  providerType := record.providerType
  credentialName := record.credentialName
  lastFour := record.lastFour
  verifiedAt := record.verifiedAt

def upsertCredential (env : EncryptionKey) (tenantId : TenantId)
    (payload : CredentialUpsertRequest) : App CredentialResponse := do
  let record ← storeSecret env tenantId payload.providerType payload.credentialName payload.secret
  flush
  return credentialResponse record

def listCredentials (tenantId : TenantId) : App (List CredentialResponse) := do
  return (← listAll .providerCredentials tenantId).map credentialResponse

/-! ## Referral programs -/

/-- The request as the columns keep it. -/
def programColumns (payload : ReferralConfigRequest) : Except PyError ReferralConfigRequest := do
  let referralLink ← stringColumn 500 payload.referralLink
  let ibId ← stringColumn? 100 payload.ibId
  let minimumBalance ← numericColumn payload.minimumBalance
  let minimumTradesPerPeriod ← integerColumn 32 payload.minimumTradesPerPeriod
  let tradePeriodDays ← integerColumn 32 payload.tradePeriodDays
  let complianceGracePeriodDays ← integerColumn 32 payload.complianceGracePeriodDays
  return { payload with
    referralLink, ibId, minimumBalance, minimumTradesPerPeriod, tradePeriodDays
    complianceGracePeriodDays }

/-- The assignments of the request to the program. -/
def configureProgram (payload : ReferralConfigRequest) (config : ReferralProgramConfig) :
    ReferralProgramConfig :=
  { config with
    referralLink := payload.referralLink
    ibId := payload.ibId
    minimumBalance := payload.minimumBalance
    minimumTradesPerPeriod := payload.minimumTradesPerPeriod
    tradePeriodDays := payload.tradePeriodDays
    complianceGracePeriodDays := payload.complianceGracePeriodDays
    isActive := payload.isActive }

/-- The row a request is about. -/
def isProgram (tenantId : TenantId) (payload : ReferralConfigRequest)
    (config : ReferralProgramConfig) : Bool :=
  config.tenantId == tenantId && config.providerType == payload.providerType &&
    config.market == payload.market

def upsertReferralConfig (tenantId : TenantId) (payload : ReferralConfigRequest) :
    App ReferralProgramConfig := do
  match ← ReferralProgramConfigRepository.getFor tenantId payload.providerType
    payload.market with
  | some _ => pure ()
  | none =>
    let referralLink ← raising (stringColumn 500 payload.referralLink)
    let _ ← saveNew .referralProgramConfigs (isProgram tenantId payload)
      { tenantId, providerType := payload.providerType, market := payload.market, referralLink }
  -- The flush sends the assignments to columns that may have no room for them.
  let stored ← raising (programColumns payload)
  update .referralProgramConfigs (isProgram tenantId payload) (configureProgram stored)
  -- Refresh so the response carries the database's canonical form.
  saveLoaded .referralProgramConfigs (isProgram tenantId payload)

/-! ## Channels -/

def listChannels (tenantId : TenantId) : App (List TelegramChannel) :=
  listAll .telegramChannels tenantId

/-! ## The bot -/

/-- `_ensure_webhook_route`: one stable, unguessable path per tenant. -/
def ensureWebhookRoute (tenantId : TenantId) : App String := do
  match ← selectOneOrNone .webhookRoutes fun r =>
    r.tenantId == tenantId && r.provider == "TELEGRAM" with
  | some existing => return existing.token
  | none =>
    let token ← perform Op.tokenUrlsafe
    add .webhookRoutes { tenantId, token, provider := "TELEGRAM" }
    flush
    return token

/-- Whom the token belongs to, and when it said so; none when it did not. -/
def verifyBot (env : EncryptionKey) (tenantId : TenantId) : App (Option (Json × DateTime)) :=
  (do
    let botToken ← ProviderFactory.telegram env tenantId
    let identity ← TelegramBotProvider.getMe botToken
    let verifiedAt ← utcnow
    return some (identity.username, verifiedAt) : App (Option (Json × DateTime))).tryCatch fun e =>
      if e.cls = .providerUnavailableError ∨ e.cls = .missingCredentialError then pure none
      else throw e

/-- What the column keeps of a username, which should be a text. -/
def usernameColumn : Json → Except PyError (Option String)
  | .null => .ok none
  | .str username => (stringColumn 100 username).map some
  | _ => .error ⟨.databaseError, "expected str"⟩

def isBotOf (tenantId : TenantId) (config : TelegramBotConfig) : Bool :=
  config.tenantId == tenantId

/-- Write down what became of the verification, and answer. -/
def recordBot (tenantId : TenantId) (credential : ProviderCredential) (token : String)
    (verified : Option (Json × DateTime)) : App BotConfigResponse := do
  let botUsername ← raising (usernameColumn ((verified.map (·.1)).getD .null))
  let verifiedAt := verified.map (·.2)
  update .telegramBotConfigs (isBotOf tenantId) fun r => { r with botUsername, verifiedAt }
  match verifiedAt with
  | some at_ =>
    update .providerCredentials (fun r => r.id == credential.id) fun r =>
      { r with verifiedAt := some at_ }
  | none => pure ()
  flush
  return {
    botUsername
    tokenLastFour := credential.lastFour
    verifiedAt
    webhookPath := some ("/api/v1/telegram/" ++ token) }

/-- An outage does not block saving: the key itself may be fine. -/
def upsertBot (env : EncryptionKey) (tenantId : TenantId) (payload : BotConfigRequest) :
    App BotConfigResponse := do
  let credential ← storeSecret env tenantId .telegram TELEGRAM_BOT_TOKEN payload.botToken
  flush
  match ← TelegramBotConfigRepository.get tenantId with
  | some _ => pure ()
  | none =>
    let _ ← saveNew .telegramBotConfigs (isBotOf tenantId)
      { tenantId, credentialId := credential.id }
  update .telegramBotConfigs (isBotOf tenantId) fun r => { r with credentialId := credential.id }
  let token ← ensureWebhookRoute tenantId
  let verified ← verifyBot env tenantId
  recordBot tenantId credential token verified

/-! ## The check of an integration -/

/-- The bot's part: its name when the token works, the problem when it does not. -/
def checkBot (env : EncryptionKey) (tenantId : TenantId) : App (Except String Json) :=
  (do
    let botToken ← ProviderFactory.telegram env tenantId
    let identity ← TelegramBotProvider.getMe botToken
    return .ok identity.username : App (Except String Json)).tryCatch fun e =>
      if e.cls = .missingCredentialError then
        pure (.error "Telegram bot token is not configured")
      else if e.cls = .providerUnavailableError then
        pure (.error ("Telegram rejected the token: " ++ e.text))
      else throw e

/-- The exchange's part: the problem when its credentials are not there. -/
def checkReferral (env : EncryptionKey) (tenantId : TenantId) : App (Option String) :=
  (do
    let _ ← ProviderFactory.referralProvider env tenantId .bitunix
    return none : App (Option String)).tryCatch fun e =>
      if e.cls = .missingCredentialError then pure (some e.text) else throw e

/-- What is wrong with the channels and the programs. -/
def marketProblems (channelsChecked : List Market) (configs : List ReferralProgramConfig) :
    List String :=
  (if channelsChecked = [] then ["no active VIP channel is configured"] else []) ++
  (channelsChecked.filter fun market => !configs.any fun c => c.market == market && c.isActive).map
    fun market => "no referral programme configured for " ++ market.value

/-- Say plainly what is missing instead of failing later, silently. -/
def checkIntegration (env : EncryptionKey) (tenantId : TenantId) :
    App IntegrationCheckResponse := do
  let bot ← checkBot env tenantId
  let referral ← checkReferral env tenantId
  let channels ← listAll .telegramChannels tenantId
  let channelsChecked := (channels.filter (·.isActive)).map (·.market)
  let configs ← listAll .referralProgramConfigs tenantId
  return {
    botOk := bot.isOk
    botUsername := match bot with
      | .ok username => username
      | .error _ => .null
    referralOk := referral.isNone
    channelsChecked
    problems := (match bot with
      | .ok _ => []
      | .error problem => [problem]) ++ referral.toList ++ marketProblems channelsChecked configs }

end Admin

end VipChannel

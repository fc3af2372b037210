/-
  VipChannel.Services.ProviderFactory

  Building a tenant's providers from its stored credentials
  (services/provider_factory.py), and opening a stored secret (core/crypto.py).

  The Fernet cipher of the process is a parameter: `CREDENTIAL_ENCRYPTION_KEY` may be
  unset or malformed, and a token may fail to authenticate.
-/
import VipChannel.Persistence.Repositories

namespace VipChannel

open Lib
open Program (perform raising)

/-- `Fernet.decrypt`; `none` is an InvalidToken. -/
abbrev Fernet := String → Option String

/-- What `CREDENTIAL_ENCRYPTION_KEY` holds. -/
inductive EncryptionKey where
  | unset
  | malformed
  | key (fernet : Fernet)

/-- `_cipher()`. -/
def cipher : EncryptionKey → Except PyError Fernet
  | .unset =>
    .error ⟨.credentialEncryptionError,
      "CREDENTIAL_ENCRYPTION_KEY is not set. Generate one with " ++
      "`python -c \"from cryptography.fernet import Fernet; " ++
      "print(Fernet.generate_key().decode())\"` and put it in the " ++
      "environment or your secret manager -- never in the database and " ++
      "never in the repository."⟩
  | .malformed =>
    .error ⟨.credentialEncryptionError,
      "CREDENTIAL_ENCRYPTION_KEY is not a valid Fernet key (32 url-safe base64-encoded bytes)."⟩
  | .key fernet => .ok fernet

def decryptSecret (env : EncryptionKey) (ciphertext : String) : Except PyError String := do
  match (← cipher env) ciphertext with
  | some plaintext => return plaintext
  | none =>
    throw ⟨.credentialEncryptionError,
      "stored credential could not be decrypted -- the encryption key has " ++
      "changed, or the value was tampered with"⟩

def encryptSecret (env : EncryptionKey) (plaintext : String) : App String :=
  if plaintext = "" then
    throw ⟨.credentialEncryptionError, "refusing to store an empty secret"⟩
  else do
    let _ ← raising (cipher env)
    perform (Op.encrypt plaintext)

/-- How long a secret's Fernet token is: version, time, initialization vector and MAC
    around the padded blocks of its UTF-8 bytes, in base64. -/
def fernetLength (plaintext : String) : Nat :=
  4 * ((57 + 16 * (plaintext.utf8ByteSize / 16 + 1) + 2) / 3)

/-- The only part of a secret that may ever be shown back. -/
def lastFour (plaintext : String) : String :=
  if 4 ≤ plaintext.length then
    String.ofList (plaintext.toList.drop (plaintext.length - 4))
  else ""

structure BitunixCredentials where
  apiKey : String
  apiSecret : String

def BITUNIX_API_KEY : String := "api_key"

def BITUNIX_API_SECRET : String := "api_secret"

def TELEGRAM_BOT_TOKEN : String := "bot_token"

def missingCredential (text : String) : PyError := ⟨.missingCredentialError, text⟩

namespace ProviderFactory

/-- `_secret`. -/
def secret (env : EncryptionKey) (tenantId : TenantId) (providerType : ProviderType)
    (name : String) : App String := do
  match ← ProviderCredentialRepository.getNamed tenantId providerType name with
  | none =>
    throw (missingCredential
      ("tenant has no " ++ providerType.value ++ " credential named '" ++ name ++ "'"))
  | some record => raising (decryptSecret env record.encryptedSecret)

def referralProvider (env : EncryptionKey) (tenantId : TenantId)
    (providerType : ProviderType) : App BitunixCredentials :=
  if providerType = .bitunix then do
    let apiKey ← secret env tenantId providerType BITUNIX_API_KEY
    let apiSecret ← secret env tenantId providerType BITUNIX_API_SECRET
    return { apiKey, apiSecret }
  else
    throw (missingCredential
      ("no referral adapter is implemented for " ++ providerType.value))

/-- The bot token. -/
def telegram (env : EncryptionKey) (tenantId : TenantId) : App String := do
  match ← TelegramBotConfigRepository.get tenantId with
  | none => throw (missingCredential "tenant has not configured a Telegram bot")
  | some _ => secret env tenantId .telegram TELEGRAM_BOT_TOKEN

end ProviderFactory

end VipChannel

/-
  VipChannel.Web.TelegramWebhook

  Telegram's entry point (adapters/web/routers/telegram_webhook.py): find the tenant of
  the path, run the flow in a transaction, send the replies.  Every path that returns
  answers 200.

  The update is taken as `parse_update` leaves it.
-/
import VipChannel.Services.BotConversation
import VipChannel.Jobs.Scheduler

namespace VipChannel

open Lib
open Program (perform raising)

namespace TelegramWebhook

/-- `except ProviderUnavailableError` around the sending of a message. -/
def deliver (chatId : Int) (text : String) : App Unit :=
  (TelegramBotProvider.sendMessage chatId text none).tryCatch fun e =>
    if e.cls = .providerUnavailableError then pure () else throw e

/-- `for reply in result.replies`. -/
def deliverAll (chatId : Int) : List Reply → App Unit
  | [] => pure ()
  | reply :: rest => do
    deliver chatId reply.text
    deliverAll chatId rest

/-- What the user is told. -/
def respond (chatId : Int) : Option (List Reply) → App Unit
  -- Answer rather than go silent.
  | none => deliver chatId Messages.PROVIDER_UNAVAILABLE
  | some replies => deliverAll chatId replies

/-- Build the tenant's providers; false when it is not fully configured. -/
def configured (env : EncryptionKey) (tenantId : TenantId) : App Bool :=
  (do
    let _ ← ProviderFactory.referralProvider env tenantId .bitunix
    let _ ← ProviderFactory.telegram env tenantId
    return true : App Bool).tryCatch fun e =>
      if e.cls = .missingCredentialError then pure false else throw e

/-- The tenant of a path, looked up on a session bound to none. -/
def route (token : String) : App (Option TenantId) := do
  raising (scalarOneOrNone (← perform (Op.tenantsOfToken token)))

/-- The update of a tenant. -/
def process (env : EncryptionKey) (ttl : TimeDelta) (tenantId : TenantId)
    (incoming : IncomingUpdate) : App Unit :=
  withSession tenantId do
    if ← configured env tenantId then
      let result ← committed (BotConversation.handle ttl .bitunix tenantId incoming)
      respond incoming.chatId result
    else
      return ()

def receiveUpdate (env : EncryptionKey) (ttl : TimeDelta) (token : String)
    (incoming : Option IncomingUpdate) : App Unit := do
  match ← route token with
  -- A wrong token is not told it is wrong.
  | none => return ()
  | some tenantId =>
    match incoming with
    | none => return ()
    | some incoming =>
      if incoming.userId = 0 then return () else process env ttl tenantId incoming

end TelegramWebhook

end VipChannel

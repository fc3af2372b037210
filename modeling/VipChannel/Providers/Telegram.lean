/-
  VipChannel.Providers.Telegram

  The Telegram Bot API adapter (adapters/providers/telegram.py): which method each
  operation calls, with which parameters.  A call that fails, for whatever reason,
  raises; whether Telegram carried it out is then unknown.

  What `getMe` makes of the answer is spelled out: it is what a token is verified by.
-/
import VipChannel.Persistence.Session
import VipChannel.Providers.JsonValues

namespace VipChannel

open Lib
open Program (perform raising)

/-- The username is what the answer says, a string or not. -/
structure BotIdentity where
  id : Int
  username : Json

namespace TelegramBotProvider

def unavailable (text : String) : PyError := ⟨.providerUnavailableError, "Telegram " ++ text⟩

/-- What `_call` returns of an answer to `method`.  The text of an exception is left out:
    the token is in the URL. -/
def resultOf (method : String) : BotApiAnswer → Except PyError Json
  | .failed excType => .error (unavailable (method ++ " failed: " ++ excType))
  | .answered body strOf => do
    let data ← dictOf body
    if (Json.get data "ok").truthy then
      return Json.get data "result"
    else
      throw (unavailable (method ++ " returned " ++ strOf (Json.get data "error_code") ++ ": " ++
        strOf (Json.get data "description")))

/-- Whom an answer to `getMe` names. -/
def identityOf (answer : BotApiAnswer) : Except PyError BotIdentity := do
  let result ← resultOf "getMe" answer
  let id ← intOf (← subscript "id" result)
  return { id, username := Json.get (← dictOf result) "username" }

/-- Confirm the token works at all. -/
def getMe (botToken : String) : App BotIdentity := do
  raising (identityOf (← perform (Op.telegram (.getMe botToken) none)))

/-- Mint an invite.  Telegram takes the expiry in whole seconds. -/
def createInviteLink (chatId memberLimit : Int) (expireDate : Option DateTime)
    (name : Option String) (about : Option Concern) : App String :=
  perform (Op.telegram
    (.createChatInviteLink chatId memberLimit (expireDate.map DateTime.timestampSeconds) name)
    about)

def banChatMember (chatId userId : Int) (about : Option Concern) : App Unit :=
  perform (Op.telegram (.banChatMember chatId userId) about)

def unbanChatMember (chatId userId : Int) (about : Option Concern) : App Unit :=
  perform (Op.telegram (.unbanChatMember chatId userId) about)

def sendMessage (chatId : Int) (text : String) (about : Option Concern) : App Unit :=
  perform (Op.telegram (.sendMessage chatId text) about)

end TelegramBotProvider

end VipChannel

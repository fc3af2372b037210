/-
  VipChannel.Web.TelegramUpdates

  What the webhook makes of a request body (`parse_update` of
  adapters/web/routers/telegram_webhook.py).

  The body is any JSON: `parse_update` calls `.get` on values that may be no dicts, and
  `int` on values that may be no numbers.  `WellShaped` are the bodies on which it returns.
  The texts of an update are kept as they stand in the body, strings or not.
-/
import VipChannel.Web.TelegramWebhook
import VipChannel.Providers.JsonValues

namespace VipChannel

open Lib

/-! ## An update -/

namespace TelegramWebhook

/-- The fields of an update, the texts as they stand in the body. -/
structure ParsedUpdate where
  chatId : Int
  userId : Int
  text : Json := .null
  callbackData : Json := .null
  username : Json := .null
  firstName : Json := .null

/-- `value or other`. -/
def orElse (value other : Json) : Json :=
  if value.truthy then value else other

/-- `value is None`. -/
def isNone : Json → Bool
  | .null => true
  | _ => false

/-- `value in (None, "private")`. -/
def isPrivate : Json → Bool
  | .null => true
  | .str s => s == "private"
  | _ => false

/-- The part for a button that was pressed. -/
def parseCallback (callback : Json) : Except PyError ParsedUpdate := do
  let fields ← dictOf callback
  let sender := orElse (Json.get fields "from") (.obj [])
  let message ← dictOf (orElse (Json.get fields "message") (.obj []))
  let chat ← dictOf (orElse (Json.get message "chat") (.obj []))
  let chatId ←
    if (Json.get chat "id").truthy then intOf (Json.get chat "id")
    else do intOf (orElse (Json.get (← dictOf sender) "id") (.int 0))
  let sender ← dictOf sender
  let userId ← intOf (orElse (Json.get sender "id") (.int 0))
  return {
    chatId, userId
    callbackData := Json.get fields "data"
    username := Json.get sender "username"
    firstName := Json.get sender "first_name" }

/-- The part for a message. -/
def parseMessage (message : Json) : Except PyError (Option ParsedUpdate) := do
  let fields ← dictOf message
  let sender := orElse (Json.get fields "from") (.obj [])
  let chat ← dictOf (orElse (Json.get fields "chat") (.obj []))
  -- Groups and channels are not part of this flow.
  if isPrivate (Json.get chat "type") then
    let chatId ← intOf (orElse (Json.get chat "id") (.int 0))
    let sender ← dictOf sender
    let userId ← intOf (orElse (Json.get sender "id") (.int 0))
    return some {
      chatId, userId
      text := Json.get fields "text"
      username := Json.get sender "username"
      firstName := Json.get sender "first_name" }
  else
    return none

/-- Pull out the few fields the flow uses, or none for updates that are ignored. -/
def parseUpdate (payload : Json) : Except PyError (Option ParsedUpdate) := do
  let fields ← dictOf payload
  if isNone (Json.get fields "callback_query") then
    let message := orElse (Json.get fields "message") (Json.get fields "edited_message")
    if message.truthy then parseMessage message else return none
  else
    return some (← parseCallback (Json.get fields "callback_query"))

/-! ## What is well shaped -/

/-- A dict of whose fields `P` holds. -/
def IsDict (v : Json) (P : List (String × Json) → Prop) : Prop :=
  ∃ fields, v = .obj fields ∧ P fields

/-- Such a dict, what is falsy counting as an empty one. -/
def IsDictOrFalsy (v : Json) : (List (String × Json) → Prop) → Prop :=
  IsDict (orElse v (.obj []))

/-- An id, what is falsy counting as 0. -/
def IsId (v : Json) : Prop :=
  Numeric (orElse v (.int 0))

/-- The id of the sender stands in for that of a chat that has none. -/
def CallbackShaped (callback : Json) : Prop :=
  IsDict callback fun fields =>
    IsDictOrFalsy (Json.get fields "message") fun message =>
      IsDictOrFalsy (Json.get message "chat") fun chat =>
        ((Json.get chat "id").truthy = true → Numeric (Json.get chat "id")) ∧
          IsDictOrFalsy (Json.get fields "from") fun sender => IsId (Json.get sender "id")

/-- Of a message to a group nothing but the type of the chat is read. -/
def MessageShaped (message : Json) : Prop :=
  IsDict message fun fields =>
    IsDictOrFalsy (Json.get fields "chat") fun chat =>
      isPrivate (Json.get chat "type") = true →
        IsId (Json.get chat "id") ∧
          IsDictOrFalsy (Json.get fields "from") fun sender => IsId (Json.get sender "id")

/-- The bodies that `parse_update` can read. -/
def WellShaped (payload : Json) : Prop :=
  IsDict payload fun fields =>
    if isNone (Json.get fields "callback_query") then
      (orElse (Json.get fields "message") (Json.get fields "edited_message")).truthy = true →
        MessageShaped (orElse (Json.get fields "message") (Json.get fields "edited_message"))
    else
      CallbackShaped (Json.get fields "callback_query")

section Shapes

variable {α β : Type}

theorem bind_isOk_iff {x : Except PyError α} {f : α → Except PyError β} :
    (∃ b, (x >>= f) = .ok b) ↔ ∃ a, x = .ok a ∧ ∃ b, f a = .ok b := by
  simp only [bind_eq_ok]
  constructor
  · rintro ⟨b, a, ha, hb⟩
    exact ⟨a, ha, b, hb⟩
  · rintro ⟨a, ha, b, hb⟩
    exact ⟨b, a, ha, hb⟩

theorem dict_bind_isOk_iff {v : Json} {f : List (String × Json) → Except PyError β} :
    (∃ b, (dictOf v >>= f) = .ok b) ↔ IsDict v fun fields => ∃ b, f fields = .ok b := by
  rw [bind_isOk_iff]
  simp only [dictOf_eq_ok_iff, IsDict]

/-- What follows a numeral does not depend on it. -/
theorem int_bind_isOk_iff {v : Json} {f : Int → Except PyError β} {P : Prop}
    (hf : ∀ n, (∃ b, f n = .ok b) ↔ P) :
    (∃ b, (intOf v >>= f) = .ok b) ↔ Numeric v ∧ P := by
  rw [bind_isOk_iff, ← intOf_isOk_iff]
  simp only [hf, exists_and_right]

theorem IsDict.congr {v : Json} {P Q : List (String × Json) → Prop}
    (h : ∀ fields, P fields ↔ Q fields) : IsDict v P ↔ IsDict v Q := by
  have heq : P = Q := funext fun fields => propext (h fields)
  rw [heq]

/-- Who sent it, at the end of either part. -/
theorem sender_isOk_iff {sender : Json} {f : List (String × Json) → Int → β} :
    (∃ b, (do
      let fields ← dictOf sender
      let userId ← intOf (orElse (Json.get fields "id") (.int 0))
      return f fields userId) = .ok b) ↔
    IsDict sender fun fields => IsId (Json.get fields "id") := by
  rw [dict_bind_isOk_iff]
  refine IsDict.congr fun fields => ?_
  have hend : ∀ n, (∃ b, (pure (f fields n) : Except PyError β) = .ok b) ↔ True :=
    fun n => iff_true_intro ⟨_, rfl⟩
  rw [int_bind_isOk_iff hend, and_true]
  exact Iff.rfl

end Shapes

theorem parseCallback_isOk_iff {callback : Json} :
    (∃ u, parseCallback callback = .ok u) ↔ CallbackShaped callback := by
  unfold parseCallback CallbackShaped
  rw [dict_bind_isOk_iff]
  refine IsDict.congr fun fields => ?_
  dsimp only
  rw [dict_bind_isOk_iff]
  refine IsDict.congr fun message => ?_
  rw [dict_bind_isOk_iff]
  refine IsDict.congr fun chat => ?_
  cases (Json.get chat "id").truthy with
  | true =>
    rw [if_pos rfl, int_bind_isOk_iff fun n => sender_isOk_iff]
    simp only [true_imp_iff, IsDictOrFalsy]
  | false =>
    -- The sender is read for the chat, and again for itself.
    have hsame : ∀ v : Json, (IsDict v fun sender =>
        Numeric (orElse (Json.get sender "id") (.int 0)) ∧
          IsDict v fun sender => IsId (Json.get sender "id")) ↔
        IsDict v fun sender => IsId (Json.get sender "id") := by
      intro v
      constructor
      · rintro ⟨-, -, -, h⟩
        exact h
      · intro h
        obtain ⟨sender, hv, hid⟩ := h
        exact ⟨sender, hv, hid, sender, hv, hid⟩
    rw [if_neg Bool.false_ne_true, dict_bind_isOk_iff]
    simp only [int_bind_isOk_iff fun n => sender_isOk_iff, hsame, Bool.false_eq_true, false_imp_iff,
      true_and, IsDictOrFalsy]

theorem parseMessage_isOk_iff {message : Json} :
    (∃ u, parseMessage message = .ok u) ↔ MessageShaped message := by
  unfold parseMessage MessageShaped
  rw [dict_bind_isOk_iff]
  refine IsDict.congr fun fields => ?_
  dsimp only
  rw [dict_bind_isOk_iff]
  refine IsDict.congr fun chat => ?_
  cases isPrivate (Json.get chat "type") with
  | false => exact iff_of_true ⟨none, rfl⟩ fun h => absurd h Bool.false_ne_true
  | true =>
    rw [if_pos rfl, int_bind_isOk_iff fun n => sender_isOk_iff]
    exact ⟨fun h _ => h, fun h => h rfl⟩

/-- `parse_update` returns on what is well shaped, and on nothing else. -/
theorem parseUpdate_isOk_iff {payload : Json} :
    (∃ u, parseUpdate payload = .ok u) ↔ WellShaped payload := by
  unfold parseUpdate WellShaped
  rw [dict_bind_isOk_iff]
  refine IsDict.congr fun fields => ?_
  cases isNone (Json.get fields "callback_query") with
  | true =>
    rw [if_pos rfl, if_pos rfl]
    dsimp only
    cases (orElse (Json.get fields "message") (Json.get fields "edited_message")).truthy with
    | false => exact iff_of_true ⟨none, rfl⟩ fun h => absurd h Bool.false_ne_true
    | true =>
      rw [if_pos rfl, parseMessage_isOk_iff]
      exact ⟨fun h _ => h, fun h => h rfl⟩
  | false =>
    rw [if_neg Bool.false_ne_true, if_neg Bool.false_ne_true, bind_isOk_iff,
      ← parseCallback_isOk_iff]
    exact exists_congr fun u => and_iff_left ⟨some u, rfl⟩

end TelegramWebhook

end VipChannel

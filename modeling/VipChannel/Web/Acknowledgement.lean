/-
  VipChannel.Web.Acknowledgement

  When the webhook answers 200 (`receive_update` of
  adapters/web/routers/telegram_webhook.py, from the request's body on).

  Its docstring has every path answer 200 even when the work fails.  What fails once the
  conversation has begun is caught; the body, the lookup of the path, the shape of the update
  and the opening of the tenant's secrets come before that.
-/
import VipChannel.Web.TelegramUpdates
import VipChannel.Web.IntegrationCheck
import VipChannel.Runs.Updates

namespace VipChannel

open Lib
open Program (perform raising)

namespace TelegramWebhook

/-- `receive_update`: `body` is what `request.json()` gives, and `flow` what the conversation
    makes of an update, whose texts may be of any type. -/
def receiveUpdateOf (env : EncryptionKey) (flow : TenantId → ParsedUpdate → App (List Reply))
    (token : String) (body : Except PyError Json) : App Unit := do
  let payload ← raising body
  match ← route token with
  | none => return ()
  | some tenantId =>
    match ← raising (parseUpdate payload) with
    | none => return ()
    | some update =>
      if update.userId = 0 then return () else
        withSession tenantId do
          if ← configured env tenantId then
            let result ← committed (flow tenantId update)
            respond update.chatId result
          else
            return ()

/-- The update as the conversation takes it, with strings for texts. -/
def ParsedUpdate.ofIncoming (incoming : IncomingUpdate) : ParsedUpdate where
  chatId := incoming.chatId
  userId := incoming.userId
  text := (incoming.text.map Json.str).getD .null
  callbackData := (incoming.callbackData.map Json.str).getD .null
  username := (incoming.username.map Json.str).getD .null
  firstName := (incoming.firstName.map Json.str).getD .null

/-- On a body that parses to strings it is the webhook of the other modules. -/
theorem receiveUpdateOf_typed {env : EncryptionKey} {ttl : TimeDelta} {token : String}
    {flow : TenantId → ParsedUpdate → App (List Reply)} {payload : Json}
    {incoming : Option IncomingUpdate}
    (hflow : ∀ tenantId, ∀ update ∈ incoming, flow tenantId (.ofIncoming update) =
      BotConversation.handle ttl .bitunix tenantId update)
    (hparse : parseUpdate payload = .ok (incoming.map .ofIncoming)) :
    receiveUpdateOf env flow token (.ok payload) = receiveUpdate env ttl token incoming := by
  unfold receiveUpdateOf receiveUpdate
  rw [Program.raising_ok, Program.pure_bind', hparse]
  refine congrArg (route token >>= ·) (funext fun found => ?_)
  cases found with
  | none => rfl
  | some tenantId =>
    cases incoming with
    | none => rfl
    | some incoming =>
      show (if incoming.userId = 0 then _ else withSession tenantId _) = _
      rw [hflow tenantId incoming rfl]
      rfl

/-! ## What may fail -/

/-- Where the call fails, it fails with what is caught, and where it does not, `next` holds. -/
def Fares (G : World → Op → Choice → Prop) (w : World) (op : Op) (caught : PyError → Prop)
    (next : Prop) : Prop :=
  ∀ c, G w op c → (∀ e, c.fault = some e → caught e) ∧ (c.fault = none → next)

/-- Nothing is caught. -/
def Uncaught (_ : PyError) : Prop := False

/-- What says that the tenant is not fully configured. -/
def IsMissing (e : PyError) : Prop := e.cls = .missingCredentialError

/-- The tenant of a path. -/
def tenantOf (d : Database) (token : String) : Option TenantId :=
  ((d .webhookRoutes).find? (·.token == token)).map (·.tenantId)

/-- The secret can be looked up, and opened if it is there; then `next`. -/
def Legible (G : World → Op → Choice → Prop) (env : EncryptionKey) (w : World)
    (providerType : ProviderType) (name : String) (next : Prop) : Prop :=
  Fares G w
    (.select .providerCredentials fun r => r.tenantId == w.tenantId &&
      r.providerType == providerType && r.credentialName == name) IsMissing
    (¬ w.view.Garbled env w.tenantId providerType name ∧
      (w.view.Stores w.tenantId providerType name → next))

/-- The bot can be looked up, and its token opened if there is a bot; then `next`. -/
def BotLegible (G : World → Op → Choice → Prop) (env : EncryptionKey) (w : World)
    (next : Prop) : Prop :=
  Fares G w (.select .telegramBotConfigs fun r => r.tenantId == w.tenantId) IsMissing
    ((∃ config ∈ w.view .telegramBotConfigs, config.tenantId = w.tenantId) →
      Legible G env w .telegram TELEGRAM_BOT_TOKEN next)

/-- The providers can be built, or something is missing; if they are, then `next`. -/
def Buildable (G : World → Op → Choice → Prop) (env : EncryptionKey) (w : World)
    (next : Prop) : Prop :=
  Legible G env w .bitunix BITUNIX_API_KEY <|
    Legible G env w .bitunix BITUNIX_API_SECRET <|
      BotLegible G env w next

/-- Telegram takes the messages, or fails in the way its port allows. -/
def Deliverable (G : World → Op → Choice → Prop) (chatId : Int) : List String → World → Prop
  | [], _ => True
  | text :: rest, w => ∀ c, G w (.telegram (.sendMessage chatId text) none) c →
      (∀ e, c.fault = some e → e.cls = .providerUnavailableError) ∧
        Deliverable G chatId rest (World.step w (.telegram (.sendMessage chatId text) none) c).2

/-- The conversation, up to the commit. -/
def handled (flow : App (List Reply)) : App (Option (List Reply)) := do
  let replies ← flow
  perform Op.commit
  return some replies

/-- What is said can be delivered, and what fails can be rolled back. -/
structure Answerable (G : World → Op → Choice → Prop) (chatId : Int) (flow : App (List Reply))
    (w : World) : Prop where
  told : ∀ result w', Runs (serial G) (handled flow) w (.ok result) w' →
    Deliverable G chatId (answers result) w'
  apologised : ∀ e w', Runs (serial G) (handled flow) w (.error e) w' →
    Fares G w' .rollback Uncaught
      (Deliverable G chatId (answers none) { w' with view := w'.db, conflict := none })

/-- The body is JSON, the path can be looked up, and if it is a tenant's, the update is well
    shaped and, unless it is ignored, the tenant's providers can be built and what becomes of
    the conversation can be told. -/
def Handleable (G : World → Op → Choice → Prop) (env : EncryptionKey)
    (flow : TenantId → ParsedUpdate → App (List Reply)) (token : String)
    (body : Except PyError Json) (w : World) : Prop :=
  ∃ payload, body = .ok payload ∧
    Fares G w (.tenantsOfToken token) Uncaught
      (∀ tenantId, tenantOf w.db token = some tenantId →
        WellShaped payload ∧
          ∀ update, parseUpdate payload = .ok (some update) → update.userId ≠ 0 →
            Buildable G env (w.opened tenantId)
              (Answerable G update.chatId (flow tenantId update) (w.opened tenantId)))

/-! ## Looking things up -/

section Lookups

variable {G : World → Op → Choice → Prop} {env : EncryptionKey} {w : World}

theorem Fares.congr {op : Op} {caught : PyError → Prop} {P Q : Prop} (h : P ↔ Q) :
    Fares G w op caught P ↔ Fares G w op caught Q := by
  rw [propext h]

theorem Legible.congr {providerType : ProviderType} {name : String} {P Q : Prop} (h : P ↔ Q) :
    Legible G env w providerType name P ↔ Legible G env w providerType name Q := by
  rw [propext h]

theorem wp_raising_either {α : Type} {x : Except PyError α} {Q : α → World → Prop}
    {E : PyError → World → Prop} :
    wp (serial G) (raising x) (either Q E) w ↔ (∀ a, x = .ok a → Q a w) ∧
      (∀ e, x = .error e → E e w) := by
  rw [wp_raising]
  cases x with
  | error e => simp
  | ok a => simp

theorem Found.unique {t : Table} {cond : Row t → Bool} {r s : Option (Row t)}
    (hr : w.Found t cond r) (hs : w.Found t cond s) : r = s := by
  cases r with
  | none =>
    cases s with
    | none => rfl
    | some y =>
      have hno := hr y hs.1
      rw [hs.2.1] at hno
      cases hno
  | some x =>
    cases s with
    | none =>
      have hno := hs x hr.1
      rw [hr.2.1] at hno
      cases hno
    | some y => rw [hr.2.2 y hs.1 hs.2.1]

/-- A read by a key fails, or finds the row there is. -/
theorem wp_selectOneOrNone_iff {t : Table} {cond : Row t → Bool}
    {Q : Option (Row t) → World → Prop} {E : PyError → World → Prop} (hw : w.Sound)
    (hconflict : w.conflict = none)
    (hkey : ∀ r s, rowTenant t r = rowTenant t s → cond r = true → cond s = true →
      clash t r s = true) :
    wp (serial G) (selectOneOrNone t cond) (either Q E) w ↔
      Fares G w (.select t cond) (fun e => E e w) (∀ r, w.Found t cond r → Q r w) := by
  unfold selectOneOrNone select serial
  rw [wp_bind_either, wp_perform_handler]
  refine forall_congr' fun c => imp_congr_right fun _ => ?_
  cases hfault : c.fault with
  | some e =>
    have hflushed : w.flushed c = .error e := by simp [World.flushed, hfault]
    simp [World.step, hflushed]
  | none =>
    have hflushed : w.flushed c = .ok () := by simp [World.flushed, hfault, hconflict]
    obtain ⟨r, hr, hfound⟩ := exists_found hw hkey
      (pick_perm c.order ((w.view t).filter (w.inScope cond)))
    simp only [World.step, hflushed, either_ok]
    rw [hr, Program.raising_ok, wp_pure, either_ok]
    constructor
    · intro h
      refine ⟨?_, fun _ s hs => ?_⟩
      · intro e he
        cases he
      · rw [← Found.unique hfound hs]
        exact h
    · intro h
      exact h.2 trivial r hfound

theorem wp_secret_iff {providerType : ProviderType} {name : String} {Q : World → Prop}
    (hw : w.Sound) (hconflict : w.conflict = none) :
    wp (serial G) (ProviderFactory.secret env w.tenantId providerType name)
        (either (fun _ w' => Q w') fun e _ => IsMissing e) w ↔
      Legible G env w providerType name (Q w) := by
  unfold ProviderFactory.secret ProviderCredentialRepository.getNamed Legible
  rw [wp_bind_either, wp_selectOneOrNone_iff hw hconflict secret_key]
  refine forall_congr' fun c => imp_congr_right fun _ => and_congr_right fun _ =>
    imp_congr_right fun _ => ?_
  constructor
  · intro h
    obtain ⟨r, -, hr⟩ := exists_found (t := .providerCredentials) hw secret_key
      (List.Perm.refl _)
    have hbody := h r hr
    rcases secret_found env hr with ⟨rfl, hnone⟩ | ⟨found, rfl, hmem, hsecret, hgarbled, -⟩
    · exact ⟨fun hbad => hnone hbad.stores, fun hs => (hnone hs).elim⟩
    · obtain ⟨hopen, hfail⟩ := wp_raising_either.mp hbody
      have hclear : ¬ w.view.Garbled env w.tenantId providerType name := by
        intro hbad
        obtain ⟨e, he⟩ := hgarbled.mp hbad
        have hmissing : e.cls = .missingCredentialError := hfail e he
        rw [decryptSecret_error he] at hmissing
        cases hmissing
      refine ⟨hclear, fun _ => ?_⟩
      cases hd : decryptSecret env found.encryptedSecret with
      | error e => exact (hclear (hgarbled.mpr ⟨e, hd⟩)).elim
      | ok s => exact hopen s hd
  · rintro ⟨hclear, hgo⟩ s hs
    rcases secret_found env hs with ⟨rfl, -⟩ | ⟨found, rfl, hmem, hsecret, hgarbled, -⟩
    · show (missingCredential _).cls = .missingCredentialError
      rfl
    · exact wp_raising_either.mpr
        ⟨fun _ _ => hgo ⟨found, hmem, hsecret⟩, fun e he => (hclear (hgarbled.mpr ⟨e, he⟩)).elim⟩

theorem wp_telegram_iff {Q : World → Prop} (hw : w.Sound) (hconflict : w.conflict = none) :
    wp (serial G) (ProviderFactory.telegram env w.tenantId)
        (either (fun _ w' => Q w') fun e _ => IsMissing e) w ↔ BotLegible G env w (Q w) := by
  unfold ProviderFactory.telegram TelegramBotConfigRepository.get BotLegible
  rw [wp_bind_either, wp_selectOneOrNone_iff hw hconflict bot_key]
  refine forall_congr' fun c => imp_congr_right fun _ => and_congr_right fun _ =>
    imp_congr_right fun _ => ?_
  constructor
  · intro h hbot
    obtain ⟨r, -, hr⟩ := exists_found (t := .telegramBotConfigs) hw bot_key
      (List.Perm.refl _)
    have hthere := (bot_found hr).mpr hbot
    have hbody := h r hr
    cases r with
    | none => cases hthere
    | some config => exact (wp_secret_iff hw hconflict).mp hbody
  · intro h s hs
    cases s with
    | none =>
      show (missingCredential _).cls = .missingCredentialError
      rfl
    | some config => exact (wp_secret_iff hw hconflict).mpr (h ((bot_found hs).mp rfl))

/-- The providers are built, or found to be missing. -/
theorem wp_configured_iff {Q : World → Prop} (hw : w.Sound) (hconflict : w.conflict = none) :
    wp (serial G) (configured env w.tenantId)
        (either (fun ready w' => ready = true → Q w') fun _ _ => False) w ↔
      Buildable G env w (Q w) := by
  unfold configured Buildable
  rw [wp_tryCatch]
  have hpost : catchPost (serial G) (fun e => if e.cls = .missingCredentialError then pure false
      else throw e) (either (fun ready w' => ready = true → Q w') fun _ _ => False) =
      either (fun ready w' => ready = true → Q w') fun e _ => IsMissing e := by
    funext r s
    cases r with
    | ok ready => rfl
    | error e =>
      rw [catchPost_error, either_error, IsMissing]
      split
      · next h => simp [h]
      · next h => exact propext (iff_of_false id h)
  rw [hpost]
  unfold ProviderFactory.referralProvider
  simp only [if_pos, wp_bind_either, wp_pure, either_ok, true_imp_iff]
  refine (wp_secret_iff hw hconflict).trans (Legible.congr ?_)
  refine (wp_secret_iff hw hconflict).trans (Legible.congr ?_)
  exact wp_telegram_iff hw hconflict

/-- A path is looked up by its key. -/
theorem scalarOneOrNone_tenants {d : Database} (hd : Distinct d) (order : List Nat)
    (token : String) :
    scalarOneOrNone (pick order (((d .webhookRoutes).filter (·.token == token)).map
      (·.tenantId))) = .ok (tenantOf d token) := by
  unfold tenantOf
  rw [← List.head?_filter]
  have hnodup := (hd .webhookRoutes).filter (·.token == token)
  have htoken : ∀ r ∈ (d .webhookRoutes).filter (·.token == token), r.token = token :=
    fun r hr => beq_iff_eq.mp (List.mem_filter.mp hr).2
  generalize (d .webhookRoutes).filter (·.token == token) = rows at hnodup htoken
  match rows with
  | [] =>
    have hnone : pick order ([].map fun r : Row .webhookRoutes => r.tenantId) = [] :=
      (pick_perm order _).eq_nil
    rw [hnone]
    rfl
  | [r] =>
    have hone : pick order ([r].map fun r : Row .webhookRoutes => r.tenantId) = [r.tenantId] :=
      (pick_perm order _).eq_singleton
    rw [hone]
    rfl
  | r :: s :: rest =>
    exfalso
    have hno := (List.pairwise_cons.mp hnodup).1 s List.mem_cons_self
    have hr := htoken r List.mem_cons_self
    have hs := htoken s (List.mem_cons_of_mem _ List.mem_cons_self)
    simp [clash, hr, hs] at hno

theorem wp_route_iff {token : String} {Q : Option TenantId → World → Prop} (hw : w.Sound) :
    wp (serial G) (route token) (either Q fun _ _ => False) w ↔
      Fares G w (.tenantsOfToken token) Uncaught (Q (tenantOf w.db token) w) := by
  unfold route serial
  rw [wp_bind_either, wp_perform_handler]
  refine forall_congr' fun c => imp_congr_right fun _ => ?_
  simp only [World.step]
  cases c.fault with
  | some e => simp [Uncaught]
  | none =>
    rw [either_ok, scalarOneOrNone_tenants hw.db, Program.raising_ok, wp_pure, either_ok]
    simp

end Lookups

/-! ## Telling the user -/

section Telling

variable {G : World → Op → Choice → Prop} {w : World} {chatId : Int}

theorem wp_deliver_iff {text : String} {Q : World → Prop} :
    wp (serial G) (deliver chatId text) (either (fun _ w' => Q w') fun _ _ => False) w ↔
      ∀ c, G w (.telegram (.sendMessage chatId text) none) c →
        (∀ e, c.fault = some e → e.cls = .providerUnavailableError) ∧
          Q (World.step w (.telegram (.sendMessage chatId text) none) c).2 := by
  unfold deliver TelegramBotProvider.sendMessage serial
  rw [wp_tryCatch, wp_perform_handler]
  refine forall_congr' fun c => imp_congr_right fun _ => ?_
  simp only [World.step]
  cases c.fault with
  | none => simp
  | some e =>
    rw [catchPost_error]
    split
    · next h => simp [h]
    · next h => exact iff_of_false id fun hall => h (hall.1 e rfl)

theorem wp_deliverAll_iff (replies : List Reply) :
    wp (serial G) (deliverAll chatId replies) (either (fun _ _ => True) fun _ _ => False) w ↔
      Deliverable G chatId (replies.map (·.text)) w := by
  induction replies generalizing w with
  | nil => exact Iff.rfl
  | cons reply rest ih =>
    unfold deliverAll
    rw [wp_bind_either, wp_deliver_iff]
    refine forall_congr' fun c => imp_congr_right fun _ => and_congr_right fun _ => ih

theorem wp_respond_iff (result : Option (List Reply)) :
    wp (serial G) (respond chatId result) (either (fun _ _ => True) fun _ _ => False) w ↔
      Deliverable G chatId (answers result) w := by
  cases result with
  | none => exact wp_deliver_iff
  | some replies => exact wp_deliverAll_iff replies

/-- What becomes of the conversation is told, unless it can be neither undone nor said. -/
theorem wp_answer_iff {flow : App (List Reply)} :
    wp (serial G) (do
        let result ← committed flow
        respond chatId result) (either (fun _ _ => True) fun _ _ => False) w ↔
      Answerable G chatId flow w := by
  have hrollback : ∀ w', wp (serial G) (do perform Op.rollback; return none)
      (either (fun result w' => wp (serial G) (respond chatId result)
        (either (fun _ _ => True) fun _ _ => False) w') fun _ _ => False) w' ↔
      Fares G w' .rollback Uncaught
        (Deliverable G chatId (answers none) { w' with view := w'.db, conflict := none }) := by
    intro w'
    rw [wp_bind_either]
    refine (wp_perform_handler _ _ _).trans ?_
    refine forall_congr' fun c => imp_congr_right fun _ => ?_
    simp only [World.step]
    cases c.fault with
    | some e => simp [Uncaught]
    | none =>
      rw [either_ok, wp_pure, either_ok, wp_respond_iff]
      simp
  have hcommitted : committed flow = (handled flow).tryCatch fun _ => do
      perform Op.rollback
      return none := rfl
  rw [wp_bind_either, hcommitted, wp_tryCatch, wp_serial_iff]
  constructor
  · intro h
    exact {
      told := fun result w' hr => (wp_respond_iff result).mp (h (.ok result) w' hr)
      apologised := fun e w' hr => (hrollback w').mp (h (.error e) w' hr) }
  · intro h r w' hr
    cases r with
    | ok result => exact (wp_respond_iff result).mpr (h.told result w' hr)
    | error e => exact (hrollback w').mpr (h.apologised e w' hr)

end Telling

/-! ## When the request is acknowledged -/

section Requests

variable {G : World → Op → Choice → Prop} {env : EncryptionKey}
  {flow : TenantId → ParsedUpdate → App (List Reply)} {token : String}
  {body : Except PyError Json} {w : World}

/-- Where some choice is admitted, what holds after each and does not depend on it holds. -/
theorem forall_choice_iff {op : Op} (hlive : ∀ w op, ∃ c, G w op c) (P : Prop) :
    (∀ c, G w op c → P) ↔ P := by
  constructor
  · intro h
    obtain ⟨c, hc⟩ := hlive w op
    exact h c hc
  · intro h c _
    exact h

/-- A session adds nothing to what its body comes to. -/
theorem wp_withSession_iff {α : Type} {tenantId : TenantId} {p : App α} {P : α → Prop}
    {E : PyError → Prop} (hlive : ∀ w op, ∃ c, G w op c) :
    wp (serial G) (withSession tenantId p) (either (fun a _ => P a) fun e _ => E e) w ↔
      wp (serial G) p (either (fun a _ => P a) fun e _ => E e) (w.opened tenantId) := by
  have hclose : ∀ (q : App α) (w' : World), wp (serial G) (perform Op.closeSession >>= fun _ => q)
      (either (fun a _ => P a) fun e _ => E e) w' ↔
      wp (serial G) q (either (fun a _ => P a) fun e _ => E e)
        { w' with view := w'.db, conflict := none } := by
    intro q w'
    rw [wp_bind_either]
    exact (wp_perform_handler _ _ _).trans (forall_choice_iff hlive
      (wp (serial G) q (either (fun a _ => P a) fun e _ => E e)
        { w' with view := w'.db, conflict := none }))
  unfold withSession
  rw [wp_bind_either]
  refine (wp_perform_handler _ _ _).trans ((forall_choice_iff hlive
    (wp (serial G) _ (either (fun a _ => P a) fun e _ => E e) (w.opened tenantId))).trans ?_)
  rw [wp_bind_either, wp_tryCatch]
  have hpost : catchPost (serial G) (fun e => do perform Op.closeSession; throw e)
      (either (fun a w' => wp (serial G) (do perform Op.closeSession; return a)
        (either (fun a _ => P a) fun e _ => E e) w') fun e _ => E e) =
      either (fun a _ => P a) fun e _ => E e := by
    funext r w'
    cases r with
    | ok a => exact propext (hclose (pure a) w')
    | error e => exact propext ((wp_bind_either _ _ _ _ _).trans ((wp_perform_handler _ _ _).trans
        (forall_choice_iff hlive (E e))))
  rw [hpost]

theorem answered_iff (hw : w.Sound) (hlive : ∀ w op, ∃ c, G w op c) :
    (∀ r w', Runs (serial G) (receiveUpdateOf env flow token body) w r w' → r = .ok ()) ↔
      Handleable G env flow token body w := by
  have hpost : (fun (r : Except PyError Unit) (_ : World) => r = .ok ()) =
      either (fun _ _ => True) fun _ _ => False := by
    funext r w'
    cases r <;> simp
  refine (wp_serial_iff (Q := fun r _ => r = .ok ())).symm.trans ?_
  rw [hpost]
  unfold receiveUpdateOf Handleable
  cases body with
  | error e =>
    refine iff_of_false id ?_
    rintro ⟨payload, h, -⟩
    cases h
  | ok payload =>
    simp only [Except.ok.injEq, exists_eq_left']
    rw [Program.raising_ok, Program.pure_bind', wp_bind_either, wp_route_iff hw]
    refine Fares.congr ?_
    cases tenantOf w.db token with
    | none => exact iff_of_true trivial fun tenantId h => by cases h
    | some tenantId =>
      simp only [Option.some.injEq, forall_eq']
      rw [← parseUpdate_isOk_iff]
      cases parseUpdate payload with
      | error e =>
        refine iff_of_false id ?_
        rintro ⟨⟨u, h⟩, -⟩
        cases h
      | ok update =>
        cases update with
        | none =>
          refine iff_of_true trivial ⟨⟨_, rfl⟩, fun update h => by cases h⟩
        | some update =>
          simp only [Except.ok.injEq, Option.some.injEq, exists_eq', true_and, forall_eq']
          show wp (serial G) (if update.userId = 0 then return () else _) _ w ↔ _
          split
          · next hzero => exact iff_of_true trivial fun h => absurd hzero h
          · next huser =>
            refine (wp_withSession_iff hlive).trans ?_
            rw [wp_bind_either]
            have hready : ∀ (ready : Bool) (w' : World),
                wp (serial G) (if ready = true then (do
                    let result ← committed (flow tenantId update)
                    respond update.chatId result) else return ())
                  (either (fun _ _ => True) fun _ _ => False) w' ↔
                (ready = true → Answerable G update.chatId (flow tenantId update) w') := by
              intro ready w'
              cases ready with
              | false => exact iff_of_true trivial fun h => absurd h Bool.false_ne_true
              | true =>
                rw [if_pos rfl, wp_answer_iff]
                exact ⟨fun h _ => h, fun h => h rfl⟩
            simp only [hready]
            exact (wp_configured_iff (hw.opened tenantId) rfl).trans
              ⟨fun h _ => h, fun h => h huser⟩

/-- Every way the request can go answers it, if and only if nothing fails that is not caught,
    where sessions close. -/
theorem acknowledged_iff {H : World → Op → Choice × Bool → Prop} (hH : Acknowledged H)
    (hw : w.Sound) (hlive : ∀ w op, ∃ x, H w op x) :
    (∀ r w', Runs (losing H) (receiveUpdateOf env flow token body) w r w' → r = .ok ()) ↔
      Handleable (choices H) env flow token body w := by
  have hchoices : ∀ w op, ∃ c, choices H w op c := by
    intro w op
    obtain ⟨⟨c, lost⟩, hx⟩ := hlive w op
    exact ⟨c, lost, hx⟩
  rw [← answered_iff hw hchoices]
  simp only [runs_losing_iff hH]

end Requests

/-! ### What Telegram sends again and again -/

/-- A private message with a UID. -/
def uidBody : Json :=
  .obj [("update_id", .int 1), ("message", .obj [
    ("from", .obj [("id", .int 77)]),
    ("chat", .obj [("id", .int 77), ("type", .str "private")]),
    ("text", .str "123456789")])]

/-- On that day sessions close. -/
theorem closes_welcomingEnv :
    ∀ w c, Only welcomingEnv w .closeSession c → c.fault = none := by
  rintro w c rfl
  rfl

theorem not_acknowledged {p : App Unit} {w : World} {e : PyError}
    (h : (exec World.step welcomingEnv p w).1 = .error e) :
    ¬ ∀ r w', Runs (losing (keeping (Only welcomingEnv))) p w r w' → r = .ok () := by
  intro hall
  have hok := hall _ _ ((runs_keeping_iff closes_welcomingEnv).mpr (runs_only welcomingEnv p w))
  rw [h] at hok
  cases hok

/-- On a day on which nothing fails, three requests raise: a body that is no JSON, a list, and
    any message while the service has no usable key. -/
theorem failures_are_not_acknowledged :
    (¬ ∀ r w', Runs (losing (keeping (Only welcomingEnv))) (receiveUpdateOf (.key some)
        (fun _ _ => return []) "hook" (.error ⟨.valueError, "Expecting value"⟩))
        hookedWorld r w' → r = .ok ()) ∧
    (¬ ∀ r w', Runs (losing (keeping (Only welcomingEnv))) (receiveUpdateOf (.key some)
        (fun _ _ => return []) "hook" (.ok (.arr []))) hookedWorld r w' → r = .ok ()) ∧
    ¬ ∀ r w', Runs (losing (keeping (Only welcomingEnv))) (receiveUpdateOf .malformed
        (fun _ _ => return []) "hook" (.ok uidBody)) hookedWorld r w' → r = .ok () := by
  refine ⟨?_, ?_, ?_⟩
  · exact not_acknowledged (e := ⟨.valueError, "Expecting value"⟩) rfl
  · refine not_acknowledged (e := ⟨.attributeError, "'list' object has no attribute 'get'"⟩) ?_
    decide +kernel
  · refine not_acknowledged (e := ⟨.credentialEncryptionError,
      "CREDENTIAL_ENCRYPTION_KEY is not a valid Fernet key (32 url-safe base64-encoded bytes)."⟩) ?_
    decide +kernel

theorem Fares.of_calm {G : World → Op → Choice → Prop} {w : World} {op : Op}
    {caught : PyError → Prop} {P : Prop} (hcalm : ∀ c, G w op c → c.fault = none) (h : P) :
    Fares G w op caught P := by
  intro c hc
  refine ⟨fun e he => ?_, fun _ => h⟩
  rw [hcalm c hc] at he
  cases he

/-- Where rollbacks and messages do not fail, whatever becomes of a conversation is told. -/
theorem answerable_of_calm {G : World → Op → Choice → Prop} {chatId : Int}
    {flow : App (List Reply)} {w : World}
    (hrollback : ∀ w c, G w .rollback c → c.fault = none)
    (htelegram : ∀ w call about c, G w (.telegram call about) c → c.fault = none) :
    Answerable G chatId flow w := by
  have hdeliver : ∀ texts w', Deliverable G chatId texts w' := by
    intro texts
    induction texts with
    | nil => exact fun _ => trivial
    | cons text rest ih =>
      intro w' c hc
      refine ⟨fun e he => ?_, ih _⟩
      rw [htelegram _ _ _ c hc] at he
      cases he
  exact ⟨fun result w' _ => hdeliver _ _,
    fun e w' _ => .of_calm (hrollback w') (hdeliver _ _)⟩

/-- With the service's key the message is acknowledged. -/
theorem message_acknowledged :
    (exec World.step welcomingEnv (receiveUpdate (.key some) defaultSettings.ttl "hook"
      (some uidMessage)) hookedWorld).1 = .ok () := by
  have htyped : receiveUpdateOf (.key some)
      (fun tenantId _ => BotConversation.handle defaultSettings.ttl .bitunix tenantId uidMessage)
      "hook" (.ok uidBody) = receiveUpdate (.key some) defaultSettings.ttl "hook"
        (some uidMessage) := by
    refine receiveUpdateOf_typed (fun tenantId update hupdate => ?_) ?_
    · rw [Option.mem_some_iff.mp hupdate]
    · rfl
  rw [← htyped]
  have hlive : ∀ w op, ∃ x, keeping (Only welcomingEnv) w op x :=
    fun w op => ⟨(welcomingEnv w op, false), rfl, rfl, fun hop => by rw [hop]; rfl⟩
  have hcalm : ∀ w t cond c, Only welcomingEnv w (.select t cond) c → c.fault = none := by
    rintro w t cond c rfl
    rfl
  have hopens : ∀ providerType name, ¬ hookedDb.Garbled (.key some) 1 providerType name := by
    rintro providerType name ⟨record, -, -, e, he⟩
    cases he
  have hshape : WellShaped uidBody := parseUpdate_isOk_iff.mp ⟨_, rfl⟩
  refine (acknowledged_iff (acknowledged_keeping _) sound_hookedWorld hlive).mpr
    ⟨uidBody, rfl, ?_⟩ _ _ ((runs_keeping_iff closes_welcomingEnv).mpr
      (runs_only welcomingEnv _ _))
  rw [choices_keeping closes_welcomingEnv]
  refine .of_calm ?_ fun tenantId htenant => ⟨hshape, fun update _ _ => ?_⟩
  · rintro c rfl
    rfl
  have hone : tenantId = 1 := (Option.some.inj htenant).symm
  subst hone
  refine .of_calm (hcalm _ _ _) ⟨hopens _ _, fun _ => ?_⟩
  refine .of_calm (hcalm _ _ _) ⟨hopens _ _, fun _ => ?_⟩
  refine .of_calm (hcalm _ _ _) fun _ => ?_
  refine .of_calm (hcalm _ _ _) ⟨hopens _ _, fun _ => ?_⟩
  refine answerable_of_calm ?_ ?_
  · rintro w c rfl
    rfl
  · rintro w call about c rfl
    rfl

end TelegramWebhook

end VipChannel

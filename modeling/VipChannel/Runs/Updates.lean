/-
  VipChannel.Runs.Updates

  What a Telegram user is told, and what was committed by then: a reply goes out after
  the commit of what it speaks of, and an update whose handling fails leaves nothing but
  the answer that the service is unavailable.
-/
import VipChannel.Persistence.LostAnswers
import VipChannel.Services.ConversationSpec
import VipChannel.Services.ServiceCalls
import VipChannel.Runs.Events

namespace VipChannel

open Lib TelegramWebhook
open Program (perform raising)

/-! ## What is said -/

/-- The worlds differ by messages to a chat with texts of `texts`, and in nothing that is
    committed. -/
structure World.Says (chatId : Int) (texts : List String) (w w' : World) : Prop where
  db : w'.db = w.db
  calls : ∃ calls, w'.allSent = w.allSent ++ calls ∧
    ∀ s ∈ calls, ∃ text ∈ texts, s.call = .sendMessage chatId text

namespace World.Says

variable {chatId : Int} {texts : List String} {w w' w'' : World}

theorem refl : w.Says chatId texts w :=
  ⟨rfl, [], (List.append_nil _).symm, fun _ hs => absurd hs List.not_mem_nil⟩

theorem trans (h : w.Says chatId texts w') (h' : w'.Says chatId texts w'') :
    w.Says chatId texts w'' := by
  obtain ⟨calls, hsent, hcalls⟩ := h.calls
  obtain ⟨calls', hsent', hcalls'⟩ := h'.calls
  refine ⟨h'.db.trans h.db, calls ++ calls', ?_, fun s hs => ?_⟩
  · rw [hsent', hsent, List.append_assoc]
  · rcases List.mem_append.mp hs with hs | hs
    · exact hcalls s hs
    · exact hcalls' s hs

theorem mono {texts' : List String} (h : w.Says chatId texts w') (hsub : texts ⊆ texts') :
    w.Says chatId texts' w' := by
  obtain ⟨calls, hsent, hcalls⟩ := h.calls
  refine ⟨h.db, calls, hsent, fun s hs => ?_⟩
  obtain ⟨text, htext, hcall⟩ := hcalls s hs
  exact ⟨text, hsub htext, hcall⟩

end World.Says

section Sending

variable {G : World → Op → Choice → Prop} {w : World} {chatId : Int}

theorem says_deliver (text : String) :
    wp (serial G) (deliver chatId text) (fun _ w' => w.Says chatId [text] w') w := by
  have hsaid : ∀ c : Choice, w.Says chatId [text]
      { w with txSent := w.txSent ++ [w.record c (.sendMessage chatId text) none] } := by
    intro c
    refine ⟨rfl, [w.record c (.sendMessage chatId text) none], ?_, fun s hs => ⟨text, ?_, ?_⟩⟩
    · simp only [World.allSent, List.append_assoc]
    · exact List.mem_singleton.mpr rfl
    · rw [List.mem_singleton.mp hs]
      rfl
  have hcaught : ∀ (e : PyError) (w' : World), w.Says chatId [text] w' →
      wp (serial G) (if e.cls = .providerUnavailableError then pure () else throw e : App Unit)
        (fun _ w' => w.Says chatId [text] w') w' := by
    intro e w' h
    split <;> exact h
  unfold deliver TelegramBotProvider.sendMessage serial
  rw [wp_tryCatch, wp_perform_handler]
  intro c _
  simp only [World.step]
  cases c.fault with
  | none => exact hsaid c
  | some e =>
    dsimp only
    split
    · exact hcaught e _ (hsaid c)
    · exact hcaught e _ .refl

theorem says_deliverAll (replies : List Reply) :
    wp (serial G) (deliverAll chatId replies)
      (fun _ w' => w.Says chatId (replies.map (·.text)) w') w := by
  induction replies generalizing w with
  | nil => exact .refl
  | cons reply rest ih =>
    unfold deliverAll
    rw [wp_bind]
    refine wp_mono ?_ (says_deliver reply.text)
    intro x w₁ hfirst
    have hhead : w.Says chatId ((reply :: rest).map (·.text)) w₁ := hfirst.mono (by simp)
    cases x with
    | error e => exact hhead
    | ok u =>
      refine wp_mono ?_ ih
      intro y w₂ hrest
      exact hhead.trans (hrest.mono (by simp))

/-- The texts a result is answered with. -/
def answers : Option (List Reply) → List String
  | none => [Messages.PROVIDER_UNAVAILABLE]
  | some replies => replies.map (·.text)

theorem says_respond (result : Option (List Reply)) :
    wp (serial G) (respond chatId result) (fun _ w' => w.Says chatId (answers result) w') w := by
  cases result with
  | none => exact says_deliver _
  | some replies => exact says_deliverAll replies

end Sending

/-! ## What is committed -/

/-- Nothing is committed, and no message but one is sent. -/
structure Undone (incoming : IncomingUpdate) (w w' : World) : Prop where
  db : w'.db = w.db
  said : ∃ calls, w'.allSent = w.allSent ++ calls ∧ ∀ s ∈ calls, ∀ chatId text,
    s.call = .sendMessage chatId text →
      chatId = incoming.chatId ∧ text = Messages.PROVIDER_UNAVAILABLE

/-- The committed rows hold the membership of a Telegram user with the link. -/
def Database.Confirms (d : Database) (tenantId : TenantId) (telegramUserId : Int)
    (link : String) : Prop :=
  ∃ user ∈ d .telegramUsers, user.tenantId = tenantId ∧ user.telegramUserId = telegramUserId ∧
    ∃ m ∈ d .vipMemberships, m.tenantId = tenantId ∧ m.userId = user.id ∧
      m.inviteLink = some link ∧ (m.status = .invited ∨ m.status = .active)

/-- `w₁` is committed, the replies are all that is sent, and where one carries a link, the
    committed rows confirm it. -/
structure Confirmed (tenantId : TenantId) (incoming : IncomingUpdate) (replies : List Reply)
    (w w₁ w' : World) : Prop where
  db : w'.db = w₁.db
  said : ∃ calls, w'.allSent = w.allSent ++ calls ∧ ∀ s ∈ calls, ∀ chatId text,
    s.call = .sendMessage chatId text → chatId = incoming.chatId ∧
      (∃ reply ∈ replies, reply.text = text) ∧
      ∀ link, Messages.Hands text link →
        w'.db.Confirms tenantId incoming.userId link

/-- The update is one for the tenant of the path. -/
def Addressed (token : String) (update : Option IncomingUpdate) (w : World)
    (tenantId : TenantId) (incoming : IncomingUpdate) : Prop :=
  update = some incoming ∧
    ∃ route ∈ w.db .webhookRoutes, route.token = token ∧ route.tenantId = tenantId

/-- How a run of `receive_update` went, by what came of handling the update and of the
    commit. -/
inductive UpdateRun (G : World → Op → Choice → Prop) (ttl : TimeDelta) (token : String)
    (update : Option IncomingUpdate) (w w' : World) : Prop
  /-- It did not get as far as handling it. -/
  | unhandled : w'.db = w.db → w'.allSent = w.allSent → UpdateRun G ttl token update w w'
  | raised {tenantId : TenantId} {incoming : IncomingUpdate} {e : PyError} {w₁ : World} :
      Addressed token update w tenantId incoming →
      Runs (serial G) (BotConversation.handle ttl .bitunix tenantId incoming)
        (w.opened tenantId) (.error e) w₁ →
      Undone incoming w w' → UpdateRun G ttl token update w w'
  | uncommitted {tenantId : TenantId} {incoming : IncomingUpdate} {replies : List Reply}
      {e : PyError} {w₁ w₂ : World} :
      Addressed token update w tenantId incoming →
      Runs (serial G) (BotConversation.handle ttl .bitunix tenantId incoming)
        (w.opened tenantId) (.ok replies) w₁ →
      Runs (serial G) (perform Op.commit) w₁ (.error e) w₂ →
      Undone incoming w w' → UpdateRun G ttl token update w w'
  | committed {tenantId : TenantId} {incoming : IncomingUpdate} {replies : List Reply}
      {w₁ w₂ : World} :
      Addressed token update w tenantId incoming →
      Runs (serial G) (BotConversation.handle ttl .bitunix tenantId incoming)
        (w.opened tenantId) (.ok replies) w₁ →
      Runs (serial G) (perform Op.commit) w₁ (.ok ()) w₂ →
      Confirmed tenantId incoming replies w w₂ w' → UpdateRun G ttl token update w w'

section Handling

variable {G : World → Op → Choice → Prop} {ttl : TimeDelta} {w w' w₁ w₂ : World}
  {tenantId : TenantId} {incoming : IncomingUpdate} {replies : List Reply}

/-- What was sent, seen from before the session was opened. -/
theorem allSent_opened {calls : List Sent}
    (h : w'.ledger = ((w.opened tenantId).sending calls).ledger) :
    w'.allSent = w.allSent ++ calls := by
  have hs := congrArg Ledger.sent h
  have htx := congrArg Ledger.txSent h
  change w'.sent = w.sent ++ w.txSent at hs
  change w'.txSent = calls at htx
  unfold World.allSent
  rw [hs, htx]

/-- Nothing has been said yet when the handling ends, and nothing is committed. -/
structure Silent (w w' : World) : Prop where
  db : w'.db = w.db
  calls : ∃ calls, w'.allSent = w.allSent ++ calls ∧
    ∀ s ∈ calls, ∀ chatId text, s.call ≠ .sendMessage chatId text

theorem silent_of_mint {channel : TelegramChannel} {base : VIPMembership}
    {expireDate : DateTime} {link : String} {mintTenant : TenantId}
    (h : w'.ledger =
      ((w.opened tenantId).sending [mintCall mintTenant channel base expireDate link]).ledger) :
    Silent w w' := by
  refine ⟨congrArg Ledger.db h, _, allSent_opened h, fun s hs chatId text => ?_⟩
  rw [List.mem_singleton.mp hs]
  exact nofun

theorem silent_of_ledger (h : w'.ledger = (w.opened tenantId).ledger) : Silent w w' := by
  rw [← World.sending_nil (w.opened tenantId)] at h
  exact ⟨congrArg Ledger.db h, [], allSent_opened h, fun s hs => absurd hs List.not_mem_nil⟩

theorem silent_of_submitError {l : Ledger} (h : SubmitError G (w.opened tenantId) l)
    (hl : w'.ledger = l) : Silent w w' := by
  subst hl
  rcases h with hl | ⟨mintTenant, channel, base, expireDate, link, hl, -⟩
  · exact silent_of_ledger hl
  · exact silent_of_mint hl

/-- A submission says nothing itself. -/
theorem silent_of_handled
    (h : HandleResult G ttl .bitunix incoming (w.opened tenantId) replies w') :
    Silent w w' := by
  cases h with
  | quiet _ hsame => exact silent_of_ledger hsame.ledger
  | submitted hresult _ _ =>
    cases hresult with
    | quiet _ hsame => exact silent_of_ledger hsame.ledger
    | granted hg _ _ =>
      have hledger := hg.ledger
      rcases hg.invite.cases with ⟨-, -, rfl⟩ | ⟨expireDate, -, -, -, -, rfl⟩
      · rw [World.sending_nil] at hledger
        exact silent_of_ledger hledger
      · exact silent_of_mint hledger

/-- A link in a reply is on a membership of the user. -/
theorem confirms_of_handled
    (h : HandleResult G ttl .bitunix incoming (w.opened tenantId) replies w') {reply : Reply}
    (hreply : reply ∈ replies) {link : String} (hhands : Messages.Hands reply.text link) :
    w'.view.Confirms tenantId incoming.userId link := by
  cases h with
  | quiet hnone _ => exact absurd hhands (hnone reply hreply link)
  | submitted hresult htold hlinks =>
    have hlink := hlinks reply hreply link hhands
    have ht : w'.tenantId = tenantId := hresult.tenantId
    obtain ⟨userId, ⟨user, huser, hut, hutg, rfl⟩, hhanded⟩ := htold.user link hlink
    obtain ⟨m, hm, hmt, hmu, hml, hlive⟩ := hhanded.link link hlink
    refine ⟨user, huser, hut.trans ht, hutg, m, hm, hmt.trans ht, hmu, hml, ?_⟩
    cases hs : m.status with
    | invited => exact .inl rfl
    | active => exact .inr rfl
    | pending | suspended | expired | revoked =>
      rw [hs] at hlive
      cases hlive

end Handling

/-! ## Runs of the webhook -/

section Webhook

variable {G : World → Op → Choice → Prop} {env : EncryptionKey} {ttl : TimeDelta}
  {w w' w₁ w₂ : World} {tenantId : TenantId} {incoming : IncomingUpdate}
  {replies : List Reply} {token : String} {update : Option IncomingUpdate}

theorem World.Says.of_ledger {chatId : Int} {texts : List String} (h : w'.ledger = w.ledger) :
    w.Says chatId texts w' := by
  have hs := congrArg Ledger.sent h
  have htx := congrArg Ledger.txSent h
  change w'.sent = w.sent at hs
  change w'.txSent = w.txSent at htx
  refine ⟨congrArg Ledger.db h, [], ?_, fun s hs => absurd hs List.not_mem_nil⟩
  rw [List.append_nil]
  unfold World.allSent
  rw [hs, htx]

theorem Undone.of_silent (h : Silent w w₁)
    (hsaid : w₁.Says incoming.chatId (answers none) w') : Undone incoming w w' := by
  obtain ⟨calls, hsent, hcalls⟩ := h.calls
  obtain ⟨calls', hsent', hcalls'⟩ := hsaid.calls
  refine ⟨hsaid.db.trans h.db, calls ++ calls', ?_, fun s hs chatId text hcall => ?_⟩
  · rw [hsent', hsent, List.append_assoc]
  · rcases List.mem_append.mp hs with hs | hs
    · exact absurd hcall (hcalls s hs chatId text)
    · obtain ⟨text', htext, hcall'⟩ := hcalls' s hs
      rw [hcall] at hcall'
      cases hcall'
      exact ⟨rfl, List.mem_singleton.mp htext⟩

theorem Confirmed.of_silent (h : Silent w w₁)
    (hsaid : { w₁ with db := w₁.view }.Says incoming.chatId (answers (some replies)) w')
    (hconfirms : ∀ reply ∈ replies, ∀ link, Messages.Hands reply.text link →
      w₁.view.Confirms tenantId incoming.userId link) :
    Confirmed tenantId incoming replies w { w₁ with db := w₁.view } w' := by
  obtain ⟨calls, hsent, hcalls⟩ := h.calls
  obtain ⟨calls', hsent', hcalls'⟩ := hsaid.calls
  refine ⟨hsaid.db, calls ++ calls', ?_, fun s hs chatId text hcall => ?_⟩
  · rw [hsent', ← List.append_assoc, ← hsent]
    rfl
  · rcases List.mem_append.mp hs with hs | hs
    · exact absurd hcall (hcalls s hs chatId text)
    · obtain ⟨text', htext, hcall'⟩ := hcalls' s hs
      rw [hcall] at hcall'
      cases hcall'
      obtain ⟨reply, hreply, rfl⟩ := List.mem_map.mp htext
      refine ⟨rfl, ⟨reply, hreply, rfl⟩, fun link hhands => ?_⟩
      rw [hsaid.db]
      exact hconfirms reply hreply link hhands

/-- After a failure: the rollback, and the answer if it went through. -/
theorem undone_of_rollback {r : Except PyError Unit} {w₂ : World}
    {y : Except PyError (Option (List Reply))} (h : Silent w w₁)
    (hback : Runs (serial G) (do perform Op.rollback; return none) w₁ y w₂)
    (hrest : Continues (serial G) (respond incoming.chatId) y w₂ r w') :
    Undone incoming w w' := by
  obtain ⟨x, w₃, hroll, hend⟩ := runs_bind hback
  obtain ⟨c, -, hstep⟩ := runs_perform hroll
  have hledger : w₃.ledger = w₁.ledger := by
    have := congrArg (fun p => p.2.ledger) hstep
    exact this.symm
  cases x with
  | error e =>
    obtain ⟨rfl, rfl⟩ := hend
    obtain ⟨-, rfl⟩ := hrest
    exact .of_silent h (.of_ledger hledger)
  | ok u =>
    obtain ⟨rfl, rfl⟩ := hend
    have hsaid : w₂.Says incoming.chatId (answers none) w' := wp_sound (says_respond none) hrest
    exact .of_silent h (World.Says.trans (.of_ledger hledger) hsaid)

/-- What the session sees is what a commit leaves. -/
theorem commit_view (h : Runs (serial G) (perform Op.commit) w₁ (.ok ()) w₂) :
    w₂.db = w₁.view := by
  obtain ⟨c, -, hstep⟩ := runs_perform h
  simp only [World.step] at hstep
  split at hstep
  · cases hstep
  · cases hstep
    rfl

/-- The update is handled in a transaction, and what came of it is told. -/
theorem run_handled {r : Except PyError Unit} (hw : w.Sound)
    (haddressed : Addressed token update w tenantId incoming)
    (h : Runs (serial G) (do
        let result ← committed (BotConversation.handle ttl .bitunix tenantId incoming)
        respond incoming.chatId result) (w.opened tenantId) r w') :
    UpdateRun G ttl token update w w' := by
  have hmeets : Meets G
      (BotConversation.handle ttl .bitunix (w.opened tenantId).tenantId incoming)
      (HandleResult G ttl .bitunix incoming (w.opened tenantId))
      (fun _ => SubmitError G (w.opened tenantId)) (w.opened tenantId) :=
    BotConversation.meets_handle (hw.opened tenantId) rfl
  obtain ⟨y, w₂, hcommitted, hrest⟩ := runs_bind h
  obtain ⟨x, w₁, htried, hcaught⟩ := runs_tryCatch hcommitted
  obtain ⟨z, w₀, hhandle, hcommit⟩ := runs_bind htried
  have hresult := wp_sound hmeets hhandle
  cases z with
  | error e =>
    obtain ⟨rfl, rfl⟩ := hcommit
    exact .raised haddressed hhandle
      (undone_of_rollback (silent_of_submitError hresult rfl) hcaught hrest)
  | ok replies =>
    obtain ⟨u, w₃, hperform, hend⟩ := runs_bind hcommit
    obtain ⟨c, -, hstep⟩ := runs_perform hperform
    have hsilent : Silent w w₀ := silent_of_handled hresult
    simp only [World.step] at hstep
    split at hstep
    · cases hstep
      obtain ⟨rfl, rfl⟩ := hend
      exact .uncommitted haddressed hhandle hperform (undone_of_rollback hsilent hcaught hrest)
    · cases hstep
      obtain ⟨rfl, rfl⟩ := hend
      obtain ⟨rfl, rfl⟩ := hcaught
      have hsaid := wp_sound (says_respond (some replies)) hrest
      exact .committed haddressed hhandle hperform (.of_silent hsilent hsaid
        fun reply hreply link => confirms_of_handled hresult hreply)

theorem UpdateRun.close (h : UpdateRun G ttl token update w w') :
    UpdateRun G ttl token update w { w' with view := w'.db, conflict := none } := by
  cases h with
  | unhandled hdb hsent => exact .unhandled hdb hsent
  | raised hupdate hhandle hundone => exact .raised hupdate hhandle ⟨hundone.db, hundone.said⟩
  | uncommitted hupdate hhandle hcommit hundone =>
    exact .uncommitted hupdate hhandle hcommit ⟨hundone.db, hundone.said⟩
  | committed hupdate hhandle hcommit hconfirmed =>
    exact .committed hupdate hhandle hcommit ⟨hconfirmed.db, hconfirmed.said⟩

theorem run_process {r : Except PyError Unit} (hw : w.Sound)
    (haddressed : Addressed token update w tenantId incoming)
    (h : Runs (serial G) (process env ttl tenantId incoming) w r w') :
    UpdateRun G ttl token update w w' := by
  have hidle : wp (serial G) (configured env tenantId) (fun _ w' => w' = w.opened tenantId)
      (w.opened tenantId) := wp_reads (usesOnly_configured (fun _ h => h) _ _ _)
  obtain ⟨w₁, hbody, rfl⟩ := runs_withSession h
  obtain ⟨y, w₀, hconfigured, hrest⟩ := runs_bind hbody
  have hopen : w₀ = w.opened tenantId := wp_sound hidle hconfigured
  subst hopen
  have hunhandled : UpdateRun G ttl token update w (w.opened tenantId) :=
    .unhandled rfl (List.append_nil _)
  refine UpdateRun.close ?_
  cases y with
  | error e =>
    obtain ⟨-, rfl⟩ := hrest
    exact hunhandled
  | ok ready =>
    cases ready with
    | false =>
      obtain ⟨-, rfl⟩ := hrest
      exact hunhandled
    | true => exact run_handled hw haddressed hrest

/-- Looking a path up changes nothing, and finds a tenant by its token. -/
theorem wp_route :
    wp (serial G) (route token) (fun x w' => w' = w ∧ ∀ tenantId, x = .ok (some tenantId) →
      ∃ route ∈ w.db .webhookRoutes, route.token = token ∧ route.tenantId = tenantId) w := by
  unfold route serial
  rw [wp_bind, wp_perform_handler]
  intro c _
  simp only [World.step]
  cases c.fault with
  | some e => exact ⟨rfl, fun _ h => by cases h⟩
  | none =>
    rw [bindPost_ok, wp_raising]
    refine ⟨rfl, fun tenantId h => ?_⟩
    generalize hrows : pick c.order
      (((w.db .webhookRoutes).filter (·.token == token)).map (·.tenantId)) = rows at h
    have hmem : tenantId ∈ rows := by
      unfold scalarOneOrNone at h
      split at h
      · cases h
      · cases h
        exact List.mem_singleton.mpr rfl
      · cases h
    rw [← hrows, mem_pick] at hmem
    obtain ⟨found, hfound, rfl⟩ := List.mem_map.mp hmem
    obtain ⟨hmem, htoken⟩ := List.mem_filter.mp hfound
    exact ⟨found, hmem, beq_iff_eq.mp htoken, rfl⟩

theorem run_receiveUpdate {r : Except PyError Unit} (hw : w.Sound)
    (h : Runs (serial G) (receiveUpdate env ttl token update) w r w') :
    UpdateRun G ttl token update w w' := by
  obtain ⟨x, w₁, hroute, hrest⟩ := runs_bind h
  obtain ⟨hsame, hfound⟩ := wp_sound wp_route hroute
  subst hsame
  have hunhandled : UpdateRun G ttl token update w₁ w₁ := .unhandled rfl rfl
  cases x with
  | error e =>
    obtain ⟨-, rfl⟩ := hrest
    exact hunhandled
  | ok route =>
    cases route with
    | none =>
      obtain ⟨-, rfl⟩ := hrest
      exact hunhandled
    | some tenantId =>
      cases update with
      | none =>
        obtain ⟨-, rfl⟩ := hrest
        exact hunhandled
      | some incoming =>
        change Runs (serial G) (if incoming.userId = 0 then return () else
          process env ttl tenantId incoming) w₁ r w' at hrest
        split at hrest
        · obtain ⟨-, rfl⟩ := hrest
          exact hunhandled
        · exact run_process hw ⟨rfl, hfound tenantId rfl⟩ hrest

/-- What a user is told is committed by then; what fails leaves the database as it was, and
    no message but that the service is unavailable.  The database acknowledges what it
    commits. -/
theorem told_is_committed {H : World → Op → Choice × Bool → Prop} {r : Except PyError Unit}
    (hH : Acknowledged H) (hw : w.Sound)
    (h : Runs (losing H) (receiveUpdate env ttl token update) w r w') :
    UpdateRun (choices H) ttl token update w w' := by
  apply run_receiveUpdate hw
  exact (runs_losing_iff hH).mp h

end Webhook

/-! ## A first message -/

/-- The tenant with its credentials, its bot and its webhook. -/
def hookedDb : Database
  | .providerCredentials => [
    { id := 10, tenantId := 1, providerType := .bitunix, credentialName := BITUNIX_API_KEY
      encryptedSecret := "k" },
    { id := 11, tenantId := 1, providerType := .bitunix, credentialName := BITUNIX_API_SECRET
      encryptedSecret := "s" },
    { id := 12, tenantId := 1, providerType := .telegram, credentialName := TELEGRAM_BOT_TOKEN
      encryptedSecret := "t" }]
  | .telegramBotConfigs => [{ tenantId := 1, credentialId := 12 }]
  | .webhookRoutes => [{ tenantId := 1, token := "hook", provider := "TELEGRAM" }]
  | .referralProgramConfigs => [configOf .crypto]
  | .telegramChannels => [cryptoChannel]
  | .telegramUsers => []
  | .referralAccounts => []
  | .subscriptions => []
  | .vipMemberships => []
  | .tradingActivitySnapshots => []
  | .jobExecutions => []
  | .paymentRecords => []

def hookedWorld : World := { configuredWorld with db := hookedDb }

theorem sound_hookedWorld : hookedWorld.Sound := by
  have hd : Distinct hookedDb := by
    intro t
    cases t <;> decide
  exact ⟨hd, initial_configuredWorld.sound.view, initial_configuredWorld.sound.saved⟩

def uidMessage : IncomingUpdate := { chatId := 77, userId := 77, text := some "123456789" }

/-- An exchange that knows every UID, and a day on which nothing fails. -/
def welcomingEnv : World → Op → Choice := calmEnv 100 fun uid => some (fundedCheck uid)

def afterMessage : World :=
  (exec World.step welcomingEnv (receiveUpdate (.key some) defaultSettings.ttl "hook"
    (some uidMessage)) hookedWorld).2

/-- The user sends a UID in good standing: the link is told, and on record. -/
theorem first_message_told :
    UpdateRun (Only welcomingEnv) defaultSettings.ttl "hook" (some uidMessage) hookedWorld
        afterMessage ∧
      afterMessage.allSent.map (·.call) = [
        .createChatInviteLink (-1001) 1 (some 8726400) (some "vip-0"),
        .sendMessage 77 (Messages.INVITED "https://t.me/+0")] := by
  have hclose : ∀ w c, Only welcomingEnv w .closeSession c → c.fault = none := by
    rintro w c rfl
    rfl
  have hruns := runs_only welcomingEnv
    (receiveUpdate (.key some) defaultSettings.ttl "hook" (some uidMessage)) hookedWorld
  have htold := told_is_committed (acknowledged_keeping _) sound_hookedWorld
    ((runs_keeping_iff hclose).mpr hruns)
  rw [choices_keeping hclose] at htold
  exact ⟨htold, by decide +kernel⟩

end VipChannel

/-
  VipChannel.Web.Verification

  What `verified_at` stands for: Telegram named the bot while the secret that is stored now
  was stored.

  The bot's token is kept as a credential, and what came of checking it on the bot's
  configuration as well.  Storing a secret resets the one, and PUT /telegram-bot both; PUT
  /credentials for the bot's token leaves the configuration as it is.

  A request is followed with the calls it makes, each with the world it was made in, so that
  a history can say which secret was stored when Telegram gave the bot's name.
-/
import VipChannel.Lib.Visits
import VipChannel.Web.IntegrationCheck
import VipChannel.Web.AdminCalls

namespace VipChannel

open Lib
open Program (perform raising usesOnly_bind usesOnly_tryCatch usesOnly_perform)

/-! ## Storing a secret -/

/-- The secret of a credential, and whose it is. -/
def secretOf (r : ProviderCredential) : RowId × TenantId × ProviderType × String × String :=
  (r.id, r.tenantId, r.providerType, r.credentialName, r.encryptedSecret)

/-- The secret of the record is stored, under its name. -/
def Database.Keeps (d : Database) (record : ProviderCredential) : Prop :=
  ∃ held ∈ d .providerCredentials, secretOf held = secretOf record

/-- `record` is the credential of the name now, and unverified; all else is as it was. -/
structure Stored (providerType : ProviderType) (name : String) (record : ProviderCredential)
    (w w' : World) : Prop where
  db : w'.db = w.db
  tenantId_eq : w'.tenantId = w.tenantId
  secret : IsSecret w.tenantId providerType name record
  unverified : record.verifiedAt = none
  there : record ∈ w'.view .providerCredentials
  others : ∀ r ∈ w'.view .providerCredentials, r = record ∨
    r ∈ w.view .providerCredentials ∧ ¬ IsSecret w.tenantId providerType name r
  kept : ∀ r ∈ w.view .providerCredentials, ¬ IsSecret w.tenantId providerType name r →
    r ∈ w'.view .providerCredentials
  bots : w'.view .telegramBotConfigs = w.view .telegramBotConfigs

theorem IsSecret.clash {tenantId : TenantId} {providerType : ProviderType} {name : String}
    {r s : ProviderCredential} (hr : IsSecret tenantId providerType name r)
    (hs : IsSecret tenantId providerType name s) :
    VipChannel.clash .providerCredentials r s = true := by
  simp [VipChannel.clash, hr.tenantId_eq, hr.providerType_eq, hr.name_eq, hs.tenantId_eq,
    hs.providerType_eq, hs.name_eq]

/-- The calls of some runs, each with the world it was made in. -/
abbrev CallLog := List (CallRecord Op Op.Ret PyError World)

namespace Admin

variable {G : World → Op → Choice → Prop} {env : EncryptionKey} {w : World}

theorem meets_encryptSecret {secret : String} {Q : String → World → Prop}
    {E : PyError → Ledger → Prop} (hok : ∀ ciphertext, Q ciphertext w)
    (herr : ∀ e, E e w.ledger) : Meets G (encryptSecret env secret) Q E w := by
  unfold encryptSecret
  split
  · exact herr _
  · rw [meets_bind]
    refine meets_raising (fun _ _ => ?_) herr
    exact meets_perform fun c _ => hok c.ciphertext

theorem bots_ne_credentials : Table.telegramBotConfigs ≠ .providerCredentials := by decide

theorem keepsKeys_rotated (tenantId : TenantId) (ciphertext secret : String) :
    KeepsKeys tenantId .providerCredentials (rotated ciphertext secret) :=
  fun _ _ _ => rfl

/-- A new credential, where there was none of the name. -/
theorem stored_new {providerType : ProviderType} {name : String} {record : ProviderCredential}
    (hnone : ¬ w.view.Stores w.tenantId providerType name)
    (hsecret : IsSecret w.tenantId providerType name record)
    (hunverified : record.verifiedAt = none) :
    Stored providerType name record w
      { w with view := w.view.append .providerCredentials record } := by
  refine ⟨rfl, rfl, hsecret, hunverified, ?_, fun r hr => ?_, fun r hr _ => ?_, ?_⟩
  · simp
  · simp only [Store.append_self, List.mem_append, List.mem_singleton] at hr
    rcases hr with hr | hr
    · exact .inr ⟨hr, fun hs => hnone ⟨r, hr, hs⟩⟩
    · exact .inl hr
  · simp [hr]
  · exact Store.append_other w.view bots_ne_credentials record

/-- A credential that is rotated. -/
theorem stored_rotated {providerType : ProviderType} {name ciphertext secret : String}
    {existing : ProviderCredential} (hw : w.Sound)
    (hmem : existing ∈ w.view .providerCredentials)
    (hsecret : IsSecret w.tenantId providerType name existing) :
    Stored providerType name (rotated ciphertext secret existing) w
      { w with
        view := w.view.modify .providerCredentials
          (w.inScope (t := .providerCredentials) fun r => r.id == existing.id)
          (rotated ciphertext secret) } := by
  have hscope : w.inScope (t := .providerCredentials) (fun r => r.id == existing.id) existing =
      true := by
    simp [World.inScope, rowTenant, hsecret.tenantId_eq]
  have hone : ∀ r ∈ w.view .providerCredentials,
      w.inScope (t := .providerCredentials) (fun r => r.id == existing.id) r = true →
        r = existing := by
    intro r hr hr'
    have hid : r.id = existing.id := by simpa using World.inScope_cond hr'
    exact hw.view.eq_of_clash (t := .providerCredentials) hr hmem (by simp [clash, hid])
  refine ⟨rfl, rfl, ⟨hsecret.tenantId_eq, hsecret.providerType_eq, hsecret.name_eq⟩, rfl, ?_,
    fun r hr => ?_, fun r hr hno => ?_, ?_⟩
  · simp only [Store.modify_self]
    exact change_mem_modifyRows hmem hscope
  · simp only [Store.modify_self] at hr
    obtain ⟨r₀, hr₀, rfl⟩ := mem_modifyRows.mp hr
    split
    · next h => exact .inl (by rw [hone r₀ hr₀ h])
    · next h =>
      refine .inr ⟨hr₀, fun hs => ?_⟩
      rw [hw.view.eq_of_clash (t := .providerCredentials) hr₀ hmem (hs.clash hsecret)] at h
      exact h hscope
  · simp only [Store.modify_self]
    refine mem_modifyRows.mpr ⟨r, hr, (if_neg fun h => hno ?_).symm⟩
    rw [hone r hr h]
    exact hsecret
  · exact Store.modify_other w.view bots_ne_credentials
      (w.inScope (t := .providerCredentials) fun r => r.id == existing.id)
      (rotated ciphertext secret)

theorem meets_storeSecret {providerType : ProviderType} {name secret : String} (hw : w.Sound) :
    Meets G (storeSecret env w.tenantId providerType name secret)
      (fun record w' => Stored providerType name record w w') (fun _ l => l.db = w.db) w := by
  unfold storeSecret ProviderCredentialRepository.getNamed
  rw [meets_bind]
  refine meets_raising (fun _ _ => ?_) fun _ => rfl
  rw [meets_bind]
  refine meets_selectOneOrNone (fun _ found hfound => ?_) fun _ => rfl
  rw [meets_bind]
  refine meets_tryCatch (?_ : Meets G _ _ (fun _ l => l.db = w.db) w) fun e w' he => ?_
  · refine meets_encryptSecret (fun ciphertext => ?_) fun _ => rfl
    rw [meets_bind]
    refine meets_raising (fun _ _ => ?_) fun _ => rfl
    rcases secret_found env hfound with ⟨rfl, hnone⟩ | ⟨existing, rfl, hmem, hsecret, -⟩
    · dsimp only
      rw [meets_bind]
      refine meets_uuid4 fun id => ?_
      refine meets_saveNew rfl (by simp) (fun r hr => ?_) (fun _ _ => ?_) fun _ => rfl
      · have hid : r.id = id := by simpa using hr
        simp [clash, hid]
      · exact stored_new hnone ⟨rfl, rfl, rfl⟩ rfl
    · dsimp only
      rw [meets_bind]
      refine meets_update (keepsKeys_rotated _ _ _) ?_
      exact stored_rotated hw hmem hsecret
  · split <;> exact he

/-! ## The bot before Telegram is asked -/

/-- `upsert_bot` up to the call of Telegram. -/
def saveBot (env : EncryptionKey) (tenantId : TenantId) (payload : BotConfigRequest) :
    App (ProviderCredential × String) := do
  let credential ← storeSecret env tenantId .telegram TELEGRAM_BOT_TOKEN payload.botToken
  flush
  match ← TelegramBotConfigRepository.get tenantId with
  | some _ => pure ()
  | none =>
    let _ ← saveNew .telegramBotConfigs (isBotOf tenantId)
      { tenantId, credentialId := credential.id }
  update .telegramBotConfigs (isBotOf tenantId) fun r => { r with credentialId := credential.id }
  let token ← ensureWebhookRoute tenantId
  return (credential, token)

theorem upsertBot_eq (env : EncryptionKey) (tenantId : TenantId) (payload : BotConfigRequest) :
    upsertBot env tenantId payload = (do
      let saved ← saveBot env tenantId payload
      let verified ← verifyBot env tenantId
      recordBot tenantId saved.1 saved.2 verified) := by
  unfold upsertBot saveBot
  simp only [bind_assoc]
  congr 1
  funext credential
  congr 1
  funext u
  congr 1
  funext config
  cases config <;> simp only [bind_assoc, pure_bind]

/-- What a session has of credentials is that of another. -/
structure SameSecrets (w w' : World) : Prop where
  db : w'.db = w.db
  tenantId_eq : w'.tenantId = w.tenantId
  credentials : w'.view .providerCredentials = w.view .providerCredentials

theorem SameSecrets.refl (w : World) : SameSecrets w w := ⟨rfl, rfl, rfl⟩

theorem SameSecrets.trans {w w' w'' : World} (h : SameSecrets w w') (h' : SameSecrets w' w'') :
    SameSecrets w w'' :=
  ⟨h'.db.trans h.db, h'.tenantId_eq.trans h.tenantId_eq, h'.credentials.trans h.credentials⟩

theorem SameSecrets.of_view {w : World} {v : Database}
    (h : v .providerCredentials = w.view .providerCredentials) :
    SameSecrets w { w with view := v } :=
  ⟨rfl, rfl, h⟩

theorem meets_ensureWebhookRoute {tenantId : TenantId} (ht : w.tenantId = tenantId) :
    Meets G (ensureWebhookRoute tenantId) (fun _ w' => SameSecrets w w')
      (fun _ l => l.db = w.db) w := by
  subst ht
  unfold ensureWebhookRoute
  rw [meets_bind]
  refine meets_selectOneOrNone (fun _ route _ => ?_) fun _ => rfl
  cases route with
  | some existing => exact .refl w
  | none =>
    dsimp only
    rw [meets_bind]
    refine meets_perform fun c _ => ?_
    show Meets G (add .webhookRoutes _ >>= fun _ => flush >>= fun _ => pure c.token) _ _ w
    rw [meets_bind]
    refine meets_add ?_
    rw [meets_bind]
    have hsame : SameSecrets w (w.withPending .webhookRoutes
        { tenantId := w.tenantId, token := c.token, provider := "TELEGRAM" }) := by
      unfold World.withPending
      split
      · exact ⟨rfl, rfl, rfl⟩
      · exact .of_view (Store.append_other w.view (by decide) _)
    refine meets_flush (fun _ => ?_) fun _ => ?_
    · exact hsame
    · exact hsame.db

/-- The token is stored, and unverified; nothing else is done to credentials. -/
theorem meets_saveBot {payload : BotConfigRequest} (hw : w.Sound) :
    Meets G (saveBot env w.tenantId payload)
      (fun saved w' => ∃ w₁ : World, w₁.Sound ∧
        Stored .telegram TELEGRAM_BOT_TOKEN saved.1 w w₁ ∧ SameSecrets w₁ w')
      (fun _ l => l.db = w.db) w := by
  unfold saveBot TelegramBotConfigRepository.get
  rw [meets_bind]
  refine meets_sound hw (meets_mono (meets_storeSecret hw)
    (fun credential w₁ hstored hw₁ => ?_) fun _ _ he => he)
  have hdb : w₁.db = w.db := hstored.db
  rw [← hstored.tenantId_eq, meets_bind]
  refine meets_flush (fun _ => ?_) fun _ => hdb
  rw [meets_bind]
  refine meets_selectOneOrNone (fun _ config _ => ?_) fun _ => hdb
  have hrest : ∀ w₂, SameSecrets w₁ w₂ →
      Meets G (do
        update .telegramBotConfigs (isBotOf w₁.tenantId) fun r =>
          { r with credentialId := credential.id }
        let token ← ensureWebhookRoute w₁.tenantId
        return (credential, token) : App (ProviderCredential × String))
      (fun saved w' => ∃ w₁ : World, w₁.Sound ∧
        Stored .telegram TELEGRAM_BOT_TOKEN saved.1 w w₁ ∧ SameSecrets w₁ w')
      (fun _ l => l.db = w.db) w₂ := by
    intro w₂ hsame
    rw [meets_bind]
    refine meets_update (fun _ _ _ => rfl) ?_
    rw [meets_bind]
    have hnext : SameSecrets w₂ { w₂ with
        view := w₂.view.modify .telegramBotConfigs (w₂.inScope (isBotOf w₁.tenantId))
          fun r => { r with credentialId := credential.id } } :=
      .of_view (Store.modify_other w₂.view (by decide) _ _)
    refine meets_mono (meets_ensureWebhookRoute hsame.tenantId_eq) (fun token w₃ hlast => ?_)
      fun _ _ he => ?_
    · exact ⟨w₁, hw₁, hstored, (hsame.trans hnext).trans hlast⟩
    · exact (Eq.trans he hsame.db).trans hdb
  cases config with
  | some existing => exact hrest w₁ (.refl w₁)
  | none =>
    dsimp only
    rw [meets_bind]
    refine meets_saveNew rfl (by simp [isBotOf]) (fun r hr => ?_) (fun _ _ => ?_) fun _ => hdb
    · have ht : r.tenantId = w₁.tenantId := by simpa [isBotOf] using hr
      simp [clash, ht]
    · exact hrest _ (.of_view (Store.append_other w₁.view (by decide) _))

/-! ## Asking Telegram -/

/-- Telegram answered for the token of a bot that the session of `w` stored, and the answer
    gives this name. -/
def Named (env : EncryptionKey) (log : CallLog) (w : World) (username : Json) : Prop :=
  ∃ (botToken : String) (answer : BotApiAnswer) (identity : BotIdentity),
    ⟨w, .telegram (.getMe botToken) none, .ok answer⟩ ∈ log ∧
    TelegramBotProvider.identityOf answer = .ok identity ∧ identity.username = username ∧
    ∃ held ∈ w.view .providerCredentials,
      IsSecret w.tenantId .telegram TELEGRAM_BOT_TOKEN held ∧
        decryptSecret env held.encryptedSecret = .ok botToken

/-- The token of the session's bot is a stored one that could be opened. -/
theorem meets_botToken {Q : String → World → Prop} {E : PyError → Ledger → Prop}
    (hok : ∀ token held, held ∈ w.view .providerCredentials →
      IsSecret w.tenantId .telegram TELEGRAM_BOT_TOKEN held →
      decryptSecret env held.encryptedSecret = .ok token → Q token w)
    (herr : ∀ e, E e w.ledger) : Meets G (ProviderFactory.telegram env w.tenantId) Q E w := by
  unfold ProviderFactory.telegram TelegramBotConfigRepository.get
  rw [meets_bind]
  refine meets_selectOneOrNone (fun _ config _ => ?_) herr
  cases config with
  | none => exact herr _
  | some config =>
    show Meets G (ProviderFactory.secret env w.tenantId .telegram TELEGRAM_BOT_TOKEN) Q E w
    unfold ProviderFactory.secret ProviderCredentialRepository.getNamed
    rw [meets_bind]
    refine meets_selectOneOrNone (fun _ found hfound => ?_) herr
    rcases secret_found env hfound with ⟨rfl, -⟩ | ⟨held, rfl, hmem, hsecret, -⟩
    · exact herr _
    · exact meets_raising (fun token htoken => hok token held hmem hsecret htoken) herr

/-- Looking rows up, asking Telegram and reading the clock leave credentials alone. -/
theorem wp_sameSecrets {α : Type} {p : App α}
    (hp : p.UsesOnly fun op => op.reads ∨ (∃ botToken, op = .telegram (.getMe botToken) none) ∨
      op = .utcnow) :
    wp (serial G) p (fun _ w' => SameSecrets w w') w := by
  refine wp_usesOnly (I := fun w' => SameSecrets w w') (fun s op c hop _ hs => ?_) hp (.refl w)
  rcases hop with hreads | ⟨botToken, rfl⟩ | rfl
  · cases op with
    | select t cond => exact hs
    | _ => exact hreads.elim
  · simp only [World.step]
    split
    · split <;> exact ⟨hs.db, hs.tenantId_eq, hs.credentials⟩
    · exact ⟨hs.db, hs.tenantId_eq, hs.credentials⟩
  · exact ⟨hs.db, hs.tenantId_eq, hs.credentials⟩

theorem sameSecrets_verifyBot :
    wp (serial G) (verifyBot env w.tenantId) (fun _ w' => SameSecrets w w') w := by
  apply wp_sameSecrets
  refine usesOnly_tryCatch ?_ fun e => ?_
  · refine usesOnly_bind (ProviderFactory.usesOnly_telegram (fun _ h => .inl h) _ _) fun _ => ?_
    refine usesOnly_bind (usesOnly_getMe (fun t => .inr (.inl ⟨t, rfl⟩)) _) fun identity => ?_
    exact usesOnly_bind ((usesOnly_perform _).mpr (.inr (.inr rfl))) fun _ => trivial
  · split <;> trivial

/-- A verification that succeeds is on record: Telegram answered with the name, and the
    session stored the token then. -/
theorem wp_verifyBot_logged {log : CallLog} :
    wp (serial G).logged (verifyBot env w.tenantId)
      (fun r s => SameSecrets w s.1 ∧ (∀ v ∈ log, v ∈ s.2) ∧
        ∀ username at_, r = .ok (some (username, at_)) → Named env s.2 w username) (w, log) := by
  have hkept : wp (serial G).logged (verifyBot env w.tenantId)
      (fun _ s => SameSecrets w s.1 ∧ ∀ v ∈ log, v ∈ s.2) (w, log) :=
    Machine.wp_logged sameSecrets_verifyBot
  have hnamed : wp (serial G).logged (verifyBot env w.tenantId)
      (fun r s => ∀ username at_, r = .ok (some (username, at_)) → Named env s.2 w username)
      (w, log) := by
    -- The handler never answers with a name.
    have hcaught : ∀ (e : PyError) (s : World × CallLog),
        wp (serial G).logged (if e.cls = .providerUnavailableError ∨
            e.cls = .missingCredentialError then pure none
          else throw e : App (Option (Json × DateTime)))
          (fun r s => ∀ username at_, r = .ok (some (username, at_)) → Named env s.2 w username)
          s := by
      intro e s
      split
      · intro username at_ h
        cases h
      · intro username at_ h
        cases h
    unfold verifyBot
    rw [wp_tryCatch]
    have htoken : Meets G (ProviderFactory.telegram env w.tenantId)
        (fun token w' => w' = w ∧ ∃ held ∈ w.view .providerCredentials,
          IsSecret w.tenantId .telegram TELEGRAM_BOT_TOKEN held ∧
            decryptSecret env held.encryptedSecret = .ok token) (fun _ _ => True) w :=
      meets_botToken (fun token held hmem hsecret hopen => ⟨rfl, held, hmem, hsecret, hopen⟩)
        fun _ => trivial
    refine Machine.wp_bind_logged htoken ?_ fun e w' log' _ _ => hcaught e (w', log')
    rintro token w' log' ⟨rfl, held, hmem, hsecret, hopen⟩ -
    unfold TelegramBotProvider.getMe
    rw [wp_bind, wp_bind]
    refine Machine.wp_perform_logged trivial fun x w'' _ => ?_
    cases x with
    | error e => exact hcaught e _
    | ok answer =>
    show bindPost _ _ _ _ _
    rw [bindPost_ok, wp_raising]
    cases hidentity : TelegramBotProvider.identityOf answer with
    | error e => exact hcaught e _
    | ok identity =>
      show wp (serial G).logged (utcnow >>= fun t => pure (some (identity.username, t))) _ _
      have hclock : Meets G utcnow (fun _ _ => True) (fun _ _ => True) w'' :=
        meets_utcnow fun _ _ => trivial
      refine Machine.wp_bind_logged hclock (fun t w₃ log₃ _ hlog => ?_)
        fun e w₃ log₃ _ _ => hcaught e (w₃, log₃)
      intro username at_ h
      cases h
      exact ⟨token, answer, identity,
        hlog _ (List.mem_append_right _ (List.mem_singleton_self _)), hidentity, rfl, held, hmem,
        hsecret, hopen⟩
  refine wp_mono ?_ (wp_and hkept hnamed)
  rintro r s ⟨⟨hsame, hlog⟩, hname⟩
  exact ⟨hsame, hlog, hname⟩

/-! ## Writing the answer down -/

/-- The verification is recorded on the tenant's bot, and on the credential if it succeeded. -/
structure VerificationKept (credential : ProviderCredential)
    (verified : Option (Json × DateTime)) (w w' : World) : Prop where
  db : w'.db = w.db
  secrets : (w'.view .providerCredentials).map secretOf =
    (w.view .providerCredentials).map secretOf
  credentials : ∀ r' ∈ w'.view .providerCredentials, r' ∈ w.view .providerCredentials ∨
    (verified.isSome = true ∧ r'.id = credential.id)
  fits : ∀ username at_, verified = some (username, at_) →
    ∃ kept, usernameColumn username = .ok kept
  bots : ∀ c' ∈ w'.view .telegramBotConfigs, c'.tenantId = w.tenantId →
    usernameColumn ((verified.map (·.1)).getD .null) = .ok c'.botUsername ∧
      c'.verifiedAt = verified.map (·.2)

theorem meets_recordBot {credential : ProviderCredential} {token : String}
    {verified : Option (Json × DateTime)} {tenantId : TenantId}
    (ht : w.tenantId = tenantId) :
    Meets G (recordBot tenantId credential token verified)
      (fun _ w' => VerificationKept credential verified w w') (fun _ l => l.db = w.db) w := by
  subst ht
  unfold recordBot
  rw [meets_bind]
  refine meets_raising (fun botUsername hname => ?_) fun _ => rfl
  dsimp only
  rw [meets_bind]
  refine meets_update (fun _ _ _ => rfl) ?_
  let noted (r : TelegramBotConfig) : TelegramBotConfig :=
    { r with botUsername, verifiedAt := verified.map (·.2) }
  let w₁ : World := { w with
    view := w.view.modify .telegramBotConfigs (w.inScope (isBotOf w.tenantId)) noted }
  have hbots : ∀ c' ∈ w₁.view .telegramBotConfigs, c'.tenantId = w.tenantId →
      usernameColumn ((verified.map (·.1)).getD .null) = .ok c'.botUsername ∧
        c'.verifiedAt = verified.map (·.2) := by
    intro c' hc' ht
    have hrows : w₁.view .telegramBotConfigs =
        modifyRows (w.inScope (isBotOf w.tenantId)) noted (w.view .telegramBotConfigs) :=
      Store.modify_self w.view .telegramBotConfigs _ noted
    rw [hrows] at hc'
    obtain ⟨c, -, rfl⟩ := mem_modifyRows.mp hc'
    split
    · exact ⟨hname, rfl⟩
    · next hscope =>
      rw [if_neg hscope] at ht
      exact absurd (by simp [World.inScope, rowTenant, isBotOf, ht]) hscope
  have hcreds : w₁.view .providerCredentials = w.view .providerCredentials :=
    Store.modify_other w.view bots_ne_credentials.symm (w.inScope (isBotOf w.tenantId)) noted
  have hfits : ∀ username at_, verified = some (username, at_) →
      ∃ kept, usernameColumn username = .ok kept := by
    rintro username at_ rfl
    exact ⟨botUsername, hname⟩
  change Meets G _ _ _ w₁
  have hdb : w₁.db = w.db := rfl
  clear_value w₁
  cases verified with
  | none =>
    show Meets G (flush >>= fun _ => pure _) _ _ _
    rw [meets_bind]
    refine meets_flush (fun _ => ?_) fun _ => hdb
    refine ⟨hdb, congrArg (List.map secretOf) hcreds, fun r' hr' => ?_, hfits, hbots⟩
    left
    rwa [hcreds] at hr'
  | some answer =>
    show Meets G (update .providerCredentials _ _ >>= fun _ => flush >>= fun _ => pure _) _ _ _
    rw [meets_bind]
    refine meets_update (fun _ _ _ => rfl) ?_
    rw [meets_bind]
    refine meets_flush (fun _ => ?_) fun _ => hdb
    refine ⟨hdb, ?_, fun r' hr' => ?_, hfits, fun c' hc' ht => ?_⟩
    · simp only [Store.modify_self]
      have hsecret : ∀ r : ProviderCredential,
          secretOf { r with verifiedAt := some answer.2 } = secretOf r := fun _ => rfl
      rw [map_modifyRows hsecret, hcreds]
    · simp only [Store.modify_self] at hr'
      obtain ⟨r, hr, rfl⟩ := mem_modifyRows.mp hr'
      rw [hcreds] at hr
      split
      · next hscope =>
        have hid := World.inScope_cond hscope
        exact .inr ⟨rfl, by simpa using hid⟩
      · exact .inl hr
    · simp only [Store.modify_other _ bots_ne_credentials] at hc'
      exact hbots c' hc' ht

/-! ## The bot as a whole -/

/-- The record is the bot's token, and one of the calls asked Telegram whose this very token
    is, while the session stored the record: the answer gives the bot's name, as the column
    keeps it. -/
structure VouchedIn (env : EncryptionKey) (calls : CallLog) (record : ProviderCredential)
    (username : Option String) : Prop where
  secret : IsSecret record.tenantId .telegram TELEGRAM_BOT_TOKEN record
  named : ∃ (w : World) (botToken : String) (answer : BotApiAnswer) (identity : BotIdentity),
    decryptSecret env record.encryptedSecret = .ok botToken ∧
    ⟨w, .telegram (.getMe botToken) none, .ok answer⟩ ∈ calls ∧
    TelegramBotProvider.identityOf answer = .ok identity ∧
    usernameColumn identity.username = .ok username ∧
    w.tenantId = record.tenantId ∧ w.view.Keeps record

/-- Calls that are added take nothing away. -/
theorem VouchedIn.mono {env : EncryptionKey} {calls calls' : CallLog}
    {record : ProviderCredential} {username : Option String}
    (h : VouchedIn env calls record username) (hsub : ∀ v ∈ calls, v ∈ calls') :
    VouchedIn env calls' record username := by
  obtain ⟨w, botToken, answer, identity, hopens, hvisit, hrest⟩ := h.named
  exact ⟨h.secret, w, botToken, answer, identity, hopens, hsub _ hvisit, hrest⟩

/-- What PUT /telegram-bot leaves when it returns. -/
structure BotSaved (env : EncryptionKey) (w : World) (s : World × CallLog) : Prop where
  db : s.1.db = w.db
  credentials : ∀ r' ∈ s.1.view .providerCredentials, r'.verifiedAt ≠ none →
    r' ∈ w.view .providerCredentials ∨ ∃ username, VouchedIn env s.2 r' username
  bots : ∀ c' ∈ s.1.view .telegramBotConfigs, c'.tenantId = w.tenantId → c'.verifiedAt ≠ none →
    ∃ r' ∈ s.1.view .providerCredentials, r'.tenantId = w.tenantId ∧
      VouchedIn env s.2 r' c'.botUsername

/-- The record whose token Telegram answered to. -/
theorem vouchedIn_of_named {calls : CallLog} {credential r' : ProviderCredential}
    {username : Json} {kept : Option String} {w₁ w₂ : World}
    (hstored : Stored .telegram TELEGRAM_BOT_TOKEN credential w w₁) (hsame : SameSecrets w₁ w₂)
    (hnamed : Named env calls w₂ username) (hkept : usernameColumn username = .ok kept)
    (heq : secretOf r' = secretOf credential) :
    r'.tenantId = w.tenantId ∧ VouchedIn env calls r' kept := by
  obtain ⟨botToken, answer, identity, hvisit, hanswer, hname, held, hheld, hsecret, hopen⟩ := hnamed
  have ht : w₂.tenantId = w.tenantId := hsame.tenantId_eq.trans hstored.tenantId_eq
  -- It is the one that was stored: there is no other of the name.
  have hthis : held = credential := by
    rw [hsame.credentials] at hheld
    rcases hstored.others held hheld with heq | ⟨-, hno⟩
    · exact heq
    · exact absurd (ht ▸ hsecret) hno
  rw [hthis] at hheld hopen
  have hkeys := heq
  simp only [secretOf, Prod.mk.injEq] at hkeys
  obtain ⟨-, htenant, hprovider, hcredential, hcipher⟩ := hkeys
  have htw : r'.tenantId = w.tenantId := htenant.trans hstored.secret.tenantId_eq
  rw [← hcipher] at hopen
  rw [← hname] at hkept
  refine ⟨htw, ⟨rfl, hprovider.trans hstored.secret.providerType_eq,
    hcredential.trans hstored.secret.name_eq⟩, ?_⟩
  exact ⟨w₂, botToken, answer, identity, hopen, hvisit, hanswer, hkept, ht.trans htw.symm,
    credential, hheld, heq.symm⟩

theorem wp_upsertBot_logged {payload : BotConfigRequest} (hw : w.Sound) {log : CallLog} :
    wp (serial G).logged (upsertBot env w.tenantId payload)
      (either (fun _ s => BotSaved env w s) fun _ s => s.1.db = w.db) (w, log) := by
  rw [upsertBot_eq]
  refine Machine.wp_bind_logged (meets_saveBot hw) ?_ fun e w' log' he _ => he
  rintro ⟨credential, token⟩ w₂ log₂ ⟨w₁, hw₁, hstored, hsame⟩ -
  have hdb₂ : w₂.db = w.db := hsame.db.trans hstored.db
  have ht₂ : w₂.tenantId = w.tenantId := hsame.tenantId_eq.trans hstored.tenantId_eq
  rw [wp_bind, ← ht₂]
  refine wp_mono ?_ wp_verifyBot_logged
  rintro (e | verified) ⟨w₃, log₃⟩ ⟨hsame₃, -, hnamed⟩
  · exact hsame₃.db.trans hdb₂
  refine wp_mono ?_ (Machine.wp_logged (meets_recordBot hsame₃.tenantId_eq))
  rintro (e | response) ⟨w₄, log₄⟩ ⟨hkept, hlog⟩
  · exact (Eq.trans hkept hsame₃.db).trans hdb₂
  have hcreds : w₃.view .providerCredentials = w₁.view .providerCredentials :=
    hsame₃.credentials.trans hsame.credentials
  have hsecrets : (w₄.view .providerCredentials).map secretOf =
      (w₁.view .providerCredentials).map secretOf := by
    rw [hkept.secrets, hcreds]
  have hvouched : ∀ username at_ kept, verified = some (username, at_) →
      usernameColumn username = .ok kept → ∀ r', secretOf r' = secretOf credential →
      r'.tenantId = w.tenantId ∧ VouchedIn env log₄ r' kept := by
    intro username at_ kept hverified hcolumn r' heq
    obtain ⟨botToken, answer, identity, hvisit, hrest⟩ := hnamed username at_
      (congrArg _ hverified)
    exact vouchedIn_of_named hstored hsame
      ⟨botToken, answer, identity, hlog _ hvisit, hrest⟩ hcolumn heq
  refine ⟨(hkept.db.trans hsame₃.db).trans hdb₂, fun r' hr' hset => ?_, fun c' hc' ht hset => ?_⟩
  · rcases hkept.credentials r' hr' with hold | ⟨hsome, hid⟩
    · rw [hcreds] at hold
      rcases hstored.others r' hold with rfl | ⟨hbefore, -⟩
      · exact absurd hstored.unverified hset
      · exact .inl hbefore
    · obtain ⟨⟨username, at_⟩, hverified⟩ := Option.isSome_iff_exists.mp hsome
      obtain ⟨r, hr, heq⟩ := exists_of_map_eq hsecrets hr'
      have hrid : r.id = credential.id := (congrArg (·.1) heq).trans hid
      have hrow : r = credential :=
        hw₁.view.eq_of_clash (t := .providerCredentials) hr hstored.there (by simp [clash, hrid])
      rw [hrow] at heq
      obtain ⟨kept, hcolumn⟩ := hkept.fits username at_ hverified
      exact .inr ⟨kept, (hvouched username at_ kept hverified hcolumn r' heq.symm).2⟩
  · obtain ⟨hname, hat⟩ := hkept.bots c' hc'
      (ht.trans (ht₂.symm.trans hsame₃.tenantId_eq.symm))
    cases hverified : verified with
    | none =>
      rw [hverified] at hat
      exact absurd hat hset
    | some answer =>
      obtain ⟨username, at_⟩ := answer
      rw [hverified] at hname
      obtain ⟨r', hr', heq⟩ := exists_of_map_eq hsecrets.symm hstored.there
      obtain ⟨htenant, hvouch⟩ := hvouched username at_ _ hverified hname r' heq
      exact ⟨r', hr', htenant, hvouch⟩

theorem meets_upsertCredential {payload : CredentialUpsertRequest} (hw : w.Sound) :
    Meets G (upsertCredential env w.tenantId payload)
      (fun _ w' => ∃ record, Stored payload.providerType payload.credentialName record w w')
      (fun _ l => l.db = w.db) w := by
  unfold upsertCredential
  rw [meets_bind]
  refine meets_mono (meets_storeSecret hw) (fun record w₁ hstored => ?_) fun _ _ he => he
  rw [meets_bind]
  exact meets_flush (fun _ => ⟨record, hstored⟩) fun _ => hstored.db

end Admin

/-! ## A request, with its calls -/

section Requests

variable {α : Type} {G : World → Op → Choice → Prop} {w : World}

/-- Leaving a session adds to the record, and nothing to what is committed. -/
theorem wp_closing_logged {body : App α} {P : World × CallLog → Prop} {s : World × CallLog}
    (hP : ∀ s w' log', P s → w'.db = s.1.db → (∀ v ∈ s.2, v ∈ log') → P (w', log'))
    (h : wp (serial G).logged body (fun _ s => P s) s) :
    wp (serial G).logged (closing body) (fun _ s => P s) s := by
  have hclose : ∀ s : World × CallLog, P s →
      wp (serial G).logged (perform Op.closeSession) (fun _ s => P s) s := by
    rintro ⟨w₁, log₁⟩ hs
    refine Machine.wp_perform_logged trivial ?_
    rintro x w₂ ⟨c, -, hstep⟩
    cases hstep
    exact hP _ _ _ hs rfl fun v hv => List.mem_append_left _ hv
  unfold closing
  rw [wp_bind, wp_tryCatch]
  refine wp_mono ?_ h
  rintro (e | a) s₁ hs
  · rw [catchPost_error, wp_bind]
    refine wp_mono ?_ (hclose s₁ hs)
    rintro (e' | u) s₂ hs₂
    · exact hs₂
    · exact hs₂
  · rw [catchPost_ok, bindPost_ok, wp_bind]
    refine wp_mono ?_ (hclose s₁ hs)
    rintro (e' | u) s₂ hs₂
    · exact hs₂
    · exact hs₂

/-- A request commits what its body returned with, or nothing. -/
theorem wp_requestTx_logged {tenantId : TenantId} {body : App α}
    {Q : α → World × CallLog → Prop} {log : CallLog} (hQ : ∀ a s, Q a s → s.1.db = w.db)
    (h : ∀ log, wp (serial G).logged body (either Q fun _ s => s.1.db = w.db)
      (w.opened tenantId, log)) :
    wp (serial G).logged (requestTx tenantId body)
      (fun _ s' => s'.1.db = w.db ∨
        ∃ a s, Q a s ∧ s'.1.db = s.1.view ∧ ∀ v ∈ s.2, v ∈ s'.2) (w, log) := by
  have hstable : ∀ (s : World × CallLog) (w' : World) (log' : CallLog),
      (s.1.db = w.db ∨ ∃ a s₁, Q a s₁ ∧ s.1.db = s₁.1.view ∧ ∀ v ∈ s₁.2, v ∈ s.2) →
      w'.db = s.1.db → (∀ v ∈ s.2, v ∈ log') →
      (w'.db = w.db ∨ ∃ a s₁, Q a s₁ ∧ w'.db = s₁.1.view ∧ ∀ v ∈ s₁.2, v ∈ log') := by
    rintro s w' log' (hdb | ⟨a, s₁, hq, hdb, hlog⟩) hdb' hlog'
    · exact .inl (hdb'.trans hdb)
    · exact .inr ⟨a, s₁, hq, hdb'.trans hdb, fun v hv => hlog' v (hlog v hv)⟩
  unfold requestTx withSession
  rw [wp_bind]
  refine Machine.wp_perform_logged trivial ?_
  rintro x w₀ ⟨c, -, hstep⟩
  cases hstep
  refine wp_closing_logged hstable ?_
  -- Whatever is rolled back was not committed.
  have hundo : ∀ (e : PyError) (s : World × CallLog), s.1.db = w.db →
      wp (serial G).logged (do perform Op.rollback; throw e : App α)
        (fun _ s' => s'.1.db = w.db ∨
          ∃ a s, Q a s ∧ s'.1.db = s.1.view ∧ ∀ v ∈ s.2, v ∈ s'.2) s := by
    rintro e ⟨w₁, log₁⟩ hdb
    rw [wp_bind]
    refine Machine.wp_perform_logged trivial ?_
    rintro x w₂ ⟨c, -, hstep⟩
    have hw₂ : w₂.db = w₁.db := by
      cases hstep
      rfl
    cases x with
    | ok u => exact .inl (hw₂.trans hdb)
    | error e' => exact .inl (hw₂.trans hdb)
  rw [wp_tryCatch, wp_bind]
  refine wp_mono ?_ (h _)
  rintro (e | a) s hs
  · exact hundo e s hs
  · obtain ⟨w₁, log₁⟩ := s
    rw [bindPost_ok, wp_bind]
    refine Machine.wp_perform_logged trivial ?_
    rintro x w₂ ⟨c, -, hstep⟩
    simp only [World.step] at hstep
    cases hf : w₁.flushed c with
    | error e =>
      rw [hf] at hstep
      cases hstep
      have hdb : w₁.db = w.db := hQ a (w₁, log₁) hs
      exact hundo e _ hdb
    | ok u =>
      rw [hf] at hstep
      cases hstep
      exact .inr ⟨a, (w₁, log₁), hs, rfl, fun v hv => List.mem_append_left _ hv⟩

end Requests

/-! ## Histories -/

/-- A request that stores a secret. -/
inductive SecretRequest where
  | credential (payload : CredentialUpsertRequest)
  | bot (payload : BotConfigRequest)

/-- The request can take the world from `w` to `w'` by these calls. -/
def SecretRequest.Steps (G : World → Op → Choice → Prop) (env : EncryptionKey)
    (tenantId : TenantId) (w : World) (calls : CallLog) (w' : World) : SecretRequest → Prop
  | credential payload => ∃ r, Runs (serial G).logged
      (requestTx tenantId (Admin.upsertCredential env tenantId payload)) (w, []) r (w', calls)
  | bot payload => ∃ r, Runs (serial G).logged
      (requestTx tenantId (Admin.upsertBot env tenantId payload)) (w, []) r (w', calls)

/-- A request that was handled: its calls, and the world it left. -/
structure Handling where
  request : SecretRequest
  calls : CallLog
  after : World

/-- Requests of the tenant one after the other, each in an environment of its own. -/
inductive Handlings (C : World → SecretRequest → Prop) (env : EncryptionKey) (A : TenantId)
    (w₀ : World) : List Handling → World → Prop
  | start : Handlings C env A w₀ [] w₀
  | next {G : World → Op → Choice → Prop} {log : List Handling} {w w' : World}
      {request : SecretRequest} {calls : CallLog} : Handlings C env A w₀ log w → C w request →
      request.Steps G env A w calls w' → Handlings C env A w₀ (log ++ [⟨request, calls, w'⟩]) w'

/-- A request stored the secret and Telegram named the bot for it, and it is stored since. -/
inductive Vouched (env : EncryptionKey) (record : ProviderCredential)
    (username : Option String) : List Handling → Prop
  | now {log : List Handling} {h : Handling} :
      Admin.VouchedIn env h.calls record username → h.after.db.Keeps record →
      Vouched env record username (log ++ [h])
  | since {log : List Handling} {h : Handling} : Vouched env record username log →
      h.after.db.Keeps record → Vouched env record username (log ++ [h])

/-- Whoever stored the bot's token by PUT /credentials did so while the bot was not verified. -/
def SparesVerifiedToken (A : TenantId) (w : World) : SecretRequest → Prop
  | .credential payload => payload.providerType = .telegram →
      payload.credentialName = TELEGRAM_BOT_TOKEN →
      ∀ c ∈ w.db .telegramBotConfigs, c.tenantId = A → c.verifiedAt = none
  | .bot _ => True

section Histories

variable {G : World → Op → Choice → Prop} {env : EncryptionKey} {A : TenantId} {w w' : World}
  {log : List Handling}

theorem SecretRequest.Steps.sound {request : SecretRequest} {calls : CallLog}
    (h : request.Steps G env A w calls w') (hw : w.Sound) : w'.Sound := by
  cases request with
  | credential payload =>
    obtain ⟨r, hruns⟩ := h
    exact wp_sound (wp_sound_world _ _) (Machine.runs_of_logged hruns) hw
  | bot payload =>
    obtain ⟨r, hruns⟩ := h
    exact wp_sound (wp_sound_world _ _) (Machine.runs_of_logged hruns) hw

theorem Vouched.secret {record : ProviderCredential} {username : Option String}
    (h : Vouched env record username log) :
    IsSecret record.tenantId .telegram TELEGRAM_BOT_TOKEN record := by
  induction h with
  | now hv _ => exact hv.secret
  | since _ _ ih => exact ih

/-- The last request vouches for the secret, or keeps one that is vouched for. -/
theorem vouched_snoc_iff {record : ProviderCredential} {username : Option String} {h : Handling} :
    Vouched env record username (log ++ [h]) ↔
      (Admin.VouchedIn env h.calls record username ∨ Vouched env record username log) ∧
        h.after.db.Keeps record := by
  constructor
  · intro hv
    generalize heq : log ++ [h] = l at hv
    cases hv with
    | now hin hkept =>
      obtain ⟨-, hlast⟩ := List.append_inj' heq rfl
      cases hlast
      exact ⟨.inl hin, hkept⟩
    | since hbefore hkept =>
      obtain ⟨rfl, hlast⟩ := List.append_inj' heq rfl
      cases hlast
      exact ⟨.inr hbefore, hkept⟩
  · rintro ⟨hin | hbefore, hkept⟩
    · exact .now hin hkept
    · exact .since hbefore hkept

/-- A verified credential is vouched for. -/
def CredentialsVouched (env : EncryptionKey) (A : TenantId) (log : List Handling)
    (d : Database) : Prop :=
  ∀ r ∈ d .providerCredentials, r.tenantId = A → r.verifiedAt ≠ none →
    ∃ username, Vouched env r username log

/-- The token of a verified bot is vouched for, with the bot's name. -/
def BotsVouched (env : EncryptionKey) (A : TenantId) (log : List Handling)
    (d : Database) : Prop :=
  ∀ c ∈ d .telegramBotConfigs, c.tenantId = A → c.verifiedAt ≠ none →
    ∃ r ∈ d .providerCredentials, r.tenantId = A ∧ Vouched env r c.botUsername log

/-- What the request can take the world to. -/
def SecretRequest.Ends (G : World → Op → Choice → Prop) (env : EncryptionKey)
    (tenantId : TenantId) (w w' : World) : SecretRequest → Prop
  | credential payload => ∃ r, Runs (serial G)
      (requestTx tenantId (Admin.upsertCredential env tenantId payload)) w r w'
  | bot payload => ∃ r, Runs (serial G)
      (requestTx tenantId (Admin.upsertBot env tenantId payload)) w r w'

/-- However a request ends, its calls can be written down, and the history goes on. -/
theorem Handlings.extended {C : World → SecretRequest → Prop} {w₀ : World}
    {request : SecretRequest} (h : Handlings C env A w₀ log w) (hC : C w request)
    (hends : request.Ends G env A w w') :
    ∃ calls, Handlings C env A w₀ (log ++ [⟨request, calls, w'⟩]) w' := by
  cases request with
  | credential payload =>
    obtain ⟨r, hruns⟩ := hends
    obtain ⟨calls, hlogged⟩ := Machine.logged_of_runs hruns []
    exact ⟨calls, h.next hC ⟨r, hlogged⟩⟩
  | bot payload =>
    obtain ⟨r, hruns⟩ := hends
    obtain ⟨calls, hlogged⟩ := Machine.logged_of_runs hruns []
    exact ⟨calls, h.next hC ⟨r, hlogged⟩⟩

/-- What a request leaves: nothing new, a secret stored, or a bot saved. -/
inductive RequestEffect (env : EncryptionKey) (A : TenantId) (w : World) (calls : CallLog)
    (w' : World) : SecretRequest → Prop
  | quiet {request : SecretRequest} : w'.db = w.db → RequestEffect env A w calls w' request
  | stored {payload : CredentialUpsertRequest} {record : ProviderCredential} {w₁ : World} :
      Stored payload.providerType payload.credentialName record (w.opened A) w₁ →
      w'.db = w₁.view → RequestEffect env A w calls w' (.credential payload)
  | saved {payload : BotConfigRequest} {s : World × CallLog} :
      Admin.BotSaved env (w.opened A) s → w'.db = s.1.view → (∀ v ∈ s.2, v ∈ calls) →
      RequestEffect env A w calls w' (.bot payload)

theorem SecretRequest.Steps.effect {request : SecretRequest} {calls : CallLog} (hw : w.Sound)
    (h : request.Steps G env A w calls w') : RequestEffect env A w calls w' request := by
  have hopen := hw.opened A
  cases request with
  | credential payload =>
    obtain ⟨r, hruns⟩ := h
    have hbody : Meets G (Admin.upsertCredential env (w.opened A).tenantId payload) _ _
        (w.opened A) := Admin.meets_upsertCredential hopen
    cases wp_sound (wp_requestTx hbody) (Machine.runs_of_logged hruns) with
    | failed e he => exact .quiet he
    | committed response w₁ hq _ hl _ =>
      obtain ⟨record, hstored⟩ := hq
      exact .stored hstored (congrArg Ledger.db hl)
    | uncommitted response w₁ hq _ hl =>
      obtain ⟨record, hstored⟩ := hq
      exact .quiet ((congrArg Ledger.db hl).trans hstored.db)
  | bot payload =>
    obtain ⟨r, hruns⟩ := h
    have hbody : ∀ log, wp (serial G).logged (Admin.upsertBot env (w.opened A).tenantId payload)
        (either (fun _ s => Admin.BotSaved env (w.opened A) s) fun _ s => s.1.db = w.db)
        (w.opened A, log) := fun log => Admin.wp_upsertBot_logged hopen
    rcases wp_sound (wp_requestTx_logged (fun _ s h => h.db) hbody) hruns with
      hdb | ⟨response, s, hsaved, hdb, hlog⟩
    · exact .quiet hdb
    · exact .saved hsaved hdb hlog

/-- Verified credentials stay vouched for, and storing a secret verifies nothing. -/
theorem CredentialsVouched.next {request : SecretRequest} {calls : CallLog}
    (h : CredentialsVouched env A log w.db) (heff : RequestEffect env A w calls w' request) :
    CredentialsVouched env A (log ++ [⟨request, calls, w'⟩]) w'.db := by
  have hsince : ∀ r ∈ w'.db .providerCredentials, r ∈ w.db .providerCredentials →
      r.tenantId = A → r.verifiedAt ≠ none →
      ∃ username, Vouched env r username (log ++ [⟨request, calls, w'⟩]) := by
    intro r hr' hr ht hset
    obtain ⟨username, hv⟩ := h r hr ht hset
    exact ⟨username, .since hv ⟨r, hr', rfl⟩⟩
  intro r hr ht hset
  cases heff with
  | quiet hdb => exact hsince r hr (hdb ▸ hr) ht hset
  | stored hstored hdb =>
    have hr' := hr
    rw [hdb] at hr'
    rcases hstored.others r hr' with rfl | ⟨hold, -⟩
    · exact absurd hstored.unverified hset
    · exact hsince r hr hold ht hset
  | saved hsaved hdb hlog =>
    have hr' := hr
    rw [hdb] at hr'
    rcases hsaved.credentials r hr' hset with hold | ⟨username, hv⟩
    · exact hsince r hr hold ht hset
    · exact ⟨username, .now (hv.mono hlog) ⟨r, hr, rfl⟩⟩

/-- So does the token of a verified bot, unless another is stored beside it. -/
theorem BotsVouched.next {request : SecretRequest} {calls : CallLog}
    (h : BotsVouched env A log w.db) (hspared : SparesVerifiedToken A w request)
    (heff : RequestEffect env A w calls w' request) :
    BotsVouched env A (log ++ [⟨request, calls, w'⟩]) w'.db := by
  intro c hc ht hset
  cases heff with
  | quiet hdb =>
    rw [hdb] at hc
    obtain ⟨r, hr, hrt, hv⟩ := h c hc ht hset
    rw [← hdb] at hr
    exact ⟨r, hr, hrt, .since hv ⟨r, hr, rfl⟩⟩
  | @stored payload record w₁ hstored hdb =>
    rw [hdb, hstored.bots] at hc
    obtain ⟨r, hr, hrt, hv⟩ := h c hc ht hset
    -- The secret that was stored is not the token.
    have hother : ¬ IsSecret A payload.providerType payload.credentialName r := fun hsecret =>
      hset (hspared (hsecret.providerType_eq.symm.trans hv.secret.providerType_eq)
        (hsecret.name_eq.symm.trans hv.secret.name_eq) c hc ht)
    have hr' : r ∈ w'.db .providerCredentials := by
      rw [hdb]
      exact hstored.kept r hr hother
    exact ⟨r, hr', hrt, .since hv ⟨r, hr', rfl⟩⟩
  | saved hsaved hdb hlog =>
    rw [hdb] at hc
    obtain ⟨r, hr, hrt, hv⟩ := hsaved.bots c hc ht hset
    rw [← hdb] at hr
    exact ⟨r, hr, hrt, .now (hv.mono hlog) ⟨r, hr, rfl⟩⟩

/-- Whatever the tenant's requests, a verified credential is one for which Telegram named the
    bot after it was stored.  So is the token of a verified bot, by the bot's name, where PUT
    /credentials never stores a token beside a verified bot.  However a request ends, it goes
    into such a history with its calls. -/
theorem verified_means_this_token {w₀ : World} (hsound : w₀.Sound)
    (hcredentials : ∀ r ∈ w₀.db .providerCredentials, r.tenantId ≠ A)
    (hbots : ∀ c ∈ w₀.db .telegramBotConfigs, c.tenantId ≠ A) :
    (∀ log w, Handlings (fun _ _ => True) env A w₀ log w → CredentialsVouched env A log w.db) ∧
    (∀ log w, Handlings (SparesVerifiedToken A) env A w₀ log w → BotsVouched env A log w.db) ∧
    ∀ (C : World → SecretRequest → Prop) (G : World → Op → Choice → Prop) log w request w',
      Handlings C env A w₀ log w → C w request → request.Ends G env A w w' →
      ∃ calls, Handlings C env A w₀ (log ++ [⟨request, calls, w'⟩]) w' := by
  refine ⟨?_, ?_, fun C G log w request w' h hC hends => h.extended hC hends⟩
  · intro log w h
    have hboth : w.Sound ∧ CredentialsVouched env A log w.db := by
      induction h with
      | start => exact ⟨hsound, fun r hr ht => absurd ht (hcredentials r hr)⟩
      | next _ _ hstep ih =>
        obtain ⟨hw, hv⟩ := ih
        exact ⟨hstep.sound hw, hv.next (hstep.effect hw)⟩
    exact hboth.2
  · intro log w h
    have hboth : w.Sound ∧ BotsVouched env A log w.db := by
      induction h with
      | start => exact ⟨hsound, fun c hc ht => absurd ht (hbots c hc)⟩
      | next _ hspared hstep ih =>
        obtain ⟨hw, hv⟩ := ih
        exact ⟨hstep.sound hw, hv.next hspared (hstep.effect hw)⟩
    exact hboth.2

end Histories

/-! ### A token stored beside a verified bot -/

/-- A day on which Telegram answers every token, and the cipher is none. -/
def tokenEnv (w : World) : Op → Choice
  | .utcnow => { now := .day 100 }
  | .uuid4 => { id := (w.view .providerCredentials).length }
  | .encrypt plaintext => { ciphertext := plaintext }
  | .telegram .. =>
    { me := .answered (.obj [("ok", .bool true),
        ("result", .obj [("id", .int 1), ("username", .str "vip_bot")])]) fun _ => "" }
  | _ => {}

/-- The bot is saved with a first token, and verified. -/
def botHandled : World × CallLog :=
  (exec World.step.logged (fun s => tokenEnv s.1)
    (requestTx 1 (Admin.upsertBot (.key some) 1 { botToken := "12345:first" }))
    (configuredWorld, [])).2

/-- Then another token is stored by its name. -/
def tokenHandled : World × CallLog :=
  (exec World.step.logged (fun s => tokenEnv s.1)
    (requestTx 1 (Admin.upsertCredential (.key some) 1
      ⟨.telegram, TELEGRAM_BOT_TOKEN, "12345:second"⟩)) (botHandled.1, [])).2

def firstHandling : Handling :=
  ⟨.bot { botToken := "12345:first" }, botHandled.2, botHandled.1⟩

def secondHandling : Handling :=
  ⟨.credential ⟨.telegram, TELEGRAM_BOT_TOKEN, "12345:second"⟩, tokenHandled.2, tokenHandled.1⟩

theorem handlings_first {C : World → SecretRequest → Prop}
    (hC : C configuredWorld firstHandling.request) :
    Handlings C (.key some) 1 configuredWorld [firstHandling] botHandled.1 :=
  .next .start hC ⟨_, runs_exec_logged World.step (G := Only tokenEnv) (fun _ _ => rfl) _ _⟩

/-- The bot is verified, and its token is the one that was. -/
theorem saved_bot_is_vouched :
    (∃ c ∈ botHandled.1.db .telegramBotConfigs, c.tenantId = 1 ∧ c.verifiedAt ≠ none ∧
      ∃ r ∈ botHandled.1.db .providerCredentials, r.tenantId = 1 ∧ r.verifiedAt ≠ none ∧
        Vouched (.key some) r c.botUsername [firstHandling]) ∧
    CredentialsVouched (.key some) 1 [firstHandling] botHandled.1.db := by
  have hcredentials : ∀ r ∈ configuredWorld.db .providerCredentials, r.tenantId ≠ 1 := by
    intro r hr
    cases hr
  have hbots : ∀ c ∈ configuredWorld.db .telegramBotConfigs, c.tenantId ≠ 1 := by
    intro c hc
    cases hc
  have hall : _ ∧ (∀ log w,
      Handlings (SparesVerifiedToken 1) (.key some) 1 configuredWorld log w →
      BotsVouched (.key some) 1 log w.db) ∧ _ :=
    verified_means_this_token initial_configuredWorld.sound hcredentials hbots
  obtain ⟨hcreds, hverified, -⟩ := hall
  have hbot : ∃ c ∈ botHandled.1.db .telegramBotConfigs, c.tenantId = 1 ∧ c.verifiedAt ≠ none := by
    decide +kernel
  have hset : ∀ r ∈ botHandled.1.db .providerCredentials, r.verifiedAt ≠ none := by
    decide +kernel
  refine ⟨?_, hcreds _ _ (handlings_first trivial)⟩
  obtain ⟨c, hc, ht, hat⟩ := hbot
  obtain ⟨r, hr, hrt, hv⟩ := hverified _ _ (handlings_first trivial) c hc ht hat
  exact ⟨c, hc, ht, hat, r, hr, hrt, hset r hr, hv⟩

def asksTelegram : Op → Bool
  | .telegram .. => true
  | _ => false

/-- The bot stays verified, by the name of the token that was replaced. -/
theorem replaced_token_stays_verified :
    Handlings (fun _ _ => True) (.key some) 1 configuredWorld [firstHandling, secondHandling]
      tokenHandled.1 ∧
    ¬ BotsVouched (.key some) 1 [firstHandling, secondHandling] tokenHandled.1.db := by
  constructor
  · exact .next (handlings_first trivial) trivial
      ⟨_, runs_exec_logged World.step (G := Only tokenEnv) (fun _ _ => rfl) _ _⟩
  · intro h
    have hbot : ∃ c ∈ tokenHandled.1.db .telegramBotConfigs, c.tenantId = 1 ∧
        c.verifiedAt ≠ none := by decide +kernel
    obtain ⟨c, hc, ht, hat⟩ := hbot
    obtain ⟨r, hr, -, hv⟩ := h c hc ht hat
    have hcalls : ∀ v ∈ tokenHandled.2, asksTelegram v.op = false := by decide +kernel
    have hfirst : ∀ r ∈ botHandled.1.db .providerCredentials,
        r.encryptedSecret = "12345:first" := by decide +kernel
    have hsecond : ∀ r ∈ tokenHandled.1.db .providerCredentials,
        r.encryptedSecret = "12345:second" := by decide +kernel
    have hlast : Vouched (.key some) r c.botUsername ([firstHandling] ++ [secondHandling]) := hv
    obtain ⟨hin | hbefore, -⟩ := vouched_snoc_iff.mp hlast
    · obtain ⟨w, botToken, answer, identity, -, hvisit, -⟩ := hin.named
      exact absurd (hcalls _ hvisit) (by simp [asksTelegram])
    · -- The first request has stored another secret.
      have hearly : Vouched (.key some) r c.botUsername ([] ++ [firstHandling]) := hbefore
      obtain ⟨-, held, hheld, hsame⟩ := vouched_snoc_iff.mp hearly
      simp only [secretOf, Prod.mk.injEq] at hsame
      have hcipher := hsame.2.2.2.2
      rw [hfirst held hheld, hsecond r hr] at hcipher
      revert hcipher
      decide

end VipChannel

/-
  VipChannel.Fleet.AdminDuty

  What the admin requests owe.  Only a bot's request inserts a webhook route; it does so when
  it has found none, after it has written on the bot token's credential: by then no other
  transaction can have got as far.
-/
import VipChannel.Fleet.EnrolmentDuty
import VipChannel.Runs.Payments
import VipChannel.Web.Admin

namespace VipChannel

open Lib
open Program (perform raising UsesOnly usesOnly_bind usesOnly_tryCatch usesOnly_perform
  usesOnly_raising)

namespace Shift.Admin

open VipChannel.Admin

section Quiet

variable (key : EncryptionKey) (A : TenantId)

theorem quiet_encrypt (secret : String) :
    ((encryptSecret key secret).tryCatch fun e =>
      if e.cls = .credentialEncryptionError then throw (httpException 503 e.text) else throw e :
        App String).UsesOnly Op.quiet := by
  refine usesOnly_tryCatch ?_ fun e => ?_
  · unfold encryptSecret
    split
    · trivial
    · exact usesOnly_bind ((usesOnly_raising _).mpr trivial) fun _ => quiet_call trivial
  · split <;> trivial

theorem quiet_storeSecret (providerType : ProviderType) (name secret : String) :
    (storeSecret key A providerType name secret).UsesOnly Op.quiet := by
  refine usesOnly_bind ((usesOnly_raising _).mpr trivial) fun _ => ?_
  refine usesOnly_bind (usesOnly_read Op.quiet_of_reads _) fun existing => ?_
  refine usesOnly_bind (quiet_encrypt key secret) fun ciphertext => ?_
  refine usesOnly_bind ((usesOnly_raising _).mpr trivial) fun _ => ?_
  cases existing with
  | some existing => exact usesOnly_bind (quiet_call fun _ => rfl) fun _ => trivial
  | none => exact usesOnly_bind (quiet_call trivial) fun id => quiet_saveNew (by decide) _ _

theorem quiet_upsertCredential (payload : CredentialUpsertRequest) :
    (upsertCredential key A payload).UsesOnly Op.quiet :=
  usesOnly_bind (quiet_storeSecret key A _ _ _) fun _ =>
    usesOnly_bind (quiet_call trivial) fun _ => trivial

theorem quiet_listCredentials : (listCredentials A).UsesOnly Op.quiet :=
  usesOnly_bind (quiet_listAll A) fun _ => trivial

theorem quiet_upsertReferralConfig (payload : ReferralConfigRequest) :
    (upsertReferralConfig A payload).UsesOnly Op.quiet := by
  refine usesOnly_bind (usesOnly_read Op.quiet_of_reads _) fun config => ?_
  have hrest : (do
      let stored ← raising (programColumns payload)
      update .referralProgramConfigs (isProgram A payload) (configureProgram stored)
      saveLoaded .referralProgramConfigs (isProgram A payload) :
        App ReferralProgramConfig).UsesOnly Op.quiet :=
    usesOnly_bind ((usesOnly_raising _).mpr trivial) fun stored =>
      usesOnly_bind (quiet_call fun _ => rfl) fun _ => quiet_saveLoaded _
  cases config with
  | some config => exact hrest
  | none =>
    refine usesOnly_bind ((usesOnly_raising _).mpr trivial) fun referralLink => ?_
    exact usesOnly_bind (quiet_saveNew (by decide) _ _) fun _ => hrest

theorem quiet_upsertChannel (payload : ChannelRequest) :
    (upsertChannel A payload).UsesOnly Op.quiet := by
  refine usesOnly_bind (usesOnly_read Op.quiet_of_reads _) fun channel => ?_
  have hrest : ∀ channel : TelegramChannel, (do
      let stored ← raising (channelColumns payload)
      update .telegramChannels (fun r => r.id == channel.id) (configure stored)
      saveLoaded .telegramChannels fun r => r.id == channel.id :
        App TelegramChannel).UsesOnly Op.quiet :=
    fun channel => usesOnly_bind ((usesOnly_raising _).mpr trivial) fun _ =>
      usesOnly_bind (quiet_call fun _ => rfl) fun _ => quiet_saveLoaded _
  cases channel with
  | some channel => exact hrest channel
  | none =>
    refine usesOnly_bind (quiet_call trivial) fun id => ?_
    refine usesOnly_bind ((usesOnly_raising _).mpr trivial) fun chatId => ?_
    exact usesOnly_bind (quiet_saveNew (by decide) _ _) fun channel => hrest channel

theorem quiet_processPayment (payload : PaymentIngestRequest) :
    (PaymentProcessingService.processPayment A payload).UsesOnly Op.quiet := by
  refine usesOnly_bind (quiet_call trivial) fun id => ?_
  refine usesOnly_bind ((usesOnly_raising _).mpr trivial) fun stored => ?_
  exact usesOnly_bind (quiet_saveNew (by decide) _ _) fun _ => trivial

/-! ## What asks Telegram whom the token belongs to -/

theorem mild_reads (op : Op) (h : op.reads) : op.mild :=
  Op.mild_of_quiet (Op.quiet_of_reads op h)

theorem quiet_mild {α : Type} {p : App α} (hp : p.UsesOnly Op.quiet) : p.UsesOnly Op.mild :=
  hp.mono fun _ => Op.mild_of_quiet

theorem mild_verifyBot : (verifyBot key A).UsesOnly Op.mild := by
  refine usesOnly_tryCatch ?_ fun e => ?_
  · refine usesOnly_bind (ProviderFactory.usesOnly_telegram mild_reads _ _) fun _ => ?_
    refine usesOnly_bind (usesOnly_getMe (fun _ => ⟨rfl, id⟩) _) fun identity => ?_
    exact quiet_mild (usesOnly_bind (quiet_call trivial) fun _ => trivial)
  · split <;> trivial

theorem mild_checkIntegration : (checkIntegration key A).UsesOnly Op.mild := by
  refine usesOnly_bind (usesOnly_tryCatch ?_ fun e => ?_) fun bot => ?_
  · refine usesOnly_bind (ProviderFactory.usesOnly_telegram mild_reads _ _) fun _ => ?_
    exact usesOnly_bind (usesOnly_getMe (fun _ => ⟨rfl, id⟩) _) fun identity => trivial
  · split
    · trivial
    · split <;> trivial
  refine usesOnly_bind (usesOnly_tryCatch ?_ fun e => ?_) fun referral => ?_
  · exact usesOnly_bind (ProviderFactory.usesOnly_referralProvider mild_reads _ _ _) fun _ =>
      trivial
  · split <;> trivial
  refine quiet_mild (usesOnly_bind (quiet_listAll A) fun channels => ?_)
  exact usesOnly_bind (quiet_listAll A) fun configs => trivial

end Quiet

/-! ## The bot -/

section Bot

variable {who : Option Enrolment} {s : Shift} {key : EncryptionKey} {A : TenantId}

/-- The credential is this transaction's as soon as what was written is sent. -/
def Seizes (A : TenantId) (s : Shift) : Prop :=
  botTokenOf A ∈ s.waiting ∨ s.Owns (botTokenOf A)

/-- The ciphertext is none that was read. -/
theorem wp_encrypt {secret : String} :
    wp (machine who) ((encryptSecret key secret).tryCatch fun e =>
        if e.cls = .credentialEncryptionError then throw (httpException 503 e.text) else throw e :
          App String)
      (fun r s' => ∀ ciphertext, r = .ok ciphertext → s' = s ∧
        ∀ r ∈ s.loaded, r.encryptedSecret ≠ ciphertext) s := by
  have hfailed : ∀ (e : PyError) (s' : Shift) (ciphertext : String),
      (Except.error e : Except PyError String) = .ok ciphertext → s' = s ∧
        ∀ r ∈ s.loaded, r.encryptedSecret ≠ ciphertext := by
    intro e s' ciphertext h
    cases h
  rw [wp_tryCatch]
  refine wp_mono (Q := fun r s' => ∀ ciphertext, r = .ok ciphertext → s' = s ∧
    ∀ r ∈ s.loaded, r.encryptedSecret ≠ ciphertext) ?_ ?_
  · rintro (e | ciphertext) s' h
    · rw [catchPost_error]
      split
      · exact hfailed _ s'
      · exact hfailed _ s'
    · exact h
  unfold encryptSecret
  split
  · exact hfailed _ s
  rw [wp_bind, wp_raising]
  cases cipher key with
  | error e => exact hfailed e s
  | ok c =>
    rw [bindPost_ok, wp_perform]
    refine ⟨trivial, ?_⟩
    rintro r s' ⟨d, hfresh, hr, rfl⟩ ciphertext heq
    rw [hr] at heq
    cases heq
    exact ⟨rfl, hfresh⟩

/-- Storing the bot's token writes on its credential, be it an old one or a new one. -/
theorem wp_storeSecret {secret : String} (hloaded : s.loaded = []) :
    wp (machine who) (storeSecret key A .telegram TELEGRAM_BOT_TOKEN secret)
      (fun r s' => ∀ credential, r = .ok credential →
        s'.tenantId = s.tenantId ∧ Seizes A s') s := by
  have hfailed : ∀ (e : PyError) (s' : Shift) (credential : ProviderCredential),
      (Except.error e : Except PyError ProviderCredential) = .ok credential →
        s'.tenantId = s.tenantId ∧ Seizes A s' := by
    intro e s' credential h
    cases h
  unfold storeSecret ProviderCredentialRepository.getNamed selectOneOrNone select
  rw [wp_bind, wp_raising]
  rcases stringColumn 100 TELEGRAM_BOT_TOKEN with e | name
  · exact hfailed e s
  rw [bindPost_ok, wp_bind, wp_bind, wp_perform]
  refine ⟨trivial, ?_⟩
  rintro r s₁ ⟨d, hshown, hr, rfl⟩
  cases hfault : d.choice.fault with
  | some e =>
    simp only [answer, Choice.answer, hfault] at hr
    rw [hr]
    exact hfailed e _
  | none =>
  simp only [answer, Choice.answer, hfault] at hr
  rw [hr, bindPost_ok, wp_raising]
  show bindPost (machine who) _ _ _ (s.flushed.read .providerCredentials _ _)
  have hmem : ∀ r ∈ s.rows d .providerCredentials (fun r => r.tenantId == A &&
      r.providerType == .telegram && r.credentialName == TELEGRAM_BOT_TOKEN),
      r.claim = botTokenOf A := by
    intro r hr
    obtain ⟨-, -, hcond⟩ := mem_rows.mp hr
    rw [Bool.and_eq_true, Bool.and_eq_true, beq_iff_eq, beq_iff_eq, beq_iff_eq] at hcond
    obtain ⟨⟨htenant, hprovider⟩, hname⟩ := hcond
    rw [ProviderCredential.claim, htenant, hprovider, hname, botTokenOf]
  rcases hrows : s.rows d .providerCredentials (fun r => r.tenantId == A &&
      r.providerType == .telegram && r.credentialName == TELEGRAM_BOT_TOKEN) with
    _ | ⟨existing, _ | ⟨r', rest⟩⟩
  · show wp (machine who) _ _ _
    refine wp_quiet_bind (quiet_encrypt key secret) (fun e s₂ _ => hfailed e s₂)
      fun ciphertext s₂ hs₂ => ?_
    rw [wp_bind, wp_raising]
    rcases hfits : secretColumns secret with e | fits
    · exact hfailed e s₂
    rw [bindPost_ok]
    refine wp_quiet_bind (quiet_call trivial) (fun e s₃ _ => hfailed e s₃) fun id s₃ hs₃ => ?_
    refine wp_saveNew (by decide) (fun e s₄ _ => hfailed e s₄)
      fun record s₄ hs₄ _ hclaim credential _ => ?_
    have htenant := ((hs₂.trans hs₃).trans hs₄).tenantId
    exact ⟨htenant, .inr (.inr (hclaim _ rfl).2)⟩
  · have hclaim : existing.claim = botTokenOf A :=
      hmem existing (hrows ▸ List.mem_cons_self)
    show wp (machine who) _ _ _
    rw [wp_bind]
    refine wp_mono ?_ wp_encrypt
    rintro (e | ciphertext) s₂ hs₂
    · exact hfailed e s₂
    rw [bindPost_ok]
    obtain ⟨rfl, hfresh⟩ := hs₂ ciphertext rfl
    rw [wp_bind, wp_raising]
    rcases hfits : secretColumns secret with e | fits
    · exact hfailed e _
    rw [bindPost_ok]
    -- The credential that is rotated is the one that was read.
    have hread : (s.flushed.read .providerCredentials (fun r => r.tenantId == A &&
        r.providerType == .telegram && r.credentialName == TELEGRAM_BOT_TOKEN)
        [existing]).loaded = [existing] := by
      show s.loaded ++ _ = _
      simp [flushed, hloaded]
    rw [hread] at hfresh
    unfold update
    rw [wp_bind, wp_perform]
    refine ⟨fun _ => rfl, ?_⟩
    rintro (e | u) s₃ ⟨d₃, -, -, rfl⟩
    · exact hfailed e _
    rw [bindPost_ok]
    intro credential _
    refine ⟨rfl, .inl ?_⟩
    have hchanged : rotated ciphertext secret existing ≠ existing := by
      intro heq
      exact hfresh existing List.mem_cons_self (congrArg (·.encryptedSecret) heq).symm
    show botTokenOf A ∈ _ ++ Shift.touched _ .providerCredentials _ _
    refine List.mem_append_right _ ?_
    simp only [touched, hread]
    simp [hchanged, hclaim]
  · exact hfailed _ _

/-- What was written is sent: nobody else owns the credential now. -/
theorem wp_seize (h : Seizes A s) :
    wp (machine who) flush (fun r s' => r = .ok () → s'.tenantId = s.tenantId ∧
      s'.Owns (botTokenOf A)) s := by
  unfold flush
  rw [wp_perform]
  refine ⟨trivial, ?_⟩
  rintro (e | u) s' ⟨d, -, -, rfl⟩ hok
  · cases hok
  refine ⟨rfl, ?_⟩
  rcases h with hwaiting | howns
  · exact .inl (List.mem_append_right _ hwaiting)
  · exact grows_flushed.owns howns

/-- A route is inserted where none was found; either way it is known now. -/
theorem wp_ensureWebhookRoute (ht : s.tenantId = A) (howns : s.Owns (botTokenOf A)) :
    wp (machine who) (ensureWebhookRoute A)
      (fun r s' => ∀ token, r = .ok token → .route token A "TELEGRAM" ∈ s'.known) s := by
  have hfailed : ∀ (e : PyError) (s' : Shift) (token : String),
      (Except.error e : Except PyError String) = .ok token →
        .route token A "TELEGRAM" ∈ s'.known := by
    intro e s' token h
    cases h
  unfold ensureWebhookRoute selectOneOrNone select
  rw [wp_bind, wp_bind, wp_perform]
  refine ⟨trivial, ?_⟩
  rintro r s₁ ⟨d, hshown, hr, rfl⟩
  cases hfault : d.choice.fault with
  | some e =>
    simp only [answer, Choice.answer, hfault] at hr
    rw [hr]
    exact hfailed e _
  | none =>
  simp only [answer, Choice.answer, hfault] at hr
  rw [hr, bindPost_ok, wp_raising]
  rcases hrows : s.rows d .webhookRoutes
      (fun r => r.tenantId == A && r.provider == "TELEGRAM") with _ | ⟨existing, _ | ⟨r', rest⟩⟩
  · show wp (machine who) (do
      let token ← perform Op.tokenUrlsafe
      add .webhookRoutes { tenantId := A, token, provider := "TELEGRAM" }
      flush
      return token : App String) _ _
    rw [wp_bind, wp_perform]
    refine ⟨trivial, ?_⟩
    rintro r s₂ ⟨d₂, -, hr₂, rfl⟩
    rw [hr₂]
    show wp (machine who) (do
      add .webhookRoutes { tenantId := A, token := d₂.choice.token, provider := "TELEGRAM" }
      flush
      return d₂.choice.token : App String) _
        (s.after d (.select .webhookRoutes fun r => r.tenantId == A && r.provider == "TELEGRAM")
          true)
    unfold add flush
    rw [wp_bind, wp_perform]
    have hvacant : (fun r : WebhookRoute => r.tenantId == A && r.provider == "TELEGRAM") ∈
        (s.after d (.select .webhookRoutes fun r => r.tenantId == A && r.provider == "TELEGRAM")
          true).vacant := by
      show _ ∈ s.flushed.looked .webhookRoutes _ (s.rows d .webhookRoutes _)
      rw [hrows]
      exact List.mem_append_right _ (List.mem_singleton.mpr rfl)
    refine ⟨⟨ht.symm, rfl, ?_, _, hvacant, fun r htenant hprovider => ?_⟩, ?_⟩
    · show s.flushed.Owns (botTokenOf s.tenantId)
      rw [ht]
      exact grows_flushed.owns howns
    · have htenant : r.tenantId = s.tenantId := htenant
      simp [htenant, ht, hprovider]
    rintro r s₃ ⟨d₃, -, hadd, rfl⟩
    rw [hadd]
    show wp (machine who) _ _ _
    rw [wp_bind, wp_perform]
    refine ⟨trivial, ?_⟩
    rintro (e | u) s₄ ⟨d₄, -, -, rfl⟩
    · exact hfailed e _
    intro token heq
    cases heq
    refine List.mem_append_right _ (List.mem_append_right _ ?_)
    exact List.mem_singleton.mpr rfl
  · intro token heq
    cases heq
    have hmem : existing ∈ s.rows d .webhookRoutes
        (fun r => r.tenantId == A && r.provider == "TELEGRAM") := hrows ▸ List.mem_cons_self
    obtain ⟨-, -, hcond⟩ := mem_rows.mp hmem
    rw [Bool.and_eq_true, beq_iff_eq, beq_iff_eq] at hcond
    have hclaim : rowClaim .webhookRoutes existing = some (.route existing.token A "TELEGRAM") := by
      rw [← hcond.1, ← hcond.2]
      rfl
    exact List.mem_append_right _ (List.mem_filterMap.mpr ⟨existing, hmem, hclaim⟩)
  · exact hfailed _ _

/-- The answer names the path of the route. -/
theorem wp_recordBot {credential : ProviderCredential} {token : String}
    {verified : Option (Json × DateTime)} :
    wp (machine who) (recordBot A credential token verified) (fun r s' => s.Keeps s' ∧
      ∀ response, r = .ok response →
        response.webhookPath = some ("/api/v1/telegram/" ++ token)) s := by
  have hfailed : ∀ (e : PyError) (s' : Shift), s.Keeps s' → s.Keeps s' ∧
      ∀ response : BotConfigResponse, (Except.error e : Except PyError BotConfigResponse) =
        .ok response → response.webhookPath = some ("/api/v1/telegram/" ++ token) :=
    fun e s' hs' => ⟨hs', fun response h => by cases h⟩
  unfold recordBot
  rw [wp_bind, wp_raising]
  generalize usernameColumn _ = kept
  rcases kept with e | botUsername
  · exact hfailed e s (.refl s)
  rw [bindPost_ok]
  have hend : ∀ s', s.Keeps s' → wp (machine who) (do
      flush
      return {
        botUsername
        tokenLastFour := credential.lastFour
        verifiedAt := verified.map (·.2)
        webhookPath := some ("/api/v1/telegram/" ++ token) } : App BotConfigResponse)
      (fun r s' => s.Keeps s' ∧ ∀ response, r = .ok response →
        response.webhookPath = some ("/api/v1/telegram/" ++ token)) s' := by
    intro s' hs'
    refine wp_quiet_bind (quiet_call trivial) (fun e s'' hs'' => hfailed e s'' (hs'.trans hs''))
      fun _ s'' hs'' => ⟨hs'.trans hs'', fun response h => ?_⟩
    cases h
    rfl
  refine wp_quiet_bind (quiet_call fun _ => rfl) hfailed fun _ s₁ hs₁ => ?_
  dsimp only
  split
  · exact wp_quiet_bind (quiet_call fun _ => rfl) (fun e s₂ hs₂ => hfailed e s₂ (hs₁.trans hs₂))
      fun _ s₂ hs₂ => hend s₂ (hs₁.trans hs₂)
  · exact hend s₁ hs₁

/-- A bot's request answers with a path that it knows to lead to the tenant. -/
theorem wp_upsertBot {payload : BotConfigRequest} (hloaded : s.loaded = [])
    (ht : s.tenantId = A) :
    wp (machine who) (upsertBot key A payload) (fun r s' => ∀ response, r = .ok response →
      ∃ token, response.webhookPath = some ("/api/v1/telegram/" ++ token) ∧
        .route token A "TELEGRAM" ∈ s'.known) s := by
  have hfailed : ∀ (e : PyError) (s' : Shift) (response : BotConfigResponse),
      (Except.error e : Except PyError BotConfigResponse) = .ok response →
        ∃ token, response.webhookPath = some ("/api/v1/telegram/" ++ token) ∧
          .route token A "TELEGRAM" ∈ s'.known := by
    intro e s' response h
    cases h
  unfold upsertBot TelegramBotConfigRepository.get
  rw [wp_bind]
  refine wp_mono ?_ (wp_storeSecret hloaded)
  rintro (e | credential) s₁ hs₁
  · exact hfailed e s₁
  rw [bindPost_ok, wp_bind]
  obtain ⟨htenant, hseizes⟩ := hs₁ credential rfl
  refine wp_mono ?_ (wp_seize hseizes)
  rintro (e | u) s₂ hs₂
  · exact hfailed e s₂
  rw [bindPost_ok]
  obtain ⟨hsame, howns⟩ := hs₂ rfl
  refine wp_quiet_bind (usesOnly_read Op.quiet_of_reads _) (fun e s' _ => hfailed e s')
    fun config s₃ hs₃ => ?_
  have hrest : ∀ s₄, s₃.Keeps s₄ → wp (machine who) (do
      update .telegramBotConfigs (isBotOf A) fun r => { r with credentialId := credential.id }
      let token ← ensureWebhookRoute A
      let verified ← verifyBot key A
      recordBot A credential token verified : App BotConfigResponse)
      (fun r s' => ∀ response, r = .ok response →
        ∃ token, response.webhookPath = some ("/api/v1/telegram/" ++ token) ∧
          .route token A "TELEGRAM" ∈ s'.known) s₄ := by
    intro s₄ hs₄
    refine wp_quiet_bind (quiet_call fun _ => rfl) (fun e s' _ => hfailed e s')
      fun _ s₅ hs₅ => ?_
    have hkeeps := (hs₃.trans hs₄).trans hs₅
    rw [wp_bind]
    refine wp_mono ?_ (wp_ensureWebhookRoute
      ((hkeeps.tenantId.trans hsame).trans (htenant.trans ht)) (hkeeps.toGrows.owns howns))
    rintro (e | token) s₆ hs₆
    · exact hfailed e s₆
    rw [bindPost_ok, wp_bind]
    refine wp_mono ?_ (wp_mild (mild_verifyBot key A))
    rintro (e | verified) s₇ hs₇
    · exact hfailed e s₇
    rw [bindPost_ok]
    refine wp_mono ?_ wp_recordBot
    intro r s₈ hs₈ response hr
    exact ⟨token, hs₈.2 response hr, hs₈.1.known _ (hs₇.known _ (hs₆ token rfl))⟩
  cases config with
  | some config => exact hrest s₃ (.refl s₃)
  | none =>
    exact wp_quiet_bind (quiet_saveNew (by decide) _ _) (fun e s' _ => hfailed e s')
      fun _ s₄ hs₄ => hrest s₄ hs₄

end Bot

end Shift.Admin

end VipChannel

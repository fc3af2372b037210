/-
  VipChannel.Web.ConfigurationRules

  What each admin request writes: which row it leaves at which key, in which tables.

  The rules are about requests that return.  Whatever one raises, nothing is committed.
-/
import VipChannel.Web.Configuration

namespace VipChannel

open Lib
open Program (perform raising)

/-- One row is written; all other tables are as they were. -/
structure Wrote {κ : Type} (t : Table) (keyOf : Row t → κ) (row : Row t) (d d' : Database) :
    Prop where
  put : PutIn keyOf row (d t) (d' t)
  others : ∀ t', t' ≠ t → d' t' = d t'

namespace Wrote

variable {κ : Type} {t : Table} {keyOf : Row t → κ} {row row' : Row t} {d d' d'' : Database}

theorem self (keyOf : Row t → κ) (h : row ∈ d t) : Wrote t keyOf row d d :=
  ⟨.self keyOf h, fun _ _ => rfl⟩

theorem trans (h : Wrote t keyOf row d d') (h' : Wrote t keyOf row' d' d'')
    (hkey : keyOf row' = keyOf row) : Wrote t keyOf row' d d'' :=
  ⟨h.put.trans h'.put hkey, fun t' ht => (h'.others t' ht).trans (h.others t' ht)⟩

theorem append (keyOf : Row t → κ) (d : Database) (row : Row t) :
    Wrote t keyOf row d (d.append t row) := by
  refine ⟨?_, fun t' ht => Store.append_other d ht row⟩
  rw [Store.append_self]
  exact .append keyOf (d t) row

theorem modify {which : Row t → Bool} {change : Row t → Row t} (hmem : row ∈ d t)
    (hself : which row = true) (honly : ∀ r ∈ d t, which r = true → r = row)
    (hkey : keyOf (change row) = keyOf row) :
    Wrote t keyOf (change row) d (d.modify t which change) := by
  refine ⟨?_, fun t' ht => Store.modify_other d ht which change⟩
  rw [Store.modify_self]
  exact .modifyRows hmem hself honly hkey

end Wrote

/-- A table whose unique key this is has no two rows that share it. -/
theorem Distinct.apart {κ : Type} {t : Table} {d : Database} (h : Distinct d)
    {keyOf : Row t → κ} (hkey : ∀ r s, keyOf r = keyOf s → clash t r s = true) :
    Apart keyOf (d t) := by
  refine (h t).imp fun {r s} hno heq => ?_
  rw [hkey r s heq] at hno
  cases hno

theorem clash_of_secretKey (r s : ProviderCredential) (h : secretKey r = secretKey s) :
    clash .providerCredentials r s = true := by
  simp only [secretKey, Prod.mk.injEq] at h
  simp [clash, h]

theorem clash_of_programKey (r s : ReferralProgramConfig) (h : programKey r = programKey s) :
    clash .referralProgramConfigs r s = true := by
  simp only [programKey, Prod.mk.injEq] at h
  simp [clash, h]

theorem clash_of_channelPlace (r s : TelegramChannel) (h : channelPlace r = channelPlace s) :
    clash .telegramChannels r s = true := by
  simp only [channelPlace, Prod.mk.injEq] at h
  simp [clash, h]

theorem clash_of_botKey (r s : TelegramBotConfig) (h : botKey r = botKey s) :
    clash .telegramBotConfigs r s = true := by
  simp only [botKey] at h
  simp [clash, h]

/-- What is encrypted is read again as it was (`Fernet.decrypt` after `Fernet.encrypt`, under
    one key). -/
def Seals (key : EncryptionKey) (G : World → Op → Choice → Prop) : Prop :=
  ∀ w plaintext c, G w (.encrypt plaintext) c → decryptSecret key c.ciphertext = .ok plaintext

/-! ## Looking -/

/-- A session in which nothing is written. -/
structure Unwritten (w w' : World) : Prop where
  db : w'.db = w.db
  tenantId_eq : w'.tenantId = w.tenantId
  view : w'.view = w.view

/-- What only looks rows up, asks Telegram about itself and reads the clock. -/
def Op.looks (op : Op) : Prop :=
  op.reads ∨ (∃ botToken, op = .telegram (.getMe botToken) none) ∨ op = .utcnow

/-- Looking writes nothing. -/
theorem unwritten_of_looks {α : Type} {G : World → Op → Choice → Prop} {w : World} {p : App α}
    (hp : p.UsesOnly Op.looks) :
    wp (serial G) p (fun _ w' => Unwritten w w') w := by
  refine wp_usesOnly (I := fun w' => Unwritten w w') (fun s op c hop _ hs => ?_) hp ⟨rfl, rfl, rfl⟩
  rcases hop with hreads | ⟨botToken, rfl⟩ | rfl
  · cases op with
    | select t cond => exact hs
    | _ => exact hreads.elim
  · simp only [World.step]
    split
    · split <;> exact ⟨hs.db, hs.tenantId_eq, hs.view⟩
    · exact ⟨hs.db, hs.tenantId_eq, hs.view⟩
  · exact ⟨hs.db, hs.tenantId_eq, hs.view⟩

theorem reads_looks (op : Op) (h : op.reads) : op.looks := .inl h

namespace Admin

/-! ## Secrets -/

/-- The secret is kept under its name, unverified. -/
structure SecretWritten (key : EncryptionKey) (providerType : ProviderType) (name secret : String)
    (record : ProviderCredential) (w w' : World) : Prop where
  db : w'.db = w.db
  tenantId_eq : w'.tenantId = w.tenantId
  wrote : Wrote .providerCredentials secretKey record w.view w'.view
  named : secretKey record = (w.tenantId, providerType, name)
  kept : keptSecret key record = ⟨.ok secret, some (lastFour secret), none⟩

section Rules

variable {G : World → Op → Choice → Prop} {key : EncryptionKey} {w : World}

theorem meets_encryptSecret_sealed {secret : String} {Q : String → World → Prop}
    {E : PyError → Ledger → Prop} (hseals : Seals key G)
    (hok : ∀ ciphertext, decryptSecret key ciphertext = .ok secret → Q ciphertext w)
    (herr : ∀ e, E e w.ledger) : Meets G (encryptSecret key secret) Q E w := by
  unfold encryptSecret
  split
  · exact herr _
  · rw [meets_bind]
    refine meets_raising (fun _ _ => ?_) herr
    exact meets_perform fun c hc => hok c.ciphertext (hseals w secret c hc)

theorem meets_storeSecret_written {providerType : ProviderType} {name secret : String}
    (hseals : Seals key G) (hw : w.Sound) :
    Meets G (storeSecret key w.tenantId providerType name secret)
      (fun record w' => SecretWritten key providerType name secret record w w')
      (fun _ l => l.db = w.db) w := by
  unfold storeSecret ProviderCredentialRepository.getNamed
  rw [meets_bind]
  refine meets_raising (fun _ _ => ?_) fun _ => rfl
  rw [meets_bind]
  refine meets_selectOneOrNone (fun _ found hfound => ?_) fun _ => rfl
  rw [meets_bind]
  refine meets_tryCatch (?_ : Meets G _ _ (fun _ l => l.db = w.db) w) fun e w' he => ?_
  · refine meets_encryptSecret_sealed hseals (fun ciphertext hopens => ?_) fun _ => rfl
    rw [meets_bind]
    refine meets_raising (fun _ _ => ?_) fun _ => rfl
    rcases secret_found key hfound with ⟨rfl, -⟩ | ⟨existing, rfl, hmem, hsecret, -⟩
    · -- No secret of this name: it is added.
      dsimp only
      rw [meets_bind]
      refine meets_uuid4 fun id => ?_
      refine meets_saveNew rfl (by simp) (fun r hr => ?_) (fun _ _ => ?_) fun _ => rfl
      · have hid : r.id = id := by simpa using hr
        simp [clash, hid]
      · refine ⟨rfl, rfl, .append _ _ _, rfl, ?_⟩
        simp only [keptSecret, hopens]
    · -- It is rotated in place, under its id, and what was verified is forgotten.
      dsimp only
      rw [meets_bind]
      refine meets_update (keepsKeys_rotated _ _ _) ?_
      have hself : w.inScope (t := .providerCredentials) (fun r => r.id == existing.id) existing =
          true := by
        simp [World.inScope, rowTenant, hsecret.tenantId_eq]
      refine ⟨rfl, rfl, .modify hmem hself (fun r hr hsel => ?_) rfl, ?_, ?_⟩
      · have hid : r.id = existing.id := by simpa using World.inScope_cond hsel
        exact hw.view.eq_of_clash (t := .providerCredentials) hr hmem (by simp [clash, hid])
      · show (existing.tenantId, existing.providerType, existing.credentialName) = _
        rw [hsecret.tenantId_eq, hsecret.providerType_eq, hsecret.name_eq]
      · show KeptSecret.mk (decryptSecret key ciphertext) (some (lastFour secret)) none = _
        rw [hopens]
  · split <;> exact he

theorem meets_upsertCredential_written {payload : CredentialUpsertRequest}
    (hseals : Seals key G) (hw : w.Sound) :
    Meets G (upsertCredential key w.tenantId payload)
      (fun _ w' => ∃ record, SecretWritten key payload.providerType payload.credentialName
        payload.secret record w w') (fun _ l => l.db = w.db) w := by
  unfold upsertCredential
  rw [meets_bind]
  refine meets_mono (meets_storeSecret_written hseals hw) (fun record w₁ hwritten => ?_)
    fun _ _ he => he
  rw [meets_bind]
  exact meets_flush (fun _ => ⟨record, hwritten⟩) fun _ => hwritten.db

/-! ## Programs -/

/-- The program of the market has the terms asked for, as the columns keep them. -/
structure ProgramWritten (payload : ReferralConfigRequest) (w w' : World) : Prop where
  db : w'.db = w.db
  wrote : ∃ row stored, Wrote .referralProgramConfigs programKey row w.view w'.view ∧
    programKey row = (w.tenantId, payload.providerType, payload.market) ∧
    programColumns payload = .ok stored ∧ programTerms row = { stored with }

theorem isProgram_iff {tenantId : TenantId} {payload : ReferralConfigRequest}
    {config : ReferralProgramConfig} :
    isProgram tenantId payload config = true ↔
      programKey config = (tenantId, payload.providerType, payload.market) := by
  simp only [isProgram, programKey, Bool.and_eq_true, beq_iff_eq, Prod.mk.injEq, and_assoc]

/-- The assignments, to a program that was found or added just now. -/
theorem meets_assignProgram {payload : ReferralConfigRequest} {base : ReferralProgramConfig}
    (hw : w.Sound) (hmem : base ∈ w.view .referralProgramConfigs)
    (hkey : programKey base = (w.tenantId, payload.providerType, payload.market)) :
    Meets G (do
        let stored ← raising (programColumns payload)
        update .referralProgramConfigs (isProgram w.tenantId payload) (configureProgram stored)
        saveLoaded .referralProgramConfigs (isProgram w.tenantId payload))
      (fun _ w' => ProgramWritten payload w w') (fun _ l => l.db = w.db) w := by
  have hself : w.inScope (t := .referralProgramConfigs) (isProgram w.tenantId payload) base =
      true := by
    have htenant : base.tenantId = w.tenantId := congrArg Prod.fst hkey
    simp [World.inScope, rowTenant, htenant, isProgram_iff.mpr hkey]
  -- The key is unique, so no other program is written on.
  have honly : ∀ r ∈ w.view .referralProgramConfigs,
      w.inScope (t := .referralProgramConfigs) (isProgram w.tenantId payload) r = true →
        r = base := by
    intro r hr hsel
    have hsame : programKey r = programKey base :=
      (isProgram_iff.mp (World.inScope_cond hsel)).trans hkey.symm
    exact hw.view.eq_of_clash (t := .referralProgramConfigs) hr hmem
      (clash_of_programKey r base hsame)
  rw [meets_bind]
  refine meets_raising (fun kept hkept => ?_) fun _ => rfl
  rw [meets_bind]
  refine meets_update (fun _ _ _ => rfl) ?_
  refine meets_saveLoaded (fun _ _ _ _ => ⟨rfl, ?_⟩) fun _ => rfl
  exact ⟨_, kept, .modify hmem hself honly rfl, hkey, hkept, rfl⟩

theorem meets_upsertReferralConfig_written {payload : ReferralConfigRequest} (hw : w.Sound) :
    Meets G (upsertReferralConfig w.tenantId payload) (fun _ w' => ProgramWritten payload w w')
      (fun _ l => l.db = w.db) w := by
  unfold upsertReferralConfig ReferralProgramConfigRepository.getFor
  rw [meets_bind]
  refine meets_selectOneOrNone (fun _ found hfound => ?_) fun _ => rfl
  cases found with
  | some base =>
    obtain ⟨hmem, hsel, -⟩ := hfound
    exact meets_assignProgram hw hmem (isProgram_iff.mp (World.inScope_cond hsel))
  | none =>
    dsimp only
    rw [meets_bind]
    refine meets_raising (fun referralLink _ => ?_) fun _ => rfl
    rw [meets_bind]
    refine meets_saveNew rfl (by simp [isProgram]) (fun r hr => ?_) (fun _ hfresh => ?_)
      fun _ => rfl
    · have hkey := isProgram_iff.mp hr
      exact clash_of_programKey _ r hkey.symm
    let added : ReferralProgramConfig :=
      { tenantId := w.tenantId, providerType := payload.providerType, market := payload.market
        referralLink }
    let w₁ : World := { w with view := w.view.append .referralProgramConfigs added }
    have hadded : Wrote .referralProgramConfigs programKey added w.view w₁.view := .append _ _ _
    have hw₁ : w₁.Sound := ⟨hw.db, hw.view.append hfresh, hw.saved⟩
    refine meets_mono (meets_assignProgram (w := w₁) hw₁ hadded.put.there rfl)
      (fun _ w' hwritten => ?_) fun _ _ he => he
    -- The row that was added is the one that was written on.
    obtain ⟨row, kept, hrow, hkey, hkept, hterms⟩ := hwritten.wrote
    exact ⟨hwritten.db, row, kept, hadded.trans hrow hkey, hkey, hkept, hterms⟩

/-! ## Channels -/

/-- The channel of the market has the terms asked for, as the columns keep them. -/
structure ChannelWritten (payload : ChannelRequest) (w w' : World) : Prop where
  db : w'.db = w.db
  wrote : ∃ row stored, Wrote .telegramChannels channelPlace row w.view w'.view ∧
    channelPlace row = (w.tenantId, payload.market) ∧
    channelColumns payload = .ok stored ∧ channelTerms row = { stored with }

/-- The assignments, to a channel that was found or added just now. -/
theorem meets_assignChannel {payload : ChannelRequest} {channel : TelegramChannel} (hw : w.Sound)
    (hmem : channel ∈ w.view .telegramChannels)
    (hplace : channelPlace channel = (w.tenantId, payload.market)) :
    Meets G (do
        let stored ← raising (channelColumns payload)
        update .telegramChannels (fun r => r.id == channel.id) (configure stored)
        saveLoaded .telegramChannels fun r => r.id == channel.id)
      (fun _ w' => ChannelWritten payload w w') (fun _ l => l.db = w.db) w := by
  have hself : w.inScope (t := .telegramChannels) (fun r => r.id == channel.id) channel =
      true := by
    have htenant : channel.tenantId = w.tenantId := congrArg Prod.fst hplace
    simp [World.inScope, rowTenant, htenant]
  -- The id is the primary key.
  have honly : ∀ r ∈ w.view .telegramChannels,
      w.inScope (t := .telegramChannels) (fun r => r.id == channel.id) r = true →
        r = channel := by
    intro r hr hsel
    have hid : r.id = channel.id := by simpa using World.inScope_cond hsel
    exact hw.view.eq_of_clash (t := .telegramChannels) hr hmem (by simp [clash, hid])
  rw [meets_bind]
  refine meets_raising (fun stored hstored => ?_) fun _ => rfl
  rw [meets_bind]
  refine meets_perform fun c _ => ?_
  simp only [World.step, World.withUpdate]
  split
  · -- The chat id is another channel's: the flush raises.
    refine meets_saveLoaded (fun hnone => ?_) fun _ => rfl
    simp at hnone
  · refine meets_saveLoaded (fun _ _ _ _ => ⟨rfl, ?_⟩) fun _ => rfl
    exact ⟨_, stored, .modify hmem hself honly rfl, hplace, hstored, rfl⟩

theorem meets_upsertChannel_written {payload : ChannelRequest} (hw : w.Sound) :
    Meets G (upsertChannel w.tenantId payload) (fun _ w' => ChannelWritten payload w w')
      (fun _ l => l.db = w.db) w := by
  unfold upsertChannel TelegramChannelRepository.getForMarket
  rw [meets_bind]
  refine meets_selectOneOrNone (fun _ found hfound => ?_) fun _ => rfl
  cases found with
  | some channel =>
    obtain ⟨hmem, hsel, -⟩ := hfound
    have hcond := World.inScope_cond hsel
    simp only [Bool.and_eq_true, beq_iff_eq] at hcond
    exact meets_assignChannel hw hmem (Prod.ext hcond.1.1 hcond.1.2)
  | none =>
    rw [meets_bind]
    refine meets_uuid4 fun id => ?_
    rw [meets_bind]
    refine meets_raising (fun chatId _ => ?_) fun _ => rfl
    rw [meets_bind]
    refine meets_saveNew rfl (by simp) (fun r hr => ?_) (fun _ hfresh => ?_) fun _ => rfl
    · have hid : r.id = id := by simpa using hr
      simp [clash, hid]
    let added : TelegramChannel :=
      { id, tenantId := w.tenantId, market := payload.market, chatId }
    let w₁ : World := { w with view := w.view.append .telegramChannels added }
    have hadded : Wrote .telegramChannels channelPlace added w.view w₁.view := .append _ _ _
    have hw₁ : w₁.Sound := ⟨hw.db, hw.view.append hfresh, hw.saved⟩
    refine meets_mono (meets_assignChannel (w := w₁) hw₁ hadded.put.there rfl)
      (fun _ w' hwritten => ?_) fun _ _ he => he
    obtain ⟨row, stored, hrow, hplace, hstored, hterms⟩ := hwritten.wrote
    exact ⟨hwritten.db, row, stored, hadded.trans hrow hplace, hplace, hstored, hterms⟩

/-! ## The bot -/

/-- The tenant's path is a route that was there, or the first one. -/
def RouteKept (tenantId : TenantId) (path : Option String) (rows rows' : List WebhookRoute) :
    Prop :=
  ∃ route, routeKey route = (tenantId, "TELEGRAM") ∧ path = some (pathOf route) ∧
    ((rows' = rows ∧ route ∈ rows) ∨
      (rows' = rows ++ [route] ∧ ∀ r ∈ rows, routeKey r ≠ routeKey route))

/-- The tables a bot is written to. -/
def BOT : List Table := [.providerCredentials, .telegramBotConfigs, .webhookRoutes]

/-- The token is kept, the bot is described by `terms`, and it has its path. -/
structure BotWritten (key : EncryptionKey) (botToken : String) (verifiedAt : Option DateTime)
    (terms : BotTerms) (path : Option String) (record : ProviderCredential) (w w' : World) :
    Prop where
  db : w'.db = w.db
  tenantId_eq : w'.tenantId = w.tenantId
  secret : PutIn secretKey record (w.view .providerCredentials) (w'.view .providerCredentials)
  named : secretKey record = (w.tenantId, .telegram, TELEGRAM_BOT_TOKEN)
  kept : keptSecret key record = ⟨.ok botToken, some (lastFour botToken), verifiedAt⟩
  bot : ∃ config, PutIn botKey config (w.view .telegramBotConfigs) (w'.view .telegramBotConfigs) ∧
    botKey config = w.tenantId ∧ botTerms config = terms
  route : RouteKept w.tenantId path (w.view .webhookRoutes) (w'.view .webhookRoutes)
  others : ∀ t, t ∉ BOT → w'.view t = w.view t

theorem meets_ensureWebhookRoute_kept {tenantId : TenantId} (ht : w.tenantId = tenantId) :
    Meets G (ensureWebhookRoute tenantId)
      (fun token w' => w'.db = w.db ∧ w'.tenantId = tenantId ∧
        (∀ t, t ≠ .webhookRoutes → w'.view t = w.view t) ∧
        RouteKept tenantId (some ("/api/v1/telegram/" ++ token)) (w.view .webhookRoutes)
          (w'.view .webhookRoutes)) (fun _ l => l.db = w.db) w := by
  subst ht
  unfold ensureWebhookRoute
  rw [meets_bind]
  refine meets_selectOneOrNone (fun _ found hfound => ?_) fun _ => rfl
  cases found with
  | some route =>
    obtain ⟨hmem, hsel, -⟩ := hfound
    have hcond := World.inScope_cond hsel
    simp only [Bool.and_eq_true, beq_iff_eq] at hcond
    exact ⟨rfl, rfl, fun _ _ => rfl, route, Prod.ext hcond.1 hcond.2, rfl, .inl ⟨rfl, hmem⟩⟩
  | none =>
    dsimp only
    rw [meets_bind]
    refine meets_perform fun c _ => ?_
    show Meets G (add .webhookRoutes _ >>= fun _ => flush >>= fun _ => pure c.token) _ _ w
    rw [meets_bind]
    refine meets_add ?_
    rw [meets_bind]
    let route : WebhookRoute := { tenantId := w.tenantId, token := c.token, provider := "TELEGRAM" }
    have hno : ∀ r ∈ w.view .webhookRoutes, routeKey r ≠ routeKey route := by
      intro r hr heq
      have hout := hfound r hr
      simp only [routeKey, route, Prod.mk.injEq] at heq
      simp [World.inScope, rowTenant, heq] at hout
    by_cases hany : (w.view .webhookRoutes).any (clash .webhookRoutes route) = true
    · -- The path is another tenant's: the flush raises.
      refine meets_flush (fun hc => ?_) fun _ => ?_
      · simp [World.withPending, hany, route] at hc
      · rw [World.ledger_withPending]
        rfl
    · simp only [World.withPending, route, hany, Bool.false_eq_true, if_false]
      refine meets_flush (fun _ => ⟨rfl, rfl, fun t ht => ?_, route, rfl, rfl, .inr ⟨?_, hno⟩⟩)
        fun _ => rfl
      · exact Store.append_other w.view ht route
      · exact Store.append_self w.view .webhookRoutes route

/-- Up to the call of Telegram. -/
theorem meets_saveBot_written {payload : BotConfigRequest} (hseals : Seals key G)
    (hw : w.Sound) :
    Meets G (saveBot key w.tenantId payload)
      (fun saved w' => ∃ terms, BotWritten key payload.botToken none terms
        (some ("/api/v1/telegram/" ++ saved.2)) saved.1 w w') (fun _ l => l.db = w.db) w := by
  unfold saveBot TelegramBotConfigRepository.get
  rw [meets_bind]
  refine meets_sound hw (meets_mono (meets_storeSecret_written hseals hw)
    (fun credential w₁ hsecret hw₁ => ?_) fun _ _ he => he)
  have hdb : w₁.db = w.db := hsecret.db
  rw [← hsecret.tenantId_eq, meets_bind]
  refine meets_flush (fun _ => ?_) fun _ => hdb
  rw [meets_bind]
  refine meets_selectOneOrNone (fun _ found hfound => ?_) fun _ => hdb
  -- From a world in which the bot is on record.
  have hrest : ∀ (w₂ : World) (config : TelegramBotConfig), w₂.db = w.db → w₂.Sound →
      w₂.tenantId = w₁.tenantId → Wrote .telegramBotConfigs botKey config w₁.view w₂.view →
      botKey config = w₁.tenantId →
      Meets G (do
        update .telegramBotConfigs (isBotOf w₁.tenantId) fun r =>
          { r with credentialId := credential.id }
        let token ← ensureWebhookRoute w₁.tenantId
        return (credential, token) : App (ProviderCredential × String))
      (fun saved w' => ∃ terms, BotWritten key payload.botToken none terms
        (some ("/api/v1/telegram/" ++ saved.2)) saved.1 w w') (fun _ l => l.db = w.db) w₂ := by
    intro w₂ config hdb₂ hw₂ ht₂ hconfig hkey
    rw [meets_bind]
    refine meets_update (fun _ _ _ => rfl) ?_
    let noted (r : TelegramBotConfig) : TelegramBotConfig :=
      { r with credentialId := credential.id }
    let w₃ : World := { w₂ with
      view := w₂.view.modify .telegramBotConfigs (w₂.inScope (isBotOf w₁.tenantId)) noted }
    have hnoted : Wrote .telegramBotConfigs botKey (noted config) w₁.view w₃.view := by
      refine hconfig.trans (.modify hconfig.put.there ?_ (fun r hr hsel => ?_) rfl) rfl
      · have ht : config.tenantId = w₁.tenantId := hkey
        simp [World.inScope, rowTenant, isBotOf, ht, ht₂]
      · have ht : botKey r = botKey config := by
          have hof := World.inScope_cond hsel
          rw [isBotOf, beq_iff_eq] at hof
          exact hof.trans hkey.symm
        exact hw₂.view.eq_of_clash (t := .telegramBotConfigs) hr hconfig.put.there
          (clash_of_botKey r config ht)
    have ht₃ : w₃.tenantId = w₁.tenantId := ht₂
    rw [meets_bind]
    refine meets_mono (meets_ensureWebhookRoute_kept (w := w₃) ht₃) ?_
      fun _ _ he => Eq.trans he hdb₂
    rintro token w' ⟨hdb', ht', hviews, hroute⟩
    refine ⟨botTerms (noted config), hdb'.trans hdb₂, ?_, ?_, hsecret.named, hsecret.kept,
      ⟨noted config, ?_, ?_, rfl⟩, ?_, fun t ht => ?_⟩
    · exact ht'.trans hsecret.tenantId_eq
    · rw [hviews _ (by decide), hnoted.others _ (by decide)]
      exact hsecret.wrote.put
    · rw [hviews _ (by decide), ← hsecret.wrote.others _ (by decide)]
      exact hnoted.put
    · exact hkey.trans hsecret.tenantId_eq
    · rw [hnoted.others _ (by decide), hsecret.wrote.others _ (by decide),
        hsecret.tenantId_eq] at hroute
      exact hroute
    · have hne : t ≠ .providerCredentials ∧ t ≠ .telegramBotConfigs ∧ t ≠ .webhookRoutes := by
        simpa [BOT] using ht
      rw [hviews t hne.2.2, hnoted.others t hne.2.1, hsecret.wrote.others t hne.1]
  cases found with
  | some config =>
    obtain ⟨hmem, hsel, -⟩ := hfound
    have ht : botKey config = w₁.tenantId := World.inScope_tenant hsel
    exact hrest w₁ config hdb hw₁ rfl (.self _ hmem) ht
  | none =>
    dsimp only
    rw [meets_bind]
    refine meets_saveNew rfl (by simp [isBotOf]) (fun r hr => ?_) (fun _ hfresh => ?_) fun _ => hdb
    · have ht : r.tenantId = w₁.tenantId := by simpa [isBotOf] using hr
      simp [clash, ht]
    · exact hrest _ _ hdb ⟨hw₁.db, hw₁.view.append hfresh, hw₁.saved⟩ rfl (.append _ _ _) rfl

theorem looks_me (botToken : String) : Op.looks (.telegram (.getMe botToken) none) :=
  .inr (.inl ⟨botToken, rfl⟩)

theorem looks_verifyBot (tenantId : TenantId) : (verifyBot key tenantId).UsesOnly Op.looks := by
  refine Program.usesOnly_tryCatch ?_ fun e => ?_
  · refine Program.usesOnly_bind (ProviderFactory.usesOnly_telegram reads_looks _ _) fun _ => ?_
    refine Program.usesOnly_bind (usesOnly_getMe looks_me _) fun identity => ?_
    exact Program.usesOnly_bind ((Program.usesOnly_perform _).mpr (.inr (.inr rfl))) fun _ =>
      trivial
  · split <;> trivial

theorem looks_listAll (t : Table) (tenantId : TenantId) : (listAll t tenantId).UsesOnly Op.looks :=
  Program.usesOnly_bind ((Program.usesOnly_perform _).mpr (.inl trivial)) fun _ => trivial

theorem looks_checkIntegration (tenantId : TenantId) :
    (checkIntegration key tenantId).UsesOnly Op.looks := by
  refine Program.usesOnly_bind (Program.usesOnly_tryCatch ?_ fun e => ?_) fun bot => ?_
  · refine Program.usesOnly_bind (ProviderFactory.usesOnly_telegram reads_looks _ _) fun _ => ?_
    exact Program.usesOnly_bind (usesOnly_getMe looks_me _) fun identity => trivial
  · split
    · trivial
    · split <;> trivial
  refine Program.usesOnly_bind (Program.usesOnly_tryCatch ?_ fun e => ?_) fun referral => ?_
  · exact Program.usesOnly_bind (ProviderFactory.usesOnly_referralProvider reads_looks _ _ _)
      fun _ => trivial
  · split <;> trivial
  refine Program.usesOnly_bind (looks_listAll _ _) fun channels => ?_
  exact Program.usesOnly_bind (looks_listAll _ _) fun configs => trivial

/-- What came of asking is written down, and answered. -/
theorem meets_recordBot_written {botToken token : String} {record : ProviderCredential}
    {terms : BotTerms} {path : Option String} {verified : Option (Json × DateTime)}
    {w₀ : World} (hw : w.Sound) (hsaved : BotWritten key botToken none terms path record w₀ w)
    (hpath : path = some ("/api/v1/telegram/" ++ token)) :
    Meets G (recordBot w₀.tenantId record token verified)
      (fun response w' => ∃ record', BotWritten key botToken response.verifiedAt
        ⟨response.botUsername, response.verifiedAt⟩ response.webhookPath record' w₀ w')
      (fun _ l => l.db = w₀.db) w := by
  obtain ⟨config, hconfig, hkey, -⟩ := hsaved.bot
  have ht : w.tenantId = w₀.tenantId := hsaved.tenantId_eq
  unfold recordBot
  rw [meets_bind]
  refine meets_raising (fun botUsername _ => ?_) fun _ => hsaved.db
  dsimp only
  rw [meets_bind]
  refine meets_update (fun _ _ _ => rfl) ?_
  let noted (r : TelegramBotConfig) : TelegramBotConfig :=
    { r with botUsername, verifiedAt := verified.map (·.2) }
  let w₁ : World := { w with
    view := w.view.modify .telegramBotConfigs (w.inScope (isBotOf w₀.tenantId)) noted }
  have hnoted : Wrote .telegramBotConfigs botKey (noted config) w.view w₁.view := by
    refine .modify hconfig.there ?_ (fun r hr hsel => ?_) rfl
    · have hof : config.tenantId = w₀.tenantId := hkey
      simp [World.inScope, rowTenant, isBotOf, hof, ht]
    · have hof := World.inScope_cond hsel
      rw [isBotOf, beq_iff_eq] at hof
      exact hw.view.eq_of_clash (t := .telegramBotConfigs) hr hconfig.there
        (clash_of_botKey r config (Eq.trans hof hkey.symm))
  -- The credential is dated or left alone: with its row settled, all of the bot is written.
  have hdone : ∀ (at_ : Option DateTime) (record' : ProviderCredential) (w' : World),
      at_ = verified.map (·.2) → w'.db = w.db → w'.tenantId = w.tenantId →
      PutIn secretKey record' (w.view .providerCredentials) (w'.view .providerCredentials) →
      secretKey record' = secretKey record →
      keptSecret key record' = ⟨.ok botToken, some (lastFour botToken), at_⟩ →
      (∀ t, t ≠ .providerCredentials → w'.view t = w₁.view t) →
      BotWritten key botToken at_ ⟨botUsername, at_⟩
        (some ("/api/v1/telegram/" ++ token)) record' w₀ w' := by
    intro at_ record' w' hat hdb htenant hput hsame hkept hviews
    refine ⟨hdb.trans hsaved.db, htenant.trans ht, hsaved.secret.trans hput hsame,
      hsame.trans hsaved.named, hkept, ⟨noted config, ?_, hkey, ?_⟩, ?_, fun t hout => ?_⟩
    · rw [hviews _ (by decide)]
      exact hconfig.trans hnoted.put rfl
    · rw [hat]
      rfl
    · rw [hviews _ (by decide), hnoted.others _ (by decide), ← hpath]
      exact hsaved.route
    · have hne : t ≠ .providerCredentials ∧ t ≠ .telegramBotConfigs ∧ t ≠ .webhookRoutes := by
        simpa [BOT] using hout
      rw [hviews t hne.1, hnoted.others t hne.2.1, hsaved.others t hout]
  change Meets G _ _ _ w₁
  cases verified with
  | none =>
    -- Telegram did not vouch for the token: the credential stays unverified.
    show Meets G (flush >>= fun _ => pure _) _ _ _
    rw [meets_bind]
    refine meets_flush (fun _ => ⟨record, ?_⟩) fun _ => hsaved.db
    refine hdone none record w₁ rfl rfl rfl ?_ rfl hsaved.kept fun _ _ => rfl
    rw [hnoted.others _ (by decide)]
    exact .self _ hsaved.secret.there
  | some answer =>
    show Meets G (update .providerCredentials _ _ >>= fun _ => flush >>= fun _ => pure _) _ _ _
    rw [meets_bind]
    refine meets_update (fun _ _ _ => rfl) ?_
    rw [meets_bind]
    let dated (r : ProviderCredential) : ProviderCredential :=
      { r with verifiedAt := some answer.2 }
    have hdated : Wrote .providerCredentials secretKey (dated record) w₁.view
        (w₁.view.modify .providerCredentials (w₁.inScope fun r => r.id == record.id) dated) := by
      have hthere : record ∈ w₁.view .providerCredentials := by
        rw [hnoted.others _ (by decide)]
        exact hsaved.secret.there
      refine .modify hthere ?_ (fun r hr hsel => ?_) rfl
      · have hof : record.tenantId = w₀.tenantId := congrArg Prod.fst hsaved.named
        simp [World.inScope, rowTenant, hof, w₁, ht]
      · have hid : r.id = record.id := by simpa using World.inScope_cond hsel
        rw [hnoted.others _ (by decide)] at hr
        exact hw.view.eq_of_clash (t := .providerCredentials) hr hsaved.secret.there
          (by simp [clash, hid])
    refine meets_flush (fun _ => ⟨dated record, ?_⟩) fun _ => hsaved.db
    refine hdone (some answer.2) (dated record) _ rfl rfl rfl ?_ rfl ?_ hdated.others
    · rw [← hnoted.others _ (by decide)]
      exact hdated.put
    · have hkept := hsaved.kept
      simp only [keptSecret, KeptSecret.mk.injEq] at hkept ⊢
      exact ⟨hkept.1, hkept.2.1, rfl⟩

theorem meets_upsertBot_written {payload : BotConfigRequest} (hseals : Seals key G)
    (hw : w.Sound) :
    Meets G (upsertBot key w.tenantId payload)
      (fun response w' => ∃ record, BotWritten key payload.botToken response.verifiedAt
        ⟨response.botUsername, response.verifiedAt⟩ response.webhookPath record w w')
      (fun _ l => l.db = w.db) w := by
  rw [upsertBot_eq, meets_bind]
  refine meets_sound hw (meets_mono (meets_saveBot_written hseals hw)
    (fun saved w₁ ⟨terms, hsaved⟩ hw₁ => ?_) fun _ _ he => he)
  rw [meets_bind]
  have hasked : Meets G (verifyBot key w.tenantId) (fun _ w' => Unwritten w₁ w')
      (fun _ l => l.db = w₁.db) w₁ := by
    refine wp_mono ?_ (unwritten_of_looks (looks_verifyBot _))
    rintro (e | verified) w' hsame
    · exact hsame.db
    · exact hsame
  refine meets_sound hw₁ (meets_mono hasked (fun verified w₂ hsame hw₂ => ?_)
    fun _ _ he => Eq.trans he hsaved.db)
  have hsaved₂ : BotWritten key payload.botToken none terms
      (some ("/api/v1/telegram/" ++ saved.2)) saved.1 w w₂ :=
    { hsaved with
      db := hsame.db.trans hsaved.db
      tenantId_eq := hsame.tenantId_eq.trans hsaved.tenantId_eq
      secret := by
        rw [hsame.view]
        exact hsaved.secret
      bot := by
        rw [hsame.view]
        exact hsaved.bot
      route := by
        rw [hsame.view]
        exact hsaved.route
      others := by
        rw [hsame.view]
        exact hsaved.others }
  exact meets_recordBot_written hw₂ hsaved₂ rfl

end Rules

end Admin

end VipChannel

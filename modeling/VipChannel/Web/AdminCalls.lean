/-
  VipChannel.Web.AdminCalls

  Which tables the admin requests and the payment webhook write on: a tenant's
  configuration, and the payment records.

  Registering a channel is in VipChannel.Web.AdminChannels, which says what becomes of the
  rows.
-/
import VipChannel.Services.ServiceCalls
import VipChannel.Services.PaymentService
import VipChannel.Runs.Transactions
import VipChannel.Web.Admin

namespace VipChannel

open Lib
open Program (perform raising UsesOnly usesOnly_bind usesOnly_tryCatch usesOnly_perform
  usesOnly_raising)

/-- The tables of a tenant's configuration, but for its channels, and the payments. -/
def SETTINGS : List Table :=
  [.providerCredentials, .referralProgramConfigs, .telegramBotConfigs, .webhookRoutes,
    .paymentRecords]

/-- Inside a session: a call that writes rows of these tables at most, and does not go back
    to a savepoint. -/
def Op.within (ts : List Table) : Op → Prop
  | .add t _ | .update t _ _ => t ∈ ts
  | .openSession _ | .closeSession | .rollbackToSavepoint => False
  | .select .. | .flush | .savepoint | .releaseSavepoint | .commit | .rollback | .utcnow
  | .uuid4 | .activeTenantIds | .tenantsOfToken _ | .tokenUrlsafe | .encrypt _ | .validateUser _
  | .telegram .. => True

/-- A table no call writes on is as it was, before the commit and after it. -/
theorem wp_within {α : Type} {G : World → Op → Choice → Prop} {ts : List Table} {p : App α}
    (hp : p.UsesOnly (Op.within ts)) {t : Table} (ht : t ∉ ts) {w : World}
    (hview : w.view t = w.db t) :
    wp (serial G) p (fun _ w' => w'.db t = w.db t ∧ w'.view t = w.db t) w := by
  refine wp_usesOnly (I := fun w' : World => w'.db t = w.db t ∧ w'.view t = w.db t) ?_ hp
    ⟨rfl, hview⟩
  rintro s op c hop - ⟨hdb, hv⟩
  cases op with
  | openSession | closeSession | rollbackToSavepoint => exact hop.elim
  | select | flush | releaseSavepoint | utcnow | uuid4 | activeTenantIds | tenantsOfToken
  | tokenUrlsafe | encrypt | validateUser => exact ⟨hdb, hv⟩
  | add t' row =>
    have hne : t ≠ t' := fun heq => ht (heq ▸ hop)
    simp only [World.step, World.withPending]
    split
    · exact ⟨hdb, hv⟩
    · exact ⟨hdb, (Store.append_other _ hne _).trans hv⟩
  | update t' which change =>
    have hne : t ≠ t' := fun heq => ht (heq ▸ hop)
    simp only [World.step, World.withUpdate]
    split
    · exact ⟨hdb, hv⟩
    · exact ⟨hdb, (Store.modify_other _ hne _ _).trans hv⟩
  | savepoint =>
    simp only [World.step]
    split <;> exact ⟨hdb, hv⟩
  | commit =>
    simp only [World.step]
    split
    · exact ⟨hdb, hv⟩
    · exact ⟨hv, hv⟩
  | rollback => exact ⟨hdb, hdb⟩
  | telegram call about =>
    simp only [World.step]
    split
    · split <;> exact ⟨hdb, hv⟩
    · exact ⟨hdb, hv⟩

/-- What a request leaves of the tables it does not write on. -/
theorem requestTx_within {α : Type} {G : World → Op → Choice → Prop} {ts : List Table}
    {tenantId : TenantId} {body : App α} (h : body.UsesOnly (Op.within ts)) {w w' : World}
    {r : Except PyError α} (hruns : Runs (serial G) (requestTx tenantId body) w r w') {t : Table}
    (ht : t ∉ ts) : w'.db t = w.db t := by
  obtain ⟨w₁, hbody, rfl⟩ := runs_withSession hruns
  have hcommit : (perform Op.commit : App Unit).UsesOnly (Op.within ts) := by
    rw [usesOnly_perform]
    trivial
  have hrollback : (perform Op.rollback : App Unit).UsesOnly (Op.within ts) := by
    rw [usesOnly_perform]
    trivial
  refine (wp_sound (wp_within ?_ ht rfl) hbody).1
  refine usesOnly_tryCatch (usesOnly_bind h fun a => ?_) fun e => ?_
  · exact usesOnly_bind hcommit fun _ => trivial
  · exact usesOnly_bind hrollback fun _ => trivial

/-! ## The statements -/

section Statements

variable {ts : List Table} {t : Table}

theorem reads_within (op : Op) (h : op.reads) : op.within ts := by
  cases op with
  | select => trivial
  | _ => exact h.elim

theorem within_perform {op : Op} (h : op.within ts) :
    (perform op : App op.Ret).UsesOnly (Op.within ts) := by
  rw [usesOnly_perform]
  exact h

theorem within_refresh (which : Row t → Bool) : (refresh t which).UsesOnly (Op.within ts) := by
  refine usesOnly_bind (within_perform trivial) fun rows => ?_
  cases rows with
  | nil => trivial
  | cons r rest => trivial

theorem within_saveLoaded (which : Row t → Bool) :
    (saveLoaded t which).UsesOnly (Op.within ts) :=
  usesOnly_bind (within_perform trivial) fun _ => within_refresh which

theorem within_saveNew (ht : t ∈ ts) (which : Row t → Bool) (row : Row t) :
    (saveNew t which row).UsesOnly (Op.within ts) :=
  usesOnly_bind (within_perform ht) fun _ => within_saveLoaded which

theorem within_update (ht : t ∈ ts) (which : Row t → Bool) (change : Row t → Row t) :
    (update t which change).UsesOnly (Op.within ts) :=
  within_perform ht

theorem within_listAll (tenantId : TenantId) : (listAll t tenantId).UsesOnly (Op.within ts) :=
  usesOnly_bind (within_perform trivial) fun _ => trivial

end Statements

/-! ## The requests -/

namespace Admin

section Requests

variable (env : EncryptionKey) (tenantId : TenantId)

theorem within_storeSecret (providerType : ProviderType) (name secret : String) :
    (storeSecret env tenantId providerType name secret).UsesOnly (Op.within SETTINGS) := by
  refine usesOnly_bind ((usesOnly_raising _).mpr trivial) fun _ => ?_
  refine usesOnly_bind (usesOnly_read reads_within _) fun existing => ?_
  refine usesOnly_bind (usesOnly_tryCatch ?_ fun e => ?_) fun ciphertext => ?_
  · unfold encryptSecret
    split
    · trivial
    · exact usesOnly_bind (by simp) fun _ => within_perform trivial
  · split <;> trivial
  refine usesOnly_bind ((usesOnly_raising _).mpr trivial) fun _ => ?_
  cases existing with
  | some existing => exact usesOnly_bind (within_update (by decide) _ _) fun _ => trivial
  | none => exact usesOnly_bind (within_perform trivial) fun id => within_saveNew (by decide) _ _

theorem within_upsertCredential (payload : CredentialUpsertRequest) :
    (upsertCredential env tenantId payload).UsesOnly (Op.within SETTINGS) := by
  refine usesOnly_bind (within_storeSecret env tenantId _ _ _) fun record => ?_
  exact usesOnly_bind (within_perform trivial) fun _ => trivial

theorem within_listCredentials : (listCredentials tenantId).UsesOnly (Op.within SETTINGS) :=
  usesOnly_bind (within_listAll tenantId) fun _ => trivial

theorem within_upsertReferralConfig (payload : ReferralConfigRequest) :
    (upsertReferralConfig tenantId payload).UsesOnly (Op.within SETTINGS) := by
  refine usesOnly_bind (usesOnly_read reads_within _) fun config => ?_
  have hrest : (do
      let stored ← raising (programColumns payload)
      update .referralProgramConfigs (isProgram tenantId payload) (configureProgram stored)
      saveLoaded .referralProgramConfigs (isProgram tenantId payload) :
        App ReferralProgramConfig).UsesOnly (Op.within SETTINGS) := by
    refine usesOnly_bind ?_ fun stored => ?_
    · exact (usesOnly_raising _).mpr trivial
    · exact usesOnly_bind (within_update (by decide) _ _) fun _ => within_saveLoaded _
  cases config with
  | some config => exact hrest
  | none =>
    refine usesOnly_bind ((usesOnly_raising _).mpr trivial) fun referralLink => ?_
    exact usesOnly_bind (within_saveNew (by decide) _ _) fun _ => hrest

theorem within_ensureWebhookRoute :
    (ensureWebhookRoute tenantId).UsesOnly (Op.within SETTINGS) := by
  refine usesOnly_bind (usesOnly_read reads_within _) fun existing => ?_
  cases existing with
  | some existing => trivial
  | none =>
    have hmem : Table.webhookRoutes ∈ SETTINGS := by decide
    refine usesOnly_bind (within_perform trivial) fun token => ?_
    refine usesOnly_bind (within_perform hmem) fun _ => ?_
    exact usesOnly_bind (within_perform trivial) fun _ => trivial

theorem within_verifyBot : (verifyBot env tenantId).UsesOnly (Op.within SETTINGS) := by
  refine usesOnly_tryCatch ?_ fun e => ?_
  · refine usesOnly_bind (ProviderFactory.usesOnly_telegram reads_within _ _) fun _ => ?_
    refine usesOnly_bind (usesOnly_getMe (fun _ => trivial) _) fun identity => ?_
    exact usesOnly_bind (within_perform trivial) fun _ => trivial
  · split <;> trivial

theorem within_recordBot (credential : ProviderCredential) (token : String)
    (verified : Option (Json × DateTime)) :
    (recordBot tenantId credential token verified).UsesOnly (Op.within SETTINGS) := by
  refine usesOnly_bind ((usesOnly_raising _).mpr trivial) fun botUsername => ?_
  refine usesOnly_bind (within_update (by decide) _ _) fun _ => ?_
  split
  · refine usesOnly_bind (within_update (by decide) _ _) fun _ => ?_
    exact usesOnly_bind (within_perform trivial) fun _ => trivial
  · exact usesOnly_bind (within_perform trivial) fun _ => trivial

theorem within_upsertBot (payload : BotConfigRequest) :
    (upsertBot env tenantId payload).UsesOnly (Op.within SETTINGS) := by
  refine usesOnly_bind (within_storeSecret env tenantId _ _ _) fun credential => ?_
  refine usesOnly_bind (within_perform trivial) fun _ => ?_
  refine usesOnly_bind (usesOnly_read reads_within _) fun config => ?_
  have hrest : (do
      update .telegramBotConfigs (isBotOf tenantId) fun r =>
        { r with credentialId := credential.id }
      let token ← ensureWebhookRoute tenantId
      let verified ← verifyBot env tenantId
      recordBot tenantId credential token verified : App BotConfigResponse).UsesOnly
        (Op.within SETTINGS) := by
    refine usesOnly_bind (within_update (by decide) _ _) fun _ => ?_
    refine usesOnly_bind (within_ensureWebhookRoute tenantId) fun token => ?_
    refine usesOnly_bind (within_verifyBot env tenantId) fun verified => ?_
    exact within_recordBot tenantId _ _ _
  cases config with
  | some config => exact hrest
  | none => exact usesOnly_bind (within_saveNew (by decide) _ _) fun _ => hrest

theorem within_checkIntegration :
    (checkIntegration env tenantId).UsesOnly (Op.within SETTINGS) := by
  refine usesOnly_bind (usesOnly_tryCatch ?_ fun e => ?_) fun bot => ?_
  · refine usesOnly_bind (ProviderFactory.usesOnly_telegram reads_within _ _) fun _ => ?_
    exact usesOnly_bind (usesOnly_getMe (fun _ => trivial) _) fun identity => trivial
  · split
    · trivial
    · split <;> trivial
  refine usesOnly_bind (usesOnly_tryCatch ?_ fun e => ?_) fun referral => ?_
  · exact usesOnly_bind (ProviderFactory.usesOnly_referralProvider reads_within _ _ _) fun _ =>
      trivial
  · split <;> trivial
  refine usesOnly_bind (within_listAll tenantId) fun channels => ?_
  exact usesOnly_bind (within_listAll tenantId) fun configs => trivial

end Requests

end Admin

theorem PaymentProcessingService.within_processPayment (tenantId : TenantId)
    (payload : PaymentIngestRequest) :
    (processPayment tenantId payload).UsesOnly (Op.within SETTINGS) := by
  refine usesOnly_bind (within_perform trivial) fun id => ?_
  refine usesOnly_bind ((usesOnly_raising _).mpr trivial) fun stored => ?_
  exact usesOnly_bind (within_saveNew (by decide) _ _) fun _ => trivial

end VipChannel

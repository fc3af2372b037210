/-
  VipChannel.Runs.Confined

  Every operation of a tenant is confined to the tenant's rows.

  One lemma for each function of the source, in the order of the modules; what is to be
  shown is only that each row written is the tenant's, and that no tenant and no key is
  changed.
-/
import VipChannel.Persistence.ConfinementRules
import VipChannel.Web.Admin
import VipChannel.Services.ServiceCalls
import VipChannel.Runs.Payments

namespace VipChannel

open Lib
open Program (perform raising)

section Services

variable {A : TenantId} {T : String → Prop} {s : Stage}

/-! ## Providers and credentials -/

section Providers

variable (hb : s.bound = true)
include hb

namespace ProviderFactory

theorem confined_secret (env : EncryptionKey) (providerType : ProviderType) (name : String) :
    Confined A T s (secret env A providerType name) := by
  refine confined_bind (confined_selectOneOrNone hb _) fun record => ?_
  cases record with
  | none => exact confined_throw _
  | some record => exact confined_raising _

theorem confined_referralProvider (env : EncryptionKey) (providerType : ProviderType) :
    Confined A T s (referralProvider env A providerType) := by
  unfold referralProvider
  split
  · refine confined_bind (confined_secret hb _ _ _) fun _ => ?_
    exact confined_bind (confined_secret hb _ _ _) fun _ => confined_pure _
  · exact confined_throw _

theorem confined_telegram (env : EncryptionKey) : Confined A T s (telegram env A) := by
  refine confined_bind (confined_selectOneOrNone hb _) fun config => ?_
  cases config with
  | none => exact confined_throw _
  | some config => exact confined_secret hb _ _ _

end ProviderFactory

theorem confined_configured (env : EncryptionKey) (providerType : ProviderType) :
    Confined A T s (Scheduler.configured env A providerType) := by
  unfold Scheduler.configured
  refine confined_tryCatch ?_ fun e => ?_
  · refine confined_bind (ProviderFactory.confined_referralProvider hb _ _) fun _ => ?_
    exact confined_bind (ProviderFactory.confined_telegram hb _) fun _ => confined_pure _
  · split
    · exact confined_pure _
    · exact confined_throw _

theorem confined_checkUser (uid : String) : Confined A T s (checkUser uid) := by
  unfold checkUser
  rw [map_eq_pure_bind]
  refine confined_tryCatch (confined_bind ?_ fun _ => confined_pure _) fun e => ?_
  · exact confined_perform fun _ hs' => hs'.bound hb
  · split
    · exact confined_pure _
    · exact confined_throw _

/-! ## Onboarding -/

theorem confined_issue (ttl : TimeDelta) (membership : VIPMembership) (channel : TelegramChannel)
    (now : Option DateTime) :
    Confined A T s (InviteService.issue ttl A membership channel now) := by
  refine confined_bind (confined_nowOr now) fun moment => ?_
  refine confined_bind (confined_raising _) fun live => ?_
  cases live with
  | some existing => exact confined_pure _
  | none =>
    refine confined_bind (confined_raising _) fun expireDate => ?_
    refine confined_bind (confined_telegram hb _ _) fun link => ?_
    exact confined_bind (confined_update hb fun r _ => ⟨rfl, rfl⟩) fun _ => confined_pure _

namespace ReferralOnboardingService

theorem confined_ensureUser (telegramUserId : Int) (username firstName : Option String) :
    Confined A T s (ensureUser A telegramUserId username firstName) := by
  refine confined_bind (confined_selectOneOrNone hb _) fun user => ?_
  cases user with
  | none =>
    refine confined_uuid4 fun id => ?_
    refine confined_saveNew (by exact hb) rfl fun k hk => ?_
    cases hk
    exact s.mem_given _
  | some user =>
    exact confined_bind (confined_update hb fun r hr => ⟨hr, rfl⟩) fun _ => confined_pure _

theorem confined_ensureSubscription (userId : RowId) (market : Market) :
    Confined A T s (ensureSubscription A userId market) := by
  refine confined_bind (confined_bind (confined_select hb _) fun _ => confined_pure _)
    fun existing => ?_
  cases existing with
  | some existing =>
    refine confined_bind (confined_nowOr _) fun startsAt => ?_
    exact confined_bind (confined_update hb fun r hr => ⟨hr, rfl⟩) fun _ => confined_pure _
  | none =>
    refine confined_bind confined_utcnow fun startsAt => ?_
    refine confined_uuid4 fun id => ?_
    refine confined_saveNew (by exact hb) rfl fun k hk => ?_
    cases hk
    exact s.mem_given _

theorem confined_ensureMembership (userId channelId subscriptionId : RowId) :
    Confined A T s (ensureMembership A userId channelId subscriptionId) := by
  refine confined_bind (confined_selectOneOrNone hb _) fun existing => ?_
  cases existing with
  | some existing =>
    refine confined_bind (confined_update hb fun r hr => ?_) fun _ => confined_pure _
    obtain ⟨hid, ht, -⟩ := reinstate_keys subscriptionId r
    exact ⟨ht.trans hr, congrArg (some <| Sum.inl ·) hid⟩
  | none =>
    refine confined_uuid4 fun id => ?_
    refine confined_bind confined_utcnow fun createdAt => ?_
    refine confined_saveNew (by exact hb) rfl fun k hk => ?_
    cases hk
    exact s.mem_given _

/-- The account, with assignments to other columns than its tenant and its id. -/
theorem confined_saveAccount (userId : RowId) (providerType : ProviderType) (market : Market)
    (uid : String) (claimed : Option ReferralAccount)
    {change : ReferralAccount → ReferralAccount}
    (hchange : ∀ r, (change r).tenantId = r.tenantId ∧ (change r).id = r.id) :
    Confined A T s (saveAccount A userId providerType market uid claimed change) := by
  cases claimed with
  | some account =>
    refine confined_bind (confined_update hb fun r hr => ?_) fun _ => confined_saveLoaded hb _
    obtain ⟨ht, hid⟩ := hchange r
    exact ⟨ht.trans hr, congrArg (some <| Sum.inl ·) hid⟩
  | none =>
    refine confined_uuid4 fun id => ?_
    obtain ⟨ht, hid⟩ := hchange { id, tenantId := A, userId, providerType, market, uid }
    refine confined_saveNew (by exact hb) ht fun k hk => ?_
    simp only [globalKey, hid, Option.some.injEq] at hk
    rw [← hk]
    exact s.mem_given _

theorem confined_grant (ttl : TimeDelta) (userId : RowId) (market : Market) (uid : String)
    (channel : TelegramChannel) (verdict : EligibilityVerdict) :
    Confined A T s (grant ttl A userId market uid channel verdict) := by
  refine confined_bind (confined_ensureSubscription hb _ _) fun subscription => ?_
  refine confined_bind (confined_ensureMembership hb _ _ _) fun membership => ?_
  refine confined_bind (confined_issue hb _ _ _ _) fun issued => ?_
  exact confined_bind (confined_saveLoaded hb _) fun _ => confined_pure _

theorem confined_settle (ttl : TimeDelta) (providerType : ProviderType) (market : Market)
    (uid : String) (channel : TelegramChannel) (userId : RowId)
    (claimed : Option ReferralAccount) (check : Option ReferralCheck)
    (verdict : EligibilityVerdict) :
    Confined A T s
      (settle ttl A providerType market uid channel userId claimed check verdict) := by
  have hsave : ∀ change : ReferralAccount → ReferralAccount,
      (∀ r, (change r).tenantId = r.tenantId ∧ (change r).id = r.id) →
      Confined A T s (do
        raising (balanceColumn check verdict)
        saveAccount A userId providerType market uid claimed change) := by
    intro change hchange
    exact confined_bind (confined_raising _) fun _ => confined_saveAccount hb _ _ _ _ _ hchange
  refine confined_bind confined_utcnow fun checkedAt => ?_
  split
  · refine confined_bind (hsave _ ?_) fun _ => confined_pure _
    exact fun _ => ⟨rfl, rfl⟩
  · split
    · refine confined_bind (hsave _ ?_) fun _ => confined_pure _
      exact fun _ => ⟨rfl, rfl⟩
    · refine confined_bind confined_utcnow fun verifiedAt => ?_
      refine confined_bind (hsave _ ?_) fun _ => ?_
      · exact fun _ => ⟨rfl, rfl⟩
      · exact confined_grant hb _ _ _ _ _ _

theorem confined_submitUid (ttl : TimeDelta) (providerType : ProviderType) (telegramUserId : Int)
    (market : Market) (rawUid : String) (username firstName : Option String) :
    Confined A T s
      (submitUid ttl providerType A telegramUserId market rawUid username firstName) := by
  unfold submitUid
  dsimp only
  split
  · exact confined_pure _
  refine confined_bind (confined_selectOneOrNone hb _) fun config => ?_
  refine confined_bind (confined_selectOneOrNone hb _) fun channel => ?_
  split
  · next config channel =>
    split
    · exact confined_pure _
    refine confined_bind (confined_ensureUser hb _ _ _) fun user => ?_
    refine confined_bind (confined_selectOneOrNone hb _) fun claimed => ?_
    split
    · exact confined_pure _
    refine confined_bind (confined_checkUser hb _) fun check => ?_
    refine confined_bind (confined_raising _) fun verdict => ?_
    exact confined_settle hb _ _ _ _ _ _ _ _ _
  · exact confined_pure _

end ReferralOnboardingService

/-! ## The conversation -/

theorem confined_listAll (t : Table) : Confined A T s (listAll t A) :=
  confined_bind (confined_select hb _) fun _ => confined_pure _

namespace BotConversation

theorem confined_availableMarkets (providerType : ProviderType) :
    Confined A T s (availableMarkets providerType A) := by
  refine confined_bind (confined_listAll hb _) fun configs => ?_
  exact confined_bind (confined_listAll hb _) fun channels => confined_pure _

theorem confined_ensureUser (incoming : IncomingUpdate) :
    Confined A T s (ensureUser A incoming) := by
  refine confined_bind (confined_selectOneOrNone hb _) fun user => ?_
  cases user with
  | none =>
    refine confined_uuid4 fun id => ?_
    refine confined_saveNew (by exact hb) rfl fun k hk => ?_
    cases hk
    exact s.mem_given _
  | some user => exact confined_pure _

theorem confined_offerReferralLink (providerType : ProviderType) (incoming : IncomingUpdate)
    (market : Market) : Confined A T s (offerReferralLink providerType A incoming market) := by
  refine confined_bind (confined_selectOneOrNone hb _) fun config => ?_
  cases config with
  | none => exact confined_pure _
  | some config =>
    dsimp only
    split
    · exact confined_pure _
    refine confined_bind (confined_ensureUser hb _) fun user => ?_
    exact confined_bind (confined_update hb fun r hr => ⟨hr, rfl⟩) fun _ => confined_pure _

theorem confined_start (providerType : ProviderType) (incoming : IncomingUpdate) :
    Confined A T s (start providerType A incoming) := by
  refine confined_bind (confined_availableMarkets hb _) fun markets => ?_
  split
  · exact confined_pure _
  · exact confined_offerReferralLink hb _ _ _
  · exact confined_pure _

theorem confined_submit (ttl : TimeDelta) (providerType : ProviderType)
    (incoming : IncomingUpdate) (market : Market) (uid : String) :
    Confined A T s (submit ttl providerType A incoming market uid) := by
  refine confined_bind (confined_selectOneOrNone hb _) fun config => ?_
  refine confined_bind (ReferralOnboardingService.confined_submitUid hb _ _ _ _ _ _ _)
    fun result => ?_
  exact confined_bind (confined_raising _) fun _ => confined_pure _

theorem confined_handleUid (ttl : TimeDelta) (providerType : ProviderType)
    (incoming : IncomingUpdate) (rawText : String) :
    Confined A T s (handleUid ttl providerType A incoming rawText) := by
  unfold handleUid
  dsimp only
  split
  · exact confined_pure _
  refine confined_bind (confined_selectOneOrNone hb _) fun user => ?_
  split
  · exact confined_submit hb _ _ _ _ _
  · refine confined_bind (confined_availableMarkets hb _) fun markets => ?_
    split
    · exact confined_submit hb _ _ _ _ _
    · exact confined_start hb _ _

theorem confined_handle (ttl : TimeDelta) (providerType : ProviderType)
    (incoming : IncomingUpdate) : Confined A T s (handle ttl providerType A incoming) := by
  unfold handle
  split
  · split
    · exact confined_pure _
    · exact confined_offerReferralLink hb _ _ _
  · dsimp only
    split
    · exact confined_start hb _ _
    · split
      · exact confined_handleUid hb _ _ _ _
      · exact confined_pure _

end BotConversation

/-! ## The webhook -/

namespace TelegramWebhook

theorem confined_deliver (chatId : Int) (text : String) :
    Confined A T s (deliver chatId text) := by
  refine confined_tryCatch (confined_telegram hb _ _) fun e => ?_
  split
  · exact confined_pure _
  · exact confined_throw _

theorem confined_respond (chatId : Int) (replies : Option (List Reply)) :
    Confined A T s (respond chatId replies) := by
  cases replies with
  | none => exact confined_deliver hb _ _
  | some replies =>
    change Confined A T s (deliverAll chatId replies)
    induction replies with
    | nil => exact confined_pure _
    | cons reply rest ih => exact confined_bind (confined_deliver hb _ _) fun _ => ih

end TelegramWebhook

end Providers

namespace TelegramWebhook

theorem confined_process (env : EncryptionKey) (ttl : TimeDelta) (incoming : IncomingUpdate) :
    Confined A T s (process env ttl A incoming) := by
  refine confined_withSession ?_
  have hb : s.opened.bound = true := rfl
  rw [configured_eq]
  refine confined_bind (confined_configured hb _ _) fun configured => ?_
  split
  · refine confined_bind (confined_committed hb (BotConversation.confined_handle hb _ _ _))
      fun result => ?_
    exact confined_respond hb _ _
  · exact confined_pure _

/-- A token of the tenant leads nowhere else. -/
theorem confined_receiveUpdate (env : EncryptionKey) (ttl : TimeDelta) {token : String}
    (htoken : T token) (incoming : Option IncomingUpdate) :
    Confined A T s (receiveUpdate env ttl token incoming) := by
  have hroute : ∀ s', s.Within s' → wp (confinement A T) (route token)
      (fun r t => s'.Within t ∧ ∀ x, r = .ok (some x) → x = A) s' := by
    intro s' hs'
    unfold route
    rw [wp_bind, wp_perform]
    refine ⟨htoken, fun r u hr => ?_⟩
    have hu : u = s' := hr.2
    rw [hu]
    cases r with
    | error e => exact ⟨.refl s', fun x hx => by cases hx⟩
    | ok tenantIds =>
      rw [bindPost_ok, wp_raising]
      refine ⟨.refl s', fun x hx => ?_⟩
      have hmem : x ∈ tenantIds := by
        unfold scalarOneOrNone at hx
        split at hx <;> cases hx
        exact List.mem_singleton_self x
      exact hr.1 x hmem
  refine confined_bind_grows fun s' hs' => wp_mono ?_ (hroute s' hs')
  refine fun r u hr => ⟨hr.1, fun found hfound => ?_⟩
  cases found with
  | none => exact confined_pure _
  | some tenantId =>
    have htenant : tenantId = A := hr.2 tenantId hfound
    rw [htenant]
    cases incoming with
    | none => exact confined_pure _
    | some incoming =>
      dsimp only
      split
      · exact confined_pure _
      · exact confined_process _ _ _

end TelegramWebhook

/-! ## Admin requests and payments -/

theorem confined_requestTx {α : Type} {body : App α} (h : Confined A T s.opened body) :
    Confined A T s (requestTx A body) := by
  have hb : s.opened.bound = true := rfl
  refine confined_withSession (confined_tryCatch (confined_bind h fun a => ?_) fun e => ?_)
  · refine confined_bind ?_ fun _ => confined_pure _
    exact confined_perform fun _ hs' => hs'.bound hb
  · refine confined_bind ?_ fun _ => confined_throw e
    exact confined_perform fun _ hs' => hs'.bound hb

section Admin

variable (hb : s.bound = true)
include hb

namespace Admin

theorem confined_storeSecret (env : EncryptionKey) (providerType : ProviderType)
    (name secret : String) : Confined A T s (storeSecret env A providerType name secret) := by
  refine confined_bind (confined_raising _) fun _ => ?_
  refine confined_bind (confined_selectOneOrNone hb _) fun existing => ?_
  have hencrypt : Confined A T s (encryptSecret env secret) := by
    unfold encryptSecret
    split
    · exact confined_throw _
    · exact confined_bind (confined_raising _) fun _ => confined_perform fun _ _ => trivial
  refine confined_bind (confined_tryCatch hencrypt fun e => ?_) fun ciphertext => ?_
  · split
    · exact confined_throw _
    · exact confined_throw _
  refine confined_bind (confined_raising _) fun _ => ?_
  cases existing with
  | some existing =>
    exact confined_bind (confined_update hb fun r hr => ⟨hr, rfl⟩) fun _ => confined_pure _
  | none =>
    refine confined_uuid4 fun id => ?_
    refine confined_saveNew (by exact hb) rfl fun k hk => ?_
    cases hk
    exact s.mem_given _

theorem confined_upsertCredential (env : EncryptionKey) (payload : CredentialUpsertRequest) :
    Confined A T s (upsertCredential env A payload) := by
  refine confined_bind (confined_storeSecret hb _ _ _ _) fun record => ?_
  exact confined_bind (confined_flush hb) fun _ => confined_pure _

theorem confined_listCredentials : Confined A T s (listCredentials A) :=
  confined_bind (confined_listAll hb _) fun _ => confined_pure _

theorem confined_upsertReferralConfig (payload : ReferralConfigRequest) :
    Confined A T s (upsertReferralConfig A payload) := by
  refine confined_bind (confined_selectOneOrNone hb _) fun config => ?_
  have hrest : Confined A T s (do
      let stored ← raising (programColumns payload)
      update .referralProgramConfigs (isProgram A payload) (configureProgram stored)
      saveLoaded .referralProgramConfigs (isProgram A payload)) := by
    refine confined_bind (confined_raising _) fun stored => ?_
    exact confined_bind (confined_update hb fun r hr => ⟨hr, rfl⟩) fun _ => confined_saveLoaded hb _
  cases config with
  | some config => exact hrest
  | none =>
    refine confined_bind (confined_raising _) fun referralLink => ?_
    refine confined_bind (confined_saveNew hb rfl fun k hk => ?_) fun _ => hrest
    cases hk

theorem confined_upsertChannel (payload : ChannelRequest) :
    Confined A T s (upsertChannel A payload) := by
  refine confined_bind (confined_selectOneOrNone hb _) fun channel => ?_
  have hrest : ∀ channel : TelegramChannel, ∀ {u : Stage}, u.bound = true → Confined A T u (do
      let stored ← raising (channelColumns payload)
      update .telegramChannels (fun r => r.id == channel.id) (configure stored)
      saveLoaded .telegramChannels fun r => r.id == channel.id) := fun channel u hu =>
    confined_bind (confined_raising _) fun _ =>
      confined_bind (confined_update hu fun r hr => ⟨hr, rfl⟩) fun _ => confined_saveLoaded hu _
  cases channel with
  | some channel => exact hrest channel hb
  | none =>
    refine confined_uuid4 fun id => ?_
    refine confined_bind (confined_raising _) fun chatId => ?_
    refine confined_bind (confined_saveNew (by exact hb) rfl fun k hk => ?_) fun channel => ?_
    · cases hk
      exact s.mem_given _
    · exact hrest channel hb

theorem confined_ensureWebhookRoute : Confined A T s (ensureWebhookRoute A) := by
  refine confined_bind (confined_selectOneOrNone hb _) fun existing => ?_
  cases existing with
  | some existing => exact confined_pure _
  | none =>
    refine confined_tokenUrlsafe fun token => ?_
    refine confined_bind (confined_add (by exact hb) rfl fun k hk => ?_) fun _ => ?_
    · cases hk
      exact s.mem_given _
    · exact confined_bind (confined_flush (by exact hb)) fun _ => confined_pure _

theorem confined_getMe (botToken : String) :
    Confined A T s (TelegramBotProvider.getMe botToken) :=
  confined_bind (confined_telegram hb _ _) fun _ => confined_raising _

theorem confined_verifyBot (env : EncryptionKey) : Confined A T s (verifyBot env A) := by
  refine confined_tryCatch ?_ fun e => ?_
  · refine confined_bind (ProviderFactory.confined_telegram hb _) fun _ => ?_
    refine confined_bind (confined_getMe hb _) fun identity => ?_
    exact confined_bind confined_utcnow fun _ => confined_pure _
  · split
    · exact confined_pure _
    · exact confined_throw _

theorem confined_recordBot (credential : ProviderCredential) (token : String)
    (verified : Option (Json × DateTime)) :
    Confined A T s (recordBot A credential token verified) := by
  refine confined_bind (confined_raising _) fun botUsername => ?_
  refine confined_bind (confined_update hb fun r hr => ⟨hr, rfl⟩) fun _ => ?_
  have hrest : Confined A T s (do
      flush
      return ({
        botUsername
        tokenLastFour := credential.lastFour
        verifiedAt := verified.map (·.2)
        webhookPath := some ("/api/v1/telegram/" ++ token) } : BotConfigResponse)) :=
    confined_bind (confined_flush hb) fun _ => confined_pure _
  split
  · exact confined_bind (confined_update hb fun r hr => ⟨hr, rfl⟩) fun _ => hrest
  · exact hrest

theorem confined_upsertBot (env : EncryptionKey) (payload : BotConfigRequest) :
    Confined A T s (upsertBot env A payload) := by
  refine confined_bind (confined_storeSecret hb _ _ _ _) fun credential => ?_
  refine confined_bind (confined_flush hb) fun _ => ?_
  refine confined_bind (confined_selectOneOrNone hb _) fun config => ?_
  have hrest : Confined A T s (do
      update .telegramBotConfigs (isBotOf A) fun r => { r with credentialId := credential.id }
      let token ← ensureWebhookRoute A
      let verified ← verifyBot env A
      recordBot A credential token verified) := by
    refine confined_bind (confined_update hb fun r hr => ⟨hr, rfl⟩) fun _ => ?_
    refine confined_bind (confined_ensureWebhookRoute hb) fun token => ?_
    refine confined_bind (confined_verifyBot hb _) fun verified => ?_
    exact confined_recordBot hb _ _ _
  cases config with
  | some config => exact hrest
  | none =>
    refine confined_bind (confined_saveNew hb rfl fun k hk => ?_) fun _ => hrest
    cases hk

theorem confined_checkIntegration (env : EncryptionKey) :
    Confined A T s (checkIntegration env A) := by
  have hbot : Confined A T s (checkBot env A) := by
    refine confined_tryCatch ?_ fun e => ?_
    · refine confined_bind (ProviderFactory.confined_telegram hb _) fun _ => ?_
      exact confined_bind (confined_getMe hb _) fun identity => confined_pure _
    · split
      · exact confined_pure _
      · split
        · exact confined_pure _
        · exact confined_throw _
  have hreferral : Confined A T s (checkReferral env A) := by
    refine confined_tryCatch ?_ fun e => ?_
    · refine confined_bind (ProviderFactory.confined_referralProvider hb _ _) fun _ => ?_
      exact confined_pure _
    · split
      · exact confined_pure _
      · exact confined_throw _
  refine confined_bind hbot fun bot => ?_
  refine confined_bind hreferral fun referral => ?_
  refine confined_bind (confined_listAll hb _) fun channels => ?_
  exact confined_bind (confined_listAll hb _) fun configs => confined_pure _

end Admin

end Admin

theorem confined_ingestPaymentWebhook (payload : PaymentIngestRequest) :
    Confined A T s (ingestPaymentWebhook A payload) := by
  unfold ingestPaymentWebhook
  split
  · refine confined_requestTx (confined_uuid4 fun id => ?_)
    refine confined_bind (confined_raising _) fun amount => ?_
    refine confined_bind (confined_saveNew rfl rfl fun k hk => ?_) fun _ => confined_pure _
    cases hk
    exact s.opened.mem_given _
  · exact confined_throw _

/-! ## The monitor -/

section Monitor

variable (hb : s.bound = true)
include hb

theorem confined_finish (jobName : String) (periodStart : DateTime) (error : Option String) :
    Confined A T s (finish jobName periodStart error) :=
  confined_bind confined_utcnow fun _ => confined_update hb fun _ hr => ⟨hr, rfl⟩

theorem confined_claimPeriod (jobName : String) (periodStart : DateTime) :
    Confined A T s (claimPeriod A jobName periodStart) := by
  refine confined_bind confined_utcnow fun startedAt => ?_
  refine confined_tryCatch (confined_bind ?_ fun _ => confined_pure _) fun e => ?_
  · refine confined_beginNested hb (confined_bind ?_ fun _ => confined_flush hb)
    refine confined_add hb rfl fun k hk => ?_
    cases hk
  · split
    · exact confined_pure _
    · exact confined_throw _

namespace MembershipMonitor

theorem confined_tell (chatId : Option Int) (text : String) (about : Concern) :
    Confined A T s (tell chatId text about) := by
  unfold tell
  split
  · split
    · exact confined_telegram hb _ _
    · exact confined_pure _
  · exact confined_pure _

theorem confined_removeFromChannel (market : Market) (chatId : Option Int) (about : Concern) :
    Confined A T s (removeFromChannel A market chatId about) := by
  refine confined_bind (confined_selectOneOrNone hb _) fun channel => ?_
  cases channel with
  | none => exact confined_pure _
  | some channel =>
    exact confined_bind (confined_telegram hb _ _) fun _ => confined_telegram hb _ _

theorem confined_expireSubscription (userId : RowId) (market : Market) (moment : DateTime) :
    Confined A T s (expireSubscription A userId market moment) := by
  refine confined_bind (confined_bind (confined_select hb _) fun _ => confined_pure _)
    fun subscription => ?_
  cases subscription with
  | none => exact confined_pure _
  | some subscription => exact confined_update hb fun r hr => ⟨hr, rfl⟩

theorem confined_apply (membership : VIPMembership) (market : Market)
    (decision : ComplianceDecision) (moment periodStart : DateTime) (report : MonitorReport)
    (policy : CompliancePolicy) :
    Confined A T s
      (MembershipMonitor.apply A membership market decision moment periodStart report
        policy) := by
  have hwrite : Confined A T s (write membership decision moment) := by
    refine confined_update hb fun r hr => ?_
    obtain ⟨hid, ht⟩ := applied_id decision moment r
    exact ⟨ht.trans hr, congrArg (some <| Sum.inl ·) hid⟩
  unfold MembershipMonitor.apply
  split
  · exact confined_pure _
  refine confined_bind (confined_selectOneOrNone hb _) fun user => ?_
  dsimp only
  split
  · exact confined_pure _
  · refine confined_bind hwrite fun _ => ?_
    exact confined_bind (confined_tell hb _ _ _) fun _ => confined_pure _
  · refine confined_bind hwrite fun _ => ?_
    exact confined_bind (confined_tell hb _ _ _) fun _ => confined_pure _
  · refine confined_bind (confined_removeFromChannel hb _ _ _) fun _ => ?_
    refine confined_bind hwrite fun _ => ?_
    refine confined_bind (confined_expireSubscription hb _ _ _) fun _ => ?_
    exact confined_bind (confined_tell hb _ _ _) fun _ => confined_pure _

theorem confined_recordAnswer (account : ReferralAccount) (period : TimeDelta)
    (periodStart moment : DateTime) (check : Option ReferralCheck)
    (verdict : EligibilityVerdict) :
    Confined A T s (recordAnswer A account period periodStart moment check verdict) := by
  refine confined_bind (confined_update hb fun r hr => ⟨hr, rfl⟩) fun _ => ?_
  cases check with
  | none => exact confined_pure _
  | some check =>
    refine confined_bind (confined_raising _) fun periodEnd => ?_
    refine confined_bind (confined_raising _) fun _ => confined_add hb rfl fun k hk => ?_
    cases hk

theorem confined_process (period : TimeDelta) (policy : CompliancePolicy)
    (periodStart moment : DateTime) (report : MonitorReport) (membership : VIPMembership) :
    Confined A T s (process period policy A periodStart moment report membership) := by
  refine confined_bind (confined_select hb _) fun accounts => ?_
  cases accounts with
  | nil => exact confined_pure _
  | cons account rest =>
    refine confined_bind (confined_selectOneOrNone hb _) fun config => ?_
    cases config with
    | none => exact confined_pure _
    | some config =>
      refine confined_bind (confined_checkUser hb _) fun check => ?_
      refine confined_bind (confined_raising _) fun verdict => ?_
      refine confined_bind (confined_recordAnswer hb _ _ _ _ _ _) fun _ => ?_
      refine confined_bind (confined_raising _) fun decision => ?_
      exact confined_apply hb _ _ _ _ _ _ _

theorem confined_run (period : TimeDelta) (policy : CompliancePolicy) (now : Option DateTime) :
    Confined A T s (run period policy A now) := by
  refine confined_bind (confined_nowOr now) fun moment => ?_
  refine confined_bind (confined_raising _) fun periodStart => ?_
  refine confined_bind (confined_claimPeriod hb _ _) fun claimed => ?_
  split
  · refine confined_bind (confined_tryCatch ?_ fun e => ?_) fun report => ?_
    · refine confined_bind (confined_select hb _) fun memberships => ?_
      exact confined_foldlM (fun report membership => confined_process hb _ _ _ _ _ _) _ _
    · exact confined_bind (confined_finish hb _ _ _) fun _ => confined_throw e
    · refine confined_bind (confined_update hb fun r hr => ⟨hr, rfl⟩) fun _ => ?_
      exact confined_bind (confined_finish hb _ _ _) fun _ => confined_pure _
  · exact confined_pure _

end MembershipMonitor

end Monitor

theorem confined_passTx (period : TimeDelta) (policy : CompliancePolicy)
    (now : Option DateTime) : Confined A T s (passTx period policy A now) :=
  confined_withSession (confined_committed rfl (MembershipMonitor.confined_run rfl _ _ _))

theorem confined_sweepTenant (env : EncryptionKey) (providerType : ProviderType)
    (period : TimeDelta) : Confined A T s (Scheduler.sweepTenant env providerType period A) := by
  refine confined_withSession (confined_bind (confined_configured rfl _ _) fun configured => ?_)
  split
  · refine confined_bind (confined_committed rfl (MembershipMonitor.confined_run rfl _ _ _))
      fun _ => confined_pure _
  · exact confined_pure _

end Services

end VipChannel

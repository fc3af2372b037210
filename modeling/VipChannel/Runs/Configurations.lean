/-
  VipChannel.Runs.Configurations

  A tenant's configuration is what its answered requests say.

  Take any history of operations of any tenants: updates, passes, sweeps, payments, and
  requests that configure, each of which may fail at any call.  Every tenant's configuration
  is the one it began with, amended by that tenant's own requests that were answered, in
  their order (`Transcript.configuration`).  What the services read of credentials, programs
  and channels is a lookup in it (`Consults`).
-/
import VipChannel.Runs.Periods
import VipChannel.Runs.Coherence
import VipChannel.Web.ConfigurationRules

namespace VipChannel

open Lib Admin
open Program (perform raising)

/-! ## A request as a whole -/

section Requests

variable {α : Type} {G : World → Op → Choice → Prop} {w w' : World} {A : TenantId}

/-- A request that raises commits nothing. -/
theorem runs_requestTx_error {body : App α} {e : PyError}
    (hbody : wp (serial G) body (fun _ w₁ => w₁.db = w.db) (w.opened A))
    (h : Runs (serial G) (requestTx A body) w (.error e) w') : w'.db = w.db := by
  obtain ⟨w₂, htx, rfl⟩ := runs_withSession h
  obtain ⟨x, w₃, htried, hcaught⟩ := runs_tryCatch htx
  cases x with
  | ok a => cases hcaught.1
  | error e₀ =>
    -- The body raised, or its commit did.
    have hdb : w₃.db = w.db := by
      obtain ⟨y, w₁, hruns, hrest⟩ := runs_bind htried
      have hdb₁ : w₁.db = w.db := wp_sound hbody hruns
      cases y with
      | error e₁ => exact hrest.2 ▸ hdb₁
      | ok a =>
        obtain ⟨z, w₄, hcommit, hend⟩ := runs_bind hrest
        obtain ⟨c, -, hstep⟩ := runs_perform hcommit
        simp only [World.step] at hstep
        cases hf : w₁.flushed c with
        | error e₁ =>
          rw [hf] at hstep
          cases hstep
          exact hend.2 ▸ hdb₁
        | ok u =>
          rw [hf] at hstep
          cases hstep
          cases hend.1
    -- What is left to do is roll back, and to raise again.
    obtain ⟨y, w₄, hrollback, hraised⟩ := runs_bind hcaught
    obtain ⟨c, -, hstep⟩ := runs_perform hrollback
    have hdb₄ : w₄.db = w₃.db := by
      cases hstep
      rfl
    cases y with
    | ok u => exact hraised.2 ▸ hdb₄.trans hdb
    | error e₁ => exact hraised.2 ▸ hdb₄.trans hdb

/-- What a request commits is what its body returned with, or nothing. -/
theorem wp_requestTx_split {body : App α} {Q : α → World → Prop}
    (hQ : ∀ a w₁, Q a w₁ → w₁.db = w.db)
    (h : Meets G body Q (fun _ l => l.db = w.db) (w.opened A)) :
    wp (serial G) (requestTx A body)
      (either (fun a w' => ∃ w₁, Q a w₁ ∧ w'.db = w₁.view) fun _ w' => w'.db = w.db) w := by
  refine wp_of_runs (fun _ _ => trivial) fun r w' hruns => ?_
  cases r with
  | ok a =>
    obtain ⟨w₁, hbody, -, hdb⟩ := runs_requestTx_ok hruns
    exact ⟨w₁, wp_sound h hbody, hdb⟩
  | error e =>
    refine runs_requestTx_error (wp_mono ?_ h) hruns
    rintro (e | a) w₁ hr
    · exact hr
    · exact hQ a w₁ hr

end Requests

/-! ## From rows to configurations -/

/-- The tables that hold configurations. -/
def CONFIGURATION : List Table :=
  [.providerCredentials, .referralProgramConfigs, .telegramChannels, .telegramBotConfigs,
    .webhookRoutes]

section Rows

variable {key : EncryptionKey} {d d' : Database} {A : TenantId}

theorem configurationOf_congr (h : ∀ t ∈ CONFIGURATION, d' t = d t) :
    configurationOf key d' = configurationOf key d := by
  have hcredentials := h .providerCredentials (by decide)
  have hprograms := h .referralProgramConfigs (by decide)
  have hchannels := h .telegramChannels (by decide)
  have hbots := h .telegramBotConfigs (by decide)
  have hroutes := h .webhookRoutes (by decide)
  funext B
  simp only [configurationOf, hcredentials, hprograms, hchannels, hbots, hroutes]

/-- One of the tables is written at a key of one tenant. -/
theorem configurationOf_secret {record : ProviderCredential} {name : ProviderType × String}
    (hd : Distinct d) (hd' : Distinct d')
    (h : Wrote .providerCredentials secretKey record d d') (hkey : secretKey record = (A, name)) :
    configurationOf key d' = Function.update (configurationOf key d) A
      ((configurationOf key d A).putSecret name (keptSecret key record)) := by
  have ha := hd.apart (t := .providerCredentials) clash_of_secretKey
  have ha' := hd'.apart (t := .providerCredentials) clash_of_secretKey
  have hprograms := h.others .referralProgramConfigs (by decide)
  have hchannels := h.others .telegramChannels (by decide)
  have hbots := h.others .telegramBotConfigs (by decide)
  have hroutes := h.others .webhookRoutes (by decide)
  refine Function.eq_update_iff.mpr ⟨?_, fun B hB => ?_⟩
  · simp only [configurationOf, Configuration.putSecret, hprograms, hchannels, hbots, hroutes,
      h.put.valueAt_part ha ha' hkey]
  · simp only [configurationOf, hprograms, hchannels, hbots, hroutes,
      h.put.valueAt_other ha ha' hkey hB]

theorem configurationOf_program {row : ReferralProgramConfig} {place : ProviderType × Market}
    (hd : Distinct d) (hd' : Distinct d')
    (h : Wrote .referralProgramConfigs programKey row d d') (hkey : programKey row = (A, place)) :
    configurationOf key d' = Function.update (configurationOf key d) A
      ((configurationOf key d A).putProgram place (programTerms row)) := by
  have ha := hd.apart (t := .referralProgramConfigs) clash_of_programKey
  have ha' := hd'.apart (t := .referralProgramConfigs) clash_of_programKey
  have hcredentials := h.others .providerCredentials (by decide)
  have hchannels := h.others .telegramChannels (by decide)
  have hbots := h.others .telegramBotConfigs (by decide)
  have hroutes := h.others .webhookRoutes (by decide)
  refine Function.eq_update_iff.mpr ⟨?_, fun B hB => ?_⟩
  · simp only [configurationOf, Configuration.putProgram, hcredentials, hchannels, hbots, hroutes,
      h.put.valueAt_part ha ha' hkey]
  · simp only [configurationOf, hcredentials, hchannels, hbots, hroutes,
      h.put.valueAt_other ha ha' hkey hB]

theorem configurationOf_channel {row : TelegramChannel} {market : Market}
    (hd : Distinct d) (hd' : Distinct d')
    (h : Wrote .telegramChannels channelPlace row d d') (hkey : channelPlace row = (A, market)) :
    configurationOf key d' = Function.update (configurationOf key d) A
      ((configurationOf key d A).putChannel market (channelTerms row)) := by
  have ha := hd.apart (t := .telegramChannels) clash_of_channelPlace
  have ha' := hd'.apart (t := .telegramChannels) clash_of_channelPlace
  have hcredentials := h.others .providerCredentials (by decide)
  have hprograms := h.others .referralProgramConfigs (by decide)
  have hbots := h.others .telegramBotConfigs (by decide)
  have hroutes := h.others .webhookRoutes (by decide)
  refine Function.eq_update_iff.mpr ⟨?_, fun B hB => ?_⟩
  · simp only [configurationOf, Configuration.putChannel, hcredentials, hprograms, hbots, hroutes,
      h.put.valueAt_part ha ha' hkey]
  · simp only [configurationOf, hcredentials, hprograms, hbots, hroutes,
      h.put.valueAt_other ha ha' hkey hB]

/-! ### The webhook's path -/

theorem Admin.RouteKept.apart {path : Option String} {rows rows' : List WebhookRoute}
    (h : RouteKept A path rows rows') (ha : Apart routeKey rows) : Apart routeKey rows' := by
  obtain ⟨route, -, -, ⟨rfl, -⟩ | ⟨rfl, hfresh⟩⟩ := h
  · exact ha
  · refine List.pairwise_append.mpr ⟨ha, List.pairwise_singleton _ _, fun r hr s hs => ?_⟩
    rw [List.mem_singleton.mp hs]
    exact hfresh r hr

/-- A path that was given out stays, and the first one is given out. -/
theorem Admin.RouteKept.valueAt {path : Option String} {rows rows' : List WebhookRoute}
    (h : RouteKept A path rows rows') (ha : Apart routeKey rows) :
    Lib.valueAt routeKey pathOf rows' (A, "TELEGRAM") =
      (Lib.valueAt routeKey pathOf rows (A, "TELEGRAM")).or path := by
  have ha' := h.apart ha
  obtain ⟨route, hkey, hpath, ⟨rfl, hmem⟩ | ⟨rfl, hfresh⟩⟩ := h
  · rw [ha.valueAt_eq_some hmem hkey, Option.some_or]
  · have hthere : route ∈ rows ++ [route] := List.mem_append_right _ (List.mem_singleton_self _)
    rw [ha'.valueAt_eq_some hthere hkey, valueAt_eq_none fun r hr => hkey ▸ hfresh r hr,
      Option.none_or, hpath]

theorem Admin.RouteKept.valueAt_other {path : Option String} {rows rows' : List WebhookRoute}
    {B : TenantId} (h : RouteKept A path rows rows') (ha : Apart routeKey rows) (hB : B ≠ A) :
    Lib.valueAt routeKey pathOf rows' (B, "TELEGRAM") =
      Lib.valueAt routeKey pathOf rows (B, "TELEGRAM") := by
  have ha' := h.apart ha
  obtain ⟨route, hkey, -, ⟨rfl, -⟩ | ⟨rfl, -⟩⟩ := h
  · rfl
  · exact (PutIn.append routeKey rows route).valueAt_other ha ha' hkey hB _

/-- The bot, its token and its path. -/
theorem configurationOf_bot {botToken : String} {verifiedAt : Option DateTime} {terms : BotTerms}
    {path : Option String} {record : ProviderCredential} {w w' : World}
    (hd : Distinct w.view) (hd' : Distinct w'.view) (ha : Apart routeKey (w.view .webhookRoutes))
    (h : BotWritten key botToken verifiedAt terms path record w w') :
    configurationOf key w'.view = Function.update (configurationOf key w.view) w.tenantId
      { (configurationOf key w.view w.tenantId).putSecret (.telegram, TELEGRAM_BOT_TOKEN)
          ⟨.ok botToken, some (lastFour botToken), verifiedAt⟩ with
        bot := some terms
        webhookPath := (configurationOf key w.view w.tenantId).webhookPath.or path } := by
  obtain ⟨config, hconfig, hbot, hterms⟩ := h.bot
  have hs := hd.apart (t := .providerCredentials) clash_of_secretKey
  have hs' := hd'.apart (t := .providerCredentials) clash_of_secretKey
  have hb : Lib.valueAt botKey botTerms (w'.view .telegramBotConfigs) = _ :=
    hconfig.valueAt (hd.apart (t := .telegramBotConfigs) clash_of_botKey)
      (hd'.apart (t := .telegramBotConfigs) clash_of_botKey)
  have hprograms := h.others .referralProgramConfigs (by decide)
  have hchannels := h.others .telegramChannels (by decide)
  refine Function.eq_update_iff.mpr ⟨?_, fun B hB => ?_⟩
  · simp only [configurationOf, Configuration.putSecret, hprograms, hchannels,
      h.secret.valueAt_part hs hs' h.named, h.kept, hb, hbot, hterms, Function.update_self,
      h.route.valueAt ha]
  · simp only [configurationOf, hprograms, hchannels,
      h.secret.valueAt_other hs hs' h.named hB, hb, hbot, Function.update_of_ne hB,
      h.route.valueAt_other ha hB]

end Rows

/-! ## One operation -/

/-- What became of an operation, for its tenant's configuration. -/
def Configuration.after (c : Configuration) (op : Operation) :
    Except PyError Response → Configuration
  | .ok response => c.accept op response
  | .error _ => c

/-- The operation may be answered with a change of the configuration. -/
def Operation.reconfigures : Operation → Bool
  | .upsertCredential _ | .upsertReferralConfig _ | .upsertChannel _ | .upsertBot _ => true
  | .update .. | .listCredentials | .listChannels | .checkIntegration | .ingestPayment _
  | .monitor _ | .sweep => false

section Operations

variable {G : World → Op → Choice → Prop} {key : EncryptionKey} {S : Settings} {A : TenantId}
  {op : Operation} {w w' : World}

theorem Configuration.after_of_not (c : Configuration) (h : op.reconfigures = false)
    (r : Except PyError Response) : c.after op r = c := by
  cases r with
  | error e => rfl
  | ok response =>
    cases op with
    | upsertCredential | upsertReferralConfig | upsertChannel | upsertBot => cases h
    | update | listCredentials | listChannels | checkIntegration | ingestPayment | monitor
    | sweep => rfl

/-- A pass writes nothing on configurations. -/
theorem PassEffect.configuration {now : Option DateTime} {t : Table}
    (h : PassEffect G S A now w w') (ht : t ∈ CONFIGURATION) : w'.db t = w.db t := by
  cases h with
  | quiet hdb _ | lost _ _ _ hdb _ => rw [hdb]
  | committed _ hpassed hdb _ _ =>
    have hjobs : ∀ t ∈ CONFIGURATION, t ≠ .jobExecutions := by decide
    have hother : ∀ t ∈ CONFIGURATION, t ∉ [Table.referralAccounts, .tradingActivitySnapshots,
      .vipMemberships, .subscriptions, .jobExecutions] := by decide
    rw [hdb t (hjobs t ht), hpassed.other t (hother t ht)]
    rfl

/-- Nor does an update, whoever's it is. -/
theorem UpdateRun.configuration {token : String} {update : Option IncomingUpdate}
    {ttl : TimeDelta} {t : Table} (hw : w.Sound) (h : UpdateRun G ttl token update w w')
    (ht : t ∈ CONFIGURATION) : w'.db t = w.db t := by
  cases h with
  | unhandled hdb _ => rw [hdb]
  | raised _ _ hundone => rw [hundone.db]
  | uncommitted _ _ _ hundone => rw [hundone.db]
  | @committed tenantId incoming replies w₁ w₂ _ hhandle hcommit hconfirmed =>
    have hmeets : Meets G
        (BotConversation.handle ttl .bitunix (w.opened tenantId).tenantId incoming)
        (HandleResult G ttl .bitunix incoming (w.opened tenantId)) _ (w.opened tenantId) :=
      BotConversation.meets_handle (hw.opened tenantId) rfl
    have hpreliminary : ∀ t ∈ CONFIGURATION, t ∉ PRELIMINARY := by decide
    have hgranted : ∀ t ∈ CONFIGURATION, t ∉ [Table.telegramUsers, .referralAccounts,
      .subscriptions, .vipMemberships] := by decide
    -- A conversation writes on users, accounts, subscriptions and memberships at most.
    have hview : w₁.view t = w.db t := by
      cases wp_sound hmeets hhandle with
      | quiet _ hsame => exact hsame.view t (hpreliminary t ht)
      | submitted hsubmitted _ _ =>
        cases hsubmitted with
        | quiet _ hsame => exact hsame.view t (hpreliminary t ht)
        | granted hg _ _ => exact hg.other t (hgranted t ht)
    rw [hconfirmed.db, commit_view hcommit, hview]

/-- Nor does a request that only looks. -/
theorem looking_configuration {α : Type} {body : App α} {r : Except PyError α}
    (hbody : body.UsesOnly Op.looks) (h : Runs (serial G) (requestTx A body) w r w') :
    w'.db = w.db := by
  have hsame : wp (serial G) body (fun _ w₁ => Unwritten (w.opened A) w₁) (w.opened A) :=
    unwritten_of_looks hbody
  cases r with
  | ok a =>
    obtain ⟨w₁, hruns, -, hdb⟩ := runs_requestTx_ok h
    exact hdb.trans (wp_sound hsame hruns).view
  | error e =>
    refine runs_requestTx_error (wp_mono (fun _ _ hun => ?_) hsame) h
    exact hun.db

/-- Nor does a payment. -/
theorem payment_configuration {payload : PaymentIngestRequest}
    {r : Except PyError PaymentIngestResponse} {t : Table}
    (h : Runs (serial G) (ingestPaymentWebhook A payload) w r w') (ht : t ∈ CONFIGURATION) :
    w'.db t = w.db t := by
  have hout : ∀ t ∈ CONFIGURATION, t ∉ [Table.paymentRecords] := by decide
  unfold ingestPaymentWebhook at h
  split at h
  · have hbody : (PaymentProcessingService.processPayment A payload).UsesOnly
        (Op.within [.paymentRecords]) := by
      refine Program.usesOnly_bind (within_perform trivial) fun id => ?_
      refine Program.usesOnly_bind ((Program.usesOnly_raising _).mpr trivial) fun amount => ?_
      exact Program.usesOnly_bind (within_saveNew (by decide) _ _) fun _ => trivial
    exact requestTx_within hbody h (hout t ht)
  · obtain ⟨-, rfl⟩ := h
    rfl

theorem Operation.configuration_kept {r : Except PyError Response} (hw : w.Sound)
    (hop : op.reconfigures = false) (h : Runs (serial G) (op.program key S A) w r w') {t : Table}
    (ht : t ∈ CONFIGURATION) : w'.db t = w.db t := by
  cases op with
  | update token incoming =>
    obtain ⟨x, hruns⟩ := runs_named h
    exact (run_receiveUpdate hw hruns).configuration hw ht
  | listCredentials =>
    obtain ⟨x, hruns⟩ := runs_named h
    have hlooks : (Admin.listCredentials A).UsesOnly Op.looks :=
      Program.usesOnly_bind (looks_listAll _ _) fun _ => trivial
    rw [looking_configuration hlooks hruns]
  | listChannels =>
    obtain ⟨x, hruns⟩ := runs_named h
    have hlooks : (Admin.listChannels A).UsesOnly Op.looks := looks_listAll _ _
    rw [looking_configuration hlooks hruns]
  | checkIntegration =>
    obtain ⟨x, hruns⟩ := runs_named h
    rw [looking_configuration (looks_checkIntegration A) hruns]
  | ingestPayment payload =>
    obtain ⟨x, hruns⟩ := runs_named h
    exact payment_configuration hruns ht
  | monitor now =>
    have hstep : Event.Steps G S (.pass A now) w w' := runs_named h
    exact (pass_effect hw hstep).configuration ht
  | sweep =>
    have hstep : SweepStep G key S A w w' := runs_named h
    exact (hstep.effect hw).configuration ht
  | upsertCredential | upsertReferralConfig | upsertChannel | upsertBot => cases hop

/-- The tenant's configuration is amended, and no other's; no tenant has two paths. -/
structure Amended (key : EncryptionKey) (A : TenantId) (f : Configuration → Configuration)
    (w w' : World) : Prop where
  apart : Apart routeKey (w'.db .webhookRoutes)
  configuration : configurationOf key w'.db =
    Function.update (configurationOf key w.db) A (f (configurationOf key w.db A))

theorem Amended.of_kept {f : Configuration → Configuration}
    (ha : Apart routeKey (w.db .webhookRoutes)) (h : ∀ t ∈ CONFIGURATION, w'.db t = w.db t)
    (hf : ∀ c, f c = c) : Amended key A f w w' := by
  constructor
  · rw [h .webhookRoutes (by decide)]
    exact ha
  · rw [configurationOf_congr h, hf, Function.update_eq_self]

/-- A request that is turned down amends nothing; one that is answered, what it wrote. -/
theorem amended_of_meets {α : Type} {body : App α} {f : α → Response} {Q : α → World → Prop}
    {x : Except PyError α} (hw : w.Sound) (ha : Apart routeKey (w.db .webhookRoutes))
    (hbody : Meets G body Q (fun _ l => l.db = w.db) (w.opened A))
    (hQ : ∀ a w₁, Q a w₁ → w₁.db = w.db)
    (hok : ∀ a w₁, Q a w₁ → w'.db = w₁.view → Distinct w'.db →
      Amended key A (fun c => c.accept op (f a)) w w')
    (h : Runs (serial G) (requestTx A body) w x w') :
    Amended key A (fun c => c.after op (x.map f)) w w' := by
  have hw' : w'.Sound := wp_sound (wp_sound_world _ _) h hw
  have hend := wp_sound (wp_requestTx_split hQ hbody) h
  cases x with
  | error e => exact .of_kept ha (fun t _ => congrFun hend t) fun _ => rfl
  | ok a =>
    obtain ⟨w₁, hq, hdb⟩ := hend
    exact hok a w₁ hq hdb hw'.db

theorem credential_configured {payload : CredentialUpsertRequest}
    {x : Except PyError CredentialResponse} (hseals : Seals key G) (hw : w.Sound)
    (ha : Apart routeKey (w.db .webhookRoutes))
    (h : Runs (serial G) (requestTx A (upsertCredential key A payload)) w x w') :
    Amended key A (fun c => c.after (.upsertCredential payload) (x.map .credential)) w w' := by
  refine amended_of_meets hw ha (meets_upsertCredential_written hseals (hw.opened A))
    (fun _ _ ⟨_, hq⟩ => hq.db) ?_ h
  rintro response w₁ ⟨record, hwritten⟩ hdb hd'
  have hwrote : Wrote .providerCredentials secretKey record w.db w'.db := hdb ▸ hwritten.wrote
  constructor
  · rw [hwrote.others _ (by decide)]
    exact ha
  · rw [configurationOf_secret hw.db hd' hwrote hwritten.named, hwritten.kept]
    rfl

theorem program_configured {payload : ReferralConfigRequest}
    {x : Except PyError ReferralProgramConfig} (hw : w.Sound)
    (ha : Apart routeKey (w.db .webhookRoutes))
    (h : Runs (serial G) (requestTx A (upsertReferralConfig A payload)) w x w') :
    Amended key A (fun c => c.after (.upsertReferralConfig payload) (x.map .referralConfig))
      w w' := by
  refine amended_of_meets hw ha (meets_upsertReferralConfig_written (hw.opened A))
    (fun _ _ hq => hq.db) ?_ h
  intro response w₁ hwritten hdb hd'
  obtain ⟨row, stored, hrow, hkey, hkept, hterms⟩ := hwritten.wrote
  have hwrote : Wrote .referralProgramConfigs programKey row w.db w'.db := hdb ▸ hrow
  constructor
  · rw [hwrote.others _ (by decide)]
    exact ha
  · rw [configurationOf_program hw.db hd' hwrote hkey, hterms]
    simp only [Configuration.accept, hkept]
    rfl

theorem channel_configured {payload : ChannelRequest} {x : Except PyError TelegramChannel}
    (hw : w.Sound) (ha : Apart routeKey (w.db .webhookRoutes))
    (h : Runs (serial G) (requestTx A (upsertChannel A payload)) w x w') :
    Amended key A (fun c => c.after (.upsertChannel payload) (x.map .channel)) w w' := by
  refine amended_of_meets hw ha (meets_upsertChannel_written (hw.opened A))
    (fun _ _ hq => hq.db) ?_ h
  intro response w₁ hwritten hdb hd'
  obtain ⟨row, stored, hrow, hkey, hkept, hterms⟩ := hwritten.wrote
  have hwrote : Wrote .telegramChannels channelPlace row w.db w'.db := hdb ▸ hrow
  constructor
  · rw [hwrote.others _ (by decide)]
    exact ha
  · rw [configurationOf_channel hw.db hd' hwrote hkey, hterms]
    simp only [Configuration.accept, hkept]
    rfl

theorem bot_configured {payload : BotConfigRequest} {x : Except PyError BotConfigResponse}
    (hseals : Seals key G) (hw : w.Sound) (ha : Apart routeKey (w.db .webhookRoutes))
    (h : Runs (serial G) (requestTx A (upsertBot key A payload)) w x w') :
    Amended key A (fun c => c.after (.upsertBot payload) (x.map .bot)) w w' := by
  refine amended_of_meets hw ha (meets_upsertBot_written hseals (hw.opened A))
    (fun _ _ ⟨_, hq⟩ => hq.db) ?_ h
  rintro response w₁ ⟨record, hwritten⟩ hdb hd'
  constructor
  · rw [hdb]
    exact hwritten.route.apart ha
  · rw [hdb]
    exact configurationOf_bot (hw.opened A).view (hdb ▸ hd') ha hwritten

/-- An operation amends its tenant's configuration as its answer says. -/
theorem Operation.configured {r : Except PyError Response} (hseals : Seals key G) (hw : w.Sound)
    (ha : Apart routeKey (w.db .webhookRoutes))
    (h : Runs (serial G) (op.program key S A) w r w') :
    Amended key A (fun c => c.after op r) w w' := by
  cases op with
  | upsertCredential payload =>
    obtain ⟨x, hruns, rfl⟩ := runs_answer h
    exact credential_configured hseals hw ha hruns
  | upsertReferralConfig payload =>
    obtain ⟨x, hruns, rfl⟩ := runs_answer h
    exact program_configured hw ha hruns
  | upsertChannel payload =>
    obtain ⟨x, hruns, rfl⟩ := runs_answer h
    exact channel_configured hw ha hruns
  | upsertBot payload =>
    obtain ⟨x, hruns, rfl⟩ := runs_answer h
    exact bot_configured hseals hw ha hruns
  | update | listCredentials | listChannels | checkIntegration | ingestPayment | monitor
  | sweep =>
    exact .of_kept ha (fun t ht => Operation.configuration_kept hw rfl h ht) fun c =>
      c.after_of_not rfl r

end Operations

/-! ## What the services look up -/

/-- A lookup that is answered from `x`, unless the database is to blame, and then it raises. -/
def AnsweredFrom {α : Type} (G : World → Op → Choice → Prop) (p : App α) (x : Except PyError α)
    (w : World) : Prop :=
  ∀ r w', Runs (serial G) p w r w' → r = x ∨ Broken G ∧ ∃ e, r = .error e

/-- The services of a tenant see the configuration `c`. -/
structure Consults (G : World → Op → Choice → Prop) (key : EncryptionKey) (A : TenantId)
    (c : Configuration) (w : World) : Prop where
  referralProvider : ∀ providerType, AnsweredFrom G
    (ProviderFactory.referralProvider key A providerType) (c.referralProvider providerType)
    (w.opened A)
  telegram : AnsweredFrom G (ProviderFactory.telegram key A) c.telegram (w.opened A)
  program : ∀ providerType market, AnsweredFrom G (do
      return (← ReferralProgramConfigRepository.getFor A providerType market).map programTerms)
    (.ok (c.programs (providerType, market))) (w.opened A)
  /-- A channel that was deactivated is not seen. -/
  channel : ∀ market, AnsweredFrom G (do
      return (← TelegramChannelRepository.getForMarket A market).map channelTerms)
    (.ok ((c.channels market).filter (·.isActive))) (w.opened A)

section Lookups

variable {G : World → Op → Choice → Prop} {key : EncryptionKey} {w : World}

theorem answeredFrom_of_works {α : Type} {p : App α} {x : Except PyError α}
    (h : Works G p (fun a _ => x = .ok a) (fun e _ => x = .error e) w) : AnsweredFrom G p x w := by
  intro r w' hruns
  have hend := wp_sound h hruns
  cases r with
  | ok a => exact .inl hend.symm
  | error e => exact hend.elim (fun hbroken => .inr ⟨hbroken, e, rfl⟩) fun hx => .inl hx.symm

/-- What a statement finds is the value at its key. -/
theorem found_valueAt {t : Table} {κ β : Type} [DecidableEq κ] {keyOf : Row t → κ}
    {value : Row t → β} {cond : Row t → Bool} {k : κ} {found : Option (Row t)}
    (h : w.Found t cond found) (hcond : ∀ r, w.inScope cond r = true ↔ keyOf r = k) :
    found.map value = valueAt keyOf value (w.view t) k := by
  cases found with
  | none =>
    rw [valueAt_eq_none, Option.map_none]
    intro r hr hkey
    have hno := h r hr
    rw [(hcond r).mpr hkey] at hno
    cases hno
  | some row =>
    obtain ⟨hmem, hsel, honly⟩ := h
    rw [Option.map_some, valueAt_eq_some hmem ((hcond row).mp hsel)]
    intro r hr hkey
    exact honly r hr ((hcond r).mpr hkey)

theorem works_secret_configured {providerType : ProviderType} {name : String}
    {Q : String → World → Prop} {F : PyError → World → Prop} (hw : w.Sound)
    (hconflict : w.conflict = none)
    (hok : ∀ s, (configurationOf key w.view w.tenantId).secret providerType name = .ok s → Q s w)
    (herr : ∀ e, (configurationOf key w.view w.tenantId).secret providerType name = .error e →
      F e w) :
    Works G (ProviderFactory.secret key w.tenantId providerType name) Q F w := by
  unfold ProviderFactory.secret ProviderCredentialRepository.getNamed
  rw [works_bind]
  refine works_selectOneOrNone hw hconflict (fun r s _ hr hs => ?_) fun found hfound => ?_
  · simp only [Bool.and_eq_true, beq_iff_eq] at hr hs
    simp [clash, hr, hs]
  have hvalue : found.map (keptSecret key) =
      (configurationOf key w.view w.tenantId).secrets (providerType, name) := by
    refine found_valueAt hfound fun r => ?_
    simp only [World.inScope, rowTenant, secretKey, Bool.and_eq_true, beq_iff_eq, Prod.mk.injEq]
    tauto
  cases found with
  | none =>
    refine .inr (herr _ ?_)
    rw [Configuration.secret, ← hvalue]
    rfl
  | some record =>
    have hopened : (configurationOf key w.view w.tenantId).secret providerType name =
        decryptSecret key record.encryptedSecret := by
      rw [Configuration.secret, ← hvalue]
      rfl
    refine works_raising (fun s hs => hok s (hopened.trans hs)) fun e he => herr e ?_
    exact hopened.trans he

theorem works_referralProvider_configured {providerType : ProviderType} (hw : w.Sound)
    (hconflict : w.conflict = none) :
    Works G (ProviderFactory.referralProvider key w.tenantId providerType)
      (fun a _ =>
        (configurationOf key w.view w.tenantId).referralProvider providerType = .ok a)
      (fun e _ =>
        (configurationOf key w.view w.tenantId).referralProvider providerType = .error e) w := by
  unfold ProviderFactory.referralProvider Configuration.referralProvider
  split
  · rw [works_bind]
    refine works_secret_configured hw hconflict (fun apiKey hkey => ?_) fun e he => ?_
    · rw [works_bind]
      refine works_secret_configured hw hconflict (fun apiSecret hsecret => ?_) fun e he => ?_
      · rw [works_pure, hkey, hsecret]
        rfl
      · rw [hkey, he]
        rfl
    · rw [he]
      rfl
  · exact .inr rfl

theorem works_telegram_configured (hw : w.Sound) (hconflict : w.conflict = none) :
    Works G (ProviderFactory.telegram key w.tenantId)
      (fun a _ => (configurationOf key w.view w.tenantId).telegram = .ok a)
      (fun e _ => (configurationOf key w.view w.tenantId).telegram = .error e) w := by
  unfold ProviderFactory.telegram TelegramBotConfigRepository.get
  rw [works_bind]
  refine works_selectOneOrNone hw hconflict (fun r s _ hr hs => ?_) fun found hfound => ?_
  · simp only [beq_iff_eq] at hr hs
    simp [clash, hr, hs]
  have hvalue : found.map botTerms = (configurationOf key w.view w.tenantId).bot := by
    refine found_valueAt hfound fun r => ?_
    simp only [World.inScope, rowTenant, botKey, Bool.and_eq_true, beq_iff_eq, and_self]
  unfold Configuration.telegram
  rw [← hvalue]
  cases found with
  | none => exact .inr rfl
  | some config => exact works_secret_configured hw hconflict (fun _ hs => hs) fun _ he => he

/-- What a tenant's services see is its configuration. -/
theorem consults_configurationOf {A : TenantId} (hw : w.Sound) :
    Consults G key A (configurationOf key w.db A) w := by
  have hopened := hw.opened A
  refine ⟨fun providerType => ?_, ?_, fun providerType market => ?_, fun market => ?_⟩
  · exact answeredFrom_of_works (works_referralProvider_configured (w := w.opened A) hopened rfl)
  · exact answeredFrom_of_works (works_telegram_configured (w := w.opened A) hopened rfl)
  · apply answeredFrom_of_works
    rw [works_bind]
    refine works_selectOneOrNone hopened rfl (fun r s _ hr hs => ?_) fun found hfound => ?_
    · simp only [Bool.and_eq_true, beq_iff_eq] at hr hs
      simp [clash, hr, hs]
    refine congrArg Except.ok (found_valueAt hfound fun r => ?_).symm
    simp only [World.inScope, rowTenant, programKey, World.opened, Bool.and_eq_true, beq_iff_eq,
      Prod.mk.injEq]
    tauto
  · apply answeredFrom_of_works
    rw [works_bind]
    refine works_selectOneOrNone hopened rfl (fun r s _ hr hs => ?_) fun found hfound => ?_
    · simp only [Bool.and_eq_true, beq_iff_eq] at hr hs
      simp [clash, hr, hs]
    refine congrArg Except.ok ?_
    have hof : ∀ r : TelegramChannel, (w.opened A).inScope (t := .telegramChannels)
        (fun r => r.tenantId == A && r.market == market && r.isActive) r = true ↔
          channelPlace r = (A, market) ∧ r.isActive = true := by
      intro r
      simp only [World.inScope, rowTenant, channelPlace, World.opened, Bool.and_eq_true,
        beq_iff_eq, Prod.mk.injEq]
      tauto
    have ha : Apart channelPlace (w.db .telegramChannels) :=
      hw.db.apart (t := .telegramChannels) clash_of_channelPlace
    show ((valueAt channelPlace channelTerms (w.db .telegramChannels) (A, market)).filter _) = _
    cases found with
    | none =>
      -- There is none of the market, or it is deactivated.
      cases hvalue : valueAt channelPlace channelTerms (w.db .telegramChannels) (A, market) with
      | none => rfl
      | some terms =>
        obtain ⟨r, hr, hplace, rfl⟩ := exists_of_valueAt hvalue
        have hno := hfound r hr
        have hinactive : r.isActive = false := by
          by_contra hne
          rw [(hof r).mpr ⟨hplace, eq_true_of_ne_false hne⟩] at hno
          cases hno
        rw [Option.filter_some, if_neg (by simpa [channelTerms] using hinactive)]
        rfl
    | some channel =>
      obtain ⟨hmem, hsel, -⟩ := hfound
      obtain ⟨hplace, hactive⟩ := (hof channel).mp hsel
      rw [ha.valueAt_eq_some hmem hplace, Option.filter_some]
      exact if_pos hactive

end Lookups

/-! ## Histories -/

/-- Operations of any tenants one after the other, with what each came to. -/
inductive Transcript (H : World → Op → Choice × Bool → Prop) (key : EncryptionKey)
    (S : Settings) (w₀ : World) :
    List (TenantId × Operation × Except PyError Response) → World → Prop
  | start : Transcript H key S w₀ [] w₀
  | next {log : List (TenantId × Operation × Except PyError Response)} {w w' : World}
      {A : TenantId} {op : Operation} {r : Except PyError Response} :
      Transcript H key S w₀ log w → Runs (losing H) (op.program key S A) w r w' →
      Transcript H key S w₀ (log ++ [(A, op, r)]) w'

/-- What a history makes of the configuration of tenant `A`. -/
def Configuration.amendedBy (A : TenantId)
    (log : List (TenantId × Operation × Except PyError Response)) (c : Configuration) :
    Configuration :=
  log.foldl (fun c entry => if entry.1 = A then c.after entry.2.1 entry.2.2 else c) c

section Histories

variable {H : World → Op → Choice × Bool → Prop} {key : EncryptionKey} {S : Settings}
  {w₀ w w' : World} {log : List (TenantId × Operation × Except PyError Response)}

theorem Amended.configurationOf_eq {A B : TenantId} {f : Configuration → Configuration}
    (h : Amended key A f w w') : configurationOf key w'.db B =
      if A = B then f (configurationOf key w.db B) else configurationOf key w.db B := by
  rw [h.configuration]
  split
  · next heq => rw [heq, Function.update_self]
  · next hne => rw [Function.update_of_ne (Ne.symm hne)]

/-- The step lemma, along a history. -/
theorem Transcript.configuration (hH : Acknowledged H) (hseals : Seals key (choices H))
    (hsound : w₀.Sound) (hroutes : Apart routeKey (w₀.db .webhookRoutes))
    (h : Transcript H key S w₀ log w) :
    w.Sound ∧ Apart routeKey (w.db .webhookRoutes) ∧
      ∀ A, configurationOf key w.db A = (configurationOf key w₀.db A).amendedBy A log := by
  induction h with
  | start => exact ⟨hsound, hroutes, fun _ => rfl⟩
  | @next log w w' A op r _ hlosing ih =>
    obtain ⟨hw, ha, hconfiguration⟩ := ih
    have hruns := (runs_losing_iff hH).mp hlosing
    have hamended := Operation.configured hseals hw ha hruns
    refine ⟨wp_sound (wp_sound_world _ _) hruns hw, hamended.apart, fun B => ?_⟩
    -- The last operation amends the configuration of its own tenant only.
    rw [hamended.configurationOf_eq, hconfiguration B, Configuration.amendedBy,
      Configuration.amendedBy, List.foldl_append]
    rfl

/-- Whatever happens on the platform, with whatever failures but a lost answer to a commit:
    the configuration of a tenant is the one it began with, amended by the tenant's own
    requests that were answered, each putting what it says at its key; and that configuration
    is what the tenant's services are answered from. -/
theorem configuration_is_what_was_answered (hH : Acknowledged H)
    (hseals : Seals key (choices H)) (hsound : w₀.Sound)
    (hroutes : Apart routeKey (w₀.db .webhookRoutes)) (h : Transcript H key S w₀ log w)
    (A : TenantId) :
    configurationOf key w.db A = (configurationOf key w₀.db A).amendedBy A log ∧
      Consults (choices H) key A ((configurationOf key w₀.db A).amendedBy A log) w := by
  obtain ⟨hw, -, hconfiguration⟩ := h.configuration hH hseals hsound hroutes
  refine ⟨hconfiguration A, ?_⟩
  rw [← hconfiguration A]
  exact consults_configurationOf hw

end Histories

/-! ## A key that is replaced -/

/-- What is encrypted stays as it is, and ids are counted. -/
def sealingEnv (w : World) (op : Op) : Choice :=
  match op with
  | .encrypt plaintext => { ciphertext := plaintext }
  | _ => { id := 100 + (w.view .providerCredentials).length }

/-- A secret of the exchange. -/
def exchangeKey (secret : String) : Operation :=
  .upsertCredential ⟨.bitunix, BITUNIX_API_KEY, secret⟩

/-- What an operation of tenant 1 leads to. -/
def World.afterSealing (w : World) (op : Operation) : Except PyError Response × World :=
  exec World.step sealingEnv (op.program (.key some) defaultSettings 1) w

/-- The first key was stored, and the second replaced it. -/
theorem replaced_key_is_read :
    ∃ log w, Transcript (keeping (Only sealingEnv)) (.key some) defaultSettings configuredWorld
        log w ∧
      log.length = 2 ∧
      ((configurationOf (.key some) w.db 1).secret .bitunix BITUNIX_API_KEY).toOption =
        some "second" := by
  let first := configuredWorld.afterSealing (exchangeKey "first")
  let second := first.2.afterSealing (exchangeKey "second")
  have hclose : ∀ w c, Only sealingEnv w .closeSession c → c.fault = none := by
    rintro w c rfl
    rfl
  have htranscript : Transcript (keeping (Only sealingEnv)) (.key some) defaultSettings
      configuredWorld [(1, exchangeKey "first", first.1), (1, exchangeKey "second", second.1)]
      second.2 :=
    (Transcript.start.next ((runs_keeping_iff hclose).mpr
      (runs_only sealingEnv _ configuredWorld))).next
      ((runs_keeping_iff hclose).mpr (runs_only sealingEnv _ first.2))
  have hseals : Seals (.key some) (choices (keeping (Only sealingEnv))) := by
    rw [choices_keeping hclose]
    rintro w plaintext c rfl
    rfl
  have hroutes : Apart routeKey (configuredWorld.db .webhookRoutes) := List.Pairwise.nil
  refine ⟨_, _, htranscript, rfl, ?_⟩
  rw [(configuration_is_what_was_answered (acknowledged_keeping _) hseals
    initial_configuredWorld.sound hroutes htranscript 1).1]
  decide +kernel

end VipChannel

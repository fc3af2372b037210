/-
  VipChannel.Runs.Isolation

  Tenants do not interfere: what a tenant asks for is answered from the tenant's own rows,
  and leaves the rows of the others as they are.

  The theorem compares two databases under one environment.  What the environment decides
  may depend on everything the tenant's operations have called and been answered so far.
-/
import VipChannel.Runs.Confined

namespace VipChannel

open Lib

/-- What is asked for on behalf of a tenant. -/
inductive Operation where
  | update (token : String) (incoming : Option IncomingUpdate)
  | upsertCredential (payload : CredentialUpsertRequest)
  | listCredentials
  | upsertReferralConfig (payload : ReferralConfigRequest)
  | upsertChannel (payload : ChannelRequest)
  | listChannels
  | upsertBot (payload : BotConfigRequest)
  | checkIntegration
  | ingestPayment (payload : PaymentIngestRequest)
  | monitor (now : Option DateTime)
  | sweep

inductive Response where
  | ok
  | credential (response : CredentialResponse)
  | credentials (response : List CredentialResponse)
  | referralConfig (response : ReferralProgramConfig)
  | channel (response : TelegramChannel)
  | channels (response : List TelegramChannel)
  | bot (response : BotConfigResponse)
  | integration (response : IntegrationCheckResponse)
  | payment (response : PaymentIngestResponse)
  | report (response : Option MonitorReport)

/-- The program of an operation of tenant `A`, in the transaction its caller puts it in. -/
def Operation.program (key : EncryptionKey) (S : Settings) (A : TenantId) :
    Operation → App Response
  | update token incoming => do
    TelegramWebhook.receiveUpdate key S.ttl token incoming
    return .ok
  | upsertCredential payload =>
    return .credential (← requestTx A (Admin.upsertCredential key A payload))
  | listCredentials => return .credentials (← requestTx A (Admin.listCredentials A))
  | upsertReferralConfig payload =>
    return .referralConfig (← requestTx A (Admin.upsertReferralConfig A payload))
  | upsertChannel payload => return .channel (← requestTx A (Admin.upsertChannel A payload))
  | listChannels => return .channels (← requestTx A (Admin.listChannels A))
  | upsertBot payload => return .bot (← requestTx A (Admin.upsertBot key A payload))
  | checkIntegration => return .integration (← requestTx A (Admin.checkIntegration key A))
  | ingestPayment payload => return .payment (← ingestPaymentWebhook A payload)
  | monitor now => return .report (← passTx S.period S.policy A now)
  | sweep => do
    Scheduler.sweepTenant key S.providerType S.period A
    return .ok

/-- An update comes on a path that is no other tenant's. -/
def Operation.AtHome (A : TenantId) (d : Database) : Operation → Prop
  | update token _ => ∀ route ∈ d .webhookRoutes, route.token = token → route.tenantId = A
  | _ => True

theorem Operation.confined {key : EncryptionKey} {S : Settings} {A : TenantId}
    {T : String → Prop} {s : Stage} {op : Operation}
    (h : ∀ token incoming, op = .update token incoming → T token) :
    Confined A T s (op.program key S A) := by
  cases op with
  | update token incoming =>
    have htoken : T token := h token incoming rfl
    exact confined_bind (TelegramWebhook.confined_receiveUpdate _ _ htoken _) fun _ =>
      confined_pure _
  | upsertCredential payload =>
    exact confined_bind (confined_requestTx (Admin.confined_upsertCredential rfl _ _)) fun _ =>
      confined_pure _
  | listCredentials =>
    exact confined_bind (confined_requestTx (Admin.confined_listCredentials rfl)) fun _ =>
      confined_pure _
  | upsertReferralConfig payload =>
    exact confined_bind (confined_requestTx (Admin.confined_upsertReferralConfig rfl _)) fun _ =>
      confined_pure _
  | upsertChannel payload =>
    exact confined_bind (confined_requestTx (Admin.confined_upsertChannel rfl _)) fun _ =>
      confined_pure _
  | listChannels =>
    exact confined_bind (confined_requestTx (confined_listAll rfl _)) fun _ => confined_pure _
  | upsertBot payload =>
    exact confined_bind (confined_requestTx (Admin.confined_upsertBot rfl _ _)) fun _ =>
      confined_pure _
  | checkIntegration =>
    exact confined_bind (confined_requestTx (Admin.confined_checkIntegration rfl _)) fun _ =>
      confined_pure _
  | ingestPayment payload =>
    exact confined_bind (confined_ingestPaymentWebhook _) fun _ => confined_pure _
  | monitor now => exact confined_bind (confined_passTx _ _ _) fun _ => confined_pure _
  | sweep => exact confined_bind (confined_sweepTenant _ _ _) fun _ => confined_pure _

/-- What decides about every call of a tenant's operations. -/
abbrev Environment := Oracle Op Op.Ret PyError Choice

/-- The operations one after the other: the calls made, the results, and the world left. -/
def operate (key : EncryptionKey) (S : Settings) (A : TenantId) (env : Environment)
    (ops : List Operation) (w : World) :
    List (Call Op Op.Ret PyError) × List (Except PyError Response) × World :=
  followAll World.step env (ops.map (·.program key S A)) [] w

/-- Ids and tokens are not those of another tenant's row. -/
def Environment.Fresh (env : Environment) (A : TenantId) (d : Database) : Prop :=
  ∀ past op, FreshFor A d op (env past op)

/-- Alike databases stay alike. -/
structure Indistinguishable (A : TenantId) (w₁ w₂ : World)
    (o₁ o₂ : List (Call Op Op.Ret PyError) × List (Except PyError Response) × World) : Prop where
  calls : o₁.1 = o₂.1
  results : o₁.2.1 = o₂.2.1
  own : ∀ t, ownRows A t (o₁.2.2.db t) = ownRows A t (o₂.2.2.db t)
  foreign₁ : ∀ t, foreignRows A t (o₁.2.2.db t) = foreignRows A t (w₁.db t)
  foreign₂ : ∀ t, foreignRows A t (o₂.2.2.db t) = foreignRows A t (w₂.db t)

/-- Where the databases agree on the tenant's rows, its operations make the same calls with
    the same results, leave the same rows of the tenant, and leave all others alone. -/
theorem tenants_do_not_interfere {key : EncryptionKey} {S : Settings} {A : TenantId}
    {env : Environment} {ops : List Operation} {w₁ w₂ : World}
    (hown : ∀ t, ownRows A t (w₁.db t) = ownRows A t (w₂.db t))
    (hhome : ∀ op ∈ ops, op.AtHome A w₁.db ∧ op.AtHome A w₂.db)
    (hfresh : env.Fresh A w₁.db ∧ env.Fresh A w₂.db) :
    Indistinguishable A w₁ w₂ (operate key S A env ops w₁) (operate key S A env ops w₂) := by
  -- The tokens that are no other tenant's in either database.
  let T : String → Prop := fun token =>
    (∀ route ∈ w₁.db .webhookRoutes, route.token = token → route.tenantId = A) ∧
      ∀ route ∈ w₂.db .webhookRoutes, route.token = token → route.tenantId = A
  have hT₁ : OwnTokens A T w₁.db := by
    intro route hroute htoken
    obtain ⟨hmem, hne⟩ := mem_foreignRows.mp hroute
    exact hne (htoken.1 route hmem rfl)
  have hT₂ : OwnTokens A T w₂.db := by
    intro route hroute htoken
    obtain ⟨hmem, hne⟩ := mem_foreignRows.mp hroute
    exact hne (htoken.2 route hmem rfl)
  have hps : ∀ p ∈ ops.map (·.program key S A), ∀ s : Stage, True →
      wp (confinement A T) p (fun _ _ => True) s := by
    intro p hp s _
    obtain ⟨op, hop, rfl⟩ := List.mem_map.mp hp
    have hconfined : Confined A T s (op.program key S A) :=
      Operation.confined fun token incoming heq => by
        have hat := hhome op hop
        rw [heq] at hat
        exact hat
    exact wp_mono (fun _ _ _ => trivial) (hconfined s (.refl s))
  have hstart : Twins A w₁.db w₂.db {} w₁ w₂ := by
    refine ⟨⟨hown, fun _ => rfl, fun _ => rfl⟩, fun hb => ?_, fun hn => ?_, fun k hk => ?_⟩
    · cases hb
    · cases hn
    · cases hk
  let C : Op → Choice → Prop := fun op c => FreshFor A w₁.db op c ∧ FreshFor A w₂.db op c
  have hstep : ∀ s v₁ v₂ op c, (confinement A T).allowed s op → C op c →
      Twins A w₁.db w₂.db s v₁ v₂ → (World.step v₁ op c).1 = (World.step v₂ op c).1 ∧
        ∃ s', (confinement A T).steps s op (World.step v₁ op c).1 s' ∧
          Twins A w₁.db w₂.db s' (World.step v₁ op c).2 (World.step v₂ op c).2 :=
    fun s v₁ v₂ op c hop hc h => h.step hT₁ hT₂ hop hc.1 hc.2
  have henv : ∀ past op, C op (env past op) := fun past op =>
    ⟨hfresh.1 past op, hfresh.2 past op⟩
  obtain ⟨hcalls, hresults, s', -, hend⟩ := followAll_related hstep henv hps trivial hstart []
  exact ⟨hcalls, hresults, hend.db.own, hend.db.left, hend.db.right⟩

/-! ## Two tenants with a member in common -/

/-- A tenant whose rows collide with the first one's, but for ids and tokens. -/
def neighbourDb : Database :=
  ((((configuredDb.append .telegramUsers
    { id := 50, tenantId := 2, telegramUserId := 77, username := none, firstName := none }).append
    .telegramChannels { id := 51, tenantId := 2, market := .crypto, chatId := -100 }).append
    .jobExecutions
    { tenantId := 2, jobName := JOB_NAME, periodStart := .day 0, state := .running
      startedAt := none }).append
    .webhookRoutes { tenantId := 2, token := "theirs", provider := "TELEGRAM" })

def neighbourWorld : World := { configuredWorld with db := neighbourDb }

/-- Nothing fails, and ids are counted from 100. -/
def countingEnv : Environment := fun past _ => { id := 100 + past.length, token := "ours" }

/-- The keys of the other tenant's rows. -/
theorem keys_neighbourDb {k : Key} (h : neighbourDb.Taken 1 k) :
    k = .inl 50 ∨ k = .inl 51 ∨ k = .inr "theirs" := by
  obtain ⟨t, r, hr, hk⟩ := h
  have hmem : k ∈ (foreignRows 1 t (neighbourDb t)).filterMap (globalKey t) :=
    List.mem_filterMap.mpr ⟨r, hr, hk⟩
  have hall : ((foreignRows 1 t (neighbourDb t)).filterMap (globalKey t)).all
      fun k => k = .inl 50 ∨ k = .inl 51 ∨ k = .inr "theirs" := by
    cases t <;> rfl
  simpa using List.all_eq_true.mp hall k hmem

theorem fresh_countingEnv : countingEnv.Fresh 1 neighbourDb := by
  have hid : ∀ n : Nat, ¬ neighbourDb.Taken 1 (.inl (100 + n)) := by
    intro n h
    have hkey := keys_neighbourDb h
    simp only [Sum.inl.injEq, reduceCtorEq, or_false] at hkey
    rcases hkey with heq | heq
    · change 100 + n = 50 at heq
      omega
    · change 100 + n = 51 at heq
      omega
  have htoken : ¬ neighbourDb.Taken 1 (.inr "ours") := by
    intro h
    have hkey := keys_neighbourDb h
    simp at hkey
  intro past op
  cases op with
  | uuid4 => exact hid _
  | tokenUrlsafe => exact htoken
  | _ => trivial

theorem fresh_configuredDb (env : Environment) : env.Fresh 1 configuredDb := by
  have hnone : ∀ k, ¬ configuredDb.Taken 1 k := by
    rintro k ⟨t, r, hr, -⟩
    have hempty : foreignRows 1 t (configuredDb t) = [] := by
      cases t <;> decide
    rw [hempty] at hr
    cases hr
  intro past op
  cases op with
  | uuid4 => exact hnone _
  | tokenUrlsafe => exact hnone _
  | _ => trivial

/-- A channel, a payment, a pass and an update of the first tenant. -/
def ownOperations : List Operation :=
  [.upsertChannel { market := .crypto, chatId := -100 }, .ingestPayment (paymentOf 50 "0xabc"),
    .monitor none, .update "ours" (some { chatId := 77, userId := 77 })]

theorem neighbour_unnoticed : Indistinguishable 1 configuredWorld neighbourWorld
    (operate .unset defaultSettings 1 countingEnv ownOperations configuredWorld)
    (operate .unset defaultSettings 1 countingEnv ownOperations neighbourWorld) := by
  have hown : ∀ t, ownRows 1 t (configuredWorld.db t) = ownRows 1 t (neighbourWorld.db t) := by
    intro t
    cases t <;> decide
  refine tenants_do_not_interfere hown (fun op hop => ?_)
    ⟨fresh_configuredDb _, fresh_countingEnv⟩
  simp only [ownOperations, List.mem_cons, List.not_mem_nil, or_false] at hop
  rcases hop with rfl | rfl | rfl | rfl
  · exact ⟨trivial, trivial⟩
  · exact ⟨trivial, trivial⟩
  · exact ⟨trivial, trivial⟩
  · constructor
    · intro route hroute
      cases hroute
    · intro route hroute htoken
      have hroutes : neighbourWorld.db .webhookRoutes =
          [{ tenantId := 2, token := "theirs", provider := "TELEGRAM" }] := rfl
      rw [hroutes, List.mem_singleton] at hroute
      rw [hroute] at htoken
      simp at htoken

end VipChannel

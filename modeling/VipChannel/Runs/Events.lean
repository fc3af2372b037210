/-
  VipChannel.Runs.Events

  The service over time: users submit UIDs, the sweep passes over a tenant, an admin
  configures a channel, each in a transaction of its own, one after the other, and
  every call may fail.

  `PassEffect`, `SubmitEffect` and `ChannelEffect` say what one transaction leaves of
  the committed rows and of what Telegram did; whoever reasons about runs uses them and
  never the programs.
-/
import VipChannel.Runs.Transactions

namespace VipChannel

open Lib MembershipMonitor

/-- What a deployment is configured with. -/
structure Settings where
  ttl : TimeDelta
  providerType : ProviderType
  period : TimeDelta
  policy : CompliancePolicy

/-- Something that happens to the service. -/
inductive Event where
  | submit (tenantId : TenantId) (telegramUserId : Int) (market : Market) (rawUid : String)
      (username firstName : Option String)
  | pass (tenantId : TenantId) (now : Option DateTime)
  | channel (tenantId : TenantId) (payload : ChannelRequest)

/-- The event can take the world from `w` to `w'`. -/
def Event.Steps (G : World → Op → Choice → Prop) (S : Settings) : Event → World → World → Prop
  | submit tenantId telegramUserId market rawUid username firstName, w, w' =>
    ∃ r, Runs (serial G) (submitTx S.ttl S.providerType tenantId telegramUserId market rawUid
      username firstName) w r w'
  | pass tenantId now, w, w' => ∃ r, Runs (serial G) (passTx S.period S.policy tenantId now) w r w'
  | channel tenantId payload, w, w' =>
    ∃ r, Runs (serial G) (requestTx tenantId (Admin.upsertChannel tenantId payload)) w r w'

/-- The world after the event, in an environment that computes. -/
def Event.play (env : World → Op → Choice) (S : Settings) : Event → World → World
  | submit tenantId telegramUserId market rawUid username firstName, w =>
    (exec World.step env (submitTx S.ttl S.providerType tenantId telegramUserId market rawUid
      username firstName) w).2
  | pass tenantId now, w => (exec World.step env (passTx S.period S.policy tenantId now) w).2
  | channel tenantId payload, w =>
    (exec World.step env (requestTx tenantId (Admin.upsertChannel tenantId payload)) w).2

theorem Event.steps_play {G : World → Op → Choice → Prop} {env : World → Op → Choice}
    (hG : ∀ w op, G w op (env w op)) (S : Settings) (e : Event) (w : World) :
    e.Steps G S w (e.play env S w) := by
  cases e with
  | submit | pass | channel => exact ⟨_, runs_exec World.step hG _ w⟩

/-- Before anyone has submitted anything: tenants may have configured themselves. -/
structure Initial (w : World) : Prop where
  sound : w.Sound
  empty : ∀ t ∈ [Table.telegramUsers, .referralAccounts, .subscriptions, .vipMemberships,
    .tradingActivitySnapshots, .jobExecutions], w.db t = []
  silent : w.allSent = []

/-- A run of events, each meeting the condition `C` in the world it finds. -/
def Run (G : World → Op → Choice → Prop) (S : Settings) (C : World → Event → Prop) :
    World → World → Prop :=
  Relation.ReflTransGen fun w w' => ∃ e, C w e ∧ Event.Steps G S e w w'

theorem Run.play {G : World → Op → Choice → Prop} {S : Settings} {C : World → Event → Prop}
    {env : World → Op → Choice} {w₀ w : World} (h : Run G S C w₀ w)
    (hG : ∀ w op, G w op (env w op)) (e : Event) (hC : C w e) : Run G S C w₀ (e.play env S w) :=
  .tail h ⟨e, hC, e.steps_play hG S w⟩

/-- No condition. -/
def Always (_ : World) (_ : Event) : Prop := True

section Runs

variable {G : World → Op → Choice → Prop} {S : Settings} {C : World → Event → Prop}
  {w w' : World}

/-- What every event that meets the condition preserves, every run preserves. -/
theorem Run.invariant {I : World → Prop} (h : Run G S C w w') (h0 : I w)
    (hstep : ∀ w w' e, I w → C w e → e.Steps G S w w' → I w') : I w' := by
  induction h with
  | refl => exact h0
  | tail _ hlast ih =>
    obtain ⟨e, hc, he⟩ := hlast
    exact hstep _ _ e ih hc he

/-- The unique constraints hold after every event. -/
theorem Event.Steps.sound {e : Event} (h : e.Steps G S w w') (hw : w.Sound) : w'.Sound := by
  cases e with
  | submit | pass | channel =>
    obtain ⟨r, h⟩ := h
    exact wp_sound (wp_sound_world _ w) h hw

/-- Under a clock that never goes back, no event ends before it began. -/
theorem Event.Steps.clock_le {e : Event}
    (hG : ∀ w c, G w .utcnow c → w.clock ≤ (World.reading c).utc)
    (h : e.Steps G S w w') : w.clock ≤ w'.clock := by
  cases e with
  | submit | pass | channel =>
    obtain ⟨r, h⟩ := h
    exact wp_sound (wp_clock hG) h

end Runs

/-! ## What a pass leaves -/

/-- The calls of a step that raised. -/
def Trailing (G : World → Op → Choice → Prop) (policy : CompliancePolicy)
    (periodStart moment : DateTime) (w : World) (rest : List VIPMembership)
    (calls : List Sent) : Prop :=
  calls = [] ∨ ∃ a : Act, rest.head? = some a.membership ∧ a.Holds G policy moment w ∧
    calls <+: a.calls policy w.tenantId periodStart

/-- A pass over a tenant that claimed its period. -/
structure PassStart (G : World → Op → Choice → Prop) (S : Settings) (tenantId : TenantId)
    (now : Option DateTime) (w : World) (moment periodStart : DateTime)
    (ms : List VIPMembership) : Prop where
  moment_of : MomentOf G (w.opened tenantId) now moment
  period_of : periodStartFor moment S.period = .ok periodStart
  unclaimed : ∀ r ∈ w.db .jobExecutions,
    ¬ (r.tenantId = tenantId ∧ r.jobName = JOB_NAME ∧ r.periodStart.utc = periodStart.utc)
  listed : Listed (w.opened tenantId) ms

inductive PassEffect (G : World → Op → Choice → Prop) (S : Settings) (tenantId : TenantId)
    (now : Option DateTime) (w w' : World) : Prop
  /-- The period was someone else's, or nothing was got done. -/
  | quiet : w'.db = w.db → w'.allSent = w.allSent → PassEffect G S tenantId now w w'
  | committed {moment periodStart : DateTime} {ms : List VIPMembership} {acts : List Act}
      {w₂ : World} :
      PassStart G S tenantId now w moment periodStart ms →
      Passed G S.policy periodStart moment (w.opened tenantId) ms acts w₂ →
      (∀ t, t ≠ .jobExecutions → w'.db t = w₂.view t) →
      (w'.db .jobExecutions).map jobKey =
        (w.db .jobExecutions).map jobKey ++ [(tenantId, JOB_NAME, periodStart)] →
      w'.allSent = w.allSent ++ acts.flatMap (·.calls S.policy tenantId periodStart) →
      PassEffect G S tenantId now w w'
  /-- The transaction was lost, after the acts over `done` and perhaps part of another. -/
  | lost {moment periodStart : DateTime} {done rest : List VIPMembership} {acts : List Act}
      {w₂ : World} {calls : List Sent} :
      PassStart G S tenantId now w moment periodStart (done ++ rest) →
      Passed G S.policy periodStart moment (w.opened tenantId) done acts w₂ →
      Trailing G S.policy periodStart moment (w.opened tenantId) rest calls →
      w'.db = w.db →
      w'.allSent =
        w.allSent ++ (acts.flatMap (·.calls S.policy tenantId periodStart) ++ calls) →
      PassEffect G S tenantId now w w'

/-! ## What a submission leaves -/

inductive SubmitEffect (G : World → Op → Choice → Prop) (S : Settings) (tenantId : TenantId)
    (market : Market) (w w' : World) : Prop
  /-- No access was granted, or nothing became of it. -/
  | quiet : (∀ t, t ∉ PRELIMINARY → w'.db t = w.db t) → w'.allSent = w.allSent →
      SubmitEffect G S tenantId market w w'
  | granted {g : Grant} {w₁ : World} {calls : List Sent} :
      g.Holds G S.ttl S.providerType market (w.opened tenantId) w₁ calls → w'.db = w₁.view →
      w'.allSent = w.allSent ++ calls → w'.clock = g.moment.utc →
      SubmitEffect G S tenantId market w w'
  /-- A link was minted, and its record was lost. -/
  | lost {mint : Sent} : w'.db = w.db → w'.allSent = w.allSent ++ [mint] → mint.link ≠ none →
      (Lossy G ∨ ∃ w₁ : World, mint ∈ w₁.txSent ∧ w₁.conflict = none ∧ Failing G w₁) →
      SubmitEffect G S tenantId market w w'

/-! ## What a request for a channel leaves -/

inductive ChannelEffect (tenantId : TenantId) (payload : ChannelRequest) (w w' : World) : Prop
  | quiet : w'.db = w.db → w'.allSent = w.allSent → ChannelEffect tenantId payload w w'
  | upserted : (∀ t, t ≠ .telegramChannels → w'.db t = w.db t) →
      Admin.Kept (w.db .telegramChannels) (w'.db .telegramChannels) →
      Admin.Configured tenantId payload (w.db .telegramChannels) (w'.db .telegramChannels) →
      w'.allSent = w.allSent → ChannelEffect tenantId payload w w'

section Effects

variable {G : World → Op → Choice → Prop} {S : Settings} {tenantId : TenantId} {w w' : World}

/-- The calls of a transaction come after all that was sent before. -/
theorem allSent_of_ledger {l : Ledger} (h : w'.ledger = l) (hsent : l.sent = w.allSent) :
    w'.allSent = w.allSent ++ l.txSent := by
  subst h
  change w'.sent ++ w'.txSent = w.allSent ++ w'.txSent
  rw [← hsent]
  rfl

theorem Started.passStart {now : Option DateTime} {moment periodStart : DateTime} {w₁ : World}
    {ms : List VIPMembership} (hw : w.Sound)
    (h : Started G S.period now (w.opened tenantId) moment periodStart w₁ ms) :
    PassStart G S tenantId now w moment periodStart ms :=
  ⟨h.moment_of, h.period_of, h.claimed.unclaimed, h.listed, hw.opened tenantId⟩

/-- What a pass leaves, from how its transaction ended. -/
theorem passEffect_of_end {now : Option DateTime} (hw : w.Sound)
    (hend : TxEnd G (RunResult G S.period S.policy now (w.opened tenantId))
      (fun _ => RunError G S.period S.policy now (w.opened tenantId)) w') :
    PassEffect G S tenantId now w w' := by
  have hlost : ∀ l : Ledger, RunError G S.period S.policy now (w.opened tenantId) l →
      w'.ledger = l → PassEffect G S tenantId now w w' := by
    rintro l (rfl | ⟨moment, periodStart, w₁, ms, hstart, hsteps⟩) hl
    · refine .quiet (congrArg Ledger.db hl) ?_
      rw [allSent_of_ledger hl rfl]
      exact List.append_nil _
    · obtain ⟨done, rest, r, w₂, rfl, hdone, htrail⟩ := hsteps
      obtain ⟨acts, hacts⟩ := hdone.passed (.start hstart.claimed.same)
      have hpassed : Passed G S.policy periodStart moment (w.opened tenantId) done acts w₂ := hacts
      have hopen : w₂.ledger.sent = w.allSent ∧ w₂.ledger.db = w.db := by
        rw [hpassed.ledger]
        exact ⟨rfl, rfl⟩
      have htx : w₂.txSent = acts.flatMap (·.calls S.policy tenantId periodStart) :=
        congrArg Ledger.txSent hpassed.ledger
      rcases htrail with rfl | ⟨m, hm, more, rfl, hmore⟩
      · refine .lost (hstart.passStart hw) hpassed (.inl rfl)
          ((congrArg Ledger.db hl).trans hopen.2) ?_
        rw [allSent_of_ledger hl hopen.1, List.append_nil, ← htx]
        rfl
      · have htrail : Trailing G S.policy periodStart moment (w.opened tenantId) rest more := by
          rcases hmore with rfl | ⟨j, x, hj, hx, hpre⟩
          · exact .inl rfl
          · obtain ⟨account, hfacts, hj₀⟩ := hpassed.judged hj
            simp only [accountFacts, Prod.mk.injEq] at hfacts
            obtain ⟨subscription, -, hx₀⟩ := hpassed.carried hfacts.2.2.2.2.1 hx
            rw [hpassed.tenantId] at hpre
            exact .inr ⟨⟨m, { j with account }, { x with subscription }⟩, hm, ⟨hj₀, hx₀⟩, hpre⟩
        refine .lost (hstart.passStart hw) hpassed htrail ((congrArg Ledger.db hl).trans hopen.2) ?_
        rw [allSent_of_ledger hl hopen.1, ← htx]
        rfl
  cases hend with
  | failed e he => exact hlost _ he rfl
  | committed r w₃ hq _ hl _ =>
    cases hq with
    | standDown hsame hjobs =>
      have hview : w₃.view = w.db := by
        funext t
        by_cases ht : t = .jobExecutions
        · subst ht
          exact hjobs
        · exact hsame.view t ht
      have hsent := congrArg Ledger.sent hsame.ledger
      refine .quiet ((congrArg Ledger.db hl).trans hview) ?_
      rw [allSent_of_ledger hl hsent]
      have htx : w₃.txSent = [] := congrArg Ledger.txSent hsame.ledger
      exact (congrArg (w.allSent ++ ·) htx).trans (List.append_nil _)
    | @ran moment periodStart w₁ w₂ _ ms _ hstart hsteps hsame hkeys =>
      obtain ⟨acts, hacts⟩ := hsteps.passed (.start hstart.claimed.same)
      have hpassed : Passed G S.policy periodStart moment (w.opened tenantId) ms acts w₂ := hacts
      have hledger := hsame.ledger.trans hpassed.ledger
      have hdb : w'.db = w₃.view := congrArg Ledger.db hl
      refine .committed (hstart.passStart hw) hpassed (fun t ht => ?_) ?_ ?_
      · rw [hdb, hsame.view t ht]
      · obtain ⟨row, hkey, hrows⟩ := hstart.claimed.rows
        rw [hdb, hkeys, hsteps.jobs, hrows, List.map_append, List.map_singleton, hkey]
        rfl
      · rw [allSent_of_ledger hl (congrArg Ledger.sent hledger)]
        exact congrArg (w.allSent ++ ·) (congrArg Ledger.txSent hledger)
  | uncommitted r w₃ hq _ hl =>
    cases hq with
    | standDown hsame _ => exact hlost _ (.inl hsame.ledger) hl
    | @ran moment periodStart w₁ w₂ _ ms _ hstart hsteps hsame _ =>
      refine hlost _ (.inr ⟨moment, periodStart, w₁, ms, hstart, ?_⟩) (hl.trans hsame.ledger)
      exact ⟨ms, [], r, w₂, (List.append_nil ms).symm, hsteps, .inl rfl⟩

theorem meets_run_opened {now : Option DateTime} :
    Meets G (run S.period S.policy (w.opened tenantId).tenantId now)
      (RunResult G S.period S.policy now (w.opened tenantId))
      (fun _ => RunError G S.period S.policy now (w.opened tenantId)) (w.opened tenantId) :=
  meets_run rfl

theorem pass_effect {now : Option DateTime} (hw : w.Sound)
    (h : Event.Steps G S (.pass tenantId now) w w') : PassEffect G S tenantId now w w' := by
  obtain ⟨r, hruns⟩ := h
  exact passEffect_of_end hw (wp_sound (wp_transaction meets_run_opened) hruns)

/-- A pass that reads the clock is a pass at the instant it reads. -/
theorem pass_effect_at {now : Option DateTime}
    (hG : ∀ w c, G w .utcnow c → w.clock ≤ (World.reading c).utc) (hw : w.Sound)
    (h : Event.Steps G S (.pass tenantId now) w w') :
    ∃ moment n, MomentOf G (w.opened tenantId) now moment ∧ w.clock ≤ n ∧ n ≤ w'.clock ∧
      (now = none → n = moment.utc) ∧
      PassEffect G S tenantId (some moment) { w with clock := n } w' := by
  cases now with
  | some moment =>
    exact ⟨moment, w.clock, .inl rfl, Int.le_refl _, h.clock_le hG, nofun, pass_effect hw h⟩
  | none =>
    obtain ⟨r, x, w₁, ⟨c, -, hopen⟩, hr⟩ := h
    cases hopen
    obtain ⟨x, w₂, ⟨c', hc', hread⟩, hrest⟩ := hr
    cases hread
    have hle := hG _ c' hc'
    let v : World := { w with clock := (World.reading c').utc }
    have hruns : Runs (serial G)
        (closing (committed (run S.period S.policy tenantId (some (World.reading c')))))
        (v.opened tenantId) r w' := hrest
    -- The clock goes on from the reading, and the transaction ends as a pass at it does.
    have hboth : wp (serial G)
        (committed (run S.period S.policy tenantId (some (World.reading c'))))
        (fun _ w' => v.clock ≤ w'.clock ∧ TxEnd G
          (RunResult G S.period S.policy (some (World.reading c')) (v.opened tenantId))
          (fun _ => RunError G S.period S.policy (some (World.reading c')) (v.opened tenantId)) w')
        (v.opened tenantId) :=
      wp_and (wp_clock (w := v.opened tenantId) hG)
        (wp_commit meets_run_opened fun _ _ _ hP w' hw' => hP w' hw')
    obtain ⟨hclock, hend⟩ := wp_sound (wp_closing (fun _ h => ⟨h.1, h.2.close⟩) hboth) hruns
    exact ⟨World.reading c', v.clock, .inr ⟨rfl, c', hc', rfl⟩, hle, hclock, fun _ => rfl,
      passEffect_of_end ⟨hw.db, hw.view, hw.saved⟩ hend⟩

theorem submit_effect {telegramUserId : Int} {market : Market} {rawUid : String}
    {username firstName : Option String} (hw : w.Sound)
    (h : Event.Steps G S (.submit tenantId telegramUserId market rawUid username firstName) w w') :
    SubmitEffect G S tenantId market w w' := by
  obtain ⟨r, hruns⟩ := h
  have hsubmit : Meets G (ReferralOnboardingService.submitUid S.ttl S.providerType
      (w.opened tenantId).tenantId telegramUserId market rawUid username firstName)
      (SubmitResult G S.ttl S.providerType market (w.opened tenantId))
      (fun _ => SubmitError G (w.opened tenantId)) (w.opened tenantId) :=
    meets_submitUid (hw.opened tenantId) rfl
  have hend := wp_sound (wp_transaction hsubmit) hruns
  have hquiet : w'.ledger = (w.opened tenantId).ledger → SubmitEffect G S tenantId market w w' := by
    intro hl
    refine .quiet (fun t _ => congrFun (congrArg Ledger.db hl) t) ?_
    rw [allSent_of_ledger hl rfl]
    exact List.append_nil _
  cases hend with
  | failed e he =>
    rcases he with hl | ⟨_, channel, base, expireDate, link, hl, hcause⟩
    · exact hquiet hl
    · refine .lost (congrArg Ledger.db hl) (allSent_of_ledger hl rfl) nofun ?_
      rcases hcause with hlossy | ⟨w₁, hw₁, hconflict, hfail⟩
      · exact .inl hlossy
      · refine .inr ⟨w₁, ?_, hconflict, hfail⟩
        have htx := congrArg Ledger.txSent (hw₁.trans hl)
        change w₁.txSent = _ at htx
        rw [htx]
        exact List.mem_append_right _ (List.mem_singleton.mpr rfl)
  | committed result w₁ hq _ hl hclock =>
    have hdb : w'.db = w₁.view := congrArg Ledger.db hl
    cases hq with
    | quiet _ hsame =>
      refine .quiet (fun t ht => by rw [hdb]; exact hsame.view t ht) ?_
      rw [allSent_of_ledger hl (congrArg Ledger.sent hsame.ledger)]
      have htx : w₁.txSent = [] := congrArg Ledger.txSent hsame.ledger
      exact (congrArg (w.allSent ++ ·) htx).trans (List.append_nil _)
    | granted hg _ _ =>
      refine .granted hg hdb ?_ (hclock.trans hg.clock)
      rw [allSent_of_ledger hl (congrArg Ledger.sent hg.ledger)]
      exact congrArg (w.allSent ++ ·) (congrArg Ledger.txSent hg.ledger)
  | uncommitted result w₁ hq hfail hl =>
    cases hq with
    | quiet _ hsame => exact hquiet (hl.trans hsame.ledger)
    | @granted g _ calls hg _ _ =>
      have hl' := hl.trans hg.ledger
      have htx : w₁.txSent = calls := congrArg Ledger.txSent hg.ledger
      rcases hg.invite.cases with ⟨-, -, rfl⟩ | ⟨expireDate, -, -, -, -, rfl⟩
      · exact hquiet (hl'.trans (by rw [World.sending_nil]))
      · refine .lost (congrArg Ledger.db hl') (allSent_of_ledger hl' rfl) nofun
          (.inr ⟨w₁, ?_, hg.conflict, hfail⟩)
        rw [htx]
        exact List.mem_singleton.mpr rfl

theorem channel_effect {payload : ChannelRequest} (hw : w.Sound)
    (h : Event.Steps G S (.channel tenantId payload) w w') :
    ChannelEffect tenantId payload w w' := by
  obtain ⟨r, hruns⟩ := h
  have hupsert : Meets G (Admin.upsertChannel (w.opened tenantId).tenantId payload) _ _
      (w.opened tenantId) := Admin.meets_upsertChannel (hw.opened tenantId)
  have hend := wp_sound (wp_requestTx hupsert) hruns
  have hsent : ∀ l : Ledger, w'.ledger = l → l.sent = w.allSent → l.txSent = [] →
      w'.allSent = w.allSent := by
    intro l hl hsent htx
    rw [allSent_of_ledger hl hsent, htx, List.append_nil]
  cases hend with
  | failed e he => exact .quiet (congrArg Ledger.db he) (hsent _ he rfl rfl)
  | committed c w₁ hq _ hl _ =>
    obtain ⟨hq, -⟩ := hq
    have hdb : w'.db = w₁.view := congrArg Ledger.db hl
    have hopen := hq.same.ledger
    refine .upserted (fun t ht => ?_) ?_ ?_
      (hsent _ hl (congrArg Ledger.sent hopen) (congrArg Ledger.txSent hopen))
    · rw [hdb]
      exact hq.same.view t (by simpa using ht)
    · rw [hdb]
      exact hq.kept
    · rw [hdb]
      exact hq.configured
  | uncommitted c w₁ hq _ hl =>
    have hl' := hl.trans hq.1.same.ledger
    exact .quiet (congrArg Ledger.db hl') (hsent _ hl' rfl rfl)

end Effects

/-! ## A tenant that has set itself up -/

def cryptoChannel : TelegramChannel where
  id := 1
  tenantId := 1
  market := .crypto
  chatId := -1001

def forexChannel : TelegramChannel where
  id := 2
  tenantId := 1
  market := .forex
  chatId := -1002

def configOf (market : Market) : ReferralProgramConfig where
  tenantId := 1
  providerType := .bitunix
  market := market
  referralLink := "https://www.bitunix.com/register?vipCode=VIP"

/-- Two markets, each with a program and a channel. -/
def configuredDb : Database
  | .telegramChannels => [cryptoChannel, forexChannel]
  | .referralProgramConfigs => [configOf .crypto, configOf .forex]
  | .telegramUsers => []
  | .referralAccounts => []
  | .subscriptions => []
  | .vipMemberships => []
  | .tradingActivitySnapshots => []
  | .jobExecutions => []
  | .providerCredentials => []
  | .telegramBotConfigs => []
  | .paymentRecords => []
  | .webhookRoutes => []

def configuredWorld : World where
  db := configuredDb
  registry := [{ id := 1 }]
  tenantId := 1
  view := configuredDb
  conflict := none
  saved := configuredDb
  sent := []
  txSent := []
  asked := []
  clock := 0

theorem initial_configuredWorld : Initial configuredWorld := by
  have hd : Distinct configuredDb := by
    intro t
    cases t <;> decide
  refine ⟨⟨hd, hd, hd⟩, ?_, rfl⟩
  decide

/-- One day, an exchange and Telegram that answer, and nothing that fails. -/
def calmEnv (day : Fin 2932896) (answers : String → Option ReferralCheck) (w : World) :
    Op → Choice
  | .utcnow => { now := .day day }
  | .uuid4 => {
    id := (w.view .telegramUsers).length + (w.view .referralAccounts).length +
      (w.view .subscriptions).length + (w.view .vipMemberships).length }
  | .validateUser uid =>
    match answers uid with
    | some check => { check }
    | none => { fault := some ⟨.providerUnavailableError, "Bitunix did not answer in time"⟩ }
  | .telegram .. => { link := "https://t.me/+" ++ toString w.allSent.length }
  | _ => {}

/-- An environment that admits everything. -/
def Anything (_ : World) (_ : Op) (_ : Choice) : Prop := True

/-- The environment that chooses as `env` says. -/
def Only (env : World → Op → Choice) (w : World) (op : Op) (c : Choice) : Prop := c = env w op

theorem runs_only (env : World → Op → Choice) {α : Type} (p : App α) (w : World) :
    Runs (serial (Only env)) p w (exec World.step env p w).1 (exec World.step env p w).2 :=
  runs_exec World.step (G := Only env) (fun _ _ => rfl) p w

/-- In an environment a program has one run. -/
theorem runs_only_eq {env : World → Op → Choice} {α : Type} {p : App α} {w w' : World}
    {r : Except PyError α} (h : Runs (serial (Only env)) p w r w') :
    r = (exec World.step env p w).1 ∧ w' = (exec World.step env p w).2 := by
  induction p generalizing w with
  | pure a => exact h
  | throw e => exact h
  | call op k ih =>
    obtain ⟨x, w₁, ⟨c, rfl, hstep⟩, hrest⟩ := h
    have hexec : exec World.step env (.call op k) w =
        exec World.step env (k (World.step w op (env w op)).1) (World.step w op (env w op)).2 := rfl
    rw [hexec, hstep]
    exact ih x hrest

/-- A run in an environment is one in an environment that allows anything. -/
theorem runs_anything {G : World → Op → Choice → Prop} {α : Type} {p : App α}
    {r : Except PyError α} {w w' : World} (h : Runs (serial G) p w r w') :
    Runs (serial Anything) p w r w' := by
  induction p generalizing w with
  | pure a => exact h
  | throw e => exact h
  | call op k ih =>
    obtain ⟨x, w₁, ⟨c, -, hstep⟩, hrest⟩ := h
    exact ⟨x, w₁, ⟨c, trivial, hstep⟩, ih x hrest⟩

theorem Event.steps_only (env : World → Op → Choice) (S : Settings) (e : Event) (w : World) :
    e.Steps (Only env) S w (e.play env S w) := by
  have hG : ∀ w op, Only env w op (env w op) := fun _ _ => rfl
  exact e.steps_play hG S w

/-- An account in good standing. -/
def fundedCheck (uid : String) : ReferralCheck where
  uid := uid
  registered := true
  depositTotal := .ofInt 500
  qualifyingTrades := some 3

/-- An account that is not under the referral. -/
def strangerCheck (uid : String) : ReferralCheck where
  uid := uid
  registered := false

def defaultSettings : Settings where
  ttl := ⟨MICROS_PER_DAY, by decide⟩
  providerType := .bitunix
  period := Scheduler.DEFAULT_COMPLIANCE_PERIOD
  policy := {}

end VipChannel

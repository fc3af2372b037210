/-
  VipChannel.Runs.Activities

  All that the service does, with every submission in full.

  `Operation` puts a submission into the update that brings it, and `RowsEffect` keeps of it
  what memberships and subscriptions show.  An `ActivityEffect` keeps the submission itself,
  so that whoever reasons about accounts and verdicts can start from it.  A chronicle is any
  sequence of activities, each in an environment of its own that meets a condition.
-/
import VipChannel.Runs.Choices

namespace VipChannel

open Lib MembershipMonitor

/-- An operation of a tenant, or a submission that no update brings. -/
inductive Activity where
  | operation (tenantId : TenantId) (op : Operation)
  | submission (tenantId : TenantId) (providerType : ProviderType) (s : Submission)

/-- The activity can take the world from `w` to `w'`. -/
def Activity.Steps (G : World → Op → Choice → Prop) (key : EncryptionKey) (S : Settings) :
    Activity → World → World → Prop
  | operation tenantId op, w, w' =>
    op ≠ .sweep ∧ ∃ r, Runs (serial G) (op.program key S tenantId) w r w'
  | submission tenantId providerType s, w, w' =>
    ∃ r, Runs (serial G) (submitTx S.ttl providerType tenantId s.telegramUserId s.market s.rawUid
      s.username s.firstName) w r w'

/-- The activity is, or may come to, this submission. -/
def Activity.Submits (w : World) (tenantId : TenantId) (providerType : ProviderType)
    (s : Submission) : Activity → Prop
  | operation _ (.update token incoming) => ∃ update market uid w₁,
      Addressed token incoming w tenantId update ∧
      Runs (serial Anything) (BotConversation.plan .bitunix tenantId update) (w.opened tenantId)
        (.ok (.submit market uid)) w₁ ∧
      providerType = .bitunix ∧ s = update.submission market uid
  | operation _ _ => False
  | submission tenantId' providerType' s' =>
    tenantId = tenantId' ∧ providerType = providerType' ∧ s = s'

/-- What an activity leaves of accounts, subscriptions and memberships. -/
inductive ActivityEffect (G : World → Op → Choice → Prop) (S : Settings) (a : Activity)
    (w w' : World) : Prop
  | kept : (∀ t ∈ [Table.referralAccounts, .subscriptions, .vipMemberships], w'.db t = w.db t) →
      ActivityEffect G S a w w'
  | submitted {tenantId : TenantId} {providerType : ProviderType} {s : Submission}
      {r : OnboardingResult} {w₁ : World} : a.Submits w tenantId providerType s →
      Submitted G S.ttl providerType s (w.opened tenantId) r w₁ → w'.db = w₁.view →
      ActivityEffect G S a w w'
  | passed {tenantId : TenantId} {now : Option DateTime} :
      a = .operation tenantId (.monitor now) → Event.Steps G S (.pass tenantId now) w w' →
      ActivityEffect G S a w w'

section Effect

variable {G : World → Op → Choice → Prop} {key : EncryptionKey} {S : Settings} {w w' : World}

/-- Nothing is committed by the submission itself. -/
theorem Submitted.db {ttl : TimeDelta} {providerType : ProviderType} {s : Submission}
    {r : OnboardingResult} (h : Submitted G ttl providerType s w r w') : w'.db = w.db := by
  obtain ⟨hresult, -⟩ := h.result
  cases hresult with
  | quiet _ hsame => exact congrArg Ledger.db hsame.ledger
  | granted hg _ _ => exact congrArg Ledger.db hg.ledger

theorem SubmitError.db {l : Ledger} (h : SubmitError G w l) : l.db = w.db := by
  rcases h with rfl | ⟨_, _, _, _, _, rfl, -⟩
  · rfl
  · rfl

theorem submission_effect {tenantId : TenantId} {providerType : ProviderType} {s : Submission}
    {x : Except PyError (Option OnboardingResult)} (hw : w.Sound)
    (h : Runs (serial G) (submitTx S.ttl providerType tenantId s.telegramUserId s.market s.rawUid
      s.username s.firstName) w x w') :
    ActivityEffect G S (.submission tenantId providerType s) w w' := by
  have hsubmit : Meets G (ReferralOnboardingService.submitUid S.ttl providerType
      (w.opened tenantId).tenantId s.telegramUserId s.market s.rawUid s.username s.firstName)
      (Submitted G S.ttl providerType s (w.opened tenantId))
      (fun _ => SubmitError G (w.opened tenantId)) (w.opened tenantId) :=
    meets_submitted s (hw.opened tenantId) rfl
  cases wp_sound (wp_transaction hsubmit) h with
  | failed e he => exact .kept fun t _ => congrFun he.db t
  | committed result w₁ hq _ hl _ => exact .submitted ⟨rfl, rfl, rfl⟩ hq (congrArg Ledger.db hl)
  | uncommitted result w₁ hq _ hl =>
    exact .kept fun t _ => congrFun ((congrArg Ledger.db hl).trans hq.db) t

/-- What handling an update leaves. -/
inductive UpdateEffect (G : World → Op → Choice → Prop) (ttl : TimeDelta) (token : String)
    (update : Option IncomingUpdate) (w w' : World) : Prop
  | kept : w'.db = w.db → UpdateEffect G ttl token update w w'
  | offered {tenantId : TenantId} {incoming : IncomingUpdate} {market : Market} {w₁ : World} :
      Offered incoming market (w.opened tenantId) w₁ → w'.db = w₁.view →
      UpdateEffect G ttl token update w w'
  | submitted {tenantId : TenantId} {incoming : IncomingUpdate} {market : Market} {uid : String}
      {r : OnboardingResult} {w₁ w₂ : World} : Addressed token update w tenantId incoming →
      Runs (serial G) (BotConversation.plan .bitunix tenantId incoming) (w.opened tenantId)
        (.ok (.submit market uid)) w₁ →
      Submitted G ttl .bitunix (incoming.submission market uid) (w.opened tenantId) r w₂ →
      w'.db = w₂.view → UpdateEffect G ttl token update w w'

theorem update_effect {token : String} {update : Option IncomingUpdate}
    {r : Except PyError Unit} (hw : w.Sound)
    (h : Runs (serial G) (TelegramWebhook.receiveUpdate key S.ttl token update) w r w') :
    UpdateEffect G S.ttl token update w w' := by
  obtain ⟨turn, hstep⟩ := update_step hw h
  cases hstep with
  | idle hdb => exact .kept hdb
  | @committed turn replies w₁ w₂ haddressed hplan hcarry hdb =>
    have hopen := hw.opened turn.tenantId
    have hmeets : Meets G (BotConversation.plan .bitunix (w.opened turn.tenantId).tenantId
        turn.incoming) _ _ (w.opened turn.tenantId) := BotConversation.meets_plan hopen
    obtain ⟨heq, -⟩ := wp_sound hmeets hplan
    subst heq
    obtain ⟨tenantId, incoming, plan⟩ := turn
    cases plan with
    | answer replies =>
      obtain ⟨-, rfl⟩ := hcarry
      exact .kept hdb
    | offer market config =>
      have hoffer : Meets G (BotConversation.carryOut S.ttl .bitunix (w.opened tenantId).tenantId
          incoming (.offer market config)) _ _ (w.opened tenantId) :=
        BotConversation.meets_offer hopen
      exact .offered (wp_sound hoffer hcarry) hdb
    | submit market uid =>
      have hsubmit : Meets G (BotConversation.submit S.ttl .bitunix (w.opened tenantId).tenantId
          incoming market uid) _ _ (w.opened tenantId) :=
        BotConversation.meets_submit_submitted hopen rfl
      obtain ⟨result, hsubmitted⟩ := wp_sound hsubmit hcarry
      exact .submitted haddressed hplan hsubmitted hdb

/-- Every activity of the service has an effect of one of the three kinds. -/
theorem Activity.effect {a : Activity} (hw : w.Sound) (h : a.Steps G key S w w') :
    ActivityEffect G S a w w' := by
  cases a with
  | submission tenantId providerType s =>
    obtain ⟨r, hruns⟩ := h
    exact submission_effect hw hruns
  | operation A op =>
    obtain ⟨hsweep, r, hruns⟩ := h
    have hconfigures : op.configures = true → ActivityEffect G S (.operation A op) w w' := by
      intro hop
      refine .kept fun t ht => Operation.configures_kept hop hruns ?_
      simp only [List.mem_cons, List.not_mem_nil, or_false] at ht
      rcases ht with rfl | rfl | rfl <;> decide
    cases op with
    | update token incoming =>
      obtain ⟨x, hupdate⟩ := runs_named hruns
      cases update_effect hw hupdate with
      | kept hdb => exact .kept fun t _ => congrFun hdb t
      | offered hoffered hdb =>
        refine .kept fun t ht => (congrFun hdb t).trans (hoffered.same.view t ?_)
        simp only [List.mem_cons, List.not_mem_nil, or_false] at ht
        rcases ht with rfl | rfl | rfl <;> decide
      | submitted haddressed hplan hsubmitted hdb =>
        exact .submitted ⟨_, _, _, _, haddressed, runs_anything hplan, rfl, rfl⟩ hsubmitted hdb
    | upsertChannel payload =>
      have hstep : Event.Steps G S (.channel A payload) w w' := runs_named hruns
      cases channel_effect hw hstep with
      | quiet hdb _ => exact .kept fun t _ => congrFun hdb t
      | upserted hdb _ _ _ =>
        refine .kept fun t ht => hdb t ?_
        simp only [List.mem_cons, List.not_mem_nil, or_false] at ht
        rcases ht with rfl | rfl | rfl <;> decide
    | monitor now =>
      have hstep : Event.Steps G S (.pass A now) w w' := runs_named hruns
      exact .passed rfl hstep
    | upsertCredential | listCredentials | upsertReferralConfig | listChannels | upsertBot
    | checkIntegration | ingestPayment => exact hconfigures rfl
    | sweep => exact absurd rfl hsweep

/-- The unique constraints hold after every activity. -/
theorem Activity.Steps.sound {a : Activity} (h : a.Steps G key S w w') (hw : w.Sound) :
    w'.Sound := by
  cases a with
  | submission tenantId providerType s =>
    obtain ⟨r, hruns⟩ := h
    exact wp_sound (wp_sound_world _ _) hruns hw
  | operation A op =>
    obtain ⟨-, r, hruns⟩ := h
    exact wp_sound (wp_sound_world _ _) hruns hw

/-- The users of `d` are users of `d'`. -/
def KeepsUsers (d d' : Database) : Prop :=
  ∀ u ∈ d .telegramUsers, ∃ u' ∈ d' .telegramUsers, u'.id = u.id ∧ u'.tenantId = u.tenantId ∧
    u'.telegramUserId = u.telegramUserId

theorem KeepsUsers.of_eq {d d' : Database} (h : d' .telegramUsers = d .telegramUsers) :
    KeepsUsers d d' := by
  intro u hu
  exact ⟨u, h ▸ hu, rfl, rfl, rfl⟩

theorem UserSaved.keeps {d d' : Database} {user : TelegramUser} {prior : Option TelegramUser}
    (h : UserSaved (d .telegramUsers) user prior (d' .telegramUsers)) (hd : Distinct d) :
    KeepsUsers d d' := by
  intro u hu
  by_cases hid : u.id = user.id
  · obtain ⟨ht, hid'⟩ := (h.replaces_iff hd hu).mp hid
    exact ⟨user, h.upsert.mem_iff.mpr (.inl rfl), hid.symm, ht.symm, hid'.symm⟩
  · exact ⟨u, h.upsert.mem_iff.mpr (.inr ⟨hu, hid⟩), rfl, rfl, rfl⟩

theorem Submitted.keepsUsers {ttl : TimeDelta} {providerType : ProviderType} {s : Submission}
    {r : OnboardingResult} (hw : w.Sound) (h : Submitted G ttl providerType s w r w') :
    KeepsUsers w.view w'.view := by
  rcases h.users with husers | ⟨user, prior, w₁, hident, husers⟩
  · exact .of_eq husers
  · obtain ⟨hsaved, -⟩ := hident.saved
    rw [← husers] at hsaved
    exact hsaved.keeps hw.view

/-- Nobody who was registered is forgotten. -/
theorem Activity.Steps.keepsUsers {a : Activity} (h : a.Steps G key S w w') (hw : w.Sound) :
    KeepsUsers w.db w'.db := by
  have hsubmission : ∀ {tenantId providerType s r w₁},
      Submitted G S.ttl providerType s (w.opened tenantId) r w₁ → w'.db = w₁.view →
      KeepsUsers w.db w'.db := by
    intro tenantId providerType s r w₁ hsubmitted hdb
    rw [hdb]
    exact hsubmitted.keepsUsers (hw.opened tenantId)
  cases a with
  | submission tenantId providerType s =>
    obtain ⟨r, hruns⟩ := h
    have hsubmit : Meets G (ReferralOnboardingService.submitUid S.ttl providerType
        (w.opened tenantId).tenantId s.telegramUserId s.market s.rawUid s.username s.firstName)
        (Submitted G S.ttl providerType s (w.opened tenantId))
        (fun _ => SubmitError G (w.opened tenantId)) (w.opened tenantId) :=
      meets_submitted s (hw.opened tenantId) rfl
    cases wp_sound (wp_transaction hsubmit) hruns with
    | failed e he => exact .of_eq (congrFun he.db _)
    | committed result w₁ hq _ hl _ => exact hsubmission hq (congrArg Ledger.db hl)
    | uncommitted result w₁ hq _ hl =>
      exact .of_eq (congrFun ((congrArg Ledger.db hl).trans hq.db) _)
  | operation A op =>
    obtain ⟨hsweep, r, hruns⟩ := h
    by_cases hupdate : ∃ token incoming, op = .update token incoming
    swap
    · have hnot : ∀ token incoming, op ≠ .update token incoming :=
        fun token incoming heq => hupdate ⟨token, incoming, heq⟩
      exact .of_eq (Operation.users_kept hw hnot hsweep hruns)
    obtain ⟨token, incoming, rfl⟩ := hupdate
    obtain ⟨x, hrun⟩ := runs_named hruns
    cases update_effect hw hrun with
    | kept hdb => exact .of_eq (congrFun hdb _)
    | offered hoffered hdb =>
      obtain ⟨user, prior, hsaved, -⟩ := hoffered.saved
      rw [← hdb] at hsaved
      exact hsaved.keeps hw.db
    | submitted _ _ hsubmitted hdb => exact hsubmission hsubmitted hdb

/-- Memberships and subscriptions are those of a pass or a grant, if others than before. -/
theorem Activity.Steps.rows {a : Activity} (h : a.Steps G key S w w') (hw : w.Sound) :
    ∃ tenantId, RowsEffect G S.policy tenantId w w' := by
  cases a with
  | submission tenantId providerType s =>
    have hstep : Event.Steps G { S with providerType } (.submit tenantId s.telegramUserId s.market
        s.rawUid s.username s.firstName) w w' := h
    exact ⟨tenantId, (submit_effect hw hstep).rows⟩
  | operation A op =>
    obtain ⟨hsweep, r, hruns⟩ := h
    exact Operation.effect hw hsweep hruns

end Effect

/-! ## Chronicles -/

/-- Activities one after the other, each in an environment that meets the condition. -/
def Chronicle (C : (World → Op → Choice → Prop) → World → Activity → Prop) (key : EncryptionKey)
    (S : Settings) : World → World → Prop :=
  Relation.ReflTransGen fun w w' => ∃ G a, C G w a ∧ Activity.Steps G key S a w w'

/-- No condition. -/
def Whatever (_ : World → Op → Choice → Prop) (_ : World) (_ : Activity) : Prop := True

section Chronicles

variable {C : (World → Op → Choice → Prop) → World → Activity → Prop} {key : EncryptionKey}
  {S : Settings} {w₀ w : World}

/-- What every activity that meets the condition keeps, a chronicle keeps. -/
theorem Chronicle.invariant {I : World → Prop} (h : Chronicle C key S w₀ w) (hsound : w₀.Sound)
    (h0 : I w₀) (hstep : ∀ G a w w', w.Sound → I w → C G w a → Activity.Steps G key S a w w' →
      I w') : w.Sound ∧ I w := by
  induction h with
  | refl => exact ⟨hsound, h0⟩
  | tail _ hlast ih =>
    obtain ⟨hw, hi⟩ := ih
    obtain ⟨G, a, hc, ha⟩ := hlast
    exact ⟨ha.sound hw, hstep G a _ _ hw hi hc ha⟩

/-- A user has one subscription of a market, and a membership names that of its market. -/
theorem Chronicle.entitled {A : TenantId} (h : Chronicle C key S w₀ w) (hsound : w₀.Sound)
    (hms : ∀ m ∈ w₀.db .vipMemberships, m.tenantId ≠ A)
    (hsubs : ∀ s ∈ w₀.db .subscriptions, s.tenantId ≠ A) : w.Sound ∧ EntitledIn A w.db := by
  refine h.invariant (I := fun w => EntitledIn A w.db) hsound (.start hms hsubs) ?_
  intro G a w w' hw hent _ ha
  obtain ⟨tenantId, heff⟩ := ha.rows hw
  exact hent.effect hw heff

/-- An event, as an activity. -/
def Event.activity (S : Settings) : Event → Activity
  | submit tenantId telegramUserId market rawUid username firstName =>
    .submission tenantId S.providerType { telegramUserId, market, rawUid, username, firstName }
  | pass tenantId now => .operation tenantId (.monitor now)
  | channel tenantId payload => .operation tenantId (.upsertChannel payload)

theorem Event.Steps.activity {G : World → Op → Choice → Prop} {e : Event} {w' : World}
    (h : e.Steps G S w w') : (e.activity S).Steps G key S w w' := by
  -- A program that names what another returns runs as that does.
  have hnamed : ∀ {α : Type} {body : App α} (f : α → Response), (∃ r, Runs (serial G) body w r w') →
      ∃ r, Runs (serial G) (body >>= fun a => pure (f a)) w r w' := by
    rintro α body f ⟨r, hruns⟩
    cases r with
    | ok a => exact ⟨.ok (f a), hruns.bind ⟨rfl, rfl⟩⟩
    | error e => exact ⟨.error e, hruns.bind ⟨rfl, rfl⟩⟩
  cases e with
  | submit => exact h
  | pass => exact ⟨fun heq => (by cases heq), hnamed _ h⟩
  | channel => exact ⟨fun heq => (by cases heq), hnamed _ h⟩

/-- A chronicle goes on with what an environment that computes comes to. -/
theorem Chronicle.play {G : World → Op → Choice → Prop} {env : World → Op → Choice}
    (h : Chronicle C key S w₀ w) (hG : ∀ w op, G w op (env w op)) (e : Event)
    (hC : C G w (e.activity S)) : Chronicle C key S w₀ (e.play env S w) :=
  .tail h ⟨G, e.activity S, hC, (e.steps_play hG S w).activity⟩

end Chronicles

end VipChannel

/-
  VipChannel.Runs.Entitlements

  What memberships, subscriptions and channels have to do with each other, in every
  state the service reaches: a membership has its channel, and its subscription is its
  user's one subscription of that channel's market.
-/
import VipChannel.Runs.Events

namespace VipChannel

open Lib MembershipMonitor

/-- The channel of `m` and its subscription. -/
structure EntitledBy (d : Database) (m : VIPMembership) (c : TelegramChannel)
    (s : Subscription) : Prop where
  channel_mem : c ∈ d .telegramChannels
  channel_id : c.id = m.channelId
  channel_tenant : c.tenantId = m.tenantId
  subscription_mem : s ∈ d .subscriptions
  subscription_id : m.subscriptionId = some s.id
  subscription_owner : s.tenantId = m.tenantId ∧ s.userId = m.userId
  market : s.market = c.market

structure Entitled (d : Database) : Prop where
  memberships : ∀ m ∈ d .vipMemberships, ∃ c s, EntitledBy d m c s
  /-- A user has one subscription of a market. -/
  one : ∀ s ∈ d .subscriptions, ∀ s' ∈ d .subscriptions,
    s.tenantId = s'.tenantId → s.userId = s'.userId → s.market = s'.market → s = s'

/-- The same of the rows of one tenant. -/
structure EntitledIn (A : TenantId) (d : Database) : Prop where
  memberships : ∀ m ∈ d .vipMemberships, m.tenantId = A → ∃ c s, EntitledBy d m c s
  one : ∀ s ∈ d .subscriptions, ∀ s' ∈ d .subscriptions, s.tenantId = A →
    s.tenantId = s'.tenantId → s.userId = s'.userId → s.market = s'.market → s = s'

theorem entitled_iff {d : Database} : Entitled d ↔ ∀ A, EntitledIn A d := by
  constructor
  · intro h A
    exact ⟨fun m hm _ => h.memberships m hm, fun s hs s' hs' _ => h.one s hs s' hs'⟩
  · intro h
    exact ⟨fun m hm => (h m.tenantId).memberships m hm rfl,
      fun s hs s' hs' => (h s.tenantId).one s hs s' hs' rfl⟩

/-- Rows are there again, with the columns that entitlements depend on. -/
structure Carries (d d' : Database) : Prop where
  channels : Admin.Kept (d .telegramChannels) (d' .telegramChannels)
  subscriptions : ∀ s ∈ d .subscriptions, ∃ s' ∈ d' .subscriptions,
    subscriptionFacts s' = subscriptionFacts s

/-- What a membership row tells about its entitlement. -/
def membershipFacts (m : VIPMembership) : RowId × TenantId × RowId × RowId × Option RowId :=
  (m.id, m.tenantId, m.userId, m.channelId, m.subscriptionId)

theorem EntitledBy.carry {d d' : Database} {m m' : VIPMembership} {c : TelegramChannel}
    {s : Subscription} (h : EntitledBy d m c s) (hd : Carries d d')
    (hm : membershipFacts m' = membershipFacts m) : ∃ c s, EntitledBy d' m' c s := by
  obtain ⟨c', hc', hkey⟩ := hd.channels c h.channel_mem
  obtain ⟨s', hs', hfacts⟩ := hd.subscriptions s h.subscription_mem
  simp only [Admin.channelKey, subscriptionFacts, membershipFacts, Prod.mk.injEq] at hkey hfacts hm
  refine ⟨c', s', hc', ?_, ?_, hs', ?_, ⟨?_, ?_⟩, ?_⟩
  · rw [hkey.1, hm.2.2.2.1, h.channel_id]
  · rw [hkey.2.1, hm.2.1, h.channel_tenant]
  · rw [hfacts.1, hm.2.2.2.2, h.subscription_id]
  · rw [hfacts.2.1, hm.2.1, h.subscription_owner.1]
  · rw [hfacts.2.2.1, hm.2.2.1, h.subscription_owner.2]
  · rw [hfacts.2.2.2, hkey.2.2, h.market]

theorem Carries.of_eq {d d' : Database} (hc : d' .telegramChannels = d .telegramChannels)
    (hs : d' .subscriptions = d .subscriptions) : Carries d d' :=
  ⟨fun c h => ⟨c, hc ▸ h, rfl⟩, fun s h => ⟨s, hs ▸ h, rfl⟩⟩

/-! ## What a transaction leaves of these rows -/

/-- Whatever a transaction of a tenant is for: memberships and subscriptions stay as they
    are, or a pass or a grant has written on them. -/
inductive RowsEffect (G : World → Op → Choice → Prop) (policy : CompliancePolicy)
    (tenantId : TenantId) (w w' : World) : Prop
  | kept : w'.db .vipMemberships = w.db .vipMemberships →
      w'.db .subscriptions = w.db .subscriptions →
      Admin.Kept (w.db .telegramChannels) (w'.db .telegramChannels) →
      RowsEffect G policy tenantId w w'
  | passed {moment periodStart : DateTime} {ms : List VIPMembership} {acts : List Act}
      {w₂ : World} : Listed (w.opened tenantId) ms →
      Passed G policy periodStart moment (w.opened tenantId) ms acts w₂ →
      (∀ t, t ≠ .jobExecutions → w'.db t = w₂.view t) → RowsEffect G policy tenantId w w'
  | granted {ttl : TimeDelta} {providerType : ProviderType} {market : Market} {g : Grant}
      {w₁ : World} {calls : List Sent} :
      g.Holds G ttl providerType market (w.opened tenantId) w₁ calls → w'.db = w₁.view →
      RowsEffect G policy tenantId w w'

section Effects

variable {G : World → Op → Choice → Prop} {S : Settings} {policy : CompliancePolicy}
  {tenantId : TenantId} {w w' : World}

theorem RowsEffect.of_tables (h : ∀ t ∈ [Table.vipMemberships, .subscriptions, .telegramChannels],
    w'.db t = w.db t) : RowsEffect G policy tenantId w w' := by
  refine .kept (h _ (by decide)) (h _ (by decide)) fun c hc => ⟨c, ?_, rfl⟩
  rw [h _ (by decide)]
  exact hc

theorem PassEffect.rows {now : Option DateTime} (h : PassEffect G S tenantId now w w') :
    RowsEffect G S.policy tenantId w w' := by
  cases h with
  | quiet hdb _ | lost _ _ _ hdb _ => exact .of_tables fun t _ => by rw [hdb]
  | committed hstart hpassed hdb _ _ => exact .passed hstart.listed hpassed hdb

theorem SubmitEffect.rows {market : Market} (h : SubmitEffect G S tenantId market w w') :
    RowsEffect G policy tenantId w w' := by
  cases h with
  | quiet hdb _ =>
    refine .of_tables fun t ht => hdb t fun hpre => ?_
    simp only [List.mem_cons, List.not_mem_nil, or_false] at ht
    rcases ht with rfl | rfl | rfl <;> exact absurd hpre (by decide)
  | lost hdb _ _ _ => exact .of_tables fun t _ => by rw [hdb]
  | granted hg hdb _ _ => exact .granted hg hdb

theorem ChannelEffect.rows {payload : ChannelRequest} (h : ChannelEffect tenantId payload w w') :
    RowsEffect G policy tenantId w w' := by
  cases h with
  | quiet hdb _ => exact .of_tables fun t _ => by rw [hdb]
  | upserted hdb hkept _ _ => exact .kept (hdb _ (by decide)) (hdb _ (by decide)) hkept

theorem Event.Steps.rows {e : Event} (hw : w.Sound) (h : e.Steps G S w w') :
    ∃ tenantId, RowsEffect G S.policy tenantId w w' := by
  cases e with
  | submit tenantId => exact ⟨tenantId, (submit_effect hw h).rows⟩
  | pass tenantId => exact ⟨tenantId, (pass_effect hw h).rows⟩
  | channel tenantId => exact ⟨tenantId, (channel_effect hw h).rows⟩

end Effects

/-! ## Every transaction keeps them -/

section Events

variable {G : World → Op → Choice → Prop} {S : Settings} {policy : CompliancePolicy}
  {tenantId A : TenantId} {w w' : World}

theorem applied_facts (d : ComplianceDecision) (moment : DateTime) (m : VIPMembership) :
    membershipFacts (m.applied d moment) = membershipFacts m := by
  unfold VIPMembership.applied
  cases d.action <;> rfl

/-- Memberships that kept their facts are entitled by what carries over. -/
theorem EntitledIn.carry {d d' : Database} (h : EntitledIn A d) (hd : Carries d d')
    {m m' : VIPMembership} (hm : m ∈ d .vipMemberships)
    (hfacts : membershipFacts m' = membershipFacts m) (ht : m'.tenantId = A) :
    ∃ c s, EntitledBy d' m' c s := by
  have htm := hfacts
  simp only [membershipFacts, Prod.mk.injEq] at htm
  obtain ⟨c, s, hent⟩ := h.memberships m hm (htm.2.1.symm.trans ht)
  exact hent.carry hd hfacts

theorem EntitledIn.passed {moment periodStart : DateTime} {ms : List VIPMembership}
    {acts : List Act} {w₂ : World} (h : EntitledIn A w.db)
    (hlisted : Listed (w.opened tenantId) ms)
    (hpassed : Passed G policy periodStart moment (w.opened tenantId) ms acts w₂)
    (hdb : ∀ t, t ≠ .jobExecutions → w'.db t = w₂.view t) : EntitledIn A w'.db := by
  have hrows := hdb .vipMemberships (by decide)
  have hsubs := (hdb .subscriptions (by decide)).trans hpassed.subscription_rows
  have hchannels : w'.db .telegramChannels = w.db .telegramChannels :=
    (hdb _ (by decide)).trans (hpassed.other _ (by decide))
  have hkept : ∀ r : Subscription, subscriptionFacts
      (if acts.any (·.expires (w.opened tenantId) r) then r.expired moment else r) =
      subscriptionFacts r := by
    intro r
    split <;> rfl
  have hcarries : Carries w.db w'.db := by
    refine ⟨fun c hc => ⟨c, hchannels ▸ hc, rfl⟩, fun s hs => ?_⟩
    rw [hsubs]
    exact ⟨_, List.mem_map_of_mem hs, hkept s⟩
  refine ⟨fun m' hm' ht => ?_, ?_⟩
  · rw [hrows] at hm'
    obtain ⟨m, hm, -, hrow⟩ := hpassed.row_of_mem hlisted hm'
    refine h.carry hcarries hm ?_ ht
    rcases hrow with rfl | ⟨a, -, -, rfl⟩
    · rfl
    · exact applied_facts _ _ _
  · rw [hsubs]
    intro s hs s' hs' hA ht hu hm
    obtain ⟨r, hr, rfl⟩ := List.mem_map.mp hs
    obtain ⟨r', hr', rfl⟩ := List.mem_map.mp hs'
    have hf := hkept r
    have hf' := hkept r'
    simp only [subscriptionFacts, Prod.mk.injEq] at hf hf'
    have heq : r = r' := by
      refine h.one r hr r' hr' ?_ ?_ ?_ ?_
      · rw [← hf.2.1, hA]
      · rw [← hf.2.1, ht, hf'.2.1]
      · rw [← hf.2.2.1, hu, hf'.2.2.1]
      · rw [← hf.2.2.2, hm, hf'.2.2.2]
    rw [heq]

/-- The columns of the membership a grant ends with. -/
theorem Grant.Holds.membership_facts {ttl : TimeDelta} {providerType : ProviderType}
    {market : Market} {g : Grant} {calls : List Sent}
    (h : g.Holds G ttl providerType market w w' calls) :
    g.membership.tenantId = w.tenantId ∧ g.membership.userId = g.userId ∧
      g.membership.channelId = g.channel.id ∧
      g.membership.subscriptionId = some g.subscription.id := by
  have hbase : g.base.tenantId = w.tenantId ∧ g.base.userId = g.userId ∧
      g.base.channelId = g.channel.id ∧ g.base.subscriptionId = some g.subscription.id := by
    have hfrom := h.membership
    cases hprior : g.prior with
    | none =>
      rw [hprior] at hfrom
      obtain ⟨-, id, createdAt, -, hbase⟩ := hfrom
      rw [hbase]
      exact ⟨rfl, rfl, rfl, rfl⟩
    | some prior =>
      rw [hprior] at hfrom
      obtain ⟨ht, hu, hc, hbase⟩ := hfrom
      rw [hbase]
      unfold ReferralOnboardingService.reinstate
      split <;> exact ⟨ht, hu, hc, rfl⟩
  rcases h.invite.cases with ⟨-, hm, -⟩ | ⟨_, -, -, -, hm, -⟩
  · rw [hm]
    exact hbase
  · rw [hm]
    exact ⟨rfl, hbase.2⟩

/-- The columns of the subscription a grant ends with. -/
theorem Grant.Holds.subscription_facts {ttl : TimeDelta} {providerType : ProviderType}
    {market : Market} {g : Grant} {calls : List Sent}
    (h : g.Holds G ttl providerType market w w' calls) :
    g.subscription.tenantId = w.tenantId ∧ g.subscription.userId = g.userId ∧
      g.subscription.market = market ∧
      ∀ prior, g.priorSubscription = some prior →
        prior ∈ w.view .subscriptions ∧
          subscriptionFacts prior = subscriptionFacts g.subscription := by
  have hfrom := h.subscription
  cases hprior : g.priorSubscription with
  | none =>
    rw [hprior] at hfrom
    obtain ⟨-, id, startsAt, hs⟩ := hfrom
    rw [hs]
    exact ⟨rfl, rfl, rfl, fun p hp => by cases hp⟩
  | some prior =>
    rw [hprior] at hfrom
    obtain ⟨hmem, ht, hu, hm, startsAt, hs⟩ := hfrom
    rw [hs]
    refine ⟨ht, hu, hm, fun p hp => ?_⟩
    cases hp
    exact ⟨hmem, rfl⟩

theorem EntitledIn.granted {ttl : TimeDelta} {providerType : ProviderType} {market : Market}
    {g : Grant} {w₁ : World} {calls : List Sent} (hw : w.Sound) (h : EntitledIn A w.db)
    (hg : g.Holds G ttl providerType market (w.opened tenantId) w₁ calls)
    (hdb : w'.db = w₁.view) : EntitledIn A w'.db := by
  have hchannels : w'.db .telegramChannels = w.db .telegramChannels := by
    rw [hdb]
    exact hg.other _ (by decide)
  obtain ⟨hmt, hmu, hmc, hms⟩ := hg.membership_facts
  obtain ⟨hst, hsu, hsm, hprior⟩ := hg.subscription_facts
  have hsubs : ∀ {r}, r ∈ w'.db .subscriptions ↔
      r = g.subscription ∨ (r ∈ w.db .subscriptions ∧ r.id ≠ g.subscription.id) := by
    intro r
    rw [hdb]
    exact hg.subscriptions.mem_iff
  have hreplaced : ∀ s ∈ w.db .subscriptions, s.id = g.subscription.id →
      subscriptionFacts g.subscription = subscriptionFacts s := by
    intro s hs hid
    cases hp : g.priorSubscription with
    | none =>
      have hup := hg.subscriptions
      rw [hp] at hup
      exact absurd hid (hup.fresh s hs)
    | some prior =>
      obtain ⟨hmem, hfacts⟩ := hprior prior hp
      have hpid : prior.id = s.id := by
        simp only [subscriptionFacts, Prod.mk.injEq] at hfacts
        rw [hfacts.1, hid]
      have heq : prior = s :=
        hw.db.eq_of_clash (t := .subscriptions) hmem hs (by simp [clash, hpid])
      rw [← hfacts, heq]
  have hcarries : Carries w.db w'.db := by
    refine ⟨fun c hc => ⟨c, hchannels ▸ hc, rfl⟩, fun s hs => ?_⟩
    by_cases hid : s.id = g.subscription.id
    · exact ⟨g.subscription, hsubs.mpr (.inl rfl), hreplaced s hs hid⟩
    · exact ⟨s, hsubs.mpr (.inr ⟨hs, hid⟩), rfl⟩
  -- No other row of the tenant has the facts of the subscription written.
  have hclash : ∀ s ∈ w.db .subscriptions, s.tenantId = A → s.id ≠ g.subscription.id →
      ¬ (s.tenantId = g.subscription.tenantId ∧ s.userId = g.subscription.userId ∧
        s.market = g.subscription.market) := by
    rintro s hs hA hne ⟨ht, hu, hm⟩
    have hfrom := hg.subscription
    cases hp : g.priorSubscription with
    | none =>
      rw [hp] at hfrom
      exact hfrom.1 s hs ⟨ht.trans hst, hu.trans hsu, hm.trans hsm⟩
    | some prior =>
      obtain ⟨hmem, hfacts⟩ := hprior prior hp
      simp only [subscriptionFacts, Prod.mk.injEq] at hfacts
      have heq : s = prior := h.one s hs prior hmem hA (ht.trans hfacts.2.1.symm)
        (hu.trans hfacts.2.2.1.symm) (hm.trans hfacts.2.2.2.symm)
      exact hne (heq ▸ hfacts.1)
  refine ⟨fun m hm ht => ?_, fun s hs s' hs' hA ht hu hmk => ?_⟩
  · rw [hdb] at hm
    rcases hg.memberships.mem_iff.mp hm with rfl | ⟨hold, -⟩
    · obtain ⟨hct, hcm, -⟩ := hg.channel_keys
      refine ⟨g.channel, g.subscription, hchannels ▸ hg.channel_mem, hmc.symm,
        hct.trans hmt.symm, hsubs.mpr (.inl rfl), hms, ⟨hst.trans hmt.symm, hsu.trans hmu.symm⟩,
        hsm.trans hcm.symm⟩
    · exact h.carry hcarries hold rfl ht
  · rcases hsubs.mp hs with rfl | ⟨hs, hne⟩
    · rcases hsubs.mp hs' with rfl | ⟨hs', hne'⟩
      · rfl
      · exact absurd ⟨ht.symm, hu.symm, hmk.symm⟩ (hclash s' hs' (ht.symm.trans hA) hne')
    · rcases hsubs.mp hs' with rfl | ⟨hs', -⟩
      · exact absurd ⟨ht, hu, hmk⟩ (hclash s hs hA hne)
      · exact h.one s hs s' hs' hA ht hu hmk

/-- Whichever tenant the transaction is of. -/
theorem EntitledIn.effect (hw : w.Sound) (h : EntitledIn A w.db)
    (heff : RowsEffect G policy tenantId w w') : EntitledIn A w'.db := by
  cases heff with
  | kept hms hsubs hkept =>
    have hcarries : Carries w.db w'.db := ⟨hkept, fun s hs => ⟨s, hsubs ▸ hs, rfl⟩⟩
    refine ⟨fun m hm ht => ?_, ?_⟩
    · rw [hms] at hm
      exact h.carry hcarries hm rfl ht
    · rw [hsubs]
      exact h.one
  | passed hlisted hpassed hdb => exact h.passed hlisted hpassed hdb
  | granted hg hdb => exact h.granted hw hg hdb

theorem EntitledIn.start {d : Database} (hms : ∀ m ∈ d .vipMemberships, m.tenantId ≠ A)
    (hsubs : ∀ s ∈ d .subscriptions, s.tenantId ≠ A) : EntitledIn A d :=
  ⟨fun m hm ht => absurd ht (hms m hm), fun s hs _ _ ht => absurd ht (hsubs s hs)⟩

/-- In every state the service reaches, memberships are entitled. -/
theorem entitled_of_run {C : World → Event → Prop} {w₀ : World} (h0 : Initial w₀)
    (h : Run G S C w₀ w) : w.Sound ∧ Entitled w.db := by
  refine h.invariant (I := fun w => w.Sound ∧ Entitled w.db) ⟨h0.sound, ?_⟩ ?_
  · have hms := h0.empty .vipMemberships (by decide)
    have hsubs := h0.empty .subscriptions (by decide)
    refine entitled_iff.mpr fun A => .start (fun m hm => ?_) fun s hs => ?_
    · rw [hms] at hm
      cases hm
    · rw [hsubs] at hs
      cases hs
  · rintro w w' e ⟨hw, hent⟩ - he
    obtain ⟨tenantId, heff⟩ := he.rows hw
    exact ⟨he.sound hw, entitled_iff.mpr fun A => (entitled_iff.mp hent A).effect hw heff⟩

end Events

end VipChannel

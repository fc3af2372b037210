/-
  VipChannel.Jobs.PassActs

  A monitoring pass as a list of acts.

  The steps of a pass read rows that earlier steps have written on, but only columns no
  step writes.  So what a pass does is a list of acts that were all possible in the
  world it started from (`Passed`), and the rows it leaves are those acts applied one
  after the other.
-/
import VipChannel.Jobs.PassSpec

namespace VipChannel

open Lib MembershipMonitor

/-! ## Columns a pass does not write -/

/-- What a pass reads of an account. -/
def accountFacts (r : ReferralAccount) :
    RowId × TenantId × RowId × ProviderType × Market × String :=
  (r.id, r.tenantId, r.userId, r.providerType, r.market, r.uid)

/-- What a pass reads of a subscription. -/
def subscriptionFacts (r : Subscription) : RowId × TenantId × RowId × Market :=
  (r.id, r.tenantId, r.userId, r.market)

theorem exists_of_map_eq {α β : Type} {f : α → β} {xs ys : List α} (h : ys.map f = xs.map f)
    {y : α} (hy : y ∈ ys) : ∃ x ∈ xs, f x = f y := by
  have hmem : f y ∈ ys.map f := List.mem_map_of_mem hy
  rw [h] at hmem
  exact List.mem_map.mp hmem

/-! ## Acts -/

/-- A membership that was judged, and what followed. -/
structure Act where
  membership : VIPMembership
  judgement : Judgement
  reaction : Reaction

namespace Act

variable (a : Act)

/-- What the act sends. -/
def calls (policy : CompliancePolicy) (tenantId : TenantId) (periodStart : DateTime) :
    List Sent :=
  a.judgement.reactions (policyFor policy a.judgement.config) tenantId a.membership periodStart
    a.reaction

/-- The rows of `w` allow the act. -/
structure Holds (G : World → Op → Choice → Prop) (policy : CompliancePolicy)
    (moment : DateTime) (w : World) : Prop where
  judged : a.judgement.Holds G policy moment w a.membership
  carried : a.reaction.Holds w a.membership a.judgement

/-- The memberships after the act. -/
def onMemberships (w : World) (moment : DateTime) (rows : List VIPMembership) :
    List VIPMembership :=
  modifyRows (w.inScope (t := .vipMemberships) fun r => r.id == a.membership.id)
    (VIPMembership.applied a.judgement.decision moment) rows

/-- The subscriptions after the act. -/
def onSubscriptions (w : World) (moment : DateTime) (rows : List Subscription) :
    List Subscription :=
  if a.judgement.decision.action = .revoke then
    modifyRows (a.reaction.expires w) (Subscription.expired moment) rows
  else rows

end Act

/-- The steps over `ms` came down to `acts`. -/
structure Passed (G : World → Op → Choice → Prop) (policy : CompliancePolicy)
    (periodStart moment : DateTime) (w : World) (ms : List VIPMembership) (acts : List Act)
    (w' : World) : Prop where
  sublist : (acts.map Act.membership).Sublist ms
  holds : ∀ a ∈ acts, a.Holds G policy moment w
  ledger : w'.ledger =
    (w.sending (acts.flatMap fun a => a.calls policy w.tenantId periodStart)).ledger
  memberships : w'.view .vipMemberships =
    acts.foldl (fun rows a => a.onMemberships w moment rows) (w.view .vipMemberships)
  subscriptions : w'.view .subscriptions =
    acts.foldl (fun rows a => a.onSubscriptions w moment rows) (w.view .subscriptions)
  accountsKept : (w'.view .referralAccounts).map accountFacts =
    (w.view .referralAccounts).map accountFacts
  subscriptionsKept : (w'.view .subscriptions).map subscriptionFacts =
    (w.view .subscriptions).map subscriptionFacts
  snapshots : ∀ r ∈ w'.view .tradingActivitySnapshots,
    r ∈ w.view .tradingActivitySnapshots ∨
      ∃ a ∈ acts, snapshotKey r = (w.tenantId, a.judgement.account.id, periodStart)
  other : ∀ t, t ∉ [Table.referralAccounts, .tradingActivitySnapshots, .vipMemberships,
    .subscriptions, .jobExecutions] → w'.view t = w.view t

section Passed

variable {G : World → Op → Choice → Prop} {policy : CompliancePolicy}
  {periodStart moment : DateTime} {w₀ w w' : World} {ms : List VIPMembership} {acts : List Act}
  {m : VIPMembership} {j : Judgement}

/-- The claim of the period does not show in what a pass reads. -/
theorem Passed.start (h : w.SameButJobs w') : Passed G policy periodStart moment w [] [] w' where
  sublist := List.Sublist.refl _
  holds := by simp
  ledger := by simpa using h.ledger
  memberships := h.view _ (by decide)
  subscriptions := h.view _ (by decide)
  accountsKept := by rw [h.view _ (by decide)]
  subscriptionsKept := by rw [h.view _ (by decide)]
  snapshots := fun r hr => .inl (by rwa [h.view _ (by decide)] at hr)
  other := fun t ht => h.view t fun hjobs => ht (by simp [hjobs])

theorem Passed.tenantId (h : Passed G policy periodStart moment w ms acts w') :
    w'.tenantId = w.tenantId :=
  congrArg Ledger.tenantId h.ledger

/-- What can be judged in the middle of a pass could have been judged at its start. -/
theorem Passed.judged (h : Passed G policy periodStart moment w₀ ms acts w)
    (hj : j.Holds G policy moment w m) :
    ∃ account, accountFacts account = accountFacts j.account ∧
      ({ j with account } : Judgement).Holds G policy moment w₀ m := by
  obtain ⟨account, hmem, hfacts⟩ := exists_of_map_eq h.accountsKept hj.account_mem
  have hconfigs : w.view .referralProgramConfigs = w₀.view .referralProgramConfigs :=
    h.other _ (by decide)
  have ht := h.tenantId
  have hf := hfacts
  simp only [accountFacts, Prod.mk.injEq] at hf
  obtain ⟨-, htenant, huser, hprovider, hmarket, huid⟩ := hf
  exact ⟨account, hfacts, {
    account_mem := hmem
    account_tenant := htenant.trans (hj.account_tenant.trans ht)
    account_user := huser.trans hj.account_user
    config_mem := hconfigs ▸ hj.config_mem
    config_tenant := hj.config_tenant.trans ht
    config_provider := hj.config_provider.trans hprovider.symm
    config_market := hj.config_market.trans hmarket.symm
    answer := huid ▸ hj.answer
    judged := hj.judged
    decided := hj.decided }⟩

theorem World.Found.of_view {t : Table} {cond : Row t → Bool} {r : Option (Row t)}
    (h : w.Found t cond r) (hview : w.view t = w₀.view t) (ht : w.tenantId = w₀.tenantId) :
    w₀.Found t cond r := by
  have hscope : w.inScope cond = w₀.inScope cond := World.inScope_congr ht cond
  cases r <;> simpa only [World.Found, hview, hscope] using h

/-- Subscriptions with the same ids are expired by the same reactions. -/
theorem Reaction.expires_congr {x y : Reaction}
    (h : x.subscription.map Subscription.id = y.subscription.map Subscription.id) :
    x.expires w = y.expires w := by
  funext r
  unfold Reaction.expires
  cases hx : x.subscription <;> cases hy : y.subscription <;> simp_all

/-- What a step in the middle of a pass reads to carry a decision out, read at its
    start. -/
theorem Passed.carried (h : Passed G policy periodStart moment w₀ ms acts w) {x : Reaction}
    {account : ReferralAccount} (hmarket : account.market = j.account.market)
    (hx : x.Holds (j.recorded w.tenantId periodStart moment w) m j) :
    ∃ subscription, subscription.map Subscription.id = x.subscription.map Subscription.id ∧
      ({ x with subscription } : Reaction).Holds w₀ m { j with account } := by
  have ht : (j.recorded w.tenantId periodStart moment w).tenantId = w₀.tenantId :=
    tenantId_recorded.trans h.tenantId
  have hrec : ∀ t, t ≠ .referralAccounts → t ≠ .tradingActivitySnapshots →
      (j.recorded w.tenantId periodStart moment w).view t = w.view t :=
    fun t ha hs => view_withAnswer_other ha hs ..
  have husers := (hrec .telegramUsers (by decide) (by decide)).trans (h.other _ (by decide))
  have hchannels := (hrec .telegramChannels (by decide) (by decide)).trans (h.other _ (by decide))
  have hsubs : ((j.recorded w.tenantId periodStart moment w).view .subscriptions).map
      subscriptionFacts = (w₀.view .subscriptions).map subscriptionFacts := by
    rw [hrec .subscriptions (by decide) (by decide)]
    exact h.subscriptionsKept
  -- Whether a subscription is in scope depends on columns no step writes.
  have hscope : ∀ r s : Subscription, subscriptionFacts r = subscriptionFacts s →
      (j.recorded w.tenantId periodStart moment w).inScope (t := .subscriptions)
        (subscriptionOf (j.recorded w.tenantId periodStart moment w).tenantId m.userId
          j.account.market) r =
      w₀.inScope (t := .subscriptions)
        (subscriptionOf w₀.tenantId m.userId account.market) s := by
    intro r s hfacts
    simp only [subscriptionFacts, Prod.mk.injEq] at hfacts
    simp only [World.inScope, rowTenant, subscriptionOf, ht, hmarket, hfacts]
  have hcarry : ∀ subscription,
      (j.decision.action = .revoke → subscription = none → x.subscription = none) →
      (j.decision.action = .revoke → ∀ s, subscription = some s →
        s ∈ w₀.view .subscriptions ∧ w₀.inScope (t := .subscriptions)
          (subscriptionOf w₀.tenantId m.userId account.market) s = true) →
      ({ x with subscription } : Reaction).Holds w₀ m { j with account } := by
    intro subscription hnone hsome
    refine {
      user := fun ha => ?_
      channel := fun ha => ?_
      subscription_none := fun ha hs s₀ hs₀ => ?_
      subscription_some := hsome }
    · have := hx.user ha
      rw [ht] at this
      exact this.of_view husers ht
    · have := hx.channel ha
      rw [ht, ← hmarket] at this
      exact this.of_view hchannels ht
    · obtain ⟨s, hs', hfacts⟩ := exists_of_map_eq hsubs.symm hs₀
      rw [← hscope s s₀ hfacts]
      exact hx.subscription_none ha (hnone ha hs) s hs'
  by_cases hrevoke : j.decision.action = .revoke
  swap
  · exact ⟨x.subscription, rfl, hcarry _ (fun h => absurd h hrevoke) fun h => absurd h hrevoke⟩
  cases hs : x.subscription with
  | none => exact ⟨none, rfl, hcarry none (fun _ _ => hs) fun _ s hs => by cases hs⟩
  | some s =>
    obtain ⟨hmem, hin⟩ := hx.subscription_some hrevoke s hs
    obtain ⟨s₀, hs₀, hfacts⟩ := exists_of_map_eq hsubs hmem
    refine ⟨some s₀, ?_, hcarry (some s₀) (fun _ h => by cases h) ?_⟩
    · simp only [subscriptionFacts, Prod.mk.injEq] at hfacts
      simp only [Option.map_some, hfacts]
    · intro _ s' hs'
      rw [← Option.some.inj hs']
      exact ⟨hs₀, (hscope s s₀ hfacts.symm).symm.trans hin⟩

/-- A step that judged nobody. -/
theorem Passed.skip (h : Passed G policy periodStart moment w₀ ms acts w) :
    Passed G policy periodStart moment w₀ (ms ++ [m]) acts w :=
  { h with sublist := h.sublist.trans (List.sublist_append_left ms [m]) }

/-- A step that judged `m`, as an act of the pass. -/
theorem Passed.judge {x : Reaction} (h : Passed G policy periodStart moment w₀ ms acts w)
    (hj : j.Holds G policy moment w m)
    (hx : x.Holds (j.recorded w.tenantId periodStart moment w) m j) :
    ∃ a : Act, a.membership = m ∧ a.judgement.account.id = j.account.id ∧
      a.judgement.check = j.check ∧ a.judgement.decision = j.decision ∧
      Passed G policy periodStart moment w₀ (ms ++ [m]) (acts ++ [a])
        (j.outcome policy w.tenantId m periodStart moment x w) := by
  obtain ⟨account, hfacts, hj₀⟩ := h.judged hj
  have hkeys := hfacts
  simp only [accountFacts, Prod.mk.injEq] at hkeys
  obtain ⟨subscription, hsub, hx₀⟩ := h.carried hkeys.2.2.2.2.1 hx
  have ht := h.tenantId
  have hscope : ∀ {t : Table} (cond : Row t → Bool), w.inScope cond = w₀.inScope cond :=
    fun cond => World.inScope_congr ht cond
  have hexpires : x.expires w = Reaction.expires { x with subscription } w₀ := by
    rw [← Reaction.expires_congr (x := { x with subscription }) (y := x) hsub]
    funext r
    simp only [Reaction.expires, hscope]
  let a : Act := ⟨m, { j with account }, { x with subscription }⟩
  have hcalls : a.calls policy w₀.tenantId periodStart =
      j.reactions (policyFor policy j.config) w.tenantId m periodStart x := by
    rw [ht]
    rfl
  refine ⟨a, rfl, hkeys.1, rfl, rfl, {
    sublist := ?_
    holds := ?_
    ledger := ?_
    memberships := ?_
    subscriptions := ?_
    accountsKept := ?_
    subscriptionsKept := ?_
    snapshots := ?_
    other := fun t htables => ?_ }⟩
  · rw [List.map_append]
    exact h.sublist.append (List.Sublist.refl _)
  · intro b hb
    rcases List.mem_append.mp hb with hb | hb
    · exact h.holds b hb
    · rw [List.mem_singleton.mp hb]
      exact ⟨hj₀, hx₀⟩
  · have hsent := World.ledger_sending h.ledger (a.calls policy w₀.tenantId periodStart)
    rw [World.sending_sending, hcalls] at hsent
    rw [ledger_outcome, hsent, List.flatMap_append, List.flatMap_singleton, hcalls]
  · rw [view_outcome_memberships, h.memberships, hscope, List.foldl_append]
    rfl
  · rw [view_outcome_subscriptions, h.subscriptions, hexpires, List.foldl_append]
    rfl
  · have hkept : ∀ r, accountFacts (recordVerdict j.check j.verdict moment r) = accountFacts r :=
      fun _ => rfl
    rw [view_outcome_accounts, map_modifyRows hkept]
    exact h.accountsKept
  · rw [view_outcome_subscriptions, ← h.subscriptionsKept]
    split
    · exact map_modifyRows fun _ => rfl
    · rfl
  · intro r hr
    have hold : r ∈ w.view .tradingActivitySnapshots →
        r ∈ w₀.view .tradingActivitySnapshots ∨ ∃ a' ∈ acts ++ [a],
          snapshotKey r = (w₀.tenantId, a'.judgement.account.id, periodStart) := by
      intro hr
      rcases h.snapshots r hr with hr | ⟨a', ha', hkey⟩
      · exact .inl hr
      · exact .inr ⟨a', List.mem_append_left _ ha', hkey⟩
    rcases @outcome_snapshots w w.tenantId j policy m periodStart moment x with
      ⟨-, hrows, -⟩ | ⟨-, row, hkey, ⟨hrows, -⟩ | ⟨hrows, -⟩⟩
    · exact hold (hrows ▸ hr)
    · rw [hrows, List.mem_append, List.mem_singleton] at hr
      rcases hr with hr | rfl
      · exact hold hr
      · refine .inr ⟨a, List.mem_append_right _ (List.mem_singleton.mpr rfl), ?_⟩
        rw [hkey, ht, ← hkeys.1]
    · exact hold (hrows ▸ hr)
  · have htables' := htables
    simp only [List.mem_cons, List.not_mem_nil, or_false, not_or] at htables'
    rw [view_outcome_other htables'.1 htables'.2.1 htables'.2.2.1 htables'.2.2.2.1]
    exact h.other t htables

/-- One more step. -/
theorem Passed.step {r r' : MonitorReport} (h : Passed G policy periodStart moment w₀ ms acts w)
    (hstep : StepResult G policy periodStart moment r w m r' w') :
    ∃ more, Passed G policy periodStart moment w₀ (ms ++ [m]) (acts ++ more) w' := by
  rcases hstep with ⟨-, rfl⟩ | ⟨j, x, hj, hx, rfl, -⟩
  · refine ⟨[], ?_⟩
    rw [List.append_nil]
    exact h.skip
  · obtain ⟨a, -, -, -, -, hpassed⟩ := h.judge hj hx
    exact ⟨[a], hpassed⟩

/-- The steps of a pass come down to acts that were possible at its start. -/
theorem Steps.passed {r r' : MonitorReport} {rest : List VIPMembership}
    (h : Passed G policy periodStart moment w₀ ms acts w)
    (hsteps : Steps G policy periodStart moment w r rest r' w') :
    ∃ acts', Passed G policy periodStart moment w₀ (ms ++ rest) acts' w' := by
  induction hsteps generalizing ms acts with
  | done => exact ⟨acts, by rw [List.append_nil]; exact h⟩
  | @next w w₁ w'' r r₁ r'' m rest hstep _ _ ih =>
    obtain ⟨more, hmore⟩ := h.step hstep
    obtain ⟨acts', hacts'⟩ := ih hmore
    refine ⟨acts', ?_⟩
    rwa [List.append_assoc, List.singleton_append] at hacts'

/-- No step touches the job executions. -/
theorem Steps.jobs {r r' : MonitorReport} (h : Steps G policy periodStart moment w r ms r' w') :
    w'.view .jobExecutions = w.view .jobExecutions := by
  induction h with
  | done => rfl
  | next hstep _ _ ih =>
    rw [ih]
    rcases hstep with ⟨-, rfl⟩ | ⟨j, x, -, -, rfl, -⟩
    · rfl
    · exact view_outcome_other (by decide) (by decide) (by decide) (by decide)

end Passed

/-! ## What becomes of a row -/

section Rows

variable {G : World → Op → Choice → Prop} {policy : CompliancePolicy}
  {periodStart moment : DateTime} {w w' : World} {ms : List VIPMembership} {acts : List Act}

/-- The memberships a pass over a tenant lists. -/
structure Listed (w : World) (ms : List VIPMembership) : Prop where
  perm : ms.Perm ((w.view .vipMemberships).filter
    (w.inScope (t := .vipMemberships) (monitoredRow w.tenantId)))
  sound : w.Sound

theorem Listed.mem (h : Listed w ms) {m : VIPMembership} (hm : m ∈ ms) :
    m ∈ w.view .vipMemberships ∧ m.tenantId = w.tenantId ∧ MONITORED.contains m.status := by
  obtain ⟨hview, hscope⟩ := List.mem_filter.mp (h.perm.mem_iff.mp hm)
  have hcond := World.inScope_cond hscope
  simp only [monitoredRow, Bool.and_eq_true, beq_iff_eq] at hcond
  exact ⟨hview, hcond.1, hcond.2⟩

/-- A listed membership is known by its id. -/
theorem Listed.eq_of_id (h : Listed w ms) {m r : VIPMembership} (hm : m ∈ ms)
    (hr : r ∈ w.view .vipMemberships) (hid : r.id = m.id) : r = m :=
  h.sound.view.eq_of_clash (t := .vipMemberships) hr (h.mem hm).1 (by simp [clash, hid])

/-- No membership is listed twice. -/
theorem Listed.distinct (h : Listed w ms) : ms.Pairwise fun m m' => m.id ≠ m'.id := by
  have hrows : ((w.view .vipMemberships).filter
      (w.inScope (t := .vipMemberships) (monitoredRow w.tenantId))).Pairwise
        fun m m' => m.id ≠ m'.id := by
    refine List.Pairwise.filter _ ((h.sound.view .vipMemberships).imp ?_)
    intro m m' hno hid
    simp [clash, hid] at hno
  exact h.perm.pairwise_iff (fun hne => Ne.symm hne) |>.mpr hrows

/-- The acts of a pass are about different memberships. -/
theorem Passed.distinct (h : Passed G policy periodStart moment w ms acts w')
    (hl : Listed w ms) : acts.Pairwise fun a b => a.membership.id ≠ b.membership.id := by
  have hms : (acts.map Act.membership).Pairwise fun m m' => m.id ≠ m'.id :=
    hl.distinct.sublist h.sublist
  rwa [List.pairwise_map] at hms

theorem Passed.membership_mem (h : Passed G policy periodStart moment w ms acts w') {a : Act}
    (ha : a ∈ acts) : a.membership ∈ ms :=
  h.sublist.subset (List.mem_map_of_mem ha)

theorem applied_id (d : ComplianceDecision) (moment : DateTime) (m : VIPMembership) :
    (m.applied d moment).id = m.id ∧ (m.applied d moment).tenantId = m.tenantId := by
  unfold VIPMembership.applied
  cases d.action <;> exact ⟨rfl, rfl⟩

/-- The row a pass leaves of a membership. -/
def finalRow (w : World) (moment : DateTime) (acts : List Act) : VIPMembership → VIPMembership :=
  afterUpdates
    (fun a : Act => w.inScope (t := .vipMemberships) fun r => r.id == a.membership.id)
    (fun a => VIPMembership.applied a.judgement.decision moment) acts

theorem Passed.rows (h : Passed G policy periodStart moment w ms acts w') :
    w'.view .vipMemberships = (w.view .vipMemberships).map (finalRow w moment acts) := by
  rw [h.memberships]
  exact foldl_modifyRows acts (w.view .vipMemberships)

/-- A pass leaves a membership as it was, or one act is applied to it. -/
theorem Passed.row_cases (h : Passed G policy periodStart moment w ms acts w')
    (hl : Listed w ms) {m : VIPMembership} (hm : m ∈ w.view .vipMemberships) :
    (finalRow w moment acts m = m ∧ ∀ a ∈ acts, a.membership.id ≠ m.id) ∨
      ∃ a ∈ acts, a.membership = m ∧
        finalRow w moment acts m = m.applied a.judgement.decision moment := by
  have hsel : ∀ a ∈ acts, w.inScope (t := .vipMemberships) (fun r => r.id == a.membership.id) m =
      true ↔ a.membership.id = m.id := by
    intro a ha
    have hmem := h.membership_mem ha
    constructor
    · intro hs
      have := World.inScope_cond hs
      simp only [beq_iff_eq] at this
      exact this.symm
    · intro hid
      have heq := hl.eq_of_id hmem hm hid.symm
      have ht := (hl.mem hmem).2.1
      simp [World.inScope, rowTenant, heq, ht]
  have hone : acts.Pairwise fun a b => ∀ r : VIPMembership,
      w.inScope (t := .vipMemberships) (fun r => r.id == a.membership.id) r = true →
      w.inScope (t := .vipMemberships) (fun r => r.id == b.membership.id) r = false := by
    refine (h.distinct hl).imp fun hne r hr => ?_
    have hid := World.inScope_cond hr
    simp only [beq_iff_eq] at hid
    simp [World.inScope, hid, hne]
  have hkeep : ∀ (a b : Act) (r : VIPMembership),
      w.inScope (t := .vipMemberships) (fun r => r.id == b.membership.id)
        (r.applied a.judgement.decision moment) =
      w.inScope (t := .vipMemberships) (fun r => r.id == b.membership.id) r := by
    intro a b r
    obtain ⟨hkid, hkt⟩ := applied_id a.judgement.decision moment r
    simp only [World.inScope, rowTenant, hkid, hkt]
  rcases afterUpdates_cases (r := m) hkeep hone with ⟨hall, heq⟩ | ⟨a, ha, hs, heq⟩
  · refine .inl ⟨heq, fun a ha hid => ?_⟩
    have := hall a ha
    rw [(hsel a ha).mpr hid] at this
    cases this
  · have hid := (hsel a ha).mp hs
    exact .inr ⟨a, ha, (hl.eq_of_id (h.membership_mem ha) hm hid.symm).symm, heq⟩

/-- Where a row of a pass comes from. -/
theorem Passed.row_of_mem (h : Passed G policy periodStart moment w ms acts w')
    (hl : Listed w ms) {m' : VIPMembership} (hm' : m' ∈ w'.view .vipMemberships) :
    ∃ m ∈ w.view .vipMemberships, m'.id = m.id ∧
      (m' = m ∨ ∃ a ∈ acts, a.membership = m ∧ m' = m.applied a.judgement.decision moment) := by
  rw [h.rows] at hm'
  obtain ⟨m, hm, rfl⟩ := List.mem_map.mp hm'
  rcases h.row_cases hl hm with ⟨heq, -⟩ | ⟨a, ha, hmem, heq⟩
  · exact ⟨m, hm, by rw [heq], .inl heq⟩
  · exact ⟨m, hm, by rw [heq, (applied_id ..).1], .inr ⟨a, ha, hmem, heq⟩⟩

/-- Every call of an act says what it is about. -/
theorem Act.about_of_mem {a : Act} {tenantId : TenantId} {s : Sent}
    (hs : s ∈ a.calls policy tenantId periodStart) :
    s.about =
      some (.compliance a.membership.id a.judgement.decision.action periodStart) := by
  have htold : ∀ chatId text about, s ∈ toldCalls tenantId chatId text about →
      s.about = some about := by
    intro chatId text about hs
    unfold toldCalls at hs
    cases chatId with
    | none => cases hs
    | some chatId =>
      dsimp only at hs
      split at hs
      · rw [List.mem_singleton.mp hs]
        rfl
      · cases hs
  unfold Act.calls Judgement.reactions Judgement.concern at hs
  cases ha : a.judgement.decision.action with
  | none => simp [ha] at hs
  | restore | warn =>
    simp only [ha] at hs
    exact htold _ _ _ hs
  | revoke =>
    simp only [ha, List.mem_append] at hs
    rcases hs with hs | hs
    · unfold removalCalls at hs
      split at hs
      · cases hs
      · simp only [List.mem_cons, List.not_mem_nil, or_false] at hs
        rcases hs with rfl | rfl <;> rfl
    · exact htold _ _ _ hs

/-- The call was made in acting on the membership. -/
def Sent.concerns (s : Sent) (membershipId : RowId) : Bool :=
  match s.about with
  | some (.compliance id _ _) => id == membershipId
  | _ => false

theorem concerns_of_mem {a : Act} {tenantId : TenantId} {s : Sent}
    (hs : s ∈ a.calls policy tenantId periodStart) (membershipId : RowId) :
    s.concerns membershipId = (a.membership.id == membershipId) := by
  unfold Sent.concerns
  rw [Act.about_of_mem hs]

theorem Act.calls_none {a : Act} {tenantId : TenantId}
    (h : a.judgement.decision.action = .none) : a.calls policy tenantId periodStart = [] := by
  unfold Act.calls Judgement.reactions
  rw [h]

theorem Act.filter_calls (a : Act) (tenantId : TenantId) :
    (a.calls policy tenantId periodStart).filter (·.concerns a.membership.id) =
      a.calls policy tenantId periodStart := by
  refine List.filter_eq_self.mpr fun s hs => ?_
  rw [concerns_of_mem hs, beq_iff_eq]

/-- Who is not judged is not written to. -/
theorem calls_without {tenantId : TenantId} {id : RowId}
    (h : ∀ a ∈ acts, a.membership.id ≠ id) :
    (acts.flatMap (·.calls policy tenantId periodStart)).filter (·.concerns id) = [] := by
  refine List.filter_eq_nil_iff.mpr fun s hs => ?_
  obtain ⟨a, ha, hsa⟩ := List.mem_flatMap.mp hs
  rw [concerns_of_mem hsa, beq_iff_eq]
  exact h a ha

/-- The calls about a membership are those of the act on it. -/
theorem calls_with {tenantId : TenantId}
    (hd : acts.Pairwise fun a b => a.membership.id ≠ b.membership.id) {a : Act} (ha : a ∈ acts) :
    (acts.flatMap (·.calls policy tenantId periodStart)).filter (·.concerns a.membership.id) =
      a.calls policy tenantId periodStart := by
  obtain ⟨before, after, rfl⟩ := List.append_of_mem ha
  rw [List.pairwise_append, List.pairwise_cons] at hd
  obtain ⟨-, ⟨hafter, -⟩, hbefore⟩ := hd
  have hno : ∀ b ∈ before, b.membership.id ≠ a.membership.id := fun b hb =>
    hbefore b hb a List.mem_cons_self
  have hno' : ∀ b ∈ after, b.membership.id ≠ a.membership.id := fun b hb => (hafter b hb).symm
  rw [List.flatMap_append, List.flatMap_cons, List.filter_append, List.filter_append,
    calls_without hno, calls_without hno', a.filter_calls, List.nil_append, List.append_nil]

/-- The act expires the subscription. -/
def Act.expires (w : World) (a : Act) (r : Subscription) : Bool :=
  a.judgement.decision.action = .revoke && a.reaction.expires w r

/-- The subscriptions a pass leaves. -/
theorem Passed.subscription_rows (h : Passed G policy periodStart moment w ms acts w') :
    w'.view .subscriptions = (w.view .subscriptions).map fun r =>
      if acts.any (·.expires w r) then r.expired moment else r := by
  have hfold : acts.foldl (fun rows a => a.onSubscriptions w moment rows)
      (w.view .subscriptions) =
      acts.foldl (fun rows a => modifyRows (a.expires w) (Subscription.expired moment) rows)
        (w.view .subscriptions) := by
    congr 1
    funext rows a
    unfold Act.onSubscriptions Act.expires
    by_cases ha : a.judgement.decision.action = .revoke
    · simp [ha]
    · simp [ha, modifyRows]
  rw [h.subscriptions, hfold]
  refine (foldl_modifyRows acts _).trans (List.map_congr_left fun r _ => ?_)
  exact afterUpdates_same (fun _ => rfl) fun _ _ => rfl

end Rows

end VipChannel

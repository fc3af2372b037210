/-
  VipChannel.Runs.Outages

  Outages of the exchange are invisible to the member.

  Two sequences of passes are compared that are told the same: when each pass takes place,
  through which account a membership is judged, and what the exchange answers about it.
  One of them leaves a membership out of every pass in which its verdict is that the
  provider is unavailable.  `Alike` is what the two have in common after every pass.
-/
import VipChannel.Jobs.PassVisits
import VipChannel.Runs.Coherence

namespace VipChannel

open Lib MembershipMonitor

/-! ## Passes that leave memberships out -/

/-- A pass over a tenant that went through, but for the memberships `left` out of its loop. -/
structure PassWithout (G : World → Op → Choice → Prop) (S : Settings) (tenantId : TenantId)
    (moment periodStart : DateTime) (left : VIPMembership → Prop) (w : World)
    (ms visited : List VIPMembership) (acts : List Act) (w₂ w' : World) : Prop where
  period_of : periodStartFor moment S.period = .ok periodStart
  listed : Listed (w.opened tenantId) ms
  sublist : visited.Sublist ms
  left_out : ∀ m ∈ ms, m ∉ visited → left m
  loop : Visited G S.policy periodStart moment (w.opened tenantId) visited acts w₂
  committed : ∀ t, t ≠ .jobExecutions → w'.db t = w₂.view t
  allSent : w'.allSent = w.allSent ++ acts.flatMap (·.calls S.policy tenantId periodStart)

/-- What a pass is told from outside: the time, and the exchange's answer about the account
    a membership is judged through. -/
structure PassInput where
  moment : DateTime
  answer : RowId → Option ReferralCheck

/-- Memberships are judged through the accounts, and with the answers, that are given. -/
structure Guided (account : RowId → RowId) (input : PassInput) (w : World)
    (visited : List VIPMembership) (acts : List Act) : Prop where
  judged : ∀ a ∈ acts, a.judgement.account.id = account a.membership.id ∧
    a.judgement.check = input.answer a.membership.id
  unasked : ∀ m ∈ visited, (∃ a ∈ acts, a.membership = m) ∨
    ∃ picked, Unasked w m picked ∧ ∀ id, picked = some id → id = account m.id

structure GuidedPass (G : World → Op → Choice → Prop) (S : Settings) (tenantId : TenantId)
    (account : RowId → RowId) (input : PassInput) (periodStart : DateTime)
    (left : VIPMembership → Prop) (w : World) (ms visited : List VIPMembership)
    (acts : List Act) (w₂ w' : World) : Prop
    extends PassWithout G S tenantId input.moment periodStart left w ms visited acts w₂ w' where
  guided : Guided account input (w.opened tenantId) visited acts

/-- A pass without the memberships `left` out, as it is told to go. -/
def PassOn (G : World → Op → Choice → Prop) (S : Settings) (tenantId : TenantId)
    (account : RowId → RowId) (left : VIPMembership → Prop) (input : PassInput)
    (w w' : World) : Prop :=
  ∃ periodStart ms visited acts w₂,
    GuidedPass G S tenantId account input periodStart left w ms visited acts w₂ w'

/-- A pass that the program made, nobody left out. -/
def PassMade (G : World → Op → Choice → Prop) (S : Settings) (tenantId : TenantId)
    (account : RowId → RowId) (input : PassInput) (w w' : World) : Prop :=
  (∃ now report, report.claimed = true ∧
    Runs (serial G) (passTx S.period S.policy tenantId now) w (.ok (some report)) w') ∧
  PassOn G S tenantId account (fun _ => False) input w w'

/-- Passes one after the other. -/
inductive Passes (P : PassInput → World → World → Prop) : List PassInput → World → World → Prop
  | done {w : World} : Passes P [] w w
  | next {input : PassInput} {inputs : List PassInput} {w w' w'' : World} :
      P input w w' → Passes P inputs w' w'' → Passes P (input :: inputs) w w''

/-- The verdict about the membership is that the provider is unavailable. -/
def Outage (tenantId : TenantId) (account : RowId → RowId) (input : PassInput) (d : Database)
    (m : VIPMembership) : Prop :=
  ∃ r ∈ d .referralAccounts, r.id = account m.id ∧
    ∃ config ∈ d .referralProgramConfigs, config.tenantId = tenantId ∧
      config.providerType = r.providerType ∧ config.market = r.market ∧
      ∃ verdict, evaluateReferral (input.answer m.id) config.rules true = .ok verdict ∧
        verdict.reason = .providerUnavailable

/-! ## Every completed pass is one -/

section Made

variable {G : World → Op → Choice → Prop} {S : Settings} {tenantId : TenantId} {w w' : World}

/-- A completed pass, taken apart. -/
theorem passWithout_of_runs {now : Option DateTime} {report : MonitorReport} (hw : w.Sound)
    (hclaimed : report.claimed = true)
    (h : Runs (serial G) (passTx S.period S.policy tenantId now) w (.ok (some report)) w') :
    ∃ moment periodStart ms acts w₂, MomentOf G (w.opened tenantId) now moment ∧
      PassWithout G S tenantId moment periodStart (fun _ => False) w ms ms acts w₂ w' := by
  obtain ⟨w₁, hrun, hdb, hsent⟩ := runs_transaction_some h
  have hmeets : Meets G (run S.period S.policy (w.opened tenantId).tenantId now) _ _
      (w.opened tenantId) := meets_run_visits rfl
  have hresult := wp_sound hmeets hrun
  rcases hresult with ⟨periodStart, rfl, -, -⟩ |
    ⟨moment, periodStart, v, w₂, -, ⟨ms, acts, hstarted, hvisited⟩, hsame, -⟩
  · cases hclaimed
  · refine ⟨moment, periodStart, ms, acts, w₂, hstarted.moment_of, ?_⟩
    have hl : w₁.ledger = _ := hsame.ledger.trans hvisited.ledger
    refine ⟨hstarted.period_of, ⟨hstarted.listed, hw.opened tenantId⟩, .refl ms,
      fun m hm hout => absurd hm hout, hvisited, fun t ht => ?_, ?_⟩
    · rw [hdb, hsame.view t ht]
    · rw [hsent, allSent_of_ledger hl rfl]
      rfl

/-- What is found for each of some memberships with different ids can be found by the id. -/
theorem exists_by_id {β : Type} [Inhabited β] {P : VIPMembership → β → Prop}
    {ms : List VIPMembership} (hd : ms.Pairwise fun m m' => m.id ≠ m'.id)
    (h : ∀ m ∈ ms, ∃ b, P m b) : ∃ f : RowId → β, ∀ m ∈ ms, P m (f m.id) := by
  induction ms with
  | nil => exact ⟨fun _ => default, fun _ hm => nomatch hm⟩
  | cons m rest ih =>
    rw [List.pairwise_cons] at hd
    obtain ⟨b, hb⟩ := h m List.mem_cons_self
    obtain ⟨f, hf⟩ := ih hd.2 fun m' hm' => h m' (List.mem_cons_of_mem _ hm')
    refine ⟨Function.update f m.id b, fun m' hm' => ?_⟩
    rcases List.mem_cons.mp hm' with rfl | hm'
    · rw [Function.update_self]
      exact hb
    · rw [Function.update_of_ne (hd.1 m' hm').symm]
      exact hf m' hm'

/-- A completed pass is one that is told something. -/
theorem passMade_of_runs {now : Option DateTime} {report : MonitorReport} (hw : w.Sound)
    (hclaimed : report.claimed = true)
    (h : Runs (serial G) (passTx S.period S.policy tenantId now) w (.ok (some report)) w') :
    ∃ account input, MomentOf G (w.opened tenantId) now input.moment ∧
      PassMade G S tenantId account input w w' := by
  obtain ⟨moment, periodStart, ms, acts, w₂, hmoment, hp⟩ := passWithout_of_runs hw hclaimed h
  have hdistinct := hp.loop.toPassed.distinct hp.listed
  have hfound : ∀ m ∈ ms, ∃ b : RowId × Option ReferralCheck,
      (∀ a ∈ acts, a.membership.id = m.id →
        a.judgement.account.id = b.1 ∧ a.judgement.check = b.2) ∧
      ((∃ a ∈ acts, a.membership = m) ∨
        ∃ picked, Unasked (w.opened tenantId) m picked ∧ ∀ id, picked = some id → id = b.1) := by
    intro m hm
    by_cases hact : ∃ a ∈ acts, a.membership.id = m.id
    · obtain ⟨a, ha, hid⟩ := hact
      have hm' : a.membership = m :=
        hp.listed.eq_of_id hm (hp.listed.mem (hp.loop.toPassed.membership_mem ha)).1 hid
      refine ⟨(a.judgement.account.id, a.judgement.check), fun b hb hid' => ?_, .inl ⟨a, ha, hm'⟩⟩
      have heq : b = a := by
        by_contra hne
        have : Std.Symm fun a b : Act => a.membership.id ≠ b.membership.id :=
          ⟨fun _ _ h => h.symm⟩
        exact hdistinct.forall hb ha hne (hid'.trans hid.symm)
      rw [heq]
      exact ⟨rfl, rfl⟩
    · push Not at hact
      rcases hp.loop.complete m hm with ⟨a, ha, rfl⟩ | ⟨picked, hunasked⟩
      · exact absurd rfl (hact a ha)
      · refine ⟨(picked.getD 0, none), fun a ha hid => absurd hid (hact a ha), .inr ?_⟩
        refine ⟨picked, hunasked, fun id hid => ?_⟩
        rw [hid]
        rfl
  obtain ⟨f, hf⟩ := exists_by_id hp.listed.distinct hfound
  refine ⟨fun id => (f id).1, ⟨moment, fun id => (f id).2⟩, hmoment, ⟨now, report, hclaimed, h⟩, ?_⟩
  refine ⟨periodStart, ms, ms, acts, w₂, hp, ?_, fun m hm => (hf m hm).2⟩
  intro a ha
  exact (hf _ (hp.loop.toPassed.membership_mem ha)).1 a ha rfl

end Made

/-! ## Two passes that are told the same -/

/-- Two databases in which a pass over memberships reads the same. -/
structure Alike (d d' : Database) : Prop where
  memberships : d .vipMemberships = d' .vipMemberships
  subscriptions : d .subscriptions = d' .subscriptions
  accounts : (d .referralAccounts).map accountFacts = (d' .referralAccounts).map accountFacts
  configured : ∀ t ∈ [Table.telegramUsers, .telegramChannels, .referralProgramConfigs], d t = d' t

theorem Alike.refl (d : Database) : Alike d d := ⟨rfl, rfl, rfl, fun _ _ => rfl⟩

theorem Alike.symm {d d' : Database} (h : Alike d d') : Alike d' d :=
  ⟨h.memberships.symm, h.subscriptions.symm, h.accounts.symm, fun t ht => (h.configured t ht).symm⟩

theorem Outage.alike {tenantId : TenantId} {account : RowId → RowId} {input : PassInput}
    {d d' : Database} {m : VIPMembership} (ho : Outage tenantId account input d m)
    (h : Alike d d') : Outage tenantId account input d' m := by
  obtain ⟨r, hr, hid, config, hconfig, ht, hprovider, hmarket, hverdict⟩ := ho
  obtain ⟨s, hs, hfacts⟩ := exists_of_map_eq h.accounts hr
  simp only [accountFacts, Prod.mk.injEq] at hfacts
  rw [h.configured .referralProgramConfigs (by decide)] at hconfig
  exact ⟨s, hs, hfacts.1.trans hid, config, hconfig, ht, hprovider.trans hfacts.2.2.2.1.symm,
    hmarket.trans hfacts.2.2.2.2.1.symm, hverdict⟩

/-- A user has one subscription of a market. -/
def OneEach (tenantId : TenantId) (d : Database) : Prop :=
  ∀ s ∈ d .subscriptions, ∀ s' ∈ d .subscriptions, s.tenantId = tenantId →
    s.tenantId = s'.tenantId → s.userId = s'.userId → s.market = s'.market → s = s'

theorem World.Found.unique {w : World} {t : Table} {cond : Row t → Bool} {r r' : Option (Row t)}
    (h : w.Found t cond r) (h' : w.Found t cond r') : r = r' := by
  cases r with
  | none =>
    cases r' with
    | none => rfl
    | some s' =>
      have hno := h s' h'.1
      rw [h'.2.1] at hno
      cases hno
  | some s =>
    cases r' with
    | none =>
      have hno := h' s h.1
      rw [h.2.1] at hno
      cases hno
    | some s' => rw [h.2.2 s' h'.1 h'.2.1]

/-- Acts on one membership that decided the same, and reached the same user and channel,
    send the same. -/
theorem Act.calls_congr {a b : Act} {policy : CompliancePolicy} {tenantId : TenantId}
    {periodStart : DateTime} (hm : a.membership = b.membership)
    (hconfig : a.judgement.config = b.judgement.config)
    (hdecision : a.judgement.decision = b.judgement.decision)
    (huser : a.judgement.decision.action ≠ .none → a.reaction.user = b.reaction.user)
    (hchannel : a.judgement.decision.action = .revoke → a.reaction.channel = b.reaction.channel) :
    a.calls policy tenantId periodStart = b.calls policy tenantId periodStart := by
  unfold Act.calls Judgement.reactions Judgement.concern
  rw [← hm, ← hconfig, ← hdecision]
  cases ha : a.judgement.decision.action with
  | none => rfl
  | restore | warn =>
    rw [ha] at huser
    rw [huser nofun]
  | revoke =>
    rw [ha] at huser hchannel
    rw [huser nofun, hchannel rfl]

section Pair

variable {G : World → Op → Choice → Prop} {S : Settings} {tenantId : TenantId}
  {account : RowId → RowId} {input : PassInput} {periodStart periodStart' : DateTime}
  {left left' : VIPMembership → Prop} {w v w₂ v₂ w' v' : World}
  {ms ms' visited visited' : List VIPMembership} {acts acts' : List Act}

theorem PassWithout.passed {moment : DateTime}
    (h : PassWithout G S tenantId moment periodStart left w ms visited acts w₂ w') :
    Passed G S.policy periodStart moment (w.opened tenantId) ms acts w₂ :=
  { h.loop.toPassed with sublist := h.loop.toPassed.sublist.trans h.sublist }

/-- The account a guided act judged through, as the other database has it. -/
theorem Alike.same_account (h : Alike w.db v.db) {r s : ReferralAccount} (hv : Distinct v.db)
    (hr : r ∈ w.db .referralAccounts) (hs : s ∈ v.db .referralAccounts) (hid : r.id = s.id) :
    accountFacts r = accountFacts s := by
  obtain ⟨r', hr', hfacts⟩ := exists_of_map_eq h.accounts hr
  have hid' : r'.id = s.id := by
    simp only [accountFacts, Prod.mk.injEq] at hfacts
    exact hfacts.1.trans hid
  have heq : r' = s := hv.eq_of_clash (t := .referralAccounts) hr' hs (by simp [clash, hid'])
  rw [← hfacts, heq]

/-- The program of a tenant for an account is one. -/
theorem config_unique {d : Database} (hd : Distinct d) {c c' : ReferralProgramConfig}
    (hc : c ∈ d .referralProgramConfigs) (hc' : c' ∈ d .referralProgramConfigs)
    (ht : c.tenantId = c'.tenantId) (hp : c.providerType = c'.providerType)
    (hm : c.market = c'.market) : c = c' :=
  hd.eq_of_clash (t := .referralProgramConfigs) hc hc' (by simp [clash, ht, hp, hm])

/-- Where both passes judge a membership, they do the same. -/
theorem acts_agree (h : Alike w.db v.db)
    (hp : GuidedPass G S tenantId account input periodStart left w ms visited acts w₂ w')
    (hp' : GuidedPass G S tenantId account input periodStart' left' v ms' visited' acts' v₂ v')
    {a b : Act} (ha : a ∈ acts) (hb : b ∈ acts') (hid : a.membership.id = b.membership.id) :
    a.membership = b.membership ∧
      accountFacts a.judgement.account = accountFacts b.judgement.account ∧
      a.judgement.decision = b.judgement.decision ∧
      a.calls S.policy tenantId periodStart = b.calls S.policy tenantId periodStart := by
  have hha := hp.passed.holds a ha
  have hhb := hp'.passed.holds b hb
  have hv : Distinct v.db := hp'.listed.sound.db
  have hm : a.membership = b.membership := by
    have hmem : b.membership ∈ v.db .vipMemberships :=
      (hp'.listed.mem (hp'.passed.membership_mem hb)).1
    rw [← h.memberships] at hmem
    exact (hp.listed.eq_of_id (hp.passed.membership_mem ha) hmem hid.symm).symm
  have hfacts : accountFacts a.judgement.account = accountFacts b.judgement.account := by
    refine h.same_account hv hha.judged.account_mem hhb.judged.account_mem ?_
    rw [(hp.guided.judged a ha).1, (hp'.guided.judged b hb).1, hm]
  have hf := hfacts
  simp only [accountFacts, Prod.mk.injEq] at hf
  obtain ⟨-, -, -, hprovider, hmarket, -⟩ := hf
  have hconfig : a.judgement.config = b.judgement.config := by
    have hmem : a.judgement.config ∈ v.db .referralProgramConfigs := by
      rw [← h.configured .referralProgramConfigs (by decide)]
      exact hha.judged.config_mem
    refine config_unique hv hmem hhb.judged.config_mem ?_ ?_ ?_
    · exact hha.judged.config_tenant.trans hhb.judged.config_tenant.symm
    · rw [hha.judged.config_provider, hhb.judged.config_provider, hprovider]
    · rw [hha.judged.config_market, hhb.judged.config_market, hmarket]
  have hverdict : a.judgement.verdict = b.judgement.verdict := by
    have hsame : (.ok a.judgement.verdict : Except PyError EligibilityVerdict) =
        .ok b.judgement.verdict := by
      rw [← hha.judged.judged, ← hhb.judged.judged, (hp.guided.judged a ha).2,
        (hp'.guided.judged b hb).2, hm, hconfig]
    exact Except.ok.inj hsame
  have hdecision : a.judgement.decision = b.judgement.decision := by
    have hsame : (.ok a.judgement.decision : Except PyError ComplianceDecision) =
        .ok b.judgement.decision := by
      rw [← hha.judged.decided, ← hhb.judged.decided, hm, hverdict, hconfig]
    exact Except.ok.inj hsame
  refine ⟨hm, hfacts, hdecision,
    Act.calls_congr hm hconfig hdecision (fun hact => ?_) fun hact => ?_⟩
  · have hfound := hhb.carried.user (hdecision ▸ hact)
    rw [← hm] at hfound
    have husers := h.configured .telegramUsers (by decide)
    exact (hha.carried.user hact).unique (hfound.of_view husers.symm rfl)
  · have hfound := hhb.carried.channel (hdecision ▸ hact)
    rw [← hmarket] at hfound
    have hchannels := h.configured .telegramChannels (by decide)
    exact (hha.carried.channel hact).unique (hfound.of_view hchannels.symm rfl)

/-- What only one of the passes judged, it let be. -/
theorem acts_alone (h : Alike w.db v.db)
    (hleft : ∀ m, left' m → Outage tenantId account input w.db m)
    (hp : GuidedPass G S tenantId account input periodStart left w ms visited acts w₂ w')
    (hp' : GuidedPass G S tenantId account input periodStart' left' v ms' visited' acts' v₂ v')
    {a : Act} (ha : a ∈ acts) (hno : ∀ b ∈ acts', b.membership.id ≠ a.membership.id) :
    a.judgement.decision.action = .none := by
  have hj := (hp.passed.holds a ha).judged
  have hw : Distinct w.db := hp.listed.sound.db
  have hv : Distinct v.db := hp'.listed.sound.db
  obtain ⟨hrow, ht, hmonitored⟩ := hp.listed.mem (hp.passed.membership_mem ha)
  have hmem : a.membership ∈ ms' := by
    refine hp'.listed.perm.mem_iff.mpr (List.mem_filter.mpr ⟨?_, ?_⟩)
    · change a.membership ∈ v.db .vipMemberships
      rw [← h.memberships]
      exact hrow
    · have ht' : a.membership.tenantId = (v.opened tenantId).tenantId := ht
      simp only [World.inScope, rowTenant, monitoredRow, ht', hmonitored, beq_self_eq_true,
        Bool.and_self]
  by_cases hvisited : a.membership ∈ visited'
  · -- The other pass came by and found nothing to ask, though there is the account.
    exfalso
    rcases hp'.guided.unasked _ hvisited with ⟨b, hb, hbm⟩ | ⟨picked, hunasked, hpicked⟩
    · exact hno b hb (by rw [hbm])
    cases hunasked with
    | noAccount hnone =>
      obtain ⟨s, hs, hfacts⟩ := exists_of_map_eq h.accounts hj.account_mem
      have hout := hnone s hs
      have haccount := hj.account_tenant
      have huser := hj.account_user
      simp only [accountFacts, Prod.mk.injEq] at hfacts
      have ht' : s.tenantId = (v.opened tenantId).tenantId := hfacts.2.1.trans haccount
      have hu' : s.userId = a.membership.userId := hfacts.2.2.1.trans huser
      simp [World.inScope, rowTenant, accountOf, ht', hu'] at hout
    | @noProgram s hs hin hnone =>
      have hid : a.judgement.account.id = s.id := by
        rw [(hp.guided.judged a ha).1, hpicked s.id rfl]
      have hfacts := h.same_account hv hj.account_mem hs hid
      simp only [accountFacts, Prod.mk.injEq] at hfacts
      obtain ⟨-, -, -, hprovider, hmarket, -⟩ := hfacts
      have hconfig : a.judgement.config ∈ v.db .referralProgramConfigs := by
        rw [← h.configured .referralProgramConfigs (by decide)]
        exact hj.config_mem
      have hout := hnone a.judgement.config hconfig
      have ht' : a.judgement.config.tenantId = (v.opened tenantId).tenantId := hj.config_tenant
      simp [World.inScope, rowTenant, programOf, ht', hj.config_provider, hj.config_market,
        hprovider, hmarket] at hout
  · -- It was left out: the provider was unavailable.
    obtain ⟨r, hr, hid, config, hconfig, htc, hpc, hmc, verdict, hverdict, hreason⟩ :=
      hleft _ (hp'.left_out _ hmem hvisited)
    have haccount : r = a.judgement.account := by
      have hid' : r.id = a.judgement.account.id := hid.trans (hp.guided.judged a ha).1.symm
      exact hw.eq_of_clash (t := .referralAccounts) hr hj.account_mem (by simp [clash, hid'])
    have hsame : config = a.judgement.config := by
      refine config_unique hw hconfig hj.config_mem (htc.trans hj.config_tenant.symm) ?_ ?_
      · rw [hpc, haccount, hj.config_provider]
      · rw [hmc, haccount, hj.config_market]
    have heq : verdict = a.judgement.verdict := by
      have hok := hj.judged
      rw [(hp.guided.judged a ha).2, ← hsame, hverdict] at hok
      exact Except.ok.inj hok
    exact decideCompliance_unavailable hj.decided (heq ▸ hreason)

/-- Both passes leave the same rows of memberships. -/
theorem memberships_agree (h : Alike w.db v.db)
    (hleft : ∀ m, left m → Outage tenantId account input w.db m)
    (hleft' : ∀ m, left' m → Outage tenantId account input w.db m)
    (hp : GuidedPass G S tenantId account input periodStart left w ms visited acts w₂ w')
    (hp' : GuidedPass G S tenantId account input periodStart' left' v ms' visited' acts' v₂ v') :
    w'.db .vipMemberships = v'.db .vipMemberships := by
  rw [hp.committed _ (by decide), hp'.committed _ (by decide), hp.passed.rows, hp'.passed.rows]
  have hrows :
      (v.opened tenantId).view .vipMemberships = (w.opened tenantId).view .vipMemberships :=
    h.memberships.symm
  rw [hrows]
  refine List.map_congr_left fun m hm => ?_
  have hm' : m ∈ (v.opened tenantId).view .vipMemberships := hrows ▸ hm
  have hleftv : ∀ m, left m → Outage tenantId account input v.db m :=
    fun m hl => (hleft m hl).alike h
  rcases hp.passed.row_cases hp.listed hm with ⟨heq, hno⟩ | ⟨a, ha, rfl, heq⟩
  · rcases hp'.passed.row_cases hp'.listed hm' with ⟨heq', -⟩ | ⟨b, hb, rfl, heq'⟩
    · rw [heq, heq']
    · have hnone := acts_alone h.symm hleftv hp' hp hb hno
      rw [heq, heq', VIPMembership.applied, hnone]
  · rcases hp'.passed.row_cases hp'.listed hm' with ⟨heq', hno⟩ | ⟨b, hb, hbm, heq'⟩
    · have hnone := acts_alone h hleft' hp hp' ha hno
      rw [heq, heq', VIPMembership.applied, hnone]
    · have hagree := acts_agree h hp hp' ha hb (by rw [hbm])
      rw [heq, heq', hagree.2.2.1]

/-- What one pass expires, the other does. -/
theorem expires_agree (h : Alike w.db v.db) (hone : OneEach tenantId w.db)
    (hleft' : ∀ m, left' m → Outage tenantId account input w.db m)
    (hp : GuidedPass G S tenantId account input periodStart left w ms visited acts w₂ w')
    (hp' : GuidedPass G S tenantId account input periodStart' left' v ms' visited' acts' v₂ v')
    {r : Subscription} (hr : r ∈ w.db .subscriptions)
    (hex : acts.any (·.expires (w.opened tenantId) r) = true) :
    acts'.any (·.expires (v.opened tenantId) r) = true := by
  obtain ⟨a, ha, hexa⟩ := List.any_eq_true.mp hex
  simp only [Act.expires, Bool.and_eq_true, decide_eq_true_eq] at hexa
  obtain ⟨hrevoke, hexa⟩ := hexa
  -- The subscription is the one that was read: of the user, in the account's market.
  obtain ⟨s, hs, hin⟩ := (Option.any_eq_true _ _).mp hexa
  have hsid := World.inScope_cond hin
  simp only [beq_iff_eq] at hsid
  obtain ⟨hsmem, hsin⟩ := (hp.passed.holds a ha).carried.subscription_some hrevoke s hs
  have hsr : s = r := hp.listed.sound.db.eq_of_clash (t := .subscriptions) hsmem hr
    (by simp [clash, hsid])
  rw [hsr] at hsin
  by_cases hno : ∀ b ∈ acts', b.membership.id ≠ a.membership.id
  · have hnone := acts_alone h hleft' hp hp' ha hno
    rw [hrevoke] at hnone
    cases hnone
  · push Not at hno
    obtain ⟨b, hb, hid⟩ := hno
    obtain ⟨hm, hfacts, hdecision, -⟩ := acts_agree h hp hp' ha hb hid.symm
    simp only [accountFacts, Prod.mk.injEq] at hfacts
    have hrevoke' : b.judgement.decision.action = .revoke := hdecision ▸ hrevoke
    have hcarried := (hp'.passed.holds b hb).carried
    have hrv : r ∈ v.db .subscriptions := h.subscriptions ▸ hr
    rw [hm, hfacts.2.2.2.2.1] at hsin
    refine List.any_eq_true.mpr ⟨b, hb, ?_⟩
    simp only [Act.expires, hrevoke', decide_true, Bool.true_and, Reaction.expires]
    cases hx : b.reaction.subscription with
    | none =>
      have hout := hcarried.subscription_none hrevoke' hx r hrv
      have hin' : (v.opened tenantId).inScope (t := .subscriptions) (subscriptionOf
          (v.opened tenantId).tenantId b.membership.userId b.judgement.account.market) r = true :=
        hsin
      rw [hin'] at hout
      cases hout
    | some s' =>
      obtain ⟨hsmem', hsin'⟩ := hcarried.subscription_some hrevoke' s' hx
      have hc := World.inScope_cond hsin
      have hc' := World.inScope_cond hsin'
      simp only [subscriptionOf, Bool.and_eq_true, beq_iff_eq] at hc hc'
      have hmem' : s' ∈ w.db .subscriptions := h.subscriptions ▸ hsmem'
      have hsame : r = s' := by
        refine hone r hr s' hmem' hc.1.1 ?_ ?_ ?_
        · exact hc.1.1.trans hc'.1.1.symm
        · exact hc.1.2.trans hc'.1.2.symm
        · exact hc.2.trans hc'.2.symm
      have ht := World.inScope_tenant hsin
      simp only [Option.any_some, World.inScope, ← hsame, beq_self_eq_true, Bool.and_true,
        beq_iff_eq]
      exact ht

/-- Both passes leave the same subscriptions. -/
theorem subscriptions_agree (h : Alike w.db v.db) (hone : OneEach tenantId w.db)
    (hleft : ∀ m, left m → Outage tenantId account input w.db m)
    (hleft' : ∀ m, left' m → Outage tenantId account input w.db m)
    (hp : GuidedPass G S tenantId account input periodStart left w ms visited acts w₂ w')
    (hp' : GuidedPass G S tenantId account input periodStart' left' v ms' visited' acts' v₂ v') :
    w'.db .subscriptions = v'.db .subscriptions := by
  rw [hp.committed _ (by decide), hp'.committed _ (by decide), hp.passed.subscription_rows,
    hp'.passed.subscription_rows]
  have hrows : (v.opened tenantId).view .subscriptions = (w.opened tenantId).view .subscriptions :=
    h.subscriptions.symm
  have honev : OneEach tenantId v.db := by
    unfold OneEach
    rw [← h.subscriptions]
    exact hone
  rw [hrows]
  refine List.map_congr_left fun r hr => ?_
  have hsame : acts.any (·.expires (w.opened tenantId) r) =
      acts'.any (·.expires (v.opened tenantId) r) := by
    rw [Bool.eq_iff_iff]
    refine ⟨expires_agree h hone hleft' hp hp' hr, ?_⟩
    exact expires_agree h.symm honev (fun m hl => (hleft m hl).alike h) hp' hp
      (h.subscriptions ▸ hr)
  rw [hsame]

/-- Both passes make the same calls about a membership. -/
theorem calls_agree (h : Alike w.db v.db)
    (hleft : ∀ m, left m → Outage tenantId account input w.db m)
    (hleft' : ∀ m, left' m → Outage tenantId account input w.db m)
    (hp : GuidedPass G S tenantId account input periodStart left w ms visited acts w₂ w')
    (hp' : GuidedPass G S tenantId account input periodStart' left' v ms' visited' acts' v₂ v')
    (id : RowId) :
    (acts.flatMap (·.calls S.policy tenantId periodStart)).filter (·.concerns id) =
      (acts'.flatMap (·.calls S.policy tenantId periodStart')).filter (·.concerns id) := by
  have hd := hp.passed.distinct hp.listed
  have hd' := hp'.passed.distinct hp'.listed
  by_cases hno : ∀ a ∈ acts, a.membership.id ≠ id
  · rw [calls_without hno]
    by_cases hno' : ∀ b ∈ acts', b.membership.id ≠ id
    · rw [calls_without hno']
    · push Not at hno'
      obtain ⟨b, hb, rfl⟩ := hno'
      have hnone := acts_alone h.symm (fun m hl => (hleft m hl).alike h) hp' hp hb hno
      rw [calls_with hd' hb, Act.calls_none hnone]
  · push Not at hno
    obtain ⟨a, ha, rfl⟩ := hno
    rw [calls_with hd ha]
    by_cases hno' : ∀ b ∈ acts', b.membership.id ≠ a.membership.id
    · rw [calls_without hno', Act.calls_none (acts_alone h hleft' hp hp' ha hno')]
    · push Not at hno'
      obtain ⟨b, hb, hid⟩ := hno'
      have hstart : periodStart = periodStart' :=
        Except.ok.inj (hp.period_of.symm.trans hp'.period_of)
      rw [← hid, calls_with hd' hb, ← hstart]
      exact (acts_agree h hp hp' ha hb hid.symm).2.2.2

/-- Databases that read the same do so after passes that are told the same. -/
theorem alike_after (h : Alike w.db v.db) (hone : OneEach tenantId w.db)
    (hleft : ∀ m, left m → Outage tenantId account input w.db m)
    (hleft' : ∀ m, left' m → Outage tenantId account input w.db m)
    (hp : GuidedPass G S tenantId account input periodStart left w ms visited acts w₂ w')
    (hp' : GuidedPass G S tenantId account input periodStart' left' v ms' visited' acts' v₂ v') :
    Alike w'.db v'.db where
  memberships := memberships_agree h hleft hleft' hp hp'
  subscriptions := subscriptions_agree h hone hleft hleft' hp hp'
  accounts := by
    rw [hp.committed _ (by decide), hp'.committed _ (by decide), hp.passed.accountsKept,
      hp'.passed.accountsKept]
    exact h.accounts
  configured := fun t ht => by
    have htables : t ∉ [Table.referralAccounts, .tradingActivitySnapshots, .vipMemberships,
        .subscriptions, .jobExecutions] ∧ t ≠ .jobExecutions := by
      simp only [List.mem_cons, List.not_mem_nil, or_false] at ht
      rcases ht with rfl | rfl | rfl <;> decide
    rw [hp.committed t htables.2, hp'.committed t htables.2, hp.passed.other t htables.1,
      hp'.passed.other t htables.1]
    exact h.configured t ht

/-- A pass gives nobody a second subscription of a market. -/
theorem OneEach.after (hone : OneEach tenantId w.db) {moment : DateTime}
    (hp : PassWithout G S tenantId moment periodStart left w ms visited acts w₂ w') :
    OneEach tenantId w'.db := by
  have hfrom : ∀ s ∈ w'.db .subscriptions, ∃ r ∈ w.db .subscriptions,
      subscriptionFacts s = subscriptionFacts r ∧
        s = if acts.any (·.expires (w.opened tenantId) r) then r.expired moment else r := by
    intro s hs
    rw [hp.committed _ (by decide), hp.passed.subscription_rows] at hs
    obtain ⟨r, hr, rfl⟩ := List.mem_map.mp hs
    refine ⟨r, hr, ?_, rfl⟩
    split <;> rfl
  intro s hs s' hs' ht ht' hu hm
  obtain ⟨r, hr, hfacts, hsr⟩ := hfrom s hs
  obtain ⟨r', hr', hfacts', hsr'⟩ := hfrom s' hs'
  simp only [subscriptionFacts, Prod.mk.injEq] at hfacts hfacts'
  have hrr : r = r' := by
    refine hone r hr r' hr' (hfacts.2.1.symm.trans ht) ?_ ?_ ?_
    · rw [← hfacts.2.1, ← hfacts'.2.1, ht']
    · rw [← hfacts.2.2.1, ← hfacts'.2.2.1, hu]
    · rw [← hfacts.2.2.2, ← hfacts'.2.2.2, hm]
  rw [hsr, hsr', hrr]

end Pair

/-! ## Sequences of passes -/

section Sequences

variable {G : World → Op → Choice → Prop} {S : Settings} {tenantId : TenantId}
  {account : RowId → RowId} {id : RowId} {w v w' v' : World}

/-- A pass without the membership, where its verdict is that the provider is unavailable. -/
def PassSparing (G : World → Op → Choice → Prop) (S : Settings) (tenantId : TenantId)
    (account : RowId → RowId) (id : RowId) (input : PassInput) (w w' : World) : Prop :=
  PassOn G S tenantId account (fun m => m.id = id ∧ Outage tenantId account input w.db m) input w w'

/-- Telegram was told the same about every membership. -/
def ToldAlike (w v : World) : Prop :=
  ∀ k, w.allSent.filter (·.concerns k) = v.allSent.filter (·.concerns k)

theorem passes_agree {inputs : List PassInput} (halike : Alike w.db v.db)
    (hone : OneEach tenantId w.db) (htold : ToldAlike w v)
    (h : Passes (PassMade G S tenantId account) inputs w w')
    (h' : Passes (PassSparing G S tenantId account id) inputs v v') :
    Alike w'.db v'.db ∧ ToldAlike w' v' := by
  induction h generalizing v with
  | done =>
    cases h'
    exact ⟨halike, htold⟩
  | @next input inputs w w₁ w' hpass _ ih =>
    cases h' with
    | @next _ _ _ v₁ _ hpass' hrest =>
      obtain ⟨-, periodStart, ms, visited, acts, w₂, hp⟩ := hpass
      obtain ⟨periodStart', ms', visited', acts', v₂, hp'⟩ := hpass'
      have hleft : ∀ m : VIPMembership, False → Outage tenantId account input w.db m :=
        fun _ hno => hno.elim
      have hleft' : ∀ m, m.id = id ∧ Outage tenantId account input v.db m →
          Outage tenantId account input w.db m := fun _ hl => hl.2.alike halike.symm
      refine ih (alike_after halike hone hleft hleft' hp hp') (hone.after hp.toPassWithout) ?_ hrest
      intro k
      rw [hp.allSent, hp'.allSent, List.filter_append, List.filter_append, htold k,
        calls_agree halike hleft hleft' hp hp' k]

/-- A pass in which no check through the account was answered. -/
theorem PassOn.unanswered {left : VIPMembership → Prop} {input : PassInput}
    (h : PassOn G S tenantId account left input w w') {accountId : RowId}
    (hraised : ∀ m ∈ w.db .vipMemberships, account m.id = accountId → input.answer m.id = none) :
    NothingLearnt accountId w.db w'.db := by
  obtain ⟨periodStart, ms, visited, acts, w₂, hp⟩ := h
  have hlearnt := hp.loop.unanswered accountId fun a ha hid => by
    obtain ⟨haccount, hcheck⟩ := hp.guided.judged a ha
    rw [hcheck]
    exact hraised _ (hp.listed.mem (hp.passed.membership_mem ha)).1 (haccount.symm.trans hid)
  refine ⟨?_, ?_⟩
  · rw [hp.committed _ (by decide)]
    exact hlearnt.balance
  · rw [hp.committed _ (by decide)]
    exact hlearnt.snapshots

/-- Leaving a membership out of the passes in which the provider was unavailable for it makes
    no difference to the membership, the subscriptions and what Telegram is told about it; and
    a pass whose check raised learns nothing about the account. -/
theorem outages_invisible {G₀ : World → Op → Choice → Prop} {key : EncryptionKey} {w₀ : World}
    (hsound : w₀.Sound)
    (hms : ∀ m ∈ w₀.db .vipMemberships, m.tenantId ≠ tenantId)
    (hsubs : ∀ s ∈ w₀.db .subscriptions, s.tenantId ≠ tenantId)
    (hreached : Operations G₀ key S w₀ w) {inputs : List PassInput}
    (h : Passes (PassMade G S tenantId account) inputs w w')
    (h' : Passes (PassSparing G S tenantId account id) inputs w v') :
    (w'.db .vipMemberships = v'.db .vipMemberships ∧
      w'.db .subscriptions = v'.db .subscriptions ∧
      w'.allSent.filter (·.concerns id) = v'.allSent.filter (·.concerns id)) ∧
    ∀ input u u', PassMade G S tenantId account input u u' → ∀ accountId,
      (∀ m ∈ u.db .vipMemberships, account m.id = accountId → input.answer m.id = none) →
      NothingLearnt accountId u.db u'.db := by
  have hone : OneEach tenantId w.db := (hreached.entitled hsound hms hsubs).2.one
  obtain ⟨halike, htold⟩ := passes_agree (.refl w.db) hone (fun _ => rfl) h h'
  refine ⟨⟨halike.memberships, halike.subscriptions, htold id⟩, ?_⟩
  intro input u u' hpass accountId hraised
  exact hpass.2.unanswered hraised

end Sequences

/-! ## An outage after the first week -/

/-- The exchange is down. -/
def downEnv : World → Op → Choice := calmEnv 107 fun _ => none

def admittedWorld : World :=
  (exec World.step welcomingEnv ((Operation.update "hook" (some uidMessage)).program
    (.key some) defaultSettings 1) hookedWorld).2

def afterOutage : World :=
  (exec World.step downEnv (passTx defaultSettings.period defaultSettings.policy 1 none)
    admittedWorld).2

/-- What the pass is told: the member's only account has id 1, and nothing about it. -/
def outageInput : PassInput where
  moment := World.reading (downEnv admittedWorld .utcnow)
  answer _ := none

theorem unanswered_downEnv {uid : String} {check : Option ReferralCheck}
    (h : Answerable (Only downEnv) uid check) : check = none := by
  obtain ⟨w, c, rfl, ⟨-, hfault⟩ | ⟨hnone, -⟩⟩ := h
  · cases hfault
  · exact hnone

theorem passMade_downEnv (hsound : admittedWorld.Sound) :
    PassMade (Only downEnv) defaultSettings 1 (fun _ => 1) outageInput admittedWorld
      afterOutage := by
  have hruns := runs_only downEnv
    (passTx defaultSettings.period defaultSettings.policy 1 none) admittedWorld
  have hok : (exec World.step downEnv (passTx defaultSettings.period defaultSettings.policy 1 none)
      admittedWorld).1.toOption.join.any (·.claimed) = true := by decide +kernel
  obtain ⟨report, hsome, hclaimed⟩ := (Option.any_eq_true _ _).mp hok
  have hresult : (exec World.step downEnv
      (passTx defaultSettings.period defaultSettings.policy 1 none) admittedWorld).1 =
      .ok (some report) := by
    revert hsome
    generalize (exec World.step downEnv
      (passTx defaultSettings.period defaultSettings.policy 1 none) admittedWorld).1 = result
    intro hsome
    cases result with
    | error e => cases hsome
    | ok report? =>
      have hreport : report? = some report := hsome
      rw [hreport]
  rw [hresult] at hruns
  obtain ⟨moment, periodStart, ms, acts, w₂, hmoment, hp⟩ :=
    passWithout_of_runs hsound hclaimed hruns
  have hnow : moment = outageInput.moment := by
    rcases hmoment with hno | ⟨-, c, rfl, hread⟩
    · cases hno
    · exact hread
  rw [hnow] at hp
  have haccounts : ∀ r ∈ admittedWorld.db .referralAccounts, r.id = 1 := by decide +kernel
  refine ⟨⟨none, report, hclaimed, hruns⟩, periodStart, ms, ms, acts, w₂, hp, fun a ha => ?_,
    fun m hm => ?_⟩
  · have hj := (hp.loop.toPassed.holds a ha).judged
    exact ⟨haccounts _ hj.account_mem, unanswered_downEnv hj.answer⟩
  · rcases hp.loop.complete m hm with hact | ⟨picked, hunasked⟩
    · exact .inl hact
    · refine .inr ⟨picked, hunasked, fun id hid => ?_⟩
      cases hunasked with
      | noAccount _ => cases hid
      | noProgram hmem _ _ =>
        cases hid
        exact haccounts _ hmem

/-- A pass in an outage, and no pass over the member at all. -/
theorem outage_unnoticed :
    (afterOutage.db .vipMemberships).length = 1 ∧
      (afterOutage.db .jobExecutions).map (·.skippedUnavailable) = [1] ∧
      afterOutage.db .vipMemberships = admittedWorld.db .vipMemberships ∧
      afterOutage.db .subscriptions = admittedWorld.db .subscriptions ∧
      afterOutage.allSent.filter (·.concerns 3) = admittedWorld.allSent.filter (·.concerns 3) := by
  have hreached : Operations (Only welcomingEnv) (.key some) defaultSettings hookedWorld
      admittedWorld := by
    have hruns := runs_only welcomingEnv
      ((Operation.update "hook" (some uidMessage)).program (.key some) defaultSettings 1)
      hookedWorld
    exact .single ⟨1, .update _ _, _, nofun, hruns⟩
  have hsound : admittedWorld.Sound :=
    (hreached.entitled (A := 1) sound_hookedWorld (fun _ h => nomatch h) fun _ h => nomatch h).1
  -- The other sequence: the only membership is left out, and nothing else is to be done.
  have hmade := passMade_downEnv hsound
  obtain ⟨-, periodStart, ms, visited, acts, w₂, hp⟩ := id hmade
  have hout : ∀ m ∈ admittedWorld.db .vipMemberships, m.id = 3 := by decide +kernel
  have houtage : ∃ r ∈ admittedWorld.db .referralAccounts, r.id = 1 ∧
      ∃ config ∈ admittedWorld.db .referralProgramConfigs, config.tenantId = 1 ∧
        config.providerType = r.providerType ∧ config.market = r.market := by decide +kernel
  have hspared : PassSparing (Only downEnv) defaultSettings 1 (fun _ => 1) 3 outageInput
      admittedWorld (admittedWorld.opened 1) := by
    refine ⟨periodStart, _, [], [], admittedWorld.opened 1, {
      period_of := hp.period_of
      listed := ⟨.refl _, hsound.opened 1⟩
      sublist := List.nil_sublist _
      left_out := fun m hm _ => ?_
      loop := .start (.refl _)
      committed := fun _ _ => rfl
      allSent := ?_
      guided := ⟨(fun _ h => nomatch h), fun _ h => nomatch h⟩ }⟩
    · obtain ⟨r, hr, hid, config, hconfig, ht, hprovider, hmarket⟩ := houtage
      exact ⟨hout m (List.mem_filter.mp hm).1, r, hr, hid, config, hconfig, ht,
        hprovider.symm ▸ rfl, hmarket.symm ▸ rfl, _, evaluateReferral_none _ _, rfl⟩
    · rfl
  obtain ⟨⟨hms, hsubs, hcalls⟩, -⟩ := outages_invisible sound_hookedWorld (fun _ h => nomatch h)
    (fun _ h => nomatch h) hreached (.next hmade .done)
    (.next hspared .done)
  refine ⟨by decide +kernel, by decide +kernel, hms, hsubs, hcalls.trans ?_⟩
  exact congrArg (List.filter _) (List.append_nil _)

end VipChannel

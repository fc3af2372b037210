/-
  VipChannel.Runs.Punishment

  When a pass leaves a member in peace.

  A pass judges a membership through whichever of the user's accounts it lists first,
  under the program of that account's market.  So a member with one qualifying account
  may be warned, and in the end removed, through another account: a mistyped UID, or
  the UID of a second market.
-/
import VipChannel.Runs.Events

namespace VipChannel

open Lib MembershipMonitor

/-- Warned or removed. -/
def ComplianceAction.punishes : ComplianceAction → Bool
  | .warn | .revoke => true
  | .none | .restore => false

/-- Between `w` and `w'` nothing was done against `m`: no call about it was a warning or
    part of a removal, and its row is as it was, or restored. -/
structure Unpunished (m : VIPMembership) (w w' : World) : Prop where
  calls : ∃ calls, w'.allSent = w.allSent ++ calls ∧ ∀ s ∈ calls, ∀ action periodStart,
    s.about = some (.compliance m.id action periodStart) → action.punishes = false
  row : ∀ m' ∈ w'.db .vipMemberships, m'.id = m.id → m' = m ∨ m' = m.restored

theorem VIPMembership.applied_of_not_punishes {d : ComplianceDecision} {moment : DateTime}
    {m : VIPMembership} (h : d.action.punishes = false) :
    m.applied d moment = m ∨ m.applied d moment = m.restored := by
  unfold VIPMembership.applied
  cases ha : d.action with
  | none => exact .inl rfl
  | restore => exact .inr rfl
  | warn | revoke =>
    rw [ha] at h
    cases h

section Pass

variable {G : World → Op → Choice → Prop} {S : Settings} {tenantId : TenantId}
  {now : Option DateTime} {w w' : World} {m : VIPMembership}

/-- A pass punishes only through a judgement it can make when it starts. -/
theorem pass_spares (hw : w.Sound) (hstep : Event.Steps G S (.pass tenantId now) w w')
    (hm : m ∈ w.db .vipMemberships)
    (hspare : ∀ moment, MomentOf G (w.opened tenantId) now moment → ∀ j : Judgement,
      j.Holds G S.policy moment (w.opened tenantId) m → m.tenantId = tenantId →
      j.decision.action.punishes = false) : Unpunished m w w' := by
  have hquiet : w'.db = w.db → ∀ m' ∈ w'.db .vipMemberships, m'.id = m.id →
      m' = m ∨ m' = m.restored := by
    intro hdb m' hm' hid
    rw [hdb] at hm'
    exact .inl (hw.db.eq_of_clash (t := .vipMemberships) hm' hm (by simp [clash, hid]))
  -- An act about `m` comes from a judgement of `m`.
  have hact : ∀ {moment periodStart ms} {a : Act},
      PassStart G S tenantId now w moment periodStart ms → a.membership ∈ ms →
      a.judgement.Holds G S.policy moment (w.opened tenantId) a.membership →
      a.membership.id = m.id → a.judgement.decision.action.punishes = false := by
    intro moment periodStart ms a hstart hmem hj hid
    have heq : m = a.membership := hstart.listed.eq_of_id hmem hm hid.symm
    rw [← heq] at hj hmem
    exact hspare moment hstart.moment_of _ hj (hstart.listed.mem hmem).2.1
  have hcalls : ∀ {moment periodStart ms} {a : Act} {s : Sent},
      PassStart G S tenantId now w moment periodStart ms → a.membership ∈ ms →
      a.judgement.Holds G S.policy moment (w.opened tenantId) a.membership →
      s ∈ a.calls S.policy tenantId periodStart → ∀ action start,
      s.about = some (.compliance m.id action start) → action.punishes = false := by
    intro moment periodStart ms a s hstart hmem hj hs action start habout
    rw [Act.about_of_mem hs] at habout
    simp only [Option.some.injEq, Concern.compliance.injEq] at habout
    rw [← habout.2.1]
    exact hact hstart hmem hj habout.1
  cases pass_effect hw hstep with
  | quiet hdb hsent =>
    refine ⟨⟨[], by rw [hsent, List.append_nil], fun s hs => ?_⟩, hquiet hdb⟩
    cases hs
  | @committed moment periodStart ms acts w₂ hstart hpassed hdb _ hsent =>
    refine ⟨⟨_, hsent, fun s hs => ?_⟩, fun m' hm' hid => ?_⟩
    · obtain ⟨a, ha, hs⟩ := List.mem_flatMap.mp hs
      exact hcalls hstart (hpassed.membership_mem ha) (hpassed.holds a ha).judged hs
    · rw [hdb _ (by decide)] at hm'
      obtain ⟨m₀, hm₀, hid₀, hrow⟩ := hpassed.row_of_mem hstart.listed hm'
      have heq : m₀ = m := hw.db.eq_of_clash (t := .vipMemberships) hm₀ hm
        (by simp [clash, ← hid₀, hid])
      subst heq
      rcases hrow with rfl | ⟨a, ha, rfl, rfl⟩
      · exact .inl rfl
      · exact VIPMembership.applied_of_not_punishes
          (hact hstart (hpassed.membership_mem ha) (hpassed.holds a ha).judged rfl)
  | @lost moment periodStart done rest acts w₂ calls hstart hpassed htrail hdb hsent =>
    refine ⟨⟨_, hsent, fun s hs => ?_⟩, hquiet hdb⟩
    rcases List.mem_append.mp hs with hs | hs
    · obtain ⟨a, ha, hs⟩ := List.mem_flatMap.mp hs
      exact hcalls hstart (List.mem_append_left _ (hpassed.membership_mem ha))
        (hpassed.holds a ha).judged hs
    · rcases htrail with rfl | ⟨a, hhead, hj, hpre⟩
      · cases hs
      · have hmem := List.mem_of_head? hhead
        exact hcalls hstart (List.mem_append_right _ hmem) hj.judged (hpre.subset hs)

end Pass

/-! ## The qualifying member -/

/-- `answers` is what the exchange answers now. -/
def Answers (G : World → Op → Choice → Prop) (answers : String → Option ReferralCheck) : Prop :=
  ∀ uid check, Answerable G uid check → check = answers uid

/-- The member of `m` owns a verified account `a` that satisfies the rules of the market of
    the membership's own channel. -/
structure Qualifies (answers : String → Option ReferralCheck) (w : World) (m : VIPMembership)
    (a : ReferralAccount) (channel : TelegramChannel) (config : ReferralProgramConfig) :
    Prop where
  account_mem : a ∈ w.db .referralAccounts
  account_owner : a.tenantId = m.tenantId ∧ a.userId = m.userId
  verified : a.status = .verified
  channel_mem : channel ∈ w.db .telegramChannels
  channel_id : channel.id = m.channelId
  config_mem : config ∈ w.db .referralProgramConfigs
  config_keys : config.tenantId = m.tenantId ∧ config.providerType = a.providerType ∧
    config.market = channel.market
  satisfied : ∃ v, evaluateReferral (answers a.uid) config.rules true = .ok v ∧
    v.eligible = true

/-- Judged through `a` at `moment`, under the program of the market of `a`, the member gets
    no blame, or the grace period or the warning interval holds it back. -/
def Spares (answers : String → Option ReferralCheck) (policy : CompliancePolicy)
    (moment : DateTime) (w : World) (m : VIPMembership) (a : ReferralAccount) : Prop :=
  ∀ config ∈ w.db .referralProgramConfigs, config.tenantId = a.tenantId →
    config.providerType = a.providerType → config.market = a.market →
    ∀ v d, evaluateReferral (answers a.uid) config.rules true = .ok v →
      decideCompliance m.snapshot v (policyFor policy config) moment = .ok d →
      d.action.punishes = false

/-- Every account of the member spares it, unless it is `a` itself, in the market of the
    membership's channel. -/
def OthersSpare (answers : String → Option ReferralCheck) (policy : CompliancePolicy)
    (moment : DateTime) (w : World) (m : VIPMembership) (a : ReferralAccount)
    (channel : TelegramChannel) : Prop :=
  ∀ b ∈ w.db .referralAccounts, b.tenantId = m.tenantId → b.userId = m.userId →
    (b ≠ a ∨ a.market ≠ channel.market) → Spares answers policy moment w m b

theorem not_punishes_of_eligible {snapshot : MembershipSnapshot} {v : EligibilityVerdict}
    {policy : CompliancePolicy} {moment : DateTime} {d : ComplianceDecision}
    (h : decideCompliance snapshot v policy moment = .ok d) (hv : v.eligible = true) :
    d.action.punishes = false := by
  have hblame : ∀ {p : CompliancePolicy}, ¬ Punishable snapshot v p moment := by
    intro p hp
    rw [hp.blamed.2] at hv
    cases hv
  rcases decideCompliance_cases h with ⟨ha, -⟩ | ⟨ha, -⟩ | ⟨-, hp, -⟩ | ⟨-, hp, -⟩
  · rw [ha]; rfl
  · rw [ha]; rfl
  · exact absurd hp hblame
  · exact absurd hp hblame

/-- A qualifying member is not punished by a pass that finds nothing against the member in
    the other accounts. -/
theorem qualifying_member_unpunished {G G' : World → Op → Choice → Prop} {S : Settings}
    {w₀ w w' : World} {answers : String → Option ReferralCheck} {tenantId : TenantId}
    {now : Option DateTime} {m : VIPMembership} {a : ReferralAccount}
    {channel : TelegramChannel} {config : ReferralProgramConfig} (h0 : Initial w₀)
    (hrun : Run G S Always w₀ w) (hstep : Event.Steps G' S (.pass tenantId now) w w')
    (hanswers : Answers G' answers) (hm : m ∈ w.db .vipMemberships)
    (hq : Qualifies answers w m a channel config)
    (hothers : ∀ moment, MomentOf G' (w.opened tenantId) now moment →
      OthersSpare answers S.policy moment w m a channel) : Unpunished m w w' := by
  have hw : w.Sound := hrun.invariant h0.sound fun _ _ _ hw _ he => he.sound hw
  refine pass_spares hw hstep hm fun moment hmoment j hj ht => ?_
  have hcheck := hanswers _ _ hj.answer
  have hjudged := hj.judged
  rw [hcheck] at hjudged
  have haccount : j.account.tenantId = m.tenantId := hj.account_tenant.trans ht.symm
  by_cases hown : j.account = a ∧ a.market = channel.market
  · -- The qualifying account, under the rules it satisfies.
    obtain ⟨rfl, hmarket⟩ := hown
    have hconfig : j.config = config := by
      refine hw.db.eq_of_clash (t := .referralProgramConfigs) hj.config_mem hq.config_mem ?_
      simp only [clash, decide_eq_true_eq]
      refine ⟨?_, ?_, ?_⟩
      · rw [hj.config_tenant, hq.config_keys.1, ht]
        rfl
      · rw [hj.config_provider, hq.config_keys.2.1]
      · rw [hj.config_market, hq.config_keys.2.2, hmarket]
    obtain ⟨v, hv, helig⟩ := hq.satisfied
    rw [hconfig, hv] at hjudged
    cases hjudged
    exact not_punishes_of_eligible hj.decided helig
  · have hother : j.account ≠ a ∨ a.market ≠ channel.market := by
      by_cases heq : j.account = a
      · exact .inr fun hmarket => hown ⟨heq, hmarket⟩
      · exact .inl heq
    exact hothers moment hmoment j.account hj.account_mem haccount hj.account_user hother
      j.config hj.config_mem (hj.config_tenant.trans hj.account_tenant.symm) hj.config_provider
      hj.config_market j.verdict j.decision hjudged hj.decided

/-! ### A mistyped UID -/

/-- The exchange of a user whose first UID was mistyped. -/
def typoAnswers (uid : String) : Option ReferralCheck :=
  if uid = "111111111" then some (strangerCheck uid) else some (fundedCheck uid)

def firstSubmission : Event := .submit 1 77 .crypto "111111111" none none

def secondSubmission : Event := .submit 1 77 .crypto "222222222" none none

/-- The member after both submissions. -/
def typoWorld : World :=
  secondSubmission.play (calmEnv 100 typoAnswers) defaultSettings
    (firstSubmission.play (calmEnv 100 typoAnswers) defaultSettings configuredWorld)

def typoMembership : VIPMembership where
  id := 4
  createdAt := .day 100
  tenantId := 1
  userId := 0
  channelId := 1
  subscriptionId := some 3
  status := .invited
  inviteLink := some "https://t.me/+0"
  inviteIssuedAt := some (.day 100)

def typoAccount : ReferralAccount where
  id := 2
  tenantId := 1
  userId := 0
  providerType := .bitunix
  market := .crypto
  uid := "222222222"
  status := .verified
  complianceState := .compliant
  lastKnownBalance := some (.finite false 50000000000 (-8))
  lastCheckedAt := some (.day 100)
  verifiedAt := some (.day 100)

theorem answers_calmEnv (day : Fin 2932896) (answers : String → Option ReferralCheck) :
    Answers (Only (calmEnv day answers)) answers := by
  rintro uid check ⟨w, c, rfl, h⟩
  unfold calmEnv at h
  cases ha : answers uid with
  | none =>
    simp only [ha] at h
    rcases h with ⟨-, hfault⟩ | ⟨hcheck, -⟩
    · cases hfault
    · exact hcheck
  | some answer =>
    simp only [ha] at h
    rcases h with ⟨hcheck, -⟩ | ⟨-, e, hfault, -⟩
    · exact hcheck
    · cases hfault

theorem run_typoWorld : Run Anything defaultSettings Always configuredWorld typoWorld :=
  have first := Run.play .refl (fun _ _ => trivial) firstSubmission trivial
  first.play (fun _ _ => trivial) secondSubmission trivial

theorem qualifies_typo {answers : String → Option ReferralCheck}
    (h : answers "222222222" = some (fundedCheck "222222222")) :
    Qualifies answers typoWorld typoMembership typoAccount cryptoChannel (configOf .crypto) := by
  refine ⟨?_, ⟨rfl, rfl⟩, rfl, ?_, rfl, ?_, ⟨rfl, rfl, rfl⟩, ?_⟩
  · decide +kernel
  · decide +kernel
  · decide +kernel
  · change ∃ v, evaluateReferral (answers "222222222") _ true = .ok v ∧ v.eligible = true
    rw [h]
    exact ⟨_, rfl, by decide +kernel⟩

/-- The member is warned for the UID that was mistyped at first. -/
theorem mistyped_uid_is_punished :
    ¬ ∀ (G G' : World → Op → Choice → Prop) (S : Settings) (w₀ w w' : World)
      (answers : String → Option ReferralCheck) (tenantId : TenantId) (now : Option DateTime)
      (m : VIPMembership) (a : ReferralAccount) (channel : TelegramChannel)
      (config : ReferralProgramConfig), Initial w₀ → Run G S Always w₀ w →
      Event.Steps G' S (.pass tenantId now) w w' → Answers G' answers →
      m ∈ w.db .vipMemberships → Qualifies answers w m a channel config →
      Unpunished m w w' := by
  intro h
  have hspared := h _ (Only (calmEnv 200 typoAnswers)) _ _ _ _ _ 1 none typoMembership typoAccount
    _ _ initial_configuredWorld run_typoWorld (Event.steps_only _ _ _ _)
    (answers_calmEnv 200 typoAnswers) (by decide +kernel) (qualifies_typo (if_neg (by decide)))
  have hwarned : { typoMembership with
      warningsSent := 1, lastWarningAt := some (.day 200) } ∈
      ((Event.pass 1 none).play (calmEnv 200 typoAnswers) defaultSettings typoWorld).db
        .vipMemberships := by decide +kernel
  have hrow := hspared.row _ hwarned rfl
  revert hrow
  decide

/-- The exchange of the same user, while it does not answer for the first UID. -/
def partialOutage (uid : String) : Option ReferralCheck :=
  if uid = "111111111" then none else some (fundedCheck uid)

/-- The mistyped UID does no harm while the exchange says nothing about it. -/
theorem outage_of_the_other_spares :
    Unpunished typoMembership typoWorld
      ((Event.pass 1 none).play (calmEnv 200 partialOutage) defaultSettings typoWorld) := by
  have haccounts : ∀ b ∈ typoWorld.db .referralAccounts,
      b = typoAccount ∨ b.uid = "111111111" := by decide +kernel
  refine qualifying_member_unpunished initial_configuredWorld run_typoWorld
    (Event.steps_only _ _ _ _) (answers_calmEnv 200 partialOutage) (by decide +kernel)
    (qualifies_typo (if_neg (by decide))) ?_
  rintro moment - b hb - - hother config - - - - v d hv hd
  rcases haccounts b hb with rfl | huid
  · rcases hother with hne | hmarket
    · exact absurd rfl hne
    · exact absurd rfl hmarket
  · have hnone : partialOutage b.uid = none := by
      rw [huid]
      decide
    rw [hnone, evaluateReferral_none] at hv
    cases hv
    rw [decideCompliance_unavailable hd rfl]
    rfl

end VipChannel

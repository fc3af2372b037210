/-
  VipChannel.Jobs.MonitorSpec

  What one step of a monitoring pass can do to the world.

  A step that judges a membership is determined by what it read (`Judgement`,
  `Reaction`): `outcome` is the world it leaves, `reactions` the calls it sends.  A
  step that raises has sent a prefix of them.  Whoever reasons about passes uses
  `meets_process` and never unfolds `process`.
-/
import VipChannel.Jobs.MembershipMonitor
import VipChannel.Services.OnboardingSpec

namespace VipChannel

open Lib
open Program (perform raising)

/-- What a step found out about a membership, and what it decided. -/
structure Judgement where
  account : ReferralAccount
  config : ReferralProgramConfig
  check : Option ReferralCheck
  verdict : EligibilityVerdict
  decision : ComplianceDecision
  periodEnd : DateTime

/-- What a step read to carry its decision out. -/
structure Reaction where
  user : Option TelegramUser
  channel : Option TelegramChannel
  subscription : Option Subscription

/-- The judgement of `m` at `moment` that the rows of `w` allow. -/
structure Judgement.Holds (G : World → Op → Choice → Prop) (policy : CompliancePolicy)
    (moment : DateTime) (w : World) (m : VIPMembership) (j : Judgement) : Prop where
  account_mem : j.account ∈ w.view .referralAccounts
  account_tenant : j.account.tenantId = w.tenantId
  account_user : j.account.userId = m.userId
  config_mem : j.config ∈ w.view .referralProgramConfigs
  config_tenant : j.config.tenantId = w.tenantId
  config_provider : j.config.providerType = j.account.providerType
  config_market : j.config.market = j.account.market
  answer : Answerable G j.account.uid j.check
  judged : evaluateReferral j.check j.config.rules true = .ok j.verdict
  decided : decideCompliance m.snapshot j.verdict (MembershipMonitor.policyFor policy j.config)
    moment = .ok j.decision

namespace MembershipMonitor

/-- The selections a step makes. -/
def userById (tenantId : TenantId) (m : VIPMembership) (r : TelegramUser) : Bool :=
  r.tenantId == tenantId && r.id == m.userId

def activeChannel (tenantId : TenantId) (market : Market) (r : TelegramChannel) : Bool :=
  r.tenantId == tenantId && r.market == market && r.isActive

def subscriptionOf (tenantId : TenantId) (userId : RowId) (market : Market)
    (r : Subscription) : Bool :=
  r.tenantId == tenantId && r.userId == userId && r.market == market

def accountOf (tenantId : TenantId) (m : VIPMembership) (r : ReferralAccount) : Bool :=
  r.tenantId == tenantId && r.userId == m.userId

def programOf (tenantId : TenantId) (account : ReferralAccount) (r : ReferralProgramConfig) :
    Bool :=
  r.tenantId == tenantId && r.providerType == account.providerType && r.market == account.market

end MembershipMonitor

open MembershipMonitor

/-- What was read to carry out `j` are rows of `w`. -/
structure Reaction.Holds (w : World) (m : VIPMembership) (j : Judgement) (x : Reaction) :
    Prop where
  user : j.decision.action ≠ .none →
    w.Found .telegramUsers (userById w.tenantId m) x.user
  channel : j.decision.action = .revoke →
    w.Found .telegramChannels (activeChannel w.tenantId j.account.market) x.channel
  subscription_none : j.decision.action = .revoke → x.subscription = none →
    ∀ r ∈ w.view .subscriptions,
      w.inScope (t := .subscriptions) (subscriptionOf w.tenantId m.userId j.account.market) r =
        false
  subscription_some : j.decision.action = .revoke → ∀ s, x.subscription = some s →
    s ∈ w.view .subscriptions ∧
      w.inScope (t := .subscriptions) (subscriptionOf w.tenantId m.userId j.account.market) s =
        true

/-- `if chat_id: send_message`. -/
def toldCalls (tenantId : TenantId) (chatId : Option Int) (text : String) (about : Concern) :
    List Sent :=
  match chatId with
  | some chatId =>
    if chatId ≠ 0 then [.plain tenantId (some about) (.sendMessage chatId text)] else []
  | none => []

/-- The removal from a channel. -/
def removalCalls (tenantId : TenantId) (channel : Option TelegramChannel) (chatId : Option Int)
    (about : Concern) : List Sent :=
  match channel with
  | none => []
  | some channel =>
    [.plain tenantId (some about) (.banChatMember channel.chatId (chatId.getD 0)),
      .plain tenantId (some about) (.unbanChatMember channel.chatId (chatId.getD 0))]

/-- The view once the entitlement has expired. -/
def Reaction.expire (x : Reaction) (moment : DateTime) (w : World) : World :=
  match x.subscription with
  | none => w
  | some s =>
    { w with
      view := w.view.modify .subscriptions (w.inScope fun r => r.id == s.id)
        (Subscription.expired moment) }

/-- An answer recorded on the account, with its snapshot pending. -/
def withAnswer (tenantId : TenantId) (account : ReferralAccount)
    (periodStart periodEnd moment : DateTime) (check : Option ReferralCheck)
    (verdict : EligibilityVerdict) (w : World) : World :=
  let w' := { w with
    view := w.view.modify .referralAccounts (w.inScope fun r => r.id == account.id)
      (recordVerdict check verdict moment) }
  match check with
  | none => w'
  | some check =>
    w'.withPending .tradingActivitySnapshots
      (snapshotOf tenantId account periodStart periodEnd check verdict)

namespace Judgement

variable (j : Judgement)

/-- What the calls of the step are labelled with. -/
def concern (m : VIPMembership) (periodStart : DateTime) : Concern :=
  .compliance m.id j.decision.action periodStart

/-- The calls the step sends, in order. -/
def reactions (policy : CompliancePolicy) (tenantId : TenantId) (m : VIPMembership)
    (periodStart : DateTime) (x : Reaction) : List Sent :=
  let chatId := x.user.map (·.telegramUserId)
  let reasonText := Messages.reasonText (j.decision.detail.getD "")
  let about := j.concern m periodStart
  match j.decision.action with
  | .none => []
  | .restore => toldCalls tenantId chatId Messages.MEMBERSHIP_RESTORED about
  | .warn =>
    toldCalls tenantId chatId
      (Messages.COMPLIANCE_WARNING j.decision.warningsAfter policy.maxWarnings reasonText) about
  | .revoke =>
    removalCalls tenantId x.channel chatId about ++
      toldCalls tenantId chatId (Messages.MEMBERSHIP_REVOKED reasonText) about

/-- The world once the answer is recorded. -/
def recorded (tenantId : TenantId) (periodStart moment : DateTime) (w : World) : World :=
  withAnswer tenantId j.account periodStart j.periodEnd moment j.check j.verdict
    { w with asked := w.asked ++ [(w.tenantId, j.account.uid)] }

/-- The view once the decision is written on the membership. -/
def written (m : VIPMembership) (moment : DateTime) (w : World) : World :=
  { w with
    view := w.view.modify .vipMemberships (w.inScope fun r => r.id == m.id)
      (.applied j.decision moment) }

/-- The world once the decision is carried out. -/
def carriedOut (policy : CompliancePolicy) (tenantId : TenantId) (m : VIPMembership)
    (periodStart moment : DateTime) (x : Reaction) (w : World) : World :=
  match j.decision.action with
  | .none => w
  | .restore | .warn =>
    (j.written m moment w).sending (j.reactions policy tenantId m periodStart x)
  | .revoke =>
    (x.expire moment (j.written m moment w)).sending
      (j.reactions policy tenantId m periodStart x)

/-- The world the step leaves. -/
def outcome (policy : CompliancePolicy) (tenantId : TenantId) (m : VIPMembership)
    (periodStart moment : DateTime) (x : Reaction) (w : World) : World :=
  j.carriedOut (policyFor policy j.config) tenantId m periodStart moment x
    (j.recorded tenantId periodStart moment w)

/-- The report the step makes. -/
def tally (report : MonitorReport) : MonitorReport :=
  match j.decision.action with
  | .none =>
    if j.decision.skipReason = some .providerUnavailable then
      { report with skippedUnavailable := report.skippedUnavailable + 1 } else report
  | .restore => { report with restored := report.restored + 1 }
  | .warn => { report with warned := report.warned + 1 }
  | .revoke => { report with revoked := report.revoked + 1 }

end Judgement

/-! ## Unique columns stay -/

theorem keepsKeys_recordVerdict (tenantId : TenantId) (check : Option ReferralCheck)
    (verdict : EligibilityVerdict) (moment : DateTime) :
    KeepsKeys tenantId .referralAccounts (recordVerdict check verdict moment) :=
  fun _ _ _ => rfl

theorem keepsKeys_applied (tenantId : TenantId) (d : ComplianceDecision) (moment : DateTime) :
    KeepsKeys tenantId .vipMemberships (VIPMembership.applied d moment) := by
  intro r _ s
  unfold VIPMembership.applied
  cases d.action <;> rfl

theorem keepsKeys_expired (tenantId : TenantId) (moment : DateTime) :
    KeepsKeys tenantId .subscriptions (Subscription.expired moment) :=
  fun _ _ _ => rfl

/-! ## The step, part by part -/

section Rules

variable {G : World → Op → Choice → Prop} {w : World} {E : PyError → Ledger → Prop}

theorem meets_tell {chatId : Option Int} {text : String} {about : Concern}
    {Q : Unit → World → Prop}
    (hok : Q () (w.sending (toldCalls w.tenantId chatId text about)))
    (hlost : ∀ e, E e (w.sending (toldCalls w.tenantId chatId text about)).ledger)
    (herr : ∀ e, E e w.ledger) : Meets G (tell chatId text about) Q E w := by
  unfold MembershipMonitor.tell
  cases chatId with
  | none => simpa [toldCalls] using hok
  | some chatId =>
    by_cases hc : chatId ≠ 0
    · simp only [toldCalls, if_pos hc] at hok hlost ⊢
      exact meets_telegram_plain (fun _ => rfl) (fun _ => hok) hlost herr
    · simpa [toldCalls, hc] using hok

theorem meets_removeFromChannel {tenantId : TenantId} {market : Market} {chatId : Option Int}
    {about : Concern} {Q : Unit → World → Prop}
    (hok : ∀ channel, w.Found .telegramChannels (activeChannel tenantId market) channel →
      Q () (w.sending (removalCalls w.tenantId channel chatId about)))
    (hlost : ∀ e channel, w.Found .telegramChannels (activeChannel tenantId market) channel →
      ∀ calls, calls <+: removalCalls w.tenantId channel chatId about →
      E e (w.sending calls).ledger)
    (herr : ∀ e, E e w.ledger) :
    Meets G (removeFromChannel tenantId market chatId about) Q E w := by
  unfold removeFromChannel
  rw [meets_bind]
  refine meets_selectOneOrNone (fun _ channel hfound => ?_) herr
  cases channel with
  | none => simpa [removalCalls] using hok none hfound
  | some channel =>
    have hban : ∀ calls, calls <+: removalCalls w.tenantId (some channel) chatId about →
        ∀ e, E e (w.sending calls).ledger :=
      fun calls hcalls e => hlost e _ hfound calls hcalls
    simp only [removalCalls] at hban
    rw [meets_bind]
    refine meets_telegram_plain (fun _ => rfl) (fun _ => ?_) (hban _ (by simp)) herr
    refine meets_telegram_plain (fun _ => rfl) (fun _ => ?_) (fun e => ?_) (hban _ (by simp))
    · rw [World.sending_sending]
      exact hok _ hfound
    · rw [World.sending_sending]
      exact hban _ (List.prefix_refl _) e

theorem meets_expireSubscription {tenantId : TenantId} {userId : RowId} {market : Market}
    {moment : DateTime} {Q : Unit → World → Prop}
    (hnone : (∀ r ∈ w.view .subscriptions,
        w.inScope (t := .subscriptions) (subscriptionOf tenantId userId market) r = false) →
      Q () w)
    (hsome : ∀ s ∈ w.view .subscriptions,
      w.inScope (t := .subscriptions) (subscriptionOf tenantId userId market) s = true →
      Q () { w with
        view := w.view.modify .subscriptions (w.inScope fun r => r.id == s.id)
          (Subscription.expired moment) })
    (herr : ∀ e, E e w.ledger) :
    Meets G (expireSubscription tenantId userId market moment) Q E w := by
  unfold expireSubscription SubscriptionRepository.getActiveForUser
  rw [meets_bind, meets_bind]
  refine meets_select (fun _ rows hrows => ?_) herr
  rw [meets_pure]
  cases rows with
  | nil =>
    refine hnone fun r hr => ?_
    by_contra hscope
    have := hrows.mem_iff.mpr (List.mem_filter.mpr ⟨hr, eq_true_of_ne_false hscope⟩)
    cases this
  | cons s rest =>
    have hs := List.mem_filter.mp (hrows.mem_iff.mp List.mem_cons_self)
    exact meets_update (keepsKeys_expired _ _) (hsome s hs.1 hs.2)

/-- Writing on the membership goes through. -/
theorem meets_write {j : Judgement} {m : VIPMembership} {moment : DateTime}
    {Q : Unit → World → Prop} (h : Q () (j.written m moment w)) :
    Meets G (write m j.decision moment) Q E w :=
  meets_update (keepsKeys_applied _ _ _) h

/-- A read of the user's subscription in the market of the judged account. -/
def SubscriptionRead (w : World) (m : VIPMembership) (j : Judgement)
    (subscription : Option Subscription) : Prop :=
  (subscription = none → ∀ r ∈ w.view .subscriptions,
    w.inScope (t := .subscriptions) (subscriptionOf w.tenantId m.userId j.account.market) r =
      false) ∧
  ∀ s, subscription = some s → s ∈ w.view .subscriptions ∧
    w.inScope (t := .subscriptions) (subscriptionOf w.tenantId m.userId j.account.market) s =
      true

theorem exists_subscriptionRead (w : World) (m : VIPMembership) (j : Judgement) :
    ∃ subscription, SubscriptionRead w m j subscription := by
  refine ⟨List.find?
    (w.inScope (t := .subscriptions) (subscriptionOf w.tenantId m.userId j.account.market))
    (w.view .subscriptions), ?_, ?_⟩
  · intro hnone r hr
    simpa using List.find?_eq_none.mp hnone r hr
  · intro s hs
    exact ⟨List.mem_of_find?_eq_some hs, List.find?_some hs⟩

theorem meets_apply {policy : CompliancePolicy} {tenantId : TenantId} {m : VIPMembership}
    {moment periodStart : DateTime} {report : MonitorReport} {Q : MonitorReport → World → Prop}
    (j : Judgement) (ht : w.tenantId = tenantId)
    (hok : ∀ x : Reaction, x.Holds w m j →
      Q (j.tally report) (j.carriedOut policy tenantId m periodStart moment x w))
    (herr : ∀ e (x : Reaction), x.Holds w m j →
      ∀ calls, calls <+: j.reactions policy tenantId m periodStart x →
      E e (w.sending calls).ledger)
    (hraise : ∀ e, E e w.ledger) :
    Meets G (apply tenantId m j.account.market j.decision moment periodStart report policy)
      Q E w := by
  subst ht
  unfold MembershipMonitor.apply
  by_cases hnone : j.decision.action = .none
  · have hx : Reaction.Holds w m j ⟨none, none, none⟩ :=
      ⟨fun h => absurd hnone h, by simp [hnone], by simp [hnone], by simp [hnone]⟩
    have := hok _ hx
    simp only [Judgement.tally, Judgement.carriedOut, hnone] at this
    simp only [hnone, if_true]
    exact this
  · simp only [hnone, if_false]
    rw [meets_bind]
    refine meets_selectOneOrNone (fun _ user huser => ?_) hraise
    cases ha : j.decision.action with
    | none => exact absurd ha hnone
    | restore =>
      have hx : Reaction.Holds w m j ⟨user, none, none⟩ :=
        ⟨fun _ => huser, by simp [ha], by simp [ha], by simp [ha]⟩
      have hdone := hok _ hx
      have hsent := fun e => herr e _ hx
      simp only [Judgement.tally, Judgement.carriedOut, Judgement.reactions,
        Judgement.concern, ha] at hdone hsent
      rw [meets_bind]
      refine meets_write ?_
      rw [meets_bind]
      exact meets_tell hdone (fun e => hsent e _ (List.prefix_refl _)) hraise
    | warn =>
      have hx : Reaction.Holds w m j ⟨user, none, none⟩ :=
        ⟨fun _ => huser, by simp [ha], by simp [ha], by simp [ha]⟩
      have hdone := hok _ hx
      have hsent := fun e => herr e _ hx
      simp only [Judgement.tally, Judgement.carriedOut, Judgement.reactions,
        Judgement.concern, ha] at hdone hsent
      rw [meets_bind]
      refine meets_write ?_
      rw [meets_bind]
      exact meets_tell hdone (fun e => hsent e _ (List.prefix_refl _)) hraise
    | revoke =>
      have hfound : ∀ channel, w.Found .telegramChannels
          (activeChannel w.tenantId j.account.market) channel →
          ∀ subscription, SubscriptionRead w m j subscription →
          Reaction.Holds w m j ⟨user, channel, subscription⟩ :=
        fun channel hchannel _ hsub =>
          ⟨fun _ => huser, fun _ => hchannel, fun _ h => hsub.1 h, fun _ => hsub.2⟩
      obtain ⟨s₀, hs₀⟩ := exists_subscriptionRead w m j
      simp only [Judgement.tally, Judgement.carriedOut, Judgement.reactions,
        Judgement.concern, ha] at hok herr
      rw [meets_bind]
      refine meets_removeFromChannel (fun channel hchannel => ?_)
        (fun e channel hchannel calls hcalls => ?_) hraise
      swap
      · exact herr e _ (hfound channel hchannel s₀ hs₀) calls
          (hcalls.trans (List.prefix_append _ _))
      have hraise' : ∀ e, E e (w.sending (removalCalls w.tenantId channel
          (user.map (·.telegramUserId)) (.compliance m.id .revoke periodStart))).ledger :=
        fun e => herr e _ (hfound channel hchannel s₀ hs₀) _ (List.prefix_append _ _)
      rw [meets_bind]
      refine meets_write ?_
      rw [meets_bind]
      refine meets_expireSubscription (fun hnone => ?_) (fun s hs hscope => ?_) hraise'
      · have hsub : SubscriptionRead w m j none := by
          refine ⟨fun _ r hr => hnone r ?_, fun s hs => by cases hs⟩
          simpa [Judgement.written, Store.modify_other] using hr
        rw [meets_bind]
        refine meets_tell ?_ (fun e => ?_) hraise'
        · have := hok _ (hfound channel hchannel _ hsub)
          rw [← World.sending_sending] at this
          exact this
        · have := herr e _ (hfound channel hchannel _ hsub) _ (List.prefix_refl _)
          rw [← World.sending_sending] at this
          exact this
      · have hsub : SubscriptionRead w m j (some s) := by
          refine ⟨fun h => absurd h (Option.some_ne_none s), fun s' hs' => ?_⟩
          cases hs'
          exact ⟨by simpa [Judgement.written, Store.modify_other] using hs, hscope⟩
        rw [meets_bind]
        refine meets_tell ?_ (fun e => ?_) hraise'
        · have := hok _ (hfound channel hchannel _ hsub)
          rw [← World.sending_sending] at this
          exact this
        · have := herr e _ (hfound channel hchannel _ hsub) _ (List.prefix_refl _)
          rw [← World.sending_sending] at this
          exact this

theorem meets_recordAnswer {tenantId : TenantId} {account : ReferralAccount}
    {period : TimeDelta} {periodStart moment : DateTime} {check : Option ReferralCheck}
    {verdict : EligibilityVerdict} {Q : Unit → World → Prop}
    (hok : ∀ periodEnd, Q ()
      (withAnswer tenantId account periodStart periodEnd moment check verdict w))
    (herr : ∀ e, E e w.ledger) :
    Meets G (recordAnswer tenantId account period periodStart moment check verdict) Q E w := by
  unfold recordAnswer
  rw [meets_bind]
  refine meets_update (keepsKeys_recordVerdict _ _ _ _) ?_
  cases check with
  | none => exact hok periodStart
  | some check =>
    rw [meets_bind]
    refine meets_raising (fun periodEnd _ => ?_) herr
    rw [meets_bind]
    refine meets_raising (fun _ _ => ?_) herr
    exact meets_add (hok periodEnd)

/-- A step that raises has sent a prefix of its calls. -/
def StepError (G : World → Op → Choice → Prop) (policy : CompliancePolicy)
    (periodStart moment : DateTime) (w : World) (m : VIPMembership) (l : Ledger) : Prop :=
  ∃ calls, l = (w.sending calls).ledger ∧
    (calls = [] ∨ ∃ (j : Judgement) (x : Reaction), j.Holds G policy moment w m ∧
      x.Holds (j.recorded w.tenantId periodStart moment w) m j ∧
      calls <+: j.reactions (policyFor policy j.config) w.tenantId m periodStart x)

/-- A step that returns did nothing, or what a judgement of the membership says. -/
def StepResult (G : World → Op → Choice → Prop) (policy : CompliancePolicy)
    (periodStart moment : DateTime) (report : MonitorReport) (w : World) (m : VIPMembership)
    (r : MonitorReport) (w' : World) : Prop :=
  (r = report ∧ w' = w) ∨
    ∃ (j : Judgement) (x : Reaction), j.Holds G policy moment w m ∧
      x.Holds (j.recorded w.tenantId periodStart moment w) m j ∧
      w' = j.outcome policy w.tenantId m periodStart moment x w ∧ r = j.tally report

/-- Nothing was asked about `m`: its user has no account, or no program is configured for
    the account picked. -/
inductive Unasked (w : World) (m : VIPMembership) : Option RowId → Prop
  | noAccount : (∀ r ∈ w.view .referralAccounts,
        w.inScope (t := .referralAccounts) (accountOf w.tenantId m) r = false) →
      Unasked w m none
  | noProgram {account : ReferralAccount} : account ∈ w.view .referralAccounts →
      w.inScope (t := .referralAccounts) (accountOf w.tenantId m) account = true →
      w.Found .referralProgramConfigs (programOf w.tenantId account) none →
      Unasked w m (some account.id)

/-- A step that returns, with the reason where it judged nobody. -/
inductive StepTaken (G : World → Op → Choice → Prop) (policy : CompliancePolicy)
    (periodStart moment : DateTime) (report : MonitorReport) (w : World) (m : VIPMembership) :
    MonitorReport → World → Prop
  | unasked {picked : Option RowId} : Unasked w m picked →
      StepTaken G policy periodStart moment report w m report w
  | judged {j : Judgement} {x : Reaction} : j.Holds G policy moment w m →
      x.Holds (j.recorded w.tenantId periodStart moment w) m j →
      StepTaken G policy periodStart moment report w m (j.tally report)
        (j.outcome policy w.tenantId m periodStart moment x w)

theorem StepTaken.result {policy : CompliancePolicy} {m : VIPMembership}
    {periodStart moment : DateTime} {report r : MonitorReport} {w' : World}
    (h : StepTaken G policy periodStart moment report w m r w') :
    StepResult G policy periodStart moment report w m r w' := by
  cases h with
  | unasked _ => exact .inl ⟨rfl, rfl⟩
  | judged hj hx => exact .inr ⟨_, _, hj, hx, rfl, rfl⟩

theorem ledger_withAnswer (tenantId : TenantId) (account : ReferralAccount)
    (periodStart periodEnd moment : DateTime) (check : Option ReferralCheck)
    (verdict : EligibilityVerdict) (w : World) :
    (withAnswer tenantId account periodStart periodEnd moment check verdict w).ledger =
      w.ledger := by
  unfold withAnswer
  cases check with
  | none => rfl
  | some check => rw [World.ledger_withPending]; rfl

theorem tenantId_withAnswer (tenantId : TenantId) (account : ReferralAccount)
    (periodStart periodEnd moment : DateTime) (check : Option ReferralCheck)
    (verdict : EligibilityVerdict) (w : World) :
    (withAnswer tenantId account periodStart periodEnd moment check verdict w).tenantId =
      w.tenantId := by
  have := ledger_withAnswer tenantId account periodStart periodEnd moment check verdict w
  exact congrArg Ledger.tenantId this

theorem meets_judge {period : TimeDelta} {policy : CompliancePolicy} {m : VIPMembership}
    {account : ReferralAccount} {config : ReferralProgramConfig}
    {periodStart moment : DateTime} {report : MonitorReport}
    (haccount : account ∈ w.view .referralAccounts ∧ account.tenantId = w.tenantId ∧
      account.userId = m.userId)
    (hconfig : config ∈ w.view .referralProgramConfigs ∧ config.tenantId = w.tenantId ∧
      config.providerType = account.providerType ∧ config.market = account.market) :
    Meets G (judge period policy w.tenantId m account config periodStart moment report)
      (StepTaken G policy periodStart moment report w m)
      (fun _ => StepError G policy periodStart moment w m) w := by
  have hquiet : StepError G policy periodStart moment w m w.ledger :=
    ⟨[], by rw [World.sending_nil], .inl rfl⟩
  unfold judge
  rw [meets_bind]
  refine meets_checkUser (fun check hcheck => ?_) fun _ => hquiet
  rw [meets_bind]
  refine meets_raising (fun verdict hverdict => ?_) fun _ => hquiet
  rw [meets_bind]
  refine meets_recordAnswer (fun periodEnd => ?_) fun _ => hquiet
  rw [meets_bind]
  have hledger := ledger_withAnswer w.tenantId account periodStart periodEnd moment check verdict
    { w with asked := w.asked ++ [(w.tenantId, account.uid)] }
  refine meets_raising (fun decision hdecision => ?_) fun _ => by rw [hledger]; exact hquiet
  let j : Judgement := ⟨account, config, check, verdict, decision, periodEnd⟩
  have hj : j.Holds G policy moment w m :=
    ⟨haccount.1, haccount.2.1, haccount.2.2, hconfig.1, hconfig.2.1, hconfig.2.2.1,
      hconfig.2.2.2, hcheck, hverdict, hdecision⟩
  refine meets_apply j (tenantId_withAnswer ..) (fun x hx => ?_) (fun e x hx calls hcalls => ?_)
    fun _ => by rw [hledger]; exact hquiet
  · exact .judged hj hx
  · exact ⟨calls, World.ledger_sending hledger calls, .inr ⟨j, x, hj, hx, hcalls⟩⟩

/-- One step of a pass. -/
theorem meets_process_visit {period : TimeDelta} {policy : CompliancePolicy} {m : VIPMembership}
    {periodStart moment : DateTime} {report : MonitorReport} :
    Meets G (process period policy w.tenantId periodStart moment report m)
      (StepTaken G policy periodStart moment { report with processed := report.processed + 1 } w m)
      (fun _ => StepError G policy periodStart moment w m) w := by
  have hquiet : StepError G policy periodStart moment w m w.ledger :=
    ⟨[], by rw [World.sending_nil], .inl rfl⟩
  unfold process ReferralAccountRepository.listForUser
  rw [meets_bind]
  refine meets_select (fun _ accounts haccounts => ?_) fun _ => hquiet
  cases accounts with
  | nil =>
    refine StepTaken.unasked (.noAccount fun r hr => ?_)
    by_contra hscope
    have hmem := haccounts.mem_iff.mpr (List.mem_filter.mpr ⟨hr, eq_true_of_ne_false hscope⟩)
    cases hmem
  | cons account rest =>
    have hmem := List.mem_filter.mp (haccounts.mem_iff.mp List.mem_cons_self)
    have hcond := World.inScope_cond hmem.2
    simp only [Bool.and_eq_true, beq_iff_eq] at hcond
    rw [meets_bind]
    refine meets_selectOneOrNone (fun _ config hconfig => ?_) fun _ => hquiet
    cases config with
    | none => exact StepTaken.unasked (.noProgram hmem.1 hmem.2 hconfig)
    | some config =>
      have hkeys := World.inScope_cond hconfig.2.1
      simp only [Bool.and_eq_true, beq_iff_eq] at hkeys
      exact meets_judge ⟨hmem.1, hcond.1, hcond.2⟩
        ⟨hconfig.1, hkeys.1.1, hkeys.1.2, hkeys.2⟩

theorem meets_process {period : TimeDelta} {policy : CompliancePolicy} {m : VIPMembership}
    {periodStart moment : DateTime} {report : MonitorReport} :
    Meets G (process period policy w.tenantId periodStart moment report m)
      (StepResult G policy periodStart moment
        { report with processed := report.processed + 1 } w m)
      (fun _ => StepError G policy periodStart moment w m) w :=
  meets_mono meets_process_visit (fun _ _ h => h.result) fun _ _ h => h

end Rules

/-! ## What a step leaves in each table -/

section Outcome

variable {w : World} {tenantId : TenantId}

theorem view_withPending_other {t t' : Table} (h : t' ≠ t) (row : Row t) :
    (w.withPending t row).view t' = w.view t' := by
  unfold World.withPending
  split
  · rfl
  · exact Store.append_other _ h _

theorem view_withAnswer_other {t : Table} (ha : t ≠ .referralAccounts)
    (hs : t ≠ .tradingActivitySnapshots) (account : ReferralAccount)
    (periodStart periodEnd moment : DateTime) (check : Option ReferralCheck)
    (verdict : EligibilityVerdict) :
    (withAnswer tenantId account periodStart periodEnd moment check verdict w).view t =
      w.view t := by
  unfold withAnswer
  cases check with
  | none => exact Store.modify_other _ ha _ _
  | some check =>
    rw [view_withPending_other hs]
    exact Store.modify_other _ ha _ _

theorem view_withAnswer_accounts (account : ReferralAccount)
    (periodStart periodEnd moment : DateTime) (check : Option ReferralCheck)
    (verdict : EligibilityVerdict) :
    (withAnswer tenantId account periodStart periodEnd moment check verdict w).view
        .referralAccounts =
      modifyRows (w.inScope (t := .referralAccounts) fun r => r.id == account.id)
        (recordVerdict check verdict moment) (w.view .referralAccounts) := by
  unfold withAnswer
  cases check with
  | none => exact Store.modify_self w.view .referralAccounts _ _
  | some check =>
    rw [view_withPending_other (by decide)]
    exact Store.modify_self w.view .referralAccounts _ _

/-- The key of a snapshot. -/
def snapshotKey (r : TradingActivitySnapshot) : TenantId × RowId × DateTime :=
  (r.tenantId, r.referralAccountId, r.periodStart)

/-- At most one snapshot is added, of the account judged; one that is there already makes
    the next flush raise. -/
theorem withAnswer_snapshots (account : ReferralAccount)
    (periodStart periodEnd moment : DateTime) (check : Option ReferralCheck)
    (verdict : EligibilityVerdict) :
    let w' := withAnswer tenantId account periodStart periodEnd moment check verdict w
    (check = none ∧ w'.view .tradingActivitySnapshots = w.view .tradingActivitySnapshots ∧
      w'.conflict = w.conflict) ∨
    (check ≠ none ∧ ∃ row, snapshotKey row = (tenantId, account.id, periodStart) ∧
      ((w'.view .tradingActivitySnapshots = w.view .tradingActivitySnapshots ++ [row] ∧
        w'.conflict = w.conflict) ∨
      (w'.view .tradingActivitySnapshots = w.view .tradingActivitySnapshots ∧
        ∃ r ∈ w.view .tradingActivitySnapshots,
          clash .tradingActivitySnapshots row r = true))) := by
  unfold withAnswer
  cases check with
  | none =>
    have hother : Table.tradingActivitySnapshots ≠ .referralAccounts := by decide
    refine .inl ⟨rfl, ?_, rfl⟩
    exact Store.modify_other w.view hother (w.inScope fun r => r.id == account.id)
      (recordVerdict none verdict moment)
  | some check =>
    refine .inr ⟨nofun, snapshotOf tenantId account periodStart periodEnd check verdict, rfl, ?_⟩
    have hrows : (w.view.modify .referralAccounts (w.inScope fun r => r.id == account.id)
        (recordVerdict (some check) verdict moment)) .tradingActivitySnapshots =
        w.view .tradingActivitySnapshots := Store.modify_other _ (by decide) _ _
    simp only [World.withPending, hrows]
    split
    · next hany =>
      obtain ⟨r, hr, hc⟩ := List.any_eq_true.mp hany
      exact .inr ⟨hrows, r, hr, hc⟩
    · refine .inl ⟨?_, rfl⟩
      exact (Store.append_self _ Table.tradingActivitySnapshots _).trans (by rw [hrows])

variable {j : Judgement} {policy : CompliancePolicy} {m : VIPMembership}
  {periodStart moment : DateTime} {x : Reaction}

theorem tenantId_recorded :
    (j.recorded tenantId periodStart moment w).tenantId = w.tenantId :=
  tenantId_withAnswer ..

theorem ledger_recorded : (j.recorded tenantId periodStart moment w).ledger = w.ledger :=
  ledger_withAnswer ..

/-- The calls of a step are its reactions. -/
theorem ledger_outcome :
    (j.outcome policy tenantId m periodStart moment x w).ledger =
      (w.sending (j.reactions (policyFor policy j.config) tenantId m periodStart x)).ledger := by
  have h : ∀ calls, ((j.recorded tenantId periodStart moment w).sending calls).ledger =
      (w.sending calls).ledger := World.ledger_sending ledger_recorded
  unfold Judgement.outcome Judgement.carriedOut
  cases ha : j.decision.action with
  | none =>
    simp only [Judgement.reactions, ha, World.sending_nil]
    exact ledger_recorded
  | restore | warn => exact h _
  | revoke =>
    unfold Reaction.expire
    cases x.subscription with
    | none => exact h _
    | some s => exact h _

theorem tenantId_outcome :
    (j.outcome policy tenantId m periodStart moment x w).tenantId = w.tenantId :=
  congrArg Ledger.tenantId ledger_outcome

theorem view_written_other {t : Table} (h : t ≠ .vipMemberships) :
    (j.written m moment w).view t = w.view t :=
  Store.modify_other w.view h _ _

theorem view_written_memberships :
    (j.written m moment w).view .vipMemberships =
      modifyRows (w.inScope (t := .vipMemberships) fun r => r.id == m.id)
        (VIPMembership.applied j.decision moment) (w.view .vipMemberships) :=
  Store.modify_self w.view .vipMemberships _ _

theorem view_expire_other {t : Table} (h : t ≠ .subscriptions) :
    (x.expire moment w).view t = w.view t := by
  unfold Reaction.expire
  cases x.subscription with
  | none => rfl
  | some s => exact Store.modify_other w.view h _ _

/-- The subscriptions a reaction expires. -/
def Reaction.expires (x : Reaction) (w : World) (r : Subscription) : Bool :=
  x.subscription.any fun s => w.inScope (t := .subscriptions) (fun r => r.id == s.id) r

theorem view_expire_subscriptions :
    (x.expire moment w).view .subscriptions =
      modifyRows (x.expires w) (Subscription.expired moment) (w.view .subscriptions) := by
  unfold Reaction.expire Reaction.expires
  cases x.subscription with
  | none => simp [modifyRows]
  | some s => exact Store.modify_self w.view .subscriptions _ _

theorem view_carriedOut_other {t : Table} (hm : t ≠ .vipMemberships)
    (hu : t ≠ .subscriptions) :
    (j.carriedOut policy tenantId m periodStart moment x w).view t = w.view t := by
  unfold Judgement.carriedOut
  cases j.decision.action with
  | none => rfl
  | restore | warn => rw [World.sending_view, view_written_other hm]
  | revoke => rw [World.sending_view, view_expire_other hu, view_written_other hm]

theorem view_carriedOut_memberships :
    (j.carriedOut policy tenantId m periodStart moment x w).view .vipMemberships =
      modifyRows (w.inScope (t := .vipMemberships) fun r => r.id == m.id)
        (VIPMembership.applied j.decision moment) (w.view .vipMemberships) := by
  unfold Judgement.carriedOut
  cases ha : j.decision.action with
  | none => rw [modifyRows_eq_self fun r => by simp [VIPMembership.applied, ha]]
  | restore | warn => rw [World.sending_view, view_written_memberships]
  | revoke =>
    rw [World.sending_view, view_expire_other (by decide), view_written_memberships]

theorem view_carriedOut_subscriptions :
    (j.carriedOut policy tenantId m periodStart moment x w).view .subscriptions =
      if j.decision.action = .revoke then
        modifyRows (x.expires w) (Subscription.expired moment) (w.view .subscriptions)
      else w.view .subscriptions := by
  unfold Judgement.carriedOut
  cases ha : j.decision.action with
  | none => rfl
  | restore | warn =>
    rw [World.sending_view, view_written_other (by decide)]
    rfl
  | revoke =>
    rw [World.sending_view, view_expire_subscriptions, view_written_other (by decide),
      if_pos rfl]
    rfl

theorem conflict_carriedOut :
    (j.carriedOut policy tenantId m periodStart moment x w).conflict = w.conflict := by
  unfold Judgement.carriedOut
  cases j.decision.action with
  | none | restore | warn => rfl
  | revoke =>
    unfold Reaction.expire
    cases x.subscription <;> rfl

/-- A step writes on the account, the membership and the subscription, and adds a
    snapshot. -/
theorem view_outcome_other {t : Table} (ha : t ≠ .referralAccounts)
    (hs : t ≠ .tradingActivitySnapshots) (hm : t ≠ .vipMemberships) (hu : t ≠ .subscriptions) :
    (j.outcome policy tenantId m periodStart moment x w).view t = w.view t := by
  unfold Judgement.outcome
  rw [view_carriedOut_other hm hu]
  exact view_withAnswer_other ha hs ..

theorem view_outcome_accounts :
    (j.outcome policy tenantId m periodStart moment x w).view .referralAccounts =
      modifyRows (w.inScope (t := .referralAccounts) fun r => r.id == j.account.id)
        (recordVerdict j.check j.verdict moment) (w.view .referralAccounts) := by
  unfold Judgement.outcome
  rw [view_carriedOut_other (by decide) (by decide)]
  exact view_withAnswer_accounts ..

/-- The decision is written on the membership's row and on no other. -/
theorem view_outcome_memberships :
    (j.outcome policy tenantId m periodStart moment x w).view .vipMemberships =
      modifyRows (w.inScope (t := .vipMemberships) fun r => r.id == m.id)
        (VIPMembership.applied j.decision moment) (w.view .vipMemberships) := by
  have h : (j.recorded tenantId periodStart moment w).view .vipMemberships =
      w.view .vipMemberships := view_withAnswer_other (by decide) (by decide) ..
  unfold Judgement.outcome
  rw [view_carriedOut_memberships, h, World.inScope_congr tenantId_recorded]

/-- A removal expires the subscription it read; nothing else touches subscriptions. -/
theorem view_outcome_subscriptions :
    (j.outcome policy tenantId m periodStart moment x w).view .subscriptions =
      if j.decision.action = .revoke then
        modifyRows (x.expires w) (Subscription.expired moment) (w.view .subscriptions)
      else w.view .subscriptions := by
  have h : (j.recorded tenantId periodStart moment w).view .subscriptions =
      w.view .subscriptions := view_withAnswer_other (by decide) (by decide) ..
  have hexp : x.expires (j.recorded tenantId periodStart moment w) = x.expires w := by
    funext r
    simp only [Reaction.expires, World.inScope_congr tenantId_recorded]
  unfold Judgement.outcome
  rw [view_carriedOut_subscriptions, h, hexp]

/-- At most one snapshot is added, of the account judged; one that is there already makes
    the next flush raise. -/
theorem outcome_snapshots :
    let w' := j.outcome policy tenantId m periodStart moment x w
    (j.check = none ∧ w'.view .tradingActivitySnapshots = w.view .tradingActivitySnapshots ∧
      w'.conflict = w.conflict) ∨
    (j.check ≠ none ∧ ∃ row, snapshotKey row = (tenantId, j.account.id, periodStart) ∧
      ((w'.view .tradingActivitySnapshots = w.view .tradingActivitySnapshots ++ [row] ∧
        w'.conflict = w.conflict) ∨
      (w'.view .tradingActivitySnapshots = w.view .tradingActivitySnapshots ∧
        ∃ r ∈ w.view .tradingActivitySnapshots,
          clash .tradingActivitySnapshots row r = true))) := by
  unfold Judgement.outcome
  simp only [view_carriedOut_other (t := .tradingActivitySnapshots) (by decide) (by decide),
    conflict_carriedOut]
  exact withAnswer_snapshots ..

end Outcome

end VipChannel

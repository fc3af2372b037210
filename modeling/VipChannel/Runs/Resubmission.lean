/-
  VipChannel.Runs.Resubmission

  Submitting the same UID again.

  `Standing` says what the rows of a tenant already tell about a submission: the outcome
  it has come to, and the rows behind it.  A submission leaves its own outcome standing,
  and a submission whose outcome stands comes to it again and writes nothing but when it
  has looked.  Both hold of every outcome, so that a resubmission is idempotent.
-/
import VipChannel.Runs.Access
import VipChannel.Runs.Activities
import VipChannel.Web.Readiness

namespace VipChannel

open Lib ReferralOnboardingService

/-! ## What stands -/

/-- A row but for the columns that only tell when something was done. -/
def untimed : (t : Table) → Row t → Row t
  | .referralAccounts => fun (r : ReferralAccount) =>
    ({ r with lastCheckedAt := none, verifiedAt := none } : ReferralAccount)
  | _ => id

/-- The same rows in the same order, but for timestamps. -/
def SameButTimes (d d' : Database) : Prop :=
  ∀ t, (d' t).map (untimed t) = (d t).map (untimed t)

/-- The exchange has one answer about the UID. -/
def AnswersWith (G : World → Op → Choice → Prop) (uid : String)
    (answer : Except PyError ReferralCheck) : Prop :=
  ∀ w c, G w (.validateUser uid) c → c.answered c.check = answer

/-- The rows that a submission which asks the exchange goes by. -/
structure Attempt.Stands (d : Database) (A : TenantId) (providerType : ProviderType)
    (answer : Except PyError ReferralCheck) (s : Submission) (a : Attempt)
    (account : ReferralAccount) : Prop where
  valid : isValidBitunixUid s.uid = true
  config_mem : a.config ∈ d .referralProgramConfigs
  config_keys : a.config.tenantId = A ∧ a.config.providerType = providerType ∧
    a.config.market = s.market ∧ a.config.isActive = true
  channel_mem : a.channel ∈ d .telegramChannels
  channel_keys : a.channel.tenantId = A ∧ a.channel.market = s.market ∧
    a.channel.isActive = true
  user_mem : a.user ∈ d .telegramUsers
  user_keys : a.user.tenantId = A ∧ a.user.telegramUserId = s.telegramUserId
  named : renameUser s.username s.firstName a.user = a.user
  account_mem : account ∈ d .referralAccounts
  account_keys : account.tenantId = A ∧ account.providerType = providerType ∧
    account.uid = s.uid ∧ account.userId = a.user.id
  check : a.check = answer.toOption
  outage : ∀ e, answer = .error e → e.cls = .providerUnavailableError
  verdict : evaluateReferral a.check a.config.rules false = .ok a.verdict
  room : balanceColumn a.check a.verdict = .ok ()

/-- The link of a membership, to be had again until its lifetime is over. -/
structure LinkStands (ttl : TimeDelta) (m : VIPMembership) (link : String) : Prop where
  recorded : m.inviteLink = some link
  nonempty : link ≠ ""
  live : m.status.linkIsLive = true
  issued : ∃ issued expires, m.inviteIssuedAt = some issued ∧
    plusDelta issued.aware ttl = .ok expires

/-- The rows that a grant goes by. -/
structure GrantStands (d : Database) (A : TenantId) (ttl : TimeDelta) (market : Market)
    (userId channelId : RowId) (subscription : Subscription) (m : VIPMembership)
    (link : String) : Prop where
  subscription_mem : subscription ∈ d .subscriptions
  subscription_keys : subscription.tenantId = A ∧ subscription.userId = userId ∧
    subscription.market = market
  active : subscription.status = .active
  started : subscription.startsAt ≠ none
  membership_mem : m ∈ d .vipMemberships
  membership_keys : m.tenantId = A ∧ m.userId = userId ∧ m.channelId = channelId
  entitled : m.subscriptionId = some subscription.id
  link : LinkStands ttl m link

/-- What an attempt comes to, by the account it has written and the rows of a grant. -/
inductive Attempt.ComesTo (d : Database) (A : TenantId) (ttl : TimeDelta) (s : Submission)
    (a : Attempt) : ReferralAccount → OnboardingResult → Prop
  | unavailable : a.verdict.reason = .providerUnavailable →
      ComesTo d A ttl s a a.unavailable
        { outcome := .providerUnavailable, verdict := some a.verdict, uid := some s.uid }
  | rejected : a.verdict.reason ≠ .providerUnavailable → a.verdict.eligible = false →
      ComesTo d A ttl s a a.rejected {
        outcome := if a.verdict.reason = .notRegistered then .notRegistered
          else .insufficientBalance
        verdict := some a.verdict
        uid := some s.uid }
  | granted {verifiedAt : DateTime} {subscription : Subscription} {m : VIPMembership}
      {link : String} : a.verdict.eligible = true →
      GrantStands d A ttl s.market a.user.id a.channel.id subscription m link →
      ComesTo d A ttl s a (a.verified verifiedAt) {
        outcome := if m.status = .active then .alreadyMember else .invited
        inviteLink := some link
        verdict := some a.verdict
        uid := some s.uid }

/-- The outcome that the rows of the tenant already have for a submission. -/
inductive Standing (d : Database) (A : TenantId) (ttl : TimeDelta) (providerType : ProviderType)
    (answer : Except PyError ReferralCheck) (s : Submission) : OnboardingResult → Prop
  | invalid : isValidBitunixUid s.uid = false →
      Standing d A ttl providerType answer s { outcome := .invalidUid, uid := some s.uid }
  | notConfigured : isValidBitunixUid s.uid = true → ¬ d.Ready A providerType s.market →
      Standing d A ttl providerType answer s { outcome := .notConfigured, uid := some s.uid }
  | claimed {user : TelegramUser} {account : ReferralAccount} :
      isValidBitunixUid s.uid = true → d.Ready A providerType s.market →
      user ∈ d .telegramUsers → user.tenantId = A → user.telegramUserId = s.telegramUserId →
      renameUser s.username s.firstName user = user →
      account ∈ d .referralAccounts → account.tenantId = A →
      account.providerType = providerType → account.uid = s.uid → account.userId ≠ user.id →
      Standing d A ttl providerType answer s
        { outcome := .uidClaimedByAnotherUser, uid := some s.uid }
  | asked {a : Attempt} {account : ReferralAccount} {r : OnboardingResult} :
      a.Stands d A providerType answer s account → a.ComesTo d A ttl s account r →
      Standing d A ttl providerType answer s r

/-! ## A submission leaves its outcome standing -/

section Leaves

variable {G : World → Op → Choice → Prop} {ttl : TimeDelta} {providerType : ProviderType}
  {answer : Except PyError ReferralCheck} {s : Submission} {w w' : World}

/-- A name that was taken over is not changed by taking it over again. -/
theorem renameUser_twice (username firstName : Option String) (user : TelegramUser) :
    renameUser username firstName (renameUser username firstName user) =
      renameUser username firstName user := by
  have htwice : ∀ a b : Option String, textOr a (textOr a b) = textOr a b := by
    intro a b
    cases a with
    | none => rfl
    | some a =>
      by_cases ha : a = ""
      · simp only [textOr, ha, if_true]
      · simp only [textOr, ha, if_false]
  simp only [renameUser, htwice]

/-- The user a submission identifies has the names it came with. -/
theorem UserFrom.named {user : TelegramUser} {prior : Option TelegramUser}
    (h : UserFrom w s user prior) : renameUser s.username s.firstName user = user := by
  cases prior with
  | some prior =>
    obtain ⟨-, -, rfl⟩ := h
    exact renameUser_twice _ _ _
  | none =>
    obtain ⟨-, id, rfl⟩ := h
    have hown : ∀ a : Option String, textOr a a = a := by
      intro a
      cases a with
      | none => rfl
      | some a => exact ite_self _
    simp only [renameUser, hown]

theorem UserFrom.keys {user : TelegramUser} {prior : Option TelegramUser}
    (h : UserFrom w s user prior) :
    user.tenantId = w.tenantId ∧ user.telegramUserId = s.telegramUserId := by
  cases prior with
  | some prior =>
    obtain ⟨ht, hu, rfl⟩ := h
    exact ⟨ht, hu⟩
  | none =>
    obtain ⟨-, id, rfl⟩ := h
    exact ⟨rfl, rfl⟩

theorem AccountFrom.keys {userId : RowId} {market : Market} {uid : String}
    {base : ReferralAccount} {claimed : Option ReferralAccount}
    (h : AccountFrom w userId providerType market uid base claimed) :
    base.tenantId = w.tenantId ∧ base.providerType = providerType ∧ base.uid = uid ∧
      base.userId = userId := by
  cases claimed with
  | some claimed =>
    obtain ⟨ht, hp, hu, huser, rfl⟩ := h
    exact ⟨ht, hp, hu, huser⟩
  | none =>
    obtain ⟨-, id, rfl⟩ := h
    exact ⟨rfl, rfl, rfl, rfl⟩

/-- What an attempt was answered is what the exchange answers. -/
theorem Answerable.told {uid : String} {check : Option ReferralCheck}
    (h : Answerable G uid check) (hG : AnswersWith G uid answer) :
    check = answer.toOption ∧ ∀ e, answer = .error e → e.cls = .providerUnavailableError := by
  obtain ⟨w, c, hc, hcheck⟩ := h
  have hanswer := hG w c hc
  unfold Choice.answered at hanswer
  rcases hcheck with ⟨rfl, hfault⟩ | ⟨rfl, e, hfault, hcls⟩
  · rw [hfault] at hanswer
    subst hanswer
    exact ⟨rfl, fun e he => by cases he⟩
  · rw [hfault] at hanswer
    subst hanswer
    refine ⟨rfl, fun e' he => ?_⟩
    cases he
    exact hcls

/-- What an attempt went by is there once its account is saved. -/
theorem Attempt.Holds.stands {a : Attempt} {account : ReferralAccount} {w₁ w₂ : World}
    (h : a.Holds G providerType s w w₁) (hG : AnswersWith G s.uid answer)
    (hsaved : AccountSaved w₁ account a.claimed w₂)
    (hkeys : account.tenantId = a.base.tenantId ∧ account.providerType = a.base.providerType ∧
      account.uid = a.base.uid ∧ account.userId = a.base.userId)
    (hview : ∀ t ∈ [Table.telegramUsers, .referralAccounts, .referralProgramConfigs,
      .telegramChannels], w'.view t = w₂.view t) :
    a.Stands w'.view w.tenantId providerType answer s account := by
  have hbefore : ∀ t, t ∉ PRELIMINARY → w₂.view t = w.view t := by
    intro t ht
    simp only [PRELIMINARY, List.mem_cons, List.not_mem_nil, or_false, not_or] at ht
    rw [hsaved.same.view t (by simpa using ht.2), h.identified.same.view t (by simpa using ht.1)]
  have husers : w₂.view .telegramUsers = w₁.view .telegramUsers := hsaved.same.view _ (by decide)
  obtain ⟨hbt, hbp, hbu, hbuser⟩ := h.account.keys
  obtain ⟨hat, hap, hau, hauser⟩ := hkeys
  obtain ⟨hcheck, hout⟩ := h.answer.told hG
  exact {
    valid := h.valid
    config_mem := by
      rw [hview _ (by decide), hbefore _ (by decide)]
      exact h.config_mem
    config_keys := h.config_keys
    channel_mem := by
      rw [hview _ (by decide), hbefore _ (by decide)]
      exact h.channel_mem
    channel_keys := h.channel_keys
    user_mem := by
      rw [hview _ (by decide), husers]
      exact h.identified.users.mem_iff.mpr (.inl rfl)
    user_keys := h.identified.user_from.keys
    named := h.identified.user_from.named
    account_mem := by
      rw [hview _ (by decide)]
      exact hsaved.accounts.mem_iff.mpr (.inl rfl)
    account_keys := ⟨hat.trans hbt, hap.trans hbp, hau.trans hbu, hauser.trans hbuser⟩
    check := hcheck
    outage := hout
    room := h.room
    verdict := h.verdict }

/-- The link a grant returns can be had again. -/
theorem Grant.Holds.linkStands {market : Market} {g : Grant} {calls : List Sent}
    (h : g.Holds G ttl providerType market w w' calls)
    (hlinks : ∀ link, Issuable G link → link ≠ "") : LinkStands ttl g.membership g.link := by
  obtain ⟨-, -, -, hlink, hlive⟩ := h.linked
  rcases h.invite.cases with ⟨hreused, hm, -⟩ | ⟨expireDate, -, hexpire, hissuable, hm, -⟩
  · -- The link was live: it is there, and its lifetime could be told.
    rw [hm] at hlink hlive ⊢
    unfold InviteService.liveLink at hreused
    split at hreused
    · next l issued hl hissued =>
      split at hreused
      · cases hreused
      · next hdead =>
        rw [hl] at hlink
        cases hlink
        refine ⟨hl, fun hempty => hdead (.inl hempty), hlive, issued, ?_⟩
        cases hexpires : plusDelta issued.aware ttl with
        | error e => simp only [hexpires, bind, Except.bind] at hreused; cases hreused
        | ok expires => exact ⟨expires, hissued, rfl⟩
    · cases hreused
  · obtain ⟨v, c, -, hmoment⟩ := h.reading
    have haware : g.moment.aware = g.moment := by
      apply DateTime.aware_of_isSome
      rw [hmoment]
      rfl
    refine ⟨hlink, hlinks _ hissuable, hlive, g.moment, expireDate, ?_, ?_⟩
    · rw [hm]
      rfl
    · rw [haware]
      exact hexpire

/-- What a grant leaves stands. -/
theorem Grant.Holds.stands {market : Market} {g : Grant} {calls : List Sent}
    (h : g.Holds G ttl providerType market w w' calls)
    (hlinks : ∀ link, Issuable G link → link ≠ "") :
    GrantStands w'.view w.tenantId ttl market g.userId g.channel.id g.subscription g.membership
      g.link := by
  obtain ⟨hst, hsu, hsm, -⟩ := h.subscription_facts
  obtain ⟨hmt, hmu, hmc, hms⟩ := h.membership_facts
  have hactive : g.subscription.status = .active ∧ g.subscription.startsAt ≠ none := by
    have hfrom := h.subscription
    cases hprior : g.priorSubscription with
    | none =>
      rw [hprior] at hfrom
      obtain ⟨-, id, startsAt, hs⟩ := hfrom
      rw [hs]
      exact ⟨rfl, Option.some_ne_none _⟩
    | some prior =>
      rw [hprior] at hfrom
      obtain ⟨-, -, -, -, startsAt, hs⟩ := hfrom
      rw [hs]
      exact ⟨rfl, Option.some_ne_none _⟩
  exact {
    subscription_mem := h.subscriptions.mem_iff.mpr (.inl rfl)
    subscription_keys := ⟨hst, hsu, hsm⟩
    active := hactive.1
    started := hactive.2
    membership_mem := h.linked.1
    membership_keys := ⟨hmt, hmu, hmc⟩
    entitled := hms
    link := h.linkStands hlinks }

/-- Whoever stays as he is was active before the issue just when he is after it. -/
theorem Grant.Holds.active_iff {market : Market} {g : Grant} {calls : List Sent}
    (h : g.Holds G ttl providerType market w w' calls) :
    g.membership.status = .active ↔ g.base.status = .active := by
  rcases h.invite.cases with ⟨-, hm, -⟩ | ⟨_, -, -, -, hm, -⟩
  · rw [hm]
  · rw [hm]
    simp only [InviteService.recordLink]
    split
    · next hactive => simp [hactive]
    · next hactive => simp [hactive]

/-- A submission leaves the outcome it returns standing. -/
theorem Submitted.standing {r : OnboardingResult}
    (h : Submitted G ttl providerType s w r w') (hG : AnswersWith G s.uid answer)
    (hlinks : ∀ link, Issuable G link → link ≠ "") :
    Standing w'.view w.tenantId ttl providerType answer s r := by
  have hkept : ∀ {w₁ w₂ : World}, w.SameBut [.telegramUsers] w₁ → w₁.view = w₂.view →
      w.view.Ready w.tenantId providerType s.market →
      w₂.view.Ready w.tenantId providerType s.market := by
    intro w₁ w₂ hsame hview hready
    unfold Database.Ready
    rw [← hview, hsame.view _ (by decide), hsame.view _ (by decide)]
    exact hready
  cases h with
  | invalid hvalid => exact .invalid hvalid
  | notConfigured hvalid hno => exact .notConfigured hvalid hno
  | @claimed user _ account _ hvalid hready hident hmem hat hap hau hne =>
    obtain ⟨hut, hutg⟩ := hident.user_from.keys
    have hthere : account ∈ w'.view .referralAccounts := by
      rw [hident.same.view _ (by decide)]
      exact hmem
    exact .claimed hvalid (hkept hident.same rfl hready) (hident.users.mem_iff.mpr (.inl rfl)) hut
      hutg hident.user_from.named hthere hat hap hau hne
  | unavailable ha hreason hsaved =>
    exact .asked (ha.stands hG hsaved ⟨rfl, rfl, rfl, rfl⟩ fun _ _ => rfl) (.unavailable hreason)
  | rejected ha hreason helig hsaved =>
    exact .asked (ha.stands hG hsaved ⟨rfl, rfl, rfl, rfl⟩ fun _ _ => rfl)
      (.rejected hreason helig)
  | @granted a verifiedAt g w₁ w₂ _ calls ha helig hsaved hg hfor =>
    have ht : w₂.tenantId = w.tenantId :=
      hsaved.same.tenantId.trans ha.identified.same.tenantId
    have hstands : a.Stands w'.view w.tenantId providerType answer s (a.verified verifiedAt) := by
      refine ha.stands hG hsaved ⟨rfl, rfl, rfl, rfl⟩ fun t ht => ?_
      simp only [List.mem_cons, List.not_mem_nil, or_false] at ht
      rcases ht with rfl | rfl | rfl | rfl
      · exact hfor.users
      · exact hfor.accounts
      · exact hg.other _ (by decide)
      · exact hg.other _ (by decide)
    have hgrant := hg.stands hlinks
    rw [ht, hfor.userId_eq, hfor.channel_eq] at hgrant
    have hresult : g.result a.verdict s.uid = {
        outcome := if g.membership.status = .active then .alreadyMember else .invited
        inviteLink := some g.link
        verdict := some a.verdict
        uid := some s.uid } := by
      simp only [Grant.result, hg.active_iff]
    have hcomes : a.ComesTo w'.view w.tenantId ttl s (a.verified verifiedAt)
        (g.result a.verdict s.uid) := by
      rw [hresult]
      exact .granted helig hgrant
    exact .asked hstands hcomes

end Leaves

/-! ## What stands is found again -/

/-- Nothing but timestamps has changed in the session, and nothing was sent. -/
structure World.Again (w w' : World) : Prop where
  rows : SameButTimes w.view w'.view
  ledger : w'.ledger = w.ledger
  conflict : w'.conflict = w.conflict

theorem World.Again.of_view {w w' : World} (hview : w'.view = w.view)
    (hledger : w'.ledger = w.ledger) (hconflict : w'.conflict = w.conflict) : w.Again w' :=
  ⟨fun t => by rw [hview], hledger, hconflict⟩

/-- No link in the user's hands outlives the moment. -/
def LinksOutlast (d : Database) (A : TenantId) (ttl : TimeDelta) (s : Submission)
    (moment : DateTime) : Prop :=
  ∀ user ∈ d .telegramUsers, user.tenantId = A → user.telegramUserId = s.telegramUserId →
    ∀ channel ∈ d .telegramChannels, channel.tenantId = A → channel.market = s.market →
      channel.isActive = true →
      ∀ m ∈ d .vipMemberships, m.tenantId = A → m.userId = user.id → m.channelId = channel.id →
        ∀ issued, m.inviteIssuedAt = some issued → moment.utc < issued.utc + ttl.micros

section Again

variable {G : World → Op → Choice → Prop} {ttl : TimeDelta} {providerType : ProviderType}
  {answer : Except PyError ReferralCheck} {w : World} {F : PyError → World → Prop}

/-- A read by a key finds the row that has it. -/
theorem works_selectOneOrNone_there {t : Table} {cond : Row t → Bool}
    {Q : Option (Row t) → World → Prop} {row : Row t} (hw : w.Sound)
    (hconflict : w.conflict = none)
    (hkey : ∀ r s, rowTenant t r = rowTenant t s → cond r = true → cond s = true →
      clash t r s = true)
    (hmem : row ∈ w.view t) (ht : rowTenant t row = w.tenantId) (hcond : cond row = true)
    (hok : Q (some row) w) : Works G (selectOneOrNone t cond) Q F w := by
  have hscope : w.inScope cond row = true := by simp [World.inScope, ht, hcond]
  refine works_selectOneOrNone hw hconflict hkey fun found hfound => ?_
  cases found with
  | none =>
    have hno := hfound row hmem
    rw [hscope] at hno
    cases hno
  | some r =>
    rw [hfound.2.2 row hmem hscope] at hok
    exact hok

theorem works_ensureUser_again {username firstName : Option String} {user : TelegramUser}
    {Q : TelegramUser → World → Prop} (hw : w.Sound) (hconflict : w.conflict = none)
    (hmem : user ∈ w.view .telegramUsers) (ht : user.tenantId = w.tenantId)
    (hnamed : renameUser username firstName user = user) (hok : Q user w) :
    Works G (ensureUser w.tenantId user.telegramUserId username firstName) Q F w := by
  unfold ensureUser TelegramUserRepository.getByTelegramId
  rw [works_bind]
  refine works_selectOneOrNone_there hw hconflict (fun r s _ hr hs => ?_) hmem ht
    (by simp [ht]) ?_
  · simp only [Bool.and_eq_true, beq_iff_eq] at hr hs
    simp [clash, hr, hs]
  rw [works_bind]
  refine works_update (fun _ _ _ => rfl) ?_
  have hview : w.view.modify .telegramUsers (w.inScope fun r => r.id == user.id)
      (renameUser username firstName) = w.view := by
    refine Store.modify_of_kept fun r hr hscope => ?_
    have hone := (hw.inScope_id (t := .telegramUsers) TelegramUser.id hmem ht
      fun r s h => by simp [clash, h]).1
    rw [hone r hr (by simpa using World.inScope_cond hscope)]
    exact hnamed
  rw [works_pure, hview, hnamed]
  exact hok

theorem works_ensureSubscription_again {market : Market} {subscription : Subscription}
    {Q : Subscription → World → Prop} (hw : w.Sound) (hconflict : w.conflict = none)
    (hmem : subscription ∈ w.view .subscriptions) (ht : subscription.tenantId = w.tenantId)
    (hmarket : subscription.market = market) (hactive : subscription.status = .active)
    (hstarted : subscription.startsAt ≠ none)
    (hone : ∀ r ∈ w.view .subscriptions, r.tenantId = subscription.tenantId →
      r.userId = subscription.userId → r.market = subscription.market → r = subscription)
    (hok : Q subscription w) :
    Works G (ensureSubscription w.tenantId subscription.userId market) Q F w := by
  unfold ensureSubscription SubscriptionRepository.getActiveForUser
  rw [bind_assoc, works_bind]
  refine works_select hconflict fun rows hrows => ?_
  simp only [pure_bind]
  cases rows with
  | nil =>
    exfalso
    have hnot := hrows.mem_iff.mpr (List.mem_filter.mpr ⟨hmem, by
      simp [World.inScope, rowTenant, ht, hmarket]⟩)
    cases hnot
  | cons existing rest =>
    have hfound := List.mem_filter.mp (hrows.mem_iff.mp List.mem_cons_self)
    have hcond := World.inScope_cond hfound.2
    simp only [Bool.and_eq_true, beq_iff_eq] at hcond
    have heq : existing = subscription := hone existing hfound.1 (hcond.1.1.trans ht.symm)
      hcond.1.2 (hcond.2.trans hmarket.symm)
    subst heq
    obtain ⟨startsAt, hstart⟩ := Option.ne_none_iff_exists'.mp hstarted
    -- It is active and has begun: it is written as it is.
    have hsame : ({ existing with status := .active, startsAt := some startsAt } : Subscription) =
        existing := by
      rw [← hactive, ← hstart]
    simp only [List.head?_cons, hstart, nowOr, pure_bind]
    rw [works_bind]
    refine works_update (fun _ _ _ => rfl) ?_
    have hview : w.view.modify .subscriptions (w.inScope fun r => r.id == existing.id)
        (fun r => { r with status := .active, startsAt := some startsAt }) = w.view := by
      refine Store.modify_of_kept fun r hr hscope => ?_
      have hid := (hw.inScope_id (t := .subscriptions) Subscription.id hmem ht
        fun r s h => by simp [clash, h]).1
      rw [hid r hr (by simpa using World.inScope_cond hscope)]
      exact hsame
    rw [works_pure, hview, hsame]
    exact hok

theorem works_ensureMembership_again {m : VIPMembership} {subscriptionId : RowId}
    {Q : VIPMembership → World → Prop} (hw : w.Sound) (hconflict : w.conflict = none)
    (hmem : m ∈ w.view .vipMemberships) (ht : m.tenantId = w.tenantId)
    (hentitled : m.subscriptionId = some subscriptionId) (hlive : m.status.linkIsLive = true)
    (hok : Q m w) :
    Works G (ensureMembership w.tenantId m.userId m.channelId subscriptionId) Q F w := by
  have hsame : reinstate subscriptionId m = m := by
    have hstays : ¬ (m.status = .revoked ∨ m.status = .expired) := by
      rintro (h | h) <;> rw [h] at hlive <;> cases hlive
    unfold reinstate
    rw [if_neg hstays, ← hentitled]
  unfold ensureMembership MembershipRepository.getForUserAndChannel
  rw [works_bind]
  refine works_selectOneOrNone_there hw hconflict (fun r s _ hr hs => ?_) hmem ht
    (by simp [ht]) ?_
  · simp only [Bool.and_eq_true, beq_iff_eq] at hr hs
    simp [clash, hr, hs]
  rw [works_bind]
  refine works_update (keepsKeys_reinstate _ _) ?_
  have hview : w.view.modify .vipMemberships (w.inScope fun r => r.id == m.id)
      (reinstate subscriptionId) = w.view := by
    refine Store.modify_of_kept fun r hr hscope => ?_
    have hone := (hw.inScope_id (t := .vipMemberships) VIPMembership.id hmem ht
      fun r s h => by simp [clash, h]).1
    rw [hone r hr (by simpa using World.inScope_cond hscope)]
    exact hsame
  rw [works_pure, hview, hsame]
  exact hok

/-- A link that stands is handed out again. -/
theorem works_issue_again {channel : TelegramChannel} {m : VIPMembership} {link : String}
    {Q : IssuedInvite × VIPMembership → World → Prop} (hlink : LinkStands ttl m link)
    (hoften : ∀ c, G w .utcnow c → ∀ issued, m.inviteIssuedAt = some issued →
      (World.reading c).utc < issued.utc + ttl.micros)
    (hok : ∀ n, Q (⟨link, true⟩, m) { w with clock := n }) :
    Works G (InviteService.issue ttl w.tenantId m channel none) Q F w := by
  obtain ⟨hrecorded, hne, hlive, issued, expires, hissued, hexpires⟩ := hlink
  unfold InviteService.issue
  rw [works_bind]
  refine works_utcnow fun c hc => ?_
  have hfresh : InviteService.liveLink ttl m (World.reading c) = .ok (some link) :=
    InviteService.liveLink_of_fresh hrecorded hne hlive hissued hexpires rfl
      (hoften c hc issued hissued)
  rw [hfresh]
  exact hok _

theorem works_grant_again {market : Market} {uid : String} {channel : TelegramChannel}
    {verdict : EligibilityVerdict} {subscription : Subscription} {m : VIPMembership}
    {link : String} {userId : RowId} (hw : w.Sound) (hconflict : w.conflict = none)
    (hstands : GrantStands w.view w.tenantId ttl market userId channel.id subscription m link)
    (hent : EntitledIn w.tenantId w.view)
    (hoften : ∀ v c, G v .utcnow c → ∀ issued, m.inviteIssuedAt = some issued →
      (World.reading c).utc < issued.utc + ttl.micros) :
    Works G (grant ttl w.tenantId userId market uid channel verdict)
      (fun r w' => r = {
          outcome := if m.status = .active then .alreadyMember else .invited
          inviteLink := some link
          verdict := some verdict
          uid := some uid } ∧ w.Again w') F w := by
  obtain ⟨hst, hsu, hsm⟩ := hstands.subscription_keys
  obtain ⟨hmt, hmu, hmc⟩ := hstands.membership_keys
  have hone : ∀ r ∈ w.view .subscriptions, r.tenantId = subscription.tenantId →
      r.userId = subscription.userId → r.market = subscription.market → r = subscription :=
    fun r hr ht hu hm => hent.one r hr subscription hstands.subscription_mem (ht.trans hst) ht hu hm
  subst hsu
  unfold grant
  rw [works_bind]
  refine works_ensureSubscription_again hw hconflict hstands.subscription_mem hst hsm
    hstands.active hstands.started hone ?_
  rw [works_bind, ← hmu, ← hmc]
  refine works_ensureMembership_again hw hconflict hstands.membership_mem hmt hstands.entitled
    hstands.link.live ?_
  dsimp only
  rw [works_bind]
  refine works_issue_again hstands.link (hoften w) fun n => ?_
  dsimp only
  rw [works_bind]
  refine works_saveLoaded hconflict ⟨m, hstands.membership_mem, ?_⟩ fun _ _ _ => ?_
  · simp [World.inScope, rowTenant, hmt]
  · exact ⟨rfl, .of_view rfl rfl rfl⟩

/-- An account that a check wrote is written again, but for when. -/
theorem works_saveAccount_again {market : Market} {uid : String} {account : ReferralAccount}
    {change : ReferralAccount → ReferralAccount} {Q : ReferralAccount → World → Prop}
    (hw : w.Sound) (hconflict : w.conflict = none) (hmem : account ∈ w.view .referralAccounts)
    (ht : account.tenantId = w.tenantId)
    (hkeys : ∀ r, (change r).id = r.id ∧ (change r).tenantId = r.tenantId ∧
      (change r).providerType = r.providerType ∧ (change r).uid = r.uid)
    (hsame : untimed .referralAccounts (change account) = untimed .referralAccounts account)
    (hok : ∀ r w', w.Again w' → (∀ t, t ≠ .referralAccounts → w'.view t = w.view t) →
      Q r w') :
    Works G (saveAccount w.tenantId account.userId providerType market uid (some account) change)
      Q F w := by
  have hkept : KeepsKeys w.tenantId .referralAccounts change := by
    intro r _ s
    obtain ⟨hid, htenant, htype, huid⟩ := hkeys r
    simp only [clash, hid, htenant, htype, huid]
  unfold saveAccount
  rw [works_bind]
  refine works_update hkept ?_
  have hrows := Store.modify_self w.view Table.referralAccounts
    (w.inScope fun r => r.id == account.id) change
  obtain ⟨hone, hscope⟩ := hw.inScope_id (t := .referralAccounts) ReferralAccount.id hmem ht
    fun r s h => by simp [clash, h]
  refine works_saveLoaded hconflict ⟨change account, ?_, ?_⟩ fun r _ _ => ?_
  · change _ ∈ w.view.modify .referralAccounts _ _ .referralAccounts
    rw [hrows]
    exact change_mem_modifyRows hmem ((hscope account hmem).mpr rfl)
  · simp [World.inScope, rowTenant, hkeys account, ht]
  · refine hok r _ ⟨fun t => ?_, rfl, rfl⟩ fun t hne => Store.modify_other _ hne _ _
    by_cases hne : t = .referralAccounts
    · subst hne
      change (w.view.modify .referralAccounts _ _ .referralAccounts).map _ = _
      rw [hrows, modifyRows, List.map_map]
      refine List.map_congr_left fun r hr => ?_
      simp only [Function.comp]
      split
      · next hsel =>
        rw [hone r hr ((hscope r hr).mp hsel)]
        exact hsame
      · rfl
    · exact congrArg _ (Store.modify_other _ hne _ _)

theorem World.Again.trans {w' w'' : World} (h : w.Again w') (h' : w'.Again w'') : w.Again w'' :=
  ⟨fun t => (h'.rows t).trans (h.rows t), h'.ledger.trans h.ledger,
    h'.conflict.trans h.conflict⟩

theorem EntitledIn.congr {A : TenantId} {d d' : Database} (h : EntitledIn A d)
    (hms : d' .vipMemberships = d .vipMemberships) (hsubs : d' .subscriptions = d .subscriptions)
    (hchannels : d' .telegramChannels = d .telegramChannels) : EntitledIn A d' where
  memberships := by
    intro m hm ht
    rw [hms] at hm
    obtain ⟨c, s, hby⟩ := h.memberships m hm ht
    exact ⟨c, s, hchannels ▸ hby.channel_mem, hby.channel_id, hby.channel_tenant,
      hsubs ▸ hby.subscription_mem, hby.subscription_id, hby.subscription_owner, hby.market⟩
  one := by
    rw [hsubs]
    exact h.one

/-- The rest of a submission once the exchange has answered as before. -/
theorem works_settle_again {s : Submission} {r : OnboardingResult} {a : Attempt}
    {account : ReferralAccount} (hw : w.Sound) (hconflict : w.conflict = none)
    (hstands : a.Stands w.view w.tenantId providerType answer s account)
    (hcomes : a.ComesTo w.view w.tenantId ttl s account r)
    (hent : EntitledIn w.tenantId w.view)
    (hoften : r.inviteLink ≠ none → ∀ v c, G v .utcnow c →
      LinksOutlast w.view w.tenantId ttl s (World.reading c)) :
    Works G (settle ttl w.tenantId providerType s.market s.uid a.channel a.user.id (some account)
        a.check a.verdict) (fun r' w' => r' = r ∧ w.Again w') F w := by
  obtain ⟨hat, -, -, hauser⟩ := hstands.account_keys
  have hmem := hstands.account_mem
  have hclock : ∀ n, w.Again { w with clock := n } := fun n => .of_view rfl rfl rfl
  have hroom : ∀ e, balanceColumn a.check a.verdict ≠ .error e := by
    intro e
    rw [hstands.room]
    nofun
  rw [← hauser]
  unfold settle
  rw [works_bind]
  refine works_sound hw (works_utcnow fun c _ hw₁ => ?_)
  cases hcomes with
  | unavailable hreason =>
    simp only [hreason, if_true]
    rw [works_bind, works_bind]
    refine works_raising (fun _ _ => ?_) fun e he => absurd he (hroom e)
    refine works_saveAccount_again hw₁ hconflict hmem hat (fun _ => ⟨rfl, rfl, rfl, rfl⟩) ?_
      fun _ w' hagain _ => ⟨rfl, (hclock _).trans hagain⟩
    cases hcheck : a.check with
    | none => simp only [untimed, recordCheck, Attempt.unavailable, Attempt.checked, hcheck]
    | some check => simp only [untimed, recordCheck, Attempt.unavailable, Attempt.checked, hcheck]
  | rejected hreason helig =>
    simp only [hreason, if_false, helig, Bool.not_false, if_true]
    rw [works_bind, works_bind]
    refine works_raising (fun _ _ => ?_) fun e he => absurd he (hroom e)
    refine works_saveAccount_again hw₁ hconflict hmem hat (fun _ => ⟨rfl, rfl, rfl, rfl⟩) ?_
      fun _ w' hagain _ => ⟨rfl, (hclock _).trans hagain⟩
    cases hcheck : a.check with
    | none => simp only [untimed, recordCheck, Attempt.rejected, Attempt.checked, hcheck]
    | some check => simp only [untimed, recordCheck, Attempt.rejected, Attempt.checked, hcheck]
  | @granted verifiedAt subscription m link helig hgrant =>
    have hreason : a.verdict.reason ≠ .providerUnavailable := by
      intro h
      simp [EligibilityVerdict.eligible, h] at helig
    simp only [hreason, if_false, helig, Bool.not_true, Bool.false_eq_true]
    rw [works_bind]
    refine works_sound hw₁ (works_utcnow fun c' _ hw₂ => ?_)
    rw [works_bind, works_bind]
    refine works_raising (fun _ _ => ?_) fun e he => absurd he (hroom e)
    refine works_sound hw₂ (works_saveAccount_again hw₂ hconflict hmem hat
      (fun _ => ⟨rfl, rfl, rfl, rfl⟩) ?_ fun _ w' hagain hother hw' => ?_)
    · cases hcheck : a.check with
      | none => simp only [untimed, recordCheck, Attempt.verified, Attempt.checked, hcheck]
      | some check => simp only [untimed, recordCheck, Attempt.verified, Attempt.checked, hcheck]
    -- What the grant reads is as the account's write found it.
    have ht : w'.tenantId = w.tenantId := congrArg Ledger.tenantId hagain.ledger
    have hms : w'.view .vipMemberships = w.view .vipMemberships := hother _ (by decide)
    have hsubs : w'.view .subscriptions = w.view .subscriptions := hother _ (by decide)
    have hchannels : w'.view .telegramChannels = w.view .telegramChannels :=
      hother _ (by decide)
    have hgrant' : GrantStands w'.view w'.tenantId ttl s.market a.user.id a.channel.id
        subscription m link := by
      rw [ht]
      exact { hgrant with
        subscription_mem := hsubs ▸ hgrant.subscription_mem
        membership_mem := hms ▸ hgrant.membership_mem }
    have hent' : EntitledIn w'.tenantId w'.view := by
      rw [ht]
      exact hent.congr hms hsubs hchannels
    have hlasting : ∀ v c, G v .utcnow c → ∀ issued, m.inviteIssuedAt = some issued →
        (World.reading c).utc < issued.utc + ttl.micros := by
      intro v c hc issued hissued
      obtain ⟨hmt, hmu, hmc⟩ := hgrant.membership_keys
      obtain ⟨hut, hutg⟩ := hstands.user_keys
      obtain ⟨hct, hcm, hca⟩ := hstands.channel_keys
      exact hoften (Option.some_ne_none link) v c hc a.user hstands.user_mem hut hutg a.channel
        hstands.channel_mem hct hcm hca m hgrant.membership_mem hmt hmu hmc issued hissued
    have hworks : Works G (grant ttl w'.tenantId a.user.id s.market s.uid a.channel a.verdict)
        _ F w' := works_grant_again hw' (hagain.conflict.trans hconflict) hgrant' hent' hlasting
    have hbefore : w.Again w' := (hclock _).trans ((hclock _).trans hagain)
    rw [hauser]
    rw [ht] at hworks
    refine works_mono hworks (fun r' w'' h => ?_) fun _ _ he => he
    exact ⟨h.1, hbefore.trans h.2⟩

/-- The exchange answers as it did. -/
theorem works_checkUser_again {uid : String} {Q : Option ReferralCheck → World → Prop}
    (hG : AnswersWith G uid answer)
    (hout : ∀ e, answer = .error e → e.cls = .providerUnavailableError)
    (hok : Q answer.toOption { w with asked := w.asked ++ [(w.tenantId, uid)] }) :
    Works G (checkUser uid) Q F w := by
  refine works_checkUser hG (fun check h => ?_) (fun e h _ => ?_) fun e _ h hcls => ?_
  · rw [h] at hok
    exact hok
  · rw [h] at hok
    exact hok
  · exact absurd (hout e h) hcls

/-- A submission to a market that is set up asks for the user and the account of the
    UID. -/
theorem works_submitUid_ready {s : Submission} {config : ReferralProgramConfig}
    {channel : TelegramChannel} {Q : OnboardingResult → World → Prop} (hw : w.Sound)
    (hconflict : w.conflict = none) (hvalid : isValidBitunixUid s.uid = true)
    (hconfig : w.HasConfig providerType s.market config)
    (hchannel : w.HasChannel s.market channel)
    (h : Works G (enroll ttl w.tenantId providerType s.telegramUserId s.market s.uid s.username
      s.firstName config channel) Q F w) :
    Works G (submitUid ttl providerType w.tenantId s.telegramUserId s.market s.rawUid s.username
      s.firstName) Q F w := by
  obtain ⟨hmem, ht, hp, hm, hactive⟩ := hconfig
  obtain ⟨hcmem, hct, hcm, hca⟩ := hchannel
  unfold submitUid ReferralProgramConfigRepository.getFor TelegramChannelRepository.getForMarket
  change Works G (if (!isValidBitunixUid s.uid) = true then _ else _) _ _ w
  rw [if_neg (by simpa using hvalid), works_bind]
  refine works_selectOneOrNone_there hw hconflict (fun r s _ hr hs => ?_) hmem ht
    (by simp [ht, hp, hm]) ?_
  · simp only [Bool.and_eq_true, beq_iff_eq] at hr hs
    simp [clash, hr, hs]
  rw [works_bind]
  refine works_selectOneOrNone_there hw hconflict (fun r s _ hr hs => ?_) hcmem hct
    (by simp [hct, hcm, hca]) ?_
  · simp only [Bool.and_eq_true, beq_iff_eq] at hr hs
    simp [clash, hr, hs]
  simp only [hactive, Bool.not_true, Bool.false_eq_true, if_false]
  exact h

theorem World.hasConfig_of_ready {market : Market}
    (h : w.view.Ready w.tenantId providerType market) :
    (∃ config, w.HasConfig providerType market config) ∧
      ∃ channel, w.HasChannel market channel := by
  obtain ⟨⟨config, hconfig⟩, channel, hchannel⟩ := h
  exact ⟨⟨config, hconfig⟩, channel, hchannel⟩

/-- A submission whose outcome stands comes to it again. -/
theorem Standing.works {s : Submission} {r : OnboardingResult} (hw : w.Sound)
    (hconflict : w.conflict = none)
    (h : Standing w.view w.tenantId ttl providerType answer s r)
    (hG : AnswersWith G s.uid answer) (hent : EntitledIn w.tenantId w.view)
    (hoften : r.inviteLink ≠ none → ∀ v c, G v .utcnow c →
      LinksOutlast w.view w.tenantId ttl s (World.reading c)) :
    Works G (submitUid ttl providerType w.tenantId s.telegramUserId s.market s.rawUid s.username
      s.firstName) (fun r' w' => r' = r ∧ w.Again w') F w := by
  have hsame : w.Again w := .of_view rfl rfl rfl
  cases h with
  | invalid hvalid =>
    unfold submitUid
    change Works G (if (!isValidBitunixUid s.uid) = true then _ else _) _ _ w
    rw [if_pos (by simpa using hvalid)]
    exact ⟨rfl, hsame⟩
  | notConfigured hvalid hno =>
    refine works_mono (works_submitUid_unready hw hconflict hvalid hno) ?_ fun _ _ he => he
    rintro r' w' ⟨rfl, rfl⟩
    exact ⟨rfl, hsame⟩
  | @claimed user account hvalid hready huser hut hutg hnamed hmem hat hap hau hne =>
    obtain ⟨⟨config, hconfig⟩, channel, hchannel⟩ := World.hasConfig_of_ready hready
    refine works_submitUid_ready hw hconflict hvalid hconfig hchannel ?_
    unfold enroll ReferralAccountRepository.getByUid
    rw [works_bind, ← hutg]
    refine works_ensureUser_again hw hconflict huser hut hnamed ?_
    rw [works_bind]
    refine works_selectOneOrNone_there hw hconflict (fun r s _ hr hs => ?_) hmem hat
      (by simp [hat, hap, hau]) ?_
    · simp only [Bool.and_eq_true, beq_iff_eq] at hr hs
      simp [clash, hr, hs]
    have hother : ((some account).any fun account => account.userId != user.id) = true := by
      simpa using hne
    simp only [hother, if_true]
    exact ⟨rfl, hsame⟩
  | @asked a account r hstands hcomes =>
    obtain ⟨hut, hutg⟩ := hstands.user_keys
    obtain ⟨hat, hap, hau, hauser⟩ := hstands.account_keys
    refine works_submitUid_ready hw hconflict hstands.valid
      ⟨hstands.config_mem, hstands.config_keys⟩ ⟨hstands.channel_mem, hstands.channel_keys⟩ ?_
    unfold enroll ReferralAccountRepository.getByUid
    rw [works_bind, ← hutg]
    refine works_ensureUser_again hw hconflict hstands.user_mem hut hstands.named ?_
    rw [works_bind]
    refine works_selectOneOrNone_there hw hconflict (fun r s _ hr hs => ?_) hstands.account_mem
      hat (by simp [hat, hap, hau]) ?_
    · simp only [Bool.and_eq_true, beq_iff_eq] at hr hs
      simp [clash, hr, hs]
    have hown : ((some account).any fun account => account.userId != a.user.id) = false := by
      simp [hauser]
    simp only [hown, Bool.false_eq_true, if_false]
    rw [works_bind]
    refine works_sound hw (works_checkUser_again hG hstands.outage fun hw₁ => ?_)
    rw [← hstands.check, hstands.verdict]
    have hsettle : Works G (settle ttl w.tenantId providerType s.market s.uid a.channel a.user.id
        (some account) a.check a.verdict) _ F
        { w with asked := w.asked ++ [(w.tenantId, s.uid)] } :=
      works_settle_again hw₁ hconflict hstands hcomes hent hoften
    refine works_mono hsettle (fun r' w' h => ⟨h.1, ?_⟩) fun _ _ he => he
    exact ⟨h.2.rows, h.2.ledger, h.2.conflict⟩

end Again

/-! ## Submitting again -/

/-- What stands for a submission stands for any other text of its UID. -/
theorem Standing.reworded {d : Database} {A : TenantId} {ttl : TimeDelta}
    {providerType : ProviderType} {answer : Except PyError ReferralCheck} {s : Submission}
    {r : OnboardingResult} {rawUid : String} (h : Standing d A ttl providerType answer s r)
    (huid : normalizeUid rawUid = s.uid) :
    Standing d A ttl providerType answer { s with rawUid } r := by
  have hsame : ({ s with rawUid } : Submission).uid = s.uid := huid
  cases h with
  | invalid hvalid =>
    rw [← hsame] at hvalid ⊢
    exact .invalid hvalid
  | notConfigured hvalid hno =>
    rw [← hsame] at hvalid ⊢
    exact .notConfigured hvalid hno
  | claimed hvalid hready huser hut hutg hnamed hmem hat hap hau hne =>
    rw [← hsame] at hvalid hau ⊢
    exact .claimed hvalid hready huser hut hutg hnamed hmem hat hap hau hne
  | asked hstands hcomes =>
    refine .asked { hstands with
      valid := hsame ▸ hstands.valid
      account_keys := hsame ▸ hstands.account_keys } ?_
    cases hcomes with
    | unavailable hreason =>
      rw [← hsame]
      exact .unavailable hreason
    | rejected hreason helig =>
      rw [← hsame]
      exact .rejected hreason helig
    | granted helig hgrant =>
      rw [← hsame]
      exact .granted helig hgrant

/-- A submission that has returned is made again: by the same user under the same names,
    for the same market, with any text of the same UID, while the exchange answers as it
    did and before the lifetime of the link is over.  It comes to the same, with the same
    link, sends nothing, adds no row and changes nothing but timestamps. -/
theorem resubmission_idempotent {key : EncryptionKey} {S : Settings} {w₀ w w₁ w₂ : World}
    {A : TenantId} {providerType : ProviderType} {G G' : World → Op → Choice → Prop}
    {answer : Except PyError ReferralCheck} {r : OnboardingResult}
    {x : Except PyError (Option OnboardingResult)} (hsound : w₀.Sound)
    (hms : ∀ m ∈ w₀.db .vipMemberships, m.tenantId ≠ A)
    (hsubs : ∀ s ∈ w₀.db .subscriptions, s.tenantId ≠ A)
    (hreached : Chronicle Whatever key S w₀ w) (s : Submission) (rawUid : String)
    (huid : normalizeUid rawUid = s.uid) (hlinks : ∀ link, Issuable G link → link ≠ "")
    (hanswer : AnswersWith G s.uid answer) (hanswer' : AnswersWith G' s.uid answer)
    (hsolid : ¬ Broken G')
    (hfirst : Runs (serial G) (submitTx S.ttl providerType A s.telegramUserId s.market s.rawUid
      s.username s.firstName) w (.ok (some r)) w₁)
    (hoften : r.inviteLink ≠ none → ∀ v c, G' v .utcnow c →
      LinksOutlast w₁.db A S.ttl s (World.reading c))
    (hsecond : Runs (serial G') (submitTx S.ttl providerType A s.telegramUserId s.market rawUid
      s.username s.firstName) w₁ x w₂) :
    x = .ok (some r) ∧ SameButTimes w₁.db w₂.db ∧ w₂.allSent = w₁.allSent := by
  have hw := (hreached.entitled hsound hms hsubs).1
  have hstep : Activity.Steps G key S (.submission A providerType s) w w₁ := ⟨_, hfirst⟩
  obtain ⟨hw₁, hent⟩ := Chronicle.entitled (hreached.tail ⟨G, _, trivial, hstep⟩) hsound hms hsubs
  -- The first submission leaves its outcome standing.
  have hstanding : Standing w₁.db A S.ttl providerType answer s r := by
    obtain ⟨v, hbody, hdb, -⟩ := runs_transaction_some hfirst
    have hmeets : Meets G (submitUid S.ttl providerType (w.opened A).tenantId s.telegramUserId
        s.market s.rawUid s.username s.firstName) _ _ (w.opened A) :=
      meets_submitted s (hw.opened A) rfl
    rw [hdb]
    exact Submitted.standing (wp_sound hmeets hbody) hanswer hlinks
  let s' : Submission := { s with rawUid }
  have hstanding' : Standing w₁.db A S.ttl providerType answer s' r := hstanding.reworded huid
  have hworks : Works G' (submitTx S.ttl providerType A s.telegramUserId s.market rawUid
      s.username s.firstName)
      (fun y w' => y = some r ∧ SameButTimes w₁.db w'.db ∧ w'.allSent = w₁.allSent)
      (fun _ _ => False) w₁ := by
    refine works_transaction hsolid ?_
    have hagain : Works G' (submitUid S.ttl providerType (w₁.opened A).tenantId s'.telegramUserId
        s'.market s'.rawUid s'.username s'.firstName) _ (fun _ _ => False) (w₁.opened A) :=
      hstanding'.works (hw₁.opened A) rfl (by rwa [show s'.uid = s.uid from huid]) hent hoften
    refine works_mono hagain (fun r' w' h => ?_) fun _ _ he => he
    obtain ⟨rfl, hrows, hledger, hconflict⟩ := h
    have hsent : w'.sent = w₁.sent ++ w₁.txSent := congrArg Ledger.sent hledger
    have htx : w'.txSent = [] := congrArg Ledger.txSent hledger
    refine ⟨hconflict, rfl, hrows, ?_⟩
    show w'.sent ++ w'.txSent = w₁.sent ++ w₁.txSent
    rw [hsent, htx, List.append_nil]
  have hend := wp_sound hworks hsecond
  cases x with
  | error e => exact (hend.elim hsolid id).elim
  | ok y =>
    obtain ⟨rfl, hrows, hsent⟩ := hend
    exact ⟨rfl, hrows, hsent⟩

/-! ### A member who is invited again -/

/-- Day 100: the member is invited. -/
def invitedRun : Except PyError (Option OnboardingResult) × World :=
  exec World.step answeringEnv (submitTx defaultSettings.ttl .bitunix 1 77 .crypto " 222222222 "
    none none) configuredWorld

/-- The same day, without the blanks. -/
def invitedAgainRun : Except PyError (Option OnboardingResult) × World :=
  exec World.step answeringEnv (submitTx defaultSettings.ttl .bitunix 1 77 .crypto "222222222"
    none none) invitedRun.2

theorem invited_again :
    invitedAgainRun.1 = invitedRun.1 ∧
      invitedRun.1.toOption.join.bind (·.inviteLink) = some "https://t.me/+0" ∧
      SameButTimes invitedRun.2.db invitedAgainRun.2.db ∧
      invitedAgainRun.2.allSent = invitedRun.2.allSent := by
  have hfirst : Runs (serial (Only answeringEnv)) (submitTx defaultSettings.ttl .bitunix 1 77
      .crypto " 222222222 " none none) configuredWorld invitedRun.1 invitedRun.2 :=
    runs_only answeringEnv _ configuredWorld
  have hsecond : Runs (serial (Only answeringEnv)) (submitTx defaultSettings.ttl .bitunix 1 77
      .crypto "222222222" none none) invitedRun.2 invitedAgainRun.1 invitedAgainRun.2 :=
    runs_only answeringEnv _ invitedRun.2
  have hlink : invitedRun.1.toOption.join.bind (·.inviteLink) = some "https://t.me/+0" := by
    decide +kernel
  have hanswer : AnswersWith (Only answeringEnv) (normalizeUid " 222222222 ")
      (.ok (fundedCheck (normalizeUid " 222222222 "))) := by
    rintro w c rfl
    rfl
  have hlinks : ∀ link, Issuable (Only answeringEnv) link → link ≠ "" := by
    rintro link ⟨w, call, about, c, rfl, -, rfl⟩
    show "https://t.me/+0" ≠ ""
    decide
  have hissued : ∀ m ∈ invitedRun.2.db .vipMemberships, m.inviteIssuedAt = some (.day 100) := by
    decide +kernel
  cases hr : invitedRun.1 with
  | error e =>
    rw [hr] at hlink
    cases hlink
  | ok result =>
    cases result with
    | none =>
      rw [hr] at hlink
      cases hlink
    | some r =>
      rw [hr] at hfirst
      have hstart : Chronicle Whatever (.key some) defaultSettings configuredWorld
          configuredWorld := .refl
      have hoften : r.inviteLink ≠ none → ∀ v c, Only answeringEnv v .utcnow c →
          LinksOutlast invitedRun.2.db 1 defaultSettings.ttl
            ⟨77, .crypto, " 222222222 ", none, none⟩ (World.reading c) := by
        rintro - v c rfl user - - - channel - - - - m hm - - - issued hmoment
        rw [hissued m hm] at hmoment
        cases hmoment
        show (World.reading { now := .day 100 }).utc <
          (DateTime.day 100).utc + defaultSettings.ttl.micros
        decide
      obtain ⟨hsame, hrows, hsent⟩ := resubmission_idempotent initial_configuredWorld.sound
        (fun m hm => (by cases hm)) (fun m hm => (by cases hm)) hstart
        ⟨77, .crypto, " 222222222 ", none, none⟩ "222222222" (by decide +kernel) hlinks hanswer
        hanswer solid_answeringEnv hfirst hoften hsecond
      exact ⟨hsame, by rw [← hr]; exact hlink, hrows, hsent⟩

end VipChannel

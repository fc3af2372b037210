/-
  VipChannel.Runs.Access

  Who gets in: a submission returns an invite link exactly when everything that should
  speak for it does (`Admitted`), unless the database fails a statement.

  What the exchange answers about a UID and what a mint comes to are parameters, so that
  the condition can speak of them.  A link whose expiry is no date counts as one that could
  not be minted, and an answer whose deposit has no room in its column (`recordable`) as one
  that was not given.
-/
import VipChannel.Runs.Events
import VipChannel.Persistence.WorkingSession

namespace VipChannel

open Lib ReferralOnboardingService
open Program (perform raising)

/-! ## What speaks for a submission -/

/-- The clock, at its latest reading. -/
def World.Shows (w : World) (moment : DateTime) : Prop :=
  moment.utc = w.clock ∧ moment.utcoffset = some 0

/-- The membership of a Telegram user in a channel. -/
def World.HasMembership (w : World) (telegramUserId : Int) (channelId : RowId)
    (m : VIPMembership) : Prop :=
  m ∈ w.view .vipMemberships ∧ m.tenantId = w.tenantId ∧ m.channelId = channelId ∧
    w.IsUser telegramUserId m.userId

/-- The exchange knows the account, and it holds what the program asks for. -/
def Funded (config : ReferralProgramConfig) (answer : Except PyError ReferralCheck) : Prop :=
  ∃ check, answer = .ok check ∧ check.registered = true ∧
    check.depositTotal.lt config.minimumBalance = .ok false

/-- There is a link to return: a live one, or one that can be minted. -/
def Obtainable (ttl : TimeDelta) (mint : Except PyError String) (w : World)
    (telegramUserId : Int) (channelId : RowId) (moment : DateTime) : Prop :=
  (∃ m, w.HasMembership telegramUserId channelId m ∧
    ∃ link, InviteService.liveLink ttl m moment = .ok (some link)) ∨
  ((∀ m, w.HasMembership telegramUserId channelId m →
      InviteService.liveLink ttl m moment = .ok none) ∧
    (∃ expireDate, plusDelta moment ttl = .ok expireDate) ∧ ∃ link, mint = .ok link)

/-- Everything that has to hold for a submission to be granted. -/
structure Admitted (ttl : TimeDelta) (providerType : ProviderType)
    (provider : String → Except PyError ReferralCheck) (mint : Except PyError String)
    (w : World) (telegramUserId : Int) (market : Market) (uid : String) (moment : DateTime) :
    Prop where
  valid : isValidBitunixUid uid = true
  config : ∃ config ∈ w.view .referralProgramConfigs, config.tenantId = w.tenantId ∧
    config.providerType = providerType ∧ config.market = market ∧ config.isActive = true ∧
    Funded config (provider uid)
  channel : ∃ channel ∈ w.view .telegramChannels, channel.tenantId = w.tenantId ∧
    channel.market = market ∧ channel.isActive = true ∧
    Obtainable ttl mint w telegramUserId channel.id moment
  /-- No account of the UID is another user's. -/
  unclaimed : ∀ account ∈ w.view .referralAccounts, account.tenantId = w.tenantId →
    account.providerType = providerType → account.uid = uid →
    w.IsUser telegramUserId account.userId

/-- The rows behind a link that was returned. -/
structure OnRecord (providerType : ProviderType) (telegramUserId : Int) (market : Market)
    (uid link : String) (w : World) : Prop where
  rows : ∃ userId, w.IsUser telegramUserId userId ∧
    (∃ channel ∈ w.view .telegramChannels, channel.tenantId = w.tenantId ∧
      channel.market = market ∧ channel.isActive = true ∧
      ∃ m ∈ w.view .vipMemberships, m.tenantId = w.tenantId ∧ m.userId = userId ∧
        m.channelId = channel.id ∧ m.inviteLink = some link ∧
        ∃ s ∈ w.view .subscriptions, m.subscriptionId = some s.id ∧ s.tenantId = w.tenantId ∧
          s.userId = userId ∧ s.market = market ∧ s.status = .active) ∧
    ∃ account ∈ w.view .referralAccounts, account.tenantId = w.tenantId ∧
      account.providerType = providerType ∧ account.uid = uid ∧ account.userId = userId ∧
      account.status = .verified

/-- What the call comes to, if it succeeds or not. -/
def Choice.answered {α : Type} (c : Choice) (a : α) : Except PyError α :=
  match c.fault with
  | some e => .error e
  | none => .ok a

/-- An answer as far as the account's row can keep it. -/
def recordable (answer : Except PyError ReferralCheck) : Except PyError ReferralCheck := do
  let check ← answer
  let _ ← numericColumn check.depositTotal
  return check

/-- A user as Telegram sends one: the columns of `telegram_users` have room for what
    identifies and names it. -/
structure Sender where
  telegramUserId : Int
  username : Option String := none
  firstName : Option String := none
  id_fits : HasBits 64 telegramUserId
  username_fits : ∀ name, username = some name → HasRoom 100 name
  firstName_fits : ∀ name, firstName = some name → HasRoom 200 name

/-- The exchange, Telegram and the generator do as told, and a link that Telegram mints has
    room in `vip_memberships`. -/
structure Obliging (provider : String → Except PyError ReferralCheck)
    (mint : Except PyError String) (G : World → Op → Choice → Prop) : Prop where
  fresh : ∀ w c, G w .uuid4 c → w.Unused c.id
  check : ∀ w uid c, G w (.validateUser uid) c → c.answered c.check = provider uid
  link : ∀ w chatId memberLimit expireDate name about c,
    G w (.telegram (.createChatInviteLink chatId memberLimit expireDate name) about) c →
    c.answered c.link = mint
  room : ∀ link, mint = .ok link → link.length ≤ 500 ∧ '\x00' ∉ link.toList

theorem recordable_eq_ok {answer : Except PyError ReferralCheck} {check : ReferralCheck} :
    recordable answer = .ok check ↔
      answer = .ok check ∧ ∃ d, numericColumn check.depositTotal = .ok d := by
  unfold recordable
  cases answer with
  | error e => simp [bind, Except.bind]
  | ok c =>
    simp only [bind, Except.bind, Except.ok.injEq]
    cases hd : numericColumn c.depositTotal with
    | error e =>
      refine ⟨nofun, ?_⟩
      rintro ⟨rfl, d, hd'⟩
      rw [hd] at hd'
      cases hd'
    | ok d =>
      simp only [pure, Except.pure, Except.ok.injEq]
      refine ⟨?_, fun h => h.1⟩
      rintro rfl
      exact ⟨rfl, d, hd⟩

theorem World.Shows.unique {w : World} {a b : DateTime} (ha : w.Shows a) (hb : w.Shows b) :
    a = b := by
  obtain ⟨hau, hao⟩ := ha
  obtain ⟨hbu, hbo⟩ := hb
  have hutc : a.utc = b.utc := hau.trans hbu.symm
  cases a
  cases b
  simp only [DateTime.utc] at hutc hao hbo
  subst hao hbo
  simp only [Option.getD_some, Int.sub_zero] at hutc
  subst hutc
  rfl

theorem World.shows_reading (w : World) (c : Choice) :
    ({ w with clock := (World.reading c).utc } : World).Shows (World.reading c) :=
  ⟨rfl, rfl⟩

section Facts

variable {w : World} {telegramUserId : Int} {channelId : RowId}

/-- A Telegram user has one row in a tenant. -/
theorem World.IsUser.unique (hw : w.Sound) {a b : RowId} (ha : w.IsUser telegramUserId a)
    (hb : w.IsUser telegramUserId b) : a = b := by
  obtain ⟨r, hr, hrt, hru, rfl⟩ := ha
  obtain ⟨s, hs, hst, hsu, rfl⟩ := hb
  have heq : r = s := hw.view.eq_of_clash (t := .telegramUsers) hr hs
    (by simp [clash, hrt, hst, hru, hsu])
  rw [heq]

/-- The row a submission finds, or makes, of its user. -/
def World.Identifies (w : World) (telegramUserId : Int) (userId : RowId) : Prop :=
  w.IsUser telegramUserId userId ∨ ((∀ id, ¬ w.IsUser telegramUserId id) ∧ w.Unused userId)

theorem World.Identifies.eq (hw : w.Sound) {userId id : RowId}
    (h : w.Identifies telegramUserId userId) (hid : w.IsUser telegramUserId id) : id = userId := by
  rcases h with h | ⟨hno, -⟩
  · exact hid.unique hw h
  · exact absurd hid (hno id)

end Facts

/-! ## The link -/

/-- A link is had from a membership: live, or minted. -/
def Obtains (ttl : TimeDelta) (mint : Except PyError String) (base : VIPMembership)
    (moment : DateTime) : Prop :=
  (∃ link, InviteService.liveLink ttl base moment = .ok (some link)) ∨
  (InviteService.liveLink ttl base moment = .ok none ∧
    (∃ expireDate, plusDelta moment ttl = .ok expireDate) ∧ ∃ link, mint = .ok link)

/-- Reinstating a member leaves a live link live and a dead one dead. -/
theorem liveLink_reinstate (ttl : TimeDelta) (subscriptionId : RowId) (m : VIPMembership)
    (moment : DateTime) : InviteService.liveLink ttl (reinstate subscriptionId m) moment =
      InviteService.liveLink ttl m moment := by
  unfold reinstate
  split
  · next hstatus =>
    have hdead : m.status.linkIsLive = false := by
      rcases hstatus with h | h <;> rw [h] <;> rfl
    unfold InviteService.liveLink
    cases m.inviteLink with
    | none => rfl
    | some link =>
      cases m.inviteIssuedAt with
      | none => rfl
      | some issued =>
        have hpending : MembershipStatus.pending.linkIsLive = false := rfl
        simp [hdead, hpending]
  · rfl

section Link

variable {G : World → Op → Choice → Prop} {ttl : TimeDelta} {mint : Except PyError String}
  {w : World} {telegramUserId : Int} {userId subscriptionId : RowId} {channel : TelegramChannel}
  {base : VIPMembership} {prior : Option VIPMembership} {moment : DateTime}

/-- What a submission makes of the membership does not change whether a link is to be had. -/
theorem obtainable_iff (hw : w.Sound) (huser : w.Identifies telegramUserId userId)
    (hfrom : MembershipFrom G w userId channel.id subscriptionId base prior)
    (hprior : ∀ m, prior = some m → m ∈ w.view .vipMemberships) :
    Obtainable ttl mint w telegramUserId channel.id moment ↔ Obtains ttl mint base moment := by
  cases prior with
  | none =>
    obtain ⟨hnone, id, createdAt, -, rfl⟩ := hfrom
    have hno : ∀ m, ¬ w.HasMembership telegramUserId channel.id m := by
      rintro m ⟨hm, ht, hc, hu⟩
      exact hnone m hm ⟨ht, huser.eq hw hu, hc⟩
    constructor
    · rintro (⟨m, hm, -⟩ | ⟨-, hmint⟩)
      · exact absurd hm (hno m)
      · exact .inr ⟨rfl, hmint⟩
    · rintro (⟨link, hlink⟩ | ⟨-, hmint⟩)
      · cases hlink
      · exact .inr ⟨fun m hm => absurd hm (hno m), hmint⟩
  | some prior =>
    obtain ⟨ht, hu, hc, rfl⟩ := hfrom
    have hmem := hprior prior rfl
    have hhas : w.HasMembership telegramUserId channel.id prior := by
      refine ⟨hmem, ht, hc, ?_⟩
      rcases huser with h | ⟨-, hunused⟩
      · rw [hu]
        exact h
      · exact absurd hu (hunused.membership prior hmem).2
    have honly : ∀ m, w.HasMembership telegramUserId channel.id m → m = prior := by
      rintro m ⟨hm, hmt, hmc, hmu⟩
      have hmuser := huser.eq hw hmu
      exact hw.view.eq_of_clash (t := .vipMemberships) hm hmem
        (by simp [clash, hmt, ht, hmc, hc, hmuser, hu])
    unfold Obtains
    rw [liveLink_reinstate]
    constructor
    · rintro (⟨m, hm, hlink⟩ | ⟨hdead, hmint⟩)
      · rw [honly m hm] at hlink
        exact .inl hlink
      · exact .inr ⟨hdead prior hhas, hmint⟩
    · rintro (hlink | ⟨hdead, hmint⟩)
      · exact .inl ⟨prior, hhas, hlink⟩
      · refine .inr ⟨fun m hm => ?_, hmint⟩
        rw [honly m hm]
        exact hdead

/-- The issue returns exactly when a link is to be had. -/
theorem works_issue {provider : String → Except PyError ReferralCheck}
    (hG : Obliging provider mint G) :
    Works G (InviteService.issue ttl w.tenantId base channel none)
      (fun _ w' => ∃ moment, w'.Shows moment ∧ Obtains ttl mint base moment)
      (fun _ w' => ∀ moment, w'.Shows moment → ¬ Obtains ttl mint base moment) w := by
  unfold InviteService.issue
  rw [works_bind]
  refine works_utcnow fun c hc => ?_
  have hshows := w.shows_reading c
  rw [works_bind]
  refine works_raising (fun live hlive => ?_) fun e he moment hm => ?_
  swap
  · rw [hm.unique hshows]
    rintro (⟨link, h⟩ | ⟨h, -⟩) <;> rw [he] at h <;> cases h
  cases live with
  | some existing => exact ⟨_, hshows, .inl ⟨existing, hlive⟩⟩
  | none =>
    rw [works_bind]
    refine works_raising (fun expireDate hexpire => ?_) fun e he moment hm => ?_
    swap
    · rw [hm.unique hshows]
      rintro (⟨link, h⟩ | ⟨-, ⟨d, h⟩, -⟩)
      · rw [hlive] at h
        cases h
      · rw [he] at h
        cases h
    rw [works_bind]
    refine wp_serial_perform fun d hd => ?_
    have hmint := hG.link _ _ _ _ _ _ d hd
    simp only [World.step]
    unfold Choice.answered at hmint
    cases hf : d.fault with
    | some e =>
      rw [hf] at hmint
      have hno : ∀ w' : World, w'.clock = (World.reading c).utc →
          ∀ moment, w'.Shows moment → ¬ Obtains ttl mint base moment := by
        intro w' hclock moment hm
        rw [hm.unique ⟨hclock.symm, rfl⟩]
        rintro (⟨link, h⟩ | ⟨-, -, link, h⟩)
        · rw [hlive] at h
          cases h
        · rw [← hmint] at h
          cases h
      refine .inr ?_
      split
      · exact hno _ rfl
      · exact hno _ rfl
    | none =>
      rw [hf] at hmint
      have hobtains : Obtains ttl mint base (World.reading c) :=
        .inr ⟨hlive, ⟨expireDate, hexpire⟩, d.link, hmint.symm⟩
      dsimp only
      rw [works_bind]
      refine works_update (keepsKeys_recordLink _ _ _) ?_
      exact ⟨_, ⟨rfl, rfl⟩, hobtains⟩

end Link

/-! ## The rows -/

section Rows

variable {G : World → Op → Choice → Prop} {provider : String → Except PyError ReferralCheck}
  {mint : Except PyError String} {w : World} {telegramUserId : Int} {userId : RowId}
  {F : PyError → World → Prop}

theorem works_ensureUser {username firstName : Option String} {Q : TelegramUser → World → Prop}
    (hG : Obliging provider mint G) (hw : w.Sound) (hconflict : w.conflict = none)
    (hok : ∀ user w', w.SameBut [.telegramUsers] w' → w'.IsUser telegramUserId user.id →
      w.Identifies telegramUserId user.id → Q user w') :
    Works G (ensureUser w.tenantId telegramUserId username firstName) Q F w := by
  have hother : ∀ t : Table, t ∉ [Table.telegramUsers] → t ≠ .telegramUsers :=
    fun t ht => by simpa using ht
  unfold ensureUser TelegramUserRepository.getByTelegramId
  rw [works_bind]
  refine works_selectOneOrNone hw hconflict (fun r s _ hr hs => ?_) fun user hfound => ?_
  · simp only [Bool.and_eq_true, beq_iff_eq] at hr hs
    simp [clash, hr, hs]
  cases user with
  | none =>
    have hno : ∀ r ∈ w.view .telegramUsers,
        ¬ (r.tenantId = w.tenantId ∧ r.telegramUserId = telegramUserId) := by
      rintro r hr ⟨ht, hu⟩
      have := hfound r hr
      simp [World.inScope, rowTenant, ht, hu] at this
    rw [works_bind]
    refine works_uuid4 fun c hc => ?_
    have hunused := hG.fresh w c hc
    refine works_saveNew hconflict rfl (by simp) (fun r hr => ?_) (fun r hr => ?_) ?_
    · simp only [beq_iff_eq] at hr
      simp [clash, hr]
    · have hid := hunused.user r hr
      have hkey := hno r hr
      simp only [clash, decide_eq_false_iff_not, not_or]
      exact ⟨Ne.symm hid, fun h => hkey ⟨h.1.symm, h.2.symm⟩⟩
    · have hrows := Store.append_self w.view Table.telegramUsers
      refine hok _ _ ⟨fun t ht => Store.append_other _ (hother t ht) _, rfl, rfl⟩ ?_
        (.inr ⟨fun id h => ?_, hunused⟩)
      · refine ⟨⟨c.id, w.tenantId, telegramUserId, none, username, firstName⟩, ?_, rfl, rfl, rfl⟩
        change _ ∈ w.view.append .telegramUsers _ .telegramUsers
        rw [hrows]
        exact List.mem_append_right _ (List.mem_singleton.mpr rfl)
      · obtain ⟨r, hr, ht, hu, -⟩ := h
        exact hno r hr ⟨ht, hu⟩
  | some user =>
    obtain ⟨hmem, hscope, -⟩ := hfound
    have hcond := World.inScope_cond hscope
    simp only [Bool.and_eq_true, beq_iff_eq] at hcond
    rw [works_bind]
    refine works_update (fun _ _ _ => rfl) ?_
    have hrows := Store.modify_self w.view Table.telegramUsers
    refine hok _ _ ⟨fun t ht => Store.modify_other _ (hother t ht) _ _, rfl, rfl⟩ ?_
      (.inl ⟨user, hmem, hcond.1, hcond.2, rfl⟩)
    refine ⟨renameUser username firstName user, ?_, hcond.1, hcond.2, rfl⟩
    change _ ∈ w.view.modify .telegramUsers _ _ .telegramUsers
    rw [hrows]
    refine change_mem_modifyRows hmem ?_
    simp [World.inScope, rowTenant, hcond.1]

theorem works_checkUser {uid : String} {answer : Except PyError ReferralCheck}
    {Q : Option ReferralCheck → World → Prop}
    (hcheck : ∀ w c, G w (.validateUser uid) c → c.answered c.check = answer)
    (hok : ∀ check, answer = .ok check →
      Q (some check) { w with asked := w.asked ++ [(w.tenantId, uid)] })
    (hout : ∀ e, answer = .error e → e.cls = .providerUnavailableError →
      Q none { w with asked := w.asked ++ [(w.tenantId, uid)] })
    (herr : ∀ e w', answer = .error e → e.cls ≠ .providerUnavailableError → F e w') :
    Works G (checkUser uid) Q F w := by
  unfold checkUser Works serial
  rw [map_eq_pure_bind, wp_tryCatch_either, wp_bind_either, wp_perform_handler]
  intro c hc
  have hanswer := hcheck w c hc
  unfold Choice.answered at hanswer
  simp only [World.step]
  cases hf : c.fault with
  | none =>
    rw [hf] at hanswer
    exact hok c.check hanswer.symm
  | some e =>
    rw [hf] at hanswer
    by_cases he : e.cls = .providerUnavailableError
    · simp only [either_error, he, if_true]
      exact hout e hanswer.symm he
    · simp only [either_error, he, if_false]
      exact .inr (herr e _ hanswer.symm he)

theorem works_saveAccount {tenantId : TenantId} {providerType : ProviderType} {market : Market}
    {uid : String} {claimed : Option ReferralAccount} {change : ReferralAccount → ReferralAccount}
    {Q : ReferralAccount → World → Prop} (hG : Obliging provider mint G)
    (hconflict : w.conflict = none) (ht : w.tenantId = tenantId)
    (hkey : ∀ a, accountKey (change a) = accountKey a)
    (hnone : claimed = none → ∀ r ∈ w.view .referralAccounts,
      ¬ (r.tenantId = tenantId ∧ r.providerType = providerType ∧ r.uid = uid))
    (hsome : ∀ a, claimed = some a → a ∈ w.view .referralAccounts ∧ a.tenantId = tenantId)
    (hok : ∀ account a w', w.SameBut [.referralAccounts] w' →
      (claimed = some a ∨ ∃ id, a = { id, tenantId, userId, providerType, market, uid }) →
      change a ∈ w'.view .referralAccounts → Q account w') :
    Works G (saveAccount tenantId userId providerType market uid claimed change) Q F w := by
  subst ht
  have hcols : ∀ a, (change a).id = a.id ∧ (change a).tenantId = a.tenantId ∧
      (change a).providerType = a.providerType ∧ (change a).uid = a.uid := by
    intro a
    have := hkey a
    simpa [accountKey] using this
  have hother : ∀ t : Table, t ∉ [Table.referralAccounts] → t ≠ .referralAccounts :=
    fun t ht => by simpa using ht
  unfold saveAccount
  cases claimed with
  | none =>
    rw [works_bind]
    refine works_uuid4 fun c hc => ?_
    have hunused := hG.fresh w c hc
    obtain ⟨hid, htenant, hprovider, huid⟩ :=
      hcols { id := c.id, tenantId := w.tenantId, userId, providerType, market, uid }
    refine works_saveNew hconflict htenant ?_ (fun r hr => ?_) (fun r hr => ?_) ?_
    · simp [hid]
    · simp only [beq_iff_eq] at hr
      simp [clash, hr, hid]
    · have hne := (hunused.account r hr).1
      have hclaim := hnone rfl r hr
      simp only [clash, hid, htenant, hprovider, huid, decide_eq_false_iff_not, not_or]
      exact ⟨Ne.symm hne, fun h => hclaim ⟨h.1.symm, h.2.1.symm, h.2.2.symm⟩⟩
    · have hrows := Store.append_self w.view Table.referralAccounts
      refine hok _ _ _ ⟨fun t ht => Store.append_other _ (hother t ht) _, rfl, rfl⟩
        (.inr ⟨c.id, rfl⟩) ?_
      change _ ∈ w.view.append .referralAccounts _ .referralAccounts
      rw [hrows]
      exact List.mem_append_right _ (List.mem_singleton.mpr rfl)
  | some account =>
    obtain ⟨hmem, htenant⟩ := hsome account rfl
    have hscope : w.inScope (t := .referralAccounts) (fun r => r.id == account.id) account =
        true := by
      simp [World.inScope, rowTenant, htenant]
    rw [works_bind]
    refine works_update (fun r _ s => ?_) ?_
    · obtain ⟨h₁, h₂, h₃, h₄⟩ := hcols r
      simp only [clash, h₁, h₂, h₃, h₄]
    have hrows := Store.modify_self w.view Table.referralAccounts
    have hchanged : change account ∈ w.view.modify .referralAccounts
        (w.inScope fun r => r.id == account.id) change .referralAccounts := by
      rw [hrows]
      exact change_mem_modifyRows hmem hscope
    refine works_saveLoaded hconflict ⟨change account, hchanged, ?_⟩ fun r _ _ => ?_
    · obtain ⟨hid, hct, -⟩ := hcols account
      simp [World.inScope, rowTenant, hid, hct, htenant]
    · exact hok _ account _ ⟨fun t ht => Store.modify_other _ (hother t ht) _ _, rfl, rfl⟩
        (.inl rfl) hchanged

theorem works_ensureSubscription {market : Market} {Q : Subscription → World → Prop}
    (hG : Obliging provider mint G) (hw : w.Sound) (hconflict : w.conflict = none)
    (hok : ∀ s prior w', w.SameBut [.subscriptions] w' →
      SubscriptionFrom w userId market s prior →
      Upsert Subscription.id (w.view .subscriptions) s prior (w'.view .subscriptions) → Q s w') :
    Works G (ensureSubscription w.tenantId userId market) Q F w := by
  refine works_of_meets (meets_ensureSubscription hw hok (E := fun _ _ => True)
    fun _ => trivial) ?_
  unfold ensureSubscription SubscriptionRepository.getActiveForUser
  rw [works_bind, works_bind]
  refine works_select hconflict fun rows _ => ?_
  rw [works_pure]
  cases rows with
  | nil =>
    rw [List.head?_nil]
    dsimp only
    rw [works_bind]
    refine works_utcnow fun c _ => ?_
    rw [works_bind]
    refine works_uuid4 fun c' hc' => ?_
    refine works_saveNew hconflict rfl (by simp) (fun r hr => ?_) (fun r hr => ?_) trivial
    · simp only [beq_iff_eq] at hr
      simp [clash, hr]
    · have hne := (hG.fresh _ c' hc').subscription r hr
      simp only [clash, decide_eq_false_iff_not]
      exact Ne.symm hne
  | cons existing rest =>
    rw [List.head?_cons]
    dsimp only
    rw [works_bind]
    refine works_nowOr fun startsAt n => ?_
    rw [works_bind]
    exact works_update (fun _ _ _ => rfl) trivial

theorem works_ensureMembership {channelId subscriptionId : RowId}
    {Q : VIPMembership → World → Prop} (hG : Obliging provider mint G) (hw : w.Sound)
    (hconflict : w.conflict = none)
    (hok : ∀ base prior w', w.SameBut [.vipMemberships] w' →
      MembershipFrom G w userId channelId subscriptionId base prior →
      Upsert VIPMembership.id (w.view .vipMemberships) base prior (w'.view .vipMemberships) →
      base.tenantId = w.tenantId → Q base w') :
    Works G (ensureMembership w.tenantId userId channelId subscriptionId) Q F w := by
  refine works_of_meets (meets_ensureMembership hw hok (E := fun _ _ => True)
    fun _ => trivial) ?_
  unfold ensureMembership MembershipRepository.getForUserAndChannel
  rw [works_bind]
  refine works_selectOneOrNone hw hconflict (fun r s _ hr hs => ?_) fun existing hfound => ?_
  · simp only [Bool.and_eq_true, beq_iff_eq] at hr hs
    simp [clash, hr, hs]
  cases existing with
  | none =>
    rw [works_bind]
    refine works_uuid4 fun c hc => ?_
    rw [works_bind]
    refine works_utcnow fun c' _ => ?_
    refine works_saveNew hconflict rfl (by simp) (fun r hr => ?_) (fun r hr => ?_) trivial
    · simp only [beq_iff_eq] at hr
      simp [clash, hr]
    · have hne := ((hG.fresh w c hc).membership r hr).1
      have hno := hfound r hr
      simp only [clash, decide_eq_false_iff_not, not_or]
      refine ⟨Ne.symm hne, fun h => ?_⟩
      simp [World.inScope, rowTenant, ← h.1, ← h.2.1, ← h.2.2] at hno
  | some prior =>
    rw [works_bind]
    exact works_update (keepsKeys_reinstate _ _) trivial

end Rows

/-! ## The parts -/

section Parts

variable {G : World → Op → Choice → Prop} {provider : String → Except PyError ReferralCheck}
  {mint : Except PyError String} {ttl : TimeDelta} {providerType : ProviderType}
  {told : String → Except PyError ReferralCheck} {w₀ w : World} {telegramUserId : Int}
  {market : Market} {uid : String} {userId : RowId} {channel : TelegramChannel}
  {config : ReferralProgramConfig}

/-- The channel of the market, in use. -/
def World.HasChannel (w : World) (market : Market) (channel : TelegramChannel) : Prop :=
  channel ∈ w.view .telegramChannels ∧ channel.tenantId = w.tenantId ∧
    channel.market = market ∧ channel.isActive = true

/-- The market's program, in use. -/
def World.HasConfig (w : World) (providerType : ProviderType) (market : Market)
    (config : ReferralProgramConfig) : Prop :=
  config ∈ w.view .referralProgramConfigs ∧ config.tenantId = w.tenantId ∧
    config.providerType = providerType ∧ config.market = market ∧ config.isActive = true

/-- The account of the UID is the user's, and verified. -/
def World.HasVerified (w : World) (providerType : ProviderType) (uid : String)
    (userId : RowId) : Prop :=
  ∃ account ∈ w.view .referralAccounts, account.tenantId = w.tenantId ∧
    account.providerType = providerType ∧ account.uid = uid ∧ account.userId = userId ∧
    account.status = .verified

theorem works_grant {verdict : EligibilityVerdict} (hG : Obliging provider mint G)
    (hw₀ : w₀.Sound) (hw : w.Sound) (hconflict : w.conflict = none)
    (hsame : w₀.SameBut PRELIMINARY w) (huser : w.IsUser telegramUserId userId)
    (hwho : w₀.Identifies telegramUserId userId) (hchannel : w₀.HasChannel market channel)
    (haccount : w.HasVerified providerType uid userId) :
    Works G (grant ttl w.tenantId userId market uid channel verdict)
      (fun result w' => ∃ link, result.inviteLink = some link ∧
        (result.outcome = .invited ∨ result.outcome = .alreadyMember) ∧
        OnRecord providerType telegramUserId market uid link w' ∧
        ∃ moment, w'.Shows moment ∧ Obtainable ttl mint w₀ telegramUserId channel.id moment)
      (fun _ w' => ∀ moment, w'.Shows moment →
        ¬ Obtainable ttl mint w₀ telegramUserId channel.id moment) w := by
  have ht := hsame.tenantId
  have hms : w.view .vipMemberships = w₀.view .vipMemberships := hsame.view _ (by decide)
  unfold grant
  rw [works_bind]
  refine works_sound hw (works_ensureSubscription hG hw hconflict
    fun subscription priorSubscription w₁ hsame₁ hsub hsubs hw₁ => ?_)
  have ht₁ := hsame₁.tenantId
  have hms₁ : w₁.view .vipMemberships = w.view .vipMemberships := hsame₁.view _ (by decide)
  rw [works_bind, ← ht₁]
  refine works_sound hw₁ (works_ensureMembership hG hw₁ (hsame₁.conflict.trans hconflict)
    fun base prior w₂ hsame₂ hmember hup hbase hw₂ => ?_)
  have ht₂ := hsame₂.tenantId
  have hmember₀ : MembershipFrom G w₀ userId channel.id subscription.id base prior := by
    cases prior with
    | some prior => simpa only [MembershipFrom, ht₁, ht] using hmember
    | none => simpa only [MembershipFrom, ht₁, hms₁, ht, hms] using hmember
  have hprior : ∀ m, prior = some m → m ∈ w₀.view .vipMemberships := by
    rintro m rfl
    have hmem := hup.prior_mem.1
    rwa [hms₁, hms] at hmem
  have hiff : ∀ moment, Obtainable ttl mint w₀ telegramUserId channel.id moment ↔
      Obtains ttl mint base moment :=
    fun moment => obtainable_iff hw₀ hwho hmember₀ hprior
  have hkeys : base.tenantId = w.tenantId ∧ base.userId = userId ∧ base.channelId = channel.id ∧
      base.subscriptionId = some subscription.id := by
    cases prior with
    | none =>
      obtain ⟨-, id, createdAt, -, rfl⟩ := hmember
      exact ⟨ht₁, rfl, rfl, rfl⟩
    | some prior =>
      obtain ⟨hpt, hpu, hpc, rfl⟩ := hmember
      unfold reinstate
      split <;> exact ⟨hpt.trans ht₁, hpu, hpc, rfl⟩
  rw [works_bind, ← ht₂]
  have hmeets : Meets G (InviteService.issue ttl w₂.tenantId base channel none)
      (fun p w₃ => ∃ moment calls, Issued G ttl w₂.tenantId channel base moment p.1.link p.2 calls ∧
        Upsert VIPMembership.id (w₁.view .vipMemberships) p.2 prior (w₃.view .vipMemberships) ∧
        (∀ t, t ≠ .vipMemberships → w₃.view t = w₂.view t) ∧ w₃.tenantId = w₂.tenantId ∧
        w₃.conflict = w₂.conflict) (fun _ _ => True) w₂ := by
    refine meets_issue hw₂ (hbase.trans ht₂.symm) hup ?_ (fun _ _ _ _ => trivial) fun _ => trivial
    intro moment invite m calls w₃ _ hissued hup₃ hother hledger hconf _
    exact ⟨moment, calls, hissued, hup₃, hother, congrArg Ledger.tenantId hledger, hconf⟩
  have hissue : Works G (InviteService.issue ttl w₂.tenantId base channel none) _ _ w₂ :=
    works_issue hG
  refine wp_mono ?_ (wp_and hmeets hissue)
  rintro (e | ⟨invite, m⟩) w₃ ⟨hm, hworks⟩
  · refine hworks.imp_right fun hno moment hshows hobt => ?_
    exact hno moment hshows ((hiff moment).mp hobt)
  obtain ⟨_, calls, hissued, hup₃, hother, ht₃, hconf⟩ := hm
  obtain ⟨moment, hshows, hobtains⟩ := hworks
  have htenant : w₃.tenantId = w.tenantId := ht₃.trans (ht₂.trans ht₁)
  have hm : m.tenantId = w.tenantId ∧ m.userId = userId ∧ m.channelId = channel.id ∧
      m.subscriptionId = some subscription.id ∧ m.inviteLink = some invite.link := by
    rcases hissued.cases with ⟨hlive, heq, -⟩ | ⟨_, -, -, -, heq, -⟩
    · rw [show m = base from heq]
      exact ⟨hkeys.1, hkeys.2.1, hkeys.2.2.1, hkeys.2.2.2, (InviteService.liveLink_some hlive).1⟩
    · rw [show m = InviteService.recordLink w₂.tenantId invite.link _ base from heq]
      exact ⟨ht₂.trans ht₁, hkeys.2.1, hkeys.2.2.1, hkeys.2.2.2, rfl⟩
  have hmem : m ∈ w₃.view .vipMemberships := hup₃.mem_iff.mpr (.inl rfl)
  -- The tables that only earlier parts wrote on.
  have husers : w₃.view .telegramUsers = w.view .telegramUsers :=
    (hother _ (by decide)).trans ((hsame₂.view _ (by decide)).trans (hsame₁.view _ (by decide)))
  have haccounts : w₃.view .referralAccounts = w.view .referralAccounts :=
    (hother _ (by decide)).trans ((hsame₂.view _ (by decide)).trans (hsame₁.view _ (by decide)))
  have hchannels : w₃.view .telegramChannels = w₀.view .telegramChannels :=
    (hother _ (by decide)).trans ((hsame₂.view _ (by decide)).trans
      ((hsame₁.view _ (by decide)).trans (hsame.view _ (by decide))))
  have hsubs₃ : w₃.view .subscriptions = w₁.view .subscriptions :=
    (hother _ (by decide)).trans (hsame₂.view _ (by decide))
  have hs : subscription ∈ w₃.view .subscriptions ∧ subscription.tenantId = w.tenantId ∧
      subscription.userId = userId ∧ subscription.market = market ∧
      subscription.status = .active := by
    refine ⟨hsubs₃ ▸ hsubs.mem_iff.mpr (.inl rfl), ?_⟩
    cases priorSubscription with
    | none =>
      obtain ⟨-, id, startsAt, rfl⟩ := hsub
      exact ⟨rfl, rfl, rfl, rfl⟩
    | some p =>
      obtain ⟨-, hpt, hpu, hpm, startsAt, rfl⟩ := hsub
      exact ⟨hpt, hpu, hpm, rfl⟩
  simp only [either_ok]
  rw [works_bind]
  refine works_saveLoaded ?_ ⟨m, hmem, ?_⟩ fun _ _ _ => ?_
  · rw [hconf, hsame₂.conflict, hsame₁.conflict, hconflict]
  · simp [World.inScope, rowTenant, hm.1, htenant]
  refine ⟨invite.link, rfl, ?_, ⟨userId, ?_, ?_, ?_⟩, moment, hshows, (hiff moment).mpr hobtains⟩
  · dsimp only
    split
    · exact .inr rfl
    · exact .inl rfl
  · unfold World.IsUser
    rw [husers, htenant]
    exact huser
  · refine ⟨channel, hchannels ▸ hchannel.1, hchannel.2.1.trans (ht.symm.trans htenant.symm),
      hchannel.2.2.1, hchannel.2.2.2, m, hmem, hm.1.trans htenant.symm, hm.2.1, hm.2.2.1,
      hm.2.2.2.2, subscription, hs.1, hm.2.2.2.1, ?_⟩
    exact ⟨hs.2.1.trans htenant.symm, hs.2.2⟩
  · rw [haccounts, htenant]
    exact haccount

/-- What a submission that returns has come to. -/
structure Resolved (ttl : TimeDelta) (providerType : ProviderType)
    (provider : String → Except PyError ReferralCheck) (mint : Except PyError String)
    (w₀ : World) (telegramUserId : Int) (market : Market) (uid : String)
    (result : OnboardingResult) (w' : World) : Prop where
  link_iff : (∃ link, result.inviteLink = some link) ↔
    ∃ moment, w'.Shows moment ∧
      Admitted ttl providerType provider mint w₀ telegramUserId market uid moment
  outcome_iff : (∃ link, result.inviteLink = some link) ↔
    result.outcome = .invited ∨ result.outcome = .alreadyMember
  recorded : ∀ link, result.inviteLink = some link →
    OnRecord providerType telegramUserId market uid link w'
  untouched : result.outcome = .invalidUid ∨ result.outcome = .notConfigured →
    w'.view = w₀.view ∧ w'.asked = w₀.asked

/-- A submission that raises was not to be granted. -/
def Refused (ttl : TimeDelta) (providerType : ProviderType)
    (provider : String → Except PyError ReferralCheck) (mint : Except PyError String)
    (w₀ : World) (telegramUserId : Int) (market : Market) (uid : String) (w' : World) : Prop :=
  ∀ moment, w'.Shows moment →
    ¬ Admitted ttl providerType provider mint w₀ telegramUserId market uid moment

theorem resolved_of_refused {result : OnboardingResult} (hlink : result.inviteLink = none)
    (hout : ¬ (result.outcome = .invited ∨ result.outcome = .alreadyMember))
    (hno : ∀ moment,
      ¬ Admitted ttl providerType provider mint w₀ telegramUserId market uid moment)
    (huntouched : result.outcome = .invalidUid ∨ result.outcome = .notConfigured →
      w.view = w₀.view ∧ w.asked = w₀.asked) :
    Resolved ttl providerType provider mint w₀ telegramUserId market uid result w where
  link_iff := by
    rw [hlink]
    exact ⟨fun ⟨_, h⟩ => (by cases h), fun ⟨moment, _, h⟩ => absurd h (hno moment)⟩
  outcome_iff := by
    rw [hlink]
    exact ⟨fun ⟨_, h⟩ => (by cases h), fun h => absurd h hout⟩
  recorded := by
    rw [hlink]
    exact nofun
  untouched := huntouched

/-- With the market set up and the UID free, the account and the link decide. -/
theorem admitted_iff (hw₀ : w₀.Sound) (hvalid : isValidBitunixUid uid = true)
    (hconfig : w₀.HasConfig providerType market config) (hchannel : w₀.HasChannel market channel)
    (hunclaimed : ∀ account ∈ w₀.view .referralAccounts, account.tenantId = w₀.tenantId →
      account.providerType = providerType → account.uid = uid →
      w₀.IsUser telegramUserId account.userId) (moment : DateTime) :
    Admitted ttl providerType provider mint w₀ telegramUserId market uid moment ↔
      Funded config (provider uid) ∧ Obtainable ttl mint w₀ telegramUserId channel.id moment := by
  constructor
  · rintro ⟨-, ⟨config', hmem, ht, hp, hm, -, hfunded⟩, ⟨channel', hcmem, hct, hcm, -, hobt⟩, -⟩
    have heq : config' = config :=
      hw₀.view.eq_of_clash (t := .referralProgramConfigs) hmem hconfig.1
        (by simp [clash, ht, hconfig.2.1, hp, hconfig.2.2.1, hm, hconfig.2.2.2.1])
    have hceq : channel' = channel :=
      hw₀.view.eq_of_clash (t := .telegramChannels) hcmem hchannel.1
        (by simp [clash, hct, hchannel.2.1, hcm, hchannel.2.2.1])
    rw [heq] at hfunded
    rw [hceq] at hobt
    exact ⟨hfunded, hobt⟩
  · rintro ⟨hfunded, hobt⟩
    exact ⟨hvalid, ⟨config, hconfig.1, hconfig.2.1, hconfig.2.2.1, hconfig.2.2.2.1,
      hconfig.2.2.2.2, hfunded⟩, ⟨channel, hchannel.1, hchannel.2.1, hchannel.2.2.1,
      hchannel.2.2.2, hobt⟩, hunclaimed⟩

theorem works_settle {claimed : Option ReferralAccount} {check : Option ReferralCheck}
    {verdict : EligibilityVerdict} (hG : Obliging provider mint G) (hw₀ : w₀.Sound)
    (hw : w.Sound) (hconflict : w.conflict = none) (hsame : w₀.SameBut PRELIMINARY w)
    (huser : w.IsUser telegramUserId userId) (hwho : w₀.Identifies telegramUserId userId)
    (hchannel : w₀.HasChannel market channel)
    (hadmitted : ∀ moment,
      Admitted ttl providerType told mint w₀ telegramUserId market uid moment ↔
        Funded config (told uid) ∧ Obtainable ttl mint w₀ telegramUserId channel.id moment)
    (hnone : claimed = none → ∀ r ∈ w.view .referralAccounts,
      ¬ (r.tenantId = w.tenantId ∧ r.providerType = providerType ∧ r.uid = uid))
    (hsome : ∀ a, claimed = some a → a ∈ w.view .referralAccounts ∧ a.tenantId = w.tenantId ∧
      a.providerType = providerType ∧ a.uid = uid ∧ a.userId = userId)
    (hverdict : verdict.eligible = true ∧ balanceColumn check verdict = .ok () ↔
      Funded config (told uid)) :
    Works G (settle ttl w.tenantId providerType market uid channel userId claimed check verdict)
      (Resolved ttl providerType told mint w₀ telegramUserId market uid)
      (fun _ => Refused ttl providerType told mint w₀ telegramUserId market uid) w := by
  have hrefused : ¬ verdict.eligible = true → ∀ moment,
      ¬ Admitted ttl providerType told mint w₀ telegramUserId market uid moment := by
    intro hno moment h
    exact hno (hverdict.mpr ((hadmitted moment).mp h).1).1
  -- A balance that the column refuses ends the submission, whatever the verdict.
  have hroomless : ∀ e v, balanceColumn check verdict = .error e →
      Refused ttl providerType told mint w₀ telegramUserId market uid v := by
    intro e v he moment _ h
    have hroom := (hverdict.mpr ((hadmitted moment).mp h).1).2
    rw [he] at hroom
    cases hroom
  have hclaim : ∀ a, claimed = some a → a ∈ w.view .referralAccounts ∧ a.tenantId = w.tenantId :=
    fun a ha => ⟨(hsome a ha).1, (hsome a ha).2.1⟩
  unfold settle
  rw [works_bind]
  refine works_sound hw (works_utcnow fun c _ hw₁ => ?_)
  by_cases hout : verdict.reason = .providerUnavailable
  · have hno : ¬ verdict.eligible = true := by simp [EligibilityVerdict.eligible, hout]
    simp only [hout, if_true]
    rw [works_bind, works_bind]
    refine works_raising (fun _ _ => ?_) fun e he => hroomless e _ he
    refine works_saveAccount hG hconflict rfl (fun _ => rfl) hnone hclaim fun _ _ w' _ _ _ => ?_
    exact resolved_of_refused rfl (by simp) (hrefused hno) (by simp)
  simp only [hout, if_false]
  by_cases helig : verdict.eligible = true
  swap
  · simp only [helig, Bool.not_false, if_true]
    rw [works_bind, works_bind]
    refine works_raising (fun _ _ => ?_) fun e he => hroomless e _ he
    refine works_saveAccount hG hconflict rfl (fun _ => rfl) hnone hclaim fun _ _ w' _ _ _ => ?_
    refine resolved_of_refused rfl ?_ (hrefused helig) ?_
    · dsimp only
      split <;> simp
    · dsimp only
      split <;> simp
  simp only [helig, Bool.not_true, Bool.false_eq_true, if_false]
  rw [works_bind]
  refine works_sound hw₁ (works_utcnow fun c' _ hw₂ => ?_)
  rw [works_bind, works_bind]
  refine works_raising (fun _ hroom => ?_) fun e he => hroomless e _ he
  refine works_sound hw₂ (works_saveAccount hG hconflict rfl (fun _ => rfl) hnone hclaim
    fun _ a w' hsame' hfrom hmem hw' => ?_)
  have hbefore : w₀.SameBut PRELIMINARY w' := by
    have hsub : [Table.referralAccounts] ⊆ PRELIMINARY := by decide
    have hmono := hsame'.mono hsub
    exact hsame.trans ⟨hmono.view, hmono.ledger, hmono.conflict⟩
  have ht : w'.tenantId = w.tenantId := hsame'.tenantId
  have husers : w'.view .telegramUsers = w.view .telegramUsers := hsame'.view _ (by decide)
  have huser' : w'.IsUser telegramUserId userId := by
    unfold World.IsUser
    rw [husers, ht]
    exact huser
  have hverified : w'.HasVerified providerType uid userId := by
    refine ⟨_, hmem, ?_⟩
    rw [ht]
    rcases hfrom with ha | ⟨id, rfl⟩
    · obtain ⟨-, hat, hap, hau, hauser⟩ := hsome a ha
      exact ⟨hat, hap, hau, hauser, rfl⟩
    · exact ⟨rfl, rfl, rfl, rfl, rfl⟩
  have hgrant : Works G (grant ttl w'.tenantId userId market uid channel verdict) _ _ _ :=
    works_grant hG hw₀ hw' (hsame'.conflict.trans hconflict) hbefore huser' hwho hchannel
      hverified
  rw [ht] at hgrant
  refine works_mono hgrant ?_ fun _ w'' hno moment hshows h => ?_
  · rintro result w'' ⟨link, hlink, hout, hrecorded, moment, hshows, hobt⟩
    have hadm := (hadmitted moment).mpr ⟨hverdict.mp ⟨helig, hroom⟩, hobt⟩
    refine ⟨⟨fun _ => ⟨moment, hshows, hadm⟩, fun _ => ⟨link, hlink⟩⟩,
      ⟨fun _ => hout, fun _ => ⟨link, hlink⟩⟩, fun l hl => ?_, fun h => ?_⟩
    · rw [hlink] at hl
      cases hl
      exact hrecorded
    · rcases hout with hout | hout <;> rw [hout] at h <;> rcases h with h | h <;> cases h
  · exact hno moment hshows ((hadmitted moment).mp h).2

/-- An answer that the row can keep is a funded one just when it gets an eligible verdict
    with a balance that the row can keep. -/
theorem funded_recordable_iff {check : Option ReferralCheck} {answer : Except PyError ReferralCheck}
    (hcheck : ∀ c, check = some c ↔ answer = .ok c) :
    Funded config (recordable answer) ↔ ∃ v, evaluateReferral check config.rules false = .ok v ∧
      v.eligible = true ∧ balanceColumn check v = .ok () := by
  constructor
  · rintro ⟨c, hc, hreg, hbal⟩
    obtain ⟨rfl, hroom⟩ := recordable_eq_ok.mp hc
    rw [(hcheck c).mpr rfl, evaluateReferral_funded hreg hbal]
    refine ⟨_, rfl, rfl, ?_⟩
    obtain ⟨d, hd⟩ := hroom
    simp [balanceColumn, hd, Except.map]
  · rintro ⟨v, hv, helig, hroom⟩
    obtain ⟨c, rfl, hreg, hbal, -⟩ := evaluateReferral_eligible hv helig
    rw [evaluateReferral_funded hreg hbal] at hv
    cases hv
    refine ⟨c, recordable_eq_ok.mpr ⟨(hcheck c).mp rfl, ?_⟩, hreg, hbal⟩
    cases hd : numericColumn c.depositTotal with
    | error e => simp [balanceColumn, hd, Except.map] at hroom
    | ok d => exact ⟨d, rfl⟩

/-- What the verdict and its balance say of the answer that was asked for. -/
theorem verdict_funded_iff {check : Option ReferralCheck} {answer : Except PyError ReferralCheck}
    {verdict : EligibilityVerdict} (hcheck : ∀ c, check = some c ↔ answer = .ok c)
    (hv : evaluateReferral check config.rules false = .ok verdict) :
    verdict.eligible = true ∧ balanceColumn check verdict = .ok () ↔
      Funded config (recordable answer) := by
  rw [funded_recordable_iff hcheck]
  constructor
  · rintro ⟨helig, hroom⟩
    exact ⟨verdict, hv, helig, hroom⟩
  · rintro ⟨v, hv', helig, hroom⟩
    rw [hv] at hv'
    cases hv'
    exact ⟨helig, hroom⟩

/-- Where the account that was found is the user's own, no other user has the UID. -/
theorem unclaimed_of_own {claimed : Option ReferralAccount} {w w₁ : World} {userId : RowId}
    (hw₁ : w₁.Sound) (ht : w₁.tenantId = w.tenantId)
    (haccounts : w₁.view .referralAccounts = w.view .referralAccounts)
    (hwho : w.Identifies telegramUserId userId)
    (hsome : ∀ a, claimed = some a → a ∈ w₁.view .referralAccounts ∧
      a.tenantId = w₁.tenantId ∧ a.providerType = providerType ∧ a.uid = uid ∧ a.userId = userId)
    (hnone : claimed = none → ∀ r ∈ w₁.view .referralAccounts,
      ¬ (r.tenantId = w₁.tenantId ∧ r.providerType = providerType ∧ r.uid = uid)) :
    ∀ account ∈ w.view .referralAccounts, account.tenantId = w.tenantId →
      account.providerType = providerType → account.uid = uid →
      w.IsUser telegramUserId account.userId := by
  intro a hmem hat hap hau
  cases hclaimed : claimed with
  | none =>
    exact absurd ⟨hat.trans ht.symm, hap, hau⟩ (hnone hclaimed a (haccounts.symm ▸ hmem))
  | some a' =>
    obtain ⟨hmem', hat', hap', hau', hown⟩ := hsome a' hclaimed
    have heq : a = a' :=
      hw₁.view.eq_of_clash (t := .referralAccounts) (haccounts.symm ▸ hmem) hmem'
        (by simp [clash, hat, hat', ht, hap, hap', hau, hau'])
    have howner : a.userId = userId := heq ▸ hown
    rcases hwho with h | ⟨-, hunused⟩
    · rw [howner]
      exact h
    · exact absurd howner (hunused.account a hmem).2

theorem works_enroll {username firstName : Option String} (hG : Obliging provider mint G)
    (hw : w.Sound) (hconflict : w.conflict = none) (hvalid : isValidBitunixUid uid = true)
    (hconfig : w.HasConfig providerType market config) (hchannel : w.HasChannel market channel) :
    Works G (enroll ttl w.tenantId providerType telegramUserId market uid username firstName
        config channel)
      (Resolved ttl providerType (recordable ∘ provider) mint w telegramUserId market uid)
      (fun _ => Refused ttl providerType (recordable ∘ provider) mint w telegramUserId
        market uid) w := by
  unfold enroll ReferralAccountRepository.getByUid
  rw [works_bind]
  refine works_sound hw (works_ensureUser hG hw hconflict fun user w₁ hsame huser hwho hw₁ => ?_)
  have hbefore : w.SameBut PRELIMINARY w₁ := hsame.mono (by decide)
  have ht := hbefore.tenantId
  have hconflict₁ : w₁.conflict = none := hbefore.conflict.trans hconflict
  have haccounts : w₁.view .referralAccounts = w.view .referralAccounts :=
    hsame.view _ (by decide)
  rw [works_bind]
  refine works_selectOneOrNone hw₁ hconflict₁ (fun r s _ hr hs => ?_) fun claimed hfound => ?_
  · simp only [Bool.and_eq_true, beq_iff_eq] at hr hs
    simp [clash, hr, hs]
  -- An account that was found is the only one of the UID.
  have hsome : ∀ a, claimed = some a → a ∈ w₁.view .referralAccounts ∧
      a.tenantId = w₁.tenantId ∧ a.providerType = providerType ∧ a.uid = uid := by
    rintro a rfl
    have hcond := World.inScope_cond hfound.2.1
    simp only [Bool.and_eq_true, beq_iff_eq] at hcond
    exact ⟨hfound.1, hcond.1.1.trans ht.symm, hcond.1.2, hcond.2⟩
  have hnone : claimed = none → ∀ r ∈ w₁.view .referralAccounts,
      ¬ (r.tenantId = w₁.tenantId ∧ r.providerType = providerType ∧ r.uid = uid) := by
    rintro rfl r hr ⟨hrt, hrp, hru⟩
    have := hfound r hr
    simp [World.inScope, rowTenant, hrt, hrp, hru, ht] at this
  by_cases hother : (claimed.any fun account => account.userId != user.id) = true
  · simp only [hother, if_true]
    refine resolved_of_refused rfl (by simp) (fun moment hadm => ?_) (by simp)
    cases claimed with
    | none => simp at hother
    | some a =>
      obtain ⟨hmem, hat, hap, hau⟩ := hsome a rfl
      have howner := hadm.unclaimed a (haccounts ▸ hmem) (hat.trans ht) hap hau
      simp only [Option.any_some, bne_iff_ne] at hother
      exact hother (hwho.eq hw howner)
  simp only [hother, Bool.false_eq_true, if_false]
  have hown : ∀ a, claimed = some a → a.userId = user.id := by
    rintro a rfl
    simpa using hother
  have hfresh : ∀ a, claimed = some a → a ∈ w₁.view .referralAccounts ∧
      a.tenantId = w₁.tenantId ∧ a.providerType = providerType ∧ a.uid = uid ∧
      a.userId = user.id := by
    intro a ha
    obtain ⟨hmem, hat, hap, hau⟩ := hsome a ha
    exact ⟨hmem, hat, hap, hau, hown a ha⟩
  have hadmitted : ∀ moment, Admitted ttl providerType (recordable ∘ provider) mint w
      telegramUserId market uid moment ↔ _ :=
    admitted_iff hw hvalid hconfig hchannel
      (unclaimed_of_own hw₁ ht haccounts hwho hfresh hnone)
  have hasked : w₁.SameBut PRELIMINARY { w₁ with asked := w₁.asked ++ [(w₁.tenantId, uid)] } :=
    ⟨fun _ _ => rfl, rfl, rfl⟩
  -- Once the exchange has answered, or not, the verdict is what the answer deserves.
  have hsettle : ∀ check, w₁.Sound →
      (∀ c, check = some c ↔ provider uid = .ok c) →
      Works G (do
        let verdict ← raising (evaluateReferral check config.rules false)
        settle ttl w.tenantId providerType market uid channel user.id claimed check verdict)
        (Resolved ttl providerType (recordable ∘ provider) mint w telegramUserId market
          uid)
        (fun _ => Refused ttl providerType (recordable ∘ provider) mint w telegramUserId
          market uid)
        { w₁ with asked := w₁.asked ++ [(w₁.tenantId, uid)] } := by
    intro check hw₁ hcheck
    rw [works_bind]
    refine works_raising (fun verdict hv => ?_) fun e he moment _ hadm => ?_
    · have hverdict := verdict_funded_iff hcheck hv
      have hs : Works G (settle ttl w₁.tenantId providerType market uid channel user.id claimed
          check verdict) _ _ { w₁ with asked := w₁.asked ++ [(w₁.tenantId, uid)] } :=
        works_settle hG hw ⟨hw₁.db, hw₁.view, hw₁.saved⟩ hconflict₁ (hbefore.trans hasked) huser
          hwho hchannel hadmitted hnone hfresh hverdict
      rw [← ht]
      exact hs
    · obtain ⟨v, hv, -⟩ := (funded_recordable_iff hcheck).mp ((hadmitted moment).mp hadm).1
      rw [he] at hv
      cases hv
  rw [works_bind]
  refine works_checkUser (fun w c => hG.check w uid c) (fun check hc => ?_) (fun e he _ => ?_)
    fun e w' he _ moment _ hadm => ?_
  · refine hsettle (some check) hw₁ fun c => ?_
    rw [hc]
    simp
  · refine hsettle none hw₁ fun c => ?_
    rw [he]
    simp
  · obtain ⟨c, hc, -⟩ := ((hadmitted moment).mp hadm).1
    have hgiven : provider uid = .ok c := (recordable_eq_ok.mp hc).1
    rw [he] at hgiven
    cases hgiven

theorem works_submitUid {rawUid : String} {username firstName : Option String}
    (hG : Obliging provider mint G) (hw : w.Sound) (hconflict : w.conflict = none) :
    Works G (submitUid ttl providerType w.tenantId telegramUserId market rawUid username
        firstName)
      (Resolved ttl providerType (recordable ∘ provider) mint w telegramUserId market
        (normalizeUid rawUid))
      (fun _ => Refused ttl providerType (recordable ∘ provider) mint w telegramUserId
        market (normalizeUid rawUid)) w := by
  unfold submitUid ReferralProgramConfigRepository.getFor TelegramChannelRepository.getForMarket
  generalize normalizeUid rawUid = uid
  dsimp only
  by_cases hvalid : isValidBitunixUid uid = true
  swap
  · rw [if_pos (by simpa using hvalid)]
    exact resolved_of_refused rfl (by simp) (fun _ h => hvalid h.valid) fun _ => ⟨rfl, rfl⟩
  rw [if_neg (by simpa using hvalid), works_bind]
  refine works_selectOneOrNone hw hconflict (fun r s _ hr hs => ?_) fun config hconfig => ?_
  · simp only [Bool.and_eq_true, beq_iff_eq] at hr hs
    simp [clash, hr, hs]
  rw [works_bind]
  refine works_selectOneOrNone hw hconflict (fun r s _ hr hs => ?_) fun channel hchannel => ?_
  · simp only [Bool.and_eq_true, beq_iff_eq] at hr hs
    simp [clash, hr, hs]
  cases config with
  | none =>
    refine resolved_of_refused rfl (by simp) (fun _ h => ?_) fun _ => ⟨rfl, rfl⟩
    obtain ⟨config, hmem, ht, hp, hm, -⟩ := h.config
    have hno := hconfig config hmem
    simp [World.inScope, rowTenant, ht, hp, hm] at hno
  | some config =>
    cases channel with
    | none =>
      refine resolved_of_refused rfl (by simp) (fun _ h => ?_) fun _ => ⟨rfl, rfl⟩
      obtain ⟨channel, hmem, ht, hm, hactive, -⟩ := h.channel
      have hno := hchannel channel hmem
      simp [World.inScope, rowTenant, ht, hm, hactive] at hno
    | some channel =>
      have hkeys := World.inScope_cond hconfig.2.1
      have hchan := World.inScope_cond hchannel.2.1
      simp only [Bool.and_eq_true, beq_iff_eq] at hkeys hchan
      by_cases hactive : config.isActive = true
      swap
      · simp only [hactive, Bool.not_false, if_true]
        refine resolved_of_refused rfl (by simp) (fun _ h => ?_) fun _ => ⟨rfl, rfl⟩
        obtain ⟨config', hmem, ht, hp, hm, hactive', -⟩ := h.config
        have heq : config' = config :=
          hw.view.eq_of_clash (t := .referralProgramConfigs) hmem hconfig.1
            (by simp [clash, ht, hp, hm, hkeys])
        exact hactive (heq ▸ hactive')
      simp only [hactive, Bool.not_true, Bool.false_eq_true, if_false]
      exact works_enroll hG hw hconflict hvalid
        ⟨hconfig.1, hkeys.1.1, hkeys.1.2, hkeys.2, hactive⟩
        ⟨hchannel.1, hchan.1.1, hchan.1.2, hchan.2⟩

/-- A submission returns a link exactly when everything speaks for it, and only a database
    that fails a statement can keep it from doing so; a deposit that the account's row cannot
    keep does not speak for it.  The link is then on record; any other outcome leaves
    memberships and subscriptions as they were and does not turn to Telegram, and an invalid
    UID or a market that is not set up leaves everything. -/
theorem access_granted_exactly {sender : Sender} {rawUid : String}
    {r : Except PyError OnboardingResult} {w' : World} (hG : Obliging provider mint G)
    (hw : w.Sound) (hconflict : w.conflict = none)
    (h : Runs (serial G) (submitUid ttl providerType w.tenantId sender.telegramUserId market
      rawUid sender.username sender.firstName) w r w') :
    (¬ Broken G → ((∃ result, r = .ok result ∧ ∃ link, result.inviteLink = some link) ↔
      ∃ moment, w'.Shows moment ∧ Admitted ttl providerType (recordable ∘ provider) mint
        w sender.telegramUserId market (normalizeUid rawUid) moment)) ∧
    ∀ result, r = .ok result →
      Resolved ttl providerType (recordable ∘ provider) mint w sender.telegramUserId
        market (normalizeUid rawUid) result w' ∧
      (result.inviteLink = none →
        w'.view .vipMemberships = w.view .vipMemberships ∧
        w'.view .subscriptions = w.view .subscriptions ∧ w'.ledger = w.ledger) := by
  have hmeets : Meets G (submitUid ttl providerType w.tenantId sender.telegramUserId market
      rawUid sender.username sender.firstName) _ _ w := meets_submitUid hw hconflict
  have hresolved : Works G (submitUid ttl providerType w.tenantId sender.telegramUserId market
      rawUid sender.username sender.firstName) _ _ w := works_submitUid hG hw hconflict
  obtain ⟨hquiet, hworks⟩ := wp_sound (wp_and hmeets hresolved) h
  cases r with
  | error e =>
    refine ⟨fun hsolid => ⟨?_, ?_⟩, fun _ hr => by cases hr⟩
    · rintro ⟨_, hr, -⟩
      cases hr
    · rintro ⟨moment, hshows, hadm⟩
      rcases hworks with hbroken | hrefused
      · exact absurd hbroken hsolid
      · exact absurd hadm (hrefused moment hshows)
  | ok result =>
    have hresolved : Resolved ttl providerType (recordable ∘ provider) mint w
        sender.telegramUserId market (normalizeUid rawUid) result w' := hworks
    refine ⟨fun _ => ⟨?_, fun hadm => ⟨result, rfl, hresolved.link_iff.mpr hadm⟩⟩, ?_⟩
    · rintro ⟨result', hr, hlink⟩
      cases hr
      exact hresolved.link_iff.mp hlink
    · intro result' hr
      cases hr
      refine ⟨hresolved, fun hnone => ?_⟩
      cases hquiet with
      | quiet _ hsame =>
        exact ⟨hsame.view _ (by decide), hsame.view _ (by decide), hsame.ledger⟩
      | granted _ hlink _ =>
        rw [hnone] at hlink
        cases hlink

end Parts

/-! ### A first submission -/

/-- The ids in use. -/
def World.ids (w : World) : List RowId :=
  (w.view .telegramUsers).map (·.id) ++ (w.view .referralAccounts).map (·.id) ++
    (w.view .referralAccounts).map (·.userId) ++ (w.view .subscriptions).map (·.id) ++
    (w.view .vipMemberships).map (·.id) ++ (w.view .vipMemberships).map (·.userId)

/-- An id greater than all of them. -/
def World.nextId (w : World) : RowId := w.ids.sum + 1

theorem World.unused_nextId (w : World) : w.Unused w.nextId := by
  have hlt : ∀ id ∈ w.ids, id ≠ w.nextId := by
    intro id hid
    have hle : id ≤ w.ids.sum := List.single_le_sum (fun _ _ => Nat.zero_le _) id hid
    exact Nat.ne_of_lt (Nat.lt_succ_of_le hle)
  have hmem : ∀ id, (∃ r ∈ w.view .telegramUsers, r.id = id) ∨
      (∃ r ∈ w.view .referralAccounts, r.id = id) ∨
      (∃ r ∈ w.view .referralAccounts, r.userId = id) ∨
      (∃ r ∈ w.view .subscriptions, r.id = id) ∨ (∃ r ∈ w.view .vipMemberships, r.id = id) ∨
      (∃ r ∈ w.view .vipMemberships, r.userId = id) → id ∈ w.ids := by
    intro id h
    simp only [World.ids, List.mem_append, List.mem_map, or_assoc]
    exact h
  exact {
    user := fun r hr => hlt _ (hmem _ (.inl ⟨r, hr, rfl⟩))
    account := fun r hr => ⟨hlt _ (hmem _ (.inr (.inl ⟨r, hr, rfl⟩))),
      hlt _ (hmem _ (.inr (.inr (.inl ⟨r, hr, rfl⟩))))⟩
    subscription := fun r hr => hlt _ (hmem _ (.inr (.inr (.inr (.inl ⟨r, hr, rfl⟩)))))
    membership := fun r hr => ⟨hlt _ (hmem _ (.inr (.inr (.inr (.inr (.inl ⟨r, hr, rfl⟩)))))),
      hlt _ (hmem _ (.inr (.inr (.inr (.inr (.inr ⟨r, hr, rfl⟩))))))⟩ }

/-- A day on which everything answers. -/
def answeringEnv (w : World) : Op → Choice
  | .utcnow => { now := .day 100 }
  | .uuid4 => { id := w.nextId }
  | .validateUser uid => { check := fundedCheck uid }
  | .telegram .. => { link := "https://t.me/+0" }
  | _ => {}

theorem obliging_answeringEnv :
    Obliging (fun uid => .ok (fundedCheck uid)) (.ok "https://t.me/+0") (Only answeringEnv) where
  fresh := by
    rintro w c rfl
    exact w.unused_nextId
  check := by
    rintro w uid c rfl
    rfl
  link := by
    rintro w chatId memberLimit expireDate name about c rfl
    rfl
  room := by
    rintro link heq
    cases heq
    decide

theorem solid_answeringEnv : ¬ Broken (Only answeringEnv) := by
  rintro ⟨w, op, c, rfl, hop, hfault⟩
  cases op with
  | select | flush | savepoint | releaseSavepoint | rollbackToSavepoint | commit | rollback
  | activeTenantIds | tenantsOfToken => exact hfault rfl
  | openSession | closeSession | add | update | utcnow | uuid4 | tokenUrlsafe | encrypt
  | validateUser | telegram => exact hop

/-- A user without a name. -/
def plainSender : Sender where
  telegramUserId := 77
  id_fits := by decide
  username_fits := by
    rintro name h
    cases h
  firstName_fits := by
    rintro name h
    cases h

/-- A first submission for CRYPTO. -/
def submittedOn (env : World → Op → Choice) : Except PyError OnboardingResult × World :=
  exec World.step env (submitUid defaultSettings.ttl .bitunix 1 plainSender.telegramUserId .crypto
    " 222222222 " plainSender.username plainSender.firstName) (configuredWorld.opened 1)

/-- A funded account gets its user in. -/
theorem first_submission_granted :
    ∃ moment, (submittedOn answeringEnv).2.Shows moment ∧
      Admitted defaultSettings.ttl .bitunix (fun uid => recordable (.ok (fundedCheck uid)))
        (.ok "https://t.me/+0") (configuredWorld.opened 1) 77 .crypto
        (normalizeUid " 222222222 ") moment := by
  have hruns := runs_only answeringEnv (submitUid defaultSettings.ttl .bitunix 1
    plainSender.telegramUserId .crypto " 222222222 " plainSender.username plainSender.firstName)
    (configuredWorld.opened 1)
  refine ((access_granted_exactly obliging_answeringEnv
    (initial_configuredWorld.sound.opened 1) rfl hruns).1 solid_answeringEnv).mp ?_
  have hlink : (submittedOn answeringEnv).1.toOption.bind (·.inviteLink) =
      some "https://t.me/+0" := by decide +kernel
  change ∃ result, (submittedOn answeringEnv).1 = .ok result ∧ _
  cases hr : (submittedOn answeringEnv).1 with
  | error e =>
    rw [hr] at hlink
    cases hlink
  | ok result =>
    rw [hr] at hlink
    exact ⟨result, rfl, _, hlink⟩

/-- An account of more than its column has room for. -/
def richCheck (uid : String) : ReferralCheck :=
  { fundedCheck uid with depositTotal := .finite false 1 22 }

/-- A day on which the exchange answers with it. -/
def richEnv (w : World) : Op → Choice
  | .validateUser uid => { check := richCheck uid }
  | op => answeringEnv w op

/-- It gets nobody in, though everything asked of it holds: the balance overflows. -/
theorem rich_account_refused :
    (submittedOn richEnv).1 = .error numericFieldOverflow ∧
      ¬ Broken (Only richEnv) ∧
      ∃ moment, (submittedOn richEnv).2.Shows moment ∧
        Admitted defaultSettings.ttl .bitunix (fun uid => .ok (richCheck uid))
          (.ok "https://t.me/+0") (configuredWorld.opened 1) 77 .crypto
          (normalizeUid " 222222222 ") moment := by
  refine ⟨by decide +kernel, ?_, .day 100, ⟨by decide +kernel, rfl⟩, ?_⟩
  · rintro ⟨w, op, c, rfl, hop, hfault⟩
    cases op with
    | select | flush | savepoint | releaseSavepoint | rollbackToSavepoint | commit | rollback
    | activeTenantIds | tenantsOfToken => exact hfault rfl
    | openSession | closeSession | add | update | utcnow | uuid4 | tokenUrlsafe | encrypt
    | validateUser | telegram => exact hop
  · have hfree : ∀ m, ¬ (configuredWorld.opened 1).HasMembership 77 cryptoChannel.id m := by
      rintro m ⟨hm, -⟩
      cases hm
    exact {
      valid := by decide +kernel
      config := ⟨configOf .crypto, .head _, rfl, rfl, rfl, rfl, _, rfl, rfl, by decide +kernel⟩
      channel := ⟨cryptoChannel, .head _, rfl, rfl, rfl,
        .inr ⟨fun m hm => absurd hm (hfree m), ⟨_, rfl⟩, _, rfl⟩⟩
      unclaimed := by
        rintro account hm
        cases hm }

end VipChannel

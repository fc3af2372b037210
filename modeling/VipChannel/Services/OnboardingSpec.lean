/-
  VipChannel.Services.OnboardingSpec

  What a submission can do to the world.

  A submission that returns either left subscriptions, memberships and Telegram alone,
  or granted access: `Grant` is what it read and wrote, `Grant.Holds` how the world it
  leaves follows from that.  A submission that raises has minted at most one link, and
  only after the mint's answer was lost or a later call failed.
-/
import VipChannel.Services.ReferralOnboarding
import VipChannel.Persistence.Integrity

namespace VipChannel

open Lib
open Program (perform raising)

/-! ## Replacing or adding one row -/

/-- `rows'` is `rows` with `row` in the place of the prior row of its id, or added. -/
inductive Upsert {α : Type} (id : α → RowId) (rows : List α) (row : α) :
    Option α → List α → Prop
  | replace {prior : α} : prior ∈ rows → id prior = id row →
      (∀ r ∈ rows, id r = id row → r = prior) →
      Upsert id rows row (some prior) (modifyRows (fun r => id r == id row) (fun _ => row) rows)
  | insert : (∀ r ∈ rows, id r ≠ id row) → Upsert id rows row none (rows ++ [row])

theorem Upsert.mem_iff {α : Type} {id : α → RowId} {rows rows' : List α} {row : α}
    {prior : Option α} (h : Upsert id rows row prior rows') {r : α} :
    r ∈ rows' ↔ r = row ∨ (r ∈ rows ∧ id r ≠ id row) := by
  cases h with
  | replace hprior hid hone =>
    rw [mem_modifyRows]
    constructor
    · rintro ⟨r₀, hr₀, heq⟩
      by_cases hr : id r₀ = id row
      · exact .inl (by simpa [hr] using heq)
      · have heq' : r = r₀ := by simpa [hr] using heq
        exact .inr ⟨heq' ▸ hr₀, heq' ▸ hr⟩
    · rintro (rfl | ⟨hr, hne⟩)
      · exact ⟨_, hprior, by simp [hid]⟩
      · exact ⟨r, hr, by simp [hne]⟩
  | insert hfresh =>
    rw [List.mem_append, List.mem_singleton]
    constructor
    · rintro (hr | rfl)
      · exact .inr ⟨hr, hfresh r hr⟩
      · exact .inl rfl
    · rintro (rfl | ⟨hr, -⟩)
      · exact .inr rfl
      · exact .inl hr

/-- The prior row was there. -/
theorem Upsert.prior_mem {α : Type} {id : α → RowId} {rows rows' : List α} {row p : α}
    (h : Upsert id rows row (some p) rows') : p ∈ rows ∧ id p = id row := by
  cases h with
  | replace hprior hid _ => exact ⟨hprior, hid⟩

theorem Upsert.fresh {α : Type} {id : α → RowId} {rows rows' : List α} {row : α}
    (h : Upsert id rows row none rows') : ∀ r ∈ rows, id r ≠ id row := by
  cases h with
  | insert hfresh => exact hfresh

/-- Changing the one row a statement selects is an upsert. -/
theorem upsert_modifyRows {α : Type} {id : α → RowId} {rows : List α} {which : α → Bool}
    {change : α → α} {m : α} (hm : m ∈ rows) (hid : id (change m) = id m)
    (hone : ∀ r ∈ rows, id r = id m → r = m)
    (hwhich : ∀ r ∈ rows, which r = true ↔ id r = id m) :
    Upsert id rows (change m) (some m) (modifyRows which change rows) := by
  have heq : modifyRows which change rows =
      modifyRows (fun r => id r == id (change m)) (fun _ => change m) rows := by
    unfold modifyRows
    apply List.map_congr_left
    intro r hr
    by_cases hr' : id r = id m
    · have hsel := (hwhich r hr).mpr hr'
      simp only [hsel, if_true, hid, hr', beq_self_eq_true]
      rw [hone r hr hr']
    · have hsel : which r = false := by
        by_contra hne
        exact hr' ((hwhich r hr).mp (eq_true_of_ne_false hne))
      simp [hsel, hid, hr']
  rw [heq]
  exact .replace hm hid.symm fun r hr hreq => hone r hr (hreq.trans hid)

/-- Changing the row an upsert wrote is an upsert of the changed row. -/
theorem Upsert.modify {α : Type} {id : α → RowId} {rows rows' : List α} {row : α}
    {prior : Option α} (h : Upsert id rows row prior rows') {which : α → Bool}
    {change : α → α} (hid : id (change row) = id row)
    (hwhich : ∀ r ∈ rows', which r = true ↔ id r = id row) :
    Upsert id rows (change row) prior (modifyRows which change rows') := by
  have hrow : row ∈ rows' := h.mem_iff.mpr (.inl rfl)
  have hsel : which row = true := (hwhich row hrow).mpr rfl
  have hleave : ∀ r ∈ rows, id r ≠ id row → which r = false := by
    intro r hr hne
    have hmem : r ∈ rows' := h.mem_iff.mpr (.inr ⟨hr, hne⟩)
    by_contra hw
    exact hne ((hwhich r hmem).mp (eq_true_of_ne_false hw))
  cases h with
  | replace hprior hpid hone =>
    have heq : modifyRows which change
        (modifyRows (fun r => id r == id row) (fun _ => row) rows) =
        modifyRows (fun r => id r == id (change row)) (fun _ => change row) rows := by
      unfold modifyRows
      rw [List.map_map]
      apply List.map_congr_left
      intro r hr
      by_cases hreq : id r = id row
      · simp [hreq, hid, hsel]
      · simp [hreq, hid, hleave r hr hreq]
    rw [heq]
    exact .replace hprior (hpid.trans hid.symm) fun r hr hreq => hone r hr (hreq.trans hid)
  | insert hfresh =>
    have heq : modifyRows which change (rows ++ [row]) = rows ++ [change row] := by
      have hrest : rows.map (fun r => if which r then change r else r) = rows := by
        refine (List.map_congr_left ?_).trans (List.map_id rows)
        intro r hr
        simp [hleave r hr (hfresh r hr)]
      simp only [modifyRows, List.map_append, hrest, List.map_cons, List.map_nil, hsel, if_true]
    rw [heq]
    exact .insert fun r hr => by rw [hid]; exact hfresh r hr

/-! ## What a submission reads and writes -/

/-- Two worlds that differ in the given tables, the savepoint and the clock at most. -/
structure World.SameBut (ts : List Table) (w w' : World) : Prop where
  view : ∀ t, t ∉ ts → w'.view t = w.view t
  ledger : w'.ledger = w.ledger
  conflict : w'.conflict = w.conflict

theorem World.SameBut.tenantId {ts : List Table} {w w' : World} (h : w.SameBut ts w') :
    w'.tenantId = w.tenantId :=
  congrArg Ledger.tenantId h.ledger

theorem World.SameBut.trans {ts : List Table} {w w' w'' : World} (h : w.SameBut ts w')
    (h' : w'.SameBut ts w'') : w.SameBut ts w'' :=
  ⟨fun t ht => (h'.view t ht).trans (h.view t ht), h'.ledger.trans h.ledger,
    h'.conflict.trans h.conflict⟩

theorem World.SameBut.mono {ts ts' : List Table} {w w' : World} (h : w.SameBut ts w')
    (hsub : ts ⊆ ts') : w.SameBut ts' w' :=
  ⟨fun t ht => h.view t fun hmem => ht (hsub hmem), h.ledger, h.conflict⟩

/-- The exchange may answer a question about `uid` with `check`; `none` is an outage. -/
def Answerable (G : World → Op → Choice → Prop) (uid : String) (check : Option ReferralCheck) :
    Prop :=
  ∃ w c, G w (.validateUser uid) c ∧
    ((check = some c.check ∧ c.fault = none) ∨
      (check = none ∧ ∃ e, c.fault = some e ∧ e.cls = .providerUnavailableError))

/-- An instant the clock may show. -/
def Reading (G : World → Op → Choice → Prop) (d : DateTime) : Prop :=
  ∃ w c, G w .utcnow c ∧ d = World.reading c

/-- A link Telegram may answer a mint with. -/
def Issuable (G : World → Op → Choice → Prop) (link : String) : Prop :=
  ∃ w call about c, G w (.telegram call about) c ∧ c.fault = none ∧ c.link = link

/-- A mint may take effect although it raises. -/
def Lossy (G : World → Op → Choice → Prop) : Prop :=
  ∃ w chatId memberLimit expireDate name about c,
    G w (.telegram (.createChatInviteLink chatId memberLimit expireDate name) about) c ∧
      c.fault ≠ none ∧ c.delivered = true

/-- The record of the mint of a membership's link. -/
def mintCall (tenantId : TenantId) (channel : TelegramChannel) (membership : VIPMembership)
    (expireDate : DateTime) (link : String) : Sent where
  tenantId := tenantId
  call := .createChatInviteLink channel.chatId 1 (some expireDate.timestampSeconds)
    (some ("vip-" ++ toString membership.userId))
  about := some (.invite membership.id)
  link := some link

/-- What `issue` does with a membership at `moment`: the row it leaves, and what it
    sends. -/
inductive Issued (G : World → Op → Choice → Prop) (ttl : TimeDelta) (tenantId : TenantId)
    (channel : TelegramChannel) (base : VIPMembership) (moment : DateTime) :
    String → VIPMembership → List Sent → Prop
  | reused {link : String} : InviteService.liveLink ttl base moment = .ok (some link) →
      Issued G ttl tenantId channel base moment link base []
  | minted {expireDate : DateTime} {link : String} :
      InviteService.liveLink ttl base moment = .ok none →
      plusDelta moment ttl = .ok expireDate → Issuable G link →
      Issued G ttl tenantId channel base moment link
        (InviteService.recordLink tenantId link moment base)
        [mintCall tenantId channel base expireDate link]

theorem Issued.cases {G : World → Op → Choice → Prop} {ttl : TimeDelta} {tenantId : TenantId}
    {channel : TelegramChannel} {base m : VIPMembership} {moment : DateTime} {link : String}
    {calls : List Sent} (h : Issued G ttl tenantId channel base moment link m calls) :
    (InviteService.liveLink ttl base moment = .ok (some link) ∧ m = base ∧ calls = []) ∨
    ∃ expireDate, InviteService.liveLink ttl base moment = .ok none ∧
      plusDelta moment ttl = .ok expireDate ∧ Issuable G link ∧
      m = InviteService.recordLink tenantId link moment base ∧
      calls = [mintCall tenantId channel base expireDate link] := by
  cases h with
  | reused hlive => exact .inl ⟨hlive, rfl, rfl⟩
  | minted hlive hexpire hlink => exact .inr ⟨_, hlive, hexpire, hlink, rfl, rfl⟩

/-- A grant of access. -/
structure Grant where
  userId : RowId
  config : ReferralProgramConfig
  channel : TelegramChannel
  priorSubscription : Option Subscription
  subscription : Subscription
  prior : Option VIPMembership
  base : VIPMembership
  membership : VIPMembership
  moment : DateTime
  link : String

open ReferralOnboardingService

/-- The subscription a grant ends with, from the one it found. -/
def SubscriptionFrom (w : World) (userId : RowId) (market : Market) (s : Subscription) :
    Option Subscription → Prop
  | some prior => prior ∈ w.view .subscriptions ∧ prior.tenantId = w.tenantId ∧
      prior.userId = userId ∧ prior.market = market ∧
      ∃ startsAt, s = { prior with status := .active, startsAt := some startsAt }
  | none => (∀ r ∈ w.view .subscriptions,
        ¬ (r.tenantId = w.tenantId ∧ r.userId = userId ∧ r.market = market)) ∧
      ∃ id startsAt, s = {
        id, tenantId := w.tenantId, userId, market, accessType := .referral
        planCode := REFERRAL_PLAN_CODE, status := .active, startsAt := some startsAt }

/-- The membership a grant starts from, from the one it found. -/
def MembershipFrom (G : World → Op → Choice → Prop) (w : World)
    (userId channelId subscriptionId : RowId) (base : VIPMembership) :
    Option VIPMembership → Prop
  | some prior => prior.tenantId = w.tenantId ∧ prior.userId = userId ∧
      prior.channelId = channelId ∧ base = reinstate subscriptionId prior
  | none => (∀ r ∈ w.view .vipMemberships,
        ¬ (r.tenantId = w.tenantId ∧ r.userId = userId ∧ r.channelId = channelId)) ∧
      ∃ id createdAt, Reading G createdAt ∧ base = {
        id, createdAt, tenantId := w.tenantId, userId, channelId
        subscriptionId := some subscriptionId, status := .pending }

/-- The grant `g` leads from `w` to `w'`. -/
structure Grant.Holds (G : World → Op → Choice → Prop) (ttl : TimeDelta)
    (providerType : ProviderType) (market : Market) (w : World) (g : Grant) (w' : World)
    (calls : List Sent) : Prop where
  config_mem : g.config ∈ w.view .referralProgramConfigs
  config_keys : g.config.tenantId = w.tenantId ∧ g.config.providerType = providerType ∧
    g.config.market = market ∧ g.config.isActive = true
  channel_mem : g.channel ∈ w.view .telegramChannels
  channel_keys : g.channel.tenantId = w.tenantId ∧ g.channel.market = market ∧
    g.channel.isActive = true
  subscription : SubscriptionFrom w g.userId market g.subscription g.priorSubscription
  subscriptions : Upsert Subscription.id (w.view .subscriptions) g.subscription
    g.priorSubscription (w'.view .subscriptions)
  membership : MembershipFrom G w g.userId g.channel.id g.subscription.id g.base g.prior
  memberships : Upsert VIPMembership.id (w.view .vipMemberships) g.membership g.prior
    (w'.view .vipMemberships)
  reading : Reading G g.moment
  invite : Issued G ttl w.tenantId g.channel g.base g.moment g.link g.membership calls
  other : ∀ t, t ∉ [Table.telegramUsers, .referralAccounts, .subscriptions, .vipMemberships] →
    w'.view t = w.view t
  ledger : w'.ledger = (w.sending calls).ledger
  conflict : w'.conflict = none
  clock : w'.clock = g.moment.utc

/-- The row that a grant replaces is the one it found. -/
theorem Grant.Holds.prior_eq {G : World → Op → Choice → Prop} {ttl : TimeDelta}
    {providerType : ProviderType} {market : Market} {w w' : World} {g : Grant}
    {calls : List Sent} (hw : w.Sound) (h : g.Holds G ttl providerType market w w' calls)
    {m : VIPMembership} (hm : m ∈ w.view .vipMemberships) (hid : m.id = g.membership.id) :
    g.prior = some m := by
  have hup := h.memberships
  cases hprior : g.prior with
  | none =>
    rw [hprior] at hup
    exact absurd hid (hup.fresh m hm)
  | some prior =>
    rw [hprior] at hup
    obtain ⟨hmem, hpid⟩ := hup.prior_mem
    have heq : prior = m :=
      hw.view.eq_of_clash (t := .vipMemberships) hmem hm (by simp [clash, hpid, hid])
    rw [heq]

/-- What the user is answered. -/
def Grant.result (g : Grant) (verdict : EligibilityVerdict) (uid : String) : OnboardingResult where
  outcome := if g.base.status = .active then .alreadyMember else .invited
  inviteLink := some g.link
  verdict := some verdict
  uid := some uid

/-- The grant is for this user and channel, and leaves users and accounts alone. -/
structure Grant.For (g : Grant) (userId : RowId) (channel : TelegramChannel) (w w' : World) :
    Prop where
  userId_eq : g.userId = userId
  channel_eq : g.channel = channel
  users : w'.view .telegramUsers = w.view .telegramUsers
  accounts : w'.view .referralAccounts = w.view .referralAccounts

/-- The tables a submission writes on before it grants anything. -/
def PRELIMINARY : List Table := [.telegramUsers, .referralAccounts]

/-- What a submission that returns has done. -/
inductive SubmitResult (G : World → Op → Choice → Prop) (ttl : TimeDelta)
    (providerType : ProviderType) (market : Market) (w : World) :
    OnboardingResult → World → Prop
  | quiet {r : OnboardingResult} {w' : World} : r.inviteLink = none →
      w.SameBut PRELIMINARY w' →
      SubmitResult G ttl providerType market w r w'
  | granted {r : OnboardingResult} {g : Grant} {w' : World} {calls : List Sent} :
      g.Holds G ttl providerType market w w' calls → r.inviteLink = some g.link →
      r.outcome = (if g.base.status = .active then .alreadyMember else .invited) →
      SubmitResult G ttl providerType market w r w'

/-- What a submission that raises has done. -/
def SubmitError (G : World → Op → Choice → Prop) (w : World) (l : Ledger) : Prop :=
  l = w.ledger ∨
    ∃ tenantId channel base expireDate link,
      l = (w.sending [mintCall tenantId channel base expireDate link]).ledger ∧
      (Lossy G ∨ ∃ w', w'.ledger = l ∧ w'.conflict = none ∧ Failing G w')

/-- The row of a Telegram user in the tenant. -/
def World.IsUser (w : World) (telegramUserId : Int) (userId : RowId) : Prop :=
  ∃ r ∈ w.view .telegramUsers, r.tenantId = w.tenantId ∧ r.telegramUserId = telegramUserId ∧
    r.id = userId

theorem World.IsUser.congr {w w' : World} {telegramUserId : Int} {userId : RowId}
    (h : w.IsUser telegramUserId userId) (ht : w'.tenantId = w.tenantId)
    (husers : w'.view .telegramUsers = w.view .telegramUsers) :
    w'.IsUser telegramUserId userId := by
  unfold World.IsUser
  rw [ht, husers]
  exact h

/-- The outcomes that come with a link. -/
def OnboardingOutcome.admits : OnboardingOutcome → Bool
  | .invited | .alreadyMember => true
  | .invalidUid | .uidClaimedByAnotherUser | .notRegistered | .insufficientBalance
  | .providerUnavailable | .notConfigured => false

/-- The link a submission returns stands on a membership of the user. -/
structure Handed (userId : RowId) (r : OnboardingResult) (w : World) : Prop where
  link : ∀ link, r.inviteLink = some link → ∃ m ∈ w.view .vipMemberships,
    m.tenantId = w.tenantId ∧ m.userId = userId ∧ m.inviteLink = some link ∧
      m.status.linkIsLive = true
  outcome : r.outcome.admits = true → r.inviteLink ≠ none

/-- A link is returned to the user who asked. -/
structure Told (telegramUserId : Int) (r : OnboardingResult) (w : World) : Prop where
  user : ∀ link, r.inviteLink = some link →
    ∃ userId, w.IsUser telegramUserId userId ∧ Handed userId r w
  outcome : r.outcome.admits = true → r.inviteLink ≠ none

theorem Handed.of_none {userId : RowId} {r : OnboardingResult} {w : World}
    (h : r.inviteLink = none) (hout : r.outcome.admits = false) : Handed userId r w where
  link := fun link hlink => by
    rw [h] at hlink
    cases hlink
  outcome := fun hadmits => by
    rw [hout] at hadmits
    cases hadmits

theorem Told.of_none {telegramUserId : Int} {r : OnboardingResult} {w : World}
    (h : r.inviteLink = none) (hout : r.outcome.admits = false) : Told telegramUserId r w where
  user := fun link hlink => by
    rw [h] at hlink
    cases hlink
  outcome := fun hadmits => by
    rw [hout] at hadmits
    cases hadmits

section Before

variable {G : World → Op → Choice → Prop} {ttl : TimeDelta} {providerType : ProviderType}
  {market : Market} {w₀ w w' : World} {g : Grant} {calls : List Sent}

/-- What was done before a grant does not show in it. -/
theorem Grant.Holds.before (h : g.Holds G ttl providerType market w w' calls)
    (hsame : w₀.SameBut PRELIMINARY w) : g.Holds G ttl providerType market w₀ w' calls := by
  have ht := hsame.tenantId
  have hsubs : w.view .subscriptions = w₀.view .subscriptions := hsame.view _ (by decide)
  have hms : w.view .vipMemberships = w₀.view .vipMemberships := hsame.view _ (by decide)
  have hconfigs : w.view .referralProgramConfigs = w₀.view .referralProgramConfigs :=
    hsame.view _ (by decide)
  have hchannels : w.view .telegramChannels = w₀.view .telegramChannels :=
    hsame.view _ (by decide)
  have hfrom : SubscriptionFrom w = SubscriptionFrom w₀ := by
    funext userId market s prior
    cases prior <;> simp only [SubscriptionFrom, ht, hsubs]
  have hmember : MembershipFrom G w = MembershipFrom G w₀ := by
    funext userId channelId subscriptionId base prior
    cases prior <;> simp only [MembershipFrom, ht, hms]
  exact {
    config_mem := hconfigs ▸ h.config_mem
    config_keys := ht ▸ h.config_keys
    channel_mem := hchannels ▸ h.channel_mem
    channel_keys := ht ▸ h.channel_keys
    subscription := hfrom ▸ h.subscription
    subscriptions := hsubs ▸ h.subscriptions
    membership := hmember ▸ h.membership
    memberships := hms ▸ h.memberships
    reading := h.reading
    invite := ht ▸ h.invite
    other := fun t htables => by
      have hpre : t ∉ PRELIMINARY := fun hmem => htables (by
        simp only [PRELIMINARY, List.mem_cons, List.not_mem_nil, or_false] at hmem
        rcases hmem with rfl | rfl <;> decide)
      rw [h.other t htables, hsame.view t hpre]
    ledger := h.ledger.trans (World.ledger_sending hsame.ledger calls)
    conflict := h.conflict
    clock := h.clock }

theorem SubmitResult.before {r : OnboardingResult}
    (h : SubmitResult G ttl providerType market w r w') (hsame : w₀.SameBut PRELIMINARY w) :
    SubmitResult G ttl providerType market w₀ r w' := by
  cases h with
  | quiet hlink hquiet =>
    refine .quiet hlink ⟨fun t ht => (hquiet.view t ht).trans (hsame.view t ht),
      hquiet.ledger.trans hsame.ledger, hquiet.conflict.trans hsame.conflict⟩
  | granted hg hlink hout => exact .granted (hg.before hsame) hlink hout

theorem SubmitResult.tenantId {r : OnboardingResult}
    (h : SubmitResult G ttl providerType market w r w') : w'.tenantId = w.tenantId := by
  cases h with
  | quiet _ hsame => exact hsame.tenantId
  | granted hg _ _ => exact congrArg Ledger.tenantId hg.ledger

theorem SubmitError.before {l : Ledger} (h : SubmitError G w l)
    (hsame : w₀.SameBut PRELIMINARY w) : SubmitError G w₀ l := by
  rcases h with rfl | ⟨tenantId, channel, base, expireDate, link, rfl, h⟩
  · exact .inl hsame.ledger
  · exact .inr ⟨tenantId, channel, base, expireDate, link,
      World.ledger_sending hsame.ledger _, h⟩

end Before

/-! ## A whole submission -/

/-- What the user sends. -/
structure Submission where
  telegramUserId : Int
  market : Market
  rawUid : String
  username : Option String
  firstName : Option String

def Submission.uid (s : Submission) : String := normalizeUid s.rawUid

/-- The market has an active program of the provider and an active channel. -/
def Database.Ready (d : Database) (tenantId : TenantId) (providerType : ProviderType)
    (market : Market) : Prop :=
  (∃ config ∈ d .referralProgramConfigs, config.tenantId = tenantId ∧
    config.providerType = providerType ∧ config.market = market ∧ config.isActive = true) ∧
  ∃ channel ∈ d .telegramChannels, channel.tenantId = tenantId ∧ channel.market = market ∧
    channel.isActive = true

/-- The user a submission goes on with, from the one it found. -/
def UserFrom (w : World) (s : Submission) (user : TelegramUser) : Option TelegramUser → Prop
  | some prior => prior.tenantId = w.tenantId ∧ prior.telegramUserId = s.telegramUserId ∧
      user = renameUser s.username s.firstName prior
  | none => (∀ r ∈ w.view .telegramUsers,
        ¬ (r.tenantId = w.tenantId ∧ r.telegramUserId = s.telegramUserId)) ∧
      ∃ id, user = {
        id, tenantId := w.tenantId, telegramUserId := s.telegramUserId, username := s.username
        firstName := s.firstName }

/-- The account a verdict is recorded on, from the one that has the UID. -/
def AccountFrom (w : World) (userId : RowId) (providerType : ProviderType) (market : Market)
    (uid : String) (base : ReferralAccount) : Option ReferralAccount → Prop
  | some claimed => claimed.tenantId = w.tenantId ∧ claimed.providerType = providerType ∧
      claimed.uid = uid ∧ claimed.userId = userId ∧ base = claimed
  | none => (∀ r ∈ w.view .referralAccounts,
        ¬ (r.tenantId = w.tenantId ∧ r.providerType = providerType ∧ r.uid = uid)) ∧
      ∃ id, base = { id, tenantId := w.tenantId, userId, providerType, market, uid }

/-- The user is found or registered, and nothing else has changed. -/
structure Identified (w : World) (s : Submission) (user : TelegramUser)
    (prior : Option TelegramUser) (w' : World) : Prop where
  user_from : UserFrom w s user prior
  users : Upsert TelegramUser.id (w.view .telegramUsers) user prior (w'.view .telegramUsers)
  same : w.SameBut [.telegramUsers] w'

/-- The account is saved, and nothing else has changed. -/
structure AccountSaved (w : World) (account : ReferralAccount) (claimed : Option ReferralAccount)
    (w' : World) : Prop where
  accounts : Upsert ReferralAccount.id (w.view .referralAccounts) account claimed
    (w'.view .referralAccounts)
  same : w.SameBut [.referralAccounts] w'

/-- What a submission that asked the exchange has found out. -/
structure Attempt where
  config : ReferralProgramConfig
  channel : TelegramChannel
  prior : Option TelegramUser
  user : TelegramUser
  claimed : Option ReferralAccount
  base : ReferralAccount
  check : Option ReferralCheck
  verdict : EligibilityVerdict
  checkedAt : DateTime

namespace Attempt

/-- The account with what the check said of it. -/
def checked (a : Attempt) : ReferralAccount :=
  recordCheck a.check a.verdict a.checkedAt a.base

def unavailable (a : Attempt) : ReferralAccount :=
  { a.checked with status := .unverified }

def rejected (a : Attempt) : ReferralAccount :=
  { a.checked with status := .rejected, rejectionReason := some a.verdict.reason.value }

def verified (a : Attempt) (verifiedAt : DateTime) : ReferralAccount :=
  { a.checked with status := .verified, rejectionReason := none, verifiedAt := some verifiedAt }

/-- The attempt is one of the submission, and leaves the user in `w₁`. -/
structure Holds (G : World → Op → Choice → Prop) (providerType : ProviderType) (s : Submission)
    (w : World) (a : Attempt) (w₁ : World) : Prop where
  valid : isValidBitunixUid s.uid = true
  config_mem : a.config ∈ w.view .referralProgramConfigs
  config_keys : a.config.tenantId = w.tenantId ∧ a.config.providerType = providerType ∧
    a.config.market = s.market ∧ a.config.isActive = true
  channel_mem : a.channel ∈ w.view .telegramChannels
  channel_keys : a.channel.tenantId = w.tenantId ∧ a.channel.market = s.market ∧
    a.channel.isActive = true
  identified : Identified w s a.user a.prior w₁
  account : AccountFrom w a.user.id providerType s.market s.uid a.base a.claimed
  answer : Answerable G s.uid a.check
  verdict : evaluateReferral a.check a.config.rules false = .ok a.verdict
  room : balanceColumn a.check a.verdict = .ok ()
  reading : Reading G a.checkedAt

end Attempt

/-- How a submission that returns went. -/
inductive Submitted (G : World → Op → Choice → Prop) (ttl : TimeDelta)
    (providerType : ProviderType) (s : Submission) (w : World) : OnboardingResult → World → Prop
  | invalid : isValidBitunixUid s.uid = false →
      Submitted G ttl providerType s w { outcome := .invalidUid, uid := some s.uid } w
  | notConfigured : isValidBitunixUid s.uid = true →
      ¬ w.view.Ready w.tenantId providerType s.market →
      Submitted G ttl providerType s w { outcome := .notConfigured, uid := some s.uid } w
  | claimed {user : TelegramUser} {prior : Option TelegramUser} {account : ReferralAccount}
      {w' : World} : isValidBitunixUid s.uid = true →
      w.view.Ready w.tenantId providerType s.market → Identified w s user prior w' →
      account ∈ w.view .referralAccounts → account.tenantId = w.tenantId →
      account.providerType = providerType → account.uid = s.uid → account.userId ≠ user.id →
      Submitted G ttl providerType s w
        { outcome := .uidClaimedByAnotherUser, uid := some s.uid } w'
  | unavailable {a : Attempt} {w₁ w' : World} : a.Holds G providerType s w w₁ →
      a.verdict.reason = .providerUnavailable → AccountSaved w₁ a.unavailable a.claimed w' →
      Submitted G ttl providerType s w
        { outcome := .providerUnavailable, verdict := some a.verdict, uid := some s.uid } w'
  | rejected {a : Attempt} {w₁ w' : World} : a.Holds G providerType s w w₁ →
      a.verdict.reason ≠ .providerUnavailable → a.verdict.eligible = false →
      AccountSaved w₁ a.rejected a.claimed w' →
      Submitted G ttl providerType s w {
        outcome := if a.verdict.reason = .notRegistered then .notRegistered
          else .insufficientBalance
        verdict := some a.verdict
        uid := some s.uid } w'
  | granted {a : Attempt} {verifiedAt : DateTime} {g : Grant} {w₁ w₂ w' : World}
      {calls : List Sent} : a.Holds G providerType s w w₁ → a.verdict.eligible = true →
      AccountSaved w₁ (a.verified verifiedAt) a.claimed w₂ →
      g.Holds G ttl providerType s.market w₂ w' calls → g.For a.user.id a.channel w₂ w' →
      Submitted G ttl providerType s w (g.result a.verdict s.uid) w'

/-! ## The parts -/

section Rules

variable {G : World → Op → Choice → Prop} {w : World} {E : PyError → Ledger → Prop}

theorem meets_checkUser {uid : String} {Q : Option ReferralCheck → World → Prop}
    (hok : ∀ check, Answerable G uid check →
      Q check { w with asked := w.asked ++ [(w.tenantId, uid)] })
    (herr : ∀ e, E e w.ledger) : Meets G (checkUser uid) Q E w := by
  unfold checkUser Meets serial
  rw [map_eq_pure_bind, wp_tryCatch_either, wp_bind_either, wp_perform_handler]
  intro c hc
  simp only [World.step]
  cases hf : c.fault with
  | none => exact hok (some c.check) ⟨w, c, hc, .inl ⟨rfl, hf⟩⟩
  | some e =>
    by_cases he : e.cls = .providerUnavailableError
    · simp only [either_error, he, if_true]
      exact hok none ⟨w, c, hc, .inr ⟨rfl, e, hf, he⟩⟩
    · simp only [either_error, he, if_false]
      exact herr e

/-- The data is distinct at the end if it was at the start. -/
theorem meets_sound {α : Type} {p : App α} {Q : α → World → Prop} (hw : w.Sound)
    (h : Meets G p (fun a w' => w'.Sound → Q a w') E w) : Meets G p Q E w := by
  refine wp_mono ?_ (wp_and h (wp_sound_world p w))
  rintro (e | a) w' ⟨hq, hsound⟩
  · exact hq
  · exact hq (hsound hw)

/-- A statement that selects a row of the session by its id selects that row only. -/
theorem World.Sound.inScope_id {t : Table} (hw : w.Sound) (id : Row t → RowId) {m : Row t}
    (hm : m ∈ w.view t) (ht : rowTenant t m = w.tenantId)
    (hclash : ∀ r s : Row t, id r = id s → clash t r s = true) :
    (∀ r ∈ w.view t, id r = id m → r = m) ∧
      ∀ r ∈ w.view t, w.inScope (fun r => id r == id m) r = true ↔ id r = id m := by
  have hone : ∀ r ∈ w.view t, id r = id m → r = m :=
    fun r hr hid => hw.view.eq_of_clash hr hm (hclash r m hid)
  refine ⟨hone, fun r hr => ⟨fun h => ?_, fun h => ?_⟩⟩
  · simpa using World.inScope_cond h
  · rw [hone r hr h]
    simp [World.inScope, ht]

/-- The row of the user who submits, as the session has it. -/
theorem Identified.isUser {s : Submission} {user : TelegramUser} {prior : Option TelegramUser}
    {w' : World} (h : Identified w s user prior w') : w'.IsUser s.telegramUserId user.id := by
  have hmem : user ∈ w'.view .telegramUsers := h.users.mem_iff.mpr (.inl rfl)
  have ht : w'.tenantId = w.tenantId := h.same.tenantId
  have hfrom := h.user_from
  cases prior with
  | some prior =>
    obtain ⟨htenant, huser, heq⟩ := hfrom
    exact ⟨user, hmem, by rw [heq, ht]; exact htenant, by rw [heq]; exact huser, rfl⟩
  | none =>
    obtain ⟨-, id, heq⟩ := hfrom
    exact ⟨user, hmem, by rw [heq, ht], by rw [heq], rfl⟩

theorem meets_ensureUser {s : Submission} {Q : TelegramUser → World → Prop} (hw : w.Sound)
    (hok : ∀ user prior w', Identified w s user prior w' → Q user w')
    (herr : ∀ e, E e w.ledger) :
    Meets G (ensureUser w.tenantId s.telegramUserId s.username s.firstName) Q E w := by
  unfold ensureUser TelegramUserRepository.getByTelegramId
  rw [meets_bind]
  refine meets_selectOneOrNone (fun _ user hfound => ?_) herr
  cases user with
  | none =>
    have hnone : ∀ r ∈ w.view .telegramUsers,
        ¬ (r.tenantId = w.tenantId ∧ r.telegramUserId = s.telegramUserId) := by
      rintro r hr ⟨ht, hu⟩
      have := hfound r hr
      simp [World.inScope, rowTenant, ht, hu] at this
    rw [meets_bind]
    refine meets_uuid4 fun id => ?_
    refine meets_saveNew rfl (by simp) (fun r hr => ?_) (fun _ hfresh => ?_) herr
    · simp only [beq_iff_eq] at hr
      simp [clash, hr]
    · refine hok _ none _ ⟨⟨hnone, id, rfl⟩, ?_, ⟨fun t ht => Store.append_other _ ?_ _, rfl, rfl⟩⟩
      · have hrows := Store.append_self w.view Table.telegramUsers
        change Upsert _ _ _ _ (w.view.append .telegramUsers _ .telegramUsers)
        rw [hrows]
        refine .insert fun r hr hid => ?_
        have := hfresh r hr
        simp [clash, hid] at this
      · simpa using ht
  | some user =>
    obtain ⟨hmem, hscope, -⟩ := hfound
    have hcond := World.inScope_cond hscope
    simp only [Bool.and_eq_true, beq_iff_eq] at hcond
    obtain ⟨hone, hid⟩ := hw.inScope_id (t := .telegramUsers) TelegramUser.id hmem hcond.1
      fun r s h => by simp [clash, h]
    rw [meets_bind]
    refine meets_update (fun _ _ _ => rfl) ?_
    refine hok _ (some user) _
      ⟨⟨hcond.1, hcond.2, rfl⟩, ?_, ⟨fun t ht => Store.modify_other _ ?_ _ _, rfl, rfl⟩⟩
    · have hrows := Store.modify_self w.view Table.telegramUsers
      change Upsert _ _ _ _ (w.view.modify .telegramUsers _ _ .telegramUsers)
      rw [hrows]
      have hkeep : (renameUser s.username s.firstName user).id = user.id := rfl
      exact upsert_modifyRows hmem hkeep hone hid
    · simpa using ht

/-- The unique columns of an account. -/
def accountKey (a : ReferralAccount) : RowId × TenantId × ProviderType × String :=
  (a.id, a.tenantId, a.providerType, a.uid)

/-- The accounts with the UID, as `get_by_uid` reads them. -/
def World.Claims (w : World) (providerType : ProviderType) (uid : String) :
    Option ReferralAccount → Prop :=
  w.Found .referralAccounts fun r =>
    r.tenantId == w.tenantId && r.providerType == providerType && r.uid == uid

theorem meets_saveAccount {userId : RowId} {providerType : ProviderType} {market : Market}
    {uid : String} {claimed : Option ReferralAccount} {change : ReferralAccount → ReferralAccount}
    {Q : ReferralAccount → World → Prop} (hw : w.Sound)
    (hclaims : w.Claims providerType uid claimed)
    (howner : ∀ account, claimed = some account → account.userId = userId)
    (hkey : ∀ a, accountKey (change a) = accountKey a)
    (hok : ∀ account base w', AccountFrom w userId providerType market uid base claimed →
      AccountSaved w (change base) claimed w' → Q account w')
    (herr : ∀ e, E e w.ledger) :
    Meets G (saveAccount w.tenantId userId providerType market uid claimed change) Q E w := by
  have hcols : ∀ a, (change a).id = a.id ∧ (change a).tenantId = a.tenantId ∧
      (change a).providerType = a.providerType ∧ (change a).uid = a.uid := by
    intro a
    have := hkey a
    simpa [accountKey] using this
  unfold saveAccount
  cases claimed with
  | none =>
    have hnone : ∀ r ∈ w.view .referralAccounts,
        ¬ (r.tenantId = w.tenantId ∧ r.providerType = providerType ∧ r.uid = uid) := by
      rintro r hr ⟨ht, hp, hu⟩
      have := hclaims r hr
      simp [World.inScope, rowTenant, ht, hp, hu] at this
    rw [meets_bind]
    refine meets_uuid4 fun id => ?_
    refine meets_saveNew (hcols _).2.1 ?_ (fun r hr => ?_) (fun _ hfresh => ?_) herr
    · simp [(hcols _).1]
    · simp only [beq_iff_eq] at hr
      simp [clash, hr, (hcols _).1]
    · refine hok _ _ _ ⟨hnone, id, rfl⟩ ⟨?_, ⟨fun t ht => Store.append_other _ ?_ _, rfl, rfl⟩⟩
      · have hrows := Store.append_self w.view Table.referralAccounts
        change Upsert _ _ _ _ (w.view.append .referralAccounts _ .referralAccounts)
        rw [hrows]
        refine .insert fun r hr hid => ?_
        have := hfresh r hr
        simp [clash, hid] at this
      · simpa using ht
  | some account =>
    obtain ⟨hmem, hscope, -⟩ := hclaims
    have hcond := World.inScope_cond hscope
    simp only [Bool.and_eq_true, beq_iff_eq] at hcond
    obtain ⟨⟨ht, hp⟩, hu⟩ := hcond
    obtain ⟨hone, hid⟩ := hw.inScope_id (t := .referralAccounts) ReferralAccount.id hmem ht
      fun r s h => by simp [clash, h]
    rw [meets_bind]
    refine meets_update (fun r _ s => ?_) ?_
    · obtain ⟨h₁, h₂, h₃, h₄⟩ := hcols r
      simp only [clash, h₁, h₂, h₃, h₄]
    · refine meets_saveLoaded (fun _ r _ _ => ?_) herr
      refine hok _ account _ ⟨ht, hp, hu, howner account rfl, rfl⟩
        ⟨?_, ⟨fun t ht => Store.modify_other _ ?_ _ _, rfl, rfl⟩⟩
      · have hrows := Store.modify_self w.view Table.referralAccounts
        change Upsert _ _ _ _ (w.view.modify .referralAccounts _ _ .referralAccounts)
        rw [hrows]
        exact upsert_modifyRows hmem (hcols account).1 hone hid
      · simpa using ht

theorem meets_ensureSubscription {userId : RowId} {market : Market}
    {Q : Subscription → World → Prop} (hw : w.Sound)
    (hok : ∀ s prior w', w.SameBut [.subscriptions] w' →
      SubscriptionFrom w userId market s prior →
      Upsert Subscription.id (w.view .subscriptions) s prior (w'.view .subscriptions) → Q s w')
    (herr : ∀ e, E e w.ledger) :
    Meets G (ensureSubscription w.tenantId userId market) Q E w := by
  have hother : ∀ (d : Database) (t : Table), t ∉ [Table.subscriptions] → t ≠ .subscriptions :=
    fun _ t ht => by simpa using ht
  unfold ensureSubscription SubscriptionRepository.getActiveForUser
  rw [meets_bind, meets_bind]
  refine meets_select (fun _ rows hrows => ?_) herr
  rw [meets_pure]
  cases rows with
  | nil =>
    have hnone : ∀ r ∈ w.view .subscriptions,
        ¬ (r.tenantId = w.tenantId ∧ r.userId = userId ∧ r.market = market) := by
      rintro r hr ⟨ht, hu, hm⟩
      have hscope : r ∈ (w.view .subscriptions).filter (w.inScope (t := .subscriptions)
          fun r => r.tenantId == w.tenantId && r.userId == userId && r.market == market) := by
        refine List.mem_filter.mpr ⟨hr, ?_⟩
        simp [World.inScope, rowTenant, ht, hu, hm]
      cases hrows.mem_iff.mpr hscope
    change Meets G (do
      let startsAt ← utcnow
      let id ← uuid4
      saveNew .subscriptions (fun r => r.id == id)
        { id, tenantId := w.tenantId, userId, market, accessType := .referral
          planCode := REFERRAL_PLAN_CODE, status := .active, startsAt := some startsAt }) Q E w
    rw [meets_bind]
    refine meets_utcnow fun c _ => ?_
    rw [meets_bind]
    refine meets_uuid4 fun id => ?_
    refine meets_saveNew rfl (by simp) (fun r hr => ?_) (fun _ hfresh => ?_) herr
    · simp only [beq_iff_eq] at hr
      simp [clash, hr]
    · refine hok _ none _ ⟨fun t ht => Store.append_other _ (hother w.view t ht) _, rfl, rfl⟩
        ⟨hnone, _, _, rfl⟩ ?_
      have hrow := Store.append_self w.view Table.subscriptions
      change Upsert _ _ _ _ (w.view.append .subscriptions _ .subscriptions)
      rw [hrow]
      refine .insert fun r hr hid => ?_
      have := hfresh r hr
      simp [clash, hid] at this
  | cons existing rest =>
    have hmem := List.mem_filter.mp (hrows.mem_iff.mp List.mem_cons_self)
    have hcond := World.inScope_cond hmem.2
    simp only [Bool.and_eq_true, beq_iff_eq] at hcond
    obtain ⟨⟨ht, hu⟩, hm⟩ := hcond
    obtain ⟨hone, hscope⟩ := hw.inScope_id (t := .subscriptions) Subscription.id hmem.1 ht
      fun r s h => by simp [clash, h]
    have hactivate : ∀ startsAt w₀, w₀.view = w.view → w₀.tenantId = w.tenantId →
        w₀.ledger = w.ledger → w₀.conflict = w.conflict →
        Meets G (do
          update .subscriptions (fun r => r.id == existing.id)
            fun r => { r with status := .active, startsAt := some startsAt }
          return { existing with status := .active, startsAt := some startsAt }) Q E w₀ := by
      intro startsAt w₀ hview htenant hledger hconflict
      rw [meets_bind]
      refine meets_update (fun _ _ _ => rfl) ?_
      rw [meets_pure, hview, World.inScope_congr htenant]
      refine hok _ (some existing) _
        ⟨fun t ht => Store.modify_other _ (hother w.view t ht) _ _, hledger, hconflict⟩
        ⟨hmem.1, ht, hu, hm, startsAt, rfl⟩ ?_
      have hrow := Store.modify_self w.view Table.subscriptions
      change Upsert _ _ _ _ (w.view.modify .subscriptions _ _ .subscriptions)
      rw [hrow]
      let activate : Subscription → Subscription := fun r =>
        { r with status := .active, startsAt := some startsAt }
      have hid : (activate existing).id = existing.id := rfl
      exact upsert_modifyRows hmem.1 hid hone hscope
    change Meets G (do
      let startsAt ← nowOr existing.startsAt
      update .subscriptions (fun r => r.id == existing.id)
        fun r => { r with status := .active, startsAt := some startsAt }
      return { existing with status := .active, startsAt := some startsAt }) Q E w
    rw [meets_bind]
    cases existing.startsAt with
    | some startsAt => exact hactivate startsAt w rfl rfl rfl rfl
    | none => exact meets_utcnow fun c _ => hactivate _ _ rfl rfl rfl rfl

theorem keepsKeys_reinstate (tenantId : TenantId) (subscriptionId : RowId) :
    KeepsKeys tenantId .vipMemberships (reinstate subscriptionId) := by
  intro r _ s
  unfold reinstate
  split <;> rfl

theorem reinstate_keys (subscriptionId : RowId) (m : VIPMembership) :
    (reinstate subscriptionId m).id = m.id ∧
      (reinstate subscriptionId m).tenantId = m.tenantId ∧
      (reinstate subscriptionId m).userId = m.userId ∧
      (reinstate subscriptionId m).channelId = m.channelId := by
  unfold reinstate
  split <;> exact ⟨rfl, rfl, rfl, rfl⟩

theorem meets_ensureMembership {userId channelId subscriptionId : RowId}
    {Q : VIPMembership → World → Prop} (hw : w.Sound)
    (hok : ∀ base prior w', w.SameBut [.vipMemberships] w' →
      MembershipFrom G w userId channelId subscriptionId base prior →
      Upsert VIPMembership.id (w.view .vipMemberships) base prior (w'.view .vipMemberships) →
      base.tenantId = w.tenantId → Q base w')
    (herr : ∀ e, E e w.ledger) :
    Meets G (ensureMembership w.tenantId userId channelId subscriptionId) Q E w := by
  have hother : ∀ t : Table, t ∉ [Table.vipMemberships] → t ≠ .vipMemberships :=
    fun t ht => by simpa using ht
  unfold ensureMembership MembershipRepository.getForUserAndChannel
  rw [meets_bind]
  refine meets_selectOneOrNone (fun _ existing hfound => ?_) herr
  cases existing with
  | none =>
    have hnone : ∀ r ∈ w.view .vipMemberships,
        ¬ (r.tenantId = w.tenantId ∧ r.userId = userId ∧ r.channelId = channelId) := by
      rintro r hr ⟨ht, hu, hc⟩
      have := hfound r hr
      simp [World.inScope, rowTenant, ht, hu, hc] at this
    rw [meets_bind]
    refine meets_uuid4 fun id => ?_
    rw [meets_bind]
    refine meets_utcnow fun c hc => ?_
    refine meets_saveNew rfl (by simp) (fun r hr => ?_) (fun _ hfresh => ?_) herr
    · simp only [beq_iff_eq] at hr
      simp [clash, hr]
    · refine hok _ none _ ⟨fun t ht => Store.append_other _ (hother t ht) _, rfl, rfl⟩
        ⟨hnone, _, _, ⟨w, c, hc, rfl⟩, rfl⟩ ?_ rfl
      have hrow := Store.append_self w.view Table.vipMemberships
      change Upsert _ _ _ _ (w.view.append .vipMemberships _ .vipMemberships)
      rw [hrow]
      refine .insert fun r hr hid => ?_
      have := hfresh r hr
      simp [clash, hid] at this
  | some prior =>
    obtain ⟨hmem, hscope, -⟩ := hfound
    have hcond := World.inScope_cond hscope
    simp only [Bool.and_eq_true, beq_iff_eq] at hcond
    obtain ⟨⟨ht, hu⟩, hc⟩ := hcond
    obtain ⟨hone, hid⟩ := hw.inScope_id (t := .vipMemberships) VIPMembership.id hmem ht
      fun r s h => by simp [clash, h]
    obtain ⟨hkid, hkt, -⟩ := reinstate_keys subscriptionId prior
    rw [meets_bind]
    refine meets_update (keepsKeys_reinstate _ _) ?_
    refine hok _ (some prior) _ ⟨fun t ht => Store.modify_other _ (hother t ht) _ _, rfl, rfl⟩
      ⟨ht, hu, hc, rfl⟩ ?_ (hkt.trans ht)
    have hrow := Store.modify_self w.view Table.vipMemberships
    change Upsert _ _ _ _ (w.view.modify .vipMemberships _ _ .vipMemberships)
    rw [hrow]
    exact upsert_modifyRows hmem hkid hone hid

theorem MembershipFrom.userId {userId channelId subscriptionId : RowId} {base : VIPMembership}
    {prior : Option VIPMembership}
    (h : MembershipFrom G w userId channelId subscriptionId base prior) :
    base.userId = userId := by
  cases prior with
  | some prior =>
    obtain ⟨-, hu, -, rfl⟩ := h
    exact (reinstate_keys subscriptionId prior).2.2.1.trans hu
  | none =>
    obtain ⟨-, id, createdAt, -, rfl⟩ := h
    rfl

theorem keepsKeys_recordLink (tenantId : TenantId) (link : String) (moment : DateTime) :
    KeepsKeys tenantId .vipMemberships (InviteService.recordLink tenantId link moment) := by
  rintro r rfl s
  rfl

/-- An issue either finds the link still live, or mints one and records it. -/
theorem meets_issue {ttl : TimeDelta} {channel : TelegramChannel} {base : VIPMembership}
    {rows : List VIPMembership} {prior : Option VIPMembership}
    {Q : IssuedInvite × VIPMembership → World → Prop} (hw : w.Sound)
    (hbase : base.tenantId = w.tenantId)
    (hup : Upsert VIPMembership.id rows base prior (w.view .vipMemberships))
    (hok : ∀ moment invite m calls w', Reading G moment →
      Issued G ttl w.tenantId channel base moment invite.link m calls →
      Upsert VIPMembership.id rows m prior (w'.view .vipMemberships) →
      (∀ t, t ≠ .vipMemberships → w'.view t = w.view t) →
      w'.ledger = (w.sending calls).ledger → w'.conflict = w.conflict →
      w'.clock = moment.utc → Q (invite, m) w')
    (hlost : ∀ e expireDate link, Lossy G →
      E e (w.sending [mintCall w.tenantId channel base expireDate link]).ledger)
    (herr : ∀ e, E e w.ledger) :
    Meets G (InviteService.issue ttl w.tenantId base channel none) Q E w := by
  unfold InviteService.issue
  rw [meets_bind]
  refine meets_utcnow fun c hc => ?_
  have hreading : Reading G (World.reading c) := ⟨w, c, hc, rfl⟩
  rw [meets_bind]
  refine meets_raising (fun live hlive => ?_) herr
  cases live with
  | some existing =>
    refine hok (World.reading c) ⟨existing, true⟩ base [] _ hreading (.reused hlive) hup
      (fun _ _ => rfl) ?_ rfl rfl
    rw [World.sending_nil]
    rfl
  | none =>
    rw [meets_bind]
    refine meets_raising (fun expireDate hexpire => ?_) herr
    rw [meets_bind]
    refine meets_telegram (fun d hd hfault => ?_) (fun d e hd hfault hdelivered => ?_) herr
    swap
    · exact hlost e expireDate d.link ⟨_, _, _, _, _, _, d, hd, by simp [hfault], hdelivered⟩
    have hissuable : Issuable G d.link := ⟨_, _, _, d, hd, hfault, rfl⟩
    rw [meets_bind]
    refine meets_update (keepsKeys_recordLink _ _ _) ?_
    refine hok (World.reading c) ⟨d.link, false⟩ _ _ _ hreading
      (.minted hlive hexpire hissuable) ?_ (fun t ht => Store.modify_other _ ht _ _) rfl rfl rfl
    -- The minted link goes to the row `ensureMembership` left, and to no other.
    obtain ⟨-, hid⟩ := hw.inScope_id (t := .vipMemberships) VIPMembership.id
      (hup.mem_iff.mpr (.inl rfl)) hbase fun r s h => by simp [clash, h]
    have hrow := Store.modify_self w.view Table.vipMemberships
    change Upsert _ _ _ _ (w.view.modify .vipMemberships _ _ .vipMemberships)
    rw [hrow]
    exact hup.modify rfl hid

/-- The link a grant answers with is on the membership it leaves. -/
theorem Grant.Holds.linked {ttl : TimeDelta} {providerType : ProviderType} {market : Market}
    {g : Grant} {w' : World} {calls : List Sent}
    (h : g.Holds G ttl providerType market w w' calls) :
    g.membership ∈ w'.view .vipMemberships ∧ g.membership.tenantId = w'.tenantId ∧
      g.membership.userId = g.userId ∧ g.membership.inviteLink = some g.link ∧
      g.membership.status.linkIsLive = true := by
  have ht : w'.tenantId = w.tenantId := congrArg Ledger.tenantId h.ledger
  have hbase : g.base.tenantId = w.tenantId := by
    have hfrom := h.membership
    cases hprior : g.prior with
    | none =>
      rw [hprior] at hfrom
      obtain ⟨-, id, createdAt, -, hbase⟩ := hfrom
      rw [hbase]
    | some prior =>
      rw [hprior] at hfrom
      obtain ⟨hpt, -, -, hbase⟩ := hfrom
      rw [hbase]
      exact (reinstate_keys g.subscription.id prior).2.1.trans hpt
  refine ⟨h.memberships.mem_iff.mpr (.inl rfl), ?_⟩
  rw [ht]
  rcases h.invite.cases with ⟨hlive, hm, -⟩ | ⟨_, -, -, -, hm, -⟩
  · obtain ⟨hlink, hstatus, -⟩ := InviteService.liveLink_some hlive
    rw [hm]
    exact ⟨hbase, h.membership.userId, hlink, hstatus⟩
  · rw [hm]
    refine ⟨rfl, h.membership.userId, rfl, ?_⟩
    simp only [InviteService.recordLink]
    split <;> rfl

theorem Grant.Holds.handed {ttl : TimeDelta} {providerType : ProviderType} {market : Market}
    {g : Grant} {w' : World} {calls : List Sent} {verdict : EligibilityVerdict} {uid : String}
    (h : g.Holds G ttl providerType market w w' calls) :
    Handed g.userId (g.result verdict uid) w' where
  link := fun link hlink => by
    cases hlink
    exact ⟨g.membership, h.linked⟩
  outcome := fun _ => Option.some_ne_none g.link

/-- Once the link is minted, nothing but a failing call keeps the grant from returning. -/
theorem meets_grant {ttl : TimeDelta} {providerType : ProviderType} {market : Market}
    {userId : RowId} {uid : String} {config : ReferralProgramConfig}
    {channel : TelegramChannel} {verdict : EligibilityVerdict} (hw : w.Sound)
    (hconflict : w.conflict = none)
    (hconfig : config ∈ w.view .referralProgramConfigs ∧ config.tenantId = w.tenantId ∧
      config.providerType = providerType ∧ config.market = market ∧ config.isActive = true)
    (hchannel : channel ∈ w.view .telegramChannels ∧ channel.tenantId = w.tenantId ∧
      channel.market = market ∧ channel.isActive = true) :
    Meets G (grant ttl w.tenantId userId market uid channel verdict)
      (fun r w' => ∃ (g : Grant) (calls : List Sent),
        g.Holds G ttl providerType market w w' calls ∧ g.For userId channel w w' ∧
        r = g.result verdict uid)
      (fun _ => SubmitError G w) w := by
  have hquiet : SubmitError G w w.ledger := .inl rfl
  unfold grant
  rw [meets_bind]
  refine meets_sound hw (meets_ensureSubscription hw
    (fun subscription priorSubscription w₁ hsame₁ hsub hsubs hw₁ => ?_) fun _ => hquiet)
  have ht₁ := hsame₁.tenantId
  have hms₁ : w₁.view .vipMemberships = w.view .vipMemberships := hsame₁.view _ (by decide)
  have hquiet₁ : SubmitError G w w₁.ledger := .inl hsame₁.ledger
  rw [meets_bind, ← ht₁]
  refine meets_sound hw₁ (meets_ensureMembership hw₁
    (fun base prior w₂ hsame₂ hmember hup hbase hw₂ => ?_) fun _ => hquiet₁)
  have ht₂ := hsame₂.tenantId
  have hledger₂ := hsame₂.ledger.trans hsame₁.ledger
  have hsubs₂ : w₂.view .subscriptions = w₁.view .subscriptions := hsame₂.view _ (by decide)
  rw [hms₁] at hup
  rw [meets_bind, ← ht₂]
  refine meets_issue hw₂ (hbase.trans ht₂.symm) hup
    (fun moment invite m calls w₃ hreading hissued hup₃ hother hledger hconf hclock => ?_)
    (fun e expireDate link hlossy => ?_) fun _ => .inl hledger₂
  swap
  · refine .inr ⟨_, channel, base, expireDate, link, World.ledger_sending hledger₂ _, .inl hlossy⟩
  have hconflict₃ : w₃.conflict = none := by
    rw [hconf, hsame₂.conflict, hsame₁.conflict, hconflict]
  have hgrant : Grant.Holds G ttl providerType market w
      ⟨userId, config, channel, priorSubscription, subscription, prior, base, m, moment,
        invite.link⟩ w₃ calls := {
    config_mem := hconfig.1
    config_keys := hconfig.2
    channel_mem := hchannel.1
    channel_keys := hchannel.2
    subscription := hsub
    subscriptions := by rw [hother _ (by decide), hsubs₂]; exact hsubs
    membership := by
      cases prior with
      | some prior => simpa only [MembershipFrom, ht₁] using hmember
      | none => simpa only [MembershipFrom, ht₁, hms₁] using hmember
    memberships := hup₃
    reading := hreading
    invite := by rw [← ht₁, ← ht₂]; exact hissued
    other := fun t htables => by
      simp only [List.mem_cons, List.not_mem_nil, or_false, not_or] at htables
      rw [hother t htables.2.2.2, hsame₂.view t (by simp [htables]),
        hsame₁.view t (by simp [htables])]
    ledger := hledger.trans (World.ledger_sending hledger₂ _)
    conflict := hconflict₃
    clock := hclock }
  have hthere : ∃ r ∈ w₃.view .vipMemberships,
      w₃.inScope (t := .vipMemberships) (fun r => r.id == m.id) r = true := by
    obtain ⟨hmem, hmt, -⟩ := hgrant.linked
    refine ⟨m, hmem, ?_⟩
    have hm : m.tenantId = w₃.tenantId := hmt
    simp [World.inScope, rowTenant, hm]
  rw [meets_bind]
  refine meets_saveLoaded_failing hthere (fun _ r _ _ => ?_) fun hfail e => ?_
  · have hleft : ∀ t, t ≠ .vipMemberships → t ≠ .subscriptions → w₃.view t = w.view t :=
      fun t hm hs => by
        rw [hother t hm, hsame₂.view t (by simpa using hm), hsame₁.view t (by simpa using hs)]
    exact ⟨_, _, hgrant, ⟨rfl, rfl, hleft _ (by decide) (by decide),
      hleft _ (by decide) (by decide)⟩, rfl⟩
  · -- The row is there: only a failing call can raise.
    cases hissued with
    | reused =>
      left
      rw [hledger, World.sending_nil, hledger₂]
    | minted =>
      exact .inr ⟨_, channel, base, _, invite.link, hgrant.ledger,
        .inr ⟨w₃, rfl, hconflict₃, hfail⟩⟩

/-- What is left once the exchange has answered, or not. -/
theorem meets_settle {ttl : TimeDelta} {providerType : ProviderType} {s : Submission}
    {w₀ : World} (config : ReferralProgramConfig) {channel : TelegramChannel}
    (prior : Option TelegramUser) {user : TelegramUser} {claimed : Option ReferralAccount}
    {check : Option ReferralCheck} {verdict : EligibilityVerdict} (hw : w.Sound)
    (hconflict : w.conflict = none) (hclaims : w.Claims providerType s.uid claimed)
    (howner : ∀ account, claimed = some account → account.userId = user.id)
    (hbefore : w₀.SameBut [.telegramUsers] w)
    (hholds : ∀ base checkedAt,
      AccountFrom w user.id providerType s.market s.uid base claimed → Reading G checkedAt →
      balanceColumn check verdict = .ok () →
      Attempt.Holds G providerType s w₀
        ⟨config, channel, prior, user, claimed, base, check, verdict, checkedAt⟩ w)
    (hconfig : config ∈ w.view .referralProgramConfigs ∧ config.tenantId = w.tenantId ∧
      config.providerType = providerType ∧ config.market = s.market ∧
      config.isActive = true)
    (hchannel : channel ∈ w.view .telegramChannels ∧ channel.tenantId = w.tenantId ∧
      channel.market = s.market ∧ channel.isActive = true) :
    Meets G (settle ttl w.tenantId providerType s.market s.uid channel user.id claimed
        check verdict)
      (Submitted G ttl providerType s w₀) (fun _ => SubmitError G w₀) w := by
  -- Reading the clock changes nothing a submission depends on.
  have hread : ∀ {n base w'} {account : ReferralAccount},
      AccountFrom { w with clock := n } user.id providerType s.market s.uid base claimed →
      AccountSaved { w with clock := n } account claimed w' →
      AccountFrom w user.id providerType s.market s.uid base claimed ∧
        AccountSaved w account claimed w' := by
    intro n base w' account hbase hrec
    refine ⟨?_, hrec.accounts, ⟨hrec.same.view, hrec.same.ledger, hrec.same.conflict⟩⟩
    cases hc : claimed with
    | some claimed => rw [hc] at hbase; exact hbase
    | none => rw [hc] at hbase; exact hbase
  have hquiet : SubmitError G w₀ w.ledger := .inl hbefore.ledger
  unfold settle
  rw [meets_bind]
  refine meets_sound hw (meets_utcnow fun c hc hw₁ => ?_)
  have hreading : Reading G (World.reading c) := ⟨w, c, hc, rfl⟩
  by_cases hout : verdict.reason = .providerUnavailable
  · simp only [hout, if_true]
    rw [meets_bind, meets_bind]
    refine meets_raising (fun _ hroom => ?_) fun _ => hquiet
    refine meets_saveAccount hw₁ hclaims howner (fun _ => rfl) (fun _ base w' hbase hrec => ?_)
      fun _ => hquiet
    obtain ⟨hbase, hrec⟩ := hread hbase hrec
    exact .unavailable (hholds base _ hbase hreading hroom) hout hrec
  simp only [hout, if_false]
  by_cases helig : verdict.eligible = true
  swap
  · simp only [helig, Bool.not_false, if_true]
    rw [meets_bind, meets_bind]
    refine meets_raising (fun _ hroom => ?_) fun _ => hquiet
    refine meets_saveAccount hw₁ hclaims howner (fun _ => rfl) (fun _ base w' hbase hrec => ?_)
      fun _ => hquiet
    obtain ⟨hbase, hrec⟩ := hread hbase hrec
    exact .rejected (hholds base _ hbase hreading hroom) hout (eq_false_of_ne_true helig) hrec
  simp only [helig, Bool.not_true, Bool.false_eq_true, if_false]
  rw [meets_bind]
  refine meets_sound hw₁ (meets_utcnow fun c' _ hw₂ => ?_)
  rw [meets_bind, meets_bind]
  refine meets_raising (fun _ hroom => ?_) fun _ => hquiet
  refine meets_sound hw₂ (meets_saveAccount hw₂ hclaims howner (fun _ => rfl)
    (fun _ base w' hbase hrec hw' => ?_) fun _ => hquiet)
  obtain ⟨hbase, hrec⟩ := hread (n := (World.reading c').utc) hbase hrec
  -- The account is saved: what the grant reads is as it was.
  have ht : w'.tenantId = w.tenantId := hrec.same.tenantId
  have hconfigs : w'.view .referralProgramConfigs = w.view .referralProgramConfigs :=
    hrec.same.view _ (by decide)
  have hchannels : w'.view .telegramChannels = w.view .telegramChannels :=
    hrec.same.view _ (by decide)
  have hpre : w₀.SameBut PRELIMINARY w' :=
    (hbefore.mono (by decide)).trans (hrec.same.mono (by decide))
  rw [← ht]
  refine meets_mono (meets_grant hw' (hrec.same.conflict.trans hconflict)
    (by rw [hconfigs, ht]; exact hconfig) (by rw [hchannels, ht]; exact hchannel))
    (fun r w'' h => ?_) fun _ _ h => h.before hpre
  obtain ⟨g, calls, hg, hfor, rfl⟩ := h
  exact .granted (hholds base _ hbase hreading hroom) helig hrec hg hfor

theorem meets_enroll {ttl : TimeDelta} {providerType : ProviderType} {s : Submission}
    {config : ReferralProgramConfig} {channel : TelegramChannel} (hw : w.Sound)
    (hconflict : w.conflict = none) (hvalid : isValidBitunixUid s.uid = true)
    (hconfig : config ∈ w.view .referralProgramConfigs ∧ config.tenantId = w.tenantId ∧
      config.providerType = providerType ∧ config.market = s.market ∧ config.isActive = true)
    (hchannel : channel ∈ w.view .telegramChannels ∧ channel.tenantId = w.tenantId ∧
      channel.market = s.market ∧ channel.isActive = true) :
    Meets G (enroll ttl w.tenantId providerType s.telegramUserId s.market s.uid s.username
        s.firstName config channel)
      (Submitted G ttl providerType s w) (fun _ => SubmitError G w) w := by
  have hready : w.view.Ready w.tenantId providerType s.market :=
    ⟨⟨config, hconfig⟩, channel, hchannel⟩
  unfold enroll ReferralAccountRepository.getByUid
  rw [meets_bind]
  refine meets_sound hw (meets_ensureUser hw (fun user prior w₁ hident hw₁ => ?_)
    fun _ => .inl rfl)
  have hquiet : SubmitError G w w₁.ledger := .inl hident.same.ledger
  have ht := hident.same.tenantId
  have hconfigs : w₁.view .referralProgramConfigs = w.view .referralProgramConfigs :=
    hident.same.view _ (by decide)
  have hchannels : w₁.view .telegramChannels = w.view .telegramChannels :=
    hident.same.view _ (by decide)
  have haccounts : w₁.view .referralAccounts = w.view .referralAccounts :=
    hident.same.view _ (by decide)
  rw [← ht, meets_bind]
  refine meets_selectOneOrNone (fun _ claimed hclaims => ?_) fun _ => hquiet
  by_cases hother : (claimed.any fun account => account.userId != user.id) = true
  · simp only [hother, if_true]
    obtain ⟨account, rfl, hne⟩ := (Option.any_eq_true _ _).mp hother
    obtain ⟨hmem, hscope, -⟩ := hclaims
    have hcond := World.inScope_cond hscope
    simp only [Bool.and_eq_true, beq_iff_eq] at hcond
    exact .claimed hvalid hready hident (haccounts ▸ hmem) (hcond.1.1.trans ht) hcond.1.2 hcond.2
      (by simpa using hne)
  simp only [hother, Bool.false_eq_true, if_false]
  have howner : ∀ account, claimed = some account → account.userId = user.id := by
    rintro account rfl
    simpa using hother
  rw [meets_bind]
  refine meets_sound hw₁ (meets_checkUser (fun check hanswer hw₂ => ?_) fun _ => hquiet)
  rw [meets_bind]
  refine meets_raising (fun verdict hverdict => ?_) fun _ => hquiet
  have hasked : w.SameBut [.telegramUsers]
      { w₁ with asked := w₁.asked ++ [(w₁.tenantId, s.uid)] } :=
    ⟨hident.same.view, hident.same.ledger, hident.same.conflict⟩
  refine meets_settle config prior hw₂ (hident.same.conflict.trans hconflict) hclaims howner hasked
    (fun base checkedAt hbase hreading hroom => ?_) ?_ ?_
  · exact {
      valid := hvalid
      config_mem := hconfig.1
      config_keys := hconfig.2
      channel_mem := hchannel.1
      channel_keys := hchannel.2
      identified := ⟨hident.user_from, hident.users, hasked⟩
      account := by
        cases claimed with
        | some claimed => simpa only [AccountFrom, ht] using hbase
        | none => simpa only [AccountFrom, ht, haccounts] using hbase
      answer := hanswer
      room := hroom
      verdict := hverdict
      reading := hreading }
  · rw [← hconfigs, ← ht] at hconfig
    exact hconfig
  · rw [← hchannels, ← ht] at hchannel
    exact hchannel

/-- How a submission goes, whatever it finds. -/
theorem meets_submitted {ttl : TimeDelta} {providerType : ProviderType} (s : Submission)
    (hw : w.Sound) (hconflict : w.conflict = none) :
    Meets G (submitUid ttl providerType w.tenantId s.telegramUserId s.market s.rawUid s.username
        s.firstName)
      (Submitted G ttl providerType s w) (fun _ => SubmitError G w) w := by
  unfold submitUid ReferralProgramConfigRepository.getFor TelegramChannelRepository.getForMarket
  change Meets G (if (!isValidBitunixUid s.uid) = true then _ else _) _ _ w
  by_cases huid : isValidBitunixUid s.uid = true
  swap
  · rw [if_pos (by simpa using huid)]
    exact .invalid (eq_false_of_ne_true huid)
  rw [if_neg (by simpa using huid), meets_bind]
  refine meets_selectOneOrNone (fun _ config hconfig => ?_) fun _ => .inl rfl
  rw [meets_bind]
  refine meets_selectOneOrNone (fun _ channel hchannel => ?_) fun _ => .inl rfl
  cases config with
  | none =>
    refine .notConfigured huid ?_
    rintro ⟨⟨r, hr, ht, hp, hm, -⟩, -⟩
    have := hconfig r hr
    simp [World.inScope, rowTenant, ht, hp, hm] at this
  | some config =>
    have hkeys := World.inScope_cond hconfig.2.1
    simp only [Bool.and_eq_true, beq_iff_eq] at hkeys
    cases channel with
    | none =>
      refine .notConfigured huid ?_
      rintro ⟨-, r, hr, ht, hm, hactive⟩
      have := hchannel r hr
      simp [World.inScope, rowTenant, ht, hm, hactive] at this
    | some channel =>
      have hchan := World.inScope_cond hchannel.2.1
      simp only [Bool.and_eq_true, beq_iff_eq] at hchan
      by_cases hactive : config.isActive = true
      swap
      · simp only [hactive, Bool.not_false, if_true]
        refine .notConfigured huid ?_
        rintro ⟨⟨r, hr, ht, hp, hm, hr'⟩, -⟩
        -- It is the only program of the market.
        have heq : r = config := hconfig.2.2 r hr (by simp [World.inScope, rowTenant, ht, hp, hm])
        exact hactive (heq ▸ hr')
      simp only [hactive, Bool.not_true, Bool.false_eq_true, if_false]
      exact meets_enroll hw hconflict huid ⟨hconfig.1, hkeys.1.1, hkeys.1.2, hkeys.2, hactive⟩
        ⟨hchannel.1, hchan.1.1, hchan.1.2, hchan.2⟩

/-- What it has done by then, in short. -/
theorem Submitted.result {ttl : TimeDelta} {providerType : ProviderType} {s : Submission}
    {r : OnboardingResult} {w' : World} (h : Submitted G ttl providerType s w r w') :
    SubmitResult G ttl providerType s.market w r w' ∧ Told s.telegramUserId r w' := by
  have hsame : w.SameBut PRELIMINARY w := ⟨fun _ _ => rfl, rfl, rfl⟩
  have hsaved : ∀ {a : Attempt} {account : ReferralAccount} {w₁ w₂ : World},
      a.Holds G providerType s w w₁ → AccountSaved w₁ account a.claimed w₂ →
      w.SameBut PRELIMINARY w₂ := fun ha hrec =>
    (ha.identified.same.mono (by decide)).trans (hrec.same.mono (by decide))
  cases h with
  | invalid _ | notConfigured _ _ => exact ⟨.quiet rfl hsame, .of_none rfl rfl⟩
  | claimed _ _ hident _ _ _ _ _ =>
    exact ⟨.quiet rfl (hident.same.mono (by decide)), .of_none rfl rfl⟩
  | unavailable ha _ hrec => exact ⟨.quiet rfl (hsaved ha hrec), .of_none rfl rfl⟩
  | rejected ha _ _ hrec =>
    refine ⟨.quiet rfl (hsaved ha hrec), .of_none rfl ?_⟩
    dsimp only
    split <;> rfl
  | @granted a _ g _ _ _ _ ha _ hrec hg hfor =>
    have hresult : SubmitResult G ttl providerType s.market w (g.result a.verdict s.uid) w' :=
      .granted (hg.before (hsaved ha hrec)) rfl rfl
    refine ⟨hresult, fun link _ => ?_, fun _ => Option.some_ne_none _⟩
    have husers := hfor.users.trans (hrec.same.view .telegramUsers (by decide))
    have htenant := hresult.tenantId.trans ha.identified.same.tenantId.symm
    refine ⟨_, ha.identified.isUser.congr htenant husers, ?_⟩
    rw [← hfor.userId_eq]
    exact hg.handed

/-- A submission, and whom it tells its link. -/
theorem meets_submission {ttl : TimeDelta} {providerType : ProviderType} {telegramUserId : Int}
    {market : Market} {rawUid : String} {username firstName : Option String} (hw : w.Sound)
    (hconflict : w.conflict = none) :
    Meets G (submitUid ttl providerType w.tenantId telegramUserId market rawUid username
        firstName)
      (fun r w' => SubmitResult G ttl providerType market w r w' ∧ Told telegramUserId r w')
      (fun _ => SubmitError G w) w :=
  meets_mono (meets_submitted ⟨telegramUserId, market, rawUid, username, firstName⟩ hw hconflict)
    (fun _ _ h => h.result) fun _ _ h => h

theorem meets_submitUid {ttl : TimeDelta} {providerType : ProviderType} {telegramUserId : Int}
    {market : Market} {rawUid : String} {username firstName : Option String} (hw : w.Sound)
    (hconflict : w.conflict = none) :
    Meets G (submitUid ttl providerType w.tenantId telegramUserId market rawUid username
        firstName)
      (SubmitResult G ttl providerType market w) (fun _ => SubmitError G w) w :=
  meets_mono (meets_submission hw hconflict) (fun _ _ h => h.1) fun _ _ h => h

end Rules

end VipChannel

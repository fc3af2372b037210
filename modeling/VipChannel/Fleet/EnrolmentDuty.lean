/-
  VipChannel.Fleet.EnrolmentDuty

  What a submission owes: it mints for the user who submits, when it has seen the account of
  the UID to be that user's; and a link it returns comes from a transaction that has seen so.
-/
import VipChannel.Domain.UidScripts
import VipChannel.Fleet.Consistency
import VipChannel.Fleet.SweepDuty

namespace VipChannel

open Lib
open Program (perform raising UsesOnly usesOnly_bind usesOnly_tryCatch usesOnly_perform
  usesOnly_raising)

/-- The UID a message submits, as it is looked up. -/
def IncomingUpdate.enrolment (incoming : IncomingUpdate) : Enrolment where
  providerType := .bitunix
  uid := normalizeUid (String.ofList (strip (incoming.text.getD "").toList))
  telegramUserId := incoming.userId

namespace Shift

section Rules

variable {α β : Type} {who : Option Enrolment} {s : Shift}

/-- Going on after a quiet program that leaves more than it found. -/
theorem wp_grows_bind {p : App α} {f : α → App β} (hp : p.UsesOnly Op.quiet)
    (hf : ∀ a s', s.Keeps s' → wp (machine who) (f a) (fun _ s'' => s'.Grows s'') s') :
    wp (machine who) (p >>= f) (fun _ s' => s.Grows s') s := by
  refine wp_quiet_bind hp (fun _ _ hs' => hs'.toGrows) fun a s' hs' => ?_
  exact wp_mono (fun _ _ h => hs'.toGrows.trans h) (hf a s' hs')

/-- A message leaves a transaction with what it has. -/
theorem grows_telegram (d : Decision) (call : TelegramCall) (about : Option Concern)
    (landed : Bool) : s.Grows (s.after d (.telegram call about) landed) :=
  grows_after (Op.continues id fun h => by cases h)

theorem wp_grows {p : App α} (hp : p.UsesOnly Op.quiet) :
    wp (machine who) p (fun _ s' => s.Grows s') s :=
  wp_mono (fun _ _ h => h.toGrows) (wp_quiet hp)

end Rules

section Statements

variable {t : Table}

theorem quiet_saveLoaded (which : Row t → Bool) : (saveLoaded t which).UsesOnly Op.quiet := by
  refine usesOnly_bind (quiet_call trivial) fun _ => ?_
  refine usesOnly_bind (quiet_call trivial) fun rows => ?_
  cases rows with
  | nil => trivial
  | cons r rest => trivial

theorem quiet_saveNew (ht : t ≠ .webhookRoutes) (which : Row t → Bool) (row : Row t) :
    (saveNew t which row).UsesOnly Op.quiet :=
  usesOnly_bind (quiet_call ht) fun _ => quiet_saveLoaded which

theorem quiet_listAll (tenantId : TenantId) : (listAll t tenantId).UsesOnly Op.quiet :=
  usesOnly_bind (quiet_call trivial) fun _ => trivial

end Statements

/-! ## The parts of a submission -/

namespace ReferralOnboardingService

open VipChannel.ReferralOnboardingService

section Parts

variable {who : Option Enrolment} {s : Shift} {A : TenantId}

/-- The user is the one of the Telegram id. -/
theorem wp_ensureUser {telegramUserId : Int} {username firstName : Option String} :
    wp (machine who) (ensureUser A telegramUserId username firstName) (fun r s' => s.Keeps s' ∧
      ∀ user, r = .ok user → .user user.id A telegramUserId ∈ s'.known) s := by
  have hfailed : ∀ (e : PyError) (s' : Shift), s.Keeps s' → s.Keeps s' ∧ ∀ user,
      (Except.error e : Except PyError TelegramUser) = .ok user →
      .user user.id A telegramUserId ∈ s'.known :=
    fun e s' hs' => ⟨hs', fun user h => by cases h⟩
  unfold ensureUser TelegramUserRepository.getByTelegramId
  rw [wp_bind]
  refine wp_selectOneOrNone hfailed (fun s₁ hs₁ => ?_) fun user s₁ hsaw => ?_
  · rw [bindPost_ok]
    refine wp_quiet_bind (quiet_call trivial) (fun e s₂ hs₂ => hfailed e s₂ (hs₁.trans hs₂))
      fun id s₂ hs₂ => ?_
    have hkeeps := hs₁.trans hs₂
    refine wp_saveNew (by decide) (fun e s₃ hs₃ => hfailed e s₃ (hkeeps.trans hs₃))
      fun user s₃ hs₃ hid hclaim => ⟨hkeeps.trans hs₃, fun user' h => ?_⟩
    cases h
    have hid : user.id = id := by simpa using hid
    rw [hid]
    exact (hclaim _ rfl).1
  · rw [bindPost_ok]
    obtain ⟨-, hcond⟩ := hsaw.scope user List.mem_cons_self
    have hseen := hsaw.seen user List.mem_cons_self _ rfl
    rw [Bool.and_eq_true, beq_iff_eq, beq_iff_eq] at hcond
    have hrename : (update .telegramUsers (fun r => r.id == user.id)
        (renameUser username firstName)).UsesOnly Op.quiet := quiet_call fun _ => rfl
    refine wp_quiet_bind hrename (fun e s₂ hs₂ => hfailed e s₂ (hsaw.toKeeps.trans hs₂))
      fun _ s₂ hs₂ => ⟨hsaw.toKeeps.trans hs₂, fun user' h => ?_⟩
    cases h
    rw [hcond.1, hcond.2] at hseen
    exact hs₂.known _ hseen

/-- The account is the user's when it was, or when it is new. -/
theorem wp_saveAccount {userId : RowId} {providerType : ProviderType} {market : Market}
    {uid : String} {claimed : Option ReferralAccount} {change : ReferralAccount → ReferralAccount}
    (hclaimed : ∀ account, claimed = some account →
      .account A providerType uid userId ∈ s.known)
    (hchange : ∀ r, rowClaim .referralAccounts (change r) = rowClaim .referralAccounts r) :
    wp (machine who) (saveAccount A userId providerType market uid claimed change)
      (fun r s' => s.Keeps s' ∧ ∀ account, r = .ok account →
        .account A providerType uid userId ∈ s'.known) s := by
  have hfailed : ∀ (e : PyError) (s' : Shift), s.Keeps s' → s.Keeps s' ∧ ∀ account,
      (Except.error e : Except PyError ReferralAccount) = .ok account →
      .account A providerType uid userId ∈ s'.known :=
    fun e s' hs' => ⟨hs', fun account h => by cases h⟩
  cases claimed with
  | some account =>
    have hknown := hclaimed account rfl
    have hupdate : (update .referralAccounts (fun r => r.id == account.id) change).UsesOnly
        Op.quiet := quiet_call hchange
    refine wp_mono ?_ (wp_quiet (usesOnly_bind hupdate fun _ => quiet_saveLoaded _))
    exact fun r s' hs' => ⟨hs', fun _ _ => hs'.known _ hknown⟩
  | none =>
    refine wp_quiet_bind (quiet_call trivial) hfailed fun id s₁ hs₁ => ?_
    refine wp_saveNew (by decide) (fun e s₂ hs₂ => hfailed e s₂ (hs₁.trans hs₂))
      fun account s₂ hs₂ _ hclaim => ⟨hs₁.trans hs₂, fun _ _ => ?_⟩
    exact (hclaim _ (hchange _)).1

theorem quiet_ensureSubscription (userId : RowId) (market : Market) :
    (ensureSubscription A userId market).UsesOnly Op.quiet := by
  refine usesOnly_bind (usesOnly_bind (quiet_call trivial) fun _ => trivial) fun existing => ?_
  cases existing with
  | some existing =>
    exact usesOnly_bind (quiet_nowOr _) fun _ =>
      usesOnly_bind (quiet_call fun _ => rfl) fun _ => trivial
  | none =>
    refine usesOnly_bind (quiet_call trivial) fun _ => ?_
    refine usesOnly_bind (quiet_call trivial) fun _ => ?_
    exact quiet_saveNew (by decide) _ _

theorem quiet_ensureMembership (userId channelId subscriptionId : RowId) :
    (ensureMembership A userId channelId subscriptionId).UsesOnly Op.quiet := by
  refine usesOnly_bind (usesOnly_read Op.quiet_of_reads _) fun existing => ?_
  cases existing with
  | some existing => exact usesOnly_bind (quiet_call fun _ => rfl) fun _ => trivial
  | none =>
    refine usesOnly_bind (quiet_call trivial) fun _ => ?_
    refine usesOnly_bind (quiet_call trivial) fun _ => ?_
    exact quiet_saveNew (by decide) _ _

/-- An invite is minted for who is known to own the account. -/
theorem wp_issue {e : Enrolment} {userId : RowId} {ttl : TimeDelta} {membership : VIPMembership}
    {channel : TelegramChannel} {now : Option DateTime} (hwho : who = some e)
    (ht : s.tenantId = A) (hknown : e.Backed A userId s.known) :
    wp (machine who) (InviteService.issue ttl A membership channel now)
      (fun _ s' => s.Grows s') s := by
  unfold InviteService.issue
  refine wp_grows_bind (quiet_nowOr now) fun moment s₁ hs₁ => ?_
  refine wp_grows_bind ((usesOnly_raising _).mpr trivial) fun live s₂ hs₂ => ?_
  cases live with
  | some existing => exact .refl s₂
  | none =>
    dsimp only
    refine wp_grows_bind ((usesOnly_raising _).mpr trivial) fun expireDate s₃ hs₃ => ?_
    have hkeeps := (hs₁.trans hs₂).trans hs₃
    unfold TelegramBotProvider.createInviteLink
    rw [wp_bind, wp_perform]
    refine ⟨⟨fun p hp => (by cases hp), fun _ => ⟨e, userId, hwho, ?_⟩⟩, ?_⟩
    · rw [hkeeps.tenantId, ht]
      exact hknown.mono hkeeps.known
    rintro r s₄ ⟨d, -, -, rfl⟩
    have hsent := grows_telegram (s := s₃) d
      (.createChatInviteLink channel.chatId 1 ((some expireDate).map DateTime.timestampSeconds)
        (some ("vip-" ++ toString membership.userId))) (some (.invite membership.id)) r.isOk
    cases r with
    | error e => exact hsent
    | ok link =>
      rw [bindPost_ok]
      refine wp_mono (fun _ _ h => hsent.trans h) (wp_grows ?_)
      exact usesOnly_bind (quiet_call fun _ => rfl) fun _ => trivial

theorem wp_grant {e : Enrolment} {userId : RowId} {ttl : TimeDelta} {market : Market}
    {uid : String} {channel : TelegramChannel} {verdict : EligibilityVerdict}
    (hwho : who = some e) (ht : s.tenantId = A) (hknown : e.Backed A userId s.known) :
    wp (machine who) (grant ttl A userId market uid channel verdict)
      (fun _ s' => s.Grows s') s := by
  unfold grant
  refine wp_grows_bind (quiet_ensureSubscription _ _) fun subscription s₁ hs₁ => ?_
  refine wp_grows_bind (quiet_ensureMembership _ _ _) fun membership s₂ hs₂ => ?_
  have hkeeps := hs₁.trans hs₂
  rw [wp_bind]
  refine wp_mono ?_ (wp_issue hwho (hkeeps.tenantId.trans ht) (hknown.mono hkeeps.known))
  rintro (err | issued) s₃ hs₃
  · exact hs₃
  · rw [bindPost_ok]
    refine wp_mono (fun _ _ h => hs₃.trans h) (wp_grows ?_)
    exact usesOnly_bind (quiet_saveLoaded _) fun _ => trivial

/-- A link that is returned is for who is known to own the account. -/
def Vouches (e : Enrolment) (A : TenantId) (r : Except PyError OnboardingResult) (s : Shift) :
    Prop :=
  ∀ result link, r = .ok result → result.inviteLink = some link →
    ∃ userId, e.Backed A userId s.known

theorem vouches_error {e : Enrolment} (err : PyError) (s : Shift) :
    Vouches e A (.error err) s := by
  intro result link h
  cases h

/-- Nor does a result without a link promise anything. -/
theorem vouches_none {e : Enrolment} {result : OnboardingResult} (h : result.inviteLink = none)
    (s : Shift) : Vouches e A (.ok result) s := by
  intro result' link heq hlink
  cases heq
  rw [h] at hlink
  cases hlink

theorem wp_settle {e : Enrolment} {userId : RowId} {ttl : TimeDelta} {market : Market}
    {channel : TelegramChannel} {claimed : Option ReferralAccount} {check : Option ReferralCheck}
    {verdict : EligibilityVerdict} (hwho : who = some e) (ht : s.tenantId = A)
    (huser : .user userId A e.telegramUserId ∈ s.known)
    (hclaimed : ∀ account, claimed = some account →
      .account A e.providerType e.uid userId ∈ s.known) :
    wp (machine who)
      (settle ttl A e.providerType market e.uid channel userId claimed check verdict)
      (Vouches e A) s := by
  unfold settle
  refine wp_quiet_bind (quiet_call trivial) (fun err s' _ => vouches_error err s')
    fun checkedAt s₁ hs₁ => ?_
  have hclaimed₁ : ∀ {s' : Shift}, s.Keeps s' → ∀ account, claimed = some account →
      .account A e.providerType e.uid userId ∈ s'.known :=
    fun hs' account h => hs'.known _ (hclaimed account h)
  -- A balance without room ends the submission before anything is known of it.
  have hroom : (raising (balanceColumn check verdict) : App Unit).UsesOnly Op.quiet :=
    (usesOnly_raising _).mpr trivial
  dsimp only
  split
  · rw [wp_bind]
    refine wp_quiet_bind hroom (fun err s' _ => vouches_error err s') fun _ s₂ hs₂ => ?_
    refine wp_mono ?_ (wp_saveAccount (hclaimed₁ (hs₁.trans hs₂)) fun _ => rfl)
    rintro (err | account) s₃ -
    · exact vouches_error err s₃
    · exact vouches_none rfl s₃
  split
  · rw [wp_bind]
    refine wp_quiet_bind hroom (fun err s' _ => vouches_error err s') fun _ s₂ hs₂ => ?_
    refine wp_mono ?_ (wp_saveAccount (hclaimed₁ (hs₁.trans hs₂)) fun _ => rfl)
    rintro (err | account) s₃ -
    · exact vouches_error err s₃
    · exact vouches_none rfl s₃
  · refine wp_quiet_bind (quiet_call trivial) (fun err s' _ => vouches_error err s')
      fun verifiedAt s₂ hs₂ => ?_
    rw [wp_bind]
    refine wp_quiet_bind hroom (fun err s' _ => vouches_error err s') fun _ s₃ hs₃ => ?_
    have hkeeps := (hs₁.trans hs₂).trans hs₃
    refine wp_mono ?_ (wp_saveAccount (hclaimed₁ hkeeps) fun _ => rfl)
    rintro (err | account) s₄ ⟨hs₄, haccount⟩
    · exact vouches_error err s₄
    rw [bindPost_ok]
    have hbacked : e.Backed A userId s₄.known :=
      ⟨(hkeeps.trans hs₄).known _ huser, haccount account rfl⟩
    refine wp_mono ?_ (wp_grant hwho ((hkeeps.trans hs₄).tenantId.trans ht) hbacked)
    exact fun r s₅ hs₅ result link _ _ => ⟨userId, hbacked.mono hs₅.known⟩

theorem wp_enroll {e : Enrolment} {ttl : TimeDelta} {market : Market}
    {username firstName : Option String} {config : ReferralProgramConfig}
    {channel : TelegramChannel} (hwho : who = some e) (ht : s.tenantId = A) :
    wp (machine who)
      (enroll ttl A e.providerType e.telegramUserId market e.uid username firstName config channel)
      (Vouches e A) s := by
  unfold enroll
  rw [wp_bind]
  refine wp_mono ?_ wp_ensureUser
  rintro (err | user) s₁ ⟨hs₁, huser⟩
  · exact vouches_error err s₁
  rw [bindPost_ok]
  have huser := huser user rfl
  unfold ReferralAccountRepository.getByUid
  -- The account is looked up; the rest is the same whether there is one or not.
  have hrest : ∀ claimed s₂, s₁.Keeps s₂ →
      (∀ account, claimed = some account → account.userId = user.id →
        .account A e.providerType e.uid user.id ∈ s₂.known) →
      wp (machine who) (if claimed.any fun account => account.userId != user.id then
          return { outcome := .uidClaimedByAnotherUser, uid := some e.uid }
        else do
          let check ← checkUser e.uid
          let verdict ← raising (evaluateReferral check config.rules false)
          settle ttl A e.providerType market e.uid channel user.id claimed check verdict)
        (Vouches e A) s₂ := by
    intro claimed s₂ hs₂ hclaimed
    split
    · exact vouches_none rfl s₂
    next hmine =>
    refine wp_quiet_bind (quiet_checkUser _) (fun err s' _ => vouches_error err s')
      fun check s₃ hs₃ => ?_
    refine wp_quiet_bind ((usesOnly_raising _).mpr trivial) (fun err s' _ => vouches_error err s')
      fun verdict s₄ hs₄ => ?_
    have hkeeps := (hs₂.trans hs₃).trans hs₄
    refine wp_settle hwho ((hs₁.trans hkeeps).tenantId.trans ht) (hkeeps.known _ huser)
      fun account haccount => (hs₃.trans hs₄).known _ (hclaimed account haccount ?_)
    rw [haccount] at hmine
    simpa using hmine
  rw [wp_bind]
  refine wp_selectOneOrNone (fun err s' _ => vouches_error err s') (fun s₂ hs₂ => ?_)
    fun account s₂ hsaw => ?_
  · refine hrest none s₂ hs₂ fun account h => ?_
    cases h
  · refine hrest (some account) s₂ hsaw.toKeeps fun account' h hmine => ?_
    cases h
    obtain ⟨-, hcond⟩ := hsaw.scope account List.mem_cons_self
    have hseen := hsaw.seen account List.mem_cons_self _ rfl
    rw [Bool.and_eq_true, Bool.and_eq_true, beq_iff_eq, beq_iff_eq, beq_iff_eq] at hcond
    obtain ⟨⟨htenant, hprovider⟩, huid⟩ := hcond
    rw [htenant, hprovider, huid, hmine] at hseen
    exact hseen

theorem wp_submitUid {e : Enrolment} {ttl : TimeDelta} {market : Market} {rawUid : String}
    {username firstName : Option String} (hwho : who = some e) (huid : e.uid = normalizeUid rawUid)
    (ht : s.tenantId = A) :
    wp (machine who)
      (submitUid ttl e.providerType A e.telegramUserId market rawUid username firstName)
      (Vouches e A) s := by
  unfold submitUid ReferralProgramConfigRepository.getFor TelegramChannelRepository.getForMarket
  rw [← huid]
  dsimp only
  split
  · exact vouches_none rfl s
  refine wp_quiet_bind (usesOnly_read Op.quiet_of_reads _) (fun err s' _ => vouches_error err s')
    fun config s₁ hs₁ => ?_
  refine wp_quiet_bind (usesOnly_read Op.quiet_of_reads _) (fun err s' _ => vouches_error err s')
    fun channel s₂ hs₂ => ?_
  cases config with
  | none => exact vouches_none rfl s₂
  | some config =>
    cases channel with
    | none => exact vouches_none rfl s₂
    | some channel =>
      dsimp only
      split
      · exact vouches_none rfl s₂
      · exact wp_enroll hwho ((hs₁.trans hs₂).tenantId.trans ht)

end Parts

end ReferralOnboardingService

/-- A submission whose link is returned has committed what it knew of the account. -/
theorem wp_submitTx {e : Enrolment} {s : Shift} {A : TenantId} {ttl : TimeDelta} {market : Market}
    {rawUid : String} {username firstName : Option String} (huid : e.uid = normalizeUid rawUid) :
    wp (machine (some e))
      (submitTx ttl e.providerType A e.telegramUserId market rawUid username firstName)
      (fun r s' => ∀ result, r = .ok (some result) → ∀ link, result.inviteLink = some link →
        ∃ userId, e.Backed A userId s'.vouched) s := by
  refine wp_withSession (wp_committed (Q := fun (result : OnboardingResult) s' => ∀ link,
    result.inviteLink = some link → ∃ userId, e.Backed A userId s'.vouched) ?_)
  refine wp_mono ?_ (ReferralOnboardingService.wp_submitUid rfl huid rfl)
  intro r s' hvouches result hr link hlink
  obtain ⟨userId, hbacked⟩ := hvouches result link hr hlink
  refine ⟨userId, hbacked.mono fun c hc => ?_⟩
  show c ∈ s'.vouched ++ (s'.known ++ s'.pending)
  exact List.mem_append_right _ (List.mem_append_left _ hc)

/-! ## The conversation -/

section Conversation

variable {s : Shift} {A : TenantId} {ttl : TimeDelta} {incoming : IncomingUpdate}

namespace BotConversation

open VipChannel.BotConversation

theorem quiet_availableMarkets (providerType : ProviderType) :
    (availableMarkets providerType A).UsesOnly Op.quiet :=
  usesOnly_bind (quiet_listAll A) fun _ => usesOnly_bind (quiet_listAll A) fun _ => trivial

theorem quiet_ensureUser (incoming : IncomingUpdate) :
    (ensureUser A incoming).UsesOnly Op.quiet := by
  refine usesOnly_bind (usesOnly_read Op.quiet_of_reads _) fun user => ?_
  cases user with
  | none =>
    exact usesOnly_bind (quiet_call trivial) fun id => quiet_saveNew (by decide) _ _
  | some user => trivial

theorem quiet_offerReferralLink (providerType : ProviderType) (incoming : IncomingUpdate)
    (market : Market) : (offerReferralLink providerType A incoming market).UsesOnly Op.quiet := by
  refine usesOnly_bind (usesOnly_read Op.quiet_of_reads _) fun config => ?_
  cases config with
  | none => trivial
  | some config =>
    dsimp only
    split
    · trivial
    refine usesOnly_bind (quiet_ensureUser incoming) fun user => ?_
    exact usesOnly_bind (quiet_call fun _ => rfl) fun _ => trivial

theorem quiet_start (providerType : ProviderType) (incoming : IncomingUpdate) :
    (start providerType A incoming).UsesOnly Op.quiet := by
  refine usesOnly_bind (quiet_availableMarkets providerType) fun markets => ?_
  split
  · trivial
  · exact quiet_offerReferralLink _ _ _
  · trivial

theorem wp_submit {e : Enrolment} {market : Market} {uid : String} (huid : e.uid = normalizeUid uid)
    (htelegram : e.telegramUserId = incoming.userId) (ht : s.tenantId = A) :
    wp (machine (some e)) (submit ttl e.providerType A incoming market uid)
      (fun _ _ => True) s := by
  unfold submit ReferralProgramConfigRepository.getFor
  refine wp_quiet_bind (usesOnly_read Op.quiet_of_reads _) (fun _ _ _ => trivial)
    fun config s₁ hs₁ => ?_
  dsimp only
  rw [← htelegram, wp_bind]
  refine wp_mono ?_ (ReferralOnboardingService.wp_submitUid rfl huid (hs₁.tenantId.trans ht))
  rintro (err | result) s₂ -
  · trivial
  · exact wp_blameless (usesOnly_bind ((usesOnly_raising _).mpr trivial) fun _ => trivial)

theorem wp_handleUid (ht : s.tenantId = A) :
    wp (machine (some incoming.enrolment)) (handleUid ttl .bitunix A incoming
      (String.ofList (strip (incoming.text.getD "").toList))) (fun _ _ => True) s := by
  have hsubmit : ∀ {market : Market} {s : Shift}, s.tenantId = A →
      wp (machine (some incoming.enrolment)) (submit ttl .bitunix A incoming market
        (normalizeUid (String.ofList (strip (incoming.text.getD "").toList))))
        (fun _ _ => True) s :=
    fun ht => wp_submit (e := incoming.enrolment) (normalizeUid_normalizeUid _).symm rfl ht
  unfold handleUid TelegramUserRepository.getByTelegramId
  dsimp only
  split
  · trivial
  refine wp_quiet_bind (usesOnly_read Op.quiet_of_reads _) (fun _ _ _ => trivial)
    fun user s₁ hs₁ => ?_
  split
  · exact hsubmit (hs₁.tenantId.trans ht)
  refine wp_quiet_bind (quiet_availableMarkets _) (fun _ _ _ => trivial) fun markets s₂ hs₂ => ?_
  split
  · exact hsubmit ((hs₁.trans hs₂).tenantId.trans ht)
  · exact wp_blameless (quiet_blameless (quiet_start _ _))

theorem wp_handle (ht : s.tenantId = A) :
    wp (machine (some incoming.enrolment)) (handle ttl .bitunix A incoming)
      (fun _ _ => True) s := by
  unfold handle
  split
  · split
    · trivial
    · exact wp_blameless (quiet_blameless (quiet_offerReferralLink _ _ _))
  · dsimp only
    split
    · exact wp_blameless (quiet_blameless (quiet_start _ _))
    split
    · exact wp_handleUid ht
    · trivial

end BotConversation

namespace TelegramWebhook

open VipChannel.TelegramWebhook

theorem blameless_deliver (chatId : Int) (text : String) :
    (deliver chatId text).UsesOnly Op.blameless := by
  unfold deliver TelegramBotProvider.sendMessage
  refine usesOnly_tryCatch ?_ fun e => ?_
  · rw [usesOnly_perform]
    exact ⟨rfl, id⟩
  · split <;> trivial

theorem blameless_respond (chatId : Int) (replies : Option (List Reply)) :
    (respond chatId replies).UsesOnly Op.blameless := by
  cases replies with
  | none => exact blameless_deliver _ _
  | some replies =>
    show (deliverAll chatId replies).UsesOnly Op.blameless
    induction replies with
    | nil => trivial
    | cons reply rest ih => exact usesOnly_bind (blameless_deliver _ _) fun _ => ih

theorem wp_process {key : EncryptionKey} :
    wp (machine (some incoming.enrolment)) (process key ttl A incoming) (fun _ _ => True) s := by
  unfold process
  refine wp_withSession ?_
  rw [configured_eq]
  refine wp_quiet_bind (usesOnly_configured Op.quiet_of_reads _ _ _) (fun _ _ _ => trivial)
    fun configured s' hs' => ?_
  cases configured with
  | false => trivial
  | true =>
    rw [if_pos rfl, wp_bind]
    refine wp_mono ?_ (wp_committed_true (BotConversation.wp_handle hs'.tenantId))
    rintro (e | replies) s'' -
    · trivial
    · exact wp_blameless (blameless_respond _ _)

/-- An update mints for its sender alone, for the UID it names. -/
theorem wp_receiveUpdate {key : EncryptionKey} {token : String} :
    wp (machine (some incoming.enrolment)) (receiveUpdate key ttl token (some incoming))
      (fun _ _ => True) s := by
  unfold receiveUpdate route
  rw [wp_bind]
  refine wp_mono (Q := fun _ _ => True) ?_ (wp_blameless ?_)
  · rintro (e | tenantId) s' -
    · trivial
    rw [bindPost_ok]
    cases tenantId with
    | none => trivial
    | some tenantId =>
      dsimp only
      split
      · trivial
      · exact wp_process
  · refine usesOnly_bind ?_ fun _ => (usesOnly_raising _).mpr trivial
    rw [usesOnly_perform]
    trivial

end TelegramWebhook

end Conversation

end Shift

end VipChannel

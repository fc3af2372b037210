/-
  VipChannel.Runs.Dispatch

  The chat and the onboarding service read the same UID in a text: what the flow takes
  for a UID is what a submission takes for one, and both normalize it to the same string.
-/
import VipChannel.Services.MarketChoice
import VipChannel.Domain.UidScripts
import VipChannel.Runs.Access
import VipChannel.Runs.Updates

namespace VipChannel

open Lib
open Program (perform raising)

/-! ## The text and its strip -/

theorem filter_dropWhile {p q : Char → Bool} (h : ∀ c, q c = true → p c = false)
    (s : List Char) : (s.dropWhile q).filter p = s.filter p := by
  induction s with
  | nil => rfl
  | cons c s ih =>
    by_cases hc : q c = true
    · rw [List.dropWhile_cons_of_pos hc, ih, List.filter_cons_of_neg (by simp [h c hc])]
    · rw [List.dropWhile_cons_of_neg hc]

/-- Stripping drops nothing that is kept. -/
theorem kept_strip (t : String) : kept (String.ofList (strip t.toList)) = kept t := by
  have hspace : ∀ c, isSpace c = true → (!isSeparator c) = false := by
    intro c hc
    simp [isSeparator, hc]
  unfold kept strip
  rw [String.toList_ofList, List.filter_reverse, filter_dropWhile hspace, List.filter_reverse,
    List.reverse_reverse, filter_dropWhile hspace]

theorem normalizeUid_strip (t : String) :
    normalizeUid (String.ofList (strip t.toList)) = normalizeUid t := by
  rw [normalizeUid_eq, normalizeUid_eq, kept_strip]

section Dispatch

variable {t : String} (hvalid : isValidBitunixUid (normalizeUid t) = true)
include hvalid

/-- A text with a valid UID is not a command. -/
theorem not_start_of_valid : "/start".toList.isPrefixOf (strip t.toList) = false := by
  by_contra hstart
  rw [Bool.not_eq_false, List.isPrefixOf_iff_prefix] at hstart
  obtain ⟨rest, hrest⟩ := hstart
  -- The slash would be kept, and is no digit.
  have hslash : '/' ∈ kept t := by
    rw [← kept_strip, kept, String.toList_ofList, ← hrest, List.mem_filter]
    exact ⟨by simp, by decide⟩
  have hdigit := (isValid_normalizeUid_iff.mp hvalid).2 '/' hslash
  exact absurd hdigit (by decide)

/-- It passes the gate of the flow. -/
theorem isDigits_of_valid : strip t.toList ≠ [] ∧ isDigits (normalizeUid t).toList = true := by
  obtain ⟨hlen, hdigits⟩ := isValid_normalizeUid_iff.mp hvalid
  have hne : kept t ≠ [] := by
    rintro hnil
    rw [hnil] at hlen
    cases hlen
  constructor
  · intro hnil
    have hkept := kept_strip t
    rw [hnil] at hkept
    exact hne hkept.symm
  · rw [normalizeUid_eq, String.toList_ofList, isDigits, Bool.and_eq_true]
    constructor
    · simpa using hne
    · simp only [List.all_eq_true, List.forall_mem_map, Bool.or_eq_true]
      intro c hc
      rw [isDecimalDigit_foldDigit]
      exact .inl (hdigits c hc)

end Dispatch

namespace BotConversation

variable {ttl : TimeDelta} {providerType : ProviderType} {tenantId : TenantId}
  {incoming : IncomingUpdate}

/-- A text with a valid UID goes to `_handle_uid`. -/
theorem handle_of_valid (hcallback : incoming.callbackData = none)
    (hvalid : isValidBitunixUid (normalizeUid (incoming.text.getD "")) = true) :
    handle ttl providerType tenantId incoming =
      handleUid ttl providerType tenantId incoming
        (String.ofList (strip (incoming.text.getD "").toList)) := by
  have hgate := isDigits_of_valid hvalid
  have hnone : callbackMarket incoming.callbackData = none := by rw [hcallback]; rfl
  unfold handle
  rw [hnone]
  dsimp only
  rw [if_neg (by rw [not_start_of_valid hvalid]; decide), normalizeUid_strip, if_pos hgate]

end BotConversation

/-! ## What a submission of a normalized UID does -/

/-- The accounts of `w'` are those of `w`, or those with one saved under the UID `u`: a new
    one, or one that had it. -/
inductive SavesUnder (u : String) (w w' : World) : Prop
  | untouched : w'.view .referralAccounts = w.view .referralAccounts → SavesUnder u w w'
  | saved {account : ReferralAccount} {claimed : Option ReferralAccount} :
      Upsert ReferralAccount.id (w.view .referralAccounts) account claimed
        (w'.view .referralAccounts) → account.uid = u →
      (∀ c, claimed = some c → c.uid = u) → SavesUnder u w w'

section Submission

variable {G : World → Op → Choice → Prop} {ttl : TimeDelta} {providerType : ProviderType}
  {s : Submission} {w w' : World} {r : OnboardingResult}

theorem Attempt.Holds.base_uid {a : Attempt} {w₁ : World} (h : a.Holds G providerType s w w₁) :
    a.base.uid = s.uid ∧ ∀ c, a.claimed = some c → c.uid = s.uid := by
  have hacc := h.account
  cases hclaimed : a.claimed with
  | none =>
    rw [hclaimed] at hacc
    obtain ⟨-, id, hbase⟩ := hacc
    refine ⟨congrArg ReferralAccount.uid hbase, ?_⟩
    intro c hc
    cases hc
  | some c =>
    rw [hclaimed] at hacc
    obtain ⟨-, -, huid, -, hbase⟩ := hacc
    refine ⟨(congrArg ReferralAccount.uid hbase).trans huid, ?_⟩
    intro c' hc'
    cases hc'
    exact huid

theorem AccountSaved.savesUnder {a : Attempt} {account : ReferralAccount} {w₁ w₂ : World}
    (h : a.Holds G providerType s w w₁) (hsaved : AccountSaved w₁ account a.claimed w₂)
    (huid : account.uid = a.base.uid) : SavesUnder s.uid w w₂ := by
  obtain ⟨hbase, hclaimed⟩ := h.base_uid
  have haccounts : w₁.view .referralAccounts = w.view .referralAccounts :=
    h.identified.same.view .referralAccounts (by decide)
  have hupsert := hsaved.accounts
  rw [haccounts] at hupsert
  exact .saved hupsert (huid.trans hbase) hclaimed

/-- A submission writes accounts under its UID only. -/
theorem Submitted.savesUnder (h : Submitted G ttl providerType s w r w') :
    SavesUnder s.uid w w' := by
  cases h with
  | invalid _ | notConfigured _ _ => exact .untouched rfl
  | claimed _ _ hident => exact .untouched (hident.same.view .referralAccounts (by decide))
  | unavailable ha _ hsaved => exact hsaved.savesUnder ha rfl
  | rejected ha _ _ hsaved => exact hsaved.savesUnder ha rfl
  | granted ha _ hsaved _ hfor =>
    cases hsaved.savesUnder ha rfl with
    | untouched heq => exact .untouched (hfor.accounts.trans heq)
    | saved hupsert huid hclaimed =>
      rw [← hfor.accounts] at hupsert
      exact .saved hupsert huid hclaimed

/-- A valid UID is never answered as an invalid one. -/
theorem Submitted.outcome_ne_invalid (h : Submitted G ttl providerType s w r w')
    (hvalid : isValidBitunixUid s.uid = true) : r.outcome ≠ .invalidUid := by
  cases h with
  | invalid hinvalid =>
    rw [hvalid] at hinvalid
    cases hinvalid
  | notConfigured _ _ | claimed _ _ _ _ _ _ _ _ | unavailable _ _ _ =>
    intro h
    cases h
  | rejected _ _ _ _ =>
    intro h
    dsimp only at h
    split at h <;> cases h
  | granted _ _ _ _ _ =>
    intro h
    unfold Grant.result at h
    dsimp only at h
    split at h <;> cases h

end Submission

/-- Another text than a request for a UID or its refusal. -/
def OtherText (text : String) : Prop :=
  text ≠ Messages.ASK_FOR_UID ∧ text ≠ Messages.INVALID_UID

theorem otherText_of_front {text : String} {c : Char} (h : text.front? = some c)
    (hc : c ≠ 'ل' ∧ c ≠ 'ا') : OtherText text := by
  have hask : Messages.ASK_FOR_UID.front? = some 'ل' := by decide +kernel
  have hinvalid : Messages.INVALID_UID.front? = some 'ا' := by decide +kernel
  constructor
  · rintro rfl
    rw [hask] at h
    exact hc.1 (Option.some.inj h).symm
  · rintro rfl
    rw [hinvalid] at h
    exact hc.2 (Option.some.inj h).symm

/-- No other outcome is put into these words. -/
theorem render_otherText {r : OnboardingResult} {referralLink text : String}
    (h : render r referralLink = .ok text) (hr : r.outcome ≠ .invalidUid) : OtherText text := by
  unfold render at h
  cases hout : r.outcome with
  | invalidUid => exact absurd hout hr
  | invited =>
    simp only [hout, Except.ok.injEq] at h
    rw [← h]
    exact otherText_of_front (Messages.INVITED_front _) (by decide)
  | alreadyMember =>
    simp only [hout, Except.ok.injEq] at h
    rw [← h]
    exact otherText_of_front (Messages.ALREADY_MEMBER_front _) (by decide)
  | uidClaimedByAnotherUser =>
    simp only [hout, Except.ok.injEq] at h
    rw [← h]
    exact ⟨by decide +kernel, by decide +kernel⟩
  | notRegistered =>
    simp only [hout, Except.ok.injEq] at h
    rw [← h]
    exact otherText_of_front (Messages.NOT_REGISTERED_front _) (by decide)
  | insufficientBalance =>
    simp only [hout] at h
    cases hv : r.verdict with
    | none => simp [hv] at h
    | some verdict =>
      simp only [hv, bind, Except.bind, pure, Except.pure] at h
      split at h
      · cases h
      · split at h
        · cases h
        · split at h
          · cases h
          · split at h
            · cases h
            · cases h
              exact otherText_of_front (Messages.INSUFFICIENT_BALANCE_front _ _ _) (by decide)
  | providerUnavailable =>
    simp only [hout, Except.ok.injEq] at h
    rw [← h]
    exact ⟨by decide +kernel, by decide +kernel⟩
  | notConfigured =>
    simp only [hout, Except.ok.injEq] at h
    rw [← h]
    exact ⟨by decide +kernel, by decide +kernel⟩

/-! ## What a valid UID is answered -/

/-- The user has chosen no market. -/
def World.Undecided (w : World) (userId : Int) : Prop :=
  ∀ r ∈ w.view .telegramUsers, r.tenantId = w.tenantId → r.telegramUserId = userId →
    r.pendingMarket = none

/-- The market of a UID: the one the user was offered, or else the only one there is. -/
inductive World.Determines (w : World) (providerType : ProviderType) (userId : Int)
    (market : Market) : Prop
  | chosen {user : TelegramUser} : user ∈ w.view .telegramUsers → user.tenantId = w.tenantId →
      user.telegramUserId = userId → user.pendingMarket = some market →
      Determines w providerType userId market
  | sole : w.Undecided userId → w.view.readyMarkets w.tenantId providerType = [market] →
      Determines w providerType userId market

/-- The UID `u` is submitted for the market that is determined; where none is, the user is
    asked for it, and is told when there is none to choose. -/
inductive UidAnswer (G : World → Op → Choice → Prop) (ttl : TimeDelta)
    (providerType : ProviderType) (incoming : IncomingUpdate) (u : String) (w : World) :
    List Reply → World → Prop
  | submitted {market : Market} {r : OnboardingResult} {referralLink text : String}
      {w' : World} : w.Determines providerType incoming.userId market →
      Submitted G ttl providerType (incoming.submission market u) w r w' →
      r.outcome ≠ .invalidUid → SavesUnder u w w' → render r referralLink = .ok text →
      UidAnswer G ttl providerType incoming u w [{ text := text }] w'
  | asked {buttons : List (List Button)} : w.Undecided incoming.userId →
      2 ≤ (w.view.readyMarkets w.tenantId providerType).length →
      UidAnswer G ttl providerType incoming u w
        [{ text := Messages.CHOOSE_MARKET, replyMarkup := some buttons }] w
  | notConfigured : w.Undecided incoming.userId →
      w.view.readyMarkets w.tenantId providerType = [] →
      UidAnswer G ttl providerType incoming u w [{ text := Messages.NOT_CONFIGURED }] w

theorem CHOOSE_MARKET_front : Messages.CHOOSE_MARKET.front? = some 'ک' := by
  decide +kernel

section Answers

variable {G : World → Op → Choice → Prop} {ttl : TimeDelta} {providerType : ProviderType}
  {incoming : IncomingUpdate} {u : String} {w w' : World} {replies : List Reply}

theorem UidAnswer.otherText (h : UidAnswer G ttl providerType incoming u w replies w') :
    ∀ reply ∈ replies, OtherText reply.text := by
  intro reply hreply
  cases h with
  | submitted _ _ hvalid _ htext =>
    rw [List.mem_singleton.mp hreply]
    exact render_otherText htext hvalid
  | asked _ _ =>
    rw [List.mem_singleton.mp hreply]
    exact otherText_of_front CHOOSE_MARKET_front (by decide)
  | notConfigured _ _ =>
    rw [List.mem_singleton.mp hreply]
    exact ⟨by decide +kernel, by decide +kernel⟩

end Answers

namespace BotConversation

section Rules

variable {G : World → Op → Choice → Prop} {ttl : TimeDelta} {providerType : ProviderType}
  {incoming : IncomingUpdate} {w : World}

theorem meets_submit_uidAnswer {market : Market} {u : String} (hw : w.Sound)
    (hconflict : w.conflict = none) (hu : normalizeUid u = u)
    (hvalid : isValidBitunixUid u = true)
    (hmarket : w.Determines providerType incoming.userId market) :
    Meets G (submit ttl providerType w.tenantId incoming market u)
      (UidAnswer G ttl providerType incoming u w) (fun _ _ => True) w := by
  have huid : (incoming.submission market u).uid = u := hu
  refine meets_mono (meets_submit_rendered hw hconflict) (fun replies w' h => ?_) fun _ _ h => h
  obtain ⟨r, referralLink, text, hsub, htext, rfl⟩ := h
  have hsaves := hsub.savesUnder
  have hout := hsub.outcome_ne_invalid (huid.symm ▸ hvalid)
  rw [huid] at hsaves
  exact .submitted hmarket hsub hout hsaves htext

theorem meets_handleUid_uidAnswer {rawText : String} (hw : w.Sound)
    (hconflict : w.conflict = none) (hvalid : isValidBitunixUid (normalizeUid rawText) = true) :
    Meets G (handleUid ttl providerType w.tenantId incoming rawText)
      (UidAnswer G ttl providerType incoming (normalizeUid rawText) w) (fun _ _ => True) w := by
  have hu : normalizeUid (normalizeUid rawText) = normalizeUid rawText :=
    normalizeUid_normalizeUid rawText
  unfold handleUid TelegramUserRepository.getByTelegramId
  dsimp only
  rw [if_neg (by simpa using hvalid), meets_bind]
  refine meets_selectOneOrNone (fun _ user hfound => ?_) fun _ => trivial
  cases hpending : user.bind (·.pendingMarket) with
  | some market =>
    obtain ⟨r, rfl, hmarket⟩ := Option.bind_eq_some_iff.mp hpending
    have hcond := World.inScope_cond hfound.2.1
    simp only [Bool.and_eq_true, beq_iff_eq] at hcond
    exact meets_submit_uidAnswer hw hconflict hu hvalid
      (.chosen hfound.1 hcond.1 hcond.2 hmarket)
  | none =>
    have hnone : w.Undecided incoming.userId := not_pending_of_found hfound hpending
    dsimp only
    rw [meets_bind]
    refine meets_availableMarkets_ready hw ?_ fun _ => trivial
    -- Where no market is determined, `_start` reads the same markets once more.
    cases hmarkets : w.view.readyMarkets w.tenantId providerType with
    | nil =>
      dsimp only
      unfold start
      rw [meets_bind]
      refine meets_availableMarkets_ready hw ?_ fun _ => trivial
      rw [hmarkets]
      exact .notConfigured hnone hmarkets
    | cons market rest =>
      cases rest with
      | nil => exact meets_submit_uidAnswer hw hconflict hu hvalid (.sole hnone hmarkets)
      | cons second rest =>
        dsimp only
        unfold start
        rw [meets_bind]
        refine meets_availableMarkets_ready hw ?_ fun _ => trivial
        rw [hmarkets]
        refine .asked hnone ?_
        rw [hmarkets]
        simp

/-! ## What is submitted -/

/-- If anything is submitted, it is the UID `u`, which is valid. -/
def Plan.Submits (u : String) : Plan → Prop
  | .submit _ uid => uid = u ∧ isValidBitunixUid u = true
  | .answer _ | .offer _ _ => True

theorem meets_planOffer_submits {market : Market} {u : String} :
    Meets G (planOffer providerType w.tenantId market) (fun p _ => Plan.Submits u p)
      (fun _ _ => True) w := by
  exact meets_planOffer (fun _ => trivial) (fun _ _ => trivial) fun _ => trivial

theorem meets_planStart_submits {u : String} :
    Meets G (planStart providerType w.tenantId) (fun p _ => Plan.Submits u p)
      (fun _ _ => True) w := by
  unfold planStart
  rw [meets_bind]
  refine meets_availableMarkets (fun markets => ?_) fun _ => trivial
  match markets with
  | [] => exact trivial
  | [market] => exact meets_planOffer_submits
  | _ :: _ :: _ => exact trivial

theorem meets_planUid_submits {rawText : String} :
    Meets G (planUid providerType w.tenantId incoming rawText)
      (fun p _ => Plan.Submits (normalizeUid rawText) p) (fun _ _ => True) w := by
  unfold planUid TelegramUserRepository.getByTelegramId
  dsimp only
  by_cases hvalid : isValidBitunixUid (normalizeUid rawText) = true
  swap
  · rw [if_pos (by simpa using hvalid)]
    exact trivial
  rw [if_neg (by simpa using hvalid), meets_bind]
  refine meets_selectOneOrNone (fun _ user _ => ?_) fun _ => trivial
  cases user.bind (·.pendingMarket) with
  | some market => exact ⟨rfl, hvalid⟩
  | none =>
    dsimp only
    rw [meets_bind]
    refine meets_availableMarkets (fun markets => ?_) fun _ => trivial
    match markets with
    | [market] => exact ⟨rfl, hvalid⟩
    | [] => exact meets_planStart_submits
    | _ :: _ :: _ => exact meets_planStart_submits

/-- Whatever the text. -/
theorem meets_plan_submits (hcallback : incoming.callbackData = none) :
    Meets G (plan providerType w.tenantId incoming)
      (fun p _ => Plan.Submits (normalizeUid (incoming.text.getD "")) p) (fun _ _ => True) w := by
  have hnone : callbackMarket incoming.callbackData = none := by rw [hcallback]; rfl
  unfold plan
  rw [hnone]
  dsimp only
  split_ifs
  · exact meets_planStart_submits
  · rw [← normalizeUid_strip]
    exact meets_planUid_submits
  · exact trivial

/-- A text with a valid UID is dispatched to `_handle_uid`, which submits the UID or, where
    no market is determined, answers as `/start` does; it is neither refused nor asked for
    again.  A decision to submit (`handle_eq`) is one to submit the UID as it is normalized,
    which the service normalizes to itself. -/
theorem uid_dispatched (hw : w.Sound) (hconflict : w.conflict = none)
    (hcallback : incoming.callbackData = none) :
    normalizeUid (normalizeUid (incoming.text.getD "")) = normalizeUid (incoming.text.getD "") ∧
    (isValidBitunixUid (normalizeUid (incoming.text.getD "")) = true →
      handle ttl providerType w.tenantId incoming =
        handleUid ttl providerType w.tenantId incoming
          (String.ofList (strip (incoming.text.getD "").toList)) ∧
      ∀ replies w', Runs (serial G) (handle ttl providerType w.tenantId incoming) w
        (.ok replies) w' →
        UidAnswer G ttl providerType incoming (normalizeUid (incoming.text.getD "")) w
          replies w' ∧
        ∀ reply ∈ replies, OtherText reply.text) ∧
    ∀ p w₁, Runs (serial G) (plan providerType w.tenantId incoming) w (.ok p) w₁ →
      Plan.Submits (normalizeUid (incoming.text.getD "")) p := by
  refine ⟨normalizeUid_normalizeUid _, fun hvalid => ⟨handle_of_valid hcallback hvalid, ?_⟩, ?_⟩
  · intro replies w' hruns
    have hmeets : Meets G (handle ttl providerType w.tenantId incoming)
        (UidAnswer G ttl providerType incoming (normalizeUid (incoming.text.getD "")) w)
        (fun _ _ => True) w := by
      have hstrip := normalizeUid_strip (incoming.text.getD "")
      rw [handle_of_valid hcallback hvalid, ← hstrip]
      exact meets_handleUid_uidAnswer hw hconflict (hstrip.symm ▸ hvalid)
    have hanswer : UidAnswer G ttl providerType incoming _ w replies w' := wp_sound hmeets hruns
    exact ⟨hanswer, hanswer.otherText⟩
  · intro p w₁ hruns
    exact wp_sound (meets_plan_submits hcallback) hruns

end Rules

/-! ### Two first messages -/

/-- A UID, and nothing else. -/
def uidText : IncomingUpdate := { chatId := 77, userId := 77, text := some "۱۲۳ ۴۵۶ ۷۸۹" }

/-- A tenant without a program or a channel. -/
def marketlessWorld : World :=
  { configuredWorld with db := fun _ => [], view := fun _ => [], saved := fun _ => [] }

/-- Where no market is set up, a valid UID is neither submitted nor is the user asked for a
    market. -/
theorem valid_uid_without_markets :
    isValidBitunixUid (normalizeUid (uidText.text.getD "")) = true ∧
    uidText.callbackData = none ∧
    (exec World.step answeringEnv (plan .bitunix 1 uidText) marketlessWorld).1 =
      .ok (.answer [{ text := Messages.NOT_CONFIGURED }]) ∧
    (exec World.step answeringEnv (handle defaultSettings.ttl .bitunix 1 uidText)
      marketlessWorld).1 = .ok [{ text := Messages.NOT_CONFIGURED }] ∧
    Messages.NOT_CONFIGURED ≠ Messages.CHOOSE_MARKET := by
  refine ⟨by decide +kernel, rfl, by decide +kernel, by decide +kernel, by decide +kernel⟩

/-- Where one market is set up, the UID is submitted. -/
theorem uid_of_the_only_market :
    ∃ replies, (exec World.step answeringEnv (handle defaultSettings.ttl .bitunix 1 uidText)
        (hookedWorld.opened 1)).1 = .ok replies ∧
      UidAnswer (Only answeringEnv) defaultSettings.ttl .bitunix uidText "123456789"
        (hookedWorld.opened 1) replies
        (exec World.step answeringEnv (handle defaultSettings.ttl .bitunix 1 uidText)
          (hookedWorld.opened 1)).2 := by
  have hruns := runs_only answeringEnv (handle defaultSettings.ttl .bitunix 1 uidText)
    (hookedWorld.opened 1)
  have huid : normalizeUid (uidText.text.getD "") = "123456789" := by decide +kernel
  have hvalid : isValidBitunixUid (normalizeUid (uidText.text.getD "")) = true := by
    decide +kernel
  have hok : (exec World.step answeringEnv (handle defaultSettings.ttl .bitunix 1 uidText)
      (hookedWorld.opened 1)).1 = .ok [{ text := Messages.INVITED "https://t.me/+0" }] := by
    decide +kernel
  rw [hok] at hruns
  have hanswer := (((uid_dispatched (sound_hookedWorld.opened 1) rfl rfl).2.1 hvalid).2 _ _
    hruns).1
  rw [huid] at hanswer
  exact ⟨_, hok, hanswer⟩

end BotConversation

end VipChannel

/-
  VipChannel.Services.ConversationSpec

  What handling an update can do to the world, and what its replies say.

  An update that is handled leaves at most what one submission leaves; a reply with an
  invite link is the answer to that submission.
-/
import VipChannel.Services.BotConversation
import VipChannel.Services.OnboardingSpec

namespace VipChannel

open Lib
open Program (perform raising)

/-- No reply carries an invite link. -/
def NoInvite (replies : List Reply) : Prop :=
  ∀ reply ∈ replies, ∀ link, ¬ Messages.Hands reply.text link

theorem noInvite_plain {text : String} {markup : Option (List (List Button))}
    (h : text ∈ [Messages.CHOOSE_MARKET, Messages.ASK_FOR_UID, Messages.INVALID_UID,
      Messages.UID_CLAIMED, Messages.PROVIDER_UNAVAILABLE, Messages.NOT_CONFIGURED]) :
    NoInvite [{ text, replyMarkup := markup }] := by
  intro reply hreply link
  rw [List.mem_singleton.mp hreply]
  exact Messages.plain_not_hands link text h

/-- What handling an update has done, once it returns its replies. -/
inductive HandleResult (G : World → Op → Choice → Prop) (ttl : TimeDelta)
    (providerType : ProviderType) (incoming : IncomingUpdate) (w : World) :
    List Reply → World → Prop
  | quiet {replies : List Reply} {w' : World} : NoInvite replies → w.SameBut PRELIMINARY w' →
      HandleResult G ttl providerType incoming w replies w'
  /-- A UID was submitted, and the link it returned is told to who sent it. -/
  | submitted {market : Market} {r : OnboardingResult} {replies : List Reply} {w' : World} :
      SubmitResult G ttl providerType market w r w' → Told incoming.userId r w' →
      (∀ reply ∈ replies, ∀ link, Messages.Hands reply.text link → r.inviteLink = some link) →
      HandleResult G ttl providerType incoming w replies w'

/-- The link of a rendered outcome is the one the submission returned. -/
theorem render_hands {r : OnboardingResult} {referralLink text link : String}
    (hlink : r.outcome.admits = true → r.inviteLink ≠ none)
    (htext : render r referralLink = .ok text) (h : Messages.Hands text link) :
    r.inviteLink = some link := by
  have hplain : ∀ t ∈ [Messages.CHOOSE_MARKET, Messages.ASK_FOR_UID, Messages.INVALID_UID,
      Messages.UID_CLAIMED, Messages.PROVIDER_UNAVAILABLE, Messages.NOT_CONFIGURED],
      text = t → r.inviteLink = some link := by
    rintro t ht rfl
    exact absurd h (Messages.plain_not_hands link text ht)
  unfold render at htext
  cases hout : r.outcome with
  | invited =>
    obtain ⟨l, hl⟩ := Option.ne_none_iff_exists'.mp (hlink (by rw [hout]; rfl))
    simp only [hout, hl, Option.getD_some, Except.ok.injEq] at htext
    rw [← htext] at h
    rw [hl, Messages.hands_INVITED h]
  | alreadyMember =>
    obtain ⟨l, hl⟩ := Option.ne_none_iff_exists'.mp (hlink (by rw [hout]; rfl))
    simp only [hout, hl, Option.getD_some, Except.ok.injEq] at htext
    rw [← htext] at h
    rw [hl, Messages.hands_ALREADY_MEMBER h]
  | invalidUid | uidClaimedByAnotherUser | providerUnavailable | notConfigured =>
    simp only [hout, Except.ok.injEq] at htext
    exact hplain _ (by simp) htext.symm
  | notRegistered =>
    simp only [hout, Except.ok.injEq] at htext
    subst htext
    exact absurd h (Messages.NOT_REGISTERED_not_hands _ _)
  | insufficientBalance =>
    cases hv : r.verdict with
    | none => simp [hout, hv] at htext
    | some verdict =>
      simp only [hout, hv, bind, Except.bind, pure, Except.pure] at htext
      split at htext
      · cases htext
      · split at htext
        · cases htext
        · split at htext
          · cases htext
          · split at htext
            · cases htext
            · simp only [Except.ok.injEq] at htext
              subst htext
              exact absurd h (Messages.INSUFFICIENT_BALANCE_not_hands _ _ _ _)

/-- Only amounts that are no numbers keep an outcome from being put into words. -/
theorem render_error {r : OnboardingResult} {referralLink : String} {e : PyError}
    (h : render r referralLink = .error e) : r.outcome = .insufficientBalance := by
  unfold render at h
  cases hout : r.outcome with
  | insufficientBalance => rfl
  | invited | alreadyMember | invalidUid | uidClaimedByAnotherUser | notRegistered
  | providerUnavailable | notConfigured =>
    rw [hout] at h
    cases h

namespace BotConversation

section Rules

variable {G : World → Op → Choice → Prop} {ttl : TimeDelta} {providerType : ProviderType}
  {incoming : IncomingUpdate} {w : World} {E : PyError → Ledger → Prop}

theorem meets_listAll {t : Table} {tenantId : TenantId} {Q : List (Row t) → World → Prop}
    (hok : ∀ rows, Q rows w) (herr : ∀ e, E e w.ledger) : Meets G (listAll t tenantId) Q E w := by
  unfold listAll
  rw [meets_bind]
  exact meets_select (fun _ rows _ => hok (rows.take 100)) herr

theorem meets_availableMarkets {tenantId : TenantId} {Q : List Market → World → Prop}
    (hok : ∀ markets, Q markets w) (herr : ∀ e, E e w.ledger) :
    Meets G (availableMarkets providerType tenantId) Q E w := by
  unfold availableMarkets
  rw [meets_bind]
  refine meets_listAll (fun configs => ?_) herr
  rw [meets_bind]
  exact meets_listAll (fun channels => hok _) herr

theorem meets_ensureUser {Q : TelegramUser → World → Prop}
    (hok : ∀ user w', w.SameBut [.telegramUsers] w' → Q user w') (herr : ∀ e, E e w.ledger) :
    Meets G (ensureUser w.tenantId incoming) Q E w := by
  unfold ensureUser TelegramUserRepository.getByTelegramId
  rw [meets_bind]
  refine meets_selectOneOrNone (fun _ user _ => ?_) herr
  cases user with
  | none =>
    rw [meets_bind]
    refine meets_uuid4 fun id => ?_
    refine meets_saveNew rfl (by simp) (fun r hr => ?_) (fun _ _ => ?_) herr
    · simp only [beq_iff_eq] at hr
      simp [clash, hr]
    · refine hok _ _ ⟨fun t ht => Store.append_other _ ?_ _, rfl, rfl⟩
      simpa using ht
  | some user => exact hok user w ⟨fun _ _ => rfl, rfl, rfl⟩

theorem meets_offerReferralLink {market : Market} :
    Meets G (offerReferralLink providerType w.tenantId incoming market)
      (HandleResult G ttl providerType incoming w) (fun _ l => l = w.ledger) w := by
  have hsame : w.SameBut PRELIMINARY w := ⟨fun _ _ => rfl, rfl, rfl⟩
  have hnone : Meets G (pure [{ text := Messages.NOT_CONFIGURED }] : App (List Reply))
      (HandleResult G ttl providerType incoming w) (fun _ l => l = w.ledger) w :=
    .quiet (noInvite_plain (by simp)) hsame
  unfold offerReferralLink ReferralProgramConfigRepository.getFor
  rw [meets_bind]
  refine meets_selectOneOrNone (fun _ config _ => ?_) fun _ => rfl
  cases config with
  | none => exact hnone
  | some config =>
    by_cases hactive : config.isActive = true
    swap
    · simp only [hactive, Bool.not_false, if_true]
      exact hnone
    simp only [hactive, Bool.not_true, Bool.false_eq_true, if_false]
    rw [meets_bind]
    refine meets_ensureUser (fun user w' hsame' => ?_) fun _ => rfl
    rw [meets_bind]
    refine meets_update (fun _ _ _ => rfl) ?_
    refine .quiet (fun reply hreply link => ?_) ⟨fun t ht => ?_, ?_, ?_⟩
    · rw [List.mem_singleton.mp hreply]
      exact Messages.WELCOME_not_hands _ _ _
    · have hother : t ≠ .telegramUsers := by
        rintro rfl
        exact ht (by decide)
      exact (Store.modify_other _ hother _ _).trans (hsame'.view t (by simpa using hother))
    · exact hsame'.ledger
    · exact hsame'.conflict

theorem meets_start :
    Meets G (start providerType w.tenantId incoming)
      (HandleResult G ttl providerType incoming w) (fun _ l => l = w.ledger) w := by
  have hsame : w.SameBut PRELIMINARY w := ⟨fun _ _ => rfl, rfl, rfl⟩
  unfold start
  rw [meets_bind]
  refine meets_availableMarkets (fun markets => ?_) fun _ => rfl
  match markets with
  | [] => exact .quiet (noInvite_plain (by simp)) hsame
  | [market] => exact meets_offerReferralLink
  | _ :: _ :: _ => exact .quiet (noInvite_plain (by simp)) hsame

theorem meets_submit {market : Market} {uid : String} (hw : w.Sound)
    (hconflict : w.conflict = none) :
    Meets G (submit ttl providerType w.tenantId incoming market uid)
      (HandleResult G ttl providerType incoming w) (fun _ => SubmitError G w) w := by
  unfold submit ReferralProgramConfigRepository.getFor
  rw [meets_bind]
  refine meets_selectOneOrNone (fun _ config _ => ?_) fun _ => .inl rfl
  rw [meets_bind]
  refine meets_mono (meets_submission hw hconflict) (fun r w' h => ?_) fun _ _ h => h
  obtain ⟨hresult, htold⟩ := h
  rw [meets_bind]
  refine meets_raising_failing (fun text htext => ?_) fun e htext => ?_
  · refine .submitted hresult htold fun reply hreply link hhands => ?_
    rw [List.mem_singleton.mp hreply] at hhands
    exact render_hands htold.outcome htext hhands
  · have hout := render_error htext
    cases hresult with
    | quiet _ hsame => exact .inl hsame.ledger
    | granted _ _ h =>
      rw [hout] at h
      split at h <;> cases h

theorem meets_handleUid {rawText : String} (hw : w.Sound) (hconflict : w.conflict = none) :
    Meets G (handleUid ttl providerType w.tenantId incoming rawText)
      (HandleResult G ttl providerType incoming w) (fun _ => SubmitError G w) w := by
  have hsame : w.SameBut PRELIMINARY w := ⟨fun _ _ => rfl, rfl, rfl⟩
  have hstart : Meets G (start providerType w.tenantId incoming)
      (HandleResult G ttl providerType incoming w) (fun _ => SubmitError G w) w :=
    meets_mono meets_start (fun _ _ h => h) fun _ _ h => .inl h
  unfold handleUid TelegramUserRepository.getByTelegramId
  generalize normalizeUid rawText = uid
  dsimp only
  by_cases huid : isValidBitunixUid uid = true
  swap
  · rw [if_pos (by simpa using huid)]
    exact .quiet (noInvite_plain (by simp)) hsame
  rw [if_neg (by simpa using huid)]
  rw [meets_bind]
  refine meets_selectOneOrNone (fun _ user _ => ?_) fun _ => .inl rfl
  cases user.bind (·.pendingMarket) with
  | some market => exact meets_submit hw hconflict
  | none =>
    dsimp only
    rw [meets_bind]
    refine meets_availableMarkets (fun markets => ?_) fun _ => .inl rfl
    match markets with
    | [market] => exact meets_submit hw hconflict
    | [] => exact hstart
    | _ :: _ :: _ => exact hstart

/-- The flow, whatever the update. -/
theorem meets_handle (hw : w.Sound) (hconflict : w.conflict = none) :
    Meets G (handle ttl providerType w.tenantId incoming)
      (HandleResult G ttl providerType incoming w) (fun _ => SubmitError G w) w := by
  have hsame : w.SameBut PRELIMINARY w := ⟨fun _ _ => rfl, rfl, rfl⟩
  unfold handle
  cases callbackMarket incoming.callbackData with
  | some raw =>
    dsimp only
    cases Market.ofValue? raw with
    | none => exact .quiet (noInvite_plain (by simp)) hsame
    | some market => exact meets_mono meets_offerReferralLink (fun _ _ h => h) fun _ _ h => .inl h
  | none =>
    dsimp only
    split
    · exact meets_mono meets_start (fun _ _ h => h) fun _ _ h => .inl h
    · split
      · exact meets_handleUid hw hconflict
      · exact .quiet (noInvite_plain (by simp)) hsame

end Rules

end BotConversation

end VipChannel

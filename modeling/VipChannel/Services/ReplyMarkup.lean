/-
  VipChannel.Services.ReplyMarkup

  Replies as HTML: the service writes plain text, and `send_message`
  (adapters/providers/telegram.py) declares it HTML.

  The templates have nothing to decode.  What is put into them has, when the sender's name
  or a referral link does: neither is escaped.
-/
import VipChannel.Domain.Amounts
import VipChannel.Lib.Markup
import VipChannel.Services.MarketChoice

namespace VipChannel

open Lib
open Program (perform raising)

namespace Messages

/-! ## The templates -/

theorem WELCOME_literal_iff {name referralLink : String} :
    Literal (WELCOME name referralLink) ↔ Literal name ∧ Literal referralLink := by
  have hhello : Fenced "سلام " := fenced_ofList (by decide +kernel)
  have hwave : Fenced " 👋\n\n" := fenced_ofList (by decide +kernel)
  have hregister : Fenced "برای دسترسی به کانال VIP، از طریق لینک زیر در صرافی ثبت‌نام کنید " :=
    fenced_ofList (by decide +kernel)
  have hsend : Fenced "و سپس UID حساب خود را همین‌جا بفرستید:\n\n" :=
    fenced_ofList (by decide +kernel)
  have hbreak : Fenced "\n\n" := fenced_ofList (by decide +kernel)
  have huid : Fenced "UID یک عدد ۹ رقمی است." := fenced_ofList (by decide +kernel)
  unfold WELCOME
  rw [literal_append_fenced huid, literal_append_fenced hbreak, literal_fenced_iff hsend,
    literal_append_fenced hregister, literal_append_fenced hwave, literal_fenced_append hhello]

set_option maxRecDepth 1024 in
theorem NOT_REGISTERED_literal_iff {referralLink : String} :
    Literal (NOT_REGISTERED referralLink) ↔ Literal referralLink := by
  have hbefore : Fenced ("حساب شما زیرمجموعه رفرال ما نیست.\n\n" ++
      "برای واجد شرایط شدن باید از طریق لینک زیر ثبت‌نام کنید:\n") :=
    (fenced_ofList (by decide +kernel)).append (fenced_ofList (by decide +kernel))
  have hbreak : Fenced "\n\n" := fenced_ofList (by decide +kernel)
  have hwait : Fenced "اگر تازه ثبت‌نام کرده‌اید، چند دقیقه صبر کنید و دوباره امتحان کنید." :=
    fenced_ofList (by decide +kernel)
  unfold NOT_REGISTERED
  rw [literal_append_fenced hwait, literal_append_fenced hbreak, literal_fenced_append hbefore]

theorem INVITED_literal_iff {inviteLink : String} :
    Literal (INVITED inviteLink) ↔ Literal inviteLink := by
  have hbefore : Fenced ("تبریک 🎉 دسترسی شما تأیید شد.\n\n" ++
      "با لینک زیر به کانال VIP بپیوندید:\n") :=
    (fenced_ofList (by decide +kernel)).append (fenced_ofList (by decide +kernel))
  have hbreak : Fenced "\n\n" := fenced_ofList (by decide +kernel)
  have honce : Fenced "این لینک یک‌بارمصرف است و فقط برای شما کار می‌کند." :=
    fenced_ofList (by decide +kernel)
  unfold INVITED
  rw [literal_append_fenced honce, literal_append_fenced hbreak, literal_fenced_append hbefore]

theorem ALREADY_MEMBER_literal_iff {inviteLink : String} :
    Literal (ALREADY_MEMBER inviteLink) ↔ Literal inviteLink := by
  have hbefore : Fenced ("شما همچنان عضو فعال کانال VIP هستید.\n\n" ++
      "اگر به لینک نیاز دارید:\n") :=
    (fenced_ofList (by decide +kernel)).append (fenced_ofList (by decide +kernel))
  unfold ALREADY_MEMBER
  exact literal_fenced_append hbefore

theorem INSUFFICIENT_BALANCE_literal_iff {minimum balance shortfall : String} :
    Literal (INSUFFICIENT_BALANCE minimum balance shortfall) ↔
      (Literal minimum ∧ Literal balance) ∧ Literal shortfall := by
  have hbefore : Fenced ("حساب شما تأیید شد، اما موجودی واریزی کافی نیست.\n\n" ++
      "حداقل لازم: ") :=
    (fenced_ofList (by decide +kernel)).append (fenced_ofList (by decide +kernel))
  have hdollars : Fenced " دلار\n" := fenced_ofList (by decide +kernel)
  have hcurrent : Fenced "موجودی فعلی شما: " := fenced_ofList (by decide +kernel)
  have hmissing : Fenced "کسری: " := fenced_ofList (by decide +kernel)
  have hlast : Fenced " دلار\n\n" := fenced_ofList (by decide +kernel)
  have hagain : Fenced "پس از واریز، دوباره UID خود را بفرستید." :=
    fenced_ofList (by decide +kernel)
  unfold INSUFFICIENT_BALANCE
  rw [literal_append_fenced hagain, literal_append_fenced hlast, literal_fenced_iff hmissing,
    literal_append_fenced hdollars, literal_fenced_iff hcurrent, literal_append_fenced hdollars,
    literal_fenced_append hbefore]

set_option maxRecDepth 1024 in
/-- The texts without placeholders. -/
theorem plain_literal : ∀ text ∈ [CHOOSE_MARKET, ASK_FOR_UID, INVALID_UID, UID_CLAIMED,
    PROVIDER_UNAVAILABLE, NOT_CONFIGURED], Literal text := by
  have hchoose : Fenced CHOOSE_MARKET := fenced_ofList (by decide +kernel)
  have hask : Fenced ASK_FOR_UID := fenced_ofList (by decide +kernel)
  have hinvalid : Fenced INVALID_UID := fenced_ofList (by decide +kernel)
  have hclaimed : Fenced UID_CLAIMED :=
    (fenced_ofList (by decide +kernel)).append (fenced_ofList (by decide +kernel))
  have hunavailable : Fenced PROVIDER_UNAVAILABLE :=
    (fenced_ofList (by decide +kernel)).append (fenced_ofList (by decide +kernel))
  have hnone : Fenced NOT_CONFIGURED := fenced_ofList (by decide +kernel)
  simp only [List.forall_mem_cons, List.not_mem_nil, IsEmpty.forall_iff, implies_true, and_true]
  exact ⟨hchoose.literal, hask.literal, hinvalid.literal, hclaimed.literal, hunavailable.literal,
    hnone.literal⟩

/-- A number is written without `<` and `&`. -/
theorem text_literal (d : Decimal) : Literal d.text := by
  apply literal_of_chars
  have hsigns : ∀ c ∈ ['.', 'E', '+', '-'], c ≠ '<' ∧ c ≠ '&' := by simp
  cases d with
  | infinity negative => cases negative <;> simp [Decimal.text]
  | nan signaling => cases signaling <;> simp [Decimal.text]
  | finite s c e =>
    obtain ⟨whole, frac, exponent, hspells, hparts⟩ := Decimal.text_parts c e
    rw [Decimal.text_sign, hparts]
    intro d hd
    rcases List.mem_append.mp hd with hd | hd
    · cases s with
      | false => cases hd
      | true => exact hsigns d (by simp_all)
    · rcases hspells.characters d hd with hdigit | hd
      · constructor <;> rintro rfl <;> cases hdigit
      · exact hsigns d hd

theorem formatAmount_literal {value : Decimal} {text : String}
    (h : formatAmount value = .ok text) : Literal text := by
  rw [formatAmount_eq] at h
  cases hquantized : value.quantizeCeiling 2 with
  | error e =>
    rw [hquantized] at h
    cases h
  | ok d =>
    rw [hquantized] at h
    cases h
    exact text_literal _

end Messages

/-! ## The replies -/

/-- What the replies to an update may be made of has nothing to decode: the sender's name,
    the tenant's referral links, and the invite links, which are Telegram's. -/
structure LiteralSources (G : World → Op → Choice → Prop) (providerType : ProviderType)
    (incoming : IncomingUpdate) (w : World) : Prop where
  name : Literal (incoming.firstName.getD "")
  referral : ∀ config ∈ w.view .referralProgramConfigs, config.tenantId = w.tenantId →
    config.providerType = providerType → Literal config.referralLink
  invite : ∀ m ∈ w.view .vipMemberships, ∀ link, m.inviteLink = some link → Literal link
  minted : ∀ link, Issuable G link → Literal link

/-- Replies that show themselves. -/
def LiteralReplies (replies : List Reply) : Prop :=
  ∀ reply ∈ replies, Literal reply.text

section Replies

variable {G : World → Op → Choice → Prop} {ttl : TimeDelta} {providerType : ProviderType}
  {incoming : IncomingUpdate} {w : World}

theorem literalReplies_plain {text : String} {markup : Option (List (List Button))}
    (h : text ∈ [Messages.CHOOSE_MARKET, Messages.ASK_FOR_UID, Messages.INVALID_UID,
      Messages.UID_CLAIMED, Messages.PROVIDER_UNAVAILABLE, Messages.NOT_CONFIGURED]) :
    LiteralReplies [{ text, replyMarkup := markup }] := by
  intro reply hreply
  rw [List.mem_singleton.mp hreply]
  exact Messages.plain_literal text h

/-- The words of an outcome. -/
theorem render_literal {r : OnboardingResult} {referralLink text : String}
    (hlink : ∀ link, r.inviteLink = some link → Literal link) (hreferral : Literal referralLink)
    (htext : render r referralLink = .ok text) : Literal text := by
  have hinvite : Literal (r.inviteLink.getD "None") := by
    cases h : r.inviteLink with
    | none => exact (by decide +kernel : Literal "None")
    | some link => exact hlink link h
  have hplain := Messages.plain_literal
  simp only [List.forall_mem_cons] at hplain
  obtain ⟨-, -, hinvalid, hclaimed, hunavailable, hnone, -⟩ := hplain
  unfold render at htext
  cases hout : r.outcome with
  | invited =>
    simp only [hout, Except.ok.injEq] at htext
    rw [← htext]
    exact Messages.INVITED_literal_iff.mpr hinvite
  | alreadyMember =>
    simp only [hout, Except.ok.injEq] at htext
    rw [← htext]
    exact Messages.ALREADY_MEMBER_literal_iff.mpr hinvite
  | notRegistered =>
    simp only [hout, Except.ok.injEq] at htext
    rw [← htext]
    exact Messages.NOT_REGISTERED_literal_iff.mpr hreferral
  | invalidUid =>
    simp only [hout, Except.ok.injEq] at htext
    exact htext ▸ hinvalid
  | uidClaimedByAnotherUser =>
    simp only [hout, Except.ok.injEq] at htext
    exact htext ▸ hclaimed
  | providerUnavailable =>
    simp only [hout, Except.ok.injEq] at htext
    exact htext ▸ hunavailable
  | notConfigured =>
    simp only [hout, Except.ok.injEq] at htext
    exact htext ▸ hnone
  | insufficientBalance =>
    cases hv : r.verdict with
    | none => simp [hout, hv] at htext
    | some verdict =>
      simp only [hout, hv, bind, Except.bind, pure, Except.pure] at htext
      split at htext
      · cases htext
      · split at htext
        · cases htext
        · next hminimum =>
          split at htext
          · cases htext
          · next hbalance =>
            split at htext
            · cases htext
            · next hshortfall =>
              cases htext
              exact Messages.INSUFFICIENT_BALANCE_literal_iff.mpr
                ⟨⟨Messages.formatAmount_literal hminimum, Messages.formatAmount_literal hbalance⟩,
                  Messages.formatAmount_literal hshortfall⟩

/-- The link of a submission is a membership's, or was minted for it. -/
theorem SubmitResult.link {market : Market} {r : OnboardingResult} {w' : World} {link : String}
    (h : SubmitResult G ttl providerType market w r w') (hlink : r.inviteLink = some link) :
    (∃ m ∈ w.view .vipMemberships, m.inviteLink = some link) ∨ Issuable G link := by
  cases h with
  | quiet hnone _ =>
    rw [hnone] at hlink
    cases hlink
  | @granted g _ calls hholds hg _ =>
    rw [hg] at hlink
    cases hlink
    rcases hholds.invite.cases with ⟨hlive, -, -⟩ | ⟨_, -, -, hissuable, -, -⟩
    · -- A link that is still live stood on the membership that was found.
      obtain ⟨hbase, -⟩ := InviteService.liveLink_some hlive
      have hfrom := hholds.membership
      have hup := hholds.memberships
      cases hprior : g.prior with
      | none =>
        rw [hprior] at hfrom
        obtain ⟨-, _, _, -, hnew⟩ := hfrom
        rw [hnew] at hbase
        cases hbase
      | some prior =>
        rw [hprior] at hfrom hup
        obtain ⟨-, -, -, hreinstated⟩ := hfrom
        refine .inl ⟨prior, hup.prior_mem.1, ?_⟩
        rw [hreinstated] at hbase
        unfold ReferralOnboardingService.reinstate at hbase
        split at hbase <;> exact hbase
    · exact .inr hissuable

namespace BotConversation

theorem meets_offerReferralLink_literal {market : Market}
    (h : LiteralSources G providerType incoming w) :
    Meets G (offerReferralLink providerType w.tenantId incoming market)
      (fun replies _ => LiteralReplies replies) (fun _ _ => True) w := by
  unfold offerReferralLink ReferralProgramConfigRepository.getFor
  rw [meets_bind]
  refine meets_selectOneOrNone (fun _ config hfound => ?_) fun _ => trivial
  cases config with
  | none => exact literalReplies_plain (by simp)
  | some config =>
    obtain ⟨hmem, hscope, -⟩ := hfound
    have hcond := World.inScope_cond hscope
    simp only [Bool.and_eq_true, beq_iff_eq] at hcond
    by_cases hactive : config.isActive = true
    swap
    · simp only [hactive, Bool.not_false, if_true]
      exact literalReplies_plain (by simp)
    simp only [hactive, Bool.not_true, Bool.false_eq_true, if_false]
    rw [meets_bind]
    refine meets_ensureUser (fun user w' _ => ?_) fun _ => trivial
    rw [meets_bind]
    refine meets_update (fun _ _ _ => rfl) ?_
    intro reply hreply
    rw [List.mem_singleton.mp hreply]
    exact Messages.WELCOME_literal_iff.mpr
      ⟨h.name, h.referral config hmem hcond.1.1 hcond.1.2⟩

theorem meets_start_literal (h : LiteralSources G providerType incoming w) :
    Meets G (start providerType w.tenantId incoming)
      (fun replies _ => LiteralReplies replies) (fun _ _ => True) w := by
  unfold start
  rw [meets_bind]
  refine meets_availableMarkets (fun markets => ?_) fun _ => trivial
  match markets with
  | [] => exact literalReplies_plain (by simp)
  | [market] => exact meets_offerReferralLink_literal h
  | _ :: _ :: _ => exact literalReplies_plain (by simp)

theorem meets_submit_literal {market : Market} {uid : String} (hw : w.Sound)
    (hconflict : w.conflict = none) (h : LiteralSources G providerType incoming w) :
    Meets G (submit ttl providerType w.tenantId incoming market uid)
      (fun replies _ => LiteralReplies replies) (fun _ _ => True) w := by
  unfold submit ReferralProgramConfigRepository.getFor
  rw [meets_bind]
  refine meets_selectOneOrNone (fun _ config hfound => ?_) fun _ => trivial
  rw [meets_bind]
  refine meets_mono (meets_submitUid hw hconflict) (fun r w' hresult => ?_) fun _ _ _ => trivial
  rw [meets_bind]
  refine meets_raising (fun text htext => ?_) fun _ => trivial
  intro reply hreply
  rw [List.mem_singleton.mp hreply]
  refine render_literal (fun link hlink => ?_) ?_ htext
  · rcases hresult.link hlink with ⟨m, hm, hsame⟩ | hissuable
    · exact h.invite m hm link hsame
    · exact h.minted link hissuable
  · cases config with
    | none => exact literal_empty
    | some config =>
      obtain ⟨hmem, hscope, -⟩ := hfound
      have hcond := World.inScope_cond hscope
      simp only [Bool.and_eq_true, beq_iff_eq] at hcond
      exact h.referral config hmem hcond.1.1 hcond.1.2

theorem meets_handleUid_literal {rawText : String} (hw : w.Sound) (hconflict : w.conflict = none)
    (h : LiteralSources G providerType incoming w) :
    Meets G (handleUid ttl providerType w.tenantId incoming rawText)
      (fun replies _ => LiteralReplies replies) (fun _ _ => True) w := by
  unfold handleUid TelegramUserRepository.getByTelegramId
  generalize normalizeUid rawText = uid
  dsimp only
  by_cases huid : isValidBitunixUid uid = true
  swap
  · rw [if_pos (by simpa using huid)]
    exact literalReplies_plain (by simp)
  rw [if_neg (by simpa using huid), meets_bind]
  refine meets_selectOneOrNone (fun _ user _ => ?_) fun _ => trivial
  cases user.bind (·.pendingMarket) with
  | some market => exact meets_submit_literal hw hconflict h
  | none =>
    dsimp only
    rw [meets_bind]
    refine meets_availableMarkets (fun markets => ?_) fun _ => trivial
    match markets with
    | [market] => exact meets_submit_literal hw hconflict h
    | [] => exact meets_start_literal h
    | _ :: _ :: _ => exact meets_start_literal h

/-- The flow answers what shows itself, when its sources do. -/
theorem meets_handle_literal (hw : w.Sound) (hconflict : w.conflict = none)
    (h : LiteralSources G providerType incoming w) :
    Meets G (handle ttl providerType w.tenantId incoming)
      (fun replies _ => LiteralReplies replies) (fun _ _ => True) w := by
  unfold handle
  cases callbackMarket incoming.callbackData with
  | some raw =>
    dsimp only
    cases Market.ofValue? raw with
    | none => exact literalReplies_plain (by simp)
    | some market => exact meets_offerReferralLink_literal h
  | none =>
    dsimp only
    split
    · exact meets_start_literal h
    · split
      · exact meets_handleUid_literal hw hconflict h
      · exact literalReplies_plain (by simp)

end BotConversation

end Replies

end VipChannel

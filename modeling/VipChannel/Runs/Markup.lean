/-
  VipChannel.Runs.Markup

  Whose text alters a reply: the replies to every update, under every configuration, decode
  as HTML to what was written exactly where the sender's name and the referral links have
  nothing to decode.
-/
import VipChannel.Runs.Events
import VipChannel.Services.ReplyMarkup

namespace VipChannel

open Lib

/-- A link of Telegram's is an address without `<` and `&`. -/
def IsInviteLink (link : String) : Prop := ∀ c ∈ link.toList, c ≠ '<' ∧ c ≠ '&'

/-- The invite links, old and new, are Telegram's. -/
structure TelegramLinks (G : World → Op → Choice → Prop) (w : World) : Prop where
  minted : ∀ link, Issuable G link → IsInviteLink link
  recorded : ∀ m ∈ w.view .vipMemberships, ∀ link, m.inviteLink = some link → IsInviteLink link

/-- The referral links of the tenant's programs, by market. -/
def World.HasLinks (w : World) (providerType : ProviderType) (referralLink : Market → String) :
    Prop :=
  ∀ config ∈ w.view .referralProgramConfigs, config.tenantId = w.tenantId →
    config.providerType = providerType → config.referralLink = referralLink config.market

/-- Whatever the update of a sender of this name, and whatever else the configuration with
    these links: every text that is returned, which is a template with the name and the link
    put in, decodes to itself. -/
def ShownVerbatim (firstName : Option String) (referralLink : Market → String) : Prop :=
  ∀ (L : MarkupLanguage) G ttl providerType incoming w replies w', w.Sound → w.conflict = none →
    incoming.firstName = firstName → w.HasLinks providerType referralLink → TelegramLinks G w →
    Runs (serial G) (BotConversation.handle ttl providerType w.tenantId incoming) w (.ok replies)
      w' →
    ∀ reply ∈ replies, L.decode reply.text = some reply.text

/-! ### An offer -/

def offeredProgram (referralLink : Market → String) (market : Market) : ReferralProgramConfig where
  tenantId := 1
  providerType := .bitunix
  market := market
  referralLink := referralLink market

def offeringDb (referralLink : Market → String) : Database
  | .referralProgramConfigs =>
    [offeredProgram referralLink .crypto, offeredProgram referralLink .forex]
  | .telegramUsers | .referralAccounts | .subscriptions | .vipMemberships
  | .tradingActivitySnapshots | .telegramChannels | .jobExecutions | .providerCredentials
  | .telegramBotConfigs | .paymentRecords | .webhookRoutes => []

/-- Both markets have a program, and nobody has come yet. -/
def offeringWorld (referralLink : Market → String) : World :=
  { configuredWorld with
    db := offeringDb referralLink
    view := offeringDb referralLink
    saved := offeringDb referralLink }

theorem sound_offeringWorld (referralLink : Market → String) :
    (offeringWorld referralLink).Sound := by
  have hd : Distinct (offeringDb referralLink) := by
    intro t
    cases t <;> simp [offeringDb, clash, offeredProgram]
  exact ⟨hd, hd, hd⟩

/-- A press of the market's button. -/
def press (firstName : Option String) (market : Market) : IncomingUpdate where
  chatId := 77
  userId := 77
  callbackData := some (MARKET_CALLBACK_PREFIX ++ market.value)
  firstName := firstName

/-- The press is answered with the market's referral link, and the sender's name. -/
theorem press_answered (ttl : TimeDelta) (firstName : Option String)
    (referralLink : Market → String) (market : Market) :
    (exec World.step (fun _ _ => {}) (BotConversation.handle ttl .bitunix 1
        (press firstName market)) (offeringWorld referralLink)).1 =
      .ok [{ text := Messages.WELCOME (firstName.getD "") (referralLink market) }] := by
  have hbutton : BotConversation.callbackMarket
      (some (MARKET_CALLBACK_PREFIX ++ market.value)) = some market.value := by
    cases market <;> decide +kernel
  have hmarket : Market.ofValue? market.value = some market := by
    cases market <;> decide +kernel
  unfold BotConversation.handle press
  rw [hbutton]
  dsimp only
  rw [hmarket]
  cases market <;> rfl

/-- The text of the answer decodes to itself, if all texts do. -/
theorem welcome_literal {firstName : Option String} {referralLink : Market → String}
    (h : ShownVerbatim firstName referralLink) (market : Market) :
    Literal (firstName.getD "") ∧ Literal (referralLink market) := by
  let anyMarkup : MarkupLanguage := ⟨fun _ => true, rfl⟩
  have hruns := runs_only (fun _ _ => {}) (BotConversation.handle ⟨0, by decide⟩ .bitunix 1
    (press firstName market)) (offeringWorld referralLink)
  rw [press_answered] at hruns
  have hlinks : (offeringWorld referralLink).HasLinks .bitunix referralLink := by
    intro config hconfig _ _
    rcases List.mem_pair.mp hconfig with rfl | rfl <;> rfl
  have htelegram : TelegramLinks (Only fun _ _ => {}) (offeringWorld referralLink) := by
    constructor
    · rintro link ⟨w, call, about, c, rfl, -, rfl⟩
      intro c hc
      cases hc
    · intro m hm
      cases hm
  have hself := h anyMarkup _ _ _ _ _ _ _ (sound_offeringWorld referralLink) rfl rfl hlinks
    htelegram hruns _ List.mem_cons_self
  exact Messages.WELCOME_literal_iff.mp (decode_eq_self_iff.mp hself)

/-- Every reply shows the name and the links as they are if and only if there is nothing in
    them to decode. -/
theorem shown_verbatim_iff (firstName : Option String) (referralLink : Market → String) :
    ShownVerbatim firstName referralLink ↔
      Literal (firstName.getD "") ∧ ∀ market, Literal (referralLink market) := by
  constructor
  · intro h
    exact ⟨(welcome_literal h .crypto).1, fun market => (welcome_literal h market).2⟩
  · rintro ⟨hname, hreferral⟩ L G ttl providerType incoming w replies w' hw hconflict rfl hlinks
      htelegram hruns
    have hsources : LiteralSources G providerType incoming w := {
      name := hname
      referral := fun config hmem ht hprovider =>
        hlinks config hmem ht hprovider ▸ hreferral config.market
      invite := fun m hm link hlink => literal_of_chars (htelegram.recorded m hm link hlink)
      minted := fun link hlink => literal_of_chars (htelegram.minted link hlink) }
    have hmeets : Meets G (BotConversation.handle ttl providerType w.tenantId incoming) _ _ w :=
      BotConversation.meets_handle_literal hw hconflict hsources
    have hreplies := wp_sound hmeets hruns
    exact fun reply hreply => decode_eq_self_iff.mpr (hreplies reply hreply)

/-- A sender called `<Ali>`: the name is taken for markup. -/
theorem name_alters_markup :
    ¬ ∀ (firstName : Option String) (referralLink : Market → String),
      ShownVerbatim firstName referralLink := by
  intro h
  obtain ⟨hname, -⟩ := welcome_literal (h (some "<Ali>") fun _ => "https://partner") .crypto
  exact absurd hname (by decide +kernel)

end VipChannel

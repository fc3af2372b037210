/-
  VipChannel.Web.Readiness

  Three tests of whether a market is set up: the one that lists markets to a user, the one
  that offers a market's referral link, and the one that lets a UID in.

  The first and the third ask for an active program and an active channel.  The second is
  satisfied with the program, which shows where it is not reached through the first: a
  button of an older menu.
-/
import VipChannel.Runs.Choices
import VipChannel.Web.AdminCalls

namespace VipChannel

open Lib
open Program (perform raising)
open ReferralOnboardingService

/-! ## Runs that return -/

section Working

variable {G : World → Op → Choice → Prop} {w : World} {F : PyError → World → Prop}

/-- Every call is answered, with the first thing there is. -/
def plainEnv (_ : World) (_ : Op) : Choice := {}

theorem solid_plainEnv : ¬ Broken (Only plainEnv) := by
  rintro ⟨w, op, c, rfl, -, hfault⟩
  exact hfault rfl

/-- A program that only the database can keep from returning has a run that returns. -/
theorem exists_answer {α : Type} {p : App α} {Q : α → World → Prop}
    (h : Works (Only plainEnv) p Q (fun _ _ => False) w) :
    ∃ a w', Runs (serial Anything) p w (.ok a) w' ∧ Q a w' := by
  have hend := wp_sound h (runs_only plainEnv p w)
  have hany := runs_anything (runs_only plainEnv p w)
  cases hr : (exec World.step plainEnv p w).1 with
  | ok a =>
    rw [hr] at hend hany
    exact ⟨a, _, hany, hend⟩
  | error e =>
    rw [hr] at hend
    exact (hend.elim solid_plainEnv id).elim

theorem works_getFor {providerType : ProviderType} {market : Market}
    {Q : Option ReferralProgramConfig → World → Prop} (hw : w.Sound)
    (hconflict : w.conflict = none)
    (hok : ∀ r, w.Found .referralProgramConfigs (fun r => r.tenantId == w.tenantId &&
      r.providerType == providerType && r.market == market) r → Q r w) :
    Works G (ReferralProgramConfigRepository.getFor w.tenantId providerType market) Q F w := by
  refine works_selectOneOrNone hw hconflict (fun r s _ hr hs => ?_) hok
  simp only [Bool.and_eq_true, beq_iff_eq] at hr hs
  simp [clash, hr, hs]

theorem works_getForMarket {market : Market} {Q : Option TelegramChannel → World → Prop}
    (hw : w.Sound) (hconflict : w.conflict = none)
    (hok : ∀ r, w.Found .telegramChannels (fun r => r.tenantId == w.tenantId &&
      r.market == market && r.isActive) r → Q r w) :
    Works G (TelegramChannelRepository.getForMarket w.tenantId market) Q F w := by
  refine works_selectOneOrNone hw hconflict (fun r s _ hr hs => ?_) hok
  simp only [Bool.and_eq_true, beq_iff_eq] at hr hs
  simp [clash, hr, hs]

end Working

/-! ## Letting a UID in -/

/-- No well-formed UID is answered NOT_CONFIGURED for the market. -/
def Accepts (ttl : TimeDelta) (providerType : ProviderType) (w : World) (market : Market) :
    Prop :=
  ∀ s : Submission, s.market = market → isValidBitunixUid s.uid = true →
    ∀ r w', Runs (serial Anything) (submitUid ttl providerType w.tenantId s.telegramUserId
      s.market s.rawUid s.username s.firstName) w (.ok r) w' → r.outcome ≠ .notConfigured

section Accepts

variable {G : World → Op → Choice → Prop} {ttl : TimeDelta} {providerType : ProviderType}
  {w : World} {market : Market}

/-- Only the program and the channel are asked for before a submission is NOT_CONFIGURED. -/
theorem Submitted.notConfigured_iff {s : Submission} {r : OnboardingResult} {w' : World}
    (hvalid : isValidBitunixUid s.uid = true) (h : Submitted G ttl providerType s w r w') :
    r.outcome = .notConfigured ↔ ¬ w.view.Ready w.tenantId providerType s.market := by
  have hasked : ∀ {a : Attempt} {w₁ : World}, a.Holds G providerType s w w₁ →
      w.view.Ready w.tenantId providerType s.market := fun ha =>
    ⟨⟨_, ha.config_mem, ha.config_keys⟩, _, ha.channel_mem, ha.channel_keys⟩
  cases h with
  | invalid hinvalid =>
    rw [hvalid] at hinvalid
    cases hinvalid
  | notConfigured _ hno => exact iff_of_true rfl hno
  | claimed _ hready _ _ _ _ _ _ => exact iff_of_false (by simp) (not_not_intro hready)
  | unavailable ha _ _ => exact iff_of_false (by simp) (not_not_intro (hasked ha))
  | rejected ha _ _ _ =>
    refine iff_of_false ?_ (not_not_intro (hasked ha))
    dsimp only
    split <;> decide
  | @granted a _ g _ _ _ _ ha _ _ _ _ =>
    refine iff_of_false ?_ (not_not_intro (hasked ha))
    unfold Grant.result
    dsimp only
    split <;> decide

/-- A market that is not set up is answered without a call but the reads. -/
theorem works_submitUid_unready {s : Submission} {F : PyError → World → Prop} (hw : w.Sound)
    (hconflict : w.conflict = none) (hvalid : isValidBitunixUid s.uid = true)
    (hno : ¬ w.view.Ready w.tenantId providerType s.market) :
    Works G (submitUid ttl providerType w.tenantId s.telegramUserId s.market s.rawUid s.username
        s.firstName)
      (fun r w' => r = { outcome := .notConfigured, uid := some s.uid } ∧ w' = w) F w := by
  unfold submitUid
  change Works G (if (!isValidBitunixUid s.uid) = true then _ else _) _ _ w
  rw [if_neg (by simpa using hvalid), works_bind]
  refine works_getFor hw hconflict fun config hconfig => ?_
  rw [works_bind]
  refine works_getForMarket hw hconflict fun channel hchannel => ?_
  cases config with
  | none => exact ⟨rfl, rfl⟩
  | some config =>
    cases channel with
    | none => exact ⟨rfl, rfl⟩
    | some channel =>
      have hkeys := World.inScope_cond hconfig.2.1
      have hchan := World.inScope_cond hchannel.2.1
      simp only [Bool.and_eq_true, beq_iff_eq] at hkeys hchan
      have hinactive : config.isActive = false := by
        by_contra hactive
        exact hno ⟨⟨config, hconfig.1, hkeys.1.1, hkeys.1.2, hkeys.2, eq_true_of_ne_false hactive⟩,
          channel, hchannel.1, hchan.1.1, hchan.1.2, hchan.2⟩
      simp only [hinactive, Bool.not_false, if_true]
      exact ⟨rfl, rfl⟩

/-- A UID is let in for the markets that are set up. -/
theorem accepts_iff_ready (hw : w.Sound) (hconflict : w.conflict = none) :
    Accepts ttl providerType w market ↔ w.view.Ready w.tenantId providerType market := by
  constructor
  · intro h
    by_contra hno
    -- Some UID is well formed, and it is answered.
    let s : Submission := ⟨0, market, "123456789", none, none⟩
    have hvalid : isValidBitunixUid s.uid = true := by
      show isValidBitunixUid (normalizeUid "123456789") = true
      decide +kernel
    have hunready : Works (Only plainEnv) (submitUid ttl providerType w.tenantId s.telegramUserId
        s.market s.rawUid s.username s.firstName) _ (fun _ _ => False) w :=
      works_submitUid_unready hw hconflict hvalid hno
    obtain ⟨r, w', hruns, rfl, -⟩ := exists_answer hunready
    exact h s rfl hvalid _ w' hruns rfl
  · rintro hready s rfl hvalid r w' hruns hout
    have hsubmitted := wp_sound (meets_submitted s hw hconflict) hruns
    exact (Submitted.notConfigured_iff hvalid hsubmitted).mp hout hready

end Accepts

/-! ## Offering a market -/

/-- The update may be answered with the referral link of the market. -/
def Offers (providerType : ProviderType) (w : World) (incoming : IncomingUpdate)
    (market : Market) : Prop :=
  ∃ config w', Runs (serial Anything) (BotConversation.plan providerType w.tenantId incoming) w
    (.ok (.offer market config)) w'

/-- The update is the button of a market with an active program, and no active channel. -/
def DeadButton (providerType : ProviderType) (tenantId : TenantId) (incoming : IncomingUpdate)
    (d : Database) : Prop :=
  ∃ market, incoming.button = some market ∧
    (∃ config ∈ d .referralProgramConfigs, config.tenantId = tenantId ∧
      config.providerType = providerType ∧ config.market = market ∧ config.isActive = true) ∧
    ¬ ∃ channel ∈ d .telegramChannels, channel.tenantId = tenantId ∧ channel.market = market ∧
      channel.isActive = true

section Offers

variable {ttl : TimeDelta} {providerType : ProviderType} {w : World}
  {incoming : IncomingUpdate} {market : Market}

/-- The button of a market with an active program is always answered with its link. -/
theorem offers_of_button (hw : w.Sound) (hconflict : w.conflict = none)
    (hbutton : incoming.button = some market) {config : ReferralProgramConfig}
    (hconfig : w.HasProgram providerType market config) :
    Offers providerType w incoming market := by
  obtain ⟨raw, hraw, hmarket⟩ := Option.bind_eq_some_iff.mp hbutton
  have hworks : Works (Only plainEnv) (BotConversation.plan providerType w.tenantId incoming)
      (fun p _ => ∃ config, p = .offer market config) (fun _ _ => False) w := by
    unfold BotConversation.plan
    rw [hraw]
    dsimp only
    rw [hmarket]
    dsimp only
    unfold BotConversation.planOffer
    rw [works_bind]
    refine works_getFor hw hconflict fun found hfound => ?_
    have hscope : w.inScope (t := .referralProgramConfigs) (fun r => r.tenantId == w.tenantId &&
        r.providerType == providerType && r.market == market) config = true := by
      simp [World.inScope, rowTenant, hconfig.tenantId_eq, hconfig.providerType_eq,
        hconfig.market_eq]
    cases found with
    | none =>
      have := hfound config hconfig.mem
      rw [hscope] at this
      cases this
    | some found =>
      have heq : config = found := hfound.2.2 config hconfig.mem hscope
      rw [← heq]
      simp only [hconfig.active, Bool.not_true, Bool.false_eq_true, if_false]
      exact ⟨config, rfl⟩
  obtain ⟨p, w', hruns, config, rfl⟩ := exists_answer hworks
  exact ⟨config, w', hruns⟩

/-- An offer is of a market that is set up, unless it answers a dead button. -/
theorem ready_of_offers (hw : w.Sound) (h : Offers providerType w incoming market)
    (hdead : ¬ DeadButton providerType w.tenantId incoming w.view) :
    w.view.Ready w.tenantId providerType market := by
  obtain ⟨config, w', hruns⟩ := h
  obtain ⟨-, hplanned⟩ := wp_sound (BotConversation.meets_plan hw) hruns
  cases hplanned with
  | only hsole _ => exact (hsole market).mpr rfl
  | button hbutton hp =>
    have hprogram : ∃ config ∈ w.view .referralProgramConfigs, config.tenantId = w.tenantId ∧
        config.providerType = providerType ∧ config.market = market ∧ config.isActive = true :=
      ⟨config, hp.mem, hp.tenantId_eq, hp.providerType_eq, hp.market_eq, hp.active⟩
    by_contra hno
    exact hdead ⟨market, hbutton, hprogram, fun hchannel => hno ⟨hprogram, hchannel⟩⟩

/-- What is listed is what is set up. -/
theorem listed_eq (hw : w.Sound) {markets : List Market} {w' : World}
    (hruns : Runs (serial Anything) (BotConversation.availableMarkets providerType w.tenantId) w
      (.ok markets) w') : markets = w.view.readyMarkets w.tenantId providerType := by
  have hmeets : Meets Anything (BotConversation.availableMarkets providerType w.tenantId)
      (fun markets _ => markets = w.view.readyMarkets w.tenantId providerType) (fun _ _ => True)
      w :=
    BotConversation.meets_availableMarkets_ready hw rfl fun _ => trivial
  exact wp_sound hmeets hruns

/-- What the conversation offers is what a UID is let in for, but for the button of a market
    whose channel is gone; what it lists always is. -/
theorem no_dead_ends_iff {w₀ : World} (hsound : w₀.Sound) (A : TenantId) :
    ((∀ market, Offers providerType (w₀.opened A) incoming market →
        Accepts ttl providerType (w₀.opened A) market) ↔
      ¬ DeadButton providerType A incoming w₀.db) ∧
    ∀ markets w', Runs (serial Anything) (BotConversation.availableMarkets providerType A)
      (w₀.opened A) (.ok markets) w' →
      ∀ market, market ∈ markets ↔ Accepts ttl providerType (w₀.opened A) market := by
  have hw : (w₀.opened A).Sound := hsound.opened A
  have haccepts : ∀ market, Accepts ttl providerType (w₀.opened A) market ↔
      w₀.db.Ready A providerType market := fun market => accepts_iff_ready hw rfl
  refine ⟨⟨fun h hdead => ?_, fun hdead market hoffers => ?_⟩, fun markets w' hruns market => ?_⟩
  · obtain ⟨market, hbutton, ⟨config, hmem, ht, hp, hm, hactive⟩, hnone⟩ := hdead
    have hoffers : Offers providerType (w₀.opened A) incoming market :=
      offers_of_button hw rfl hbutton ⟨hmem, ht, hp, hm, hactive⟩
    exact hnone ((haccepts market).mp (h market hoffers)).2
  · exact (haccepts market).mpr (ready_of_offers hw hoffers hdead)
  · rw [listed_eq hw hruns, haccepts]
    exact Database.mem_readyMarkets

end Offers

/-- Nothing is missing: what `/start` offers is what a UID is let in for. -/
theorem no_dead_end_from_start :
    (∀ market, Offers .bitunix (hookedWorld.opened 1) startMessage market →
      Accepts defaultSettings.ttl .bitunix (hookedWorld.opened 1) market) ∧
    Offers .bitunix (hookedWorld.opened 1) startMessage .crypto := by
  have hbutton : ¬ DeadButton .bitunix 1 startMessage hookedWorld.db := by
    rintro ⟨market, hbutton, -⟩
    exact Option.some_ne_none _ hbutton.symm
  refine ⟨(no_dead_ends_iff sound_hookedWorld 1).1.mpr hbutton, configOf .crypto, ?_⟩
  have hruns := runs_anything (runs_only roomyEnv (BotConversation.plan .bitunix 1 startMessage)
    (hookedWorld.opened 1))
  have hoffer : (exec World.step roomyEnv (BotConversation.plan .bitunix 1 startMessage)
      (hookedWorld.opened 1)).1 = .ok (.offer .crypto (configOf .crypto)) := by decide +kernel
  rw [hoffer] at hruns
  exact ⟨_, hruns⟩

/-- The button of a menu from before the tenant closed its channel. -/
def oldButton : IncomingUpdate :=
  { chatId := 77, userId := 77, callbackData := some "market:CRYPTO" }

def closedChannelWorld : World :=
  (exec World.step roomyEnv (Operation.program (.key some) defaultSettings 1
    (.upsertChannel { market := .crypto, chatId := -1001, isActive := false })) hookedWorld).2

/-- It is answered with the link of a market that no UID is let in for. -/
theorem old_button_leads_nowhere :
    (exec World.step roomyEnv
      (BotConversation.handle defaultSettings.ttl .bitunix 1 oldButton)
      (closedChannelWorld.opened 1)).1 =
        .ok [{ text := Messages.WELCOME "" (configOf .crypto).referralLink }] ∧
    (exec World.step roomyEnv (submitUid defaultSettings.ttl .bitunix 1 77 .crypto "123456789"
      none none) (closedChannelWorld.opened 1)).1 =
        .ok { outcome := .notConfigured, uid := some "123456789" } ∧
    Offers .bitunix (closedChannelWorld.opened 1) oldButton .crypto ∧
    ¬ Accepts defaultSettings.ttl .bitunix (closedChannelWorld.opened 1) .crypto := by
  have hoffer : (exec World.step roomyEnv (BotConversation.plan .bitunix 1 oldButton)
      (closedChannelWorld.opened 1)).1 = .ok (.offer .crypto (configOf .crypto)) := by
    decide +kernel
  have hanswer : (exec World.step roomyEnv (submitUid defaultSettings.ttl .bitunix 1 77 .crypto
      "123456789" none none) (closedChannelWorld.opened 1)).1 =
        .ok { outcome := .notConfigured, uid := some "123456789" } := by
    decide +kernel
  refine ⟨by decide +kernel, hanswer, ⟨configOf .crypto, ?_⟩, fun haccepts => ?_⟩
  · have hplan := runs_anything (runs_only roomyEnv (BotConversation.plan .bitunix 1 oldButton)
      (closedChannelWorld.opened 1))
    rw [hoffer] at hplan
    exact ⟨_, hplan⟩
  · have hsubmit := runs_anything (runs_only roomyEnv (submitUid defaultSettings.ttl .bitunix 1 77
      .crypto "123456789" none none) (closedChannelWorld.opened 1))
    rw [hanswer] at hsubmit
    have hvalid : isValidBitunixUid (normalizeUid "123456789") = true := by decide +kernel
    exact haccepts ⟨77, .crypto, "123456789", none, none⟩ rfl hvalid _ _ hsubmit rfl

end VipChannel

/-
  VipChannel.Services.MarketChoice

  Which market an update is about.

  The flow reads first and acts afterwards: `plan` is its reading half, with what it decides
  as the result, and `carryOut` the other half.  `handle_eq` puts them together again, so
  that a run of `handle` says what was decided, and in which state.
-/
import VipChannel.Services.ConversationSpec

namespace VipChannel

open Lib
open Program (perform raising)

/-- What the flow does with an update. -/
inductive Plan where
  /-- Only answer. -/
  | answer (replies : List Reply)
  /-- Offer the referral link of the market's program, and remember the market. -/
  | offer (market : Market) (config : ReferralProgramConfig)
  /-- Submit the UID for the market. -/
  | submit (market : Market) (uid : String)
  deriving DecidableEq

namespace BotConversation

variable (ttl : TimeDelta) (providerType : ProviderType) (tenantId : TenantId)
  (incoming : IncomingUpdate)

def planOffer (market : Market) : App Plan := do
  match ← ReferralProgramConfigRepository.getFor tenantId providerType market with
  | none => return .answer [{ text := Messages.NOT_CONFIGURED }]
  | some config =>
    if !config.isActive then
      return .answer [{ text := Messages.NOT_CONFIGURED }]
    else
      return .offer market config

def planStart : App Plan := do
  match ← availableMarkets providerType tenantId with
  | [] => return .answer [{ text := Messages.NOT_CONFIGURED }]
  | [market] => planOffer providerType tenantId market
  | markets =>
    let buttons := markets.map fun market =>
      [{ text := MARKET_LABELS market, callbackData := MARKET_CALLBACK_PREFIX ++ market.value }]
    return .answer [{ text := Messages.CHOOSE_MARKET, replyMarkup := some buttons }]

def planUid (rawText : String) : App Plan := do
  let uid := normalizeUid rawText
  if !isValidBitunixUid uid then
    return .answer [{ text := Messages.INVALID_UID }]
  else
    let user ← TelegramUserRepository.getByTelegramId tenantId incoming.userId
    match user.bind (·.pendingMarket) with
    | some market => return .submit market uid
    | none =>
      match ← availableMarkets providerType tenantId with
      | [market] => return .submit market uid
      | _ => planStart providerType tenantId

/-- The reading half of `handle`. -/
def plan : App Plan :=
  match callbackMarket incoming.callbackData with
  | some raw =>
    match Market.ofValue? raw with
    | none => return .answer [{ text := Messages.NOT_CONFIGURED }]
    | some market => planOffer providerType tenantId market
  | none =>
    let text := strip (incoming.text.getD "").toList
    if "/start".toList.isPrefixOf text then
      planStart providerType tenantId
    else if text ≠ [] ∧ isDigits (normalizeUid (String.ofList text)).toList then
      planUid providerType tenantId incoming (String.ofList text)
    else
      return .answer [{ text := Messages.ASK_FOR_UID }]

/-- The other half. -/
def carryOut : Plan → App (List Reply)
  | .answer replies => return replies
  | .offer market config => do
    let user ← ensureUser tenantId incoming
    update .telegramUsers (fun r => r.id == user.id) fun r =>
      { r with pendingMarket := some market }
    return [{ text := Messages.WELCOME (incoming.firstName.getD "") config.referralLink }]
  | .submit market uid => submit ttl providerType tenantId incoming market uid

theorem offerReferralLink_eq (market : Market) :
    offerReferralLink providerType tenantId incoming market =
      planOffer providerType tenantId market >>= carryOut ttl providerType tenantId incoming := by
  unfold offerReferralLink planOffer
  rw [bind_assoc]
  refine congrArg _ (funext fun found => ?_)
  cases found with
  | none => rfl
  | some config =>
    dsimp only
    split <;> rfl

theorem start_eq : start providerType tenantId incoming =
    planStart providerType tenantId >>= carryOut ttl providerType tenantId incoming := by
  unfold start planStart
  rw [bind_assoc]
  refine congrArg _ (funext fun markets => ?_)
  match markets with
  | [] => rfl
  | [market] => exact offerReferralLink_eq ttl providerType tenantId incoming market
  | _ :: _ :: _ => rfl

theorem handleUid_eq (rawText : String) :
    handleUid ttl providerType tenantId incoming rawText =
      planUid providerType tenantId incoming rawText >>=
        carryOut ttl providerType tenantId incoming := by
  unfold handleUid planUid
  dsimp only
  split
  · rfl
  rw [bind_assoc]
  refine congrArg _ (funext fun user => ?_)
  cases user.bind (·.pendingMarket) with
  | some market => rfl
  | none =>
    dsimp only
    rw [bind_assoc]
    refine congrArg _ (funext fun markets => ?_)
    match markets with
    | [market] => rfl
    | [] => exact start_eq ttl providerType tenantId incoming
    | _ :: _ :: _ => exact start_eq ttl providerType tenantId incoming

/-- A decided submission is one call of `submitUid`, for the market that was decided. -/
theorem carryOut_submit (market : Market) (uid : String) :
    carryOut ttl providerType tenantId incoming (.submit market uid) = do
      let config ← ReferralProgramConfigRepository.getFor tenantId providerType market
      let result ← ReferralOnboardingService.submitUid ttl providerType tenantId
        incoming.userId market uid incoming.username incoming.firstName
      return [{
        text := ← raising (render result ((config.map (·.referralLink)).getD "")) }] := by
  change submit ttl providerType tenantId incoming market uid = _
  unfold submit
  refine congrArg _ (funext fun config => ?_)
  cases config <;> rfl

/-- Handling an update is deciding what to do, and doing it. -/
theorem handle_eq : handle ttl providerType tenantId incoming =
    plan providerType tenantId incoming >>= carryOut ttl providerType tenantId incoming := by
  unfold handle plan
  cases callbackMarket incoming.callbackData with
  | some raw =>
    dsimp only
    cases Market.ofValue? raw with
    | none => rfl
    | some market => exact offerReferralLink_eq ttl providerType tenantId incoming market
  | none =>
    dsimp only
    split
    · exact start_eq ttl providerType tenantId incoming
    · split
      · exact handleUid_eq ttl providerType tenantId incoming _
      · rfl

end BotConversation

/-! ## The markets that are set up -/

instance (d : Database) (tenantId : TenantId) (providerType : ProviderType) (market : Market) :
    Decidable (d.Ready tenantId providerType market) :=
  inferInstanceAs (Decidable (_ ∧ _))

/-- The markets of a tenant that are completely set up, sorted by their values. -/
def Database.readyMarkets (d : Database) (tenantId : TenantId) (providerType : ProviderType) :
    List Market :=
  [Market.crypto, Market.forex].filter fun market => d.Ready tenantId providerType market

theorem Database.mem_readyMarkets {d : Database} {tenantId : TenantId}
    {providerType : ProviderType} {market : Market} :
    market ∈ d.readyMarkets tenantId providerType ↔ d.Ready tenantId providerType market := by
  unfold Database.readyMarkets
  cases market <;> simp

/-- There is one market in the list when exactly one is set up. -/
theorem Database.readyMarkets_eq_singleton {d : Database} {tenantId : TenantId}
    {providerType : ProviderType} {market : Market} :
    d.readyMarkets tenantId providerType = [market] ↔
      ∀ m, d.Ready tenantId providerType m ↔ m = market := by
  constructor
  · intro h m
    rw [← Database.mem_readyMarkets, h, List.mem_singleton]
  · intro h
    unfold Database.readyMarkets
    cases market <;> simp [h]

/-- Rows told apart by a key are no more than there are keys. -/
theorem length_le_of_keys {α κ : Type} {rows : List α} (key : α → κ) (keys : List κ)
    (h : rows.Pairwise fun r s => key r ≠ key s) (hkeys : ∀ r ∈ rows, key r ∈ keys) :
    rows.length ≤ keys.length := by
  have hnodup : (rows.map key).Nodup := List.pairwise_map.mpr h
  have hsub : rows.map key ⊆ keys := by
    intro k hk
    obtain ⟨r, hr, rfl⟩ := List.mem_map.mp hk
    exact hkeys r hr
  have hle := (hnodup.subperm hsub).length_le
  rwa [List.length_map] at hle

/-- Rows of a tenant in a table, no two of which clash. -/
structure OwnRows (tenantId : TenantId) (t : Table) (rows : List (Row t)) : Prop where
  distinct : rows.Pairwise fun r s => clash t r s = false
  tenant : ∀ r ∈ rows, rowTenant t r = tenantId

/-- A tenant has one program for each provider and market. -/
theorem OwnRows.few_configs {tenantId : TenantId} {rows : List ReferralProgramConfig}
    (h : OwnRows tenantId .referralProgramConfigs rows) : rows.length ≤ 100 := by
  have hle := length_le_of_keys (fun c : ReferralProgramConfig => (c.providerType, c.market))
    [(.bitunix, .crypto), (.bitunix, .forex), (.eplanet, .crypto), (.eplanet, .forex),
      (.telegram, .crypto), (.telegram, .forex)]
    (h.distinct.imp_of_mem fun {r s} hr hs hclash heq => ?_) fun r _ => ?_
  · exact hle.trans (by decide)
  · have ht : r.tenantId = s.tenantId := (h.tenant r hr).trans (h.tenant s hs).symm
    simp only [Prod.mk.injEq] at heq
    simp [clash, ht, heq] at hclash
  · cases r.providerType <;> cases r.market <;> simp

/-- A tenant has one channel for each market. -/
theorem OwnRows.few_channels {tenantId : TenantId} {rows : List TelegramChannel}
    (h : OwnRows tenantId .telegramChannels rows) : rows.length ≤ 100 := by
  have hle := length_le_of_keys (fun c : TelegramChannel => c.market) [.crypto, .forex]
    (h.distinct.imp_of_mem fun {r s} hr hs hclash heq => ?_) fun r _ => ?_
  · exact hle.trans (by decide)
  · have ht : r.tenantId = s.tenantId := (h.tenant r hr).trans (h.tenant s hs).symm
    simp [clash, ht, heq] at hclash
  · cases r.market <;> simp

/-! ## What is decided -/

/-- The market whose button the update is. -/
def IncomingUpdate.button (incoming : IncomingUpdate) : Option Market :=
  (BotConversation.callbackMarket incoming.callbackData).bind Market.ofValue?

/-- The submission that the flow makes of the update. -/
def IncomingUpdate.submission (incoming : IncomingUpdate) (market : Market) (uid : String) :
    Submission where
  telegramUserId := incoming.userId
  market := market
  rawUid := uid
  username := incoming.username
  firstName := incoming.firstName

/-- The active program of the market. -/
structure World.HasProgram (w : World) (providerType : ProviderType) (market : Market)
    (config : ReferralProgramConfig) : Prop where
  mem : config ∈ w.view .referralProgramConfigs
  tenantId_eq : config.tenantId = w.tenantId
  providerType_eq : config.providerType = providerType
  market_eq : config.market = market
  active : config.isActive = true

/-- Why the flow decides as it does. -/
inductive Planned (providerType : ProviderType) (incoming : IncomingUpdate) (w : World) :
    Plan → Prop
  | answered {replies : List Reply} : Planned providerType incoming w (.answer replies)
  /-- The user chose the market. -/
  | button {market : Market} {config : ReferralProgramConfig} :
      incoming.button = some market → w.HasProgram providerType market config →
      Planned providerType incoming w (.offer market config)
  /-- There is one market to choose. -/
  | only {market : Market} {config : ReferralProgramConfig} :
      (∀ m, w.view.Ready w.tenantId providerType m ↔ m = market) →
      w.HasProgram providerType market config →
      Planned providerType incoming w (.offer market config)
  /-- The user was offered the market before. -/
  | chosen {user : TelegramUser} {market : Market} {uid : String} :
      isValidBitunixUid uid = true → user ∈ w.view .telegramUsers → user.tenantId = w.tenantId →
      user.telegramUserId = incoming.userId → user.pendingMarket = some market →
      Planned providerType incoming w (.submit market uid)
  | sole {market : Market} {uid : String} : isValidBitunixUid uid = true →
      (∀ r ∈ w.view .telegramUsers, r.tenantId = w.tenantId →
        r.telegramUserId = incoming.userId → r.pendingMarket = none) →
      (∀ m, w.view.Ready w.tenantId providerType m ↔ m = market) →
      Planned providerType incoming w (.submit market uid)

/-- A user's row is replaced or added. -/
structure UserSaved (users : List TelegramUser) (user : TelegramUser) (prior : Option TelegramUser)
    (users' : List TelegramUser) : Prop where
  upsert : Upsert TelegramUser.id users user prior users'
  found : ∀ p, prior = some p →
    p.tenantId = user.tenantId ∧ p.telegramUserId = user.telegramUserId
  unknown : prior = none → ∀ r ∈ users,
    ¬ (r.tenantId = user.tenantId ∧ r.telegramUserId = user.telegramUserId)

/-- The market is remembered on the row of the user it is offered to. -/
structure Offered (incoming : IncomingUpdate) (market : Market) (w w' : World) : Prop where
  saved : ∃ user prior, UserSaved (w.view .telegramUsers) user prior (w'.view .telegramUsers) ∧
    user.tenantId = w.tenantId ∧ user.telegramUserId = incoming.userId ∧
    user.pendingMarket = some market
  same : w.SameBut [.telegramUsers] w'

/-- Remembered in the database: a redeploy must not lose the choice. -/
def remember (market : Market) (user : TelegramUser) : TelegramUser :=
  { user with pendingMarket := some market }

section Rules

variable {G : World → Op → Choice → Prop} {w : World} {E : PyError → Ledger → Prop}

/-- What is listed is all there is, where a tenant has few rows. -/
theorem meets_listAll_few {t : Table} {Q : List (Row t) → World → Prop} (hw : w.Sound)
    (hfew : ∀ rows : List (Row t), OwnRows w.tenantId t rows → rows.length ≤ 100)
    (hok : ∀ rows, (∀ r, r ∈ rows ↔ r ∈ w.view t ∧ rowTenant t r = w.tenantId) → Q rows w)
    (herr : ∀ e, E e w.ledger) : Meets G (listAll t w.tenantId) Q E w := by
  have hscope : ∀ r, w.inScope (fun r => rowTenant t r == w.tenantId) r = true ↔
      rowTenant t r = w.tenantId := by
    intro r
    simp [World.inScope]
  unfold listAll
  rw [meets_bind]
  refine meets_select (fun _ rows hrows => ?_) herr
  rw [meets_pure]
  have hmem : ∀ r, r ∈ rows ↔ r ∈ w.view t ∧ rowTenant t r = w.tenantId := by
    intro r
    rw [hrows.mem_iff, List.mem_filter, hscope]
  have hown : OwnRows w.tenantId t rows := by
    refine ⟨?_, fun r hr => ((hmem r).mp hr).2⟩
    have hpairs := (hw.view t).filter (w.inScope fun r => rowTenant t r == w.tenantId)
    exact (hrows.pairwise_iff fun {r s} h => (clash_comm t s r).trans h).mpr hpairs
  rw [List.take_of_length_le (hfew rows hown)]
  exact hok rows hmem

namespace BotConversation

variable {providerType : ProviderType} {incoming : IncomingUpdate}

/-- The menu lists the markets that are completely set up. -/
theorem meets_availableMarkets_ready {Q : List Market → World → Prop} (hw : w.Sound)
    (hok : Q (w.view.readyMarkets w.tenantId providerType) w) (herr : ∀ e, E e w.ledger) :
    Meets G (availableMarkets providerType w.tenantId) Q E w := by
  unfold availableMarkets
  rw [meets_bind]
  refine meets_listAll_few hw (fun _ h => h.few_configs) (fun configs hconfigs => ?_) herr
  rw [meets_bind]
  refine meets_listAll_few hw (fun _ h => h.few_channels) (fun channels hchannels => ?_) herr
  rw [meets_pure]
  have heq : ([Market.crypto, Market.forex].filter fun market =>
      configs.any (fun c => c.isActive && c.providerType == providerType && c.market == market) &&
        channels.any fun c => c.isActive && c.market == market) =
      w.view.readyMarkets w.tenantId providerType := by
    unfold Database.readyMarkets
    apply List.filter_congr
    intro market _
    rw [Bool.eq_iff_iff, Bool.and_eq_true, List.any_eq_true, List.any_eq_true, decide_eq_true_iff]
    refine and_congr (exists_congr fun c => ?_) (exists_congr fun c => ?_)
    · rw [hconfigs, Bool.and_eq_true, Bool.and_eq_true, beq_iff_eq, beq_iff_eq]
      show (c ∈ _ ∧ c.tenantId = w.tenantId) ∧ _ ↔ _
      tauto
    · rw [hchannels, Bool.and_eq_true, beq_iff_eq]
      show (c ∈ _ ∧ c.tenantId = w.tenantId) ∧ _ ↔ _
      tauto
  rw [heq]
  exact hok

theorem meets_planOffer {market : Market} {Q : Plan → World → Prop}
    (hanswer : ∀ replies, Q (.answer replies) w)
    (hoffer : ∀ config, w.HasProgram providerType market config → Q (.offer market config) w)
    (herr : ∀ e, E e w.ledger) : Meets G (planOffer providerType w.tenantId market) Q E w := by
  unfold planOffer ReferralProgramConfigRepository.getFor
  rw [meets_bind]
  refine meets_selectOneOrNone (fun _ config hfound => ?_) herr
  cases config with
  | none => exact hanswer _
  | some config =>
    obtain ⟨hmem, hscope, -⟩ := hfound
    have hcond := World.inScope_cond hscope
    simp only [Bool.and_eq_true, beq_iff_eq] at hcond
    by_cases hactive : config.isActive = true
    · simp only [hactive, Bool.not_true, Bool.false_eq_true, if_false]
      exact hoffer config ⟨hmem, hcond.1.1, hcond.1.2, hcond.2, hactive⟩
    · simp only [hactive, Bool.not_false, if_true]
      exact hanswer _

theorem meets_planStart {Q : Plan → World → Prop} (hw : w.Sound)
    (hanswer : ∀ replies, Q (.answer replies) w)
    (hoffer : ∀ market config, (∀ m, w.view.Ready w.tenantId providerType m ↔ m = market) →
      w.HasProgram providerType market config → Q (.offer market config) w)
    (herr : ∀ e, E e w.ledger) : Meets G (planStart providerType w.tenantId) Q E w := by
  unfold planStart
  rw [meets_bind]
  refine meets_availableMarkets_ready hw ?_ herr
  cases hmarkets : w.view.readyMarkets w.tenantId providerType with
  | nil => exact hanswer _
  | cons market rest =>
    cases rest with
    | nil =>
      have hsole := Database.readyMarkets_eq_singleton.mp hmarkets
      exact meets_planOffer hanswer
        (fun config hprogram => hoffer market config hsole hprogram) herr
    | cons second rest => exact hanswer _

/-- A user without a choice, or nobody, is found: no row of the user has one. -/
theorem not_pending_of_found {userId : Int} {user : Option TelegramUser}
    (hfound : w.Found .telegramUsers
      (fun r => r.tenantId == w.tenantId && r.telegramUserId == userId) user)
    (hpending : user.bind (·.pendingMarket) = none) :
    ∀ r ∈ w.view .telegramUsers, r.tenantId = w.tenantId → r.telegramUserId = userId →
      r.pendingMarket = none := by
  intro r hr ht hu
  have hscope : w.inScope (t := .telegramUsers)
      (fun r => r.tenantId == w.tenantId && r.telegramUserId == userId) r = true := by
    simp [World.inScope, rowTenant, ht, hu]
  cases user with
  | none =>
    have hout := hfound r hr
    rw [hscope] at hout
    cases hout
  | some user =>
    rw [hfound.2.2 r hr hscope]
    exact hpending

theorem meets_planUid {rawText : String} {Q : Plan → World → Prop} (hw : w.Sound)
    (hok : ∀ p, Planned providerType incoming w p → Q p w) (herr : ∀ e, E e w.ledger) :
    Meets G (planUid providerType w.tenantId incoming rawText) Q E w := by
  have hstart : Meets G (planStart providerType w.tenantId) Q E w :=
    meets_planStart hw (fun _ => hok _ .answered) (fun _ _ hsole hp => hok _ (.only hsole hp)) herr
  unfold planUid TelegramUserRepository.getByTelegramId
  dsimp only
  by_cases hvalid : isValidBitunixUid (normalizeUid rawText) = true
  swap
  · rw [if_pos (by simpa using hvalid)]
    exact hok _ .answered
  rw [if_neg (by simpa using hvalid), meets_bind]
  refine meets_selectOneOrNone (fun _ user hfound => ?_) herr
  cases hpending : user.bind (·.pendingMarket) with
  | some market =>
    obtain ⟨r, rfl, hmarket⟩ := Option.bind_eq_some_iff.mp hpending
    obtain ⟨hmem, hscope, -⟩ := hfound
    have hcond := World.inScope_cond hscope
    simp only [Bool.and_eq_true, beq_iff_eq] at hcond
    exact hok _ (.chosen hvalid hmem hcond.1 hcond.2 hmarket)
  | none =>
    have hnone := not_pending_of_found hfound hpending
    dsimp only
    rw [meets_bind]
    refine meets_availableMarkets_ready hw ?_ herr
    cases hmarkets : w.view.readyMarkets w.tenantId providerType with
    | nil => exact hstart
    | cons market rest =>
      cases rest with
      | nil =>
        exact hok _ (.sole hvalid hnone (Database.readyMarkets_eq_singleton.mp hmarkets))
      | cons second rest => exact hstart

/-- What is decided follows from the rows and the update, and nothing is changed by then. -/
theorem meets_plan (hw : w.Sound) :
    Meets G (plan providerType w.tenantId incoming)
      (fun p w' => w' = w ∧ Planned providerType incoming w p) (fun _ l => l = w.ledger) w := by
  unfold plan
  cases hbutton : callbackMarket incoming.callbackData with
  | some raw =>
    dsimp only
    cases hmarket : Market.ofValue? raw with
    | none => exact ⟨rfl, .answered⟩
    | some market =>
      refine meets_planOffer (fun _ => ⟨rfl, .answered⟩) (fun config hp => ⟨rfl, .button ?_ hp⟩)
        fun _ => rfl
      unfold IncomingUpdate.button
      rw [hbutton]
      exact hmarket
  | none =>
    dsimp only
    split
    · exact meets_planStart hw (fun _ => ⟨rfl, .answered⟩)
        (fun _ _ hsole hp => ⟨rfl, .only hsole hp⟩) fun _ => rfl
    · split
      · exact meets_planUid hw (fun _ hp => ⟨rfl, hp⟩) fun _ => rfl
      · exact ⟨rfl, .answered⟩

/-! ## What an offer leaves -/

/-- An offer is recorded on the user's row, which may be new. -/
theorem meets_offer {ttl : TimeDelta} {market : Market} {config : ReferralProgramConfig}
    (hw : w.Sound) :
    Meets G (carryOut ttl providerType w.tenantId incoming (.offer market config))
      (fun _ w' => Offered incoming market w w') (fun _ l => l = w.ledger) w := by
  have hother : ∀ t : Table, t ∉ [Table.telegramUsers] → t ≠ .telegramUsers :=
    fun t ht => by simpa using ht
  unfold carryOut ensureUser TelegramUserRepository.getByTelegramId
  dsimp only
  rw [meets_bind, meets_bind]
  refine meets_selectOneOrNone (fun _ found hfound => ?_) fun _ => rfl
  cases found with
  | some user =>
    obtain ⟨hmem, hscope, -⟩ := hfound
    have hcond := World.inScope_cond hscope
    simp only [Bool.and_eq_true, beq_iff_eq] at hcond
    obtain ⟨hone, hid⟩ := hw.inScope_id (t := .telegramUsers) TelegramUser.id hmem hcond.1
      fun r s h => by simp [clash, h]
    rw [meets_pure, meets_bind]
    refine meets_update (fun _ _ _ => rfl) ?_
    refine ⟨⟨remember market user, some user, ⟨?_, ?_, ?_⟩, hcond.1, hcond.2, rfl⟩,
      fun t ht => Store.modify_other _ (hother t ht) _ _, rfl, rfl⟩
    · have hrows := Store.modify_self w.view Table.telegramUsers
      change Upsert _ _ _ _ (w.view.modify .telegramUsers _ _ .telegramUsers)
      rw [hrows]
      have hkeep : (remember market user).id = user.id := rfl
      exact upsert_modifyRows hmem hkeep hone hid
    · intro p hp
      cases hp
      exact ⟨rfl, rfl⟩
    · intro hp
      cases hp
  | none =>
    have hnone : ∀ r ∈ w.view .telegramUsers,
        ¬ (r.tenantId = w.tenantId ∧ r.telegramUserId = incoming.userId) := by
      rintro r hr ⟨ht, hu⟩
      have := hfound r hr
      simp [World.inScope, rowTenant, ht, hu] at this
    rw [meets_bind]
    refine meets_uuid4 fun id => ?_
    refine meets_sound hw (meets_saveNew rfl (by simp) (fun r hr => ?_)
      (fun _ hfresh hw₁ => ?_) fun _ => rfl)
    · simp only [beq_iff_eq] at hr
      simp [clash, hr]
    -- The new row is the one the offer is recorded on.
    let user : TelegramUser := {
      id, tenantId := w.tenantId, telegramUserId := incoming.userId
      username := incoming.username, firstName := incoming.firstName }
    have hrows := Store.append_self w.view Table.telegramUsers user
    have hinsert : Upsert TelegramUser.id (w.view .telegramUsers) user none
        (w.view.append .telegramUsers user .telegramUsers) := by
      rw [hrows]
      refine .insert fun r hr hid => ?_
      have := hfresh r hr
      have hsame : id = r.id := hid.symm
      simp [clash, hsame] at this
    obtain ⟨-, hid⟩ := hw₁.inScope_id (t := .telegramUsers) TelegramUser.id
      (hinsert.mem_iff.mpr (.inl rfl)) rfl fun r s h => by simp [clash, h]
    rw [meets_bind]
    refine meets_update (fun _ _ _ => rfl) ?_
    refine ⟨⟨remember market user, none, ⟨?_, ?_, fun _ => hnone⟩, rfl, rfl, rfl⟩,
      fun t ht => ?_, rfl, rfl⟩
    rotate_left
    · intro p hp
      cases hp
    rotate_left
    · have hmodify := Store.modify_self (w.view.append .telegramUsers user) Table.telegramUsers
      change Upsert _ _ _ _
        ((w.view.append .telegramUsers user).modify .telegramUsers _ _ .telegramUsers)
      rw [hmodify]
      have hkeep : (remember market user).id = user.id := rfl
      exact hinsert.modify hkeep hid
    · exact (Store.modify_other _ (hother t ht) _ _).trans (Store.append_other _ (hother t ht) _)

/-- Submitting is a submission by whoever sent the update, put into words. -/
theorem meets_submit_rendered {ttl : TimeDelta} {market : Market} {uid : String} (hw : w.Sound)
    (hconflict : w.conflict = none) :
    Meets G (submit ttl providerType w.tenantId incoming market uid)
      (fun replies w' => ∃ r referralLink text,
        Submitted G ttl providerType (incoming.submission market uid) w r w' ∧
        render r referralLink = .ok text ∧ replies = [{ text := text }])
      (fun _ _ => True) w := by
  unfold submit ReferralProgramConfigRepository.getFor
  rw [meets_bind]
  refine meets_selectOneOrNone (fun _ config _ => ?_) fun _ => trivial
  rw [meets_bind]
  refine meets_mono (meets_submitted (incoming.submission market uid) hw hconflict)
    (fun r w' h => ?_) fun _ _ _ => trivial
  rw [meets_bind]
  exact meets_raising (fun text htext => ⟨r, _, text, h, htext, rfl⟩) fun _ => trivial

theorem meets_submit_submitted {ttl : TimeDelta} {market : Market} {uid : String} (hw : w.Sound)
    (hconflict : w.conflict = none) :
    Meets G (submit ttl providerType w.tenantId incoming market uid)
      (fun _ w' => ∃ r, Submitted G ttl providerType (incoming.submission market uid) w r w')
      (fun _ _ => True) w := by
  refine meets_mono (meets_submit_rendered hw hconflict) (fun _ _ h => ?_) fun _ _ h => h
  obtain ⟨r, -, -, h, -, -⟩ := h
  exact ⟨r, h⟩

end BotConversation

end Rules

end VipChannel

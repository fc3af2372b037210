/-
  VipChannel.Runs.Choices

  A UID goes to the market the user chose.

  The choice is kept in a column of the user's row.  `Course` follows the operations of all
  tenants and notes, next to the world, which market was last offered to each user of one
  tenant in an update that was committed; the column says the same in every world reached.
-/
import VipChannel.Services.MarketChoice
import VipChannel.Runs.Coherence

namespace VipChannel

open Lib
open Program (perform raising)

/-! ## The users a handled update leaves -/

section Users

variable {G : World → Op → Choice → Prop} {ttl : TimeDelta} {providerType : ProviderType}
  {s : Submission} {w w' : World}

/-- Whoever submits keeps the market that was offered to them. -/
theorem Identified.saved {user : TelegramUser} {prior : Option TelegramUser}
    (h : Identified w s user prior w') :
    UserSaved (w.view .telegramUsers) user prior (w'.view .telegramUsers) ∧
      user.tenantId = w.tenantId ∧ user.pendingMarket = prior.bind (·.pendingMarket) := by
  have hfrom := h.user_from
  cases hprior : prior with
  | some p =>
    rw [hprior] at hfrom
    obtain ⟨ht, hu, heq⟩ := hfrom
    refine ⟨⟨hprior ▸ h.users, fun q hq => ?_, nofun⟩, by rw [heq]; exact ht, by rw [heq]; rfl⟩
    cases hq
    rw [heq]
    exact ⟨rfl, rfl⟩
  | none =>
    rw [hprior] at hfrom
    obtain ⟨hnone, id, heq⟩ := hfrom
    refine ⟨⟨hprior ▸ h.users, nofun, fun _ => ?_⟩, by rw [heq], by rw [heq]; rfl⟩
    rw [heq]
    exact hnone

/-- A submission that returns leaves the users as they are, or saves the one who submits. -/
theorem Submitted.users {r : OnboardingResult} (h : Submitted G ttl providerType s w r w') :
    w'.view .telegramUsers = w.view .telegramUsers ∨
      ∃ user prior w₁, Identified w s user prior w₁ ∧
        w'.view .telegramUsers = w₁.view .telegramUsers := by
  cases h with
  | invalid _ | notConfigured _ _ => exact .inl rfl
  | claimed _ _ hident _ _ _ _ _ => exact .inr ⟨_, _, _, hident, rfl⟩
  | unavailable ha _ hsaved => exact .inr ⟨_, _, _, ha.identified, hsaved.same.view _ (by decide)⟩
  | rejected ha _ _ hsaved => exact .inr ⟨_, _, _, ha.identified, hsaved.same.view _ (by decide)⟩
  | granted ha _ hsaved _ hfor =>
    exact .inr ⟨_, _, _, ha.identified, hfor.users.trans (hsaved.same.view _ (by decide))⟩

end Users

/-! ## The column and the offers -/

/-- The rows of the tenant's users say which market was last offered to them. -/
structure Remembers (A : TenantId) (last : Int → Option Market) (d : Database) : Prop where
  pending : ∀ r ∈ d .telegramUsers, r.tenantId = A → r.pendingMarket = last r.telegramUserId
  known : ∀ u, last u ≠ none → ∃ r ∈ d .telegramUsers, r.tenantId = A ∧ r.telegramUserId = u

section Remembers

variable {A : TenantId} {last : Int → Option Market} {d d' : Database} {user : TelegramUser}
  {prior : Option TelegramUser}

theorem Remembers.congr (h : Remembers A last d)
    (husers : d' .telegramUsers = d .telegramUsers) : Remembers A last d' := by
  refine ⟨?_, ?_⟩
  · rw [husers]
    exact h.pending
  · rw [husers]
    exact h.known

/-- A row is replaced exactly when it is of the user that is saved. -/
theorem UserSaved.replaces_iff
    (h : UserSaved (d .telegramUsers) user prior (d' .telegramUsers)) (hd : Distinct d)
    {r : TelegramUser} (hr : r ∈ d .telegramUsers) :
    r.id = user.id ↔ r.tenantId = user.tenantId ∧ r.telegramUserId = user.telegramUserId := by
  have hup := h.upsert
  cases hprior : prior with
  | none =>
    rw [hprior] at hup
    exact iff_of_false (hup.fresh r hr) (h.unknown hprior r hr)
  | some p =>
    rw [hprior] at hup
    obtain ⟨hp, hid⟩ := hup.prior_mem
    obtain ⟨hpt, hpu⟩ := h.found p hprior
    constructor
    · intro hrid
      have heq : r = p :=
        hd.eq_of_clash (t := .telegramUsers) hr hp (by simp [clash, hrid, hid])
      exact heq ▸ ⟨hpt, hpu⟩
    · rintro ⟨ht, hu⟩
      have heq : r = p :=
        hd.eq_of_clash (t := .telegramUsers) hr hp (by simp [clash, ht, hu, hpt, hpu])
      exact heq ▸ hid

/-- Saving a user of the tenant with a market is remembering that market. -/
theorem Remembers.saved (h : Remembers A last d) (hd : Distinct d)
    (hsaved : UserSaved (d .telegramUsers) user prior (d' .telegramUsers))
    (ht : user.tenantId = A) :
    Remembers A (Function.update last user.telegramUserId user.pendingMarket) d' := by
  have hmem : user ∈ d' .telegramUsers := hsaved.upsert.mem_iff.mpr (.inl rfl)
  refine ⟨fun r hr hrt => ?_, fun u hu => ?_⟩
  · rcases hsaved.upsert.mem_iff.mp hr with rfl | ⟨hold, hid⟩
    · rw [Function.update_self]
    · have hne : r.telegramUserId ≠ user.telegramUserId := fun heq =>
        hid ((hsaved.replaces_iff hd hold).mpr ⟨hrt.trans ht.symm, heq⟩)
      rw [Function.update_of_ne hne]
      exact h.pending r hold hrt
  · by_cases heq : u = user.telegramUserId
    · exact ⟨user, hmem, ht, heq.symm⟩
    · rw [Function.update_of_ne heq] at hu
      obtain ⟨r, hr, hrt, hru⟩ := h.known u hu
      refine ⟨r, hsaved.upsert.mem_iff.mpr (.inr ⟨hr, fun hid => heq ?_⟩), hrt, hru⟩
      rw [← hru]
      exact ((hsaved.replaces_iff hd hr).mp hid).2

/-- Saving a user of another tenant is nothing to remember. -/
theorem Remembers.saved_other (h : Remembers A last d) (hd : Distinct d)
    (hsaved : UserSaved (d .telegramUsers) user prior (d' .telegramUsers))
    (ht : user.tenantId ≠ A) : Remembers A last d' := by
  refine ⟨fun r hr hrt => ?_, fun u hu => ?_⟩
  · rcases hsaved.upsert.mem_iff.mp hr with rfl | ⟨hold, -⟩
    · exact absurd hrt ht
    · exact h.pending r hold hrt
  · obtain ⟨r, hr, hrt, hru⟩ := h.known u hu
    refine ⟨r, hsaved.upsert.mem_iff.mpr (.inr ⟨hr, fun hid => ht ?_⟩), hrt, hru⟩
    rw [← hrt]
    exact ((hsaved.replaces_iff hd hr).mp hid).1.symm

/-- Saving a user with the market that was on record is nothing new. -/
theorem Remembers.kept (h : Remembers A last d) (hd : Distinct d)
    (hsaved : UserSaved (d .telegramUsers) user prior (d' .telegramUsers))
    (hpending : user.pendingMarket = prior.bind (·.pendingMarket)) : Remembers A last d' := by
  by_cases ht : user.tenantId = A
  swap
  · exact h.saved_other hd hsaved ht
  have hlast : last user.telegramUserId = user.pendingMarket := by
    rw [hpending]
    cases hprior : prior with
    | some p =>
      have hup := hsaved.upsert
      rw [hprior] at hup
      obtain ⟨hpt, hpu⟩ := hsaved.found p hprior
      rw [← hpu]
      exact (h.pending p hup.prior_mem.1 (hpt.trans ht)).symm
    | none =>
      by_contra hne
      obtain ⟨r, hr, hrt, hru⟩ := h.known _ hne
      exact hsaved.unknown hprior r hr ⟨hrt.trans ht.symm, hru⟩
  have hupdate := h.saved hd hsaved ht
  rwa [← hlast, Function.update_eq_self] at hupdate

end Remembers

/-! ## Updates and other operations -/

/-- An update whose handling is committed. -/
structure Turn where
  tenantId : TenantId
  incoming : IncomingUpdate
  plan : Plan

/-- What was last offered to whom in the tenant, after the turn. -/
def Turn.record (A : TenantId) (turn : Turn) (last : Int → Option Market) :
    Int → Option Market :=
  match turn.plan with
  | .offer market _ =>
    if turn.tenantId = A then Function.update last turn.incoming.userId (some market) else last
  | .answer _ | .submit .. => last

/-- A run of `receive_update`: nothing is committed, or what the turn decided is carried
    out and committed. -/
inductive UpdateStep (G : World → Op → Choice → Prop) (ttl : TimeDelta) (token : String)
    (incoming : Option IncomingUpdate) (w w' : World) : Option Turn → Prop
  | idle : w'.db = w.db → UpdateStep G ttl token incoming w w' none
  | committed {turn : Turn} {replies : List Reply} {w₁ w₂ : World} :
      Addressed token incoming w turn.tenantId turn.incoming →
      Runs (serial G) (BotConversation.plan .bitunix turn.tenantId turn.incoming)
        (w.opened turn.tenantId) (.ok turn.plan) w₁ →
      Runs (serial G)
        (BotConversation.carryOut ttl .bitunix turn.tenantId turn.incoming turn.plan) w₁
        (.ok replies) w₂ →
      w'.db = w₂.view → UpdateStep G ttl token incoming w w' (some turn)

section Steps

variable {G : World → Op → Choice → Prop} {key : EncryptionKey} {S : Settings} {A : TenantId}
  {w w' : World}

theorem update_step {token : String} {incoming : Option IncomingUpdate}
    {r : Except PyError Unit} (hw : w.Sound)
    (h : Runs (serial G) (TelegramWebhook.receiveUpdate key S.ttl token incoming) w r w') :
    ∃ turn, UpdateStep G S.ttl token incoming w w' turn := by
  cases run_receiveUpdate hw h with
  | unhandled hdb _ => exact ⟨none, .idle hdb⟩
  | raised _ _ hundone => exact ⟨none, .idle hundone.db⟩
  | uncommitted _ _ _ hundone => exact ⟨none, .idle hundone.db⟩
  | @committed tenantId incoming replies w₁ w₂ haddressed hhandle hcommit hconfirmed =>
    rw [BotConversation.handle_eq] at hhandle
    obtain ⟨x, w₀, hplan, hrest⟩ := runs_bind hhandle
    cases x with
    | error e => cases hrest.1
    | ok plan =>
      exact ⟨some ⟨tenantId, incoming, plan⟩, .committed haddressed hplan hrest
        (hconfirmed.db.trans (commit_view hcommit))⟩

/-- What every operation but an update leaves of the users. -/
theorem Operation.users_kept {op : Operation} {r : Except PyError Response} (hw : w.Sound)
    (hupdate : ∀ token incoming, op ≠ .update token incoming) (hsweep : op ≠ .sweep)
    (h : Runs (serial G) (op.program key S A) w r w') :
    w'.db .telegramUsers = w.db .telegramUsers := by
  cases op with
  | update token incoming => exact absurd rfl (hupdate token incoming)
  | upsertChannel payload =>
    have hstep : Event.Steps G S (.channel A payload) w w' := runs_named h
    cases channel_effect hw hstep with
    | quiet hdb _ => rw [hdb]
    | upserted hdb _ _ _ => exact hdb _ (by decide)
  | monitor now =>
    have hstep : Event.Steps G S (.pass A now) w w' := runs_named h
    cases pass_effect hw hstep with
    | quiet hdb _ | lost _ _ _ hdb _ => rw [hdb]
    | committed _ hpassed hdb _ _ =>
      rw [hdb _ (by decide)]
      exact hpassed.other _ (by decide)
  | upsertCredential | listCredentials | upsertReferralConfig | listChannels | upsertBot
  | checkIntegration | ingestPayment => exact Operation.configures_kept rfl h (by decide)
  | sweep => exact absurd rfl hsweep

/-- A turn that is carried out leaves the column as the turn says. -/
theorem UpdateStep.remembers {token : String} {incoming : Option IncomingUpdate}
    {last : Int → Option Market} {turn : Turn} (hw : w.Sound)
    (hrem : Remembers A last w.db) (h : UpdateStep G S.ttl token incoming w w' (some turn)) :
    Remembers A (turn.record A last) w'.db := by
  cases h with
  | @committed _ replies w₁ w₂ haddressed hplan hcarry hdb =>
    have hopen := hw.opened turn.tenantId
    have hmeets : Meets G (BotConversation.plan .bitunix (w.opened turn.tenantId).tenantId
        turn.incoming) _ _ (w.opened turn.tenantId) := BotConversation.meets_plan hopen
    obtain ⟨heq, -⟩ := wp_sound hmeets hplan
    subst heq
    have hdistinct : Distinct w.db := hw.db
    obtain ⟨tenantId, incoming, plan⟩ := turn
    cases plan with
    | answer replies =>
      obtain ⟨-, rfl⟩ := hcarry
      exact hrem.congr (congrFun hdb _)
    | offer market config =>
      have hoffer : Meets G (BotConversation.carryOut S.ttl .bitunix (w.opened tenantId).tenantId
          incoming (.offer market config)) _ _ (w.opened tenantId) :=
        BotConversation.meets_offer hopen
      have hoffered := wp_sound hoffer hcarry
      obtain ⟨user, prior, hsaved, ht, hu, hpending⟩ := hoffered.saved
      rw [← hdb] at hsaved
      simp only [Turn.record]
      split
      · next hA =>
        rw [← hu, ← hpending]
        exact hrem.saved hdistinct hsaved (ht.trans hA)
      · next hA => exact hrem.saved_other hdistinct hsaved fun heq => hA (ht.symm.trans heq)
    | submit market uid =>
      have hsubmit : Meets G (BotConversation.submit S.ttl .bitunix (w.opened tenantId).tenantId
          incoming market uid) _ _ (w.opened tenantId) :=
        BotConversation.meets_submit_submitted hopen rfl
      obtain ⟨r, hsubmitted⟩ := wp_sound hsubmit hcarry
      rcases hsubmitted.users with husers | ⟨user, prior, w₁, hident, husers⟩
      · exact hrem.congr ((congrFun hdb _).trans husers)
      · obtain ⟨hsaved, -, hpending⟩ := hident.saved
        have hdb' : w'.db .telegramUsers = w₁.view .telegramUsers := (congrFun hdb _).trans husers
        rw [← hdb'] at hsaved
        exact hrem.kept hdistinct hsaved hpending

end Steps

/-! ## Runs -/

/-- The operations of all tenants, one after the other, and which market was last offered to
    each user of tenant `A` in a committed update. -/
inductive Course (G : World → Op → Choice → Prop) (key : EncryptionKey) (S : Settings)
    (A : TenantId) (w₀ : World) : (Int → Option Market) → World → Prop
  | start : Course G key S A w₀ (fun _ => none) w₀
  | update {last : Int → Option Market} {w w' : World} {token : String}
      {incoming : Option IncomingUpdate} {r : Except PyError Unit} {turn : Option Turn} :
      Course G key S A w₀ last w →
      Runs (serial G) (TelegramWebhook.receiveUpdate key S.ttl token incoming) w r w' →
      UpdateStep G S.ttl token incoming w w' turn →
      Course G key S A w₀ (turn.elim last fun turn => turn.record A last) w'
  | operation {last : Int → Option Market} {w w' : World} {B : TenantId} {op : Operation}
      {r : Except PyError Response} : Course G key S A w₀ last w →
      (∀ token incoming, op ≠ .update token incoming) → op ≠ .sweep →
      Runs (serial G) (op.program key S B) w r w' → Course G key S A w₀ last w'

/-- Where a UID is to go: to the market on record, or else to the only one set up. -/
def Destination (A : TenantId) (d : Database) (recorded : Option Market) (market : Market) :
    Prop :=
  match recorded with
  | some chosen => market = chosen
  | none => ∀ m, d.Ready A .bitunix m ↔ m = market

section Runs

variable {G : World → Op → Choice → Prop} {key : EncryptionKey} {S : Settings} {A : TenantId}
  {w₀ w : World} {last : Int → Option Market}

theorem Course.remembers (hsound : w₀.Sound)
    (hfresh : ∀ r ∈ w₀.db .telegramUsers, r.tenantId = A → r.pendingMarket = none)
    (h : Course G key S A w₀ last w) : w.Sound ∧ Remembers A last w.db := by
  induction h with
  | start => exact ⟨hsound, hfresh, fun _ hne => absurd rfl hne⟩
  | @update last w w' token incoming r turn _ hruns hstep ih =>
    obtain ⟨hw, hrem⟩ := ih
    refine ⟨wp_sound (wp_sound_world _ _) hruns hw, ?_⟩
    cases turn with
    | none =>
      cases hstep with
      | idle hdb => exact hrem.congr (congrFun hdb _)
    | some turn => exact hstep.remembers hw hrem
  | operation _ hupdate hsweep hruns ih =>
    obtain ⟨hw, hrem⟩ := ih
    exact ⟨wp_sound (wp_sound_world _ _) hruns hw,
      hrem.congr (Operation.users_kept hw hupdate hsweep hruns)⟩

/-- Whatever was done before, an update that ends in a submission calls `submitUid` for the
    market last offered to the user, and with none on record for the only one set up. -/
theorem uid_goes_where_chosen (hsound : w₀.Sound)
    (hfresh : ∀ r ∈ w₀.db .telegramUsers, r.tenantId = A → r.pendingMarket = none)
    (h : Course G key S A w₀ last w) {incoming : IncomingUpdate} :
    BotConversation.handle S.ttl .bitunix A incoming =
        BotConversation.plan .bitunix A incoming >>=
          BotConversation.carryOut S.ttl .bitunix A incoming ∧
      ∀ market uid w₁, Runs (serial G) (BotConversation.plan .bitunix A incoming) (w.opened A)
        (.ok (.submit market uid)) w₁ →
          Destination A w.db (last incoming.userId) market ∧
          BotConversation.carryOut S.ttl .bitunix A incoming (.submit market uid) = (do
            let config ← ReferralProgramConfigRepository.getFor A .bitunix market
            let result ← ReferralOnboardingService.submitUid S.ttl .bitunix A incoming.userId
              market uid incoming.username incoming.firstName
            let text ← Program.raising
              (render result ((config.map (·.referralLink)).getD ""))
            return [{ text }]) := by
  refine ⟨BotConversation.handle_eq .., fun market uid w₁ hplan =>
    ⟨?_, BotConversation.carryOut_submit ..⟩⟩
  obtain ⟨hw, hrem⟩ := h.remembers hsound hfresh
  have hmeets : Meets G (BotConversation.plan .bitunix (w.opened A).tenantId incoming) _ _
      (w.opened A) := BotConversation.meets_plan (hw.opened A)
  obtain ⟨-, hplanned⟩ := wp_sound hmeets hplan
  cases hplanned with
  | chosen _ hmem ht hu hpending =>
    have hlast := hrem.pending _ hmem ht
    rw [hpending, hu] at hlast
    rw [← hlast]
    rfl
  | sole _ hnone hsole =>
    have hlast : last incoming.userId = none := by
      by_contra hne
      obtain ⟨r, hr, ht, hu⟩ := hrem.known _ hne
      have hpending := hrem.pending r hr ht
      rw [hnone r hr ht hu, hu] at hpending
      exact hne hpending.symm
    rw [hlast]
    exact hsole

end Runs

/-! ## A choice that outlives the menu -/

def startMessage : IncomingUpdate := { chatId := 77, userId := 77, text := some "/start" }

/-- A day on which nothing fails, and every row gets an id of its own. -/
def roomyEnv (w : World) : Op → Choice
  | .uuid4 => { id := 100 + (w.view .telegramUsers).length + (w.view .telegramChannels).length }
  | op => welcomingEnv w op

/-- The user was offered the only market, and then the tenant set up another. -/
def offeredWorld : World :=
  (exec World.step roomyEnv (TelegramWebhook.receiveUpdate (.key some) defaultSettings.ttl
    "hook" (some startMessage)) hookedWorld).2

def secondProgramWorld : World :=
  (exec World.step roomyEnv (Operation.program (.key some) defaultSettings 1
    (.upsertReferralConfig { market := .forex, referralLink := "https://partner/forex" }))
    offeredWorld).2

def secondMarketWorld : World :=
  (exec World.step roomyEnv (Operation.program (.key some) defaultSettings 1
    (.upsertChannel { market := .forex, chatId := -1002 })) secondProgramWorld).2

def offerTurn : Turn := ⟨1, startMessage, .offer .crypto (configOf .crypto)⟩

theorem step_startMessage :
    UpdateStep (Only roomyEnv) defaultSettings.ttl "hook" (some startMessage) hookedWorld
      offeredWorld (some offerTurn) := by
  have hplan := runs_only roomyEnv (BotConversation.plan .bitunix 1 startMessage)
    (hookedWorld.opened 1)
  have hoffer : (exec World.step roomyEnv (BotConversation.plan .bitunix 1 startMessage)
      (hookedWorld.opened 1)).1 = .ok offerTurn.plan := by decide +kernel
  rw [hoffer] at hplan
  have hcarry := runs_only roomyEnv
    (BotConversation.carryOut defaultSettings.ttl .bitunix 1 startMessage offerTurn.plan)
    (exec World.step roomyEnv (BotConversation.plan .bitunix 1 startMessage)
      (hookedWorld.opened 1)).2
  have hreplies : (exec World.step roomyEnv
      (BotConversation.carryOut defaultSettings.ttl .bitunix 1 startMessage offerTurn.plan)
      (exec World.step roomyEnv (BotConversation.plan .bitunix 1 startMessage)
        (hookedWorld.opened 1)).2).1 = .ok [{
          text := Messages.WELCOME "" (configOf .crypto).referralLink }] := by decide +kernel
  rw [hreplies] at hcarry
  refine .committed ⟨rfl, ?_⟩ hplan hcarry ?_
  · decide
  · funext t
    cases t <;> decide +kernel

/-- Both markets are set up when the UID comes, and it goes to the one that was offered. -/
theorem uid_follows_the_offer :
    secondMarketWorld.db.readyMarkets 1 .bitunix = [.crypto, .forex] ∧
      ∃ last, Course (Only roomyEnv) (.key some) defaultSettings 1 hookedWorld last
        secondMarketWorld ∧ last 77 = some .crypto ∧
        ∃ w₁, Runs (serial (Only roomyEnv)) (BotConversation.plan .bitunix 1 uidMessage)
          (secondMarketWorld.opened 1) (.ok (.submit .crypto "123456789")) w₁ ∧
        Destination 1 secondMarketWorld.db (last 77) .crypto := by
  have hoffered := Course.update (A := 1) .start (runs_only roomyEnv _ _) step_startMessage
  have hprogram := Course.operation hoffered (fun _ _ h => by cases h) (fun h => by cases h)
    (runs_only roomyEnv (Operation.program (.key some) defaultSettings 1 (.upsertReferralConfig
      { market := .forex, referralLink := "https://partner/forex" })) _)
  have hmarket := Course.operation hprogram (fun _ _ h => by cases h) (fun h => by cases h)
    (runs_only roomyEnv (Operation.program (.key some) defaultSettings 1 (.upsertChannel
      { market := .forex, chatId := -1002 })) _)
  have hplan := runs_only roomyEnv (BotConversation.plan .bitunix 1 uidMessage)
    (secondMarketWorld.opened 1)
  have hsubmit : (exec World.step roomyEnv (BotConversation.plan .bitunix 1 uidMessage)
      (secondMarketWorld.opened 1)).1 = .ok (.submit .crypto "123456789") := by decide +kernel
  rw [hsubmit] at hplan
  refine ⟨by decide +kernel, _, hmarket, rfl, _, hplan, ?_⟩
  exact ((uid_goes_where_chosen sound_hookedWorld (fun _ h => nomatch h) hmarket).2 _ _ _
    hplan).1

end VipChannel

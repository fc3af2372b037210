/-
  VipChannel.Runs.Destinations

  Where a link leads.

  A link is reused by its age and the status of its membership alone.  So it leads to
  the chat its channel had when it was minted, which is the chat the channel has now
  as long as no chat id is changed under a link that still works.
-/
import VipChannel.Runs.Invites

namespace VipChannel

open Lib MembershipMonitor

/-- The call minted `link` on the chat. -/
def Sent.minted (s : Sent) (link : String) (chatId : Int) : Prop :=
  s.link = some link ∧
    ∃ memberLimit expireDate name, s.call = .createChatInviteLink chatId memberLimit expireDate name

/-- The link was minted on the chat that the channel has now. -/
def LeadsTo (w : World) (channelId : RowId) (link : String) : Prop :=
  ∃ c ∈ w.db .telegramChannels, c.id = channelId ∧ ∃ s ∈ w.allSent, s.minted link c.chatId

/-- Every recorded link leads to the channel of its membership, or its lifetime is over. -/
def Directed (ttl : TimeDelta) (w : World) : Prop :=
  ∀ m ∈ w.db .vipMemberships, ∀ link, m.inviteLink = some link →
    Lapsed ttl m w.clock ∨ LeadsTo w m.channelId link

/-- A request changes the chat id of a channel only when the links of its members have
    expired. -/
def MovesLapsed (ttl : TimeDelta) (w : World) : Event → Prop
  | .channel tenantId payload => ∀ c ∈ w.db .telegramChannels, c.tenantId = tenantId →
      c.market = payload.market → c.chatId ≠ payload.chatId →
      ∀ m ∈ w.db .vipMemberships, m.channelId = c.id → m.inviteLink ≠ none → Lapsed ttl m w.clock
  | .submit .. | .pass .. => True

section Events

variable {G : World → Op → Choice → Prop} {S : Settings} {w w' : World}

theorem LeadsTo.later {channelId : RowId} {link : String} {calls : List Sent}
    (h : LeadsTo w channelId link)
    (hchannels : w'.db .telegramChannels = w.db .telegramChannels)
    (hsent : w'.allSent = w.allSent ++ calls) : LeadsTo w' channelId link := by
  obtain ⟨c, hc, hid, s, hs, hminted⟩ := h
  exact ⟨c, hchannels ▸ hc, hid, s, hsent ▸ List.mem_append_left _ hs, hminted⟩

/-- An event that keeps the channels, and takes the links it leaves from the rows before. -/
theorem Directed.step {ttl : TimeDelta} {calls : List Sent} (h : Directed ttl w)
    (hle : w.clock ≤ w'.clock)
    (hchannels : w'.db .telegramChannels = w.db .telegramChannels)
    (hsent : w'.allSent = w.allSent ++ calls)
    (hrows : ∀ m' ∈ w'.db .vipMemberships, ∀ link, m'.inviteLink = some link →
      LeadsTo w' m'.channelId link ∨
      ∃ m ∈ w.db .vipMemberships, m.inviteLink = some link ∧ m.channelId = m'.channelId ∧
        m.inviteIssuedAt = m'.inviteIssuedAt) : Directed ttl w' := by
  intro m' hm' link hlink
  rcases hrows m' hm' link hlink with hleads | ⟨m, hm, hl, hc, hi⟩
  · exact .inr hleads
  · rcases h m hm link hl with hlapsed | hleads
    · refine .inl fun issued hissued => ?_
      have hover := hlapsed issued (hi.trans hissued)
      omega
    · exact .inr (hc ▸ hleads.later hchannels hsent)

theorem applied_link {d : ComplianceDecision} {moment : DateTime} {m : VIPMembership}
    {link : String} (h : (m.applied d moment).inviteLink = some link) :
    m.inviteLink = some link ∧ m.channelId = (m.applied d moment).channelId ∧
      m.inviteIssuedAt = (m.applied d moment).inviteIssuedAt := by
  unfold VIPMembership.applied at h ⊢
  cases ha : d.action with
  | none | restore | warn =>
    rw [ha] at h
    exact ⟨h, rfl, rfl⟩
  | revoke =>
    rw [ha] at h
    cases h

theorem Directed.pass {tenantId : TenantId} {now : Option DateTime} {ttl : TimeDelta}
    (hle : w.clock ≤ w'.clock) (hw : w.Sound) (h : Directed ttl w)
    (hstep : Event.Steps G S (.pass tenantId now) w w') : Directed ttl w' := by
  cases pass_effect hw hstep with
  | quiet hdb hsent =>
    refine h.step hle (by rw [hdb]) (hsent.trans (List.append_nil _).symm) ?_
    exact fun m hm link hl => .inr ⟨m, hdb ▸ hm, hl, rfl, rfl⟩
  | lost _ _ _ hdb hsent =>
    refine h.step hle (by rw [hdb]) hsent ?_
    exact fun m hm link hl => .inr ⟨m, hdb ▸ hm, hl, rfl, rfl⟩
  | committed hstart hpassed hdb _ hsent =>
    have hchannels : w'.db .telegramChannels = w.db .telegramChannels :=
      (hdb _ (by decide)).trans (hpassed.other _ (by decide))
    refine h.step hle hchannels hsent fun m' hm' link hl => .inr ?_
    rw [hdb _ (by decide)] at hm'
    obtain ⟨m, hm, -, hrow⟩ := hpassed.row_of_mem hstart.listed hm'
    rcases hrow with rfl | ⟨a, -, -, rfl⟩
    · exact ⟨m', hm, hl, rfl, rfl⟩
    · exact ⟨m, hm, applied_link hl⟩

theorem reinstate_link (subscriptionId : RowId) (m : VIPMembership) :
    (ReferralOnboardingService.reinstate subscriptionId m).inviteLink = m.inviteLink ∧
      (ReferralOnboardingService.reinstate subscriptionId m).channelId = m.channelId ∧
      (ReferralOnboardingService.reinstate subscriptionId m).inviteIssuedAt = m.inviteIssuedAt := by
  unfold ReferralOnboardingService.reinstate
  split <;> exact ⟨rfl, rfl, rfl⟩

/-- The link of the row a grant starts from is the one its prior row had. -/
theorem Grant.Holds.base_link {ttl : TimeDelta} {providerType : ProviderType} {market : Market}
    {g : Grant} {calls : List Sent} {link : String}
    (h : g.Holds G ttl providerType market w w' calls) (hl : g.base.inviteLink = some link) :
    ∃ m ∈ w.view .vipMemberships, m.inviteLink = some link ∧ m.channelId = g.base.channelId ∧
      m.inviteIssuedAt = g.base.inviteIssuedAt := by
  have hfrom := h.membership
  have hup := h.memberships
  cases hprior : g.prior with
  | none =>
    rw [hprior] at hfrom
    obtain ⟨-, id, createdAt, -, hbase⟩ := hfrom
    rw [hbase] at hl
    cases hl
  | some prior =>
    rw [hprior] at hfrom hup
    obtain ⟨-, -, -, hbase⟩ := hfrom
    obtain ⟨hkl, hkc, hki⟩ := reinstate_link g.subscription.id prior
    rw [hbase] at hl ⊢
    exact ⟨prior, hup.prior_mem.1, hkl ▸ hl, hkc.symm, hki.symm⟩

theorem Directed.submit {tenantId : TenantId} {telegramUserId : Int} {market : Market}
    {rawUid : String} {username firstName : Option String} {ttl : TimeDelta}
    (hle : w.clock ≤ w'.clock) (hw : w.Sound) (h : Directed ttl w)
    (hstep : Event.Steps G S
      (.submit tenantId telegramUserId market rawUid username firstName) w w') :
    Directed ttl w' := by
  cases submit_effect hw hstep with
  | quiet hdb hsent =>
    refine h.step hle (hdb _ (by decide)) (hsent.trans (List.append_nil _).symm) ?_
    intro m hm link hl
    rw [hdb _ (by decide)] at hm
    exact .inr ⟨m, hm, hl, rfl, rfl⟩
  | lost hdb hsent _ _ =>
    refine h.step hle (by rw [hdb]) hsent ?_
    exact fun m hm link hl => .inr ⟨m, hdb ▸ hm, hl, rfl, rfl⟩
  | @granted g w₁ calls hg hdb hsent _ =>
    have hchannels : w'.db .telegramChannels = w.db .telegramChannels := by
      rw [hdb]
      exact hg.other _ (by decide)
    refine h.step hle hchannels hsent fun m' hm' link hl => ?_
    rw [hdb] at hm'
    rcases hg.memberships.mem_iff.mp hm' with rfl | ⟨hold, -⟩
    swap
    · exact .inr ⟨m', hold, hl, rfl, rfl⟩
    rcases hg.invite.cases with ⟨-, hm, -⟩ | ⟨expireDate, -, -, -, hm, hcalls⟩
    · rw [hm] at hl ⊢
      exact .inr (hg.base_link hl)
    · -- The link was minted on the channel that the grant found.
      left
      rw [hg.membership_facts.2.2.1]
      rw [hm] at hl
      cases hl
      refine ⟨g.channel, hchannels ▸ hg.channel_mem, rfl,
        mintCall (w.opened tenantId).tenantId g.channel g.base expireDate g.link, ?_,
        rfl, _, _, _, rfl⟩
      rw [hsent, hcalls]
      exact List.mem_append_right _ (List.mem_singleton.mpr rfl)

theorem Directed.channel {tenantId : TenantId} {payload : ChannelRequest} {ttl : TimeDelta}
    (hle : w.clock ≤ w'.clock) (hw : w.Sound) (h : Directed ttl w)
    (hC : MovesLapsed ttl w (.channel tenantId payload))
    (hstep : Event.Steps G S (.channel tenantId payload) w w') : Directed ttl w' := by
  have hlater : ∀ m : VIPMembership, Lapsed ttl m w.clock → Lapsed ttl m w'.clock := by
    intro m hl issued hissued
    have hover := hl issued hissued
    omega
  cases channel_effect hw hstep with
  | quiet hdb hsent =>
    refine h.step hle (by rw [hdb]) (hsent.trans (List.append_nil _).symm) ?_
    exact fun m hm link hl => .inr ⟨m, hdb ▸ hm, hl, rfl, rfl⟩
  | upserted hdb hkept hconfigured hsent =>
    intro m hm link hl
    rw [hdb _ (by decide)] at hm
    rcases h m hm link hl with hlapsed | ⟨c, hc, hid, s, hs, hminted⟩
    · exact .inl (hlater m hlapsed)
    obtain ⟨c', hc', hkey⟩ := hkept c hc
    simp only [Admin.channelKey, Prod.mk.injEq] at hkey
    obtain ⟨hcid, hct, hcm⟩ := hkey
    rw [← hsent] at hs
    rcases hconfigured c' hc' with hold | ⟨ht, hmarket, hchat⟩
    · have heq : c' = c :=
        hw.db.eq_of_clash (t := .telegramChannels) hold hc (by simp [clash, hcid])
      exact .inr ⟨c', hc', heq ▸ hid, s, hs, heq ▸ hminted⟩
    · by_cases hsame : c.chatId = payload.chatId
      · exact .inr ⟨c', hc', hcid.trans hid, s, hs, by rw [hchat, ← hsame]; exact hminted⟩
      · -- The chat id is another one now: the condition says the link has expired.
        have hlinked : m.inviteLink ≠ none := by
          rw [hl]
          exact Option.some_ne_none link
        have hlapsed := hC c hc (hct ▸ ht) (hcm ▸ hmarket) hsame m hm hid.symm hlinked
        exact .inl (hlater m hlapsed)

theorem directed_of_run {w₀ : World} (h0 : Initial w₀)
    (hclock : ∀ w c, G w .utcnow c → w.clock ≤ (World.reading c).utc)
    (hrun : Run G S (MovesLapsed S.ttl) w₀ w) : w.Sound ∧ Directed S.ttl w := by
  refine hrun.invariant (I := fun w => w.Sound ∧ Directed S.ttl w) ⟨h0.sound, fun m hm => ?_⟩ ?_
  · rw [h0.empty .vipMemberships (by decide)] at hm
    cases hm
  · rintro w w' e ⟨hw, hdirected⟩ hC he
    have hle := he.clock_le hclock
    refine ⟨he.sound hw, ?_⟩
    cases e with
    | submit => exact hdirected.submit hle hw he
    | pass => exact hdirected.pass hle hw he
    | channel => exact hdirected.channel hle hw hC he

/-- Where no chat id is changed under a link that works, every link that a submission
    returns was minted on the chat its market's channel has. -/
theorem links_lead_to_the_channel {w₀ : World} {tenantId : TenantId} {telegramUserId : Int}
    {market : Market} {rawUid link : String} {username firstName : Option String}
    {r : OnboardingResult} (h0 : Initial w₀)
    (hclock : ∀ w c, G w .utcnow c → w.clock ≤ (World.reading c).utc)
    (hrun : Run G S (MovesLapsed S.ttl) w₀ w)
    (hsubmit : Runs (serial G) (ReferralOnboardingService.submitUid S.ttl S.providerType tenantId
      telegramUserId market rawUid username firstName) (w.opened tenantId) (.ok r) w')
    (hlink : r.inviteLink = some link) :
    ∃ c ∈ w'.view .telegramChannels, c.tenantId = tenantId ∧ c.market = market ∧
      c.isActive = true ∧ ∃ s ∈ w'.allSent, s.minted link c.chatId := by
  obtain ⟨hw, hdirected⟩ := directed_of_run h0 hclock hrun
  have hresult : SubmitResult G S.ttl S.providerType market (w.opened tenantId) r w' :=
    wp_sound (meets_submitUid (hw.opened tenantId) rfl) hsubmit
  have hle : (w.opened tenantId).clock ≤ w'.clock := wp_sound (wp_clock hclock) hsubmit
  cases hresult with
  | quiet hnone _ =>
    rw [hnone] at hlink
    cases hlink
  | @granted g _ calls hg hl _ =>
    rw [hl] at hlink
    cases hlink
    have hchannels : w'.view .telegramChannels = w.db .telegramChannels := hg.other _ (by decide)
    obtain ⟨ht, hm, hactive⟩ := hg.channel_keys
    have hsent : w'.allSent = w.allSent ++ calls := by
      have hledger := hg.ledger
      have hs := congrArg Ledger.sent hledger
      have htx := congrArg Ledger.txSent hledger
      change w'.sent = w.sent ++ w.txSent at hs
      change w'.txSent = calls at htx
      unfold World.allSent
      rw [hs, htx]
    refine ⟨g.channel, hchannels ▸ hg.channel_mem, ht, hm, hactive, ?_⟩
    rw [hsent]
    rcases hg.invite.cases with ⟨hlive, -, -⟩ | ⟨expireDate, -, -, -, -, hcalls⟩
    · -- A reused link: it works, so it leads to the channel of its membership.
      obtain ⟨hrecorded, -, issued, hissued, hlt⟩ := InviteService.liveLink_some hlive
      obtain ⟨m, hmem, hml, hmc, hmi⟩ := hg.base_link hrecorded
      rcases hdirected m hmem g.link hml with hlapsed | ⟨c, hc, hid, s, hs, hminted⟩
      · have hover := hlapsed issued (hmi.trans hissued)
        have hmoment := hg.clock
        change w.clock ≤ _ at hle
        omega
      · have hbase : g.base.channelId = g.channel.id := by
          have hfacts := hg.membership_facts.2.2.1
          rcases hg.invite.cases with ⟨-, hmem', -⟩ | ⟨_, hnone, -⟩
          · rw [← hmem']
            exact hfacts
          · rw [hlive] at hnone
            cases hnone
        have heq : c = g.channel := by
          refine hw.db.eq_of_clash (t := .telegramChannels) hc hg.channel_mem ?_
          simp [clash, hid, hmc, hbase]
        exact ⟨s, List.mem_append_left _ hs, heq ▸ hminted⟩
    · refine ⟨mintCall (w.opened tenantId).tenantId g.channel g.base expireDate g.link, ?_,
        rfl, _, _, _, rfl⟩
      rw [hcalls]
      exact List.mem_append_right _ (List.mem_singleton.mpr rfl)

end Events

/-! ### A chat id that changes -/

/-- The channel moves to another chat. -/
def move : Event := .channel 1 { market := .crypto, chatId := -1009 }

/-- What the member's next submission on a day gives, and the world it leaves. -/
def resubmitted (day : Fin 2932896) (w : World) : Except PyError OnboardingResult × World :=
  exec World.step (calmEnv day typoAnswers)
    (ReferralOnboardingService.submitUid defaultSettings.ttl .bitunix 1 77 .crypto "222222222" none
      none) (w.opened 1)

/-- The channel moved on the day of the mint. -/
def movedWorld : World := move.play (calmEnv 100 typoAnswers) defaultSettings oneMarket

/-- The chat a call mints on. -/
def TelegramCall.mintsOn : TelegramCall → Option Int
  | .createChatInviteLink chatId .. => some chatId
  | .getMe _ | .banChatMember .. | .unbanChatMember .. | .sendMessage .. => none

theorem runs_resubmitted (day : Fin 2932896) (w : World) (link : String)
    (hw : w.clock ≤ (DateTime.day day).utc)
    (h : (resubmitted day w).1.toOption.bind (·.inviteLink) = some link) :
    ∃ r : OnboardingResult, r.inviteLink = some link ∧
      Runs (serial Orderly) (ReferralOnboardingService.submitUid defaultSettings.ttl
        defaultSettings.providerType 1 77 .crypto "222222222" none none) (w.opened 1) (.ok r)
        (resubmitted day w).2 := by
  have hruns := runs_orderly (w := w.opened 1) typoAnswers_isSome hw
    (ReferralOnboardingService.submitUid defaultSettings.ttl .bitunix 1 77 .crypto "222222222" none
      none)
  cases hr : (resubmitted day w).1 with
  | error e =>
    rw [hr] at h
    cases h
  | ok r =>
    rw [hr] at h
    refine ⟨r, h, ?_⟩
    rw [← hr]
    exact hruns

/-- The member gets the link to the chat that the channel has left. -/
theorem moved_channel_keeps_the_old_link :
    ¬ ∀ (G : World → Op → Choice → Prop) (S : Settings) (w₀ w w' : World) (tenantId : TenantId)
      (telegramUserId : Int) (market : Market) (rawUid link : String)
      (username firstName : Option String) (r : OnboardingResult), Initial w₀ →
      (∀ w c, G w .utcnow c → w.clock ≤ (World.reading c).utc) → Run G S Always w₀ w →
      Runs (serial G) (ReferralOnboardingService.submitUid S.ttl S.providerType tenantId
        telegramUserId market rawUid username firstName) (w.opened tenantId) (.ok r) w' →
      r.inviteLink = some link →
      ∃ c ∈ w'.view .telegramChannels, c.tenantId = tenantId ∧ c.market = market ∧
        c.isActive = true ∧ ∃ s ∈ w'.allSent, s.minted link c.chatId := by
  intro h
  have hstart : Run Orderly defaultSettings Always configuredWorld configuredWorld := .refl
  have hjoined := hstart.orderly typoAnswers_isSome 100 secondSubmission (by decide) trivial
  have hmoved := hjoined.orderly typoAnswers_isSome 100 move (by decide +kernel) trivial
  obtain ⟨r, hlink, hsubmit⟩ := runs_resubmitted 100 movedWorld "https://t.me/+0"
    (by decide +kernel) (by decide +kernel)
  obtain ⟨c, hc, -, hmarket, -, s, hs, -, limit, expireDate, name, hcall⟩ :=
    h _ _ _ _ _ _ _ _ _ _ _ _ _ initial_configuredWorld steady_orderly.clock hmoved hsubmit hlink
  have hchat : ∀ c ∈ (resubmitted 100 movedWorld).2.view .telegramChannels,
      c.market = .crypto → c.chatId = -1009 := by decide +kernel
  have hmints : ∀ s ∈ (resubmitted 100 movedWorld).2.allSent,
      s.call.mintsOn = some (-1001) := by decide +kernel
  have hmint := hmints s hs
  rw [hcall, TelegramCall.mintsOn, hchat c hc hmarket] at hmint
  revert hmint
  decide

/-- The channel moves fifty days after the mint, and the member comes back for a link. -/
theorem moved_after_the_link_expired :
    ∃ c ∈ (resubmitted 151 (move.play (calmEnv 150 typoAnswers) defaultSettings
        ((Event.pass 1 none).play (calmEnv 150 typoAnswers) defaultSettings oneMarket))).2.view
          .telegramChannels,
      c.tenantId = 1 ∧ c.market = .crypto ∧ c.isActive = true ∧
      ∃ s ∈ (resubmitted 151 (move.play (calmEnv 150 typoAnswers) defaultSettings
        ((Event.pass 1 none).play (calmEnv 150 typoAnswers) defaultSettings oneMarket))).2.allSent,
        s.minted "https://t.me/+1" c.chatId := by
  have hstart : Run Orderly defaultSettings (MovesLapsed defaultSettings.ttl) configuredWorld
      configuredWorld := .refl
  have hjoined := hstart.orderly typoAnswers_isSome 100 secondSubmission (by decide) trivial
  have hpassed := hjoined.orderly typoAnswers_isSome 150 (.pass 1 none) (by decide +kernel) trivial
  have hissued : ∀ m ∈ ((Event.pass 1 none).play (calmEnv 150 typoAnswers) defaultSettings
      oneMarket).db .vipMemberships, m.inviteIssuedAt = some (.day 100) := by decide +kernel
  have hlapsed : ∀ m ∈ ((Event.pass 1 none).play (calmEnv 150 typoAnswers) defaultSettings
      oneMarket).db .vipMemberships, Lapsed defaultSettings.ttl m ((Event.pass 1 none).play
        (calmEnv 150 typoAnswers) defaultSettings oneMarket).clock := by
    intro m hm issued hi
    rw [hissued m hm] at hi
    cases hi
    decide +kernel
  have hmoved := hpassed.orderly typoAnswers_isSome 150 move (by decide +kernel)
    fun _ _ _ _ _ m hm _ _ => hlapsed m hm
  obtain ⟨r, hlink, hsubmit⟩ := runs_resubmitted 151 (move.play (calmEnv 150 typoAnswers)
    defaultSettings ((Event.pass 1 none).play (calmEnv 150 typoAnswers) defaultSettings oneMarket))
    "https://t.me/+1" (by decide +kernel) (by decide +kernel)
  exact links_lead_to_the_channel initial_configuredWorld steady_orderly.clock hmoved hsubmit hlink

end VipChannel

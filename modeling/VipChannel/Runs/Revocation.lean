/-
  VipChannel.Runs.Revocation

  Whom a removal hits.

  The channel a member is banned from and the subscription that expires are looked up
  by the market of the account that was judged.  They are the membership's own when
  that market is the one of the membership's channel, and the channel is active.
-/
import VipChannel.Runs.Entitlements
import VipChannel.Runs.Punishment

namespace VipChannel

open Lib MembershipMonitor

/-- A call that takes part in a removal from a chat. -/
def TelegramCall.removes : TelegramCall → Bool
  | .banChatMember .. | .unbanChatMember .. => true
  | .getMe _ | .createChatInviteLink .. | .sendMessage .. => false

/-- The removals among `calls` made in acting on the membership. -/
def removalsOf (membershipId : RowId) (calls : List Sent) : List TelegramCall :=
  (calls.filter fun s => s.concerns membershipId && s.call.removes).map (·.call)

/-- Between `w` and `w'` the membership became REVOKED. -/
def Revoked (w w' : World) (m : VIPMembership) : Prop :=
  m ∈ w.db .vipMemberships ∧ m.status ≠ .revoked ∧
    ∃ m' ∈ w'.db .vipMemberships, m'.id = m.id ∧ m'.status = .revoked

/-- The removals between `w` and `w'` hit the right channel and the right entitlement. -/
structure RightlyTargeted (w w' : World) (calls : List Sent) : Prop where
  /-- No removal goes to another chat than the membership's own. -/
  own_chat : ∀ s ∈ calls, s.call.removes = true →
    ∃ m ∈ w.db .vipMemberships, ∃ c ∈ w.db .telegramChannels, c.id = m.channelId ∧
      s.concerns m.id = true ∧
      ∃ n, s.call = .banChatMember c.chatId n ∨ s.call = .unbanChatMember c.chatId n
  /-- One ban and one unban, from the chat of the membership's channel. -/
  removed : ∀ m, Revoked w w' m → ∃ c ∈ w.db .telegramChannels, c.id = m.channelId ∧
    ∃ n, removalsOf m.id calls = [.banChatMember c.chatId n, .unbanChatMember c.chatId n]
  /-- The subscription the membership names has expired. -/
  expired : ∀ m, Revoked w w' m → ∃ s ∈ w'.db .subscriptions, m.subscriptionId = some s.id ∧
    s.status = .expired
  /-- No other subscription has changed. -/
  others : ∀ s ∈ w.db .subscriptions, s ∉ w'.db .subscriptions →
    ∃ m, Revoked w w' m ∧ m.subscriptionId = some s.id

/-- Every account through which the pass could decide to remove a member is of the market of
    the membership's channel, and that channel is active. -/
def OwnMarket (G : World → Op → Choice → Prop) (S : Settings) (tenantId : TenantId)
    (now : Option DateTime) (w : World) : Prop :=
  ∀ moment, MomentOf G (w.opened tenantId) now moment →
    ∀ m ∈ w.db .vipMemberships, ∀ j : Judgement,
      j.Holds G S.policy moment (w.opened tenantId) m → j.decision.action = .revoke →
      ∀ c ∈ w.db .telegramChannels, c.id = m.channelId →
        j.account.market = c.market ∧ c.isActive = true

/-! ## One act -/

section Act

variable {G : World → Op → Choice → Prop} {S : Settings} {tenantId : TenantId}
  {now : Option DateTime} {w w' : World} {moment periodStart : DateTime} {a : Act}

/-- What a removal reads is what the membership is entitled by. -/
structure OwnTarget (w : World) (a : Act) (c : TelegramChannel) (s : Subscription) : Prop where
  entitled : EntitledBy w.db a.membership c s
  channel : a.reaction.channel = some c
  subscription : a.reaction.subscription = some s

theorem ownTarget (hent : Entitled w.db) (hown : OwnMarket G S tenantId now w)
    (hmoment : MomentOf G (w.opened tenantId) now moment)
    (hm : a.membership ∈ w.db .vipMemberships) (ht : a.membership.tenantId = tenantId)
    (ha : a.Holds G S.policy moment (w.opened tenantId))
    (hrevoke : a.judgement.decision.action = .revoke) : ∃ c s, OwnTarget w a c s := by
  obtain ⟨c, s, h⟩ := hent.memberships _ hm
  obtain ⟨hmarket, hactive⟩ :=
    hown moment hmoment _ hm _ ha.judged hrevoke c h.channel_mem h.channel_id
  refine ⟨c, s, h, ?_, ?_⟩
  · have hfound := ha.carried.channel hrevoke
    have hscope : (w.opened tenantId).inScope (t := .telegramChannels)
        (activeChannel tenantId a.judgement.account.market) c = true := by
      simp [World.inScope, rowTenant, activeChannel, World.opened, h.channel_tenant, ht, hmarket,
        hactive]
    cases hx : a.reaction.channel with
    | none =>
      rw [hx] at hfound
      have := hfound c h.channel_mem
      rw [show (w.opened tenantId).tenantId = tenantId from rfl, hscope] at this
      cases this
    | some c' =>
      rw [hx] at hfound
      rw [hfound.2.2 c h.channel_mem hscope]
  · obtain ⟨hst, hsu⟩ := h.subscription_owner
    cases hx : a.reaction.subscription with
    | none =>
      have := ha.carried.subscription_none hrevoke hx s h.subscription_mem
      simp [World.inScope, rowTenant, subscriptionOf, World.opened, hst, hsu, ht, h.market,
        hmarket] at this
    | some s' =>
      obtain ⟨hmem, hscope⟩ := ha.carried.subscription_some hrevoke s' hx
      have hcond := World.inScope_cond hscope
      simp only [subscriptionOf, Bool.and_eq_true, beq_iff_eq] at hcond
      obtain ⟨⟨ht', hu'⟩, hm'⟩ := hcond
      have heq : s' = s := by
        refine hent.one s' hmem s h.subscription_mem ?_ ?_ ?_
        · rw [ht', hst, ht]
          rfl
        · rw [hu', hsu]
        · rw [hm', h.market, hmarket]
      rw [heq]

/-- The removals an act sends. -/
theorem removes_of_mem {s : Sent} (hs : s ∈ a.calls S.policy tenantId periodStart)
    (hr : s.call.removes = true) :
    a.judgement.decision.action = .revoke ∧ ∀ c, a.reaction.channel = some c →
      ∃ n, s.call = .banChatMember c.chatId n ∨ s.call = .unbanChatMember c.chatId n := by
  have htold : ∀ chatId text about, s ∉ toldCalls tenantId chatId text about := by
    intro chatId text about hmem
    unfold toldCalls at hmem
    cases chatId with
    | none => cases hmem
    | some chatId =>
      dsimp only at hmem
      split at hmem
      · rw [List.mem_singleton.mp hmem] at hr
        cases hr
      · cases hmem
  unfold Act.calls Judgement.reactions at hs
  cases ha : a.judgement.decision.action with
  | none =>
    rw [ha] at hs
    cases hs
  | restore | warn =>
    rw [ha] at hs
    exact absurd hs (htold _ _ _)
  | revoke =>
    simp only [ha, List.mem_append] at hs
    refine ⟨rfl, fun c hc => ?_⟩
    rcases hs with hs | hs
    · rw [hc] at hs
      simp only [removalCalls, List.mem_cons, List.not_mem_nil, or_false] at hs
      rcases hs with rfl | rfl
      · exact ⟨_, .inl rfl⟩
      · exact ⟨_, .inr rfl⟩
    · exact absurd hs (htold _ _ _)

/-- A removal is a ban and an unban. -/
theorem removalsOf_calls {c : TelegramChannel}
    (hrevoke : a.judgement.decision.action = .revoke) (hc : a.reaction.channel = some c) :
    ∃ n, removalsOf a.membership.id (a.calls S.policy tenantId periodStart) =
      [.banChatMember c.chatId n, .unbanChatMember c.chatId n] := by
  refine ⟨(a.reaction.user.map (·.telegramUserId)).getD 0, ?_⟩
  have htold : ∀ chatId text about,
      (toldCalls tenantId chatId text about).filter
        (fun s => s.concerns a.membership.id && s.call.removes) = [] := by
    intro chatId text about
    unfold toldCalls
    cases chatId with
    | none => rfl
    | some chatId =>
      dsimp only
      split
      · simp [Sent.plain, TelegramCall.removes]
      · rfl
  unfold removalsOf Act.calls Judgement.reactions Judgement.concern
  simp only [hrevoke, hc, List.filter_append, htold, List.append_nil]
  simp [removalCalls, Sent.plain, Sent.concerns, TelegramCall.removes]

/-- Acts on other memberships contribute nothing. -/
theorem removalsOf_flatMap {acts : List Act}
    (hdistinct : acts.Pairwise fun a b => a.membership.id ≠ b.membership.id) (ha : a ∈ acts) :
    removalsOf a.membership.id (acts.flatMap (·.calls S.policy tenantId periodStart)) =
      removalsOf a.membership.id (a.calls S.policy tenantId periodStart) := by
  have hsplit : ∀ calls : List Sent, removalsOf a.membership.id calls =
      ((calls.filter (·.concerns a.membership.id)).filter (·.call.removes)).map (·.call) := by
    intro calls
    rw [List.filter_filter]
    unfold removalsOf
    simp only [Bool.and_comm]
  rw [hsplit, hsplit, calls_with hdistinct ha, a.filter_calls]

end Act

/-! ## The pass -/

section Pass

variable {G : World → Op → Choice → Prop} {S : Settings} {tenantId : TenantId}
  {now : Option DateTime} {w w' : World}

theorem applied_revoked {d : ComplianceDecision} {moment : DateTime} {m : VIPMembership}
    (hm : m.status ≠ .revoked) (h : (m.applied d moment).status = .revoked) :
    d.action = .revoke := by
  unfold VIPMembership.applied at h
  cases ha : d.action with
  | revoke => rfl
  | none | warn =>
    rw [ha] at h
    exact absurd h hm
  | restore =>
    rw [ha] at h
    simp only [VIPMembership.restored] at h
    split at h
    · cases h
    · exact absurd h hm

/-- Nothing becomes REVOKED where the rows stay. -/
theorem not_revoked_of_db_eq (hw : w.Sound) (hdb : w'.db = w.db) (m : VIPMembership) :
    ¬ Revoked w w' m := by
  rintro ⟨hm, hstatus, m', hm', hid, hrevoked⟩
  rw [hdb] at hm'
  have heq := hw.db.eq_of_clash (t := .vipMemberships) hm' hm (by simp [clash, hid])
  exact hstatus (heq ▸ hrevoked)

theorem RightlyTargeted.of_db_eq {calls : List Sent} (hw : w.Sound) (hdb : w'.db = w.db)
    (hown : ∀ s ∈ calls, s.call.removes = true →
      ∃ m ∈ w.db .vipMemberships, ∃ c ∈ w.db .telegramChannels, c.id = m.channelId ∧
        s.concerns m.id = true ∧
        ∃ n, s.call = .banChatMember c.chatId n ∨ s.call = .unbanChatMember c.chatId n) :
    RightlyTargeted w w' calls where
  own_chat := hown
  removed := fun m hm => absurd hm (not_revoked_of_db_eq hw hdb m)
  expired := fun m hm => absurd hm (not_revoked_of_db_eq hw hdb m)
  others := fun _ hs hns => absurd (hdb ▸ hs) hns

/-- Where every judging account is of the channel's own market, the channel active, a
    removal hits the membership's own channel and subscription. -/
theorem revocations_rightly_targeted {G' : World → Op → Choice → Prop} {w₀ : World}
    (h0 : Initial w₀) (hrun : Run G S Always w₀ w)
    (hstep : Event.Steps G' S (.pass tenantId now) w w')
    (hown : OwnMarket G' S tenantId now w) :
    ∃ calls, w'.allSent = w.allSent ++ calls ∧ RightlyTargeted w w' calls := by
  obtain ⟨hw, hent⟩ := entitled_of_run h0 hrun
  -- Whatever act a pass performs, its target is the membership's own.
  have htarget : ∀ {moment periodStart ms} {a : Act},
      PassStart G' S tenantId now w moment periodStart ms → a.membership ∈ ms →
      a.Holds G' S.policy moment (w.opened tenantId) →
      a.judgement.decision.action = .revoke → ∃ c s, OwnTarget w a c s := by
    intro moment periodStart ms a hstart hmem ha hrevoke
    obtain ⟨hm, ht, -⟩ := hstart.listed.mem hmem
    exact ownTarget hent hown hstart.moment_of hm ht ha hrevoke
  have hchat : ∀ {moment periodStart ms} {a : Act} {s : Sent},
      PassStart G' S tenantId now w moment periodStart ms → a.membership ∈ ms →
      a.Holds G' S.policy moment (w.opened tenantId) →
      s ∈ a.calls S.policy tenantId periodStart → s.call.removes = true →
      ∃ m ∈ w.db .vipMemberships, ∃ c ∈ w.db .telegramChannels, c.id = m.channelId ∧
        s.concerns m.id = true ∧
        ∃ n, s.call = .banChatMember c.chatId n ∨ s.call = .unbanChatMember c.chatId n := by
    intro moment periodStart ms a s hstart hmem ha hs hr
    obtain ⟨hrevoke, hcall⟩ := removes_of_mem hs hr
    obtain ⟨c, _, htgt⟩ := htarget hstart hmem ha hrevoke
    refine ⟨a.membership, (hstart.listed.mem hmem).1, c, htgt.entitled.channel_mem,
      htgt.entitled.channel_id, ?_, hcall c htgt.channel⟩
    rw [concerns_of_mem hs]
    simp
  cases pass_effect hw hstep with
  | quiet hdb hsent =>
    refine ⟨[], by rw [hsent, List.append_nil], .of_db_eq hw hdb fun s hs => ?_⟩
    cases hs
  | @lost moment periodStart done rest acts w₂ calls hstart hpassed htrail hdb hsent =>
    refine ⟨_, hsent, .of_db_eq hw hdb fun s hs hr => ?_⟩
    rcases List.mem_append.mp hs with hs | hs
    · obtain ⟨a, ha, hs⟩ := List.mem_flatMap.mp hs
      exact hchat hstart (List.mem_append_left _ (hpassed.membership_mem ha))
        (hpassed.holds a ha) hs hr
    · rcases htrail with rfl | ⟨a, hhead, ha, hpre⟩
      · cases hs
      · exact hchat hstart (List.mem_append_right _ (List.mem_of_head? hhead)) ha
          (hpre.subset hs) hr
  | @committed moment periodStart ms acts w₂ hstart hpassed hdb _ hsent =>
    have hrows := hdb .vipMemberships (by decide)
    have hsubs := (hdb .subscriptions (by decide)).trans hpassed.subscription_rows
    have hact : ∀ m, Revoked w w' m →
        ∃ a ∈ acts, a.membership = m ∧ a.judgement.decision.action = .revoke := by
      rintro m ⟨hm, hstatus, m', hm', hid, hrevoked⟩
      rw [hrows] at hm'
      obtain ⟨m₀, hm₀, hid₀, hrow⟩ := hpassed.row_of_mem hstart.listed hm'
      have heq : m₀ = m := hw.db.eq_of_clash (t := .vipMemberships) hm₀ hm
        (by simp [clash, ← hid₀, hid])
      subst heq
      rcases hrow with rfl | ⟨a, ha, rfl, rfl⟩
      · exact absurd hrevoked hstatus
      · exact ⟨a, ha, rfl, applied_revoked hstatus hrevoked⟩
    have hrevokes : ∀ a ∈ acts, a.judgement.decision.action = .revoke →
        Revoked w w' a.membership := by
      intro a ha hrevoke
      obtain ⟨hm, -, hmon⟩ := hstart.listed.mem (hpassed.membership_mem ha)
      refine ⟨hm, fun hstatus => ?_, _, ?_, (applied_id a.judgement.decision moment _).1, ?_⟩
      · rw [hstatus] at hmon
        cases hmon
      · rw [hrows, hpassed.rows]
        rcases hpassed.row_cases hstart.listed hm with ⟨-, hnone⟩ | ⟨b, hb, hbm, heq⟩
        · exact absurd rfl (hnone a ha)
        · have hab : b = a := by
            by_contra hne
            have hsym : ∀ x y : Act, x.membership.id ≠ y.membership.id →
                y.membership.id ≠ x.membership.id := fun _ _ h => h.symm
            have : Std.Symm fun x y : Act => x.membership.id ≠ y.membership.id := ⟨hsym⟩
            exact (hpassed.distinct hstart.listed).forall hb ha hne (by rw [hbm])
          subst hab
          exact List.mem_map.mpr ⟨_, hm, heq⟩
      · simp [VIPMembership.applied, hrevoke, VIPMembership.removed]
    refine ⟨_, hsent, ?_, ?_, ?_, ?_⟩
    · intro s hs hr
      obtain ⟨a, ha, hs⟩ := List.mem_flatMap.mp hs
      exact hchat hstart (hpassed.membership_mem ha) (hpassed.holds a ha) hs hr
    · intro m hm
      obtain ⟨a, ha, rfl, hrevoke⟩ := hact m hm
      obtain ⟨c, _, htgt⟩ :=
        htarget hstart (hpassed.membership_mem ha) (hpassed.holds a ha) hrevoke
      obtain ⟨n, hn⟩ : ∃ n, removalsOf a.membership.id (a.calls S.policy tenantId periodStart) =
          [.banChatMember c.chatId n, .unbanChatMember c.chatId n] :=
        removalsOf_calls hrevoke htgt.channel
      refine ⟨c, htgt.entitled.channel_mem, htgt.entitled.channel_id, n, ?_⟩
      rw [removalsOf_flatMap (hpassed.distinct hstart.listed) ha]
      exact hn
    · intro m hm
      obtain ⟨a, ha, rfl, hrevoke⟩ := hact m hm
      obtain ⟨c, s, htgt⟩ :=
        htarget hstart (hpassed.membership_mem ha) (hpassed.holds a ha) hrevoke
      refine ⟨s.expired moment, ?_, htgt.entitled.subscription_id, rfl⟩
      have hexpires : acts.any (·.expires (w.opened tenantId) s) = true := by
        refine List.any_eq_true.mpr ⟨a, ha, ?_⟩
        have ht : s.tenantId = (w.opened tenantId).tenantId :=
          htgt.entitled.subscription_owner.1.trans
            (hstart.listed.mem (hpassed.membership_mem ha)).2.1
        simp [Act.expires, hrevoke, Reaction.expires, htgt.subscription, World.inScope, rowTenant,
          ht]
      rw [hsubs]
      refine List.mem_map.mpr ⟨s, htgt.entitled.subscription_mem, ?_⟩
      rw [if_pos hexpires]
    · intro s hs hchanged
      have hany : acts.any (·.expires (w.opened tenantId) s) = true := by
        by_contra hno
        refine hchanged ?_
        rw [hsubs]
        refine List.mem_map.mpr ⟨s, hs, ?_⟩
        rw [if_neg hno]
      obtain ⟨a, ha, hexp⟩ := List.any_eq_true.mp hany
      simp only [Act.expires, Bool.and_eq_true, decide_eq_true_eq] at hexp
      obtain ⟨hrevoke, hexp⟩ := hexp
      obtain ⟨c, s', htgt⟩ :=
        htarget hstart (hpassed.membership_mem ha) (hpassed.holds a ha) hrevoke
      refine ⟨a.membership, hrevokes a ha hrevoke, ?_⟩
      have hid : s.id = s'.id := by
        simp only [Reaction.expires, htgt.subscription, Option.any_some] at hexp
        simpa using World.inScope_cond hexp
      rw [htgt.entitled.subscription_id, hid]

end Pass

/-! ### A second market -/

/-- Three passes, a week apart, that find the exchange answering so. -/
def threePasses (answers : String → Option ReferralCheck) (w : World) : World :=
  (Event.pass 1 none).play (calmEnv 214 answers) defaultSettings <|
    (Event.pass 1 none).play (calmEnv 207 answers) defaultSettings <|
      (Event.pass 1 none).play (calmEnv 200 answers) defaultSettings w

theorem run_threePasses (answers : String → Option ReferralCheck) {w₀ w : World}
    (h : Run Anything defaultSettings Always w₀ w) :
    Run Anything defaultSettings Always w₀ (threePasses answers w) := by
  have hany : ∀ day w op, Anything w op (calmEnv day answers w op) := fun _ _ _ => trivial
  exact ((h.play (hany 200) (.pass 1 none) trivial).play (hany 207) (.pass 1 none) trivial).play
    (hany 214) (.pass 1 none) trivial

def forexSubmission : Event := .submit 1 77 .forex "222222222" none none

/-- A rejected UID in one market, a membership in the other. -/
def twoMarkets : World :=
  forexSubmission.play (calmEnv 100 typoAnswers) defaultSettings
    (firstSubmission.play (calmEnv 100 typoAnswers) defaultSettings configuredWorld)

theorem run_twoMarkets : Run Anything defaultSettings Always configuredWorld twoMarkets :=
  have first := Run.play .refl (fun _ _ => trivial) firstSubmission trivial
  first.play (fun _ _ => trivial) forexSubmission trivial

/-- The forex membership after three warnings. -/
def forexMembership : VIPMembership where
  id := 4
  createdAt := .day 100
  tenantId := 1
  userId := 0
  channelId := 2
  subscriptionId := some 3
  status := .invited
  inviteLink := some "https://t.me/+0"
  inviteIssuedAt := some (.day 100)
  warningsSent := 3
  lastWarningAt := some (.day 214)

/-- The member of the forex channel is banned from the crypto channel. -/
theorem banned_from_the_other_channel :
    ¬ ∀ (G G' : World → Op → Choice → Prop) (S : Settings) (w₀ w w' : World)
      (tenantId : TenantId) (now : Option DateTime), Initial w₀ → Run G S Always w₀ w →
      Event.Steps G' S (.pass tenantId now) w w' →
      ∃ calls, w'.allSent = w.allSent ++ calls ∧ RightlyTargeted w w' calls := by
  intro h
  obtain ⟨calls, hsent, htarget⟩ := h _ _ _ _ _ _ 1 none initial_configuredWorld
    (run_threePasses typoAnswers run_twoMarkets)
    (Event.steps_only (calmEnv 221 typoAnswers) defaultSettings (.pass 1 none) _)
  obtain ⟨c, hc, hid, n, hremoved⟩ := htarget.removed forexMembership
    ⟨by decide +kernel, by decide, { forexMembership with
      status := .revoked, inviteLink := none, revokedAt := some (.day 221)
      revocationReason := some "NOT_REGISTERED" }, by decide +kernel, rfl, rfl⟩
  have hchat : ∀ c ∈ (threePasses typoAnswers twoMarkets).db .telegramChannels,
      c.id = 2 → c.chatId = -1002 := by decide +kernel
  have hcalls : removalsOf 4 (((Event.pass 1 none).play (calmEnv 221 typoAnswers)
      defaultSettings (threePasses typoAnswers twoMarkets)).allSent.drop
        (threePasses typoAnswers twoMarkets).allSent.length) =
      [.banChatMember (-1001) 77, .unbanChatMember (-1001) 77] := by decide +kernel
  rw [hsent, List.drop_left] at hcalls
  rw [show forexMembership.id = 4 from rfl, hcalls, hchat c hc hid] at hremoved
  revert hremoved
  simp

/-! ### One market -/

/-- A member with one account, of the market of the channel. -/
def oneMarket : World :=
  secondSubmission.play (calmEnv 100 typoAnswers) defaultSettings configuredWorld

/-- The account leaves the referral. -/
def strangerAnswers (uid : String) : Option ReferralCheck := some (strangerCheck uid)

/-- The member is removed in the fourth pass, from the right channel. -/
theorem removed_from_the_own_channel :
    let w := threePasses strangerAnswers oneMarket
    ∃ calls, ((Event.pass 1 none).play (calmEnv 221 strangerAnswers) defaultSettings w).allSent =
      w.allSent ++ calls ∧ RightlyTargeted w
        ((Event.pass 1 none).play (calmEnv 221 strangerAnswers) defaultSettings w) calls := by
  have hjoined : Run Anything defaultSettings Always configuredWorld oneMarket :=
    Run.play .refl (fun _ _ => trivial) secondSubmission trivial
  refine revocations_rightly_targeted initial_configuredWorld
    (run_threePasses strangerAnswers hjoined) (Event.steps_only _ _ (.pass 1 none) _) ?_
  have hmemberships : ∀ m ∈ (threePasses strangerAnswers oneMarket).db .vipMemberships,
      m.channelId = 1 := by decide +kernel
  have haccounts : ∀ a ∈ (threePasses strangerAnswers oneMarket).db .referralAccounts,
      a.market = .crypto := by decide +kernel
  have hchannels : ∀ c ∈ (threePasses strangerAnswers oneMarket).db .telegramChannels,
      c.id = 1 → c.market = .crypto ∧ c.isActive = true := by decide +kernel
  intro moment _ m hm j hj _ c hc hid
  obtain ⟨hmarket, hactive⟩ := hchannels c hc (hid.trans (hmemberships m hm))
  rw [haccounts j.account hj.account_mem, hmarket]
  exact ⟨rfl, hactive⟩

example : (((Event.pass 1 none).play (calmEnv 221 strangerAnswers) defaultSettings
    (threePasses strangerAnswers oneMarket)).db .vipMemberships).map (·.status) = [.revoked] := by
  decide +kernel

end VipChannel

/-
  VipChannel.Runs.Invites

  Which links still open a channel.

  A link that Telegram minted works until its expiry, whatever becomes of the
  transaction that asked for it.  So the database accounts for every usable link only
  as long as no transaction is lost after its mint, and no removal forgets a link that
  has not expired.
-/
import VipChannel.Runs.Grace

namespace VipChannel

open Lib MembershipMonitor

/-! ## Usable links -/

/-- The call minted a link for the membership that has not expired at `n`. -/
def Sent.outstanding (membershipId : RowId) (n : Int) (s : Sent) : Bool :=
  match s.about, s.call with
  | some (.invite id), .createChatInviteLink _ _ expireDate _ =>
    id == membershipId && expireDate.all fun e => n < e * MICROS_PER_SECOND
  | _, _ => false

/-- The mints for the membership whose links still work at `n`. -/
def World.outstanding (w : World) (membershipId : RowId) (n : Int) : List Sent :=
  w.allSent.filter (·.outstanding membershipId n)

/-- From now on, the database knows every link that still works. -/
structure Accounted (w : World) : Prop where
  recorded : ∀ n, w.clock ≤ n → ∀ membershipId, ∀ s ∈ w.outstanding membershipId n,
    ∃ m ∈ w.db .vipMemberships, m.id = membershipId ∧ m.inviteLink = s.link
  one : ∀ n, w.clock ≤ n → ∀ membershipId, (w.outstanding membershipId n).length ≤ 1
  revoked : ∀ n, w.clock ≤ n → ∀ m ∈ w.db .vipMemberships, m.status = .revoked →
    w.outstanding m.id n = []

/-- The expiry given to Telegram is not after `n`. -/
def Sent.expiresBy (s : Sent) (n : Int) : Prop :=
  match s.call with
  | .createChatInviteLink _ _ (some e) _ => e * MICROS_PER_SECOND ≤ n
  | _ => False

theorem not_outstanding_of_expiresBy {s : Sent} {n n' : Int} (h : s.expiresBy n)
    (hle : n ≤ n') (membershipId : RowId) : s.outstanding membershipId n' = false := by
  unfold Sent.expiresBy at h
  unfold Sent.outstanding
  cases hcall : s.call with
  | createChatInviteLink chatId memberLimit expireDate name =>
    rw [hcall] at h
    cases expireDate with
    | none => cases h
    | some e =>
      have hover : ¬ n' < e * MICROS_PER_SECOND := by
        dsimp only at h
        omega
      split
      · next heq =>
        cases heq
        simp [hover]
      · rfl
  | getMe | banChatMember | unbanChatMember | sendMessage =>
    rw [hcall] at h
    cases h

theorem outstanding_mono {s : Sent} {membershipId : RowId} {n n' : Int} (hle : n ≤ n')
    (h : s.outstanding membershipId n' = true) : s.outstanding membershipId n = true := by
  unfold Sent.outstanding at h ⊢
  split at h
  · next id chatId memberLimit expireDate name habout hcall =>
    rw [Bool.and_eq_true] at h ⊢
    refine ⟨h.1, ?_⟩
    cases expireDate with
    | none => rfl
    | some e =>
      have hlt := h.2
      simp only [Option.all_some, decide_eq_true_eq] at hlt ⊢
      omega
  · cases h

/-- A call about a compliance action mints nothing. -/
theorem not_outstanding_of_compliance {s : Sent} {id : RowId} {action : ComplianceAction}
    {periodStart : DateTime} (h : s.about = some (.compliance id action periodStart))
    (membershipId : RowId) (n : Int) : s.outstanding membershipId n = false := by
  unfold Sent.outstanding
  rw [h]

/-! ## What a membership row tells about the last mint -/

/-- The row records the link that `s` minted, with a lifetime that covers it. -/
structure Recorded (ttl : TimeDelta) (s : Sent) (m : VIPMembership) : Prop where
  link : ∃ link, m.inviteLink = some link ∧ s.link = some link ∧ link ≠ ""
  live : m.status.linkIsLive = true
  issued : ∃ issued, m.inviteIssuedAt = some issued ∧ s.expiresBy (issued.utc + ttl.micros)

/-- At most one link of each membership works, and its row records it. -/
def Tracked (ttl : TimeDelta) (w : World) : Prop :=
  ∀ membershipId, w.outstanding membershipId w.clock = [] ∨
    ∃ s, w.outstanding membershipId w.clock = [s] ∧
      ∃ m ∈ w.db .vipMemberships, m.id = membershipId ∧ Recorded ttl s m

/-- Fewer links work later. -/
theorem outstanding_later {w : World} {membershipId : RowId} {n n' : Int} (hle : n ≤ n') :
    w.outstanding membershipId n' =
      (w.outstanding membershipId n).filter (·.outstanding membershipId n') := by
  unfold World.outstanding
  rw [List.filter_filter]
  apply List.filter_congr
  intro s _
  by_cases h : s.outstanding membershipId n' = true
  · simp [h, outstanding_mono hle h]
  · simp [h]

theorem outstanding_cases {w : World} {membershipId : RowId} {n n' : Int} (hle : n ≤ n')
    {s : Sent} (h : w.outstanding membershipId n = [s]) :
    w.outstanding membershipId n' = [] ∨ w.outstanding membershipId n' = [s] := by
  rw [outstanding_later hle, h, List.filter_singleton]
  cases s.outstanding membershipId n' with
  | true => exact .inr rfl
  | false => exact .inl rfl

theorem Tracked.accounted {ttl : TimeDelta} {w : World} (hw : w.Sound) (h : Tracked ttl w) :
    Accounted w := by
  have hcases : ∀ n, w.clock ≤ n → ∀ membershipId, w.outstanding membershipId n = [] ∨
      ∃ s, w.outstanding membershipId n = [s] ∧
        ∃ m ∈ w.db .vipMemberships, m.id = membershipId ∧ Recorded ttl s m := by
    intro n hn membershipId
    rcases h membershipId with hnil | ⟨s, hone, hrow⟩
    · left
      rw [outstanding_later hn, hnil, List.filter_nil]
    · rcases outstanding_cases hn hone with hnil | hone'
      · exact .inl hnil
      · exact .inr ⟨s, hone', hrow⟩
  refine ⟨fun n hn membershipId s hs => ?_, fun n hn membershipId => ?_, fun n hn m hm hr => ?_⟩
  · rcases hcases n hn membershipId with hnil | ⟨s', hone, m, hm, hid, hrec⟩
    · rw [hnil] at hs
      cases hs
    · rw [hone, List.mem_singleton] at hs
      subst hs
      obtain ⟨link, hl, hsl, -⟩ := hrec.link
      exact ⟨m, hm, hid, hl.trans hsl.symm⟩
  · rcases hcases n hn membershipId with hnil | ⟨s', hone, -⟩
    · rw [hnil]
      exact Nat.zero_le 1
    · rw [hone]
      exact Nat.le_refl 1
  · rcases hcases n hn m.id with hnil | ⟨s', hone, m', hm', hid, hrec⟩
    · exact hnil
    · have heq : m' = m := hw.db.eq_of_clash (t := .vipMemberships) hm' hm (by simp [clash, hid])
      have hlive := hrec.live
      rw [heq, hr] at hlive
      cases hlive

/-! ## The condition -/

/-- A clock that never goes back, and links that are texts one can follow. -/
structure Steady (G : World → Op → Choice → Prop) : Prop where
  clock : ∀ w c, G w .utcnow c → w.clock ≤ (World.reading c).utc
  link : ∀ link, Issuable G link → link ≠ ""

/-- No mint's answer is lost, and nothing fails in a transaction that has minted a link. -/
structure NothingLost (G : World → Op → Choice → Prop) : Prop where
  mint : ¬ Lossy G
  rest : ∀ w op c, G w op c → (∃ s ∈ w.txSent, s.link ≠ none) → c.fault = none

/-- The lifetime of the recorded link is over. -/
def Lapsed (ttl : TimeDelta) (m : VIPMembership) (n : Int) : Prop :=
  ∀ issued, m.inviteIssuedAt = some issued → issued.utc + ttl.micros ≤ n

/-- A pass removes no member whose recorded link still works, and takes place no later than
    now. -/
def RemovesLapsed (G : World → Op → Choice → Prop) (S : Settings) (w : World) : Event → Prop
  | .pass tenantId now => ∀ moment, MomentOf G (w.opened tenantId) now moment →
      (now ≠ none → moment.utc ≤ w.clock) ∧
      ∀ m ∈ w.db .vipMemberships, ∀ j : Judgement,
        j.Holds G S.policy moment (w.opened tenantId) m → j.decision.action = .revoke →
        Lapsed S.ttl m moment.utc
  | .submit .. | .channel .. => True

/-! ## One event -/

section Events

variable {G : World → Op → Choice → Prop} {S : Settings} {w w' : World}

theorem Recorded.expiresBy {ttl : TimeDelta} {s : Sent} {m : VIPMembership} {n : Int}
    (h : Recorded ttl s m) (hl : Lapsed ttl m n) : s.expiresBy n := by
  obtain ⟨issued, hissued, hexpires⟩ := h.issued
  have hle := hl issued hissued
  unfold Sent.expiresBy at hexpires ⊢
  split at hexpires
  · exact Int.le_trans hexpires hle
  · cases hexpires

/-- An event that mints nothing, and keeps every record of a link that still works. -/
theorem Tracked.step {ttl : TimeDelta} {calls : List Sent} (h : Tracked ttl w)
    (hle : w.clock ≤ w'.clock) (hsent : w'.allSent = w.allSent ++ calls)
    (hplain : ∀ s ∈ calls, ∀ id n, s.outstanding id n = false)
    (hrows : ∀ m ∈ w.db .vipMemberships, ∀ s, Recorded ttl s m →
      (∃ m' ∈ w'.db .vipMemberships, m'.id = m.id ∧ Recorded ttl s m') ∨
        Lapsed ttl m w'.clock) : Tracked ttl w' := by
  intro membershipId
  have hsame : w'.outstanding membershipId w'.clock = w.outstanding membershipId w'.clock := by
    unfold World.outstanding
    have hnone : calls.filter (·.outstanding membershipId w'.clock) = [] := by
      rw [List.filter_eq_nil_iff]
      intro s hs
      rw [hplain s hs]
      exact Bool.false_ne_true
    rw [hsent, List.filter_append, hnone, List.append_nil]
  rw [hsame]
  rcases h membershipId with hnil | ⟨s, hone, m, hm, hid, hrec⟩
  · left
    rw [outstanding_later hle, hnil, List.filter_nil]
  · rcases outstanding_cases hle hone with hnil | hone'
    · exact .inl hnil
    · rcases hrows m hm s hrec with ⟨m', hm', hid', hrec'⟩ | hlapsed
      · exact .inr ⟨s, hone', m', hm', hid'.trans hid, hrec'⟩
      · -- The link has expired meanwhile: it cannot be outstanding.
        have hmem : s ∈ w.outstanding membershipId w'.clock := by
          rw [hone']
          exact List.mem_singleton.mpr rfl
        have hout := (List.mem_filter.mp hmem).2
        rw [not_outstanding_of_expiresBy (hrec.expiresBy hlapsed) (Int.le_refl _)] at hout
        cases hout

/-- An event that leaves the memberships alone and sends nothing. -/
theorem Tracked.quiet {ttl : TimeDelta} (h : Tracked ttl w) (hle : w.clock ≤ w'.clock)
    (hsent : w'.allSent = w.allSent) (hdb : w'.db .vipMemberships = w.db .vipMemberships) :
    Tracked ttl w' := by
  refine h.step hle (hsent.trans (List.append_nil _).symm) (fun s hs => by cases hs) ?_
  intro m hm s hrec
  exact .inl ⟨m, hdb ▸ hm, rfl, hrec⟩

theorem Recorded.applied {ttl : TimeDelta} {s : Sent} {m : VIPMembership}
    {d : ComplianceDecision} {moment : DateTime} (h : Recorded ttl s m)
    (hd : d.action ≠ .revoke) : Recorded ttl s (m.applied d moment) := by
  unfold VIPMembership.applied
  cases ha : d.action with
  | revoke => exact absurd ha hd
  | none => exact h
  | warn => exact ⟨h.link, h.live, h.issued⟩
  | restore =>
    refine ⟨h.link, ?_, h.issued⟩
    have hlive := h.live
    simp only [VIPMembership.restored]
    split
    · rfl
    · exact hlive

theorem Judgement.Holds.of_view {policy : CompliancePolicy} {moment : DateTime} {v v' : World}
    {m : VIPMembership} {j : Judgement} (h : j.Holds G policy moment v m)
    (hview : v'.view = v.view) (ht : v'.tenantId = v.tenantId) :
    j.Holds G policy moment v' m where
  account_mem := hview ▸ h.account_mem
  account_tenant := ht ▸ h.account_tenant
  account_user := h.account_user
  config_mem := hview ▸ h.config_mem
  config_tenant := ht ▸ h.config_tenant
  config_provider := h.config_provider
  config_market := h.config_market
  answer := h.answer
  judged := h.judged
  decided := h.decided

theorem Tracked.pass {tenantId : TenantId} {now : Option DateTime} (hG : Steady G)
    (hw : w.Sound) (h : Tracked S.ttl w) (hC : RemovesLapsed G S w (.pass tenantId now))
    (hstep : Event.Steps G S (.pass tenantId now) w w') : Tracked S.ttl w' := by
  obtain ⟨moment, n, hmoment, hle, hle', hread, heffect⟩ := pass_effect_at hG.clock hw hstep
  obtain ⟨hpast, hremoves⟩ := hC moment hmoment
  have hnow : moment.utc ≤ w'.clock := by
    by_cases hnone : now = none
    · rw [← hread hnone]
      exact hle'
    · exact Int.le_trans (hpast hnone) (Int.le_trans hle hle')
  have hclock := Int.le_trans hle hle'
  cases heffect with
  | quiet hdb hsent => exact h.quiet hclock hsent (by rw [hdb])
  | lost hstart hpassed htrail hdb hsent =>
    refine h.step hclock hsent (fun s hs id n => ?_)
      fun m hm s hrec => .inl ⟨m, hdb ▸ hm, rfl, hrec⟩
    rcases List.mem_append.mp hs with hs | hs
    · obtain ⟨a, -, hs⟩ := List.mem_flatMap.mp hs
      exact not_outstanding_of_compliance (Act.about_of_mem hs) _ _
    · rcases htrail with rfl | ⟨a, -, -, hpre⟩
      · cases hs
      · exact not_outstanding_of_compliance (Act.about_of_mem (hpre.subset hs)) _ _
  | @committed moment' periodStart ms acts w₂ hstart hpassed hdb _ hsent =>
    have heq : moment' = moment := by
      rcases hstart.moment_of with hsome | ⟨hnone, -⟩
      · exact (Option.some.inj hsome).symm
      · cases hnone
    subst heq
    refine h.step hclock hsent (fun s hs id n => ?_) fun m hm s hrec => ?_
    · obtain ⟨a, -, hs⟩ := List.mem_flatMap.mp hs
      exact not_outstanding_of_compliance (Act.about_of_mem hs) _ _
    · rw [hdb _ (by decide), hpassed.rows]
      rcases hpassed.row_cases hstart.listed hm with ⟨heq, -⟩ | ⟨a, ha, rfl, heq⟩
      · exact .inl ⟨m, List.mem_map.mpr ⟨m, hm, heq⟩, rfl, hrec⟩
      · by_cases hrevoke : a.judgement.decision.action = .revoke
        · right
          have hj := (hpassed.holds a ha).judged
          have hlapsed := hremoves _ hm a.judgement (hj.of_view rfl rfl) hrevoke
          exact fun issued hissued => Int.le_trans (hlapsed issued hissued) hnow
        · exact .inl ⟨_, List.mem_map.mpr ⟨_, hm, heq⟩, (applied_id ..).1, hrec.applied hrevoke⟩

/-- A minted link runs out with its lifetime. -/
theorem mintCall_expiresBy {ttl : TimeDelta} {tenantId : TenantId} {channel : TelegramChannel}
    {base : VIPMembership} {moment expireDate : DateTime} {link : String}
    (h : plusDelta moment ttl = .ok expireDate) (h0 : 0 ≤ moment.utc) (httl : 0 ≤ ttl.micros) :
    (mintCall tenantId channel base expireDate link).expiresBy (moment.utc + ttl.micros) := by
  have hutc := plusDelta_utc h
  have hpos : 0 ≤ expireDate.utc := by omega
  change expireDate.timestampSeconds * MICROS_PER_SECOND ≤ _
  rw [← hutc]
  exact DateTime.timestampSeconds_le hpos

/-- The row a grant starts from records the link that its prior row recorded. -/
theorem Recorded.base {ttl : TimeDelta} {s : Sent} {prior : VIPMembership}
    {subscriptionId : RowId} (h : Recorded ttl s prior) :
    Recorded ttl s (ReferralOnboardingService.reinstate subscriptionId prior) := by
  have hlive := h.live
  unfold ReferralOnboardingService.reinstate
  split
  · next hgone =>
    rcases hgone with hgone | hgone
    · rw [hgone] at hlive
      cases hlive
    · rw [hgone] at hlive
      cases hlive
  · exact ⟨h.link, h.live, h.issued⟩

/-- Where a link is minted, the recorded one has expired. -/
theorem Recorded.lapsed_of_mint {ttl : TimeDelta} {s : Sent} {base : VIPMembership}
    {moment : DateTime} (h : Recorded ttl s base)
    (hlive : InviteService.liveLink ttl base moment = .ok none) : Lapsed ttl base moment.utc := by
  obtain ⟨link, hlink, -, hne⟩ := h.link
  obtain ⟨issued, hissued, -⟩ := h.issued
  rcases InviteService.liveLink_none hlive with hno | hempty | hno | hdead | ⟨issued', hi, hover⟩
  · rw [hlink] at hno
    cases hno
  · rw [hlink] at hempty
    exact absurd (Option.some.inj hempty) hne
  · rw [hissued] at hno
    cases hno
  · rw [h.live] at hdead
    cases hdead
  · intro i hi'
    rw [hi] at hi'
    rw [← Option.some.inj hi']
    exact hover

theorem Tracked.submit {tenantId : TenantId} {telegramUserId : Int} {market : Market}
    {rawUid : String} {username firstName : Option String} (hG : Steady G) (hL : NothingLost G)
    (httl : 0 ≤ S.ttl.micros) (h0 : 0 ≤ w.clock) (hw : w.Sound) (h : Tracked S.ttl w)
    (hstep : Event.Steps G S
      (.submit tenantId telegramUserId market rawUid username firstName) w w') :
    Tracked S.ttl w' := by
  have hclock := hstep.clock_le hG.clock
  cases submit_effect hw hstep with
  | quiet hdb hsent => exact h.quiet hclock hsent (hdb _ (by decide))
  | lost hdb hsent hlink hcause =>
    -- Nothing is lost: the mint was answered, and no later call failed.
    exfalso
    rcases hcause with hlossy | ⟨w₁, hmem, hconflict, hfail⟩
    · exact hL.mint hlossy
    · rcases hfail with hc | ⟨op, c, hc, hfault⟩
      · exact hc hconflict
      · exact hfault (hL.rest w₁ op c hc ⟨_, hmem, hlink⟩)
  | @granted g w₁ calls hg hdb hsent hmoment =>
    have hrows : ∀ {r}, r ∈ w'.db .vipMemberships ↔
        r = g.membership ∨ (r ∈ w.db .vipMemberships ∧ r.id ≠ g.membership.id) := by
      intro r
      rw [hdb]
      exact hg.memberships.mem_iff
    have hreplaced : ∀ m ∈ w.db .vipMemberships, m.id = g.membership.id →
        ∀ s, Recorded S.ttl s m → Recorded S.ttl s g.base := by
      intro m hm hid s hrec
      have hfrom := hg.membership
      rw [hg.prior_eq (hw.opened tenantId) hm hid] at hfrom
      obtain ⟨-, -, -, hbase⟩ := hfrom
      rw [hbase]
      exact hrec.base
    rcases hg.invite.cases with ⟨-, hm, rfl⟩ | ⟨expireDate, hlive, hexpire, hissuable, hm, rfl⟩
    · refine h.step hclock hsent (fun s hs => by cases hs) fun m hmem s hrec => .inl ?_
      by_cases hid : m.id = g.membership.id
      · exact ⟨g.membership, hrows.mpr (.inl rfl), hid.symm, hm ▸ hreplaced m hmem hid s hrec⟩
      · exact ⟨m, hrows.mpr (.inr ⟨hmem, hid⟩), rfl, hrec⟩
    · have hbid : g.base.id = g.membership.id := by
        rw [hm]
        rfl
      have hpos : 0 ≤ g.moment.utc := by omega
      have hmint : Recorded S.ttl
          (mintCall (w.opened tenantId).tenantId g.channel g.base expireDate g.link)
          g.membership := by
        rw [hm]
        refine ⟨⟨g.link, rfl, rfl, hG.link _ hissuable⟩, ?_, g.moment, rfl,
          mintCall_expiresBy hexpire hpos httl⟩
        change MembershipStatus.linkIsLive
          (if g.base.status = .active then .active else .invited) = true
        split <;> rfl
      intro membershipId
      unfold World.outstanding
      rw [hsent, List.filter_append]
      change w.outstanding membershipId w'.clock ++ _ = _ ∨ ∃ s,
        w.outstanding membershipId w'.clock ++ _ = _ ∧ _
      by_cases hid : membershipId = g.membership.id
      · -- Its earlier link, if it has one, has expired.
        have hold : w.outstanding membershipId w'.clock = [] := by
          rcases h membershipId with hnil | ⟨s, hone, m, hmem, hmid, hrec⟩
          · rw [outstanding_later hclock, hnil, List.filter_nil]
          · have hlapsed := (hreplaced m hmem (hmid.trans hid) s hrec).lapsed_of_mint hlive
            have hover := (hreplaced m hmem (hmid.trans hid) s hrec).expiresBy hlapsed
            rw [outstanding_later hclock, hone, List.filter_singleton, hmoment,
              not_outstanding_of_expiresBy hover (Int.le_refl _)]
            rfl
        rw [hold, List.nil_append, List.filter_singleton]
        cases hout : (mintCall (w.opened tenantId).tenantId g.channel g.base expireDate
            g.link).outstanding membershipId w'.clock with
        | false => exact .inl rfl
        | true =>
          exact .inr ⟨_, rfl, g.membership, hrows.mpr (.inl rfl), hid.symm, hmint⟩
      · have hother : (mintCall (w.opened tenantId).tenantId g.channel g.base expireDate
            g.link).outstanding membershipId w'.clock = false := by
          simp [Sent.outstanding, mintCall, hbid, Ne.symm hid]
        rw [List.filter_singleton, hother]
        simp only [cond_false, List.append_nil]
        rcases h membershipId with hnil | ⟨s, hone, m, hmem, hmid, hrec⟩
        · left
          rw [outstanding_later hclock, hnil, List.filter_nil]
        · rcases outstanding_cases hclock hone with hnil | hone'
          · exact .inl hnil
          · exact .inr ⟨s, hone', m, hrows.mpr (.inr ⟨hmem, by rw [hmid]; exact hid⟩), hmid, hrec⟩

/-- Where no transaction is lost after its mint, and no removal comes before the recorded
    link has expired, the database accounts for every link that works. -/
theorem usable_invites_accounted {w₀ : World} (h0 : Initial w₀) (hclock : 0 ≤ w₀.clock)
    (httl : 0 ≤ S.ttl.micros) (hG : Steady G) (hL : NothingLost G)
    (hrun : Run G S (RemovesLapsed G S) w₀ w) : Accounted w := by
  have hinv : w.Sound ∧ 0 ≤ w.clock ∧ Tracked S.ttl w := by
    refine hrun.invariant (I := fun w => w.Sound ∧ 0 ≤ w.clock ∧ Tracked S.ttl w)
      ⟨h0.sound, hclock, fun id => .inl ?_⟩ ?_
    · unfold World.outstanding
      rw [h0.silent, List.filter_nil]
    · rintro w w' e ⟨hw, hpos, htracked⟩ hC he
      have hle := he.clock_le hG.clock
      refine ⟨he.sound hw, Int.le_trans hpos hle, ?_⟩
      cases e with
      | submit => exact htracked.submit hG hL httl hpos hw he
      | pass => exact htracked.pass hG hw hC he
      | channel =>
        cases channel_effect hw he with
        | quiet hdb hsent => exact htracked.quiet hle hsent (by rw [hdb])
        | upserted hdb _ _ hsent => exact htracked.quiet hle hsent (hdb _ (by decide))
  exact hinv.2.2.accounted hinv.1

end Events

/-! ### A removal on the day of the mint -/

/-- Nothing fails, the clock never goes back, and links are not empty. -/
def Orderly (w : World) (op : Op) (c : Choice) : Prop :=
  c.fault = none ∧
    match op with
    | .utcnow => w.clock ≤ (World.reading c).utc
    | .telegram .. => c.link ≠ ""
    | _ => True

theorem steady_orderly : Steady Orderly where
  clock := fun _ _ hc => hc.2
  link := by
    rintro link ⟨w, call, about, c, hc, -, rfl⟩
    exact hc.2

theorem nothingLost_orderly : NothingLost Orderly where
  mint := by
    rintro ⟨w, chatId, memberLimit, expireDate, name, about, c, hc, hfault, -⟩
    exact hfault hc.1
  rest := fun _ _ _ hc _ => hc.1

theorem orderly_calmEnv {day : Fin 2932896} {answers : String → Option ReferralCheck}
    (hanswers : ∀ uid, (answers uid).isSome) {w : World} (hw : w.clock ≤ (DateTime.day day).utc)
    (op : Op) : Orderly w op (calmEnv day answers w op) := by
  cases op with
  | utcnow => exact ⟨rfl, hw⟩
  | validateUser uid =>
    obtain ⟨check, hcheck⟩ := Option.isSome_iff_exists.mp (hanswers uid)
    simp [Orderly, calmEnv, hcheck]
  | telegram call about =>
    refine ⟨rfl, fun hempty => ?_⟩
    have hlen := congrArg String.length hempty
    rw [calmEnv, String.length_append] at hlen
    have hlink : "https://t.me/+".length = 14 := rfl
    simp only [hlink, String.length_empty] at hlen
    omega
  | openSession | closeSession | select | add | update | flush | savepoint | releaseSavepoint
  | rollbackToSavepoint | commit | rollback | uuid4 | activeTenantIds | tenantsOfToken
  | tokenUrlsafe | encrypt => exact ⟨rfl, trivial⟩

/-- What a program does on a day that the clock has not passed. -/
theorem runs_orderly {α : Type} {answers : String → Option ReferralCheck} {day : Fin 2932896}
    {w : World} (hanswers : ∀ uid, (answers uid).isSome) (hw : w.clock ≤ (DateTime.day day).utc)
    (p : App α) : Runs (serial Orderly) p w (exec World.step (calmEnv day answers) p w).1
      (exec World.step (calmEnv day answers) p w).2 := by
  have hI : ∀ (v : World) op, v.clock ≤ (DateTime.day day).utc →
      (World.step v op (calmEnv day answers v op)).2.clock ≤ (DateTime.day day).utc := by
    intro v op hv
    rcases v.step_clock op (calmEnv day answers v op) with heq | ⟨rfl, heq⟩
    · rw [heq]
      exact hv
    · rw [heq]
      exact Int.le_refl _
  exact (runs_exec_within World.step (fun v op hv => orderly_calmEnv hanswers hv op) hI p hw).1

/-- A run goes on with an event on such a day. -/
theorem Run.orderly {S : Settings} {C : World → Event → Prop} {w₀ w : World}
    {answers : String → Option ReferralCheck} (h : Run Orderly S C w₀ w)
    (hanswers : ∀ uid, (answers uid).isSome) (day : Fin 2932896) (e : Event)
    (hw : w.clock ≤ (DateTime.day day).utc) (hC : C w e) :
    Run Orderly S C w₀ (e.play (calmEnv day answers) S w) := by
  refine .tail h ⟨e, hC, ?_⟩
  cases e with
  | submit | pass | channel => exact ⟨_, runs_orderly hanswers hw _⟩

theorem typoAnswers_isSome (uid : String) : (typoAnswers uid).isSome := by
  unfold typoAnswers
  split <;> rfl

/-- The member joins, is warned three times, and comes back for a new link on the day of the
    fourth pass. -/
def comebackWorld : World :=
  secondSubmission.play (calmEnv 221 typoAnswers) defaultSettings
    (threePasses strangerAnswers oneMarket)

theorem strangerAnswers_isSome (uid : String) : (strangerAnswers uid).isSome := rfl

theorem run_passes {C : World → Event → Prop} (hC : ∀ w, C w secondSubmission)
    (hpass : ∀ w ∈ [oneMarket,
      (Event.pass 1 none).play (calmEnv 200 strangerAnswers) defaultSettings oneMarket,
      (Event.pass 1 none).play (calmEnv 207 strangerAnswers) defaultSettings
        ((Event.pass 1 none).play (calmEnv 200 strangerAnswers) defaultSettings oneMarket)],
      C w (.pass 1 none)) :
    Run Orderly defaultSettings C configuredWorld (threePasses strangerAnswers oneMarket) := by
  have hstart : Run Orderly defaultSettings C configuredWorld configuredWorld := .refl
  have hjoined := hstart.orderly typoAnswers_isSome 100 secondSubmission (by decide) (hC _)
  have hfirst := hjoined.orderly strangerAnswers_isSome 200 (.pass 1 none) (by decide +kernel)
    (hpass _ (by simp [oneMarket]))
  have hsecond := hfirst.orderly strangerAnswers_isSome 207 (.pass 1 none) (by decide +kernel)
    (hpass _ (by simp [oneMarket]))
  exact hsecond.orderly strangerAnswers_isSome 214 (.pass 1 none) (by decide +kernel)
    (hpass _ (by simp [oneMarket]))

/-- The removal forgets a link that works for another day. -/
theorem removal_forgets_a_link :
    ¬ ∀ (G : World → Op → Choice → Prop) (S : Settings) (w₀ w : World), Initial w₀ →
      0 ≤ w₀.clock → 0 ≤ S.ttl.micros → Steady G → Run G S Always w₀ w → Accounted w := by
  intro h
  have hrun : Run Orderly defaultSettings Always configuredWorld comebackWorld :=
    (run_passes (fun _ => trivial) fun _ _ => trivial).orderly typoAnswers_isSome 221
      secondSubmission (by decide +kernel) trivial
  have hend := hrun.orderly strangerAnswers_isSome 221 (.pass 1 none) (by decide +kernel) trivial
  have haccounted := h _ _ _ _ initial_configuredWorld (by decide) (by decide) steady_orderly hend
  have hrevoked : { forexMembership with
      id := 3
      channelId := 1
      subscriptionId := some 2
      status := .revoked
      inviteLink := none
      inviteIssuedAt := some (.day 221)
      revokedAt := some (.day 221)
      revocationReason := some "NOT_REGISTERED" } ∈
      ((Event.pass 1 none).play (calmEnv 221 strangerAnswers) defaultSettings comebackWorld).db
        .vipMemberships := by decide +kernel
  have hnone := haccounted.revoked _ (Int.le_refl _) _ hrevoked rfl
  revert hnone
  decide +kernel

/-- Where a row's grace and its link began together, the link has expired before the grace
    is over. -/
theorem removesLapsed_of_grace {G : World → Op → Choice → Prop} {w : World}
    (hrows : ∀ m ∈ w.db .vipMemberships,
      m.joinedAt = none ∧ m.inviteIssuedAt = some m.createdAt)
    (hconfigs : ∀ config ∈ w.db .referralProgramConfigs, config.complianceGracePeriodDays = 30) :
    RemovesLapsed G defaultSettings w (.pass 1 none) := by
  refine fun moment _ => ⟨fun h => absurd rfl h, fun m hm j hj hrevoke issued hissued => ?_⟩
  obtain ⟨hjoined, hcreated⟩ := hrows m hm
  rw [hcreated] at hissued
  cases hissued
  have hover := (decideCompliance_punishable hj.decided (.inr hrevoke)).graceOver
  have hdays := hconfigs j.config hj.config_mem
  have hmember : m.snapshot.memberSince = m.createdAt := by
    simp only [VIPMembership.snapshot, hjoined, Option.getD_none]
  rw [hmember] at hover
  simp only [policyFor, hdays] at hover
  simp only [defaultSettings, MICROS_PER_DAY] at hover ⊢
  omega

/-- A removal a hundred days after the mint leaves nothing unaccounted for. -/
theorem removedWorld_accounted : Accounted removedWorld := by
  have hlapsed : ∀ w ∈ [oneMarket,
      (Event.pass 1 none).play (calmEnv 200 strangerAnswers) defaultSettings oneMarket,
      (Event.pass 1 none).play (calmEnv 207 strangerAnswers) defaultSettings
        ((Event.pass 1 none).play (calmEnv 200 strangerAnswers) defaultSettings oneMarket)],
      RemovesLapsed Orderly defaultSettings w (.pass 1 none) := by
    intro w hw
    refine removesLapsed_of_grace ?_ ?_
    · revert w
      decide +kernel
    · revert w
      decide +kernel
  have hrun := (run_passes (fun _ => trivial) hlapsed).orderly strangerAnswers_isSome 221
    (.pass 1 none) (by decide +kernel)
    (removesLapsed_of_grace (by decide +kernel) (by decide +kernel))
  exact usable_invites_accounted initial_configuredWorld (by decide) (by decide) steady_orderly
    nothingLost_orderly hrun

end VipChannel

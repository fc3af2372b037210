/-
  VipChannel.Runs.LinkExpiry

  How long a reused link still opens.

  `_live_link` compares instants to the microsecond, and Telegram was told the end of the
  link in whole seconds, truncated.  The two agree on every later instant exactly when
  the end is a whole second, or lies before 1970, where truncating moves it forward.
-/
import VipChannel.Lib.Doubles
import VipChannel.Runs.Access

namespace VipChannel

open Lib
open Program (perform raising)

namespace InviteService

variable {G : World → Op → Choice → Prop} {ttl : TimeDelta} {channel : TelegramChannel}
  {w w' : World} {m m' base : VIPMembership} {moment : DateTime} {invite : IssuedInvite}

/-! ## The two ways of issuing -/

/-- A link is issued at `moment`: the live one again, or a new one, of which the end is
    told to Telegram. -/
inductive IssuedAt (ttl : TimeDelta) (channel : TelegramChannel) (base : VIPMembership)
    (moment : DateTime) (w : World) : IssuedInvite × VIPMembership → World → Prop
  | reused {link : String} : liveLink ttl base moment = .ok (some link) →
      IssuedAt ttl channel base moment w ({ link, reused := true }, base) w
  | minted {expireDate : DateTime} {link : String} {w' : World} :
      plusDelta moment ttl = .ok expireDate →
      w'.ledger = (w.sending [mintCall w.tenantId channel base expireDate link]).ledger →
      IssuedAt ttl channel base moment w
        ({ link, reused := false }, recordLink w.tenantId link moment base) w'

theorem meets_issue_at : Meets G (issue ttl w.tenantId base channel (some moment))
    (IssuedAt ttl channel base moment w) (fun _ _ => True) w := by
  unfold issue
  rw [meets_bind]
  show Meets G (pure moment) _ _ w
  rw [meets_pure, meets_bind]
  refine meets_raising (fun live hlive => ?_) fun _ => trivial
  cases live with
  | some existing => exact .reused hlive
  | none =>
    rw [meets_bind]
    refine meets_raising (fun expireDate hexpire => ?_) fun _ => trivial
    rw [meets_bind]
    refine meets_telegram (fun d _ _ => ?_) (fun _ _ _ _ _ => trivial) fun _ => trivial
    rw [meets_bind]
    refine meets_update (keepsKeys_recordLink _ _ _) ?_
    exact .minted hexpire rfl

/-- What an issue that returns has done. -/
theorem issuedAt {result : IssuedInvite × VIPMembership}
    (h : Runs (serial G) (issue ttl w.tenantId base channel (some moment)) w (.ok result) w') :
    IssuedAt ttl channel base moment w result w' := by
  have hmeets : Meets G (issue ttl w.tenantId base channel (some moment))
      (IssuedAt ttl channel base moment w) (fun _ _ => True) w := meets_issue_at
  exact wp_sound hmeets h

/-- A live link is returned, whatever the environment. -/
theorem runs_reused {tenantId : TenantId} {link : String}
    (h : liveLink ttl base moment = .ok (some link)) :
    Runs (serial G) (issue ttl tenantId base channel (some moment)) w
      (.ok ({ link, reused := true }, base)) w := by
  have heq : issue ttl tenantId base channel (some moment) =
      pure ({ link, reused := true }, base) := by
    show raising (liveLink ttl base moment) >>= _ = _
    rw [h]
    rfl
  rw [heq]
  exact ⟨rfl, rfl⟩

/-! ## Reused links -/

/-- At `moment`, the recorded link of the membership is returned. -/
def ReusedAt (ttl : TimeDelta) (m : VIPMembership) (moment : DateTime) : Prop :=
  ∃ (G : World → Op → Choice → Prop) (channel : TelegramChannel) (w w' : World)
    (invite : IssuedInvite) (m' : VIPMembership),
    Runs (serial G) (issue ttl w.tenantId m channel (some moment)) w (.ok (invite, m')) w' ∧
      invite.reused = true

theorem ReusedAt.live (h : ReusedAt ttl m moment) :
    ∃ link, liveLink ttl m moment = .ok (some link) := by
  obtain ⟨G, channel, w, w', invite, m', hruns, hreused⟩ := h
  cases issuedAt hruns with
  | reused hlive => exact ⟨_, hlive⟩
  | minted _ _ => cases hreused

/-- `m'` still has the link of `m`, and its row says so: SQLite hands the instant back
    without its zone. -/
structure KeepsLink (m m' : VIPMembership) : Prop where
  link : m'.inviteLink = m.inviteLink
  issued : ∃ a b, m.inviteIssuedAt = some a ∧ m'.inviteIssuedAt = some b ∧ b.utc = a.utc

/-- While its lifetime lasts, a link just minted is returned at every instant that can be
    told from naive ones. -/
theorem reusedAt_of_minted {link : String} {t expireDate : DateTime}
    (haware : moment.utcoffset.isSome = true) (hexpire : plusDelta moment ttl = .ok expireDate)
    (hlink : link ≠ "") (ht : t.utcoffset.isSome = true) (hlt : t.utc < expireDate.utc)
    (channel : TelegramChannel) (w : World) :
    ReusedAt ttl (recordLink w.tenantId link moment base) t := by
  have hstatus : (recordLink w.tenantId link moment base).status.linkIsLive = true := by
    simp only [recordLink]
    split <;> rfl
  have hexpires : plusDelta moment.aware ttl = .ok expireDate := by
    rw [DateTime.aware_of_isSome haware]
    exact hexpire
  have hlive : liveLink ttl (recordLink w.tenantId link moment base) t = .ok (some link) :=
    liveLink_of_fresh rfl hlink hstatus rfl hexpires ht (plusDelta_utc hexpire ▸ hlt)
  exact ⟨fun _ _ _ => True, channel, w, w, _, _, runs_reused hlive, rfl⟩

/-- The instants at which a link is reused are before the end that Telegram was told, for
    every later instant, if and only if the end is a whole second, lies before 1970, or the
    lifetime is empty.  The float of `timestamp()` gives that end up to the year 2514. -/
theorem reused_links_open_iff {minted : DateTime} (haware : minted.utcoffset.isSome = true)
    (hmint : Runs (serial G) (issue ttl w.tenantId base channel (some minted)) w
      (.ok (invite, m)) w') (hnew : invite.reused = false) (hlink : invite.link ≠ "") :
    ∃ s E name, w'.ledger = (w.sending [s]).ledger ∧
      s.call = .createChatInviteLink channel.chatId 1 (some E) name ∧
      E = (minted.utc + ttl.micros).tdiv MICROS_PER_SECOND ∧
      (|minted.utc + ttl.micros| < 2 ^ 34 * MICROS_PER_SECOND →
        E = Double.trunc (totalSeconds (minted.utc + ttl.micros))) ∧
      ((∀ m' t, KeepsLink m m' → ReusedAt ttl m' t → minted.utc ≤ t.utc →
          t.utc < E * MICROS_PER_SECOND) ↔
        MICROS_PER_SECOND ∣ minted.utc + ttl.micros ∨ minted.utc + ttl.micros < 0 ∨
          ttl.micros ≤ 0) := by
  cases issuedAt hmint with
  | reused _ => cases hnew
  | @minted expireDate link _ hexpire hledger =>
    have hutc : expireDate.utc = minted.utc + ttl.micros := plusDelta_utc hexpire
    have hwhole := DateTime.utc_le_timestampSeconds_iff (d := expireDate)
    refine ⟨_, expireDate.timestampSeconds, _, hledger, rfl, ?_, fun hnear => ?_, ?_⟩
    · rw [← hutc]
      rfl
    · rw [trunc_totalSeconds hnear, ← hutc]
      rfl
    rw [← hutc]
    constructor
    · intro hopen
      by_contra hcond
      simp only [not_or, not_lt, not_le] at hcond
      obtain ⟨hcut, hpos, httl⟩ := hcond
      -- The second the link ends in, or the mint itself where that is later.
      have hend : expireDate.timestampSeconds * MICROS_PER_SECOND < expireDate.utc := by
        by_contra hle
        rcases hwhole.mp (not_lt.mp hle) with h | h
        · exact hcut h
        · exact absurd h (not_lt.mpr hpos)
      obtain ⟨t, haware', ht⟩ := DateTime.exists_between (a := minted) (b := expireDate)
        (n := max minted.utc (expireDate.timestampSeconds * MICROS_PER_SECOND))
        (plusDelta_utcoffset hexpire) (le_max_left _ _) (max_le (by omega) hend.le)
      have hlt : t.utc < expireDate.utc := by
        rw [ht]
        exact max_lt (by omega) hend
      have hreused : ReusedAt ttl (recordLink w.tenantId link minted base) t :=
        reusedAt_of_minted haware hexpire hlink (haware'.trans haware) hlt channel w
      have hlater := hopen _ t ⟨rfl, minted, minted, rfl, rfl, rfl⟩ hreused (by omega)
      omega
    · intro hcond m' t hkeeps hreused hlater
      obtain ⟨link', hlive⟩ := hreused.live
      obtain ⟨-, -, stored, hstored, hlt⟩ := liveLink_some hlive
      obtain ⟨a, b, ha, hb, hab⟩ := hkeeps.issued
      rw [hstored] at hb
      cases hb
      cases ha
      have hbefore : t.utc < expireDate.utc := by omega
      rcases hcond with h | h | h
      · exact lt_of_lt_of_le hbefore (hwhole.mpr (.inl h))
      · exact lt_of_lt_of_le hbefore (hwhole.mpr (.inr h))
      · omega

/-! ### A link minted within a second -/

/-- A member without a link. -/
def linklessMember : VIPMembership where
  id := 5
  createdAt := .day 100
  tenantId := 1
  userId := 3
  channelId := 11
  subscriptionId := none

/-- 0.9 seconds past a midnight. -/
def pastMidnight : DateTime := ⟨100 * MICROS_PER_DAY + 900000, by decide, some 0⟩

/-- The next day, 0.5 seconds past midnight. -/
def dayAfter : DateTime := ⟨101 * MICROS_PER_DAY + 500000, by decide, some 0⟩

def mintRun (minted : DateTime) : Except PyError (IssuedInvite × VIPMembership) × World :=
  exec World.step answeringEnv (issue defaultSettings.ttl 1 linklessMember cryptoChannel
    (some minted)) (configuredWorld.opened 1)

def mintedMember : VIPMembership :=
  recordLink 1 "https://t.me/+0" pastMidnight linklessMember

/-- Half a second after Telegram lets the link expire, it is returned once more. -/
theorem dead_link_is_reused :
    (mintRun pastMidnight).1 = .ok ({ link := "https://t.me/+0", reused := false }, mintedMember) ∧
    (mintRun pastMidnight).2.txSent.map (·.call) =
      [.createChatInviteLink cryptoChannel.chatId 1 (some (101 * 86400)) (some "vip-3")] ∧
    (exec World.step answeringEnv (issue defaultSettings.ttl 1 mintedMember cryptoChannel
      (some dayAfter)) (mintRun pastMidnight).2).1 =
        .ok ({ link := "https://t.me/+0", reused := true }, mintedMember) ∧
    ¬ dayAfter.utc < 101 * 86400 * MICROS_PER_SECOND := by
  exact ⟨by decide +kernel, by decide +kernel, by decide +kernel, by decide +kernel⟩

/-- A link minted at midnight opens whenever it is reused. -/
theorem midnight_link_opens :
    ∃ m, (mintRun (.day 100)).1 = .ok ({ link := "https://t.me/+0", reused := false }, m) ∧
      ∀ m' t, KeepsLink m m' → ReusedAt defaultSettings.ttl m' t → (DateTime.day 100).utc ≤ t.utc →
        t.utc < 101 * 86400 * MICROS_PER_SECOND := by
  have hruns := runs_only answeringEnv
    (issue defaultSettings.ttl (configuredWorld.opened 1).tenantId linklessMember cryptoChannel
      (some (.day 100))) (configuredWorld.opened 1)
  have hok : (mintRun (.day 100)).1 = .ok ({ link := "https://t.me/+0", reused := false },
      recordLink 1 "https://t.me/+0" (.day 100) linklessMember) := by decide +kernel
  change Runs _ _ _ (mintRun (.day 100)).1 _ at hruns
  rw [hok] at hruns
  have haware : (DateTime.day 100).utcoffset.isSome = true := rfl
  have hlink : (IssuedInvite.mk "https://t.me/+0" false).link ≠ "" := by decide
  obtain ⟨s, E, name, -, -, hE, -, hiff⟩ := reused_links_open_iff haware hruns rfl hlink
  have hsecond : E = 101 * 86400 := hE.trans (by decide +kernel)
  refine ⟨_, hok, ?_⟩
  rw [← hsecond]
  exact hiff.mpr (.inl (by decide +kernel))

end InviteService

end VipChannel

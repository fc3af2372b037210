/-
  VipChannel.Services.InviteService

  The single place an invite link is created (services/invite_service.py).

  A member who holds a link that is still live gets it again; otherwise a
  single-use link is minted and recorded on the membership row.
-/
import VipChannel.Persistence.Repositories
import VipChannel.Providers.Telegram

namespace VipChannel

open Lib
open Program (perform raising)

structure IssuedInvite where
  link : String
  reused : Bool
  deriving DecidableEq

/-- Membership in `_LINK_IS_LIVE`: statuses in which an existing link is still the right
    answer. -/
def MembershipStatus.linkIsLive : MembershipStatus → Bool
  | .invited | .active => true
  | .pending | .suspended | .expired | .revoked => false

namespace InviteService

/-- `_live_link`. -/
def liveLink (ttl : TimeDelta) (membership : VIPMembership) (moment : DateTime) :
    Except PyError (Option String) :=
  match membership.inviteLink, membership.inviteIssuedAt with
  | some link, some issued =>
    if link = "" ∨ !membership.status.linkIsLive then .ok none
    else do
      let expires ← plusDelta issued.aware ttl
      if ← notLater expires moment then return none
      else return some link
  | _, _ => .ok none

/-- The assignments to the membership once the link is minted. -/
def recordLink (tenantId : TenantId) (link : String) (moment : DateTime)
    (membership : VIPMembership) : VIPMembership :=
  { membership with
    inviteLink := some link
    inviteIssuedAt := some moment
    status := if membership.status = .active then .active else .invited
    tenantId }

/-- A usable single-use invite for this membership, and the membership with it
    recorded. -/
def issue (ttl : TimeDelta) (tenantId : TenantId) (membership : VIPMembership)
    (channel : TelegramChannel) (now : Option DateTime) : App (IssuedInvite × VIPMembership) := do
  let moment ← nowOr now
  match ← raising (liveLink ttl membership moment) with
  | some existing => return ({ link := existing, reused := true }, membership)
  | none =>
    let expireDate ← raising (plusDelta moment ttl)
    let link ← TelegramBotProvider.createInviteLink channel.chatId 1 (some expireDate)
      (some ("vip-" ++ toString membership.userId)) (some (.invite membership.id))
    update .vipMemberships (fun r => r.id == membership.id) (recordLink tenantId link moment)
    return ({ link, reused := false }, recordLink tenantId link moment membership)

/-! ## When a link is reused -/

/-- A reused link is the recorded one, and its lifetime is not over. -/
theorem liveLink_some {ttl : TimeDelta} {m : VIPMembership} {moment : DateTime}
    {link : String} (h : liveLink ttl m moment = .ok (some link)) :
    m.inviteLink = some link ∧ m.status.linkIsLive = true ∧
      ∃ issued, m.inviteIssuedAt = some issued ∧ moment.utc < issued.utc + ttl.micros := by
  unfold liveLink at h
  split at h
  · next l issued hl hissued =>
    split at h
    · cases h
    · next hlive =>
      simp only [not_or, Bool.not_eq_true', Bool.not_eq_false] at hlive
      simp only [bind, Except.bind] at h
      split at h
      · cases h
      · next expires hexp =>
        split at h
        · cases h
        · next lapsed hlapsed =>
          cases lapsed with
          | true => simp [pure, Except.pure] at h
          | false =>
            simp only [Bool.false_eq_true, if_false, pure, Except.pure, Except.ok.injEq,
              Option.some.injEq] at h
            have hle := of_decide_eq_false (notLater_ok hlapsed).symm
            have hutc := plusDelta_utc hexp
            rw [DateTime.aware_utc] at hutc
            exact ⟨h ▸ hl, hlive.2, issued, hissued, by omega⟩
  · cases h

/-- A recorded link of a member who may use it is live until its lifetime is over. -/
theorem liveLink_of_fresh {ttl : TimeDelta} {m : VIPMembership} {moment issued expires : DateTime}
    {link : String} (hlink : m.inviteLink = some link) (hne : link ≠ "")
    (hlive : m.status.linkIsLive = true) (hissued : m.inviteIssuedAt = some issued)
    (hexpires : plusDelta issued.aware ttl = .ok expires)
    (haware : moment.utcoffset.isSome = true) (hlt : moment.utc < issued.utc + ttl.micros) :
    liveLink ttl m moment = .ok (some link) := by
  have hutc : expires.utc = issued.utc + ttl.micros := by
    rw [plusDelta_utc hexpires, DateTime.aware_utc]
  have hcompared : expires.utcoffset.isSome = moment.utcoffset.isSome := by
    rw [plusDelta_utcoffset hexpires, DateTime.aware_isSome, haware]
  have hnot : notLater expires moment = .ok false := by
    have hle : ¬ expires.utc ≤ moment.utc := by omega
    simp only [notLater, DateTime.le?, hcompared, if_true, hle, decide_false]
  unfold liveLink
  rw [hlink, hissued]
  simp only [hne, hlive, Bool.not_true, Bool.false_eq_true, or_self, if_false, hexpires, bind,
    Except.bind, hnot]
  rfl

/-- No live link: none is recorded, the status has none, or its lifetime is over. -/
theorem liveLink_none {ttl : TimeDelta} {m : VIPMembership} {moment : DateTime}
    (h : liveLink ttl m moment = .ok none) :
    m.inviteLink = none ∨ m.inviteLink = some "" ∨ m.inviteIssuedAt = none ∨
      m.status.linkIsLive = false ∨
      ∃ issued, m.inviteIssuedAt = some issued ∧ issued.utc + ttl.micros ≤ moment.utc := by
  unfold liveLink at h
  split at h
  · next l issued hl hissued =>
    split at h
    · next hdead =>
      rcases hdead with rfl | hdead
      · exact .inr (.inl hl)
      · exact .inr (.inr (.inr (.inl (by simpa using hdead))))
    · simp only [bind, Except.bind] at h
      split at h
      · cases h
      · next expires hexp =>
        split at h
        · cases h
        · next lapsed hlapsed =>
          cases lapsed with
          | false => simp [pure, Except.pure] at h
          | true =>
            have hle := of_decide_eq_true (notLater_ok hlapsed).symm
            have hutc := plusDelta_utc hexp
            rw [DateTime.aware_utc] at hutc
            exact .inr (.inr (.inr (.inr ⟨issued, hissued, by omega⟩)))
  · next hno =>
    cases hl : m.inviteLink with
    | none => exact .inl rfl
    | some l =>
      cases hi : m.inviteIssuedAt with
      | none => exact .inr (.inr (.inl rfl))
      | some issued => exact absurd hi (hno l issued hl)

end InviteService

end VipChannel

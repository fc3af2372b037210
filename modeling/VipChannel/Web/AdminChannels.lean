/-
  VipChannel.Web.AdminChannels

  Registering a VIP destination (adapters/web/routers/admin.py, `upsert_channel`), and
  what it can do to the channels of a tenant.

  `get_for_market` sees active channels only, so a deactivated one is not found again:
  the request then tries to add a second channel of the market.
-/
import VipChannel.Persistence.Columns
import VipChannel.Services.OnboardingSpec

namespace VipChannel

open Lib
open Program (raising)

structure ChannelRequest where
  market : Market
  chatId : Int
  title : Option String := none
  isActive : Bool := true

namespace Admin

/-- The request as the columns keep it. -/
def channelColumns (payload : ChannelRequest) : Except PyError ChannelRequest := do
  let chatId ← integerColumn 64 payload.chatId
  let title ← stringColumn? 255 payload.title
  return { payload with chatId, title }

/-- The assignments of the request to the channel. -/
def configure (payload : ChannelRequest) (channel : TelegramChannel) : TelegramChannel :=
  { channel with
    chatId := payload.chatId
    title := payload.title
    isActive := payload.isActive }

def upsertChannel (tenantId : TenantId) (payload : ChannelRequest) : App TelegramChannel := do
  let channel ← match ← TelegramChannelRepository.getForMarket tenantId payload.market with
    | some channel => pure channel
    | none =>
      let id ← uuid4
      let chatId ← raising (integerColumn 64 payload.chatId)
      saveNew .telegramChannels (fun r => r.id == id)
        { id, tenantId, market := payload.market, chatId }
  -- The flush sends the assignments to columns that may have no room for them.
  let stored ← raising (channelColumns payload)
  update .telegramChannels (fun r => r.id == channel.id) (configure stored)
  saveLoaded .telegramChannels fun r => r.id == channel.id

theorem channelColumns_eq_ok {payload stored : ChannelRequest}
    (h : channelColumns payload = .ok stored) :
    HasBits 64 payload.chatId ∧ ∃ title, stringColumn? 255 payload.title = .ok title ∧
      stored = { payload with title } := by
  unfold channelColumns at h
  obtain ⟨chatId, hchat, h⟩ := bind_eq_ok.mp h
  obtain ⟨title, htitle, h⟩ := bind_eq_ok.mp h
  obtain ⟨hbits, rfl⟩ := integerColumn_eq_ok.mp hchat
  cases h
  exact ⟨hbits, title, htitle, rfl⟩

/-- The columns of a channel that no request changes. -/
def channelKey (c : TelegramChannel) : RowId × TenantId × Market := (c.id, c.tenantId, c.market)

/-- Every channel is still there, perhaps configured anew, and perhaps there is one more. -/
def Kept (channels channels' : List TelegramChannel) : Prop :=
  ∀ c ∈ channels, ∃ c' ∈ channels', channelKey c' = channelKey c

theorem Kept.modifyRows {channels channels' : List TelegramChannel} (h : Kept channels channels')
    (which : TelegramChannel → Bool) (payload : ChannelRequest) :
    Kept channels (modifyRows which (configure payload) channels') := by
  intro c hc
  obtain ⟨c', hc', hkey⟩ := h c hc
  refine ⟨if which c' then configure payload c' else c', mem_modifyRows.mpr ⟨c', hc', rfl⟩, ?_⟩
  split
  · exact hkey
  · exact hkey

/-- A channel that was not there as it is now is the active one of the market, with the chat
    id asked for. -/
def Configured (tenantId : TenantId) (payload : ChannelRequest)
    (channels channels' : List TelegramChannel) : Prop :=
  ∀ c ∈ channels', c ∈ channels ∨
    (c.tenantId = tenantId ∧ c.market = payload.market ∧ c.chatId = payload.chatId)

section Rules

variable {G : World → Op → Choice → Prop} {w : World} {payload : ChannelRequest}

/-- What a request that returns leaves. -/
structure Upserted (payload : ChannelRequest) (w w' : World) : Prop where
  same : w.SameBut [.telegramChannels] w'
  kept : Kept (w.view .telegramChannels) (w'.view .telegramChannels)
  configured : Configured w.tenantId payload (w.view .telegramChannels)
    (w'.view .telegramChannels)

theorem meets_configure {channel : TelegramChannel} {w₁ : World} (hup : Upserted payload w w₁)
    (hmarket : ∀ r ∈ w₁.view .telegramChannels, r.id = channel.id → r.market = payload.market) :
    Meets G (do
        let stored ← raising (channelColumns payload)
        update .telegramChannels (fun r => r.id == channel.id) (configure stored)
        saveLoaded .telegramChannels fun r => r.id == channel.id)
      (fun _ w' => Upserted payload w w' ∧ ∃ stored, channelColumns payload = .ok stored)
      (fun _ l => l = w.ledger) w₁ := by
  have ht : w₁.tenantId = w.tenantId := hup.same.tenantId
  rw [meets_bind]
  refine meets_raising (fun stored hstored => ?_) fun _ => hup.same.ledger
  obtain ⟨-, title, -, hkept⟩ := channelColumns_eq_ok hstored
  have hchat : stored.chatId = payload.chatId := by rw [hkept]
  rw [meets_bind]
  refine meets_perform fun c _ => ?_
  simp only [World.step, World.withUpdate]
  split
  · -- The chat id is another channel's: the flush raises.
    refine meets_saveLoaded (fun hnone => ?_) fun _ => hup.same.ledger
    simp at hnone
  · have hrows := Store.modify_self w₁.view Table.telegramChannels
    refine meets_saveLoaded (fun _ _ _ _ => ⟨⟨⟨fun t ht => ?_, ?_, ?_⟩, ?_, ?_⟩, _, hstored⟩)
      fun _ => hup.same.ledger
    · have hother : t ≠ .telegramChannels := by simpa using ht
      exact (Store.modify_other _ hother _ _).trans (hup.same.view t ht)
    · exact hup.same.ledger
    · exact hup.same.conflict
    · change Kept _ (w₁.view.modify .telegramChannels _ _ .telegramChannels)
      rw [hrows]
      exact hup.kept.modifyRows _ stored
    · change Configured _ _ _ (w₁.view.modify .telegramChannels _ _ .telegramChannels)
      rw [hrows]
      intro c' hc'
      obtain ⟨r, hr, rfl⟩ := mem_modifyRows.mp hc'
      split
      · next hscope =>
        have hid := World.inScope_cond hscope
        rw [beq_iff_eq] at hid
        exact .inr ⟨(World.inScope_tenant hscope).trans ht, hmarket r hr hid, hchat⟩
      · exact hup.configured r hr

theorem meets_upsertChannel (hw : w.Sound) :
    Meets G (upsertChannel w.tenantId payload)
      (fun _ w' => Upserted payload w w' ∧ ∃ stored, channelColumns payload = .ok stored)
      (fun _ l => l = w.ledger) w := by
  unfold upsertChannel TelegramChannelRepository.getForMarket
  rw [meets_bind]
  refine meets_selectOneOrNone (fun _ channel hfound => ?_) fun _ => rfl
  cases channel with
  | some channel =>
    obtain ⟨hmem, hscope, -⟩ := hfound
    have hcond := World.inScope_cond hscope
    simp only [Bool.and_eq_true, beq_iff_eq] at hcond
    refine meets_configure ⟨⟨fun _ _ => rfl, rfl, rfl⟩, fun c hc => ⟨c, hc, rfl⟩,
      fun c hc => .inl hc⟩ fun r hr hid => ?_
    have heq : r = channel :=
      hw.view.eq_of_clash (t := .telegramChannels) hr hmem (by simp [clash, hid])
    rw [heq]
    exact hcond.1.2
  | none =>
    rw [meets_bind]
    refine meets_uuid4 fun id => ?_
    rw [meets_bind]
    refine meets_raising (fun chatId hchat => ?_) fun _ => rfl
    obtain ⟨-, rfl⟩ := integerColumn_eq_ok.mp hchat
    rw [meets_bind]
    refine meets_saveNew rfl (by simp) (fun r hr => ?_) (fun _ hfresh => ?_) fun _ => rfl
    · simp only [beq_iff_eq] at hr
      simp [clash, hr]
    have hrows := Store.append_self w.view Table.telegramChannels
    refine meets_configure ⟨⟨fun t ht => ?_, rfl, rfl⟩, ?_, ?_⟩ ?_
    · have hother : t ≠ .telegramChannels := by simpa using ht
      exact Store.append_other _ hother _
    · intro c hc
      change ∃ c' ∈ w.view.append .telegramChannels _ .telegramChannels, _
      rw [hrows]
      exact ⟨c, List.mem_append_left _ hc, rfl⟩
    · intro c' hc'
      change c' ∈ w.view.append .telegramChannels _ .telegramChannels at hc'
      rw [hrows, List.mem_append, List.mem_singleton] at hc'
      rcases hc' with hc' | rfl
      · exact .inl hc'
      · exact .inr ⟨rfl, rfl, rfl⟩
    · intro r hr hid
      change r ∈ w.view.append .telegramChannels _ .telegramChannels at hr
      rw [hrows, List.mem_append, List.mem_singleton] at hr
      rcases hr with hr | rfl
      · have hno := hfresh r hr
        simp [clash, hid] at hno
      · rfl

end Rules

end Admin

end VipChannel

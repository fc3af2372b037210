/-
  VipChannel.Runs.Channels

  A tenant's channels as a map from markets to destinations, and what the requests that
  configure them make of it.

  A request finds the active channel of its market only.  Where the market's channel was
  deactivated, it adds a second one, and the unique constraint on the market turns it down.
-/
import VipChannel.Runs.Events

namespace VipChannel

open Lib Admin
open Program (raising)

/-! ## The map -/

/-- The channel holds what the request asks for. -/
structure ChannelRequest.Describes (payload : ChannelRequest) (channel : TelegramChannel) :
    Prop where
  market : channel.market = payload.market
  chatId : channel.chatId = payload.chatId
  title : channel.title = payload.title
  isActive : channel.isActive = payload.isActive

/-- A channel of the tenant's market. -/
def isOf (tenantId : TenantId) (market : Market) (channel : TelegramChannel) : Bool :=
  channel.tenantId == tenantId && channel.market == market

/-- The request was answered, and updated the map at its market. -/
structure ChannelServed (tenantId : TenantId) (payload : ChannelRequest) (w : World)
    (r : Except PyError TelegramChannel) (w' : World) : Prop where
  /-- The response is the one channel of the market. -/
  returned : ∃ channel, r = .ok channel ∧ payload.Describes channel ∧
    (w'.db .telegramChannels).filter (isOf tenantId payload.market) = [channel]
  others : (w'.db .telegramChannels).filter (fun c => !isOf tenantId payload.market c) =
    (w.db .telegramChannels).filter (fun c => !isOf tenantId payload.market c)
  tables : ∀ t, t ≠ .telegramChannels → w'.db t = w.db t
  /-- A request that asks for what is there leaves everything as it is. -/
  again : ∀ channel, (w.db .telegramChannels).filter (isOf tenantId payload.market) = [channel] →
    payload.Describes channel → w'.db = w.db

/-- Every request of the sequence is served, whatever becomes of each. -/
def AllServed (G : World → Op → Choice → Prop) (tenantId : TenantId) :
    List ChannelRequest → World → Prop
  | [], _ => True
  | payload :: rest, w => ∀ r w',
    Runs (serial G) (requestTx tenantId (upsertChannel tenantId payload)) w r w' →
      ChannelServed tenantId payload w r w' ∧ AllServed G tenantId rest w'

/-- What the schema lets through. -/
def ChannelRequest.Accepted (payload : ChannelRequest) : Prop :=
  ∀ title, payload.title = some title → title.length ≤ 255

/-- The BIGINT column and the one of the title have room for what they are sent. -/
structure ChannelRequest.Storable (payload : ChannelRequest) : Prop where
  chatId : HasBits 64 payload.chatId
  title : ∀ title, payload.title = some title → HasRoom 255 title

/-- An accepted request is kept as it is where the columns have room for it. -/
theorem ChannelRequest.Storable.kept {payload : ChannelRequest} (h : payload.Storable)
    (haccepted : payload.Accepted) : channelColumns payload = .ok payload := by
  have htitle : payload.title.map (cut 255) = payload.title := by
    cases ht : payload.title with
    | none => rfl
    | some title => exact congrArg some (cut_of_le (haccepted title ht))
  unfold channelColumns
  rw [integerColumn_eq_ok.mpr ⟨h.chatId, rfl⟩, stringColumn?_eq_ok.mpr ⟨h.title, rfl⟩, htitle]
  rfl

theorem ChannelRequest.storable_of_kept {payload stored : ChannelRequest}
    (h : channelColumns payload = .ok stored) : payload.Storable := by
  obtain ⟨hbits, title, htitle, -⟩ := channelColumns_eq_ok h
  exact ⟨hbits, (stringColumn?_eq_ok.mp htitle).1⟩

/-- No two markets are given the same chat id. -/
def ChatIdsApart (payloads : List ChannelRequest) : Prop :=
  ∀ p ∈ payloads, ∀ q ∈ payloads, p.chatId = q.chatId → p.market = q.market

/-- No request is for a market that an earlier one deactivated. -/
def NoneAfterDeactivation (payloads : List ChannelRequest) : Prop :=
  payloads.Pairwise fun p q => p.market = q.market → p.isActive = true

/-- The generator's ids are no channel's. -/
def FreshChannelIds (G : World → Op → Choice → Prop) : Prop :=
  ∀ w c, G w .uuid4 c → ∀ r ∈ w.view .telegramChannels, r.id ≠ c.id

/-! ## The rows -/

section Rows

variable {d : Database} {t : Table}

/-- The only row that a condition selects. -/
theorem Distinct.filter_eq_singleton (h : Distinct d) {cond : Row t → Bool} {row : Row t}
    (hrow : row ∈ d t) (hcond : cond row = true) (hclash : clash t row row = true)
    (honly : ∀ r ∈ d t, cond r = true → r = row) : (d t).filter cond = [row] := by
  have hall : ∀ r ∈ (d t).filter cond, r = row := by
    intro r hr
    obtain ⟨hmem, hr⟩ := List.mem_filter.mp hr
    exact honly r hmem hr
  have hmem : row ∈ (d t).filter cond := List.mem_filter.mpr ⟨hrow, hcond⟩
  have hapart : ((d t).filter cond).Pairwise fun r s => clash t r s = false := (h t).filter cond
  match hrows : (d t).filter cond with
  | [] =>
    rw [hrows] at hmem
    cases hmem
  | [r] =>
    rw [hrows] at hall
    rw [hall r List.mem_cons_self]
  | r :: s :: rest =>
    -- Both are the row, and a row clashes with itself.
    rw [hrows] at hall hapart
    have hr := hall r List.mem_cons_self
    have hs := hall s (List.mem_cons_of_mem _ List.mem_cons_self)
    have hno := (List.pairwise_cons.mp hapart).1 s List.mem_cons_self
    rw [hr, hs, hclash] at hno
    cases hno

end Rows

/-- Rows that a condition selects neither before a change nor after it are left alone. -/
theorem filter_modifyRows {α : Type} {which cond : α → Bool} {change : α → α} {rows : List α}
    (h : ∀ r ∈ rows, which r = true → cond r = false ∧ cond (change r) = false) :
    (modifyRows which change rows).filter cond = rows.filter cond := by
  induction rows with
  | nil => rfl
  | cons r rest ih =>
    have hrest := ih fun s hs => h s (List.mem_cons_of_mem _ hs)
    show ((if which r then change r else r) :: modifyRows which change rest).filter cond = _
    rw [List.filter_cons, List.filter_cons, hrest]
    by_cases hw : which r = true
    · obtain ⟨hold, hnew⟩ := h r List.mem_cons_self hw
      simp only [hw, if_true, hold, hnew, Bool.false_eq_true, if_false]
    · simp only [hw, Bool.false_eq_true, if_false]

/-! ## One request -/

section Request

variable {G : World → Op → Choice → Prop} {w : World} {payload : ChannelRequest}
  {F : PyError → World → Prop}

/-- No channel of another market has the chat id asked for. -/
def World.ChatIdFree (w : World) (payload : ChannelRequest) : Prop :=
  ∀ c ∈ w.view .telegramChannels, c.tenantId = w.tenantId → c.chatId = payload.chatId →
    c.market = payload.market

/-- The assignments to a channel that was found, or added just now. -/
theorem works_configure {channel : TelegramChannel} {Q : TelegramChannel → World → Prop}
    (hw : w.Sound) (hconflict : w.conflict = none) (hmem : channel ∈ w.view .telegramChannels)
    (ht : channel.tenantId = w.tenantId) (hmarket : channel.market = payload.market)
    (hfree : w.ChatIdFree payload) (hkept : channelColumns payload = .ok payload)
    (hok : Q (configure payload channel) { w with
      view := w.view.modify .telegramChannels (w.inScope fun r => r.id == channel.id)
        (configure payload) }) :
    Works G (do
        let stored ← raising (channelColumns payload)
        update .telegramChannels (fun r => r.id == channel.id) (configure stored)
        saveLoaded .telegramChannels fun r => r.id == channel.id) Q F w := by
  obtain ⟨hone, hscope⟩ := hw.inScope_id (t := .telegramChannels) TelegramChannel.id hmem ht
    fun r s h => by simp [clash, h]
  have hself := (hscope channel hmem).mpr rfl
  -- The one row that changes keeps its market, and the chat id is nobody else's.
  have hno : introducesClash .telegramChannels
      (w.inScope (t := .telegramChannels) fun r => r.id == channel.id) (configure payload)
      (w.view .telegramChannels) = false := by
    simp only [introducesClash, List.any_eq_false, Bool.and_eq_true, not_and]
    intro r hr hsel hany
    have hrid := hone r hr ((hscope r hr).mp hsel)
    obtain ⟨s, hs, hboth⟩ := List.any_eq_true.mp hany
    rw [Bool.and_eq_true, Bool.not_eq_true'] at hboth
    obtain ⟨hapart, hclash⟩ := hboth
    subst hrid
    by_cases hsid : s.id = r.id
    · rw [hone s hs hsid] at hapart
      simp [clash] at hapart
    · have hleft : w.inScope (t := .telegramChannels) (fun x => x.id == r.id) s = false := by
        by_contra hne
        exact hsid ((hscope s hs).mp (eq_true_of_ne_false hne))
      rw [hleft] at hclash
      have hkeys : ¬ (r.id = s.id ∨ (r.tenantId = s.tenantId ∧ r.market = s.market) ∨
          (r.tenantId = s.tenantId ∧ r.chatId = s.chatId)) := by
        simpa [clash] using hapart
      have hnew : r.id = s.id ∨ (r.tenantId = s.tenantId ∧ r.market = s.market) ∨
          (r.tenantId = s.tenantId ∧ payload.chatId = s.chatId) := by
        simpa [clash, configure] using hclash
      rcases hnew with h | h | ⟨hst, hchat⟩
      · exact hkeys (.inl h)
      · exact hkeys (.inr (.inl h))
      · have hsm := hfree s hs (hst.symm.trans ht) hchat.symm
        exact hkeys (.inr (.inl ⟨hst, hmarket.trans hsm.symm⟩))
  have hrows := Store.modify_self w.view Table.telegramChannels
  rw [hkept, works_bind]
  refine works_raising (fun stored hstored => ?_) fun e he => ?_
  swap
  · cases he
  cases hstored
  rw [works_bind]
  refine wp_serial_perform fun c _ => ?_
  simp only [World.step, World.withUpdate, hno, Bool.false_eq_true, if_false]
  have hthere : configure payload channel ∈ w.view.modify .telegramChannels
      (w.inScope fun r => r.id == channel.id) (configure payload) .telegramChannels := by
    rw [hrows]
    exact change_mem_modifyRows hmem hself
  refine works_saveLoaded hconflict ⟨configure payload channel, hthere, ?_⟩ fun r hr hsel => ?_
  · simp [World.inScope, rowTenant, configure, ht]
  · -- The row read back is the one that was configured.
    have hrid := World.inScope_cond hsel
    rw [beq_iff_eq] at hrid
    change r ∈ w.view.modify .telegramChannels _ _ .telegramChannels at hr
    rw [hrows] at hr
    obtain ⟨r₀, hr₀, rfl⟩ := mem_modifyRows.mp hr
    by_cases hsel₀ : w.inScope (t := .telegramChannels) (fun r => r.id == channel.id) r₀ = true
    · have heq := hone r₀ hr₀ ((hscope r₀ hr₀).mp hsel₀)
      rw [heq, hself] at hsel ⊢
      simpa only [if_true] using hok
    · have hid₀ : r₀.id = channel.id := by simpa [hsel₀] using hrid
      exact absurd ((hscope r₀ hr₀).mpr hid₀) hsel₀

/-- What a request that goes through leaves of the rows. -/
structure Placed (payload : ChannelRequest) (w : World) (channel : TelegramChannel) (w' : World) :
    Prop where
  conflict : w'.conflict = none
  tables : ∀ t, t ≠ .telegramChannels → w'.view t = w.view t
  owner : channel.tenantId = w.tenantId
  describes : payload.Describes channel
  mem : channel ∈ w'.view .telegramChannels
  others : (w'.view .telegramChannels).filter (fun c => !isOf w.tenantId payload.market c) =
    (w.view .telegramChannels).filter (fun c => !isOf w.tenantId payload.market c)
  again : ∀ prior ∈ w.view .telegramChannels, isOf w.tenantId payload.market prior = true →
    payload.Describes prior → w'.view = w.view

theorem configure_describes {channel : TelegramChannel} (h : channel.market = payload.market) :
    payload.Describes (configure payload channel) :=
  ⟨h, rfl, rfl, rfl⟩

theorem configure_eq_self {channel : TelegramChannel} (h : payload.Describes channel) :
    configure payload channel = channel := by
  unfold configure
  rw [← h.chatId, ← h.title, ← h.isActive]

/-- The channel of the market that was found is configured, and nothing else changes. -/
theorem placed_found {channel : TelegramChannel} (hw : w.Sound) (hconflict : w.conflict = none)
    (hmem : channel ∈ w.view .telegramChannels) (ht : channel.tenantId = w.tenantId)
    (hmarket : channel.market = payload.market) :
    Placed payload w (configure payload channel) { w with
      view := w.view.modify .telegramChannels (w.inScope fun r => r.id == channel.id)
        (configure payload) } := by
  obtain ⟨hone, hscope⟩ := hw.inScope_id (t := .telegramChannels) TelegramChannel.id hmem ht
    fun r s h => by simp [clash, h]
  have hself := (hscope channel hmem).mpr rfl
  have hrows := Store.modify_self w.view Table.telegramChannels
  refine ⟨hconflict, fun t ht => Store.modify_other _ ht _ _, ht, configure_describes hmarket,
    ?_, ?_, fun prior hprior hof hdescribes => ?_⟩
  · show configure payload channel ∈ w.view.modify .telegramChannels _ _ .telegramChannels
    rw [hrows]
    exact change_mem_modifyRows hmem hself
  · show (w.view.modify .telegramChannels _ _ .telegramChannels).filter _ = _
    rw [hrows]
    apply filter_modifyRows
    intro r hr hsel
    rw [hone r hr ((hscope r hr).mp hsel)]
    simp [isOf, configure, ht, hmarket]
  · -- The row found is the one that is described.
    simp only [isOf, Bool.and_eq_true, beq_iff_eq] at hof
    have heq : prior = channel :=
      hw.view.eq_of_clash (t := .telegramChannels) hprior hmem
        (by simp [clash, hof, ht, hmarket])
    subst heq
    funext t
    by_cases htable : t = .telegramChannels
    · subst htable
      show w.view.modify .telegramChannels _ _ .telegramChannels = _
      rw [hrows, modifyRows]
      refine (List.map_congr_left fun r hr => ?_).trans (List.map_id _)
      by_cases hsel : w.inScope (t := .telegramChannels) (fun r => r.id == prior.id) r = true
      · rw [hone r hr ((hscope r hr).mp hsel)]
        simp [hself, configure_eq_self hdescribes]
      · simp [hsel]
    · exact Store.modify_other _ htable _ _

/-- Where the market has no channel, one is added and configured. -/
theorem placed_added {added : TelegramChannel} {w₁ : World}
    (hw₁ : w₁ = { w with view := w.view.append .telegramChannels added }) (hsound : w₁.Sound)
    (hconflict : w.conflict = none) (ht : added.tenantId = w.tenantId)
    (hmarket : added.market = payload.market)
    (hno : ∀ c ∈ w.view .telegramChannels, isOf w.tenantId payload.market c = false) :
    Placed payload w (configure payload added) { w₁ with
      view := w₁.view.modify .telegramChannels (w₁.inScope fun r => r.id == added.id)
        (configure payload) } := by
  have hrows₁ : w₁.view .telegramChannels = w.view .telegramChannels ++ [added] := by
    rw [hw₁]
    exact Store.append_self w.view Table.telegramChannels added
  have hmem : added ∈ w₁.view .telegramChannels := by
    rw [hrows₁]
    exact List.mem_append_right _ (List.mem_singleton.mpr rfl)
  have htenant : w₁.tenantId = w.tenantId := by rw [hw₁]
  obtain ⟨hone, hscope⟩ := hsound.inScope_id (t := .telegramChannels) TelegramChannel.id hmem
    (ht.trans htenant.symm) fun r s h => by simp [clash, h]
  have hrows := Store.modify_self w₁.view Table.telegramChannels
  refine ⟨by rw [hw₁]; exact hconflict, fun t htable => ?_, ht, configure_describes hmarket, ?_,
    ?_, fun prior hp hof => ?_⟩
  · rw [hw₁]
    exact (Store.modify_other _ htable _ _).trans (Store.append_other _ htable _)
  · show configure payload added ∈ w₁.view.modify .telegramChannels _ _ .telegramChannels
    rw [hrows]
    exact change_mem_modifyRows hmem ((hscope added hmem).mpr rfl)
  · show (w₁.view.modify .telegramChannels _ _ .telegramChannels).filter _ = _
    rw [hrows, filter_modifyRows, hrows₁, List.filter_append]
    · simp [isOf, ht, hmarket]
    · intro r hr hsel
      rw [hone r hr ((hscope r hr).mp hsel)]
      simp [isOf, configure, ht, hmarket]
  · rw [hno prior hp] at hof
    cases hof

/-- A request whose market has no deactivated channel goes through. -/
theorem works_upsertChannel (hids : FreshChannelIds G) (hw : w.Sound)
    (hconflict : w.conflict = none) (hkept : channelColumns payload = .ok payload)
    (hfree : w.ChatIdFree payload)
    (hactive : ∀ c ∈ w.view .telegramChannels, isOf w.tenantId payload.market c = true →
      c.isActive = true) :
    Works G (upsertChannel w.tenantId payload) (Placed payload w) F w := by
  unfold upsertChannel TelegramChannelRepository.getForMarket
  rw [works_bind]
  refine works_selectOneOrNone hw hconflict (fun r s ht hr hs => ?_) fun channel hfound => ?_
  · simp only [Bool.and_eq_true, beq_iff_eq] at hr hs
    simp [clash, hr, hs]
  cases channel with
  | some channel =>
    obtain ⟨hmem, hscope, -⟩ := hfound
    have hcond := World.inScope_cond hscope
    simp only [Bool.and_eq_true, beq_iff_eq] at hcond
    obtain ⟨⟨ht, hmarket⟩, -⟩ := hcond
    exact works_configure hw hconflict hmem ht hmarket hfree hkept
      (placed_found hw hconflict hmem ht hmarket)
  | none =>
    -- No channel of the market at all: a deactivated one is excluded.
    have hno : ∀ c ∈ w.view .telegramChannels, isOf w.tenantId payload.market c = false := by
      intro c hc
      by_contra hne
      have hof := eq_true_of_ne_false hne
      have hnone := hfound c hc
      have hc' := hactive c hc hof
      simp only [isOf, Bool.and_eq_true, beq_iff_eq] at hof
      simp [World.inScope, rowTenant, hof.1, hof.2, hc'] at hnone
    have hmarket : ∀ c ∈ w.view .telegramChannels, c.tenantId = w.tenantId →
        c.market ≠ payload.market := by
      intro c hc ht hm
      have := hno c hc
      simp [isOf, ht, hm] at this
    rw [works_bind]
    refine works_uuid4 fun c hc => ?_
    let added : TelegramChannel :=
      { id := c.id, tenantId := w.tenantId, market := payload.market, chatId := payload.chatId }
    have hfresh : ∀ r ∈ w.view .telegramChannels, clash .telegramChannels added r = false := by
      intro r hr
      have hrid := hids w c hc r hr
      simp only [clash, decide_eq_false_iff_not, not_or, not_and]
      refine ⟨Ne.symm hrid, fun ht hm => ?_, fun ht hchat => ?_⟩
      · exact hmarket r hr ht.symm hm.symm
      · exact hmarket r hr ht.symm (hfree r hr ht.symm hchat.symm)
    rw [works_bind]
    refine works_raising (fun chatId hchat => ?_) fun e he => ?_
    swap
    · simp only [channelColumns, he] at hkept
      cases hkept
    obtain ⟨-, rfl⟩ := integerColumn_eq_ok.mp hchat
    rw [works_bind]
    refine works_saveNew hconflict rfl (by simp) (fun r hr => ?_) hfresh ?_
    · simp only [beq_iff_eq] at hr
      simp [clash, hr]
    let w₁ : World := { w with view := w.view.append .telegramChannels added }
    have hrows₁ : w₁.view .telegramChannels = w.view .telegramChannels ++ [added] :=
      Store.append_self w.view Table.telegramChannels added
    have hw₁ : w₁.Sound := ⟨hw.db, hw.view.append hfresh, hw.saved⟩
    have hmem₁ : added ∈ w₁.view .telegramChannels := by
      rw [hrows₁]
      exact List.mem_append_right _ (List.mem_singleton.mpr rfl)
    have hfree₁ : w₁.ChatIdFree payload := by
      intro r hr ht hchat
      rw [hrows₁, List.mem_append, List.mem_singleton] at hr
      rcases hr with hr | rfl
      · exact hfree r hr ht hchat
      · rfl
    exact works_configure hw₁ hconflict hmem₁ rfl rfl hfree₁ hkept
      (placed_added rfl hw₁ hconflict rfl rfl hno)

/-- A request for a market whose channel was deactivated is turned down. -/
theorem meets_upsertChannel_deactivated {channel : TelegramChannel} (hw : w.Sound)
    (hmem : channel ∈ w.view .telegramChannels)
    (hof : isOf w.tenantId payload.market channel = true) (hdead : channel.isActive = false) :
    Meets G (upsertChannel w.tenantId payload) (fun _ _ => False) (fun _ l => l = w.ledger) w := by
  simp only [isOf, Bool.and_eq_true, beq_iff_eq] at hof
  unfold upsertChannel TelegramChannelRepository.getForMarket
  rw [meets_bind]
  refine meets_selectOneOrNone (fun _ found hfound => ?_) fun _ => rfl
  cases found with
  | some other =>
    -- An active channel of the same market would be the same channel.
    obtain ⟨hother, hscope, -⟩ := hfound
    have hcond := World.inScope_cond hscope
    simp only [Bool.and_eq_true, beq_iff_eq] at hcond
    have heq : other = channel :=
      hw.view.eq_of_clash (t := .telegramChannels) hother hmem (by simp [clash, hof, hcond])
    rw [heq, hdead] at hcond
    cases hcond.2
  | none =>
    rw [meets_bind]
    refine meets_uuid4 fun id => ?_
    rw [meets_bind]
    refine meets_raising (fun chatId _ => ?_) fun _ => rfl
    rw [meets_bind]
    refine meets_saveNew rfl (by simp) (fun r hr => ?_) (fun _ hfresh => ?_) fun _ => rfl
    · simp only [beq_iff_eq] at hr
      simp [clash, hr]
    · have hno := hfresh channel hmem
      simp [clash, hof] at hno

end Request

/-! ## A sequence of requests -/

section Requests

variable {G : World → Op → Choice → Prop} {w w' : World} {tenantId : TenantId}
  {payload : ChannelRequest} {payloads : List ChannelRequest} {r : Except PyError TelegramChannel}

/-- Nothing stands in the way of any of the requests. -/
structure Unobstructed (tenantId : TenantId) (payloads : List ChannelRequest) (d : Database) :
    Prop where
  active : ∀ p ∈ payloads, ∀ c ∈ d .telegramChannels, isOf tenantId p.market c = true →
    c.isActive = true
  free : ∀ p ∈ payloads, ∀ c ∈ d .telegramChannels, c.tenantId = tenantId →
    c.chatId = p.chatId → c.market = p.market

theorem served_of_unobstructed (hsolid : ¬ Broken G) (hids : FreshChannelIds G) (hw : w.Sound)
    (hkept : channelColumns payload = .ok payload)
    (hclear : Unobstructed tenantId (payload :: payloads) w.db)
    (h : Runs (serial G) (requestTx tenantId (upsertChannel tenantId payload)) w r w') :
    ChannelServed tenantId payload w r w' := by
  have hbody : Works G (upsertChannel (w.opened tenantId).tenantId payload)
      (Placed payload (w.opened tenantId)) (fun _ _ => False) (w.opened tenantId) :=
    works_upsertChannel hids (hw.opened tenantId) rfl hkept
      (hclear.free payload List.mem_cons_self)
      (hclear.active payload List.mem_cons_self)
  have htx : Works G (requestTx tenantId (upsertChannel tenantId payload))
      (fun c w' => ∃ w₁, Placed payload (w.opened tenantId) c w₁ ∧ w'.db = w₁.view)
      (fun _ _ => False) w :=
    works_requestTx (F := fun _ => False)
      (works_mono hbody (fun c w₁ hp => ⟨hp.conflict, w₁, hp, rfl⟩) fun _ _ he => he)
  have hw' : w'.Sound := wp_sound (wp_sound_world _ w) h hw
  have hend := wp_sound htx h
  cases r with
  | error e =>
    rcases hend with hbroken | hfalse
    · exact absurd hbroken hsolid
    · exact hfalse.elim
  | ok channel =>
    obtain ⟨w₁, hplaced, hdb⟩ := hend
    have howner : channel.tenantId = tenantId := hplaced.owner
    have hof : isOf tenantId payload.market channel = true := by
      simp [isOf, howner, hplaced.describes.market]
    have hmem : channel ∈ w'.db .telegramChannels := by
      rw [hdb]
      exact hplaced.mem
    refine ⟨⟨channel, rfl, hplaced.describes, ?_⟩, ?_, fun t ht => ?_, fun prior hprior hd => ?_⟩
    · refine hw'.db.filter_eq_singleton hmem hof (by simp [clash]) fun c hc hsame => ?_
      simp only [isOf, Bool.and_eq_true, beq_iff_eq] at hof hsame
      exact hw'.db.eq_of_clash (t := .telegramChannels) hc hmem (by simp [clash, hof, hsame])
    · rw [hdb]
      exact hplaced.others
    · rw [hdb]
      exact hplaced.tables t ht
    · have hin : prior ∈ (w.db .telegramChannels).filter (isOf tenantId payload.market) := by
        rw [hprior]
        exact List.mem_singleton.mpr rfl
      obtain ⟨hpmem, hpof⟩ := List.mem_filter.mp hin
      rw [hdb]
      exact hplaced.again prior hpmem hpof hd

/-- The columns have room for a request that is answered. -/
theorem storable_of_answered (hw : w.Sound) {c : TelegramChannel}
    (h : Runs (serial G) (requestTx tenantId (upsertChannel tenantId payload)) w (.ok c) w') :
    payload.Storable := by
  have hbody : Meets G (upsertChannel (w.opened tenantId).tenantId payload) _ _
      (w.opened tenantId) := meets_upsertChannel (hw.opened tenantId)
  obtain ⟨w₁, hruns, -, -⟩ := runs_requestTx_ok h
  obtain ⟨-, stored, hstored⟩ := wp_sound hbody hruns
  exact ChannelRequest.storable_of_kept hstored

theorem refused_of_deactivated {channel : TelegramChannel} (hw : w.Sound)
    (hmem : channel ∈ w.db .telegramChannels) (hof : isOf tenantId payload.market channel = true)
    (hdead : channel.isActive = false)
    (h : Runs (serial G) (requestTx tenantId (upsertChannel tenantId payload)) w r w')
    (c : TelegramChannel) : r ≠ .ok c := by
  rintro rfl
  have hbody : Meets G (upsertChannel (w.opened tenantId).tenantId payload) (fun _ _ => False)
      (fun _ l => l = (w.opened tenantId).ledger) (w.opened tenantId) :=
    meets_upsertChannel_deactivated (hw.opened tenantId) hmem hof hdead
  obtain ⟨w₁, hruns, -, -⟩ := runs_requestTx_ok h
  have hend := wp_sound hbody hruns
  exact hend

/-- After a request is served, a channel is the one it left, or an old one of another market. -/
theorem ChannelServed.cases (h : ChannelServed tenantId payload w r w') {c : TelegramChannel}
    (hc : c ∈ w'.db .telegramChannels) :
    payload.Describes c ∨
      (c ∈ w.db .telegramChannels ∧ isOf tenantId payload.market c = false) := by
  by_cases hof : isOf tenantId payload.market c = true
  · obtain ⟨channel, -, hdescribes, hrows⟩ := h.returned
    have hin : c ∈ (w'.db .telegramChannels).filter (isOf tenantId payload.market) :=
      List.mem_filter.mpr ⟨hc, hof⟩
    rw [hrows, List.mem_singleton] at hin
    rw [hin]
    exact .inl hdescribes
  · have hno : isOf tenantId payload.market c = false := by simpa using hof
    have hin : c ∈ (w'.db .telegramChannels).filter (fun c => !isOf tenantId payload.market c) :=
      List.mem_filter.mpr ⟨hc, by simp [hno]⟩
    rw [h.others] at hin
    exact .inr ⟨(List.mem_filter.mp hin).1, hno⟩

theorem Unobstructed.served (h : Unobstructed tenantId (payload :: payloads) w.db)
    (hserved : ChannelServed tenantId payload w r w')
    (hactive : ∀ q ∈ payloads, payload.market = q.market → payload.isActive = true)
    (hchat : ∀ q ∈ payloads, payload.chatId = q.chatId → payload.market = q.market) :
    Unobstructed tenantId payloads w'.db := by
  constructor
  · intro q hq c hc hof
    rcases hserved.cases hc with hd | ⟨hold, -⟩
    · simp only [isOf, Bool.and_eq_true, beq_iff_eq] at hof
      rw [hd.isActive]
      exact hactive q hq (hd.market.symm.trans hof.2)
    · exact h.active q (List.mem_cons_of_mem _ hq) c hold hof
  · intro q hq c hc ht hsame
    rcases hserved.cases hc with hd | ⟨hold, -⟩
    · rw [hd.market]
      exact hchat q hq (hd.chatId.symm.trans hsame)
    · exact h.free q (List.mem_cons_of_mem _ hq) c hold ht hsame

/-- Requests that find nothing in their way, and put nothing in each other's. -/
theorem all_served (hsolid : ¬ Broken G) (hids : FreshChannelIds G)
    (haccepted : ∀ p ∈ payloads, p.Accepted) (hapart : ChatIdsApart payloads)
    (hnone : NoneAfterDeactivation payloads) (hroom : ∀ p ∈ payloads, p.Storable) (hw : w.Sound)
    (hclear : Unobstructed tenantId payloads w.db) : AllServed G tenantId payloads w := by
  induction payloads generalizing w with
  | nil => trivial
  | cons payload rest ih =>
    intro r w' hruns
    obtain ⟨hactive, hnone'⟩ := List.pairwise_cons.mp hnone
    have hkept := (hroom payload List.mem_cons_self).kept (haccepted payload List.mem_cons_self)
    have hserved := served_of_unobstructed hsolid hids hw hkept hclear hruns
    have hclear' := hclear.served hserved hactive fun q hq hchat =>
      hapart payload List.mem_cons_self q (List.mem_cons_of_mem _ hq) hchat
    have hapart' : ChatIdsApart rest := fun p hp q hq =>
      hapart p (List.mem_cons_of_mem _ hp) q (List.mem_cons_of_mem _ hq)
    have hw' : w'.Sound := wp_sound (wp_sound_world _ w) hruns hw
    exact ⟨hserved, ih (fun p hp => haccepted p (List.mem_cons_of_mem _ hp)) hapart' hnone'
      (fun p hp => hroom p (List.mem_cons_of_mem _ hp)) hw' hclear'⟩

/-- Where all requests are served, none is for a market whose channel is deactivated. -/
theorem AllServed.spares_deactivated (hlive : ∀ w op, ∃ c, G w op c) (hw : w.Sound)
    (h : AllServed G tenantId payloads w) {channel : TelegramChannel}
    (hmem : channel ∈ w.db .telegramChannels) (ht : channel.tenantId = tenantId)
    (hdead : channel.isActive = false) : ∀ q ∈ payloads, q.market ≠ channel.market := by
  induction payloads generalizing w with
  | nil => exact fun _ hq => nomatch hq
  | cons payload rest ih =>
    obtain ⟨r, w', hruns⟩ :=
      exists_serial_runs hlive (requestTx tenantId (upsertChannel tenantId payload)) w
    obtain ⟨hserved, hrest⟩ := h r w' hruns
    have hne : payload.market ≠ channel.market := by
      intro heq
      have hof : isOf tenantId payload.market channel = true := by simp [isOf, ht, heq]
      obtain ⟨c, hc, -⟩ := hserved.returned
      exact refused_of_deactivated hw hmem hof hdead hruns c hc
    -- A request for another market leaves the channel where it is.
    have hkept : channel ∈ (w'.db .telegramChannels).filter
        (fun c => !isOf tenantId payload.market c) := by
      rw [hserved.others]
      refine List.mem_filter.mpr ⟨hmem, ?_⟩
      simp [isOf, Ne.symm hne]
    have hw' : w'.Sound := wp_sound (wp_sound_world _ w) hruns hw
    have hlater := ih hw' hrest (List.mem_filter.mp hkept).1
    intro q hq
    rcases List.mem_cons.mp hq with rfl | hq
    · exact hne
    · exact hlater q hq

theorem none_after_deactivation (hlive : ∀ w op, ∃ c, G w op c) (hw : w.Sound)
    (h : AllServed G tenantId payloads w) : NoneAfterDeactivation payloads := by
  induction payloads generalizing w with
  | nil => exact List.Pairwise.nil
  | cons payload rest ih =>
    obtain ⟨r, w', hruns⟩ :=
      exists_serial_runs hlive (requestTx tenantId (upsertChannel tenantId payload)) w
    obtain ⟨hserved, hrest⟩ := h r w' hruns
    have hw' : w'.Sound := wp_sound (wp_sound_world _ w) hruns hw
    refine List.pairwise_cons.mpr ⟨fun q hq hmarket => ?_, ih hw' hrest⟩
    by_contra hne
    have hdead : payload.isActive = false := by simpa using hne
    obtain ⟨channel, -, hdescribes, hrows⟩ := hserved.returned
    have hin : channel ∈ (w'.db .telegramChannels).filter (isOf tenantId payload.market) := by
      rw [hrows]
      exact List.mem_singleton.mpr rfl
    obtain ⟨hmem, hof⟩ := List.mem_filter.mp hin
    simp only [isOf, Bool.and_eq_true, beq_iff_eq] at hof
    have hspared := hrest.spares_deactivated hlive hw' hmem hof.1 (hdescribes.isActive.trans hdead)
    exact hspared q hq (hmarket.symm.trans hdescribes.market.symm)

/-- Where all requests are served, the columns have room for each. -/
theorem AllServed.storable (hlive : ∀ w op, ∃ c, G w op c) (hw : w.Sound)
    (h : AllServed G tenantId payloads w) : ∀ p ∈ payloads, p.Storable := by
  induction payloads generalizing w with
  | nil => exact fun _ hp => nomatch hp
  | cons payload rest ih =>
    obtain ⟨r, w', hruns⟩ :=
      exists_serial_runs hlive (requestTx tenantId (upsertChannel tenantId payload)) w
    obtain ⟨hserved, hrest⟩ := h r w' hruns
    have hw' : w'.Sound := wp_sound (wp_sound_world _ w) hruns hw
    intro p hp
    rcases List.mem_cons.mp hp with rfl | hp
    · obtain ⟨c, rfl, -⟩ := hserved.returned
      exact storable_of_answered hw hruns
    · exact ih hw' hrest p hp

/-- From a tenant without channels, accepted requests are map updates exactly when none is
    for a market that an earlier one deactivated, and the columns have room for each. -/
theorem channel_requests_are_map_updates_iff (hlive : ∀ w op, ∃ c, G w op c)
    (hsolid : ¬ Broken G) (hids : FreshChannelIds G) (hw : w.Sound)
    (hnone : ∀ c ∈ w.db .telegramChannels, c.tenantId ≠ tenantId)
    (haccepted : ∀ p ∈ payloads, p.Accepted) (hapart : ChatIdsApart payloads) :
    AllServed G tenantId payloads w ↔
      NoneAfterDeactivation payloads ∧ ∀ p ∈ payloads, p.Storable := by
  have hclear : Unobstructed tenantId payloads w.db := by
    refine ⟨fun p _ c hc hof => ?_, fun p _ c hc ht => absurd ht (hnone c hc)⟩
    simp only [isOf, Bool.and_eq_true, beq_iff_eq] at hof
    exact absurd hof.1 (hnone c hc)
  exact ⟨fun h => ⟨none_after_deactivation hlive hw h, h.storable hlive hw⟩, fun h =>
    all_served hsolid hids haccepted hapart h.1 h.2 hw hclear⟩

end Requests

/-! ### A channel switched off and on again -/

/-- Nothing fails, and ids are new. -/
def registeringEnv (w : World) : Op → Choice
  | .uuid4 => { id := ((w.view .telegramChannels).map (·.id)).sum + 1 }
  | _ => {}

theorem fresh_registeringEnv : FreshChannelIds (Only registeringEnv) := by
  rintro w c rfl r hr
  have hle : r.id ≤ ((w.view .telegramChannels).map (·.id)).sum :=
    List.single_le_sum (fun _ _ => Nat.zero_le _) r.id (List.mem_map.mpr ⟨r, hr, rfl⟩)
  exact Nat.ne_of_lt (Nat.lt_succ_of_le hle)

theorem solid_registeringEnv : ¬ Broken (Only registeringEnv) := by
  rintro ⟨w, op, c, rfl, -, hfault⟩
  cases op <;> exact hfault rfl

/-- The market's channel is replaced and renamed, and the other market's switched off. -/
def reconfiguration : List ChannelRequest :=
  [{ market := .crypto, chatId := -1003 }, { market := .forex, chatId := -1004 },
    { market := .crypto, chatId := -1005, title := some "VIP" },
    { market := .forex, chatId := -1004, isActive := false }]

theorem reconfiguration_served :
    AllServed (Only registeringEnv) 2 reconfiguration configuredWorld := by
  have hlive : ∀ w op, ∃ c, Only registeringEnv w op c := fun _ _ => ⟨_, rfl⟩
  have haccepted : ∀ p ∈ reconfiguration, p.Accepted := by
    intro p hp title htitle
    simp only [reconfiguration, List.mem_cons, List.not_mem_nil, or_false] at hp
    rcases hp with rfl | rfl | rfl | rfl <;> cases htitle
    decide
  have hroom : ∀ p ∈ reconfiguration, p.Storable := by
    intro p hp
    simp only [reconfiguration, List.mem_cons, List.not_mem_nil, or_false] at hp
    rcases hp with rfl | rfl | rfl | rfl
    all_goals
      refine ⟨by decide +kernel, fun title htitle => ?_⟩
      cases htitle
    decide +kernel
  refine (channel_requests_are_map_updates_iff hlive solid_registeringEnv fresh_registeringEnv
    initial_configuredWorld.sound ?_ haccepted ?_).mpr ⟨?_, hroom⟩
  · decide
  · unfold ChatIdsApart
    decide
  · unfold NoneAfterDeactivation
    decide

/-- A channel is switched off, and is to be switched on again. -/
def switching : List ChannelRequest :=
  [{ market := .crypto, chatId := -1003, isActive := false },
    { market := .crypto, chatId := -1003 }]

/-- The second request violates the unique constraint. -/
theorem deactivated_channel_cannot_be_configured :
    ChatIdsApart switching ∧ (∀ c ∈ configuredWorld.db .telegramChannels, c.tenantId ≠ 2) ∧
      ¬ AllServed (Only registeringEnv) 2 switching configuredWorld := by
  refine ⟨by unfold ChatIdsApart; decide, by decide, fun h => ?_⟩
  let first := exec World.step registeringEnv
    (requestTx 2 (upsertChannel 2 { market := .crypto, chatId := -1003, isActive := false }))
    configuredWorld
  let second := exec World.step registeringEnv
    (requestTx 2 (upsertChannel 2 { market := .crypto, chatId := -1003 })) first.2
  have hG : ∀ w op, Only registeringEnv w op (registeringEnv w op) := fun _ _ => rfl
  obtain ⟨-, hrest⟩ := h _ _ (runs_exec World.step hG _ configuredWorld)
  obtain ⟨hserved, -⟩ := hrest _ _ (runs_exec World.step hG _ first.2)
  obtain ⟨c, hc, -⟩ := hserved.returned
  have hraised : second.1.isOk = false := by decide +kernel
  rw [show second.1 = .ok c from hc] at hraised
  cases hraised

end VipChannel

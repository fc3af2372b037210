/-
  VipChannel.Runs.Coherence

  Memberships and subscriptions of a tenant hang together in every state that the
  tenant's operations reach, whatever fails on the way.

  The columns of a row are written by three services, a few at a time: `RowCoherent` is
  what the row says of itself, `Coherent` adds what it has to do with other rows.
-/
import VipChannel.Runs.Entitlements
import VipChannel.Runs.Isolation
import VipChannel.Runs.Updates
import VipChannel.Web.AdminCalls

namespace VipChannel

open Lib MembershipMonitor

/-! ## One row -/

/-- The columns of a membership row agree with its status. -/
structure RowCoherent (maxWarnings : Int) (m : VIPMembership) : Prop where
  settled : m.status ≠ .pending
  linked : m.status = .invited ∨ m.status = .active →
    m.inviteLink ≠ none ∧ m.inviteIssuedAt ≠ none
  revokedAt : m.status = .revoked ↔ m.revokedAt ≠ none
  revocationReason : m.status = .revoked ↔ m.revocationReason ≠ none
  unlinked : m.status = .revoked → m.inviteLink = none
  warned : 0 ≤ m.warningsSent ∧ m.warningsSent ≤ maxWarnings
  clock : m.warningsSent = 0 ↔ m.lastWarningAt = none

/-- No row is ACTIVE, SUSPENDED or EXPIRED: nothing writes these but on such a row. -/
structure RowKept (maxWarnings : Int) (m : VIPMembership) : Prop
    extends RowCoherent maxWarnings m where
  known : m.status = .invited ∨ m.status = .revoked

section Row

variable {maxWarnings : Int} {policy : CompliancePolicy} {m : VIPMembership}

theorem RowKept.restored (h : RowKept maxWarnings m) (hmonitored : m.status.monitored = true)
    (hmax : 0 ≤ maxWarnings) : RowKept maxWarnings m.restored := by
  have hinvited : m.status = .invited := by
    rcases h.known with hs | hs
    · exact hs
    · rw [hs] at hmonitored
      cases hmonitored
  have hstatus : m.restored.status = m.status := by
    simp only [VIPMembership.restored, hinvited, reduceCtorEq, if_false]
  exact {
    settled := hstatus ▸ h.settled
    linked := hstatus ▸ h.linked
    revokedAt := hstatus ▸ h.revokedAt
    revocationReason := hstatus ▸ h.revocationReason
    unlinked := hstatus ▸ h.unlinked
    warned := ⟨Int.le_refl 0, hmax⟩
    clock := ⟨fun _ => rfl, fun _ => rfl⟩
    known := hstatus ▸ h.known }

theorem RowKept.warn (h : RowKept maxWarnings m) (moment : DateTime)
    (hmax : m.warningsSent < maxWarnings) :
    RowKept maxWarnings (m.warned (m.warningsSent + 1) moment) := by
  have hwarned := h.warned
  have hafter : (m.warned (m.warningsSent + 1) moment).warningsSent = m.warningsSent + 1 := rfl
  have hlast : (m.warned (m.warningsSent + 1) moment).lastWarningAt = some moment := rfl
  exact {
    settled := h.settled
    linked := h.linked
    revokedAt := h.revokedAt
    revocationReason := h.revocationReason
    unlinked := h.unlinked
    warned := by
      rw [hafter]
      omega
    clock := by
      rw [hafter, hlast]
      refine ⟨fun hzero => ?_, fun hnone => by cases hnone⟩
      omega
    known := h.known }

theorem RowKept.removed (h : RowKept maxWarnings m) (moment : DateTime) (detail : String) :
    RowKept maxWarnings (m.removed moment (some detail)) where
  settled := nofun
  linked := by
    rintro (hs | hs)
    · cases hs
    · cases hs
  revokedAt := ⟨fun _ => nofun, fun _ => rfl⟩
  revocationReason := ⟨fun _ => nofun, fun _ => rfl⟩
  unlinked := fun _ => rfl
  warned := h.warned
  clock := h.clock
  known := .inr rfl

/-- Whatever a pass decides about the row. -/
theorem RowKept.applied {v : EligibilityVerdict} {config : ReferralProgramConfig}
    {d : ComplianceDecision} {moment : DateTime} (h : RowKept policy.maxWarnings m)
    (hd : decideCompliance m.snapshot v (policyFor policy config) moment = .ok d) :
    RowKept policy.maxWarnings (m.applied d moment) := by
  have hwarned := h.warned
  rcases decideCompliance_cases hd with ⟨ha, -⟩ | ⟨ha, hmonitored, -⟩ |
    ⟨ha, -, hlt, hafter, -⟩ | ⟨ha, -, -, hdetail⟩
  · simp only [VIPMembership.applied, ha]
    exact h
  · simp only [VIPMembership.applied, ha]
    exact h.restored hmonitored (by omega)
  · simp only [VIPMembership.applied, ha, hafter]
    exact h.warn moment hlt
  · simp only [VIPMembership.applied, ha, hdetail]
    exact h.removed moment v.reason.value

/-- A row that was minted a link for, new or with what a return resets. -/
theorem RowKept.linked_anew {tenantId : TenantId} {link : String} {moment : DateTime}
    (hactive : m.status ≠ .active) (hrevoked : m.revokedAt = none)
    (hreason : m.revocationReason = none)
    (hwarned : 0 ≤ m.warningsSent ∧ m.warningsSent ≤ maxWarnings)
    (hclock : m.warningsSent = 0 ↔ m.lastWarningAt = none) :
    RowKept maxWarnings (InviteService.recordLink tenantId link moment m) := by
  have hstatus : (InviteService.recordLink tenantId link moment m).status = .invited := by
    simp only [InviteService.recordLink, hactive, if_false]
  have hset : (InviteService.recordLink tenantId link moment m).inviteLink ≠ none ∧
      (InviteService.recordLink tenantId link moment m).inviteIssuedAt ≠ none :=
    ⟨Option.some_ne_none link, Option.some_ne_none moment⟩
  have hnotRevoked : (InviteService.recordLink tenantId link moment m).status ≠ .revoked := by
    rw [hstatus]
    decide
  have hnotPending : (InviteService.recordLink tenantId link moment m).status ≠ .pending := by
    rw [hstatus]
    decide
  exact {
    settled := hnotPending
    linked := fun _ => hset
    revokedAt := iff_of_false hnotRevoked (not_not_intro hrevoked)
    revocationReason := iff_of_false hnotRevoked (not_not_intro hreason)
    unlinked := fun h => absurd h hnotRevoked
    warned := hwarned
    clock := hclock
    known := .inl hstatus }

/-- The row a grant ends with, from the row it found. -/
theorem Grant.Holds.rowKept {G : World → Op → Choice → Prop} {ttl : TimeDelta}
    {providerType : ProviderType} {market : Market} {g : Grant} {w w' : World} {calls : List Sent}
    (h : g.Holds G ttl providerType market w w' calls) (hmax : 0 ≤ maxWarnings)
    (hprior : ∀ prior, g.prior = some prior → RowKept maxWarnings prior) :
    RowKept maxWarnings g.membership := by
  have hfrom := h.membership
  cases hp : g.prior with
  | none =>
    rw [hp] at hfrom
    obtain ⟨-, id, createdAt, -, hbase⟩ := hfrom
    rcases h.invite.cases with ⟨hlive, -, -⟩ | ⟨_, -, -, -, hm, -⟩
    · -- A new row has no link to reuse.
      rw [hbase] at hlive
      cases hlive
    · rw [hm, hbase]
      exact .linked_anew nofun rfl rfl ⟨Int.le_refl 0, hmax⟩ ⟨fun _ => rfl, fun _ => rfl⟩
  | some prior =>
    rw [hp] at hfrom
    obtain ⟨-, -, -, hbase⟩ := hfrom
    have hkept := hprior prior hp
    rcases hkept.known with hs | hs
    · -- INVITED: the row keeps its warnings, and its link while that lives.
      have hsame : g.base = { prior with subscriptionId := some g.subscription.id } := by
        rw [hbase]
        simp only [ReferralOnboardingService.reinstate, hs, reduceCtorEq, or_self, if_false]
      rcases h.invite.cases with ⟨-, hm, -⟩ | ⟨_, -, -, -, hm, -⟩
      · rw [hm, hsame]
        exact ⟨⟨hkept.settled, hkept.linked, hkept.revokedAt, hkept.revocationReason,
          hkept.unlinked, hkept.warned, hkept.clock⟩, hkept.known⟩
      · rw [hm, hsame]
        refine .linked_anew ?_ ?_ ?_ hkept.warned hkept.clock
        · rw [hs]
          exact nofun
        · by_contra hne
          have hrevoked := hkept.revokedAt.mpr hne
          rw [hs] at hrevoked
          cases hrevoked
        · by_contra hne
          have hrevoked := hkept.revocationReason.mpr hne
          rw [hs] at hrevoked
          cases hrevoked
    · -- REVOKED: a return resets the row, and a PENDING row has no live link.
      have hreset : g.base = { prior with
          subscriptionId := some g.subscription.id, status := .pending, revokedAt := none
          revocationReason := none, warningsSent := 0, lastWarningAt := none } := by
        rw [hbase]
        simp only [ReferralOnboardingService.reinstate, hs, true_or, if_true]
      rcases h.invite.cases with ⟨hlive, -, -⟩ | ⟨_, -, -, -, hm, -⟩
      · obtain ⟨-, hlinkable, -⟩ := InviteService.liveLink_some hlive
        rw [hreset] at hlinkable
        cases hlinkable
      · rw [hm, hreset]
        exact .linked_anew nofun rfl rfl ⟨Int.le_refl 0, hmax⟩ ⟨fun _ => rfl, fun _ => rfl⟩

end Row

/-! ## All rows of a tenant -/

/-- The memberships and subscriptions of a tenant hang together. -/
structure Coherent (A : TenantId) (maxWarnings : Int) (d : Database) : Prop where
  rows : ∀ m ∈ d .vipMemberships, m.tenantId = A → RowCoherent maxWarnings m
  /-- A user has one membership of a channel. -/
  membership : ∀ m ∈ d .vipMemberships, ∀ m' ∈ d .vipMemberships, m.tenantId = A →
    m'.tenantId = A → m.userId = m'.userId → m.channelId = m'.channelId → m = m'
  /-- A user has one subscription of a market, and a membership names that of its channel's
      market. -/
  entitled : EntitledIn A d

def RowsKept (A : TenantId) (maxWarnings : Int) (d : Database) : Prop :=
  ∀ m ∈ d .vipMemberships, m.tenantId = A → RowKept maxWarnings m

section Operations

variable {G : World → Op → Choice → Prop} {key : EncryptionKey} {S : Settings}
  {policy : CompliancePolicy} {A tenantId : TenantId} {w w' : World}

theorem RowsKept.effect (hmax : 0 ≤ policy.maxWarnings)
    (h : RowsKept A policy.maxWarnings w.db) (heff : RowsEffect G policy tenantId w w') :
    RowsKept A policy.maxWarnings w'.db := by
  cases heff with
  | kept hms _ _ =>
    intro m hm
    rw [hms] at hm
    exact h m hm
  | passed hlisted hpassed hdb =>
    intro m' hm' ht
    rw [hdb .vipMemberships (by decide)] at hm'
    obtain ⟨m, hm, -, hrow⟩ := hpassed.row_of_mem hlisted hm'
    rcases hrow with rfl | ⟨a, ha, rfl, rfl⟩
    · exact h _ hm ht
    · rw [(applied_id ..).2] at ht
      exact (h _ hm ht).applied (hpassed.holds a ha).judged.decided
  | @granted _ _ _ g w₁ _ hg hdb =>
    intro m hm ht
    rw [hdb] at hm
    rcases hg.memberships.mem_iff.mp hm with rfl | ⟨hold, -⟩
    · refine hg.rowKept hmax fun prior hprior => ?_
      have hup := hg.memberships
      have hfrom := hg.membership
      rw [hprior] at hup hfrom
      refine h prior hup.prior_mem.1 ?_
      rw [hfrom.1, ← ht, hg.membership_facts.1]
    · exact h m hold ht

/-- What handling an update leaves, once it is committed. -/
theorem UpdateRun.rows {token : String} {update : Option IncomingUpdate} {ttl : TimeDelta}
    (hw : w.Sound) (h : UpdateRun G ttl token update w w') :
    ∃ tenantId, RowsEffect G policy tenantId w w' := by
  have hnone : w'.db = w.db → ∃ tenantId, RowsEffect G policy tenantId w w' := fun hdb =>
    ⟨0, .of_tables fun t _ => by rw [hdb]⟩
  cases h with
  | unhandled hdb _ => exact hnone hdb
  | raised _ _ hundone => exact hnone hundone.db
  | uncommitted _ _ _ hundone => exact hnone hundone.db
  | @committed tenantId incoming replies w₁ w₂ _ hhandle hcommit hconfirmed =>
    refine ⟨tenantId, ?_⟩
    have hmeets : Meets G
        (BotConversation.handle ttl .bitunix (w.opened tenantId).tenantId incoming)
        (HandleResult G ttl .bitunix incoming (w.opened tenantId)) _ (w.opened tenantId) :=
      BotConversation.meets_handle (hw.opened tenantId) rfl
    have hresult := wp_sound hmeets hhandle
    have hdb : w'.db = w₁.view := hconfirmed.db.trans (commit_view hcommit)
    have hquiet : (w.opened tenantId).SameBut PRELIMINARY w₁ →
        RowsEffect G policy tenantId w w' := by
      intro hsame
      refine .of_tables fun t ht => ?_
      rw [hdb]
      refine hsame.view t fun hpre => ?_
      simp only [List.mem_cons, List.not_mem_nil, or_false] at ht
      rcases ht with rfl | rfl | rfl <;> exact absurd hpre (by decide)
    cases hresult with
    | quiet _ hsame => exact hquiet hsame
    | submitted hsubmitted _ _ =>
      cases hsubmitted with
      | quiet _ hsame => exact hquiet hsame
      | granted hg _ _ => exact .granted hg hdb

/-- An operation answers with what its program returned. -/
theorem runs_answer {α β : Type} {body : App α} {f : α → β} {r : Except PyError β}
    (h : Runs (serial G) (body >>= fun a => pure (f a)) w r w') :
    ∃ x : Except PyError α, Runs (serial G) body w x w' ∧ r = x.map f := by
  obtain ⟨x, w₁, hruns, hend⟩ := runs_bind h
  cases x with
  | ok a =>
    obtain ⟨rfl, rfl⟩ := hend
    exact ⟨.ok a, hruns, rfl⟩
  | error e =>
    obtain ⟨rfl, rfl⟩ := hend
    exact ⟨.error e, hruns, rfl⟩

/-- Naming what a program returned leaves the world as it was. -/
theorem runs_named {α : Type} {body : App α} {f : α → Response} {r : Except PyError Response}
    (h : Runs (serial G) (body >>= fun a => pure (f a)) w r w') :
    ∃ x, Runs (serial G) body w x w' := by
  obtain ⟨x, hruns, -⟩ := runs_answer h
  exact ⟨x, hruns⟩

/-- The operation writes on a tenant's settings and payments, if on anything. -/
def Operation.configures : Operation → Bool
  | .upsertCredential _ | .listCredentials | .upsertReferralConfig _ | .listChannels
  | .upsertBot _ | .checkIntegration | .ingestPayment _ => true
  | .update .. | .upsertChannel _ | .monitor _ | .sweep => false

/-- However it ends, it leaves the other tables as they are. -/
theorem Operation.configures_kept {op : Operation} {r : Except PyError Response}
    (hop : op.configures = true) (h : Runs (serial G) (op.program key S A) w r w') {t : Table}
    (ht : t ∉ SETTINGS) : w'.db t = w.db t := by
  -- Each program returns what its request returns.
  have hrequest : ∀ {α : Type} {body : App α} {f : α → Response},
      body.UsesOnly (Op.within SETTINGS) →
      Runs (serial G) (requestTx A body >>= fun a => pure (f a)) w r w' → w'.db t = w.db t := by
    intro α body f hbody hruns
    obtain ⟨x, hruns⟩ := runs_named hruns
    exact requestTx_within hbody hruns ht
  cases op with
  | upsertCredential payload => exact hrequest (Admin.within_upsertCredential key A payload) h
  | listCredentials => exact hrequest (Admin.within_listCredentials A) h
  | upsertReferralConfig payload => exact hrequest (Admin.within_upsertReferralConfig A payload) h
  | listChannels => exact hrequest (within_listAll A) h
  | upsertBot payload => exact hrequest (Admin.within_upsertBot key A payload) h
  | checkIntegration => exact hrequest (Admin.within_checkIntegration key A) h
  | ingestPayment payload =>
    change Runs (serial G) (ingestPaymentWebhook A payload >>= fun a => pure (.payment a)) w r w'
      at h
    unfold ingestPaymentWebhook at h
    split at h
    · exact hrequest (PaymentProcessingService.within_processPayment A payload) h
    · obtain ⟨-, rfl⟩ := h
      rfl
  | update | upsertChannel | monitor | sweep => cases hop

/-- What any operation of a tenant leaves, however it ends. -/
theorem Operation.effect {op : Operation} {r : Except PyError Response} (hw : w.Sound)
    (hsweep : op ≠ .sweep) (h : Runs (serial G) (op.program key S A) w r w') :
    ∃ tenantId, RowsEffect G S.policy tenantId w w' := by
  have hconfigures : op.configures = true → ∃ tenantId, RowsEffect G S.policy tenantId w w' := by
    intro hop
    refine ⟨A, .of_tables fun t ht => Operation.configures_kept hop h ?_⟩
    simp only [List.mem_cons, List.not_mem_nil, or_false] at ht
    rcases ht with rfl | rfl | rfl <;> decide
  cases op with
  | update token incoming =>
    obtain ⟨x, hruns⟩ := runs_named h
    exact (run_receiveUpdate hw hruns).rows hw
  | upsertChannel payload =>
    have hstep : Event.Steps G S (.channel A payload) w w' := runs_named h
    exact ⟨A, (channel_effect hw hstep).rows⟩
  | monitor now =>
    have hstep : Event.Steps G S (.pass A now) w w' := runs_named h
    exact ⟨A, (pass_effect hw hstep).rows⟩
  | upsertCredential | listCredentials | upsertReferralConfig | listChannels | upsertBot
  | checkIntegration | ingestPayment => exact hconfigures rfl
  | sweep => exact absurd rfl hsweep

/-- The operations of any tenants, one after the other, the passes under one policy. -/
def Operations (G : World → Op → Choice → Prop) (key : EncryptionKey) (S : Settings) :
    World → World → Prop :=
  Relation.ReflTransGen fun w w' => ∃ A op r, op ≠ .sweep ∧
    Runs (serial G) (Operation.program key S A op) w r w'

/-- What every effect on the rows keeps, the operations keep. -/
theorem Operations.invariant {I : World → Prop} {w₀ : World} (h : Operations G key S w₀ w)
    (hsound : w₀.Sound) (h0 : I w₀)
    (hstep : ∀ w w' tenantId, w.Sound → I w → RowsEffect G S.policy tenantId w w' → I w') :
    w.Sound ∧ I w := by
  induction h with
  | refl => exact ⟨hsound, h0⟩
  | tail _ hlast ih =>
    obtain ⟨hw, hi⟩ := ih
    obtain ⟨B, op, r, hsweep, hruns⟩ := hlast
    obtain ⟨tenantId, heff⟩ := Operation.effect hw hsweep hruns
    exact ⟨wp_sound (wp_sound_world _ _) hruns hw, hstep _ _ tenantId hw hi heff⟩

/-- The operations keep memberships and subscriptions together. -/
theorem Operations.entitled {w₀ : World} (h : Operations G key S w₀ w) (hsound : w₀.Sound)
    (hms : ∀ m ∈ w₀.db .vipMemberships, m.tenantId ≠ A)
    (hsubs : ∀ s ∈ w₀.db .subscriptions, s.tenantId ≠ A) : w.Sound ∧ EntitledIn A w.db :=
  h.invariant (I := fun w => EntitledIn A w.db) hsound (.start hms hsubs)
    fun _ _ _ hw hent heff => hent.effect hw heff

/-- Whatever is done to a tenant that begins with neither memberships nor subscriptions, and
    whatever fails, its rows are coherent. -/
theorem memberships_coherent (hpolicy : 1 ≤ S.policy.maxWarnings) {w₀ : World}
    (hsound : w₀.Sound) (hms : ∀ m ∈ w₀.db .vipMemberships, m.tenantId ≠ A)
    (hsubs : ∀ s ∈ w₀.db .subscriptions, s.tenantId ≠ A) (h : Operations G key S w₀ w) :
    Coherent A S.policy.maxWarnings w.db := by
  have hstart : RowsKept A S.policy.maxWarnings w₀.db := fun m hm ht => absurd ht (hms m hm)
  obtain ⟨-, hrows⟩ := h.invariant (I := fun w => RowsKept A S.policy.maxWarnings w.db) hsound
    hstart fun _ _ _ _ hrows heff => hrows.effect (by omega) heff
  obtain ⟨hw, hent⟩ := h.entitled hsound hms hsubs
  refine ⟨fun m hm ht => (hrows m hm ht).toRowCoherent, fun m hm m' hm' ht ht' hu hc => ?_, hent⟩
  exact hw.db.eq_of_clash (t := .vipMemberships) hm hm' (by simp [clash, ht, ht', hu, hc])

/-- The user is admitted, and a pass finds the row in order. -/
theorem admitted_coherent :
    let w₁ := (exec World.step welcomingEnv ((Operation.update "hook" (some uidMessage)).program
      (.key some) defaultSettings 1) hookedWorld).2
    let w₂ := (exec World.step welcomingEnv ((Operation.monitor none).program
      (.key some) defaultSettings 1) w₁).2
    (w₂.db .vipMemberships).length = 1 ∧ (w₂.db .jobExecutions).length = 1 ∧
      Coherent 1 defaultSettings.policy.maxWarnings w₂.db := by
  intro w₁ w₂
  have hfirst := runs_only welcomingEnv
    ((Operation.update "hook" (some uidMessage)).program (.key some) defaultSettings 1) hookedWorld
  have hsecond := runs_only welcomingEnv
    ((Operation.monitor none).program (.key some) defaultSettings 1) w₁
  have hoperations : Operations (Only welcomingEnv) (.key some) defaultSettings hookedWorld w₂ :=
    (Relation.ReflTransGen.single ⟨1, .update _ _, _, nofun, hfirst⟩).tail
      ⟨1, .monitor _, _, nofun, hsecond⟩
  refine ⟨by decide +kernel, by decide +kernel, ?_⟩
  exact memberships_coherent (by decide) sound_hookedWorld (fun _ h => nomatch h)
    (fun _ h => nomatch h) hoperations

end Operations

end VipChannel

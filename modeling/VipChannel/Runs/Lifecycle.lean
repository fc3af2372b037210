/-
  VipChannel.Runs.Lifecycle

  The life of a membership: INVITED by a submission, REVOKED by a monitoring pass, INVITED
  again by a submission, and nothing else.

  The schema knows four more statuses.  No service writes ACTIVE or SUSPENDED but on a row
  that has been SUSPENDED before, nothing writes EXPIRED, and PENDING is left again in the
  same transaction; so the branches of the services for these are never entered.
-/
import VipChannel.Runs.Coherence
import VipChannel.Runs.Periods

namespace VipChannel

open Lib MembershipMonitor

/-! ## Moves -/

/-- The operation is a monitoring pass. -/
def Operation.passes : Operation → Bool
  | .monitor _ | .sweep => true
  | .update .. | .upsertCredential _ | .listCredentials | .upsertReferralConfig _
  | .upsertChannel _ | .listChannels | .upsertBot _ | .checkIntegration | .ingestPayment _ => false

/-- The operation may be a submission. -/
def Operation.submits : Operation → Bool
  | .update .. => true
  | .monitor _ | .sweep | .upsertCredential _ | .listCredentials | .upsertReferralConfig _
  | .upsertChannel _ | .listChannels | .upsertBot _ | .checkIntegration | .ingestPayment _ => false

/-- What a membership is, whatever becomes of it. -/
def identityOf (m : VIPMembership) : RowId × TenantId × RowId × RowId × DateTime :=
  (m.id, m.tenantId, m.userId, m.channelId, m.createdAt)

/-- How a row may move in one operation. -/
inductive Moves (passes submits : Prop) (m m' : VIPMembership) : Prop
  | stays : m'.status = m.status → (m'.warningsSent = m.warningsSent ∨ passes) →
      Moves passes submits m m'
  | revoked : passes → m.status = .invited → m'.status = .revoked →
      m'.warningsSent = m.warningsSent → Moves passes submits m m'
  /-- A returning member begins with no warning. -/
  | readmitted : submits → m.status = .revoked → m'.status = .invited → m'.warningsSent = 0 →
      Moves passes submits m m'

/-- How the memberships of a tenant may move in one operation. -/
structure Moved (passes submits : Prop) (A : TenantId) (d d' : Database) : Prop where
  kept : ∀ m ∈ d .vipMemberships, m.tenantId = A →
    ∃ m' ∈ d' .vipMemberships, identityOf m' = identityOf m ∧ Moves passes submits m m'
  new : ∀ m' ∈ d' .vipMemberships, m'.tenantId = A →
    (∃ m ∈ d .vipMemberships, identityOf m = identityOf m') ∨
      (submits ∧ m'.status = .invited ∧ m'.warningsSent = 0)

/-- The tenant's memberships are INVITED or REVOKED. -/
def Known (A : TenantId) (d : Database) : Prop :=
  ∀ m ∈ d .vipMemberships, m.tenantId = A → m.status = .invited ∨ m.status = .revoked

/-! ## What an operation writes on memberships -/

/-- Which rows an operation of tenant `A` writes on memberships, if any. -/
inductive MembershipEffect (G : World → Op → Choice → Prop) (A : TenantId) (op : Operation)
    (w w' : World) : Prop
  | kept : w'.db .vipMemberships = w.db .vipMemberships → MembershipEffect G A op w w'
  | passed {policy : CompliancePolicy} {moment periodStart : DateTime} {ms : List VIPMembership}
      {acts : List Act} {w₂ : World} : op.passes = true → Listed (w.opened A) ms →
      Passed G policy periodStart moment (w.opened A) ms acts w₂ →
      w'.db .vipMemberships = w₂.view .vipMemberships → MembershipEffect G A op w w'
  | granted {tenantId : TenantId} {ttl : TimeDelta} {providerType : ProviderType}
      {market : Market} {g : Grant} {w₁ : World} {calls : List Sent} : op.submits = true →
      g.Holds G ttl providerType market (w.opened tenantId) w₁ calls →
      w'.db .vipMemberships = w₁.view .vipMemberships → MembershipEffect G A op w w'

section Effects

variable {G : World → Op → Choice → Prop} {key : EncryptionKey} {S : Settings}
  {A B : TenantId} {op : Operation} {w w' : World}

theorem PassEffect.memberships {now : Option DateTime} (h : PassEffect G S A now w w')
    (hop : op.passes = true) : MembershipEffect G A op w w' := by
  cases h with
  | quiet hdb _ | lost _ _ _ hdb _ => exact .kept (by rw [hdb])
  | committed hstart hpassed hdb _ _ => exact .passed hop hstart.listed hpassed (hdb _ (by decide))

/-- An update writes on memberships what a submission grants. -/
theorem UpdateRun.memberships {token : String} {update : Option IncomingUpdate}
    {ttl : TimeDelta} (hw : w.Sound) (h : UpdateRun G ttl token update w w')
    (hop : op.submits = true) : MembershipEffect G A op w w' := by
  cases h with
  | unhandled hdb _ => exact .kept (by rw [hdb])
  | raised _ _ hundone => exact .kept (by rw [hundone.db])
  | uncommitted _ _ _ hundone => exact .kept (by rw [hundone.db])
  | @committed tenantId incoming replies w₁ w₂ _ hhandle hcommit hconfirmed =>
    have hmeets : Meets G
        (BotConversation.handle ttl .bitunix (w.opened tenantId).tenantId incoming)
        (HandleResult G ttl .bitunix incoming (w.opened tenantId)) _ (w.opened tenantId) :=
      BotConversation.meets_handle (hw.opened tenantId) rfl
    have hdb : w'.db = w₁.view := hconfirmed.db.trans (commit_view hcommit)
    have hquiet : (w.opened tenantId).SameBut PRELIMINARY w₁ → MembershipEffect G A op w w' := by
      intro hsame
      have hview := hsame.view .vipMemberships (by decide)
      exact .kept (by rw [hdb, hview]; rfl)
    cases wp_sound hmeets hhandle with
    | quiet _ hsame => exact hquiet hsame
    | submitted hsubmitted _ _ =>
      cases hsubmitted with
      | quiet _ hsame => exact hquiet hsame
      | granted hg _ _ => exact .granted hop hg (by rw [hdb])

theorem Operation.memberships {r : Except PyError Response} (hw : w.Sound)
    (h : Runs (serial G) (op.program key S A) w r w') : MembershipEffect G A op w w' := by
  have hconfigures : op.configures = true → MembershipEffect G A op w w' := by
    intro hop
    exact .kept (Operation.configures_kept hop h (by decide))
  cases op with
  | update token incoming =>
    obtain ⟨x, hruns⟩ := runs_named h
    exact (run_receiveUpdate hw hruns).memberships hw rfl
  | upsertChannel payload =>
    have hstep : Event.Steps G S (.channel A payload) w w' := runs_named h
    cases channel_effect hw hstep with
    | quiet hdb _ => exact .kept (by rw [hdb])
    | upserted hdb _ _ _ => exact .kept (hdb _ (by decide))
  | monitor now =>
    have hstep : Event.Steps G S (.pass A now) w w' := runs_named h
    exact (pass_effect hw hstep).memberships rfl
  | sweep =>
    have hstep : SweepStep G key S A w w' := runs_named h
    exact (hstep.effect hw).memberships rfl
  | upsertCredential | listCredentials | upsertReferralConfig | listChannels | upsertBot
  | checkIntegration | ingestPayment => exact hconfigures rfl

/-! ## What that makes of the rows -/

/-- One decision on an INVITED row. -/
theorem moves_applied {policy : CompliancePolicy} {v : EligibilityVerdict} {d : ComplianceDecision}
    {m : VIPMembership} {moment : DateTime} (submits : Prop) (hinvited : m.status = .invited)
    (hd : decideCompliance m.snapshot v policy moment = .ok d) :
    identityOf (m.applied d moment) = identityOf m ∧ Moves True submits m (m.applied d moment) := by
  rcases decideCompliance_cases hd with ⟨ha, -⟩ | ⟨ha, -⟩ | ⟨ha, -⟩ | ⟨ha, -⟩
  · have hrow : m.applied d moment = m := by simp only [VIPMembership.applied, ha]
    rw [hrow]
    exact ⟨rfl, .stays rfl (.inl rfl)⟩
  · have hrow : m.applied d moment = m.restored := by simp only [VIPMembership.applied, ha]
    have hstatus : m.restored.status = m.status := by
      simp only [VIPMembership.restored, hinvited, reduceCtorEq, if_false]
    rw [hrow]
    exact ⟨rfl, .stays hstatus (.inr trivial)⟩
  · have hrow : m.applied d moment = m.warned d.warningsAfter moment := by
      simp only [VIPMembership.applied, ha]
    rw [hrow]
    exact ⟨rfl, .stays rfl (.inr trivial)⟩
  · have hrow : m.applied d moment = m.removed moment d.detail := by
      simp only [VIPMembership.applied, ha]
    rw [hrow]
    exact ⟨rfl, .revoked trivial hinvited rfl rfl⟩

/-- A link that is recorded makes a row INVITED, unless it is ACTIVE. -/
theorem status_recordLink {m : VIPMembership} (h : m.status ≠ .active) (tenantId : TenantId)
    (link : String) (moment : DateTime) :
    (InviteService.recordLink tenantId link moment m).status = .invited := by
  simp only [InviteService.recordLink, h, if_false]

/-- The row a grant makes of one that was there. -/
theorem Grant.Holds.moves {ttl : TimeDelta} {providerType : ProviderType} {market : Market}
    {g : Grant} {calls : List Sent} {prior : VIPMembership}
    (h : g.Holds G ttl providerType market w w' calls) (hprior : g.prior = some prior)
    (hknown : prior.status = .invited ∨ prior.status = .revoked) :
    g.base.status ≠ .active ∧ identityOf g.membership = identityOf prior ∧
      Moves False True prior g.membership := by
  have hfrom := h.membership
  rw [hprior] at hfrom
  obtain ⟨htenant, -, -, hbase⟩ := hfrom
  have hwritten := h.invite.cases
  rcases hknown with hs | hs
  · have hsame : g.base = { prior with subscriptionId := some g.subscription.id } := by
      rw [hbase]
      simp only [ReferralOnboardingService.reinstate, hs, reduceCtorEq, or_self, if_false]
    have hinvited : g.base.status = .invited := by
      rw [hsame]
      exact hs
    have hactive : g.base.status ≠ .active := by
      rw [hinvited]
      decide
    refine ⟨hactive, ?_⟩
    rcases hwritten with ⟨-, hm, -⟩ | ⟨_, -, -, -, hm, -⟩
    · rw [hm, hsame]
      exact ⟨rfl, .stays rfl (.inl rfl)⟩
    · have hstatus := status_recordLink hactive w.tenantId g.link g.moment
      have hid : identityOf g.membership = identityOf prior := by
        rw [hm, hsame]
        simp only [identityOf, InviteService.recordLink, htenant]
      refine ⟨hid, .stays ?_ (.inl ?_)⟩
      · rw [hm, hstatus, hs]
      · rw [hm, hsame]
        rfl
  · -- A return: the row is PENDING in between, and a PENDING row has no live link.
    have hreset : g.base = { prior with
        subscriptionId := some g.subscription.id, status := .pending, revokedAt := none
        revocationReason := none, warningsSent := 0, lastWarningAt := none } := by
      rw [hbase]
      simp only [ReferralOnboardingService.reinstate, hs, true_or, if_true]
    have hactive : g.base.status ≠ .active := by
      rw [hreset]
      show MembershipStatus.pending ≠ .active
      decide
    refine ⟨hactive, ?_⟩
    rcases hwritten with ⟨hlive, -, -⟩ | ⟨_, -, -, -, hm, -⟩
    · obtain ⟨-, hlinkable, -⟩ := InviteService.liveLink_some hlive
      rw [hreset] at hlinkable
      cases hlinkable
    · have hstatus := status_recordLink hactive w.tenantId g.link g.moment
      have hid : identityOf g.membership = identityOf prior := by
        rw [hm, hreset]
        simp only [identityOf, InviteService.recordLink, htenant]
      refine ⟨hid, .readmitted trivial hs (by rw [hm, hstatus]) ?_⟩
      rw [hm, hreset]
      rfl

/-- The row a grant adds. -/
theorem Grant.Holds.begins {ttl : TimeDelta} {providerType : ProviderType} {market : Market}
    {g : Grant} {calls : List Sent} (h : g.Holds G ttl providerType market w w' calls)
    (hprior : g.prior = none) :
    g.base.status ≠ .active ∧ g.membership.status = .invited ∧ g.membership.warningsSent = 0 := by
  have hfrom := h.membership
  rw [hprior] at hfrom
  obtain ⟨-, id, createdAt, -, hbase⟩ := hfrom
  have hactive : g.base.status ≠ .active := by
    rw [hbase]
    show MembershipStatus.pending ≠ .active
    decide
  refine ⟨hactive, ?_⟩
  rcases h.invite.cases with ⟨hlive, -, -⟩ | ⟨_, -, -, -, hm, -⟩
  · -- A new row has no link to reuse.
    rw [hbase] at hlive
    cases hlive
  · rw [hm]
    refine ⟨status_recordLink hactive .., ?_⟩
    rw [hbase]
    rfl

theorem Moves.mono {passes passes' submits submits' : Prop} {m m' : VIPMembership}
    (h : Moves passes submits m m') (hpasses : passes → passes') (hsubmits : submits → submits') :
    Moves passes' submits' m m' := by
  cases h with
  | stays hstatus hcount => exact .stays hstatus (hcount.imp_right hpasses)
  | revoked hp hs hs' hcount => exact .revoked (hpasses hp) hs hs' hcount
  | readmitted hs hstatus hstatus' hcount => exact .readmitted (hsubmits hs) hstatus hstatus' hcount

/-- Of the rows of a tenant that are INVITED or REVOKED. -/
theorem MembershipEffect.moved (hw : w.Sound) (hknown : Known A w.db)
    (h : MembershipEffect G B op w w') :
    Moved (op.passes = true ∧ B = A) (op.submits = true) A w.db w'.db := by
  have hstay : ∀ {m : VIPMembership} {passes submits : Prop}, Moves passes submits m m :=
    .stays rfl (.inl rfl)
  cases h with
  | kept hrows =>
    refine ⟨fun m hm _ => ⟨m, hrows ▸ hm, rfl, hstay⟩, fun m' hm' _ => .inl ⟨m', ?_, rfl⟩⟩
    rw [← hrows]
    exact hm'
  | @passed policy moment periodStart ms acts w₂ hop hlisted hpassed hrows =>
    -- What was acted on was monitored, and so INVITED.
    have hact : ∀ a ∈ acts, a.membership.tenantId = A →
        identityOf (a.membership.applied a.judgement.decision moment) =
          identityOf a.membership ∧
        Moves (op.passes = true ∧ B = A) (op.submits = true) a.membership
          (a.membership.applied a.judgement.decision moment) := by
      intro a ha hA
      obtain ⟨hmem, htenant, hmonitored⟩ := hlisted.mem (hpassed.membership_mem ha)
      have hinvited : a.membership.status = .invited := by
        rcases hknown _ hmem hA with hs | hs
        · exact hs
        · rw [hs] at hmonitored
          cases hmonitored
      obtain ⟨hid, hmoves⟩ :=
        moves_applied (op.submits = true) hinvited (hpassed.holds a ha).judged.decided
      have hB : B = A := htenant.symm.trans hA
      exact ⟨hid, hmoves.mono (fun _ => ⟨hop, hB⟩) id⟩
    refine ⟨fun m hm hA => ?_, fun m' hm' hA => .inl ?_⟩
    · refine ⟨finalRow (w.opened B) moment acts m, ?_, ?_⟩
      · rw [hrows, hpassed.rows]
        exact List.mem_map_of_mem hm
      · rcases hpassed.row_cases hlisted hm with ⟨heq, -⟩ | ⟨a, ha, rfl, heq⟩
        · rw [heq]
          exact ⟨rfl, hstay⟩
        · rw [heq]
          exact hact a ha hA
    · rw [hrows] at hm'
      obtain ⟨m, hm, -, hrow⟩ := hpassed.row_of_mem hlisted hm'
      rcases hrow with rfl | ⟨a, ha, rfl, rfl⟩
      · exact ⟨_, hm, rfl⟩
      · rw [(applied_id ..).2] at hA
        exact ⟨_, hm, (hact a ha hA).1.symm⟩
  | @granted tenantId ttl providerType market g w₁ calls hop hg hrows =>
    have hmem : ∀ m, m ∈ w'.db .vipMemberships ↔
        m = g.membership ∨ (m ∈ w.db .vipMemberships ∧ m.id ≠ g.membership.id) := by
      intro m
      rw [hrows]
      exact hg.memberships.mem_iff
    -- The row that is replaced, if there is one.
    have hreplaced : ∀ prior, g.prior = some prior → prior.tenantId = A →
        prior ∈ w.db .vipMemberships ∧ identityOf g.membership = identityOf prior ∧
          Moves (op.passes = true ∧ B = A) (op.submits = true) prior g.membership := by
      intro prior hprior hA
      have hup := hg.memberships
      rw [hprior] at hup
      have hold : prior ∈ w.db .vipMemberships := hup.prior_mem.1
      obtain ⟨-, hid, hmoves⟩ := hg.moves hprior (hknown prior hold hA)
      exact ⟨hold, hid, hmoves.mono False.elim fun _ => hop⟩
    refine ⟨fun m hm hA => ?_, fun m' hm' hA => ?_⟩
    · by_cases hid : m.id = g.membership.id
      · have hprior := hg.prior_eq (hw.opened tenantId) hm hid
        obtain ⟨-, hsame, hmoves⟩ := hreplaced m hprior hA
        exact ⟨g.membership, (hmem _).mpr (.inl rfl), hsame, hmoves⟩
      · exact ⟨m, (hmem m).mpr (.inr ⟨hm, hid⟩), rfl, hstay⟩
    · rcases (hmem m').mp hm' with rfl | ⟨hold, -⟩
      · cases hprior : g.prior with
        | none =>
          obtain ⟨-, hstatus, hcount⟩ := hg.begins hprior
          exact .inr ⟨hop, hstatus, hcount⟩
        | some prior =>
          have hfrom := hg.membership
          rw [hprior] at hfrom
          have htenant : prior.tenantId = A := by
            rw [hfrom.1, ← hA, hg.membership_facts.1]
          obtain ⟨hold, hsame, -⟩ := hreplaced prior hprior htenant
          exact .inl ⟨prior, hold, hsame.symm⟩
      · exact .inl ⟨m', hold, rfl⟩

/-- Moves lead from INVITED and REVOKED to INVITED and REVOKED. -/
theorem Moved.known {passes submits : Prop} (h : Moved passes submits A w.db w'.db)
    (hw' : w'.Sound) (hknown : Known A w.db) : Known A w'.db := by
  intro m' hm' hA
  rcases h.new m' hm' hA with ⟨m, hm, hid⟩ | ⟨-, hinvited, -⟩
  · have hfacts := hid
    simp only [identityOf, Prod.mk.injEq] at hfacts
    have htenant : m.tenantId = A := hfacts.2.1.trans hA
    obtain ⟨m'', hm'', hid', hmoves⟩ := h.kept m hm htenant
    have hsame : m'' = m' := by
      have hids : m''.id = m'.id := congrArg Prod.fst (hid'.trans hid)
      exact hw'.db.eq_of_clash (t := .vipMemberships) hm'' hm' (by simp [clash, hids])
    subst hsame
    cases hmoves with
    | stays hstatus _ =>
      rw [hstatus]
      exact hknown m hm htenant
    | revoked _ _ hstatus _ => exact .inr hstatus
    | readmitted _ _ hstatus _ => exact .inl hstatus
  · exact .inl hinvited

end Effects

/-! ## Over whole histories -/

/-- Operations of any tenants, one after the other, sweeps among them. -/
def Operated (G : World → Op → Choice → Prop) (key : EncryptionKey) (S : Settings) :
    World → World → Prop :=
  Relation.ReflTransGen fun w w' => ∃ A op r, Runs (serial G) (Operation.program key S A op) w r w'

section Histories

variable {G : World → Op → Choice → Prop} {key : EncryptionKey} {S : Settings}
  {A : TenantId} {w₀ w : World}

theorem Operated.known (h : Operated G key S w₀ w) (hsound : w₀.Sound) (h0 : Known A w₀.db) :
    w.Sound ∧ Known A w.db := by
  induction h with
  | refl => exact ⟨hsound, h0⟩
  | tail _ hlast ih =>
    obtain ⟨hw, hknown⟩ := ih
    obtain ⟨B, op, r, hruns⟩ := hlast
    have hw' := wp_sound (wp_sound_world _ _) hruns hw
    exact ⟨hw', ((Operation.memberships hw hruns).moved hw hknown).known hw' hknown⟩

/-- The session in which a submission of the tenant begins: of the rows, the user's may have
    been written. -/
structure Submitting (A : TenantId) (w w₁ : World) : Prop where
  sound : w₁.Sound
  same : (w.opened A).SameBut [.telegramUsers] w₁

/-- Where all memberships are INVITED or REVOKED, nobody is told to be a member already. -/
theorem not_alreadyMember {ttl : TimeDelta} {providerType : ProviderType} {telegramUserId : Int}
    {market : Market} {rawUid : String} {username firstName : Option String}
    {result : OnboardingResult} {w₁ w₂ : World} (hknown : Known A w.db)
    (hbegins : Submitting A w w₁)
    (h : Runs (serial G) (ReferralOnboardingService.submitUid ttl providerType A telegramUserId
      market rawUid username firstName) w₁ (.ok result) w₂) : result.outcome ≠ .alreadyMember := by
  have htenant : w₁.tenantId = A := hbegins.same.tenantId
  have hmemberships : w₁.view .vipMemberships = w.db .vipMemberships :=
    hbegins.same.view _ (by decide)
  have hmeets : Meets G (ReferralOnboardingService.submitUid ttl providerType w₁.tenantId
      telegramUserId market rawUid username firstName)
      (fun r w' => SubmitResult G ttl providerType market w₁ r w' ∧ Told telegramUserId r w')
      (fun _ => SubmitError G w₁) w₁ :=
    meets_submission hbegins.sound hbegins.same.conflict
  rw [htenant] at hmeets
  have hafter : SubmitResult G ttl providerType market w₁ result w₂ ∧
    Told telegramUserId result w₂ := wp_sound hmeets h
  obtain ⟨hresult, htold⟩ := hafter
  cases hresult with
  | quiet hlink _ =>
    -- Who is told to be a member is handed a link.
    intro hmember
    refine htold.outcome ?_ hlink
    rw [hmember]
    rfl
  | @granted g _ calls hg _ houtcome =>
    have hactive : g.base.status ≠ .active := by
      cases hprior : g.prior with
      | none => exact (hg.begins hprior).1
      | some prior =>
        have hup := hg.memberships
        have hfrom := hg.membership
        rw [hprior] at hup hfrom
        have hmem : prior ∈ w.db .vipMemberships := hmemberships ▸ hup.prior_mem.1
        exact (hg.moves hprior (hknown prior hmem (hfrom.1.trans htenant))).1
    rw [houtcome, if_neg hactive]
    exact nofun

/-- Whatever happens to a tenant that begins without memberships: each membership is INVITED
    or REVOKED; an operation leaves it what it is, and moves it from INVITED to REVOKED only as
    a pass of the tenant, and from nothing or REVOKED to INVITED only as a submission; and no
    submission answers that the user is a member already. -/
theorem membership_lifecycle (hsound : w₀.Sound)
    (hms : ∀ m ∈ w₀.db .vipMemberships, m.tenantId ≠ A) (h : Operated G key S w₀ w) :
    (∀ m ∈ w.db .vipMemberships, m.tenantId = A → m.status = .invited ∨ m.status = .revoked) ∧
    (∀ B op r w', Runs (serial G) (Operation.program key S B op) w r w' →
      Moved (op.passes = true ∧ B = A) (op.submits = true) A w.db w'.db) ∧
    (∀ ttl providerType telegramUserId market rawUid username firstName result w₁ w₂,
      Submitting A w w₁ →
      Runs (serial G) (ReferralOnboardingService.submitUid ttl providerType A telegramUserId
        market rawUid username firstName) w₁ (.ok result) w₂ →
      result.outcome ≠ .alreadyMember) := by
  obtain ⟨hw, hknown⟩ := h.known hsound fun m hm hA => absurd hA (hms m hm)
  refine ⟨hknown, fun B op r w' hruns => ?_, fun _ _ _ _ _ _ _ _ _ _ hbegins hruns => ?_⟩
  · exact (Operation.memberships hw hruns).moved hw hknown
  · exact not_alreadyMember hknown hbegins hruns

end Histories

/-! ## A member who leaves and returns -/

/-- No member is warned before the removal. -/
def strictSettings : Settings := { defaultSettings with policy := { maxWarnings := 0 } }

/-- What an operation of tenant 1 makes of a world in an environment. -/
def World.afterOperation (w : World) (env : World → Op → Choice) (op : Operation) : World :=
  (exec World.step env (op.program (.key some) strictSettings 1) w).2

def enrolledWorld : World :=
  hookedWorld.afterOperation welcomingEnv (.update "hook" (some uidMessage))

def leftWorld : World := enrolledWorld.afterOperation strangeEnv (.monitor none)

def rejoinedWorld : World :=
  leftWorld.afterOperation (calmEnv 150 fun uid => some (fundedCheck uid))
    (.update "hook" (some uidMessage))

/-- One row is INVITED, REVOKED and INVITED again. -/
theorem member_returns :
    (enrolledWorld.db .vipMemberships).map (·.status) = [.invited] ∧
      (leftWorld.db .vipMemberships).map (·.status) = [.revoked] ∧
      (rejoinedWorld.db .vipMemberships).map (·.status) = [.invited] ∧
      Moved False True 1 leftWorld.db rejoinedWorld.db := by
  have hoperated : Operated Anything (.key some) strictSettings hookedWorld leftWorld :=
    (Relation.ReflTransGen.single
      ⟨1, .update _ _, _, runs_anything (runs_only welcomingEnv _ hookedWorld)⟩).tail
      ⟨1, .monitor _, _, runs_anything (runs_only strangeEnv _ enrolledWorld)⟩
  have hreturns := runs_anything (runs_only (calmEnv 150 fun uid => some (fundedCheck uid))
    ((Operation.update "hook" (some uidMessage)).program (.key some) strictSettings 1)
    leftWorld)
  have hmoved := (membership_lifecycle (A := 1) sound_hookedWorld (fun _ h => nomatch h)
    hoperated).2.1 1 (.update "hook" (some uidMessage)) _ rejoinedWorld hreturns
  refine ⟨by decide +kernel, by decide +kernel, by decide +kernel, ?_⟩
  simpa [Operation.passes, Operation.submits] using hmoved

end VipChannel

/-
  VipChannel.Runs.Endings

  When a subscription ends.

  A pass that expires a subscription writes its own instant on the row.  A submission that
  lets the user in again sets the row to ACTIVE and leaves what the pass wrote, so that a
  running subscription has no end only where nobody comes back.

  A `Timeline` notes next to the world which instant the last pass had that wrote on each
  subscription.
-/
import VipChannel.Runs.Activities
import VipChannel.Runs.Grace

namespace VipChannel

open Lib MembershipMonitor

/-! ## The present of a pass -/

/-- A pass, and the instant it takes for the present: the one it is given, or its first
    reading of the clock. -/
inductive PassAt (G : World → Op → Choice → Prop) (S : Settings) (tenantId : TenantId)
    (w w' : World) : Option DateTime → DateTime → Prop
  | given {moment : DateTime} : Event.Steps G S (.pass tenantId (some moment)) w w' →
      PassAt G S tenantId w w' (some moment) moment
  | read {c : Choice} {r : Except PyError (Option MonitorReport)} :
      G (w.opened tenantId) .utcnow c →
      Runs (serial G)
        (closing (committed (run S.period S.policy tenantId (some (World.reading c)))))
        (({ w with clock := (World.reading c).utc } : World).opened tenantId) r w' →
      PassAt G S tenantId w w' none (World.reading c)

section PassAt

variable {G : World → Op → Choice → Prop} {S : Settings} {tenantId : TenantId} {w w' : World}
  {now : Option DateTime} {moment : DateTime}

/-- A pass has a present. -/
theorem passAt_of_steps (h : Event.Steps G S (.pass tenantId now) w w') :
    ∃ moment, PassAt G S tenantId w w' now moment := by
  cases now with
  | some moment => exact ⟨moment, .given h⟩
  | none =>
    obtain ⟨r, x, w₁, ⟨c, -, hopen⟩, hr⟩ := h
    cases hopen
    obtain ⟨x, w₂, ⟨c', hc', hread⟩, hrest⟩ := hr
    cases hread
    exact ⟨World.reading c', .read hc' hrest⟩

theorem PassAt.sound (h : PassAt G S tenantId w w' now moment) (hw : w.Sound) : w'.Sound := by
  cases h with
  | given hsteps => exact hsteps.sound hw
  | @read c r _ hruns =>
    have hopen : (({ w with clock := (World.reading c).utc } : World).opened tenantId).Sound :=
      ⟨hw.db, hw.db, hw.saved⟩
    exact wp_sound (wp_sound_world _ _) hruns hopen

/-- A subscription after a pass is as it was, or expired at the instant of the pass. -/
theorem PassAt.subscriptions (hw : w.Sound) (h : PassAt G S tenantId w w' now moment)
    {s : Subscription} (hs : s ∈ w'.db .subscriptions) :
    s ∈ w.db .subscriptions ∨ ∃ r ∈ w.db .subscriptions, s = r.expired moment := by
  have heffect : ∃ v : World, v.db = w.db ∧ PassEffect G S tenantId (some moment) v w' := by
    cases h with
    | given hsteps => exact ⟨w, rfl, pass_effect hw hsteps⟩
    | @read c r _ hruns =>
      let v : World := { w with clock := (World.reading c).utc }
      have hv : v.Sound := ⟨hw.db, hw.view, hw.saved⟩
      refine ⟨v, rfl, passEffect_of_end hv ?_⟩
      have hcommit : wp (serial G)
          (committed (run S.period S.policy tenantId (some (World.reading c))))
          (fun _ w' => TxEnd G
            (RunResult G S.period S.policy (some (World.reading c)) (v.opened tenantId))
            (fun _ => RunError G S.period S.policy (some (World.reading c)) (v.opened tenantId))
            w') (v.opened tenantId) :=
        wp_commit meets_run_opened fun _ _ _ hP w' hw' => hP w' hw'
      exact wp_sound (wp_closing (fun _ => TxEnd.close) hcommit) hruns
  obtain ⟨v, hdb, heffect⟩ := heffect
  cases heffect with
  | quiet hsame _ | lost _ _ _ hsame _ =>
    rw [hsame, hdb] at hs
    exact .inl hs
  | @committed moment' _ _ acts _ hstart hpassed hsame _ _ =>
    have hmoment : moment' = moment := by
      rcases hstart.moment_of with heq | ⟨hnone, -⟩
      · exact (Option.some.inj heq).symm
      · cases hnone
    rw [hsame _ (by decide), hpassed.subscription_rows] at hs
    obtain ⟨r, hr, rfl⟩ := List.mem_map.mp hs
    have hr' : r ∈ w.db .subscriptions := hdb ▸ hr
    split
    · exact .inr ⟨r, hr', by rw [hmoment]⟩
    · exact .inl hr'

end PassAt

/-! ## Instants on record -/

/-- The instants after a pass at `moment`: it wrote on the subscriptions that differ. -/
def stampsAfter (moment : DateTime) (d d' : Database) (stamps : RowId → Option DateTime)
    (id : RowId) : Option DateTime :=
  if (d' .subscriptions).any (fun s => s.id == id && !(d .subscriptions).contains s) then
    some moment
  else stamps id

/-- Activities one after the other, and the instant of the last pass that wrote on each
    subscription. -/
inductive Timeline (C : (World → Op → Choice → Prop) → World → Activity → Prop)
    (key : EncryptionKey) (S : Settings) (w₀ : World) : (RowId → Option DateTime) → World → Prop
  | start : Timeline C key S w₀ (fun _ => none) w₀
  | pass {stamps : RowId → Option DateTime} {w w' : World} {G : World → Op → Choice → Prop}
      {tenantId : TenantId} {now : Option DateTime} {moment : DateTime} :
      Timeline C key S w₀ stamps w → C G w (.operation tenantId (.monitor now)) →
      PassAt G S tenantId w w' now moment →
      Timeline C key S w₀ (stampsAfter moment w.db w'.db stamps) w'
  | other {stamps : RowId → Option DateTime} {w w' : World} {G : World → Op → Choice → Prop}
      {a : Activity} : Timeline C key S w₀ stamps w →
      (∀ tenantId now, a ≠ .operation tenantId (.monitor now)) → C G w a →
      Activity.Steps G key S a w w' → Timeline C key S w₀ stamps w'

/-- A subscription that has expired did so at the instant on record. -/
def Stamped (stamps : RowId → Option DateTime) (d : Database) : Prop :=
  ∀ s ∈ d .subscriptions, s.status = .expired →
    ∃ moment, stamps s.id = some moment ∧ s.endsAt = some moment

/-- A referral entitlement that runs has no end. -/
def Endless (d : Database) : Prop :=
  ∀ s ∈ d .subscriptions, s.status = .active → s.accessType = .referral → s.endsAt = none

/-- A subscription is a user's. -/
def Owned (d : Database) : Prop :=
  ∀ s ∈ d .subscriptions, ∃ u ∈ d .telegramUsers, u.id = s.userId ∧ u.tenantId = s.tenantId

section Passes

variable {G : World → Op → Choice → Prop} {S : Settings} {tenantId : TenantId} {w w' : World}
  {now : Option DateTime} {moment : DateTime} {stamps : RowId → Option DateTime}

/-- A row that was there before is the only one of its id, and not written on. -/
theorem stampsAfter_kept (hw' : w'.Sound) {s : Subscription} (hs : s ∈ w.db .subscriptions)
    (hs' : s ∈ w'.db .subscriptions) : stampsAfter moment w.db w'.db stamps s.id = stamps s.id := by
  unfold stampsAfter
  rw [if_neg]
  rw [List.any_eq_true]
  rintro ⟨r, hr, hwrote⟩
  simp only [Bool.and_eq_true, beq_iff_eq, Bool.not_eq_true'] at hwrote
  have heq : r = s :=
    hw'.db.eq_of_clash (t := .subscriptions) hr hs' (by simp [clash, hwrote.1])
  rw [heq, List.contains_iff_mem.mpr hs] at hwrote
  cases hwrote.2

theorem stampsAfter_written {s : Subscription} (hs : s ∉ w.db .subscriptions)
    (hs' : s ∈ w'.db .subscriptions) :
    stampsAfter moment w.db w'.db stamps s.id = some moment := by
  unfold stampsAfter
  rw [if_pos]
  rw [List.any_eq_true]
  exact ⟨s, hs', by simpa using hs⟩

theorem Stamped.pass (hw : w.Sound) (hw' : w'.Sound) (h : Stamped stamps w.db)
    (hpass : PassAt G S tenantId w w' now moment) :
    Stamped (stampsAfter moment w.db w'.db stamps) w'.db := by
  intro s hs hexpired
  by_cases hold : s ∈ w.db .subscriptions
  · obtain ⟨at_, hstamp, hends⟩ := h s hold hexpired
    exact ⟨at_, (stampsAfter_kept hw' hold hs).trans hstamp, hends⟩
  · rcases hpass.subscriptions hw hs with hkept | ⟨r, -, rfl⟩
    · exact absurd hkept hold
    · exact ⟨moment, stampsAfter_written hold hs, rfl⟩

theorem Endless.pass (hw : w.Sound) (h : Endless w.db)
    (hpass : PassAt G S tenantId w w' now moment) : Endless w'.db := by
  intro s hs hactive hreferral
  rcases hpass.subscriptions hw hs with hold | ⟨r, -, rfl⟩
  · exact h s hold hactive hreferral
  · cases hactive

end Passes

/-! ## Submissions -/

/-- The exchange may find the UID good enough for the market's program. -/
def MayQualify (G : World → Op → Choice → Prop) (d : Database) (tenantId : TenantId)
    (providerType : ProviderType) (s : Submission) : Prop :=
  ∃ config ∈ d .referralProgramConfigs, config.tenantId = tenantId ∧
    config.providerType = providerType ∧ config.market = s.market ∧ config.isActive = true ∧
    ∃ check verdict, Answerable G s.uid check ∧
      evaluateReferral check config.rules false = .ok verdict ∧ verdict.eligible = true

/-- The user had a subscription of the market that came to an end. -/
def Returns (d : Database) (tenantId : TenantId) (s : Submission) : Prop :=
  ∃ u ∈ d .telegramUsers, u.tenantId = tenantId ∧ u.telegramUserId = s.telegramUserId ∧
    ∃ sub ∈ d .subscriptions, sub.tenantId = tenantId ∧ sub.userId = u.id ∧
      sub.market = s.market ∧ sub.endsAt ≠ none

/-- No submission of the activity lets a user in again. -/
def NobodyReturns (G : World → Op → Choice → Prop) (w : World) (a : Activity) : Prop :=
  ∀ tenantId providerType s, a.Submits w tenantId providerType s →
    ¬ (MayQualify G w.db tenantId providerType s ∧ Returns w.db tenantId s)

section Submissions

variable {G : World → Op → Choice → Prop} {ttl : TimeDelta} {providerType : ProviderType}
  {s : Submission} {w w' : World}

/-- A submission leaves the subscriptions, or sets one of the user's to ACTIVE, or adds one. -/
theorem Submitted.subscriptions {r : OnboardingResult}
    (h : Submitted G ttl providerType s w r w') :
    w'.view .subscriptions = w.view .subscriptions ∨
    ∃ (a : Attempt) (w₁ : World) (sub : Subscription) (prior : Option Subscription),
      a.Holds G providerType s w w₁ ∧ a.verdict.eligible = true ∧
      a.user ∈ w'.view .telegramUsers ∧
      SubscriptionFrom w a.user.id s.market sub prior ∧
      Upsert Subscription.id (w.view .subscriptions) sub prior (w'.view .subscriptions) := by
  cases h with
  | invalid _ | notConfigured _ _ => exact .inl rfl
  | claimed _ _ hident _ _ _ _ _ => exact .inl (hident.same.view _ (by decide))
  | unavailable ha _ hsaved | rejected ha _ _ hsaved =>
    exact .inl ((hsaved.same.view _ (by decide)).trans (ha.identified.same.view _ (by decide)))
  | @granted a verifiedAt g w₁ w₂ _ _ ha helig hsaved hg hfor =>
    have hsubs : w₂.view .subscriptions = w.view .subscriptions :=
      (hsaved.same.view _ (by decide)).trans (ha.identified.same.view _ (by decide))
    have ht : w₂.tenantId = w.tenantId :=
      hsaved.same.tenantId.trans ha.identified.same.tenantId
    have hup := hg.subscriptions
    have hfrom := hg.subscription
    have huser : a.user ∈ w'.view .telegramUsers := by
      rw [hfor.users, hsaved.same.view _ (by decide)]
      exact ha.identified.users.mem_iff.mpr (.inl rfl)
    rw [hsubs] at hup
    refine .inr ⟨a, w₁, g.subscription, g.priorSubscription, ha, helig, huser, ?_, hup⟩
    unfold SubscriptionFrom at hfrom ⊢
    rw [hfor.userId_eq, hsubs, ht] at hfrom
    exact hfrom

theorem Submitted.stamped {r : OnboardingResult} {stamps : RowId → Option DateTime}
    (h : Submitted G ttl providerType s w r w') (hstamped : Stamped stamps w.view) :
    Stamped stamps w'.view := by
  rcases h.subscriptions with hsame | ⟨a, w₁, sub, prior, -, -, -, hfrom, hup⟩
  · intro r hr hexpired
    rw [hsame] at hr
    exact hstamped r hr hexpired
  · intro r hr hexpired
    rcases hup.mem_iff.mp hr with rfl | ⟨hold, -⟩
    · cases prior with
      | none =>
        obtain ⟨-, id, startsAt, rfl⟩ := hfrom
        cases hexpired
      | some prior =>
        obtain ⟨-, -, -, -, startsAt, rfl⟩ := hfrom
        cases hexpired
    · exact hstamped r hold hexpired

theorem Submitted.owned {r : OnboardingResult} (hw : w.Sound)
    (h : Submitted G ttl providerType s w r w') (howned : Owned w.view) : Owned w'.view := by
  have hkept : ∀ sub ∈ w.view .subscriptions, ∃ u ∈ w'.view .telegramUsers, u.id = sub.userId ∧
      u.tenantId = sub.tenantId := by
    intro sub hsub
    obtain ⟨u, hu, hid, ht⟩ := howned sub hsub
    obtain ⟨u', hu', hid', ht', -⟩ := h.keepsUsers hw u hu
    exact ⟨u', hu', hid'.trans hid, ht'.trans ht⟩
  rcases h.subscriptions with hsame | ⟨a, w₁, sub, prior, ha, -, huser, hfrom, hup⟩
  · intro sub hsub
    rw [hsame] at hsub
    exact hkept sub hsub
  · intro r hr
    rcases hup.mem_iff.mp hr with rfl | ⟨hold, -⟩
    · cases prior with
      | none =>
        obtain ⟨-, id, startsAt, rfl⟩ := hfrom
        exact ⟨a.user, huser, rfl, ha.identified.saved.2.1⟩
      | some prior =>
        obtain ⟨hmem, -, -, -, startsAt, rfl⟩ := hfrom
        exact hkept prior hmem
    · exact hkept r hold

/-- A new user has no subscription yet, and a known one none that has ended. -/
theorem Submitted.endless {r : OnboardingResult} (h : Submitted G ttl providerType s w r w')
    (hendless : Endless w.view) (howned : Owned w.view)
    (hnobody : ¬ (MayQualify G w.view w.tenantId providerType s ∧
      Returns w.view w.tenantId s)) : Endless w'.view := by
  rcases h.subscriptions with hsame | ⟨a, w₁, sub, prior, ha, helig, -, hfrom, hup⟩
  · intro r hr
    rw [hsame] at hr
    exact hendless r hr
  · intro r hr hactive hreferral
    rcases hup.mem_iff.mp hr with rfl | ⟨hold, -⟩
    swap
    · exact hendless r hold hactive hreferral
    cases prior with
    | none =>
      obtain ⟨-, id, startsAt, rfl⟩ := hfrom
      rfl
    | some prior =>
      obtain ⟨hmem, ht, hu, hm, startsAt, rfl⟩ := hfrom
      by_contra hends
      obtain ⟨hct, hcp, hcm, hca⟩ := ha.config_keys
      refine hnobody ⟨⟨a.config, ha.config_mem, hct, hcp, hcm, hca, a.check, a.verdict, ha.answer,
        ha.verdict, helig⟩, ?_⟩
      have huser := ha.identified.user_from
      have husers := ha.identified.users
      cases hprior : a.prior with
      | none =>
        rw [hprior] at husers
        obtain ⟨u, hmemu, hid, -⟩ := howned prior hmem
        exact absurd (hid.trans hu) (husers.fresh u hmemu)
      | some p =>
        rw [hprior] at huser husers
        obtain ⟨hpt, hpu, -⟩ := huser
        obtain ⟨hpm, hpid⟩ := husers.prior_mem
        exact ⟨p, hpm, hpt, hpu, prior, hmem, ht, hu.trans hpid.symm, hm, hends⟩

end Submissions

/-! ## Every state -/

section Timelines

variable {C : (World → Op → Choice → Prop) → World → Activity → Prop} {key : EncryptionKey}
  {S : Settings} {w₀ w : World} {stamps : RowId → Option DateTime}

/-- Whatever a chronicle reaches, a timeline reaches. -/
theorem Chronicle.timeline (h : Chronicle C key S w₀ w) :
    ∃ stamps, Timeline C key S w₀ stamps w := by
  induction h with
  | refl => exact ⟨_, .start⟩
  | @tail w w' _ hlast ih =>
    obtain ⟨stamps, htimeline⟩ := ih
    obtain ⟨G, a, hc, hsteps⟩ := hlast
    by_cases hpass : ∃ tenantId now, a = .operation tenantId (.monitor now)
    · obtain ⟨tenantId, now, rfl⟩ := hpass
      obtain ⟨-, r, hruns⟩ := hsteps
      obtain ⟨moment, hat⟩ := passAt_of_steps (S := S) (runs_named hruns)
      exact ⟨_, htimeline.pass hc hat⟩
    · exact ⟨stamps, htimeline.other (fun tenantId now heq => hpass ⟨tenantId, now, heq⟩) hc hsteps⟩

/-- Only a submission does more to the subscriptions than a pass. -/
theorem Activity.Steps.subscriptions {G : World → Op → Choice → Prop} {a : Activity} {w' : World}
    (hw : w.Sound) (hnot : ∀ tenantId now, a ≠ .operation tenantId (.monitor now))
    (h : a.Steps G key S w w') : w'.db .subscriptions = w.db .subscriptions ∨
      ∃ tenantId providerType s r w₁, a.Submits w tenantId providerType s ∧
        Submitted G S.ttl providerType s (w.opened tenantId) r w₁ ∧ w'.db = w₁.view := by
  cases a.effect hw h with
  | kept htables => exact .inl (htables _ (by decide))
  | submitted hsubmits hsubmitted hdb =>
    exact .inr ⟨_, _, _, _, _, hsubmits, hsubmitted, hdb⟩
  | passed heq _ => exact absurd heq (hnot _ _)

/-- An activity that is no pass leaves the expired subscriptions as they were stamped. -/
theorem Timeline.stamped (hsound : w₀.Sound) (hnone : w₀.db .subscriptions = [])
    (h : Timeline C key S w₀ stamps w) : w.Sound ∧ Stamped stamps w.db := by
  induction h with
  | start =>
    refine ⟨hsound, fun s hs => ?_⟩
    rw [hnone] at hs
    cases hs
  | @pass stamps w w' G tenantId now moment _ _ hpass ih =>
    obtain ⟨hw, hstamped⟩ := ih
    have hw' : w'.Sound := hpass.sound hw
    exact ⟨hw', hstamped.pass hw hw' hpass⟩
  | @other stamps w w' G a _ hnot _ hsteps ih =>
    obtain ⟨hw, hstamped⟩ := ih
    refine ⟨hsteps.sound hw, ?_⟩
    rcases hsteps.subscriptions hw hnot with hsame | ⟨_, _, _, _, w₁, -, hsubmitted, hdb⟩
    · intro s hs hexpired
      rw [hsame] at hs
      exact hstamped s hs hexpired
    · rw [hdb]
      exact hsubmitted.stamped hstamped

/-- While nobody returns, a referral entitlement that runs has no end. -/
theorem Chronicle.endless (hsound : w₀.Sound) (hnone : w₀.db .subscriptions = [])
    (h : Chronicle NobodyReturns key S w₀ w) : Endless w.db := by
  have hstart : Endless w₀.db ∧ Owned w₀.db := by
    refine ⟨fun s hs => ?_, fun s hs => ?_⟩
    · rw [hnone] at hs
      cases hs
    · rw [hnone] at hs
      cases hs
  refine (h.invariant (I := fun w => Endless w.db ∧ Owned w.db) hsound hstart ?_).2.1
  rintro G a w w' hw ⟨hendless, howned⟩ hnobody hsteps
  have husers := hsteps.keepsUsers hw
  cases a.effect hw hsteps with
  | kept htables =>
    have hsame := htables .subscriptions (by decide)
    refine ⟨fun s hs => ?_, fun s hs => ?_⟩
    · rw [hsame] at hs
      exact hendless s hs
    · rw [hsame] at hs
      obtain ⟨u, hu, hid, ht⟩ := howned s hs
      obtain ⟨u', hu', hid', ht', -⟩ := husers u hu
      exact ⟨u', hu', hid'.trans hid, ht'.trans ht⟩
  | submitted hsubmits hsubmitted hdb =>
    rw [hdb]
    exact ⟨hsubmitted.endless hendless howned (hnobody _ _ _ hsubmits),
      hsubmitted.owned (hw.opened _) howned⟩
  | passed _ hpass =>
    obtain ⟨moment, hat⟩ := passAt_of_steps hpass
    refine ⟨hendless.pass hw hat, fun s hs => ?_⟩
    have hold : ∃ r ∈ w.db .subscriptions, s.userId = r.userId ∧ s.tenantId = r.tenantId := by
      rcases hat.subscriptions hw hs with hs | ⟨r, hr, rfl⟩
      · exact ⟨s, hs, rfl, rfl⟩
      · exact ⟨r, hr, rfl, rfl⟩
    obtain ⟨r, hr, hru, hrt⟩ := hold
    obtain ⟨u, hu, hid, ht⟩ := howned r hr
    obtain ⟨u', hu', hid', ht', -⟩ := husers u hu
    exact ⟨u', hu', (hid'.trans hid).trans hru.symm, (ht'.trans ht).trans hrt.symm⟩

/-- In every state that is reached from one without subscriptions, an EXPIRED subscription
    ended at the instant of the last pass that wrote on it; and while no user returns whose
    subscription has ended, an ACTIVE one for a referral has no end. -/
theorem subscriptions_end_with_a_pass (hsound : w₀.Sound) (hnone : w₀.db .subscriptions = []) :
    (∀ w, Chronicle NobodyReturns key S w₀ w → Endless w.db) ∧
    ∀ w, Chronicle Whatever key S w₀ w → (∃ stamps, Timeline Whatever key S w₀ stamps w) ∧
      ∀ stamps, Timeline Whatever key S w₀ stamps w → Stamped stamps w.db :=
  ⟨fun _ h => h.endless hsound hnone, fun _ h =>
    ⟨h.timeline, fun _ htimeline => (htimeline.stamped hsound hnone).2⟩⟩

end Timelines

/-! ### Approved, removed and back -/

/-- A member is approved on day 100 and removed on day 221: nobody has returned. -/
theorem removal_ends_the_subscription :
    Endless removedWorld.db ∧
      (∃ stamps, Timeline Whatever (.key some) defaultSettings configuredWorld stamps removedWorld ∧
        Stamped stamps removedWorld.db) ∧
      (removedWorld.db .subscriptions).map (fun s => (s.status, s.endsAt)) =
        [(.expired, some (.day 221))] := by
  have hplays : ∀ C : (World → Op → Choice → Prop) → World → Activity → Prop,
      C Anything configuredWorld (secondSubmission.activity defaultSettings) →
      (∀ w, C Anything w (.operation 1 (.monitor none))) →
      Chronicle C (.key some) defaultSettings configuredWorld removedWorld := by
    intro C hsubmit hpass
    have hany : ∀ day answers w op, Anything w op (calmEnv day answers w op) :=
      fun _ _ _ _ => trivial
    have hone : Chronicle C (.key some) defaultSettings configuredWorld oneMarket :=
      Chronicle.play .refl (hany 100 typoAnswers) secondSubmission hsubmit
    have h₁ := hone.play (hany 200 strangerAnswers) (.pass 1 none) (hpass _)
    have h₂ := h₁.play (hany 207 strangerAnswers) (.pass 1 none) (hpass _)
    have h₃ := h₂.play (hany 214 strangerAnswers) (.pass 1 none) (hpass _)
    exact h₃.play (hany 221 strangerAnswers) (.pass 1 none) (hpass _)
  have hnobody : Chronicle NobodyReturns (.key some) defaultSettings configuredWorld
      removedWorld := by
    refine hplays _ ?_ fun w => ?_
    · rintro tenantId providerType s - ⟨-, u, hu, -⟩
      cases hu
    · rintro tenantId providerType s hsubmits
      exact hsubmits.elim
  have hchronicle : Chronicle Whatever (.key some) defaultSettings configuredWorld removedWorld :=
    hplays _ trivial fun _ => trivial
  have hendless := (subscriptions_end_with_a_pass initial_configuredWorld.sound rfl).1 _ hnobody
  obtain ⟨⟨stamps, htimeline⟩, hstamped⟩ :=
    (subscriptions_end_with_a_pass initial_configuredWorld.sound rfl).2 _ hchronicle
  exact ⟨hendless, ⟨stamps, htimeline, hstamped stamps htimeline⟩, by decide +kernel⟩

/-- The member who is back on day 230 has a running subscription that ended on day 221. -/
theorem return_keeps_the_end :
    Chronicle Whatever (.key some) defaultSettings configuredWorld returnedWorld ∧
      (returnedWorld.db .subscriptions).map (fun s => (s.status, s.accessType, s.endsAt)) =
        [(.active, .referral, some (.day 221))] ∧ ¬ Endless returnedWorld.db := by
  have hany : ∀ day answers w op, Anything w op (calmEnv day answers w op) :=
    fun _ _ _ _ => trivial
  have hone : Chronicle Whatever (.key some) defaultSettings configuredWorld oneMarket :=
    Chronicle.play .refl (hany 100 typoAnswers) secondSubmission trivial
  have h₁ := hone.play (hany 200 strangerAnswers) (.pass 1 none) trivial
  have h₂ := h₁.play (hany 207 strangerAnswers) (.pass 1 none) trivial
  have h₃ := h₂.play (hany 214 strangerAnswers) (.pass 1 none) trivial
  have h₄ := h₃.play (hany 221 strangerAnswers) (.pass 1 none) trivial
  have hrows : ∃ s ∈ returnedWorld.db .subscriptions, s.status = .active ∧
      s.accessType = .referral ∧ s.endsAt ≠ none := by decide +kernel
  refine ⟨h₄.play (hany 230 typoAnswers) secondSubmission trivial, by decide +kernel, ?_⟩
  intro h
  obtain ⟨s, hs, hactive, hreferral, hends⟩ := hrows
  exact hends (h s hs hactive hreferral)

end VipChannel

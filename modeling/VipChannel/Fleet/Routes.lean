/-
  VipChannel.Fleet.Routes

  One webhook route per tenant, though no constraint says so: whoever inserts one has looked
  for another, and holds the bot token's credential since before it looked.
-/
import VipChannel.Fleet.Consistency
import VipChannel.Persistence.SessionRules

namespace VipChannel

open Lib

namespace Shift

/-- Who inserts a webhook route owns the bot token's credential. -/
def OwnRoute (s : Shift) (c : Claim) : Prop :=
  ∀ token tenantId provider, c = .route token tenantId provider →
    tenantId = s.tenantId ∧ provider = "TELEGRAM" ∧ s.Owns (botTokenOf s.tenantId)

theorem Grows.ownRoute {s s' : Shift} {c : Claim} (h : s.Grows s') (hc : s.OwnRoute c) :
    s'.OwnRoute c := by
  intro token tenantId provider heq
  obtain ⟨htenant, hprovider, howns⟩ := hc token tenantId provider heq
  rw [h.tenantId]
  exact ⟨htenant, hprovider, h.owns howns⟩

/-- The routes a transaction has inserted or is about to, and what it has found out. -/
structure Routed (claimed : List Claim) (s : Shift) : Prop where
  pending : ∀ c ∈ s.pending, s.OwnRoute c
  held : ∀ c ∈ s.held, s.OwnRoute c
  /-- A savepoint keeps the credential along with the routes. -/
  saved : ∀ c ∈ s.saved.1,
    { s with held := s.saved.1, locked := s.saved.2 : Shift }.OwnRoute c
  /-- A lookup that found none is still right. -/
  vacant : s.Owns (botTokenOf s.tenantId) → ∀ cond ∈ s.vacant, ∀ token provider,
    .route token s.tenantId provider ∈ claimed ++ s.held ++ s.pending →
      cond { tenantId := s.tenantId, token, provider } = false

end Shift

namespace Fleet

/-- A row that is there, or is to be inserted. -/
def Somewhere {ι : Type} (f : Fleet ι) (c : Claim) : Prop :=
  f.Present c ∨ ∃ i, c ∈ (f.shifts i).pending

/-- A tenant has one webhook route at most, committed or not. -/
def OneRoute {ι : Type} (f : Fleet ι) : Prop :=
  ∀ tenantId token token', f.Somewhere (.route token tenantId "TELEGRAM") →
    f.Somewhere (.route token' tenantId "TELEGRAM") → token = token'

structure Routed {ι : Type} (f : Fleet ι) : Prop where
  each : ∀ i, (f.shifts i).Routed f.claimed
  one : f.OneRoute

end Fleet

/-! ## What a call does to a transaction -/

namespace Shift

variable {s : Shift} {d : Decision} {op : Op} {landed : Bool} {claimed : List Claim}

theorem pending_after {c : Claim} (h : c ∈ (s.after d op landed).pending) :
    (c ∈ s.pending ∧ op.Continues landed) ∨
      ∃ t row, op = .add t row ∧ rowClaim t row = some c := by
  cases op with
  | openSession | closeSession | rollback | rollbackToSavepoint => cases h
  | select | flush | releaseSavepoint | savepoint | commit =>
    cases landed with
    | false => exact .inl ⟨h, Op.continues id fun _ => rfl⟩
    | true => cases h
  | add t row =>
    rcases List.mem_append.mp h with h | h
    · exact .inl ⟨h, Op.continues id fun h => by cases h⟩
    · exact .inr ⟨t, row, rfl, by simpa using h⟩
  | update | telegram | utcnow | uuid4 | activeTenantIds | tenantsOfToken | tokenUrlsafe
  | encrypt | validateUser => exact .inl ⟨h, Op.continues id fun h => by cases h⟩

/-- Only a bot's request may add a webhook route. -/
theorem ownRoute_added {who : Option Enrolment} {t : Table} {row : Row t} {c : Claim}
    (hmay : s.May who (.add t row)) (hc : rowClaim t row = some c) : s.OwnRoute c := by
  rintro token tenantId provider rfl
  cases t with
  | webhookRoutes =>
    obtain ⟨htenant, hprovider, howns, -⟩ := hmay
    cases hc
    exact ⟨htenant, hprovider, howns⟩
  | telegramUsers | referralAccounts | jobExecutions | providerCredentials | subscriptions
  | vipMemberships | tradingActivitySnapshots | referralProgramConfigs | telegramChannels
  | telegramBotConfigs | paymentRecords => cases hc

theorem Routed.pending_after {who : Option Enrolment} (h : s.Routed claimed)
    (hmay : s.May who op) : ∀ c ∈ (s.after d op landed).pending,
      (s.after d op landed).OwnRoute c := by
  intro c hc
  rcases Shift.pending_after hc with ⟨hold, hcont⟩ | ⟨t, row, rfl, hrow⟩
  · exact (grows_after hcont).ownRoute (h.pending c hold)
  · exact (grows_after (Op.continues id fun h => by cases h)).ownRoute (ownRoute_added hmay hrow)

theorem Routed.held_after (h : s.Routed claimed) :
    ∀ c ∈ (s.after d op landed).held, (s.after d op landed).OwnRoute c := by
  intro c hc
  rcases Shift.held_after hc with ⟨hold, hcont⟩ | ⟨hpending, -, hcont⟩ | ⟨hsaved, rfl⟩
  · exact (grows_after hcont).ownRoute (h.held c hold)
  · exact (grows_after hcont).ownRoute (h.pending c hpending)
  · exact h.saved c hsaved

theorem Routed.saved_after (h : s.Routed claimed) : ∀ c ∈ (s.after d op landed).saved.1,
    { s.after d op landed with
      held := (s.after d op landed).saved.1, locked := (s.after d op landed).saved.2 :
        Shift }.OwnRoute c := by
  cases op with
  | openSession | closeSession | rollback => exact fun c hc => (List.not_mem_nil hc).elim
  | savepoint =>
    cases landed with
    | false => exact h.saved
    | true =>
      intro c hc
      rcases List.mem_append.mp hc with hc | hc
      · exact grows_flushed.ownRoute (h.held c hc)
      · exact grows_flushed.ownRoute (h.pending c hc)
  | commit =>
    cases landed with
    | false => exact h.saved
    | true => exact fun c hc => (List.not_mem_nil hc).elim
  | select | flush | releaseSavepoint => cases landed <;> exact h.saved
  | rollbackToSavepoint | add | update | telegram | utcnow | uuid4 | activeTenantIds
  | tenantsOfToken | tokenUrlsafe | encrypt | validateUser => exact h.saved

/-- What an earlier lookup needs to be worth something still: the transaction owns no more
    than it did, and has no more routes. -/
structure Idles (s s' : Shift) : Prop where
  owns : ∀ c, s'.Owns c → s.Owns c
  routes : ∀ token tenantId provider, .route token tenantId provider ∈ s'.held ++ s'.pending →
    .route token tenantId provider ∈ s.held ++ s.pending

theorem Idles.of_eq {s' : Shift} (hlocked : s'.locked = s.locked) (hheld : s'.held = s.held)
    (hpending : s'.pending = s.pending) : s.Idles s' := by
  refine ⟨fun c hc => ?_, fun token tenantId provider h => ?_⟩
  · rw [Owns, hlocked, hheld] at hc
    exact hc
  · rw [hheld, hpending] at h
    exact h

/-- A lookup outlives a flush that sends nothing. -/
theorem mem_flushed_vacant {cond : WebhookRoute → Bool} (h : cond ∈ s.flushed.vacant) :
    cond ∈ s.vacant ∧ s.Idles s.flushed := by
  simp only [flushed] at h
  split at h
  · next hempty =>
    refine ⟨h, .of_eq ?_ ?_ ?_⟩
    · show s.locked ++ s.waiting = s.locked
      rw [hempty.2, List.append_nil]
    · show s.held ++ s.pending = s.held
      rw [hempty.1, List.append_nil]
    · exact hempty.1.symm
  · cases h

theorem mem_looked {t : Table} {cond' : Row t → Bool} {cond : WebhookRoute → Bool}
    (h : cond ∈ s.flushed.looked t cond' (s.rows d t cond')) :
    cond ∈ s.flushed.vacant ∨ (Op.select t cond' = .select .webhookRoutes cond ∧
      s.rows d .webhookRoutes cond = []) := by
  cases t with
  | webhookRoutes =>
    cases hrows : s.rows d .webhookRoutes cond' with
    | nil =>
      rw [hrows] at h
      rcases List.mem_append.mp h with h | h
      · exact .inl h
      · rw [List.mem_singleton.mp h]
        exact .inr ⟨rfl, hrows⟩
    | cons r rest =>
      rw [hrows] at h
      exact .inl h
  | telegramUsers | referralAccounts | jobExecutions | providerCredentials | subscriptions
  | vipMemberships | tradingActivitySnapshots | referralProgramConfigs | telegramChannels
  | telegramBotConfigs | paymentRecords => exact .inl h

/-- A lookup is an earlier one that is still right, or it was made just now. -/
theorem vacant_after {cond : WebhookRoute → Bool} (h : cond ∈ (s.after d op landed).vacant) :
    (cond ∈ s.vacant ∧ op.Continues landed ∧ s.Idles (s.after d op landed)) ∨
      (op = .select .webhookRoutes cond ∧ landed = true ∧
        s.rows d .webhookRoutes cond = []) := by
  have hsame : s.Idles s := .of_eq rfl rfl rfl
  cases op with
  | openSession | closeSession | rollback | rollbackToSavepoint => cases h
  | commit =>
    cases landed with
    | false => exact .inl ⟨h, Op.continues id fun _ => rfl, hsame⟩
    | true => cases h
  | flush | releaseSavepoint | savepoint =>
    cases landed with
    | false => exact .inl ⟨h, Op.continues id fun _ => rfl, hsame⟩
    | true =>
      obtain ⟨hold, hidles⟩ := mem_flushed_vacant h
      exact .inl ⟨hold, Op.continues id (fun h => by cases h), hidles.owns, hidles.routes⟩
  | select t cond' =>
    cases landed with
    | false => exact .inl ⟨h, Op.continues id fun _ => rfl, hsame⟩
    | true =>
      rcases mem_looked h with h | ⟨hop, hnone⟩
      · obtain ⟨hold, hidles⟩ := mem_flushed_vacant h
        exact .inl ⟨hold, Op.continues id (fun h => by cases h), hidles.owns, hidles.routes⟩
      · exact .inr ⟨hop, rfl, hnone⟩
  | add t row =>
    have hcont : Op.Continues (.add t row) landed := Op.continues id fun h => by cases h
    by_cases ht : t = .webhookRoutes
    · simp [after, ht] at h
    · simp only [after, ht, if_false] at h
      refine .inl ⟨h, hcont, fun c hc => hc, fun token tenantId provider hroute => ?_⟩
      rcases List.mem_append.mp hroute with hroute | hroute
      · exact List.mem_append_left _ hroute
      rcases List.mem_append.mp hroute with hroute | hroute
      · exact List.mem_append_right _ hroute
      · have hclaim : rowClaim t row = some (.route token tenantId provider) := by
          simpa using hroute
        exact (ht (table_of_rowClaim hclaim).symm).elim
  | update | telegram =>
    exact .inl ⟨h, Op.continues id (fun h => by cases h), .of_eq rfl rfl rfl⟩
  | utcnow | uuid4 | activeTenantIds | tenantsOfToken | tokenUrlsafe | encrypt | validateUser =>
    exact .inl ⟨h, Op.continues id (fun h => by cases h), hsame⟩

end Shift

/-! ## One call -/

namespace Fleet

/-- A tenant's route that is not committed yet is its credential owner's. -/
theorem Routed.owner {ι : Type} {f : Fleet ι} {i : ι} (h : f.Routed) {tenantId : TenantId}
    {token provider : String}
    (hc : .route token tenantId provider ∈ (f.shifts i).held ++ (f.shifts i).pending) :
    tenantId = (f.shifts i).tenantId ∧ (f.shifts i).Owns (botTokenOf tenantId) := by
  rcases List.mem_append.mp hc with hc | hc
  · obtain ⟨rfl, -, howns⟩ := (h.each i).held _ hc token tenantId provider rfl
    exact ⟨rfl, howns⟩
  · obtain ⟨rfl, -, howns⟩ := (h.each i).pending _ hc token tenantId provider rfl
    exact ⟨rfl, howns⟩

section Step

variable {ι : Type} [DecidableEq ι] {who : ι → Option Enrolment} {f : Fleet ι} {i : ι}
  {d : Decision} {op : Op} {landed : Bool}

/-- Two transactions do not own one row. -/
theorem Consistent.owner_unique {j : ι} {c : Claim} (h : f.Consistent who)
    (hi : (f.shifts i).Owns c) (hj : (f.shifts j).Owns c) : j = i := by
  by_contra hne
  rcases hi with hi | hi
  · obtain ⟨hlocked, hheld⟩ := h.locks i c hi j hne
    exact hj.elim hlocked hheld
  · rcases hj with hj | hj
    · exact (h.locks j c hj i (Ne.symm hne)).2 hi
    · exact (h.apart i c hi).2 j hne hj

/-- What was looked up before is still right after another instance's call. -/
theorem vacant_other (hc : f.Consistent who) (h : f.Routed) {j : ι} (hj : j ≠ i)
    (howns : (f.shifts j).Owns (botTokenOf (f.shifts j).tenantId)) {cond : WebhookRoute → Bool}
    (hcond : cond ∈ (f.shifts j).vacant) {token provider : String}
    (hroute : .route token (f.shifts j).tenantId provider ∈
      (f.after i d op landed).claimed ++ (f.shifts j).held ++ (f.shifts j).pending) :
    cond { tenantId := (f.shifts j).tenantId, token, provider } = false := by
  refine (h.each j).vacant howns cond hcond token provider ?_
  rw [List.append_assoc] at hroute ⊢
  rcases List.mem_append.mp hroute with hroute | hroute
  · rcases claimed_after hroute with hold | ⟨-, hnew⟩
    · exact List.mem_append_left _ hold
    · obtain ⟨-, hothers⟩ := h.owner (i := i) (List.mem_append.mpr hnew)
      exact (hj (hc.owner_unique hothers howns)).elim
  · exact List.mem_append_right _ hroute

/-- And after its own. -/
theorem vacant_self (h : f.Routed) (hadmits : f.Admits i d op landed)
    (howns : ((f.shifts i).after d op landed).Owns
      (botTokenOf ((f.shifts i).after d op landed).tenantId))
    {cond : WebhookRoute → Bool} (hcond : cond ∈ ((f.shifts i).after d op landed).vacant)
    {token provider : String}
    (hroute : .route token ((f.shifts i).after d op landed).tenantId provider ∈
      (f.after i d op landed).claimed ++ ((f.shifts i).after d op landed).held ++
        ((f.shifts i).after d op landed).pending) :
    cond { tenantId := ((f.shifts i).after d op landed).tenantId, token, provider } = false := by
  rcases Shift.vacant_after hcond with ⟨hold, hcont, hidles⟩ | ⟨rfl, rfl, hnone⟩
  · have htenant := (Shift.grows_after (d := d) hcont (s := f.shifts i)).tenantId
    rw [htenant] at howns hroute ⊢
    refine (h.each i).vacant (hidles.owns _ howns) cond hold token provider ?_
    rw [List.append_assoc] at hroute ⊢
    rcases List.mem_append.mp hroute with hroute | hroute
    · rcases claimed_after hroute with hclaimed | ⟨hcommit, -⟩
      · exact List.mem_append_left _ hclaimed
      · exact (hcont.2 hcommit).elim
    · exact List.mem_append_right _ (hidles.routes _ _ _ hroute)
  · -- What was there to see would have been seen.
    have hvisible : .route token (f.shifts i).tenantId provider ∈ f.visible i := by
      rw [after_claimed fun h => by cases h] at hroute
      simpa [visible, Shift.after, Shift.read, Shift.flushed] using hroute
    obtain ⟨r, hr, hclaim⟩ := (hadmits.shown _ _ rfl rfl).complete _ hvisible rfl
    have heq : r = { tenantId := (f.shifts i).tenantId, token, provider } := by
      cases r
      cases hclaim
      rfl
    subst heq
    show cond { tenantId := (f.shifts i).tenantId, token, provider } = false
    by_contra htrue
    have hmem := Shift.mem_rows.mpr ⟨hr, rfl, Bool.not_eq_false _ ▸ htrue⟩
    rw [hnone] at hmem
    cases hmem

/-- Where a row comes from. -/
theorem somewhere_after (h : f.Consistent who) (hadmits : f.Admits i d op landed) {c : Claim}
    (hc : (f.after i d op landed).Somewhere c) :
    f.Somewhere c ∨ ∃ t row, op = .add t row ∧ rowClaim t row = some c := by
  rcases hc with hc | ⟨j, hc⟩
  · rcases present_after h hadmits hc with hc | ⟨hpending, -⟩
    · exact .inl (.inl hc)
    · exact .inl (.inr ⟨i, hpending⟩)
  · by_cases hj : j = i
    · subst hj
      rw [after_shift_self] at hc
      rcases Shift.pending_after hc with ⟨hold, -⟩ | hadd
      · exact .inl (.inr ⟨j, hold⟩)
      · exact .inr hadd
    · rw [after_shift_other hj] at hc
      exact .inl (.inr ⟨j, hc⟩)

/-- Who may insert a route is the only one who has one for the tenant. -/
theorem not_somewhere (hc : f.Consistent who) (h : f.Routed) {row : WebhookRoute}
    (hmay : (f.shifts i).May (who i) (.add .webhookRoutes row)) (token : String) :
    ¬ f.Somewhere (.route token row.tenantId "TELEGRAM") := by
  obtain ⟨htenant, -, howns, cond, hcond, hall⟩ := hmay
  rw [htenant]
  have hnone : ∀ {c}, c = .route token (f.shifts i).tenantId "TELEGRAM" →
      c ∉ f.claimed ++ (f.shifts i).held ++ (f.shifts i).pending := by
    rintro c rfl hmem
    have hfalse := (h.each i).vacant howns cond hcond token "TELEGRAM" hmem
    rw [hall _ rfl rfl] at hfalse
    cases hfalse
  have hmine : ∀ j, .route token (f.shifts i).tenantId "TELEGRAM" ∈
      (f.shifts j).held ++ (f.shifts j).pending → False := by
    intro j hmem
    obtain ⟨-, hother⟩ := h.owner hmem
    obtain rfl := hc.owner_unique howns hother
    rw [List.append_assoc] at hnone
    exact hnone rfl (List.mem_append_right _ hmem)
  rintro ((hmem | ⟨j, hmem⟩) | ⟨j, hmem⟩)
  · exact hnone rfl (List.mem_append_left _ (List.mem_append_left _ hmem))
  · exact hmine j (List.mem_append_left _ hmem)
  · exact hmine j (List.mem_append_right _ hmem)

theorem oneRoute_after (hc : f.Consistent who) (h : f.Routed) (hadmits : f.Admits i d op landed)
    (hmay : (f.shifts i).May (who i) op) : (f.after i d op landed).OneRoute := by
  have hnew : ∀ {t row token tenantId}, op = .add t row →
      rowClaim t row = some (.route token tenantId "TELEGRAM") →
      ∀ token', ¬ f.Somewhere (.route token' tenantId "TELEGRAM") := by
    rintro t row token tenantId rfl hrow
    obtain rfl := table_of_rowClaim hrow
    have htenant : tenantId = row.tenantId := by
      injection hrow with hrow
      injection hrow with _ htenant
      exact htenant.symm
    rw [htenant]
    exact not_somewhere hc h hmay
  intro tenantId token token' h₁ h₂
  rcases somewhere_after hc hadmits h₁ with h₁ | ⟨t, row, hop, hrow⟩
  · rcases somewhere_after hc hadmits h₂ with h₂ | ⟨t', row', hop', hrow'⟩
    · exact h.one tenantId token token' h₁ h₂
    · exact (hnew hop' hrow' token h₁).elim
  · rcases somewhere_after hc hadmits h₂ with h₂ | ⟨t', row', hop', hrow'⟩
    · exact (hnew hop hrow token' h₂).elim
    · rw [hop] at hop'
      cases hop'
      rw [hrow] at hrow'
      cases hrow'
      rfl

/-- Routes stay single, whatever an instance may do. -/
theorem Routed.after (h : f.Routed) (hc : f.Consistent who) (hadmits : f.Admits i d op landed)
    (hmay : (f.shifts i).May (who i) op) : (f.after i d op landed).Routed where
  each j := by
    by_cases hj : j = i
    · subst hj
      rw [after_shift_self]
      refine ⟨(h.each j).pending_after hmay, (h.each j).held_after, (h.each j).saved_after, ?_⟩
      exact fun howns cond hcond token provider => vacant_self h hadmits howns hcond
    · rw [after_shift_other hj]
      refine ⟨(h.each j).pending, (h.each j).held, (h.each j).saved, ?_⟩
      exact fun howns cond hcond token provider => vacant_other hc h hj howns hcond
  one := oneRoute_after hc h hadmits hmay

end Step

/-- A lookup of a tenant's route finds one at most. -/
theorem Routed.lookup {ι : Type} {f : Fleet ι} {i : ι} {d : Decision} {op : Op}
    {landed : Bool} (h : f.Routed) (hadmits : f.Admits i d op landed)
    {cond : WebhookRoute → Bool} (hop : op = .select .webhookRoutes cond) (hlanded : landed = true)
    (hcond : ∀ r, cond r = true → r.provider = "TELEGRAM") :
    ((f.shifts i).rows d .webhookRoutes cond).length ≤ 1 := by
  subst hop
  have hsome : ∀ r ∈ (f.shifts i).rows d .webhookRoutes cond,
      f.Somewhere (.route r.token (f.shifts i).tenantId "TELEGRAM") := by
    intro r hr
    obtain ⟨hshown, htenant, hmatch⟩ := Shift.mem_rows.mp hr
    have hvisible := (hadmits.shown _ _ rfl hlanded).sound r hshown _ rfl
    rw [hcond r hmatch] at hvisible
    have htenant : r.tenantId = (f.shifts i).tenantId := htenant
    rw [htenant] at hvisible
    rcases List.mem_append.mp hvisible with hmem | hmem
    · exact .inl (.inl hmem)
    · rcases List.mem_append.mp hmem with hmem | hmem
      · exact .inl (.inr ⟨i, hmem⟩)
      · exact .inr ⟨i, hmem⟩
  have hdistinct : ((f.shifts i).rows d .webhookRoutes cond).Pairwise
      fun r r' => clash .webhookRoutes r r' = false := by
    have hshown := hadmits.local_
    have hfiltered := List.Pairwise.filter
      (fun r => rowTenant .webhookRoutes r == (f.shifts i).tenantId && cond r) hshown
    refine (pick_perm _ _).symm.pairwise hfiltered fun {a b} hab => ?_
    rw [clash_comm]
    exact hab
  match hrows : (f.shifts i).rows d .webhookRoutes cond with
  | [] => exact Nat.zero_le 1
  | [r] => exact Nat.le_refl 1
  | r :: r' :: rest =>
    exfalso
    rw [hrows] at hsome hdistinct
    have htoken := h.one _ _ _ (hsome r List.mem_cons_self)
      (hsome r' (List.mem_cons_of_mem _ List.mem_cons_self))
    have hno := (List.pairwise_cons.mp hdistinct).1 r' List.mem_cons_self
    simp [clash, htoken] at hno

theorem Idle.routed {ι : Type} {f : Fleet ι} (h : f.Idle)
    (hone : ∀ tenantId token token', .route token tenantId "TELEGRAM" ∈ f.claimed →
      .route token' tenantId "TELEGRAM" ∈ f.claimed → token = token') : f.Routed where
  each i := by
    rw [h.shifts i]
    exact ⟨fun _ hc => (List.not_mem_nil hc).elim, fun _ hc => (List.not_mem_nil hc).elim,
      fun _ hc => (List.not_mem_nil hc).elim, fun _ _ hc => (List.not_mem_nil hc).elim⟩
  one tenantId token token' h₁ h₂ := by
    have hclaimed : ∀ c, f.Somewhere c → c ∈ f.claimed := by
      rintro c ((hc | ⟨i, hc⟩) | ⟨i, hc⟩)
      · exact hc
      · rw [h.shifts i] at hc
        cases hc
      · rw [h.shifts i] at hc
        cases hc
    exact hone tenantId token token' (hclaimed _ h₁) (hclaimed _ h₂)

end Fleet

end VipChannel

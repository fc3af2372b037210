/-
  VipChannel.Runs.Verdicts

  What an outage of the exchange leaves of an account's verdict.

  Only a submission writes the verdict's columns.  An outage during one makes the account
  UNVERIFIED, and nothing else: a verdict that stood does not survive it, and the reason of
  a rejection does.
-/
import VipChannel.Runs.Activities

namespace VipChannel

open Lib MembershipMonitor
open ReferralOnboardingService

/-! ## Passes -/

/-- The columns of the verdict. -/
def verdictColumns (r : ReferralAccount) :
    RowId × ReferralAccountStatus × Option DateTime × Option String :=
  (r.id, r.status, r.verifiedAt, r.rejectionReason)

section Passes

variable {G : World → Op → Choice → Prop} {policy : CompliancePolicy}
  {periodStart moment : DateTime} {w w' : World} {S : Settings} {tenantId : TenantId}

/-- What a check of the monitor leaves of an account. -/
def Untold {β : Type} (f : ReferralAccount → β) : Prop :=
  ∀ check verdict moment r, f (recordVerdict check verdict moment r) = f r

theorem StepResult.accounts {β : Type} {f : ReferralAccount → β} (hf : Untold f)
    {report r : MonitorReport} {m : VIPMembership}
    (h : StepResult G policy periodStart moment report w m r w') :
    (w'.view .referralAccounts).map f = (w.view .referralAccounts).map f := by
  rcases h with ⟨-, rfl⟩ | ⟨j, x, -, -, rfl, -⟩
  · rfl
  · rw [view_outcome_accounts, map_modifyRows (hf j.check j.verdict moment)]

theorem Steps.accounts {β : Type} {f : ReferralAccount → β} (hf : Untold f)
    {r r' : MonitorReport} {ms : List VIPMembership}
    (h : Steps G policy periodStart moment w r ms r' w') :
    (w'.view .referralAccounts).map f = (w.view .referralAccounts).map f := by
  induction h with
  | done => rfl
  | next hstep _ _ ih => exact ih.trans (hstep.accounts hf)

/-- The steps of a pass commit nothing. -/
theorem Steps.db {r r' : MonitorReport} {ms : List VIPMembership}
    (h : Steps G policy periodStart moment w r ms r' w') : w'.db = w.db := by
  obtain ⟨acts, hacts⟩ := h.passed (Passed.start ⟨fun _ _ => rfl, rfl, rfl⟩)
  exact congrArg Ledger.db hacts.ledger

theorem RunError.db {now : Option DateTime} {period : TimeDelta} {l : Ledger}
    (h : RunError G period policy now w l) : l.db = w.db := by
  rcases h with rfl | ⟨_, _, w₁, _, hstart, _, _, _, w₂, -, hdone, hend⟩
  · rfl
  · have hdb : w₂.db = w.db :=
      hdone.db.trans (congrArg Ledger.db hstart.claimed.same.ledger)
    rcases hend with rfl | ⟨_, -, _, rfl, -⟩
    · exact hdb
    · exact hdb

/-- A run that returns has committed nothing. -/
theorem RunResult.accounts {β : Type} {f : ReferralAccount → β} (hf : Untold f)
    {now : Option DateTime} {period : TimeDelta} {r : MonitorReport}
    (h : RunResult G period policy now w r w') :
    (w'.view .referralAccounts).map f = (w.view .referralAccounts).map f ∧ w'.db = w.db := by
  cases h with
  | standDown hsame _ => exact ⟨by rw [hsame.view _ (by decide)], congrArg Ledger.db hsame.ledger⟩
  | ran hstart hsteps hsame _ =>
    have hclaimed := hstart.claimed.same
    refine ⟨?_, ?_⟩
    · rw [hsame.view _ (by decide), hsteps.accounts hf, hclaimed.view _ (by decide)]
    · exact ((congrArg Ledger.db hsame.ledger).trans hsteps.db).trans
        (congrArg Ledger.db hclaimed.ledger)

/-- A pass leaves of the accounts what its checks do not tell. -/
theorem pass_accounts {β : Type} {f : ReferralAccount → β} (hf : Untold f)
    {now : Option DateTime} (h : Event.Steps G S (.pass tenantId now) w w') :
    (w'.db .referralAccounts).map f = (w.db .referralAccounts).map f := by
  obtain ⟨r, hruns⟩ := h
  cases wp_sound (wp_transaction (G := G) meets_run_opened) hruns with
  | failed e he =>
    have hdb : w'.db = w.db := RunError.db he
    rw [hdb]
  | committed report w₁ hq _ hl _ =>
    have hdb : w'.db = w₁.view := congrArg Ledger.db hl
    rw [hdb]
    exact (hq.accounts hf).1
  | uncommitted report w₁ hq _ hl =>
    have hdb : w'.db = w.db := (congrArg Ledger.db hl).trans (hq.accounts hf).2
    rw [hdb]

/-- A pass records what it was told next to the verdict, not over it. -/
theorem pass_verdicts {now : Option DateTime} (h : Event.Steps G S (.pass tenantId now) w w') :
    (w'.db .referralAccounts).map verdictColumns =
      (w.db .referralAccounts).map verdictColumns :=
  pass_accounts (fun _ _ _ _ => rfl) h

end Passes

/-! ## Submissions -/

/-- A reason is on record exactly for the accounts that are rejected. -/
def Marked (d : Database) : Prop :=
  ∀ r ∈ d .referralAccounts, r.rejectionReason ≠ none ↔ r.status = .rejected

section Submissions

variable {G : World → Op → Choice → Prop} {ttl : TimeDelta} {providerType : ProviderType}
  {s : Submission} {w w' w₁ : World}

/-- At sign-up, the verdict is an outage's exactly when there was no answer. -/
theorem evaluateReferral_unavailable {check : Option ReferralCheck} {rules : ReferralRules}
    {v : EligibilityVerdict} (h : evaluateReferral check rules false = .ok v) :
    v.reason = .providerUnavailable ↔ check = none := by
  cases check with
  | none =>
    rw [evaluateReferral_none] at h
    cases h
    exact iff_of_true rfl rfl
  | some c =>
    refine iff_of_false (fun hreason => ?_) (Option.some_ne_none c)
    by_cases hreg : c.registered = true
    swap
    · simp only [evaluateReferral, hreg, Bool.not_false, if_true, Except.ok.injEq] at h
      rw [← h] at hreason
      cases hreason
    cases hlt : c.depositTotal.lt rules.minimumBalance with
    | error e => simp [evaluateReferral, hreg, hlt, trap, bind, Except.bind] at h
    | ok short =>
      cases short with
      | false =>
        rw [evaluateReferral_funded hreg hlt] at h
        cases h
        cases hreason
      | true =>
        cases hs : rules.minimumBalance.sub c.depositTotal with
        | error e => simp [evaluateReferral, hreg, hlt, hs, trap, bind, Except.bind] at h
        | ok d =>
          simp only [evaluateReferral, hreg, hlt, hs, trap, bind, Except.bind, Bool.not_true,
            Bool.false_eq_true, if_false, if_true, pure, Except.pure, Except.ok.injEq] at h
          rw [← h] at hreason
          cases hreason

/-- An account that is saved with a reason exactly if it is rejected. -/
theorem Marked.saved {d d' : Database} {row : ReferralAccount} {prior : Option ReferralAccount}
    (h : Marked d) (hrow : row.rejectionReason ≠ none ↔ row.status = .rejected)
    (hup : Upsert ReferralAccount.id (d .referralAccounts) row prior (d' .referralAccounts)) :
    Marked d' := by
  intro r hr
  rcases hup.mem_iff.mp hr with rfl | ⟨hold, -⟩
  · exact hrow
  · exact h r hold

theorem Marked.congr {d d' : Database} (h : Marked d)
    (haccounts : d' .referralAccounts = d .referralAccounts) : Marked d' := by
  intro r hr
  rw [haccounts] at hr
  exact h r hr

/-- The account a verdict is recorded on is that of the UID, or new. -/
theorem Attempt.Holds.base_from {a : Attempt} {row : ReferralAccount}
    (ha : a.Holds G providerType s w w₁) (hsaved : AccountSaved w₁ row a.claimed w') :
    (a.claimed = some a.base ∧ a.base ∈ w.view .referralAccounts ∧
      a.base.tenantId = w.tenantId ∧ a.base.providerType = providerType ∧ a.base.uid = s.uid ∧
      a.base.userId = a.user.id) ∨
    (a.claimed = none ∧ a.base.status = .unverified ∧ a.base.rejectionReason = none ∧
      ∀ r ∈ w.view .referralAccounts,
        ¬ (r.tenantId = w.tenantId ∧ r.providerType = providerType ∧ r.uid = s.uid)) := by
  have hfrom := ha.account
  have hup := hsaved.accounts
  cases hclaimed : a.claimed with
  | some claimed =>
    rw [hclaimed] at hfrom hup
    obtain ⟨ht, hp, hu, huser, hbase⟩ := hfrom
    have hmem := hup.prior_mem.1
    rw [ha.identified.same.view _ (by decide)] at hmem
    rw [hbase]
    exact .inl ⟨rfl, hmem, ht, hp, hu, huser⟩
  | none =>
    rw [hclaimed] at hfrom
    obtain ⟨hno, id, hbase⟩ := hfrom
    rw [hbase]
    exact .inr ⟨rfl, rfl, rfl, hno⟩

/-- A submission marks the accounts it rejects, and an outage leaves the mark of one that was
    rejected before. -/
theorem Submitted.marked {r : OnboardingResult} (hmarked : Marked w.view)
    (h : Submitted G ttl providerType s w r w')
    (hspared : Answerable G s.uid none → ∀ r ∈ w.view .referralAccounts,
      r.tenantId = w.tenantId → r.providerType = providerType → r.uid = s.uid →
      r.status ≠ .rejected) : Marked w'.view := by
  have hbefore : ∀ {a : Attempt} {w₁ : World}, a.Holds G providerType s w w₁ → Marked w₁.view :=
    fun ha => hmarked.congr (ha.identified.same.view _ (by decide))
  cases h with
  | invalid _ | notConfigured _ _ => exact hmarked
  | claimed _ _ hident _ _ _ _ _ => exact hmarked.congr (hident.same.view _ (by decide))
  | @unavailable a _ _ ha hreason hsaved =>
    have hstatus : a.unavailable.status ≠ .rejected := fun h => by cases h
    refine (hbefore ha).saved (iff_of_false ?_ hstatus) hsaved.accounts
    have hanswer := ha.answer
    rw [(evaluateReferral_unavailable ha.verdict).mp hreason] at hanswer
    show ¬ a.base.rejectionReason ≠ none
    rcases ha.base_from hsaved with ⟨-, hmem, ht, hp, hu, -⟩ | ⟨-, -, hnone, -⟩
    · exact fun h => hspared hanswer a.base hmem ht hp hu ((hmarked a.base hmem).mp h)
    · exact not_not_intro hnone
  | rejected ha _ _ hsaved =>
    exact (hbefore ha).saved (iff_of_true (Option.some_ne_none _) rfl) hsaved.accounts
  | @granted a verifiedAt _ _ _ _ _ ha _ hsaved _ hfor =>
    have hstatus : (a.verified verifiedAt).status ≠ .rejected := fun h => by cases h
    have hm := (hbefore ha).saved (iff_of_false (not_not_intro rfl) hstatus) hsaved.accounts
    exact hm.congr hfor.accounts

end Submissions

/-! ## Outages -/

/-- No submission of the activity meets an outage on an account that is rejected. -/
def SparesRejected (G : World → Op → Choice → Prop) (w : World) (a : Activity) : Prop :=
  ∀ tenantId providerType s, a.Submits w tenantId providerType s → Answerable G s.uid none →
    ∀ r ∈ w.db .referralAccounts, r.tenantId = tenantId → r.providerType = providerType →
      r.uid = s.uid → r.status ≠ .rejected

/-- The exchange is asked about the account, which is that of whoever submits. -/
structure AskedAbout (w : World) (tenantId : TenantId) (providerType : ProviderType)
    (s : Submission) (account : ReferralAccount) : Prop where
  mem : account ∈ w.db .referralAccounts
  keys : account.tenantId = tenantId ∧ account.providerType = providerType ∧ account.uid = s.uid
  owner : ∃ user ∈ w.db .telegramUsers, user.tenantId = tenantId ∧
    user.telegramUserId = s.telegramUserId ∧ user.id = account.userId
  valid : isValidBitunixUid s.uid = true
  ready : w.db.Ready tenantId providerType s.market

/-- Of the account only the compliance state and the time of the check have changed, and of
    memberships and subscriptions nothing. -/
structure VerdictStands (d d' : Database) (account : ReferralAccount) : Prop where
  account : ∃ complianceState lastCheckedAt, Upsert ReferralAccount.id (d .referralAccounts)
    { account with complianceState, lastCheckedAt } (some account) (d' .referralAccounts)
  memberships : d' .vipMemberships = d .vipMemberships
  subscriptions : d' .subscriptions = d .subscriptions

section Outages

variable {G : World → Op → Choice → Prop} {key : EncryptionKey} {S : Settings}
  {tenantId : TenantId} {providerType : ProviderType} {s : Submission}
  {account : ReferralAccount} {w w' : World}

/-- A row of the user is the one a submission finds. -/
theorem Identified.eq_owner {user : TelegramUser} {prior : Option TelegramUser} {userId : RowId}
    (hw : w.Sound) (h : Identified w s user prior w')
    (howner : ∃ r ∈ w.view .telegramUsers, r.tenantId = w.tenantId ∧
      r.telegramUserId = s.telegramUserId ∧ r.id = userId) : user.id = userId := by
  obtain ⟨r, hr, ht, hu, hid⟩ := howner
  have hfrom := h.user_from
  have hup := h.users
  cases prior with
  | none => exact absurd ⟨ht, hu⟩ (hfrom.1 r hr)
  | some p =>
    obtain ⟨hpt, hpu, heq⟩ := hfrom
    have hsame : r = p := hw.view.eq_of_clash (t := .telegramUsers) hr hup.prior_mem.1
      (by simp [clash, ht, hu, hpt, hpu])
    rw [heq, ← hid, hsame]
    rfl

/-- A submission that meets an outage makes the account UNVERIFIED. -/
theorem Submitted.outage {ttl : TimeDelta} {r : OnboardingResult} {w₁ : World} (hw : w.Sound)
    (hasked : AskedAbout w tenantId providerType s account)
    (hdown : ∀ check, Answerable G s.uid check → check = none)
    (h : Submitted G ttl providerType s (w.opened tenantId) r w₁) :
    r.outcome = .providerUnavailable ∧ ∃ complianceState lastCheckedAt,
      Upsert ReferralAccount.id (w.db .referralAccounts)
        { account with complianceState, lastCheckedAt, status := .unverified } (some account)
        (w₁.view .referralAccounts) ∧
      w₁.view .vipMemberships = w.db .vipMemberships ∧
      w₁.view .subscriptions = w.db .subscriptions := by
  obtain ⟨ht, hp, hu⟩ := hasked.keys
  have hsame : ∀ r ∈ w.db .referralAccounts, r.tenantId = tenantId →
      r.providerType = providerType → r.uid = s.uid → r = account := by
    intro r hr hrt hrp hru
    exact hw.db.eq_of_clash (t := .referralAccounts) hr hasked.mem
      (by simp [clash, ht, hp, hu, hrt, hrp, hru])
  -- The exchange says nothing, so that there is only one verdict.
  have hreason : ∀ {a : Attempt} {w₁ : World}, a.Holds G providerType s (w.opened tenantId) w₁ →
      a.check = none ∧ a.verdict.reason = .providerUnavailable := fun ha =>
    have hnone := hdown _ ha.answer
    ⟨hnone, (evaluateReferral_unavailable ha.verdict).mpr hnone⟩
  cases h with
  | invalid hinvalid =>
    have hvalid := hasked.valid
    rw [hinvalid] at hvalid
    cases hvalid
  | notConfigured _ hno => exact absurd hasked.ready hno
  | claimed _ _ hident hmem hrt hrp hru hother =>
    have heq := hsame _ hmem hrt hrp hru
    rw [heq] at hother
    exact absurd (hident.eq_owner (hw.opened tenantId) hasked.owner).symm hother
  | rejected ha hne _ _ => exact absurd (hreason ha).2 hne
  | granted ha helig _ _ _ =>
    have hreason := (hreason ha).2
    unfold EligibilityVerdict.eligible at helig
    rw [hreason] at helig
    cases helig
  | @unavailable a w₁ _ ha _ hsaved =>
    refine ⟨rfl, a.verdict.complianceState, some a.checkedAt, ?_, ?_, ?_⟩
    · rcases ha.base_from hsaved with ⟨hclaimed, hmem, hat, hap, hau, -⟩ | ⟨-, -, -, hno⟩
      · have hbase : a.base = account := hsame _ hmem hat hap hau
        have hup := hsaved.accounts
        rw [hclaimed, hbase, ha.identified.same.view _ (by decide)] at hup
        have hrow : a.unavailable = { account with
            complianceState := a.verdict.complianceState
            lastCheckedAt := some a.checkedAt
            status := .unverified } := by
          unfold Attempt.unavailable Attempt.checked
          rw [(hreason ha).1, hbase]
          rfl
        rwa [hrow] at hup
      · exact absurd ⟨ht, hp, hu⟩ (hno account hasked.mem)
    · exact (hsaved.same.view _ (by decide)).trans (ha.identified.same.view _ (by decide))
    · exact (hsaved.same.view _ (by decide)).trans (ha.identified.same.view _ (by decide))

/-- The verdict outlives the outage if it was none yet. -/
theorem verdictStands_iff {d' : Database} {complianceState : ComplianceState}
    {lastCheckedAt : Option DateTime}
    (hup : Upsert ReferralAccount.id (w.db .referralAccounts)
      { account with complianceState, lastCheckedAt, status := .unverified } (some account)
      (d' .referralAccounts))
    (hms : d' .vipMemberships = w.db .vipMemberships)
    (hsubs : d' .subscriptions = w.db .subscriptions) :
    VerdictStands w.db d' account ↔ account.status = .unverified := by
  constructor
  · intro h
    obtain ⟨cs, at_, hstands⟩ := h.account
    have hmem := hstands.mem_iff.mpr (.inl rfl)
    rcases hup.mem_iff.mp hmem with heq | ⟨-, hid⟩
    · exact congrArg ReferralAccount.status heq
    · exact absurd rfl hid
  · intro hstatus
    refine ⟨⟨complianceState, lastCheckedAt, ?_⟩, hms, hsubs⟩
    have hrow : ({ account with complianceState, lastCheckedAt, status := .unverified } :
        ReferralAccount) = { account with complianceState, lastCheckedAt } := by
      rw [← hstatus]
    rwa [hrow] at hup

/-- A rejected account keeps its mark, and is not rejected any more. -/
theorem marked_outage_iff {d' : Database} {complianceState : ComplianceState}
    {lastCheckedAt : Option DateTime} (hmarked : Marked w.db)
    (hmem : account ∈ w.db .referralAccounts)
    (hup : Upsert ReferralAccount.id (w.db .referralAccounts)
      { account with complianceState, lastCheckedAt, status := .unverified } (some account)
      (d' .referralAccounts)) :
    Marked d' ↔ account.status ≠ .rejected := by
  constructor
  · intro h hrejected
    have hafter := (h _ (hup.mem_iff.mpr (.inl rfl))).mp ((hmarked account hmem).mpr hrejected)
    cases hafter
  · intro hstatus
    refine hmarked.saved (iff_of_false (fun hset => ?_) fun h => by cases h) hup
    exact hstatus ((hmarked account hmem).mp hset)

/-- Rejections are marked throughout a chronicle that spares rejected accounts an outage.  A
    submission that meets an outage leaves the verdict of its account standing exactly when
    there was none, and rejections marked exactly when the account was not rejected. -/
theorem outage_keeps_verdict_iff {w₀ : World} (hsound : w₀.Sound) (hmarked : Marked w₀.db) :
    (∀ w, Chronicle SparesRejected key S w₀ w → Marked w.db) ∧
    ∀ w, Chronicle Whatever key S w₀ w → ∀ G tenantId providerType s account r w',
      AskedAbout w tenantId providerType s account →
      (∀ check, Answerable G s.uid check → check = none) →
      Runs (serial G) (submitTx S.ttl providerType tenantId s.telegramUserId s.market s.rawUid
        s.username s.firstName) w (.ok (some r)) w' →
      r.outcome = .providerUnavailable ∧
        (VerdictStands w.db w'.db account ↔ account.status = .unverified) ∧
        (Marked w.db → (Marked w'.db ↔ account.status ≠ .rejected)) := by
  refine ⟨fun w h => ?_, fun w h G tenantId providerType s account r w' hasked hdown hruns => ?_⟩
  · refine (h.invariant (I := fun w => Marked w.db) hsound hmarked ?_).2
    intro G a w w' hw hmarked hspared ha
    cases a.effect hw ha with
    | kept htables => exact hmarked.congr (htables _ (by decide))
    | submitted hsubmits hsubmitted hdb =>
      rw [hdb]
      exact hsubmitted.marked hmarked (hspared _ _ _ hsubmits)
    | passed _ hpass =>
      intro r' hr'
      obtain ⟨r, hr, hcolumns⟩ := exists_of_map_eq (pass_verdicts hpass) hr'
      simp only [verdictColumns, Prod.mk.injEq] at hcolumns
      have hold := hmarked r hr
      rwa [hcolumns.2.1, hcolumns.2.2.2] at hold
  · obtain ⟨hw, -⟩ := h.invariant (I := fun _ => True) hsound trivial fun _ _ _ _ _ _ _ _ => trivial
    obtain ⟨w₁, hbody, hdb, -⟩ := runs_transaction_some hruns
    have hsubmit : Meets G (submitUid S.ttl providerType (w.opened tenantId).tenantId
        s.telegramUserId s.market s.rawUid s.username s.firstName)
        (Submitted G S.ttl providerType s (w.opened tenantId)) _ (w.opened tenantId) :=
      meets_submitted s (hw.opened tenantId) rfl
    have hsubmitted : Submitted G S.ttl providerType s (w.opened tenantId) r w₁ :=
      wp_sound hsubmit hbody
    obtain ⟨hout, cs, at_, hup, hms, hsubs⟩ := hsubmitted.outage hw hasked hdown
    rw [← hdb] at hup hms hsubs
    exact ⟨hout, verdictStands_iff hup hms hsubs, fun hm => marked_outage_iff hm hasked.mem hup⟩

end Outages

/-! ### Outages before and after a verdict -/

/-- A day on which the exchange answers nothing. -/
def darkEnv : World → Op → Choice := calmEnv 101 fun _ => none

/-- The user 77 submits a UID. -/
def submittedIn (env : World → Op → Choice) (w : World) : World :=
  (exec World.step env (submitTx defaultSettings.ttl .bitunix 1 77 .crypto "123456789" none none)
    w).2

def pendingWorld : World := submittedIn darkEnv configuredWorld

def approvedWorld : World :=
  submittedIn (calmEnv 100 fun uid => some (fundedCheck uid)) configuredWorld

def unknownWorld : World :=
  submittedIn (calmEnv 100 fun uid => some { uid, registered := false }) configuredWorld

/-- An account that was never judged is as it was after another outage. -/
theorem second_outage_keeps_verdict :
    ∃ account ∈ pendingWorld.db .referralAccounts,
      VerdictStands pendingWorld.db (submittedIn darkEnv pendingWorld).db account ∧
        Marked pendingWorld.db := by
  have hmarked : Marked configuredWorld.db := by
    intro r hr
    cases hr
  have hstep : Activity.Steps (Only darkEnv) (.key some) defaultSettings
      (.submission 1 .bitunix ⟨77, .crypto, "123456789", none, none⟩) configuredWorld
      pendingWorld := ⟨_, runs_only darkEnv _ configuredWorld⟩
  have hdown : ∀ uid check, Answerable (Only darkEnv) uid check → check = none := by
    rintro uid check ⟨w, c, rfl, ⟨-, hfault⟩ | ⟨hnone, -⟩⟩
    · cases hfault
    · exact hnone
  have hboth : (∀ w, Chronicle SparesRejected (.key some) defaultSettings configuredWorld w →
      Marked w.db) ∧ _ := outage_keeps_verdict_iff initial_configuredWorld.sound hmarked
  obtain ⟨hspared, hiff⟩ := hboth
  have hruns := runs_only darkEnv (submitTx defaultSettings.ttl .bitunix 1 77 .crypto "123456789"
    none none) pendingWorld
  have hresult : (exec World.step darkEnv (submitTx defaultSettings.ttl .bitunix 1 77 .crypto
      "123456789" none none) pendingWorld).1 = .ok (some {
        outcome := .providerUnavailable
        verdict := some { reason := .providerUnavailable, complianceState := .providerUnavailable }
        uid := some "123456789" }) := by decide +kernel
  rw [hresult] at hruns
  have hvalid : isValidBitunixUid (normalizeUid "123456789") = true := by decide +kernel
  have haccount : ∃ account ∈ pendingWorld.db .referralAccounts, account.tenantId = 1 ∧
      account.providerType = .bitunix ∧ account.uid = normalizeUid "123456789" ∧
      (∃ user ∈ pendingWorld.db .telegramUsers, user.tenantId = 1 ∧ user.telegramUserId = 77 ∧
        user.id = account.userId) ∧ account.status = .unverified := by decide +kernel
  obtain ⟨account, hmem, ht, hp, hu, howner, hstatus⟩ := haccount
  have hasked : AskedAbout pendingWorld 1 .bitunix ⟨77, .crypto, "123456789", none, none⟩
      account := ⟨hmem, ⟨ht, hp, hu⟩, howner, hvalid, by decide +kernel⟩
  have hone :
      Chronicle SparesRejected (.key some) defaultSettings configuredWorld pendingWorld := by
    refine .single ⟨_, _, ?_, hstep⟩
    intro tenantId providerType s _ _ r hr
    cases hr
  have hany : Chronicle Whatever (.key some) defaultSettings configuredWorld pendingWorld :=
    .single ⟨_, _, trivial, hstep⟩
  obtain ⟨-, hstands, -⟩ := hiff _ hany _ _ _ _ account _ _ hasked (hdown _) hruns
  exact ⟨account, hmem, hstands.mpr hstatus, hspared _ hone⟩

/-- One outage takes a member's verification back, and a rejection with its reason left. -/
theorem outage_overwrites_verdict :
    ((approvedWorld.db .referralAccounts).map fun r => (r.status, r.rejectionReason)) =
        [(.verified, none)] ∧
    (((submittedIn darkEnv approvedWorld).db .referralAccounts).map
      fun r => (r.status, r.rejectionReason)) = [(.unverified, none)] ∧
    ((unknownWorld.db .referralAccounts).map fun r => (r.status, r.rejectionReason)) =
        [(.rejected, some "NOT_REGISTERED")] ∧
    (((submittedIn darkEnv unknownWorld).db .referralAccounts).map
      fun r => (r.status, r.rejectionReason)) = [(.unverified, some "NOT_REGISTERED")] ∧
    ¬ Marked (submittedIn darkEnv unknownWorld).db := by
  have hrows : ∃ r ∈ (submittedIn darkEnv unknownWorld).db .referralAccounts,
      r.status = .unverified ∧ r.rejectionReason ≠ none := by decide +kernel
  refine ⟨by decide +kernel, by decide +kernel, by decide +kernel, by decide +kernel, fun h => ?_⟩
  obtain ⟨r, hr, hstatus, hreason⟩ := hrows
  have hrejected := (h r hr).mp hreason
  rw [hstatus] at hrejected
  cases hrejected

end VipChannel

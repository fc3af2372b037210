/-
  VipChannel.Runs.Claims

  What stands behind a UID that is claimed.

  Whoever submits a UID first owns the account row that holds it, whatever the exchange
  answered: the row is written on the failing exits too, and the check for another's claim
  does not read its status.  `verified_at` tells the claims that a submission has verified
  from those that none has, since nothing but a grant sets it and nothing clears it.
-/
import VipChannel.Runs.Verdicts

namespace VipChannel

open Lib MembershipMonitor
open ReferralOnboardingService

/-! ## Histories -/

/-- An activity, between the world it found and the one it left. -/
structure Episode where
  before : World
  activity : Activity
  after : World

/-- The episodes of a chronicle, the latest one last. -/
inductive Annals (C : (World → Op → Choice → Prop) → World → Activity → Prop)
    (key : EncryptionKey) (S : Settings) (w₀ : World) : List Episode → World → Prop
  | start : Annals C key S w₀ [] w₀
  | next {G : World → Op → Choice → Prop} {log : List Episode} {w w' : World} {a : Activity} :
      Annals C key S w₀ log w → C G w a → a.Steps G key S w w' →
      Annals C key S w₀ (log ++ [⟨w, a, w'⟩]) w'

/-- What makes an account row the claim that it is. -/
def claimOf (r : ReferralAccount) : RowId × TenantId × ProviderType × String × RowId :=
  (r.id, r.tenantId, r.providerType, r.uid, r.userId)

/-- The activity is a submission of the account's UID by the account's owner. -/
def Episode.Submits (e : Episode) (account : ReferralAccount) : Prop :=
  ∃ s, e.activity.Submits e.before account.tenantId account.providerType s ∧
    s.uid = account.uid ∧ ∃ user ∈ e.after.db .telegramUsers,
      user.tenantId = account.tenantId ∧ user.telegramUserId = s.telegramUserId ∧
        user.id = account.userId

/-- A submission of the owner makes the account VERIFIED, which it was not before. -/
structure Episode.Verifies (e : Episode) (account : ReferralAccount) : Prop where
  submission : e.Submits account
  verified : ∃ row ∈ e.after.db .referralAccounts, claimOf row = claimOf account ∧
    row.status = .verified
  fresh : ∀ row ∈ e.before.db .referralAccounts, claimOf row = claimOf account →
    row.status ≠ .verified

theorem Episode.Verifies.congr {e : Episode} {r r' : ReferralAccount} (h : e.Verifies r)
    (hclaim : claimOf r' = claimOf r) : e.Verifies r' := by
  obtain ⟨hsubmits, hverified, hfresh⟩ := h
  rw [← hclaim] at hverified
  refine ⟨?_, hverified, fun row hrow heq => hfresh row hrow (heq.trans hclaim)⟩
  simp only [claimOf, Prod.mk.injEq] at hclaim
  obtain ⟨-, ht, hp, hu, hw⟩ := hclaim
  unfold Episode.Submits
  rw [ht, hp, hu, hw]
  exact hsubmits

/-- Another user of the tenant holds the UID of the submission. -/
structure HeldByAnother (w : World) (A : TenantId) (providerType : ProviderType)
    (s : Submission) (account : ReferralAccount) : Prop where
  mem : account ∈ w.db .referralAccounts
  keys : account.tenantId = A ∧ account.providerType = providerType ∧ account.uid = s.uid
  other : ∀ user ∈ w.db .telegramUsers, user.tenantId = A →
    user.telegramUserId = s.telegramUserId → user.id ≠ account.userId

/-! ## First claims -/

/-- The submission is the first of its UID, and may be answered with a check that the program
    does not find eligible. -/
structure FailedClaim (G : World → Op → Choice → Prop) (d : Database) (A : TenantId)
    (providerType : ProviderType) (s : Submission) (config : ReferralProgramConfig)
    (check : Option ReferralCheck) (verdict : EligibilityVerdict) : Prop where
  valid : isValidBitunixUid s.uid = true
  ready : d.Ready A providerType s.market
  first : ∀ r ∈ d .referralAccounts,
    ¬ (r.tenantId = A ∧ r.providerType = providerType ∧ r.uid = s.uid)
  config_mem : config ∈ d .referralProgramConfigs
  config_keys : config.tenantId = A ∧ config.providerType = providerType ∧
    config.market = s.market ∧ config.isActive = true
  answer : Answerable G s.uid check
  judged : evaluateReferral check config.rules false = .ok verdict
  ineligible : verdict.eligible = false

/-- Whoever first claims a UID of the tenant is found eligible. -/
def FirstClaimsHold (A : TenantId) (G : World → Op → Choice → Prop) (w : World)
    (a : Activity) : Prop :=
  ∀ providerType s config check verdict, a.Submits w A providerType s →
    ¬ FailedClaim G w.db A providerType s config check verdict

/-! ## What an activity leaves of the claims -/

/-- Where an account row comes from. -/
inductive ClaimOrigin (G : World → Op → Choice → Prop) (e : Episode) (r' : ReferralAccount) : Prop
  | carried {r : ReferralAccount} : r ∈ e.before.db .referralAccounts → claimOf r = claimOf r' →
      r'.verifiedAt = r.verifiedAt → (r'.status = .verified → r.status = .verified) →
      ClaimOrigin G e r'
  | failed {s : Submission} {config : ReferralProgramConfig} {check : Option ReferralCheck}
      {verdict : EligibilityVerdict} : r'.verifiedAt = none → r'.status ≠ .verified →
      e.activity.Submits e.before r'.tenantId r'.providerType s →
      FailedClaim G e.before.db r'.tenantId r'.providerType s config check verdict →
      ClaimOrigin G e r'
  | verified : r'.verifiedAt ≠ none → r'.status = .verified → e.Submits r' → ClaimOrigin G e r'

/-- Every row comes from somewhere, and none is lost. -/
structure ClaimsKept (G : World → Op → Choice → Prop) (e : Episode) : Prop where
  claimed : ∀ r' ∈ e.after.db .referralAccounts, ClaimOrigin G e r'
  kept : ∀ r ∈ e.before.db .referralAccounts, ∃ r' ∈ e.after.db .referralAccounts,
    claimOf r' = claimOf r ∧ (r.verifiedAt ≠ none → r'.verifiedAt ≠ none)

section Claims

variable {G : World → Op → Choice → Prop} {key : EncryptionKey} {S : Settings} {w w' : World}
  {a : Activity}

/-- The rows of a pass are those of before, as far as a claim goes. -/
theorem claimsKept_of_map
    (h : (w'.db .referralAccounts).map (fun r => (claimOf r, r.status, r.verifiedAt)) =
      (w.db .referralAccounts).map fun r => (claimOf r, r.status, r.verifiedAt)) :
    ClaimsKept G ⟨w, a, w'⟩ := by
  constructor
  · intro r' hr'
    obtain ⟨r, hr, heq⟩ := exists_of_map_eq h hr'
    simp only [Prod.mk.injEq] at heq
    obtain ⟨hclaim, hstatus, hat⟩ := heq
    exact .carried hr hclaim hat.symm fun hv => hstatus.trans hv
  · intro r hr
    obtain ⟨r', hr', heq⟩ := exists_of_map_eq h.symm hr
    simp only [Prod.mk.injEq] at heq
    obtain ⟨hclaim, -, hat⟩ := heq
    exact ⟨r', hr', hclaim, fun hset => by rwa [hat]⟩

/-- Only the prior row has the id of the row that replaces it. -/
theorem Upsert.eq_prior {α : Type} {id : α → RowId} {rows rows' : List α} {row p r : α}
    (h : Upsert id rows row (some p) rows') (hr : r ∈ rows) (hid : id r = id row) : r = p := by
  cases h with
  | replace _ _ hone => exact hone r hr hid

/-- The rows of a submission are those of before and the one it saved. -/
theorem claimsKept_of_upsert {row : ReferralAccount} {prior : Option ReferralAccount}
    (hup : Upsert ReferralAccount.id (w.db .referralAccounts) row prior
      (w'.db .referralAccounts))
    (hrow : ClaimOrigin G ⟨w, a, w'⟩ row)
    (hprior : ∀ p, prior = some p →
      claimOf row = claimOf p ∧ (p.verifiedAt ≠ none → row.verifiedAt ≠ none)) :
    ClaimsKept G ⟨w, a, w'⟩ := by
  constructor
  · intro r' hr'
    rcases hup.mem_iff.mp hr' with rfl | ⟨hold, -⟩
    · exact hrow
    · exact .carried hold rfl rfl id
  · intro r hr
    by_cases hid : r.id = row.id
    swap
    · exact ⟨r, hup.mem_iff.mpr (.inr ⟨hr, hid⟩), rfl, id⟩
    have hthere : row ∈ w'.db .referralAccounts := hup.mem_iff.mpr (.inl rfl)
    cases prior with
    | none => exact absurd hid (hup.fresh r hr)
    | some p =>
      obtain ⟨hclaim, hat⟩ := hprior p rfl
      rw [hup.eq_prior hr hid]
      exact ⟨row, hthere, hclaim, hat⟩

/-- What a failing attempt leaves: the claim that was there, or one of a failed first. -/
theorem Attempt.Holds.claimsKept {tenantId : TenantId} {providerType : ProviderType}
    {s : Submission} {x : Attempt} {row : ReferralAccount} {w₁ w₂ : World}
    (hsubmits : a.Submits w tenantId providerType s)
    (hx : x.Holds G providerType s (w.opened tenantId) w₁)
    (hsaved : AccountSaved w₁ row x.claimed w₂) (hdb : w'.db = w₂.view)
    (hclaim : claimOf row = claimOf x.base) (hat : row.verifiedAt = x.base.verifiedAt)
    (hstatus : row.status ≠ .verified) (hineligible : x.verdict.eligible = false) :
    ClaimsKept G ⟨w, a, w'⟩ := by
  have hup := hsaved.accounts
  rw [hx.identified.same.view _ (by decide), ← hdb] at hup
  rcases hx.base_from hsaved with ⟨hclaimed, hmem, -⟩ | ⟨hclaimed, -, -, hfirst⟩
  · refine claimsKept_of_upsert hup (.carried hmem hclaim.symm hat fun h => absurd h hstatus) ?_
    intro p hp
    rw [hclaimed, Option.some.injEq] at hp
    rw [← hp]
    exact ⟨hclaim, fun hset => by rwa [hat]⟩
  · have hbase := hx.account
    rw [hclaimed] at hbase
    obtain ⟨-, id, hbase⟩ := hbase
    have hkeys : row.tenantId = tenantId ∧ row.providerType = providerType := by
      simp only [claimOf, Prod.mk.injEq] at hclaim
      rw [hclaim.2.1, hclaim.2.2.1, hbase]
      exact ⟨rfl, rfl⟩
    refine claimsKept_of_upsert hup ?_ fun p hp => by rw [hclaimed] at hp; cases hp
    have hfailed : FailedClaim G w.db tenantId providerType s x.config x.check x.verdict := {
      valid := hx.valid
      ready := ⟨⟨x.config, hx.config_mem, hx.config_keys⟩, x.channel, hx.channel_mem,
        hx.channel_keys⟩
      first := hfirst
      config_mem := hx.config_mem
      config_keys := hx.config_keys
      answer := hx.answer
      judged := hx.verdict
      ineligible := hineligible }
    rw [← hkeys.1, ← hkeys.2] at hsubmits hfailed
    exact .failed (by rw [hat, hbase]) hstatus hsubmits hfailed

/-- What a submission leaves. -/
theorem Submitted.claimsKept {ttl : TimeDelta} {tenantId : TenantId} {providerType : ProviderType}
    {s : Submission} {r : OnboardingResult} {w₁ : World}
    (hsubmits : a.Submits w tenantId providerType s)
    (h : Submitted G ttl providerType s (w.opened tenantId) r w₁) (hdb : w'.db = w₁.view) :
    ClaimsKept G ⟨w, a, w'⟩ := by
  have hsame : w₁.view .referralAccounts = w.db .referralAccounts → ClaimsKept G ⟨w, a, w'⟩ := by
    intro heq
    apply claimsKept_of_map
    rw [hdb, heq]
  cases h with
  | invalid _ | notConfigured _ _ => exact hsame rfl
  | claimed _ _ hident _ _ _ _ _ => exact hsame (hident.same.view _ (by decide))
  | @unavailable x w₂ _ hx hreason hsaved =>
    have hineligible : x.verdict.eligible = false := by
      unfold EligibilityVerdict.eligible
      rw [hreason]
      rfl
    exact hx.claimsKept hsubmits hsaved hdb rfl rfl (fun h => by cases h) hineligible
  | @rejected x w₂ _ hx _ hineligible hsaved =>
    exact hx.claimsKept hsubmits hsaved hdb rfl rfl (fun h => by cases h) hineligible
  | @granted x verifiedAt g w₂ w₃ _ calls hx helig hsaved hg hfor =>
    have hup := hsaved.accounts
    rw [hx.identified.same.view _ (by decide), ← hfor.accounts, ← hdb] at hup
    have ht : w₃.tenantId = w₂.tenantId := hsaved.same.tenantId
    have hbase : x.base.tenantId = tenantId ∧ x.base.providerType = providerType ∧
        x.base.uid = s.uid ∧ x.base.userId = x.user.id := by
      have hfrom := hx.account
      cases hclaimed : x.claimed with
      | some claimed =>
        rw [hclaimed] at hfrom
        obtain ⟨ht, hp, hu, huser, heq⟩ := hfrom
        rw [heq]
        exact ⟨ht, hp, hu, huser⟩
      | none =>
        rw [hclaimed] at hfrom
        obtain ⟨-, id, heq⟩ := hfrom
        rw [heq]
        exact ⟨rfl, rfl, rfl, rfl⟩
    obtain ⟨hbt, hbp, hbu, hbw⟩ := hbase
    refine claimsKept_of_upsert hup (.verified (Option.some_ne_none _) rfl ?_) ?_
    · -- The owner is whom the submission identified.
      have husers : w'.db .telegramUsers = w₂.view .telegramUsers := by
        rw [hdb, hfor.users, hsaved.same.view _ (by decide)]
      obtain ⟨user, hmem, hut, huu, hid⟩ := hx.identified.isUser
      refine ⟨s, ?_, hbu.symm, user, ?_, ?_, huu, hid.trans hbw.symm⟩
      · show a.Submits w x.base.tenantId x.base.providerType s
        rw [hbt, hbp]
        exact hsubmits
      · show user ∈ w'.db .telegramUsers
        rw [husers]
        exact hmem
      · show user.tenantId = x.base.tenantId
        rw [hut, hbt]
        exact hx.identified.same.tenantId
    · intro p hp
      rcases hx.base_from hsaved with ⟨hclaimed, -⟩ | ⟨hclaimed, -⟩
      · rw [hclaimed, Option.some.injEq] at hp
        rw [← hp]
        exact ⟨rfl, fun _ => Option.some_ne_none _⟩
      · rw [hclaimed] at hp
        cases hp

/-- What any activity leaves. -/
theorem Activity.Steps.claimsKept (hw : w.Sound) (h : a.Steps G key S w w') :
    ClaimsKept G ⟨w, a, w'⟩ := by
  cases a.effect hw h with
  | kept htables =>
    apply claimsKept_of_map
    rw [htables _ (by decide)]
  | submitted hsubmits hsubmitted hdb => exact hsubmitted.claimsKept hsubmits hdb
  | passed _ hpass => exact claimsKept_of_map (pass_accounts (fun _ _ _ _ => rfl) hpass)

end Claims

/-! ## What annals remember -/

/-- The accounts of the tenant tell which claims the annals have seen verified. -/
structure Remembered (A : TenantId) (log : List Episode) (d : Database) : Prop where
  dated : ∀ r ∈ d .referralAccounts, r.tenantId = A → r.status = .verified → r.verifiedAt ≠ none
  seen : ∀ r ∈ d .referralAccounts, r.tenantId = A → r.verifiedAt ≠ none →
    ∃ e ∈ log, e.Verifies r
  lasting : ∀ e ∈ log, ∀ account : ReferralAccount, account.tenantId = A →
    e.Verifies account →
      ∃ r ∈ d .referralAccounts, claimOf r = claimOf account ∧ r.verifiedAt ≠ none

theorem Remembered.start {A : TenantId} {d : Database}
    (h : ∀ r ∈ d .referralAccounts, r.tenantId ≠ A) : Remembered A [] d where
  dated := fun r hr ht => absurd ht (h r hr)
  seen := fun r hr ht => absurd ht (h r hr)
  lasting := fun _ he => absurd he List.not_mem_nil

/-- An activity more is remembered as well. -/
theorem Remembered.next {G : World → Op → Choice → Prop} {A : TenantId} {log : List Episode}
    {e : Episode} (h : Remembered A log e.before.db) (he : ClaimsKept G e) :
    Remembered A (log ++ [e]) e.after.db := by
  have hdated : ∀ r ∈ e.after.db .referralAccounts, r.tenantId = A → r.status = .verified →
      r.verifiedAt ≠ none := by
    intro r' hr' ht hstatus
    cases he.claimed r' hr' with
    | @carried r hr hclaim hat hback =>
      have htenant : r.tenantId = A := (congrArg (·.2.1) hclaim).trans ht
      rw [hat]
      exact h.dated r hr htenant (hback hstatus)
    | failed _ hnot _ _ => exact absurd hstatus hnot
    | verified hat _ _ => exact hat
  refine ⟨hdated, ?_, ?_⟩
  · intro r' hr' ht hset
    have hearlier : ∀ r ∈ e.before.db .referralAccounts, claimOf r = claimOf r' →
        r.verifiedAt ≠ none → ∃ e' ∈ log ++ [e], e'.Verifies r' := by
      intro r hr hclaim hat
      have htenant : r.tenantId = A := (congrArg (·.2.1) hclaim).trans ht
      obtain ⟨e', he', hv⟩ := h.seen r hr htenant hat
      exact ⟨e', List.mem_append_left _ he', hv.congr hclaim.symm⟩
    cases he.claimed r' hr' with
    | @carried r hr hclaim hat _ => exact hearlier r hr hclaim (by rwa [← hat])
    | failed hnone _ _ _ => exact absurd hnone hset
    | verified _ hstatus hsubmits =>
      by_cases hbefore : ∃ r ∈ e.before.db .referralAccounts, claimOf r = claimOf r' ∧
          r.status = .verified
      · obtain ⟨r, hr, hclaim, hv⟩ := hbefore
        have htenant : r.tenantId = A := (congrArg (·.2.1) hclaim).trans ht
        exact hearlier r hr hclaim (h.dated r hr htenant hv)
      · refine ⟨e, List.mem_append_right _ (List.mem_singleton_self e), hsubmits,
          ⟨r', hr', rfl, hstatus⟩, ?_⟩
        exact fun r hr hclaim hv => hbefore ⟨r, hr, hclaim, hv⟩
  · intro e' he' account ht hv
    rcases List.mem_append.mp he' with hold | hnew
    · obtain ⟨r, hr, hclaim, hat⟩ := h.lasting e' hold account ht hv
      obtain ⟨r', hr', hclaim', hat'⟩ := he.kept r hr
      exact ⟨r', hr', hclaim'.trans hclaim, hat' hat⟩
    · rw [List.mem_singleton.mp hnew] at hv
      obtain ⟨r, hr, hclaim, hstatus⟩ := hv.verified
      exact ⟨r, hr, hclaim, hdated r hr ((congrArg (·.2.1) hclaim).trans ht) hstatus⟩

section Histories

variable {C : (World → Op → Choice → Prop) → World → Activity → Prop} {key : EncryptionKey}
  {S : Settings} {w₀ w : World} {log : List Episode} {A : TenantId}

theorem Annals.remembered (h : Annals C key S w₀ log w) (hsound : w₀.Sound)
    (hnone : ∀ r ∈ w₀.db .referralAccounts, r.tenantId ≠ A) :
    w.Sound ∧ Remembered A log w.db := by
  induction h with
  | start => exact ⟨hsound, .start hnone⟩
  | next _ _ hstep ih =>
    obtain ⟨hw, hrem⟩ := ih
    exact ⟨hstep.sound hw, hrem.next (e := ⟨_, _, _⟩) (hstep.claimsKept hw)⟩

/-- Where first claims hold, every claim has been verified. -/
theorem Annals.dated (h : Annals (FirstClaimsHold A) key S w₀ log w) (hsound : w₀.Sound)
    (hnone : ∀ r ∈ w₀.db .referralAccounts, r.tenantId ≠ A) :
    ∀ r ∈ w.db .referralAccounts, r.tenantId = A → r.verifiedAt ≠ none := by
  induction h with
  | start => exact fun r hr ht => absurd ht (hnone r hr)
  | @next G log w w' a hlog hholds hstep ih =>
    obtain ⟨hw, -⟩ := hlog.remembered hsound hnone
    intro r' hr' ht
    cases (hstep.claimsKept hw).claimed r' hr' with
    | @carried r hr hclaim hat _ =>
      have htenant : r.tenantId = A := (congrArg (·.2.1) hclaim).trans ht
      rw [hat]
      exact ih r hr htenant
    | failed _ _ hsubmits hfailed =>
      subst ht
      exact absurd hfailed (hholds _ _ _ _ _ hsubmits)
    | verified hat _ _ => exact hat

/-- A user who is turned away is so for a claim of another. -/
theorem runs_claimed {G : World → Op → Choice → Prop} {ttl : TimeDelta}
    {providerType : ProviderType} {s : Submission} {r : OnboardingResult} {w' : World}
    (hw : w.Sound)
    (hruns : Runs (serial G) (submitTx ttl providerType A s.telegramUserId s.market s.rawUid
      s.username s.firstName) w (.ok (some r)) w')
    (hr : r.outcome = .uidClaimedByAnotherUser) :
    ∃ account, HeldByAnother w A providerType s account := by
  obtain ⟨w₁, hbody, -⟩ := runs_transaction_some hruns
  have hsubmit : Meets G (submitUid ttl providerType (w.opened A).tenantId s.telegramUserId
      s.market s.rawUid s.username s.firstName)
      (Submitted G ttl providerType s (w.opened A)) _ (w.opened A) :=
    meets_submitted s (hw.opened A) rfl
  have hsubmitted : Submitted G ttl providerType s (w.opened A) r w₁ := wp_sound hsubmit hbody
  cases hsubmitted with
  | invalid | notConfigured | unavailable => cases hr
  | rejected =>
    revert hr
    dsimp only
    split <;> exact fun h => by cases h
  | @granted x verifiedAt g =>
    revert hr
    show (if g.base.status = .active then OnboardingOutcome.alreadyMember else .invited) = _ → _
    split <;> exact fun h => by cases h
  | @claimed user prior account _ _ _ hident hmem ht hp hu hother =>
    refine ⟨account, hmem, ⟨ht, hp, hu⟩, fun u hu' hut huu hid => hother ?_⟩
    exact (hident.eq_owner (hw.opened A) ⟨u, hu', hut, huu, hid⟩).symm

/-- A submission that is answered with another's claim finds a row that an earlier submission
    has verified for its owner exactly when `verified_at` is set on it; and it does so in every
    history of the tenant in which whoever first claims a UID is found eligible. -/
theorem claimed_uid_was_verified_iff (hsound : w₀.Sound)
    (hnone : ∀ r ∈ w₀.db .referralAccounts, r.tenantId ≠ A) :
    (∀ log w, Annals Whatever key S w₀ log w → ∀ G providerType s r w',
      Runs (serial G) (submitTx S.ttl providerType A s.telegramUserId s.market s.rawUid
        s.username s.firstName) w (.ok (some r)) w' →
      r.outcome = .uidClaimedByAnotherUser → ∃ account,
        HeldByAnother w A providerType s account ∧
          ((∃ e ∈ log, e.Verifies account) ↔ account.verifiedAt ≠ none)) ∧
    ∀ log w, Annals (FirstClaimsHold A) key S w₀ log w → ∀ G providerType s r w',
      Runs (serial G) (submitTx S.ttl providerType A s.telegramUserId s.market s.rawUid
        s.username s.firstName) w (.ok (some r)) w' →
      r.outcome = .uidClaimedByAnotherUser → ∃ account,
        HeldByAnother w A providerType s account ∧ ∃ e ∈ log, e.Verifies account := by
  refine ⟨fun log w h G providerType s r w' hruns hr => ?_,
    fun log w h G providerType s r w' hruns hr => ?_⟩
  · obtain ⟨hw, hrem⟩ := h.remembered hsound hnone
    obtain ⟨account, hheld⟩ := runs_claimed hw hruns hr
    refine ⟨account, hheld, fun ⟨e, he, hv⟩ => ?_, hrem.seen account hheld.mem hheld.keys.1⟩
    obtain ⟨row, hrow, hclaim, hat⟩ := hrem.lasting e he account hheld.keys.1 hv
    have hid : row.id = account.id := congrArg (·.1) hclaim
    have heq : row = account := hw.db.eq_of_clash (t := .referralAccounts) hrow hheld.mem
      (by simp [clash, hid])
    rwa [← heq]
  · obtain ⟨hw, hrem⟩ := h.remembered hsound hnone
    obtain ⟨account, hheld⟩ := runs_claimed hw hruns hr
    have hat := h.dated hsound hnone account hheld.mem hheld.keys.1
    exact ⟨account, hheld, hrem.seen account hheld.mem hheld.keys.1 hat⟩

end Histories

/-! ### A second claimant, after a success and after a failure -/

/-- What the user 77 submitted, and what the user 88 submits after that. -/
def earlySubmission : Submission := ⟨77, .crypto, "123456789", none, none⟩

def lateSubmission : Submission := ⟨88, .crypto, "123456789", none, none⟩

/-- The first claim alone. -/
def firstEpisode (w : World) : Episode :=
  ⟨configuredWorld, .submission 1 .bitunix earlySubmission, w⟩

/-- The late submission is answered with another's claim. -/
def TurnedAway (w : World) : Prop :=
  ∃ r w', Runs (serial (Only welcomingEnv)) (submitTx defaultSettings.ttl .bitunix 1
    lateSubmission.telegramUserId lateSubmission.market lateSubmission.rawUid
    lateSubmission.username lateSubmission.firstName) w (.ok (some r)) w' ∧
    r.outcome = .uidClaimedByAnotherUser

theorem turnedAway_of_result {w : World}
    (h : (exec World.step welcomingEnv (submitTx defaultSettings.ttl .bitunix 1 88 .crypto
      "123456789" none none) w).1 =
        .ok (some { outcome := .uidClaimedByAnotherUser, uid := some "123456789" })) :
    TurnedAway w := by
  have hruns := runs_only welcomingEnv (submitTx defaultSettings.ttl .bitunix 1 88 .crypto
    "123456789" none none) w
  rw [h] at hruns
  exact ⟨_, _, hruns, rfl⟩

theorem annals_firstEpisode {C : (World → Op → Choice → Prop) → World → Activity → Prop}
    {env : World → Op → Choice}
    (hC : C (Only env) configuredWorld (.submission 1 .bitunix earlySubmission)) :
    Annals C (.key some) defaultSettings configuredWorld
      [firstEpisode (submittedIn env configuredWorld)] (submittedIn env configuredWorld) :=
  .next .start hC ⟨_, runs_only env _ configuredWorld⟩

/-- The first claimant has become a member, and the second is turned away for that. -/
theorem verified_claim_turns_away :
    (∃ account, HeldByAnother approvedWorld 1 .bitunix lateSubmission account ∧
      account.verifiedAt ≠ none ∧ ∃ e ∈ [firstEpisode approvedWorld], e.Verifies account) ∧
    ∃ account, HeldByAnother approvedWorld 1 .bitunix lateSubmission account ∧
      ∃ e ∈ [firstEpisode approvedWorld], e.Verifies account := by
  have hnone : ∀ r ∈ configuredWorld.db .referralAccounts, r.tenantId ≠ 1 := by
    intro r hr
    cases hr
  have hholds : FirstClaimsHold 1 (Only welcomingEnv) configuredWorld
      (.submission 1 .bitunix earlySubmission) := by
    rintro providerType s config check verdict ⟨-, rfl, rfl⟩ hfailed
    have hcheck : check = some (fundedCheck "123456789") := by
      have huid : earlySubmission.uid = "123456789" := by decide +kernel
      obtain ⟨_, c, rfl, ⟨hsome, -⟩ | ⟨-, e, hfault, -⟩⟩ := hfailed.answer
      · rw [hsome, huid]
        rfl
      · cases hfault
    have hall : ∀ config ∈ configuredWorld.db .referralProgramConfigs,
        evaluateReferral (some (fundedCheck "123456789")) config.rules false =
          .ok { reason := .eligible, complianceState := .compliant, balance := .ofInt 500 } := by
      decide +kernel
    have hjudged := hfailed.judged
    rw [hcheck, hall config hfailed.config_mem, Except.ok.injEq] at hjudged
    have hineligible := hfailed.ineligible
    rw [← hjudged] at hineligible
    cases hineligible
  obtain ⟨r, w', hruns, hr⟩ : TurnedAway approvedWorld :=
    turnedAway_of_result (by decide +kernel)
  have hany : Annals Whatever (.key some) defaultSettings configuredWorld
      [firstEpisode approvedWorld] approvedWorld := annals_firstEpisode trivial
  obtain ⟨hiff, hverified⟩ := claimed_uid_was_verified_iff initial_configuredWorld.sound hnone
  obtain ⟨account, hheld, hseen⟩ := hiff _ _ hany _ _ lateSubmission _ _ hruns hr
  have hdated : ∀ r ∈ approvedWorld.db .referralAccounts, r.verifiedAt ≠ none := by
    decide +kernel
  have hat := hdated account hheld.mem
  refine ⟨⟨account, hheld, hat, hseen.mpr hat⟩, ?_⟩
  exact hverified _ _ (annals_firstEpisode hholds) _ _ lateSubmission _ _ hruns hr

/-- Who is not under the referral, or asks during an outage, keeps the UID from its owner, who
    would have become a member. -/
theorem failed_claim_locks_owner_out :
    (∃ r w', Runs (serial (Only welcomingEnv)) (submitTx defaultSettings.ttl .bitunix 1 88 .crypto
      "123456789" none none) configuredWorld (.ok (some r)) w' ∧ r.outcome = .invited) ∧
    ∀ w ∈ [unknownWorld, pendingWorld],
      Annals Whatever (.key some) defaultSettings configuredWorld [firstEpisode w] w ∧
        TurnedAway w ∧ ∀ account, ¬ (firstEpisode w).Verifies account := by
  have hnever : ∀ w : World, (∀ r ∈ w.db .referralAccounts, r.status ≠ .verified) →
      ∀ account, ¬ (firstEpisode w).Verifies account := by
    intro w hstatus account hv
    obtain ⟨row, hrow, -, hverified⟩ := hv.verified
    exact hstatus row hrow hverified
  constructor
  · have hruns := runs_only welcomingEnv (submitTx defaultSettings.ttl .bitunix 1 88 .crypto
      "123456789" none none) configuredWorld
    have hinvited : (exec World.step welcomingEnv (submitTx defaultSettings.ttl .bitunix 1 88
        .crypto "123456789" none none) configuredWorld).1 = .ok (some {
          outcome := .invited
          inviteLink := some "https://t.me/+0"
          verdict := some {
            reason := .eligible, complianceState := .compliant, balance := .ofInt 500 }
          uid := some "123456789" }) := by decide +kernel
    rw [hinvited] at hruns
    exact ⟨_, _, hruns, rfl⟩
  · intro w hw
    simp only [List.mem_cons, List.not_mem_nil, or_false] at hw
    rcases hw with rfl | rfl
    · exact ⟨annals_firstEpisode trivial, turnedAway_of_result (by decide +kernel),
        hnever _ (by decide +kernel)⟩
    · exact ⟨annals_firstEpisode trivial, turnedAway_of_result (by decide +kernel),
        hnever _ (by decide +kernel)⟩

end VipChannel

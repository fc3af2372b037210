/-
  VipChannel.Jobs.BitunixRecovery

  Monitoring passes over one membership when the provider is the Bitunix adapter:
  adapter, eligibility rule, decision and row update, one after the other.

  The adapter never says how much an account traded, and the monitoring rule needs to
  know, so no answer of the exchange is ever eligible (`bitunix_never_eligible`): a
  pass that finds the account funded again neither restores the member nor clears the
  count.
-/
import VipChannel.Jobs.RemovalDiscipline
import VipChannel.Providers.Bitunix

namespace VipChannel

open Lib BitunixReferralProvider

/-- One completed pass: what the exchange answered, under which configuration, and what
    was decided. -/
structure BitunixVisit where
  uid : String
  answer : HttpAnswer
  rules : ReferralRules
  graceDays : Int
  moment : DateTime
  decision : ComplianceDecision

/-- A run of passes over a membership that started as `m₀`, newest first, every step of
    which `G` allows in the row it finds. -/
inductive BitunixHistory (reprOf : Json → String) (base : CompliancePolicy)
    (G : VIPMembership → BitunixVisit → Prop) (m₀ : VIPMembership) :
    List BitunixVisit → VIPMembership → Prop
  | start : BitunixHistory reprOf base G m₀ [] m₀
  | pass {h : List BitunixVisit} {m : VIPMembership} {v : BitunixVisit}
      {check : Option ReferralCheck} {verdict : EligibilityVerdict} :
      BitunixHistory reprOf base G m₀ h m → G m v →
      orOutage (validateUser reprOf v.uid v.answer) = .ok check →
      evaluateReferral check v.rules true = .ok verdict →
      decideCompliance m.snapshot verdict { base with onboardingGraceDays := v.graceDays }
        v.moment = .ok v.decision →
      BitunixHistory reprOf base G m₀ (v :: h) (m.applied v.decision v.moment)

/-- The adapter reported the account as registered, with deposits at or above the
    minimum. -/
def Recovered (reprOf : Json → String) (v : BitunixVisit) : Prop :=
  ∃ check, validateUser reprOf v.uid v.answer = .ok check ∧ check.registered = true ∧
    check.depositTotal.lt v.rules.minimumBalance = .ok false

/-- A 2xx body that states a boolean registration and finite deposits. -/
def WellFormed (v : BitunixVisit) : Prop :=
  ∃ status fields result b, v.answer = .response status (.ok (.obj fields)) ∧
    isSuccess status = true ∧ Json.get fields "result" = .obj result ∧
    Json.get result "result" = .bool b ∧
    ∀ field ∈ DEPOSIT_FIELDS, ∃ s c e, toDecimal (Json.get result field) = .finite s c e

/-- Between a warning and the removal its streak leads to, the adapter never reported a
    recovered account. -/
def NoRecoveryBeforeRemoval (reprOf : Json → String) (h : List BitunixVisit) : Prop :=
  ∀ newer removal between warning older,
    h = newer ++ removal :: (between ++ warning :: older) →
    removal.decision.action = .revoke → warning.decision.action = .warn →
    (∀ v ∈ between, v.decision.action ≠ .restore) →
    ∀ v ∈ between, ¬ Recovered reprOf v

/-! ## No answer of the exchange is eligible -/

theorem orOutage_some {r : Except PyError ReferralCheck} {c : ReferralCheck}
    (h : orOutage r = .ok (some c)) : r = .ok c := by
  unfold orOutage at h
  split at h
  · cases h; rfl
  · split at h <;> cases h

theorem bitunix_never_eligible {reprOf : Json → String} {uid : String} {answer : HttpAnswer}
    {check : Option ReferralCheck} {rules : ReferralRules} {verdict : EligibilityVerdict}
    (hc : orOutage (validateUser reprOf uid answer) = .ok check)
    (hv : evaluateReferral check rules true = .ok verdict) : verdict.eligible = false := by
  by_contra hel
  obtain ⟨c, rfl, -, -, ht⟩ := evaluateReferral_eligible hv (by simpa using hel)
  obtain ⟨n, hn, -⟩ := ht rfl
  obtain ⟨payload, hp⟩ := validateUser_ok (orOutage_some hc)
  rw [parse_qualifyingTrades hp] at hn
  cases hn

/-- A pass with the adapter restores nobody. -/
theorem bitunix_never_restores {reprOf : Json → String} {uid : String} {answer : HttpAnswer}
    {check : Option ReferralCheck} {rules : ReferralRules} {verdict : EligibilityVerdict}
    {m : MembershipSnapshot} {policy : CompliancePolicy} {now : DateTime}
    {d : ComplianceDecision} (hc : orOutage (validateUser reprOf uid answer) = .ok check)
    (hv : evaluateReferral check rules true = .ok verdict)
    (hd : decideCompliance m verdict policy now = .ok d) : d.action ≠ .restore := by
  have hel := bitunix_never_eligible hc hv
  rcases decideCompliance_cases hd with ⟨ha, -⟩ | ⟨-, -, he⟩ | ⟨ha, -⟩ | ⟨ha, -⟩
  · simp [ha]
  · simp [hel] at he
  · simp [ha]
  · simp [ha]

/-- The count never falls, and a warning makes it positive. -/
theorem applied_warningsSent {m : VIPMembership} {verdict : EligibilityVerdict}
    {policy : CompliancePolicy} {now : DateTime} {d : ComplianceDecision}
    (hnr : d.action ≠ .restore) (hd : decideCompliance m.snapshot verdict policy now = .ok d) :
    m.warningsSent ≤ (m.applied d now).warningsSent ∧
      (d.action = .warn → m.warningsSent < (m.applied d now).warningsSent) := by
  rcases decideCompliance_cases hd with ⟨ha, -⟩ | ⟨ha, -⟩ | ⟨ha, -, -, hafter, -⟩ | ⟨ha, -⟩
  · simp [VIPMembership.applied, ha]
  · exact absurd ha hnr
  · simp only [VIPMembership.applied, ha, VIPMembership.warned, hafter,
      VIPMembership.snapshot]
    omega
  · simp [VIPMembership.applied, ha, VIPMembership.removed]

/-! ## Runs in which nobody who was warned recovers -/

/-- The row a pass finds has no warning outstanding when the adapter reports a recovered
    account. -/
def RecoversUnwarned (reprOf : Json → String) (m : VIPMembership) (v : BitunixVisit) : Prop :=
  Recovered reprOf v → m.warningsSent = 0

section Runs

variable {reprOf : Json → String} {base : CompliancePolicy}
  {G : VIPMembership → BitunixVisit → Prop} {m₀ m : VIPMembership}

theorem BitunixHistory.warningsSent_nonneg {h : List BitunixVisit}
    (h0 : m₀.warningsSent = 0) (hist : BitunixHistory reprOf base G m₀ h m) :
    0 ≤ m.warningsSent := by
  induction hist with
  | start => omega
  | pass _ _ hc hv hd ih =>
    have := (applied_warningsSent (bitunix_never_restores hc hv hd) hd).1
    omega

/-- Once a member is warned, the count stays positive. -/
theorem BitunixHistory.warningsSent_pos {h older : List BitunixVisit} {w : BitunixVisit}
    (h0 : m₀.warningsSent = 0) (hist : BitunixHistory reprOf base G m₀ (h ++ w :: older) m)
    (hw : w.decision.action = .warn) : 0 < m.warningsSent := by
  induction h generalizing m with
  | nil =>
    cases hist with
    | pass hist _ hc hv hd =>
      have := hist.warningsSent_nonneg h0
      have := (applied_warningsSent (bitunix_never_restores hc hv hd) hd).2 hw
      omega
  | cons v h ih =>
    cases hist with
    | pass hist _ hc hv hd =>
      have := ih hist
      have := (applied_warningsSent (bitunix_never_restores hc hv hd) hd).1
      omega

theorem BitunixHistory.of_append {newer older : List BitunixVisit}
    (hist : BitunixHistory reprOf base G m₀ (newer ++ older) m) :
    ∃ m', BitunixHistory reprOf base G m₀ older m' := by
  induction newer generalizing m with
  | nil => exact ⟨m, hist⟩
  | cons v newer ih =>
    cases hist with
    | pass hist => exact ih hist

/-- In a run whose passes find no warned member recovered, no removal sums up separate
    dips. -/
theorem no_recovery_before_removal {h : List BitunixVisit} (h0 : m₀.warningsSent = 0)
    (hist : BitunixHistory reprOf base (RecoversUnwarned reprOf) m₀ h m) :
    NoRecoveryBeforeRemoval reprOf h := by
  intro newer removal between warning older hsplit _ hw _ v hv hrec
  obtain ⟨b₁, b₂, rfl⟩ := List.append_of_mem hv
  have hlist : h = (newer ++ removal :: b₁) ++ v :: (b₂ ++ warning :: older) := by
    rw [hsplit]
    simp
  rw [hlist] at hist
  obtain ⟨m', hist'⟩ := hist.of_append
  cases hist' with
  | pass hist' hG =>
    have hpos := hist'.warningsSent_pos h0 hw
    have hzero := hG hrec
    omega

end Runs

/-! ## A member removed for the sum of separate dips -/

/-- A response about a registered account that deposited `amount`. -/
def registeredBody (amount : Int) : Json :=
  .obj [("result", .obj [("result", .bool true), ("deposit_usdt_Onchain", .int amount)])]

def dippingVisit (n : Fin 2932896) (amount : Int) (decision : ComplianceDecision) :
    BitunixVisit where
  uid := "123456789"
  answer := .response 200 (.ok (registeredBody amount))
  rules := { minimumBalance := .ofInt 300 }
  graceDays := 30
  moment := .day n
  decision := decision

def warnVisit (n : Fin 2932896) (warningsAfter : Int) : BitunixVisit :=
  dippingVisit n 100 { action := .warn, warningsAfter, detail := some "INSUFFICIENT_BALANCE" }

/-- The account is funded again, and nothing comes of it. -/
def recoveredVisit (n : Fin 2932896) (warningsAfter : Int) : BitunixVisit :=
  dippingVisit n 500 { action := .none, skipReason := some .providerUnavailable, warningsAfter }

def removalVisit (n : Fin 2932896) (warningsAfter : Int) : BitunixVisit :=
  dippingVisit n 100
    { action := .revoke, warningsAfter, detail := some "INSUFFICIENT_BALANCE" }

theorem not_recovered_short (n : Fin 2932896) (d : ComplianceDecision) :
    ¬ Recovered (fun _ => "") (dippingVisit n 100 d) := by
  rintro ⟨check, hc, -, hlt⟩
  cases hc
  cases hlt

/-- A dip that lasts is warned about and ends in removal. -/
theorem lasting_dip_has_no_recovery :
    NoRecoveryBeforeRemoval (fun _ => "")
      [removalVisit 45 3, warnVisit 40 3, warnVisit 35 2, warnVisit 30 1] := by
  have unwarned : ∀ m n d, RecoversUnwarned (fun _ => "") m (dippingVisit n 100 d) :=
    fun _ n d hrec => absurd hrec (not_recovered_short n d)
  have h₀ : BitunixHistory (fun _ => "") {} (RecoversUnwarned fun _ => "") newMember []
      newMember := .start
  have h₁ := h₀.pass (v := warnVisit 30 1) (unwarned _ _ _) rfl rfl rfl
  have h₂ := h₁.pass (v := warnVisit 35 2) (unwarned _ _ _) rfl rfl rfl
  have h₃ := h₂.pass (v := warnVisit 40 3) (unwarned _ _ _) rfl rfl rfl
  exact no_recovery_before_removal rfl
    (h₃.pass (v := removalVisit 45 3) (unwarned _ _ _) rfl rfl rfl)

/-- Three dips, each followed by a recovery; the fourth ends in removal. -/
def dips : List BitunixVisit :=
  [removalVisit 51 3, recoveredVisit 46 3, warnVisit 44 3, recoveredVisit 39 2, warnVisit 37 2,
    recoveredVisit 32 1, warnVisit 30 1]

theorem wellFormed_dippingVisit (n : Fin 2932896) (amount : Int) (d : ComplianceDecision) :
    WellFormed (dippingVisit n amount d) := by
  refine ⟨200, _, _, true, rfl, rfl, rfl, rfl, ?_⟩
  intro field hfield
  simp only [DEPOSIT_FIELDS, List.mem_cons, List.not_mem_nil, or_false] at hfield
  rcases hfield with rfl | rfl | rfl
  · exact ⟨_, _, 0, rfl⟩
  · exact ⟨false, 0, 0, rfl⟩
  · exact ⟨false, 0, 0, rfl⟩

theorem dipping_member_is_removed :
    (∃ m, BitunixHistory (fun _ => "") {} (fun _ _ => True) newMember dips m) ∧
      (∀ v ∈ dips, WellFormed v) ∧ ¬ NoRecoveryBeforeRemoval (fun _ => "") dips := by
  refine ⟨?_, ?_, ?_⟩
  · have h₀ : BitunixHistory (fun _ => "") {} (fun _ _ => True) newMember [] newMember := .start
    have h₁ := h₀.pass (v := warnVisit 30 1) trivial rfl rfl rfl
    have h₂ := h₁.pass (v := recoveredVisit 32 1) trivial rfl rfl rfl
    have h₃ := h₂.pass (v := warnVisit 37 2) trivial rfl rfl rfl
    have h₄ := h₃.pass (v := recoveredVisit 39 2) trivial rfl rfl rfl
    have h₅ := h₄.pass (v := warnVisit 44 3) trivial rfl rfl rfl
    have h₆ := h₅.pass (v := recoveredVisit 46 3) trivial rfl rfl rfl
    exact ⟨_, h₆.pass (v := removalVisit 51 3) trivial rfl rfl rfl⟩
  · intro v hv
    simp only [dips, List.mem_cons, List.not_mem_nil, or_false] at hv
    rcases hv with rfl | rfl | rfl | rfl | rfl | rfl | rfl <;>
      exact wellFormed_dippingVisit ..
  · intro h
    refine h [] (removalVisit 51 3) [recoveredVisit 46 3] (warnVisit 44 3) _ rfl rfl rfl ?_ _
      (List.mem_singleton_self _) ⟨_, rfl, rfl, rfl⟩
    intro v hv
    rw [List.mem_singleton.mp hv]
    decide

end VipChannel

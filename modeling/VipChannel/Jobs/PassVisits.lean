/-
  VipChannel.Jobs.PassVisits

  Who a monitoring pass judges, and what an exchange that did not answer leaves alone.

  `Passed` says what the acts of a pass do; `Visited` adds that no membership of the list
  was left out without a reason, and that an account about which nothing was answered
  keeps its balance and gets no snapshot.
-/
import VipChannel.Jobs.PassActs

namespace VipChannel

open Lib MembershipMonitor

/-- Steps over a list of memberships, each with its reason. -/
inductive Visits (G : World → Op → Choice → Prop) (policy : CompliancePolicy)
    (periodStart moment : DateTime) : World → List VIPMembership → World → Prop
  | done {w : World} : Visits G policy periodStart moment w [] w
  | next {w w' w'' : World} {r r' : MonitorReport} {m : VIPMembership}
      {rest : List VIPMembership} :
      StepTaken G policy periodStart moment r w m r' w' →
      Visits G policy periodStart moment w' rest w'' →
      Visits G policy periodStart moment w (m :: rest) w''

/-! ## What was not answered -/

/-- The balance last known of account `id`. -/
def balanceOf (id : RowId) (r : ReferralAccount) : RowId × Option Decimal :=
  (r.id, if r.id = id then r.lastKnownBalance else none)

/-- Nothing is known about account `id` that was not known before. -/
structure NothingLearnt (id : RowId) (d d' : Database) : Prop where
  balance : (d' .referralAccounts).map (balanceOf id) = (d .referralAccounts).map (balanceOf id)
  snapshots : (d' .tradingActivitySnapshots).filter (·.referralAccountId == id) =
    (d .tradingActivitySnapshots).filter (·.referralAccountId == id)

theorem NothingLearnt.trans {id : RowId} {d d' d'' : Database} (h : NothingLearnt id d d')
    (h' : NothingLearnt id d' d'') : NothingLearnt id d d'' :=
  ⟨h'.balance.trans h.balance, h'.snapshots.trans h.snapshots⟩

section Visited

variable {G : World → Op → Choice → Prop} {policy : CompliancePolicy}
  {periodStart moment : DateTime} {w₀ w w' : World} {ms : List VIPMembership} {acts : List Act}
  {m : VIPMembership}

/-- A judgement through another account, or without an answer, teaches nothing about `id`. -/
theorem nothingLearnt_outcome {j : Judgement} {x : Reaction} {id : RowId}
    (h : j.account.id = id → j.check = none) :
    NothingLearnt id w.view (j.outcome policy w.tenantId m periodStart moment x w).view where
  balance := by
    rw [view_outcome_accounts]
    refine map_modifyRows_of fun r hr => ?_
    have hid := World.inScope_cond hr
    simp only [beq_iff_eq] at hid
    have hkept : (recordVerdict j.check j.verdict moment r).id = r.id := rfl
    simp only [balanceOf, hkept]
    by_cases hr' : r.id = id
    · have hnone := h (hid.symm.trans hr')
      simp only [hr', hnone, recordVerdict, ReferralOnboardingService.recordCheck]
    · simp only [hr', if_false]
  snapshots := by
    rcases @outcome_snapshots w w.tenantId j policy m periodStart moment x with
      ⟨-, hrows, -⟩ | ⟨hanswered, row, hkey, ⟨hrows, -⟩ | ⟨hrows, -⟩⟩
    · rw [hrows]
    · have hother : (row.referralAccountId == id) = false := by
        simp only [snapshotKey, Prod.mk.injEq] at hkey
        rw [beq_eq_false_iff_ne, hkey.2.1]
        exact fun hid => hanswered (h hid)
      rw [hrows, List.filter_append, List.filter_cons_of_neg (by simp [hother]),
        List.filter_nil, List.append_nil]
    · rw [hrows]

/-- The steps over `ms` came down to `acts`, and nobody was passed over without a reason. -/
structure Visited (G : World → Op → Choice → Prop) (policy : CompliancePolicy)
    (periodStart moment : DateTime) (w : World) (ms : List VIPMembership) (acts : List Act)
    (w' : World) : Prop extends Passed G policy periodStart moment w ms acts w' where
  complete : ∀ m ∈ ms, (∃ a ∈ acts, a.membership = m) ∨ ∃ picked, Unasked w m picked
  unanswered : ∀ id, (∀ a ∈ acts, a.judgement.account.id = id → a.judgement.check = none) →
    NothingLearnt id w.view w'.view

theorem Visited.start (h : w.SameButJobs w') :
    Visited G policy periodStart moment w [] [] w' where
  toPassed := .start h
  complete := fun _ hm => nomatch hm
  unanswered := fun _ _ => by
    have haccounts := h.view .referralAccounts (by decide)
    have hsnapshots := h.view .tradingActivitySnapshots (by decide)
    exact ⟨by rw [haccounts], by rw [hsnapshots]⟩

/-- Who is passed over in the middle of a pass would have been at its start. -/
theorem Passed.unasked {picked : Option RowId}
    (h : Passed G policy periodStart moment w₀ ms acts w) (hm : Unasked w m picked) :
    Unasked w₀ m picked := by
  have ht := h.tenantId
  have hscope : ∀ r s : ReferralAccount, accountFacts r = accountFacts s →
      w.inScope (t := .referralAccounts) (accountOf w.tenantId m) r =
        w₀.inScope (t := .referralAccounts) (accountOf w₀.tenantId m) s := by
    intro r s hfacts
    simp only [accountFacts, Prod.mk.injEq] at hfacts
    simp only [World.inScope, rowTenant, accountOf, ht, hfacts]
  cases hm with
  | noAccount hnone =>
    refine .noAccount fun s hs => ?_
    obtain ⟨r, hr, hfacts⟩ := exists_of_map_eq h.accountsKept.symm hs
    rw [← hscope r s hfacts]
    exact hnone r hr
  | @noProgram account hmem hin hnone =>
    obtain ⟨s, hs, hfacts⟩ := exists_of_map_eq h.accountsKept hmem
    have hconfigs : w.view .referralProgramConfigs = w₀.view .referralProgramConfigs :=
      h.other _ (by decide)
    have hnone₀ := hnone.of_view hconfigs ht
    have hin₀ := (hscope account s hfacts.symm).symm.trans hin
    simp only [accountFacts, Prod.mk.injEq] at hfacts
    have hprogram : programOf w₀.tenantId account = programOf w₀.tenantId s := by
      funext config
      simp only [programOf, hfacts]
    rw [ht, hprogram] at hnone₀
    rw [← hfacts.1]
    exact .noProgram hs hin₀ hnone₀

/-- One more step. -/
theorem Visited.step {r r' : MonitorReport} (h : Visited G policy periodStart moment w₀ ms acts w)
    (hstep : StepTaken G policy periodStart moment r w m r' w') :
    ∃ acts', Visited G policy periodStart moment w₀ (ms ++ [m]) acts' w' := by
  cases hstep with
  | unasked hm =>
    refine ⟨acts, h.toPassed.skip, fun m' hm' => ?_, h.unanswered⟩
    rcases List.mem_append.mp hm' with hm' | hm'
    · exact h.complete m' hm'
    · rw [List.mem_singleton.mp hm']
      exact .inr ⟨_, h.toPassed.unasked hm⟩
  | judged hj hx =>
    obtain ⟨a, rfl, hid, hcheck, -, hpassed⟩ := h.toPassed.judge hj hx
    refine ⟨acts ++ [a], hpassed, fun m' hm' => ?_, fun id hall => ?_⟩
    · rcases List.mem_append.mp hm' with hm' | hm'
      · rcases h.complete m' hm' with ⟨b, hb, hbm⟩ | hnone
        · exact .inl ⟨b, List.mem_append_left _ hb, hbm⟩
        · exact .inr hnone
      · rw [List.mem_singleton.mp hm']
        exact .inl ⟨a, List.mem_append_right _ (List.mem_singleton.mpr rfl), rfl⟩
    · have hbefore := h.unanswered id fun b hb => hall b (List.mem_append_left _ hb)
      have hthis := hall a (List.mem_append_right _ (List.mem_singleton.mpr rfl))
      rw [hid, hcheck] at hthis
      exact hbefore.trans (nothingLearnt_outcome hthis)

theorem Visits.visited {rest : List VIPMembership}
    (h : Visited G policy periodStart moment w₀ ms acts w)
    (hvisits : Visits G policy periodStart moment w rest w') :
    ∃ acts', Visited G policy periodStart moment w₀ (ms ++ rest) acts' w' := by
  induction hvisits generalizing ms acts with
  | done => exact ⟨acts, by rw [List.append_nil]; exact h⟩
  | @next w w₁ w'' r r₁ m rest hstep _ ih =>
    obtain ⟨more, hmore⟩ := h.step hstep
    obtain ⟨acts', hacts'⟩ := ih hmore
    refine ⟨acts', ?_⟩
    rwa [List.append_assoc, List.singleton_append] at hacts'

end Visited

/-! ## The loop of a pass -/

section Rules

variable {G : World → Op → Choice → Prop} {w : World} {period : TimeDelta}
  {policy : CompliancePolicy} {periodStart moment : DateTime}

theorem StepTaken.tenantId {m : VIPMembership} {r r' : MonitorReport} {w' : World}
    (h : StepTaken G policy periodStart moment r w m r' w') : w'.tenantId = w.tenantId :=
  StepResult.tenantId h.result

theorem meets_visits {ms : List VIPMembership} {r : MonitorReport} :
    Meets G (ms.foldlM (process period policy w.tenantId periodStart moment) r)
      (fun _ w' => Visits G policy periodStart moment w ms w') (fun _ _ => True) w := by
  induction ms generalizing w r with
  | nil => exact .done
  | cons m rest ih =>
    rw [List.foldlM_cons, meets_bind]
    refine meets_mono meets_process_visit (fun r' w' hstep => ?_) fun _ _ _ => trivial
    have hrest := ih (w := w') (r := r')
    rw [hstep.tenantId] at hrest
    exact meets_mono hrest (fun _ _ h => .next hstep h) fun _ _ h => h

/-- The loop of a run visits every membership that is to be monitored. -/
theorem meets_processAll_visits :
    Meets G (processAll period policy w.tenantId periodStart moment)
      (fun _ w' => ∃ ms, ms.Perm ((w.view .vipMemberships).filter
          (w.inScope (t := .vipMemberships) (monitoredRow w.tenantId))) ∧
        Visits G policy periodStart moment w ms w') (fun _ _ => True) w := by
  unfold processAll MembershipRepository.listByStatus
  rw [meets_bind]
  refine meets_select (fun _ ms hms => ?_) fun _ => trivial
  exact meets_mono meets_visits (fun _ _ h => ⟨ms, hms, h⟩) fun _ _ h => h

/-- A run that returns having claimed its period. -/
theorem meets_run_visits {now : Option DateTime} (hconflict : w.conflict = none) :
    Meets G (run period policy w.tenantId now)
      (RunOf G period now w fun moment periodStart w₁ _ w₂ => ∃ ms acts,
        Started G period now w moment periodStart w₁ ms ∧
          Visited G policy periodStart moment w ms acts w₂)
      (fun _ _ => True) w := by
  refine meets_run_of hconflict trivial fun moment periodStart w₁ hbegun => ?_
  have hall : Meets G (processAll period policy w₁.tenantId periodStart moment) _ _ w₁ :=
    meets_processAll_visits
  have ht := hbegun.claimed.same.tenantId
  rw [ht] at hall
  refine meets_mono hall ?_ fun _ _ h => h
  rintro r w₂ ⟨ms, hms, hvisits⟩
  rw [← ht] at hms
  obtain ⟨acts, hacts⟩ := hvisits.visited (.start hbegun.claimed.same)
  exact ⟨ms, acts, hbegun.listed hms, hacts⟩

end Rules

end VipChannel

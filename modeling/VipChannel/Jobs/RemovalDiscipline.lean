/-
  VipChannel.Jobs.RemovalDiscipline

  The life of one membership row under the monitoring passes: each pass decides
  (`decideCompliance`) and writes what it decided (`VIPMembership.applied`).

  `History` relates the completed passes, newest first, to the row they leave.  What
  the row counts is tied to the history by `Tracks`: as long as the row is monitored,
  its counter and its last warning are those of the current streak, the passes since
  the last eligible verdict.
-/
import VipChannel.Jobs.MembershipMonitor

namespace VipChannel

open Lib

/-- One completed pass over the membership. -/
structure Visit where
  moment : DateTime
  verdict : EligibilityVerdict
  graceDays : Int
  decision : ComplianceDecision

namespace Visit

/-- The policy of a pass: the job's, with the grace period the tenant has configured. -/
def policy (base : CompliancePolicy) (v : Visit) : CompliancePolicy :=
  { base with onboardingGraceDays := v.graceDays }

def warns (v : Visit) : Bool := v.decision.action = .warn

def revokes (v : Visit) : Bool := v.decision.action = .revoke

end Visit

/-- The completed passes over a membership that started as `m₀`, newest first, and the
    row they leave.  Verdicts and instants are arbitrary. -/
inductive History (base : CompliancePolicy) (m₀ : VIPMembership) :
    List Visit → VIPMembership → Prop
  | start : History base m₀ [] m₀
  | pass {h : List Visit} {m : VIPMembership} {v : Visit} :
      History base m₀ h m →
      decideCompliance m.snapshot v.verdict (v.policy base) v.moment = .ok v.decision →
      History base m₀ (v :: h) (m.applied v.decision v.moment)

/-- The passes since the last eligible verdict. -/
def streak (h : List Visit) : List Visit :=
  h.takeWhile fun v => !v.verdict.eligible

/-- The warnings of the current streak, newest first. -/
def warnings (h : List Visit) : List Visit :=
  (streak h).filter Visit.warns

/-- Consecutive passes of a list, newest first, keep the warning interval. -/
def Spaced (base : CompliancePolicy) (vs : List Visit) : Prop :=
  vs.IsChain fun later earlier =>
    earlier.moment.utc + base.warningIntervalDays * MICROS_PER_DAY ≤ later.moment.utc

/-! ## The row follows its history -/

/-- While the row is monitored, it counts the warnings of the streak. -/
structure Tracks (base : CompliancePolicy) (h : List Visit) (m : VIPMembership) : Prop where
  sent : m.warningsSent = (warnings h).length
  last : m.lastWarningAt = (warnings h).head?.map (·.moment)
  bounded : m.warningsSent ≤ base.maxWarnings
  spaced : Spaced base (warnings h)

theorem streak_cons_eligible {h : List Visit} {v : Visit} (hv : v.verdict.eligible = true) :
    streak (v :: h) = [] := by
  simp [streak, List.takeWhile, hv]

theorem streak_cons {h : List Visit} {v : Visit} (hv : v.verdict.eligible = false) :
    streak (v :: h) = v :: streak h := by
  simp [streak, List.takeWhile, hv]

theorem warnings_cons_eligible {h : List Visit} {v : Visit} (hv : v.verdict.eligible = true) :
    warnings (v :: h) = [] := by
  simp [warnings, streak_cons_eligible hv]

theorem warnings_cons_quiet {h : List Visit} {v : Visit} (hv : v.verdict.eligible = false)
    (hw : v.warns = false) : warnings (v :: h) = warnings h := by
  simp [warnings, streak_cons hv, hw]

theorem warnings_cons_warn {h : List Visit} {v : Visit} (hv : v.verdict.eligible = false)
    (hw : v.warns = true) : warnings (v :: h) = v :: warnings h := by
  simp [warnings, streak_cons hv, hw]

theorem eligible_of_mem_streak {h : List Visit} {v : Visit} (hv : v ∈ streak h) :
    v.verdict.eligible = false := by
  have := List.mem_takeWhile_imp hv
  simpa using this

/-- The warning interval separates the pass from the last warning of the streak. -/
theorem Tracks.spaced_cons {base : CompliancePolicy} {h : List Visit} {m : VIPMembership}
    {v : Visit} (ht : Tracks base h m)
    (hp : Punishable m.snapshot v.verdict (v.policy base) v.moment) :
    Spaced base (v :: warnings h) := by
  have hlast := ht.last
  have hspaced := ht.spaced
  cases hw : warnings h with
  | nil => exact List.isChain_singleton _
  | cons w ws =>
    rw [hw] at hlast hspaced
    exact List.isChain_cons_cons.mpr ⟨hp.spaced w.moment hlast, hspaced⟩

/-- Memberships are never monitored again once they are not. -/
theorem monitored_of_applied {m : VIPMembership} {d : ComplianceDecision} {moment : DateTime}
    (h : (m.applied d moment).status.monitored = true) :
    m.status.monitored = true ∧ d.action ≠ .revoke := by
  unfold VIPMembership.applied at h
  cases ha : d.action <;> simp only [ha] at h
  · exact ⟨h, nofun⟩
  · exact ⟨h, nofun⟩
  · simp [VIPMembership.removed, MembershipStatus.monitored] at h
  · refine ⟨?_, nofun⟩
    simp only [VIPMembership.restored] at h
    split at h
    · next hs => simp [hs, MembershipStatus.monitored]
    · exact h

/-- One pass keeps the row and its history together. -/
theorem tracks_pass {base : CompliancePolicy} {h : List Visit} {m : VIPMembership} {v : Visit}
    (hmax : 1 ≤ base.maxWarnings) (ht : Tracks base h m)
    (hd : decideCompliance m.snapshot v.verdict (v.policy base) v.moment = .ok v.decision)
    (hmon : (m.applied v.decision v.moment).status.monitored = true) :
    Tracks base (v :: h) (m.applied v.decision v.moment) := by
  obtain ⟨hmon₀, hnrev⟩ := monitored_of_applied hmon
  rcases decideCompliance_cases hd with ⟨ha, hel⟩ | ⟨ha, -, hel⟩ | ⟨ha, hp, hlt, hafter, -⟩ |
    ⟨ha, -⟩
  · -- Nothing was done: an eligible verdict found nothing to clear.
    have hrow : m.applied v.decision v.moment = m := by simp [VIPMembership.applied, ha]
    rw [hrow]
    by_cases hv : v.verdict.eligible = true
    · have hzero : m.warningsSent ≤ 0 := by
        rcases hel hv with h0 | h0
        · exact h0
        · exact absurd hmon₀ (by simp [VIPMembership.snapshot] at h0; simp [h0])
      have hnil : warnings h = [] := by
        have := ht.sent
        exact List.length_eq_zero_iff.mp (by omega)
      refine ⟨?_, ?_, ht.bounded, ?_⟩
      · rw [warnings_cons_eligible hv, ht.sent, hnil]
      · rw [warnings_cons_eligible hv, ht.last, hnil]
      · rw [warnings_cons_eligible hv]
        exact List.isChain_nil
    · have hv' : v.verdict.eligible = false := by simpa using hv
      have hw : v.warns = false := by simp [Visit.warns, ha]
      have hsame := warnings_cons_quiet (h := h) hv' hw
      exact ⟨by rw [hsame]; exact ht.sent, by rw [hsame]; exact ht.last, ht.bounded,
        by rw [hsame]; exact ht.spaced⟩
  · -- A restore clears the count, and the streak starts over.
    have hrow : m.applied v.decision v.moment = m.restored := by
      simp [VIPMembership.applied, ha]
    rw [hrow]
    refine ⟨?_, ?_, ?_, ?_⟩
    · simp [VIPMembership.restored, warnings_cons_eligible hel]
    · simp [VIPMembership.restored, warnings_cons_eligible hel]
    · change (0 : Int) ≤ base.maxWarnings
      omega
    · rw [warnings_cons_eligible hel]
      exact List.isChain_nil
  · -- A warning is counted on both sides.
    have hrow : m.applied v.decision v.moment = m.warned v.decision.warningsAfter v.moment := by
      simp [VIPMembership.applied, ha]
    have hw : v.warns = true := by simp [Visit.warns, ha]
    have hcons := warnings_cons_warn (h := h) hp.blamed.2 hw
    have hsent := ht.sent
    rw [hrow]
    refine ⟨?_, ?_, ?_, ?_⟩
    · rw [hcons, VIPMembership.warned, hafter, List.length_cons]
      simp only [VIPMembership.snapshot]
      omega
    · rw [hcons]
      rfl
    · simp only [VIPMembership.warned, hafter]
      simp only [Visit.policy] at hlt
      omega
    · rw [hcons]
      exact ht.spaced_cons hp
  · exact absurd ha hnrev

theorem History.tracks {base : CompliancePolicy} {m₀ m : VIPMembership} {h : List Visit}
    (hmax : 1 ≤ base.maxWarnings) (hsent : m₀.warningsSent = 0) (hlast : m₀.lastWarningAt = none)
    (hist : History base m₀ h m) (hmon : m.status.monitored = true) : Tracks base h m := by
  induction hist with
  | start =>
    refine ⟨by simp [hsent, warnings, streak], by simp [hlast, warnings, streak], by omega, ?_⟩
    exact List.isChain_nil
  | pass hist hd ih =>
    exact tracks_pass hmax (ih (monitored_of_applied hmon).1) hd hmon

/-! ## Removal -/

/-- A chain of `n` further passes reaches back `n` intervals. -/
theorem Spaced.reach {base : CompliancePolicy} {v first : Visit} {vs : List Visit}
    (hs : Spaced base (v :: vs)) (hfirst : vs.getLast? = some first) :
    first.moment.utc + vs.length * (base.warningIntervalDays * MICROS_PER_DAY) ≤
      v.moment.utc := by
  induction vs generalizing v with
  | nil => simp at hfirst
  | cons w ws ih =>
    obtain ⟨hvw, hws⟩ := List.isChain_cons_cons.mp hs
    cases ws with
    | nil =>
      simp only [List.getLast?_singleton, Option.some.injEq] at hfirst
      subst hfirst
      simpa using hvw
    | cons w' ws' =>
      rw [List.getLast?_cons_cons] at hfirst
      have := ih hws hfirst
      rw [List.length_cons, Int.natCast_add, Int.add_mul, Int.natCast_one, Int.one_mul]
      omega

/-- The oldest element of a filtered list, located in the list. -/
theorem exists_split_getLast?_filter {α : Type} {p : α → Bool} {l : List α} {a : α}
    (h : (l.filter p).getLast? = some a) :
    ∃ newer rest, l = newer ++ a :: rest ∧ p a = true ∧ ∀ b ∈ rest, p b = false := by
  induction l with
  | nil => simp at h
  | cons x xs ih =>
    by_cases hx : (xs.filter p) = []
    · have hnone : ∀ b ∈ xs, p b = false := by simpa using hx
      by_cases hpx : p x = true
      · simp only [List.filter_cons, hpx, if_true, hx, List.getLast?_singleton,
          Option.some.injEq] at h
        subst h
        exact ⟨[], xs, rfl, hpx, hnone⟩
      · simp [hpx, hx] at h
    · have hxs : (xs.filter p).getLast? = some a := by
        rw [List.filter_cons] at h
        split at h
        · obtain ⟨y, ys, hys⟩ := List.exists_cons_of_ne_nil hx
          rw [hys, List.getLast?_cons_cons] at h
          rw [hys, h]
        · exact h
      obtain ⟨newer, rest, rfl, hp, hrest⟩ := ih hxs
      exact ⟨x :: newer, rest, rfl, hp, hrest⟩

/-- What precedes a removal: exactly `maxWarnings` warnings since the last eligible
    verdict, the interval kept between them and before the removal, so that the removal
    comes `maxWarnings` intervals after the first of them, with no eligible verdict in
    between. -/
structure Disciplined (base : CompliancePolicy) (removal : Visit) (older : List Visit) :
    Prop where
  count : (warnings older).length = base.maxWarnings
  spaced : Spaced base (removal :: warnings older)
  first : ∃ newer first rest, streak older = newer ++ first :: rest ∧ first.warns = true ∧
    (∀ v ∈ rest, v.warns = false) ∧
    (∀ v ∈ removal :: newer, v.verdict.eligible = false) ∧
    first.moment.utc + base.maxWarnings * (base.warningIntervalDays * MICROS_PER_DAY) ≤
      removal.moment.utc

theorem disciplined_of_revokes {base : CompliancePolicy} {m₀ m : VIPMembership}
    {older : List Visit} {v : Visit} (hmax : 1 ≤ base.maxWarnings)
    (hsent : m₀.warningsSent = 0) (hlast : m₀.lastWarningAt = none)
    (hist : History base m₀ (v :: older) m) (hrev : v.revokes = true) :
    Disciplined base v older := by
  cases hist with
  | @pass _ m _ hist hd =>
    have hact : v.decision.action = .revoke := by simpa [Visit.revokes] using hrev
    rcases decideCompliance_cases hd with ⟨ha, -⟩ | ⟨ha, -⟩ | ⟨ha, -⟩ | ⟨-, hp, hle, -⟩
    · simp [ha] at hact
    · simp [ha] at hact
    · simp [ha] at hact
    have ht := hist.tracks hmax hsent hlast hp.monitored
    have hcount : (warnings older).length = base.maxWarnings := by
      have := ht.sent
      have := ht.bounded
      simp only [Visit.policy, VIPMembership.snapshot] at hle
      omega
    have hspaced := ht.spaced_cons hp
    refine ⟨hcount, hspaced, ?_⟩
    have hne : warnings older ≠ [] := by
      intro hnil
      rw [hnil] at hcount
      simp at hcount
      omega
    obtain ⟨first, hfirst⟩ := Option.ne_none_iff_exists'.mp
      (mt List.getLast?_eq_none_iff.mp hne)
    obtain ⟨newer, rest, hsplit, hwarns, hrest⟩ := exists_split_getLast?_filter hfirst
    refine ⟨newer, first, rest, hsplit, hwarns, hrest, ?_, ?_⟩
    · intro u hu
      rcases List.mem_cons.mp hu with rfl | hu
      · exact hp.blamed.2
      · exact eligible_of_mem_streak (hsplit ▸ List.mem_append_left _ hu)
    · have := hspaced.reach hfirst
      rw [← hcount]
      exact this

theorem applied_memberSince (m : VIPMembership) (d : ComplianceDecision) (moment : DateTime) :
    (m.applied d moment).snapshot.memberSince = m.snapshot.memberSince := by
  unfold VIPMembership.applied
  cases d.action <;> rfl

theorem History.memberSince {base : CompliancePolicy} {m₀ m : VIPMembership} {h : List Visit}
    (hist : History base m₀ h m) : m.snapshot.memberSince = m₀.snapshot.memberSince := by
  induction hist with
  | start => rfl
  | pass _ _ ih => rw [applied_memberSince, ih]

/-- No pass goes against the member within the grace period. -/
theorem History.grace {base : CompliancePolicy} {m₀ m : VIPMembership} {h : List Visit}
    (hist : History base m₀ h m) :
    ∀ v ∈ h, v.warns = true ∨ v.revokes = true →
      m₀.snapshot.memberSince.utc + v.graceDays * MICROS_PER_DAY ≤ v.moment.utc := by
  induction hist with
  | start => exact fun _ hu => absurd hu List.not_mem_nil
  | @pass h m v hist hd ih =>
    intro u hu hact
    rcases List.mem_cons.mp hu with rfl | hu
    · have hact' : u.decision.action = .warn ∨ u.decision.action = .revoke := by
        simpa only [Visit.warns, Visit.revokes, decide_eq_true_eq] using hact
      have := (decideCompliance_punishable hd hact').graceOver
      rw [hist.memberSince] at this
      exact this
    · exact ih u hu hact

/-- Every part of a history is one. -/
theorem History.of_append {base : CompliancePolicy} {m₀ m : VIPMembership}
    {newer older : List Visit} (hist : History base m₀ (newer ++ older) m) :
    ∃ m', History base m₀ older m' := by
  induction newer generalizing m with
  | nil => exact ⟨m, hist⟩
  | cons v newer ih =>
    cases hist with
    | pass hist _ => exact ih hist

/-- Removal discipline: whatever the verdicts and instants of the passes, each removal is
    preceded by its warnings, and none of it happens within the grace period. -/
theorem removal_disciplined {base : CompliancePolicy} {m₀ m : VIPMembership} {h : List Visit}
    (hmax : 1 ≤ base.maxWarnings) (hsent : m₀.warningsSent = 0)
    (hlast : m₀.lastWarningAt = none) (hist : History base m₀ h m) :
    (∀ newer v older, h = newer ++ v :: older → v.revokes = true → Disciplined base v older) ∧
    (∀ v ∈ h, v.warns = true ∨ v.revokes = true →
      m₀.snapshot.memberSince.utc + v.graceDays * MICROS_PER_DAY ≤ v.moment.utc) := by
  refine ⟨fun newer v older hsplit hrev => ?_, hist.grace⟩
  subst hsplit
  obtain ⟨m', hist'⟩ := hist.of_append
  exact disciplined_of_revokes hmax hsent hlast hist' hrev

/-- A member of the first day, not yet warned. -/
def newMember : VIPMembership where
  id := 1
  createdAt := .day 0
  tenantId := 1
  userId := 1
  channelId := 1
  subscriptionId := some 1
  status := .invited

/-- A pass that finds the account unregistered. -/
def unregisteredVisit (moment : DateTime) (action : ComplianceAction) (warningsAfter : Int) :
    Visit where
  moment := moment
  verdict := { reason := .notRegistered, complianceState := .nonCompliant }
  graceDays := 30
  decision := { action, warningsAfter, detail := some "NOT_REGISTERED" }

/-- With one warning allowed, a removal comes five days after it. -/
theorem removal_after_one_warning :
    Disciplined { maxWarnings := 1 } (unregisteredVisit (.day 35) .revoke 1)
      [unregisteredVisit (.day 30) .warn 1] := by
  have h₀ : History { maxWarnings := 1 } newMember [] newMember := .start
  have h₁ := h₀.pass (v := unregisteredVisit (.day 30) .warn 1) rfl
  have h₂ := h₁.pass (v := unregisteredVisit (.day 35) .revoke 1) rfl
  exact (removal_disciplined (by decide) rfl rfl h₂).1 [] _ _ rfl rfl

end VipChannel

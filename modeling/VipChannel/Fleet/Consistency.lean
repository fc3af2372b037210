/-
  VipChannel.Fleet.Consistency

  What holds of the instances in every interleaving.

  A row is inserted by one transaction, and locked by one; what a transaction has seen is
  there; and every invite was minted for the user whose account the transaction saw.
-/
import VipChannel.Fleet.Provenance

namespace VipChannel

open Lib

/-- The account of the enrolment and its user are among the rows. -/
def Enrolment.Backed (e : Enrolment) (tenantId : TenantId) (userId : RowId) (rows : List Claim) :
    Prop :=
  .user userId tenantId e.telegramUserId ∈ rows ∧
    .account tenantId e.providerType e.uid userId ∈ rows

theorem Enrolment.Backed.mono {e : Enrolment} {tenantId : TenantId} {userId : RowId}
    {rows rows' : List Claim} (h : e.Backed tenantId userId rows)
    (hsub : ∀ c ∈ rows, c ∈ rows') : e.Backed tenantId userId rows' :=
  ⟨hsub _ h.1, hsub _ h.2⟩

namespace Fleet

/-- Rows that are known to a transaction, or to one that was committed, are there. -/
structure Consistent {ι : Type} (who : ι → Option Enrolment) (f : Fleet ι) : Prop where
  /-- A row that is not committed is one transaction's. -/
  apart : ∀ i, ∀ c ∈ (f.shifts i).held, c ∉ f.claimed ∧ ∀ j, j ≠ i → c ∉ (f.shifts j).held
  /-- No two rows violate a constraint, committed or not. -/
  coherent : ∀ c c', f.Present c → f.Present c' → c.conflicts c' = true → c = c'
  saved : ∀ i, (∀ c ∈ (f.shifts i).saved.1, c ∈ (f.shifts i).held) ∧
    ∀ c ∈ (f.shifts i).saved.2, c ∈ (f.shifts i).locked
  locks : ∀ i, ∀ c ∈ (f.shifts i).locked, ∀ j, j ≠ i →
    c ∉ (f.shifts j).locked ∧ c ∉ (f.shifts j).held
  known : ∀ i, ∀ c ∈ (f.shifts i).known, c ∈ f.claimed ∨ c ∈ (f.shifts i).held
  vouched : ∀ i, ∀ c ∈ (f.shifts i).vouched, c ∈ f.claimed
  minted : ∀ i, ∀ x ∈ (f.shifts i).told, x.call.mints → ∃ e userId, who i = some e ∧
    e.Backed x.tenantId userId (f.shifts i).known
  kept : ∀ i, ∀ x ∈ (f.shifts i).confirmed, x.call.mints → ∃ e userId, who i = some e ∧
    e.Backed x.tenantId userId f.claimed

theorem Idle.consistent {ι : Type} {who : ι → Option Enrolment} {f : Fleet ι} (h : f.Idle) :
    f.Consistent who where
  apart j c hc := by
    rw [h.shifts j] at hc
    cases hc
  coherent c c' hc hc' := by
    have hclaimed : ∀ c, f.Present c → c ∈ f.claimed := by
      rintro c (hc | ⟨j, hc⟩)
      · exact hc
      · rw [h.shifts j] at hc
        cases hc
    exact h.claimed c (hclaimed c hc) c' (hclaimed c' hc')
  saved j := by
    rw [h.shifts j]
    exact ⟨fun _ hc => hc, fun _ hc => hc⟩
  locks j c hc := by
    rw [h.shifts j] at hc
    cases hc
  known j c hc := by
    rw [h.shifts j] at hc
    cases hc
  vouched j c hc := by
    rw [h.shifts j] at hc
    cases hc
  minted j x hx := by
    rw [h.shifts j] at hx
    cases hx
  kept j x hx := by
    rw [h.shifts j] at hx
    cases hx

/-- What is let in conflicts with nothing that is there. -/
theorem conflicts_of_clear {ι : Type} {f : Fleet ι} {i : ι} {c c' : Claim}
    (hclear : f.Clear i) (hc : c ∈ (f.shifts i).pending) (hc' : f.Present c') :
    c.conflicts c' = false := by
  rcases hc' with hc' | ⟨j, hc'⟩
  · exact hclear.unclaimed c hc c' hc'
  · exact hclear.unheld c hc j c' hc'

section Step

variable {ι : Type} [DecidableEq ι] {who : ι → Option Enrolment} {f : Fleet ι} {i : ι}
  {d : Decision} {op : Op} {landed : Bool}

/-- What is visible to a transaction stays so while it goes on. -/
theorem visible_after {c : Claim} (hcont : op.Continues landed)
    (hc : c ∈ f.claimed ∨ c ∈ (f.shifts i).held) :
    c ∈ (f.after i d op landed).claimed ∨ c ∈ ((f.after i d op landed).shifts i).held := by
  rcases hc with hc | hc
  · exact .inl (mem_claimed_after hc)
  · right
    rw [after_shift_self]
    exact (Shift.grows_after hcont).held c hc

variable (h : f.Consistent who) (hadmits : f.Admits i d op landed)

include h hadmits

/-- A row that is there after the call was there before, or was let in. -/
theorem present_after {c : Claim} (hc : (f.after i d op landed).Present c) :
    f.Present c ∨ (c ∈ (f.shifts i).pending ∧ f.Clear i) := by
  rcases hc with hc | ⟨j, hc⟩
  · rcases claimed_after hc with hold | ⟨⟨rfl, rfl⟩, hheld | hpending⟩
    · exact .inl (.inl hold)
    · exact .inl (.inr ⟨i, hheld⟩)
    · exact .inr ⟨hpending, hadmits.clear trivial rfl⟩
  · by_cases hj : j = i
    · subst hj
      rw [after_shift_self] at hc
      rcases Shift.held_after hc with ⟨hold, -⟩ | ⟨hpending, hsends, -⟩ | ⟨hsaved, -⟩
      · exact .inl (.inr ⟨j, hold⟩)
      · exact .inr ⟨hpending, hadmits.clear hsends.1 hsends.2⟩
      · exact .inl (.inr ⟨j, (h.saved j).1 c hsaved⟩)
    · rw [after_shift_other hj] at hc
      exact .inl (.inr ⟨j, hc⟩)

theorem coherent_after (c c' : Claim) (hc : (f.after i d op landed).Present c)
    (hc' : (f.after i d op landed).Present c') (hconflict : c.conflicts c' = true) : c = c' := by
  rcases present_after h hadmits hc with hc | ⟨hc, hclear⟩
  · rcases present_after h hadmits hc' with hc' | ⟨hc', hclear⟩
    · exact h.coherent c c' hc hc' hconflict
    · have hno := conflicts_of_clear hclear hc' hc
      rw [Claim.conflicts_comm, hconflict] at hno
      cases hno
  · rcases present_after h hadmits hc' with hc' | ⟨hc', -⟩
    · have hno := conflicts_of_clear hclear hc hc'
      rw [hconflict] at hno
      cases hno
    · by_contra hne
      have hdistinct := hclear.distinct.forall hc hc' hne
      rw [hconflict] at hdistinct
      cases hdistinct

theorem apart_after (j : ι) (c : Claim) (hc : c ∈ ((f.after i d op landed).shifts j).held) :
    c ∉ (f.after i d op landed).claimed ∧
      ∀ k, k ≠ j → c ∉ ((f.after i d op landed).shifts k).held := by
  have hself := Claim.conflicts_self c
  have hfree : ∀ {c'}, c' = c → f.Clear i → c' ∈ (f.shifts i).pending → ¬ f.Present c := by
    rintro c' rfl hclear hpending hpresent
    rw [conflicts_of_clear hclear hpending hpresent] at hself
    cases hself
  by_cases hj : j = i
  · subst hj
    rw [after_shift_self] at hc
    have hnot : ¬ op.Commits landed := by
      rintro ⟨rfl, rfl⟩
      cases hc
    have hold : c ∉ f.claimed ∧ ∀ k, k ≠ j → c ∉ (f.shifts k).held := by
      rcases Shift.held_after hc with ⟨hold, -⟩ | ⟨hpending, hsends, -⟩ | ⟨hsaved, -⟩
      · exact h.apart j c hold
      · have hno := hfree rfl (hadmits.clear hsends.1 hsends.2) hpending
        exact ⟨fun hmem => hno (.inl hmem), fun k _ hmem => hno (.inr ⟨k, hmem⟩)⟩
      · exact h.apart j c ((h.saved j).1 c hsaved)
    refine ⟨fun hmem => ?_, fun k hk => ?_⟩
    · rcases claimed_after hmem with hmem | ⟨hcommit, -⟩
      · exact hold.1 hmem
      · exact hnot hcommit
    · rw [after_shift_other hk]
      exact hold.2 k hk
  · rw [after_shift_other hj] at hc
    obtain ⟨hno, hothers⟩ := h.apart j c hc
    have hpresent : f.Present c := .inr ⟨j, hc⟩
    refine ⟨fun hmem => ?_, forall_shifts (P := fun k s => k ≠ j → c ∉ s.held) ?_
      fun k _ => hothers k⟩
    · rcases claimed_after hmem with hold | ⟨⟨rfl, rfl⟩, hheld | hpending⟩
      · exact hno hold
      · exact hothers i (Ne.symm hj) hheld
      · exact hfree rfl (hadmits.clear trivial rfl) hpending hpresent
    · intro _ hmem
      rcases Shift.held_after hmem with ⟨hold, -⟩ | ⟨hpending, hsends, -⟩ | ⟨hsaved, -⟩
      · exact hothers i (Ne.symm hj) hold
      · exact hfree rfl (hadmits.clear hsends.1 hsends.2) hpending hpresent
      · exact hothers i (Ne.symm hj) ((h.saved i).1 c hsaved)

theorem locks_after (j : ι) (c : Claim) (hc : c ∈ ((f.after i d op landed).shifts j).locked) :
    ∀ k, k ≠ j → c ∉ ((f.after i d op landed).shifts k).locked ∧
      c ∉ ((f.after i d op landed).shifts k).held := by
  by_cases hj : j = i
  · subst hj
    rw [after_shift_self] at hc
    intro k hk
    rw [after_shift_other hk]
    rcases Shift.locked_after hc with hc | ⟨hc, hsends⟩ | hc
    · exact h.locks j c hc k hk
    · exact (hadmits.clear hsends.1 hsends.2).unlocked c (List.mem_append_right _ hc) k hk
    · exact h.locks j c ((h.saved j).2 c hc) k hk
  · rw [after_shift_other hj] at hc
    refine forall_shifts (P := fun k s => k ≠ j → c ∉ s.locked ∧ c ∉ s.held) ?_
      fun k _ => h.locks j c hc k
    obtain ⟨hlocked, hheld⟩ := h.locks j c hc i (Ne.symm hj)
    refine fun _ => ⟨fun hmem => ?_, fun hmem => ?_⟩
    · rcases Shift.locked_after hmem with hmem | ⟨hmem, hsends⟩ | hmem
      · exact hlocked hmem
      · have hclear := hadmits.clear hsends.1 hsends.2
        exact (hclear.unlocked c (List.mem_append_right _ hmem) j hj).1 hc
      · exact hlocked ((h.saved i).2 c hmem)
    · rcases Shift.held_after hmem with ⟨hold, -⟩ | ⟨hpending, hsends, -⟩ | ⟨hsaved, -⟩
      · exact hheld hold
      · have hclear := hadmits.clear hsends.1 hsends.2
        exact (hclear.unlocked c (List.mem_append_left _ hpending) j hj).1 hc
      · exact hheld ((h.saved i).1 c hsaved)

theorem known_after (j : ι) (c : Claim) (hc : c ∈ ((f.after i d op landed).shifts j).known) :
    c ∈ (f.after i d op landed).claimed ∨ c ∈ ((f.after i d op landed).shifts j).held := by
  by_cases hj : j = i
  swap
  · rw [after_shift_other hj] at hc ⊢
    exact (h.known j c hc).imp_left mem_claimed_after
  subst hj
  rw [after_shift_self] at hc
  rcases Shift.known_after hc with ⟨hold, hcont⟩ | ⟨hpending, hsends⟩ |
    ⟨t, cond, rfl, rfl, hread⟩
  · exact visible_after hcont (h.known j c hold)
  · rw [after_shift_self]
    obtain ⟨hflushes, rfl⟩ := hsends
    cases op with
    | select | flush | releaseSavepoint | savepoint =>
      exact .inr (List.mem_append_right _ hpending)
    | commit => exact .inl (List.mem_append_right _ (List.mem_append_right _ hpending))
    | openSession | closeSession | rollback | rollbackToSavepoint | add | update | telegram
    | utcnow | uuid4 | activeTenantIds | tenantsOfToken | tokenUrlsafe | encrypt | validateUser =>
      exact hflushes.elim
  · obtain ⟨r, hr, hclaim⟩ := List.mem_filterMap.mp hread
    have hshown := (hadmits.shown t cond rfl rfl).sound r (Shift.mem_rows.mp hr).1 c hclaim
    rw [after_shift_self]
    exact List.mem_append.mp hshown

theorem vouched_after (j : ι) (c : Claim) (hc : c ∈ ((f.after i d op landed).shifts j).vouched) :
    c ∈ (f.after i d op landed).claimed := by
  by_cases hj : j = i
  swap
  · rw [after_shift_other hj] at hc
    exact mem_claimed_after (h.vouched j c hc)
  subst hj
  rw [after_shift_self] at hc
  rcases Shift.vouched_after hc with hold | ⟨hnew, rfl, rfl⟩
  · exact mem_claimed_after (h.vouched j c hold)
  · rcases List.mem_append.mp hnew with hknown | hpending
    · rcases h.known j c hknown with hclaimed | hheld
      · exact List.mem_append_left _ hclaimed
      · exact List.mem_append_right _ (List.mem_append_left _ hheld)
    · exact List.mem_append_right _ (List.mem_append_right _ hpending)

theorem minted_after (hmay : (f.shifts i).May (who i) op) (j : ι) (x : Sent)
    (hx : x ∈ ((f.after i d op landed).shifts j).told) (hmint : x.call.mints) :
    ∃ e userId, who j = some e ∧
      e.Backed x.tenantId userId ((f.after i d op landed).shifts j).known := by
  by_cases hj : j = i
  swap
  · rw [after_shift_other hj] at hx ⊢
    exact h.minted j x hx hmint
  subst hj
  rw [after_shift_self] at hx ⊢
  rcases Shift.told_after hx with ⟨hold, hcont | rfl⟩ | hnew
  · obtain ⟨e, userId, he, hbacked⟩ := h.minted j x hold hmint
    exact ⟨e, userId, he, hbacked.mono (Shift.grows_after hcont).known⟩
  · have hnone : (f.shifts j).told = [] := hmay
    rw [hnone] at hold
    cases hold
  · rcases (f.shifts j).messages_cases d op with
      hnone | ⟨call, about, y, rfl, hone, hy, hcall, -⟩
    · rw [hnone] at hnew
      cases hnew
    · rw [hone, List.mem_singleton] at hnew
      subst hnew
      rw [hcall] at hmint
      obtain ⟨e, userId, he, huser, haccount⟩ := hmay.2 hmint
      refine ⟨e, userId, he, ?_⟩
      rw [hy]
      exact ⟨huser, haccount⟩

theorem kept_after (j : ι) (x : Sent) (hx : x ∈ ((f.after i d op landed).shifts j).confirmed)
    (hmint : x.call.mints) : ∃ e userId, who j = some e ∧
      e.Backed x.tenantId userId (f.after i d op landed).claimed := by
  have hold : ∀ j, x ∈ (f.shifts j).confirmed → ∃ e userId, who j = some e ∧
      e.Backed x.tenantId userId (f.after i d op landed).claimed := by
    intro j hx
    obtain ⟨e, userId, he, hbacked⟩ := h.kept j x hx hmint
    exact ⟨e, userId, he, hbacked.mono fun _ => mem_claimed_after⟩
  by_cases hj : j = i
  swap
  · rw [after_shift_other hj] at hx
    exact hold j hx
  subst hj
  rw [after_shift_self] at hx
  rcases Shift.confirmed_after hx with hbefore | ⟨htold, rfl, rfl⟩
  · exact hold j hbefore
  · obtain ⟨e, userId, he, hbacked⟩ := h.minted j x htold hmint
    refine ⟨e, userId, he, hbacked.mono fun c hknown => ?_⟩
    rcases h.known j c hknown with hclaimed | hheld
    · exact List.mem_append_left _ hclaimed
    · exact List.mem_append_right _ (List.mem_append_left _ hheld)

/-- What an instance may do keeps all of them consistent. -/
theorem Consistent.after (hmay : (f.shifts i).May (who i) op) :
    (f.after i d op landed).Consistent who where
  apart := apart_after h hadmits
  coherent := coherent_after h hadmits
  saved j := by
    refine forall_shifts (P := fun _ s => (∀ c ∈ s.saved.1, c ∈ s.held) ∧
      ∀ c ∈ s.saved.2, c ∈ s.locked) ?_ (fun j _ => h.saved j) j
    exact Shift.saved_after (h.saved i).1 (h.saved i).2
  locks := locks_after h hadmits
  known := known_after h hadmits
  vouched := vouched_after h hadmits
  minted := minted_after h hadmits hmay
  kept := kept_after h hadmits

end Step

end Fleet

end VipChannel

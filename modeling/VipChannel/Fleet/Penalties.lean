/-
  VipChannel.Fleet.Penalties

  Nobody is punished twice for a period, as long as no transaction is taken back for which
  Telegram has carried out a penalty.

  A penalty is accounted for by the claim of its period: it is committed, or held by the
  transaction that meted the penalty out.  Claims exclude each other, so that a second
  penalty would have to come from the same transaction, which does not mete it out twice.
-/
import VipChannel.Fleet.Consistency

namespace VipChannel

open Lib

namespace Fleet

section Definitions

variable {ι : Type}

/-- How often a membership was punished for a period. -/
def penalties (f : Fleet ι) (tenantId : TenantId) (penalty : Penalty × RowId × Int) : Nat :=
  (f.sent.filter fun x => x.tenantId == tenantId && x.penalty == some penalty).length

/-- A membership is warned at most once, and banned at most once, for a period. -/
def AtMostOnce (f : Fleet ι) : Prop :=
  ∀ tenantId penalty, f.penalties tenantId penalty ≤ 1

/-- The period of the penalty is claimed, for good or by the transaction that meted it out. -/
def AccountedFor (f : Fleet ι) (x : Sent) (p : Penalty × RowId × Int) : Prop :=
  claimFor x.tenantId p ∈ f.claimed ∨
    ∃ i, claimFor x.tenantId p ∈ (f.shifts i).held ∧ x ∈ (f.shifts i).told

structure Punishes (f : Fleet ι) : Prop where
  accounted : ∀ x ∈ f.sent, ∀ p, x.penalty = some p → f.AccountedFor x p
  /-- Nobody is punished twice. -/
  once : f.sent.Pairwise fun x y => ∀ p, x.penalty = some p → y.penalty = some p →
    x.tenantId ≠ y.tenantId

theorem Idle.punishes {f : Fleet ι} (h : f.Idle) : f.Punishes where
  accounted x hx := by
    rw [h.sent] at hx
    cases hx
  once := by
    rw [h.sent]
    exact .nil

/-- Where nobody is punished twice, each penalty is counted once at most. -/
theorem Punishes.atMostOnce {f : Fleet ι} (h : f.Punishes) : f.AtMostOnce := by
  intro tenantId penalty
  have honce := h.once.filter fun x => x.tenantId == tenantId && x.penalty == some penalty
  have hmem : ∀ x ∈ f.sent.filter fun x => x.tenantId == tenantId && x.penalty == some penalty,
      x.tenantId = tenantId ∧ x.penalty = some penalty := by
    intro x hx
    simpa using (List.mem_filter.mp hx).2
  show (f.sent.filter _).length ≤ 1
  match hs : f.sent.filter fun x => x.tenantId == tenantId && x.penalty == some penalty with
  | [] =>
    rw [hs]
    exact Nat.zero_le 1
  | [x] =>
    rw [hs]
    exact Nat.le_refl 1
  | x :: y :: rest =>
    exfalso
    rw [hs] at honce hmem
    obtain ⟨hxt, hxp⟩ := hmem x List.mem_cons_self
    obtain ⟨hyt, hyp⟩ := hmem y (List.mem_cons_of_mem _ List.mem_cons_self)
    have hdiff := (List.pairwise_cons.mp honce).1 y List.mem_cons_self
    exact hdiff penalty hxp hyp (hxt.trans hyt.symm)

end Definitions

section Step

variable {ι : Type} [DecidableEq ι] {who : ι → Option Enrolment} {f : Fleet ι} {i : ι}
  {d : Decision} {op : Op} {landed : Bool}

/-- A penalty stays accounted for, as long as no transaction is taken back that meted one
    out. -/
theorem AccountedFor.after {x : Sent} {p : Penalty × RowId × Int} (h : f.AccountedFor x p)
    (hp : x.penalty = some p) (hundo : op.undoes → ∀ x ∈ (f.shifts i).told, x.penalty = none) :
    (f.after i d op landed).AccountedFor x p := by
  rcases h with h | ⟨j, hheld, htold⟩
  · exact .inl (mem_claimed_after h)
  by_cases hj : j = i
  swap
  · refine .inr ⟨j, ?_⟩
    rw [after_shift_other hj]
    exact ⟨hheld, htold⟩
  subst hj
  have hkept : ¬ op.undoes := by
    intro hundoes
    rw [hundo hundoes x htold] at hp
    cases hp
  by_cases hcommit : op.Commits landed
  · obtain ⟨rfl, rfl⟩ := hcommit
    left
    rw [after_committed]
    exact List.mem_append_right _ (List.mem_append_left _ hheld)
  · have hgrows := Shift.grows_after (s := f.shifts j) (d := d) ⟨hkept, hcommit⟩
    refine .inr ⟨j, ?_⟩
    rw [after_shift_self]
    exact ⟨hgrows.held _ hheld, hgrows.told _ htold⟩

/-- A transaction that may mete out a penalty is the first to do so. -/
theorem Punishes.first (h : f.Punishes) (hc : f.Consistent who) {call : TelegramCall}
    {about : Option Concern} (hmay : (f.shifts i).May (who i) (.telegram call about))
    {p : Penalty × RowId × Int} (hp : penaltyOf call about = some p) {x : Sent} (hx : x ∈ f.sent)
    (hxp : x.penalty = some p) : x.tenantId ≠ (f.shifts i).tenantId := by
  intro htenant
  obtain ⟨hheld, hnew⟩ := hmay.1 p hp
  rw [← htenant] at hheld
  obtain ⟨hfree, hothers⟩ := hc.apart i _ hheld
  rcases h.accounted x hx p hxp with hclaimed | ⟨j, hheldj, htold⟩
  · exact hfree hclaimed
  by_cases hj : j = i
  · subst hj
    exact hnew x htold hxp
  · exact hothers j hj hheldj

/-- Nobody is punished twice by what an instance may do. -/
theorem Punishes.after (h : f.Punishes) (hc : f.Consistent who)
    (hmay : (f.shifts i).May (who i) op)
    (hundo : op.undoes → ∀ x ∈ (f.shifts i).told, x.penalty = none) :
    (f.after i d op landed).Punishes := by
  have hkept : ∀ x ∈ f.sent, ∀ p, x.penalty = some p →
      (f.after i d op landed).AccountedFor x p :=
    fun x hx p hp => (h.accounted x hx p hp).after hp hundo
  rcases (f.shifts i).messages_cases d op with
    hnone | ⟨call, about, y, rfl, hone, hy, hcall, habout⟩
  · have hsent : (f.after i d op landed).sent = f.sent := by
      rw [after_sent, hnone, List.append_nil]
    refine ⟨?_, ?_⟩
    · rw [hsent]
      exact hkept
    · rw [hsent]
      exact h.once
  have hyp : y.penalty = penaltyOf call about := by
    rw [Sent.penalty, hcall, habout]
  refine ⟨?_, ?_⟩
  · rw [after_sent, hone]
    intro x hx p hp
    rcases List.mem_append.mp hx with hx | hx
    · exact hkept x hx p hp
    · rw [List.mem_singleton] at hx
      subst hx
      rw [hyp] at hp
      refine .inr ⟨i, ?_⟩
      rw [after_shift_self, hy]
      refine ⟨(hmay.1 p hp).1, ?_⟩
      show x ∈ (f.shifts i).told ++ (f.shifts i).messages d (.telegram call about)
      rw [hone]
      exact List.mem_append_right _ (List.mem_singleton.mpr rfl)
  · rw [after_sent, hone]
    refine List.pairwise_append.mpr ⟨h.once, List.pairwise_singleton _ _, ?_⟩
    intro x hx z hz p hxp hzp
    rw [List.mem_singleton] at hz
    subst hz
    rw [hyp] at hzp
    rw [hy]
    exact h.first hc hmay hzp hx hxp

end Step

end Fleet

end VipChannel

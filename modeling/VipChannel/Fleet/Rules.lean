/-
  VipChannel.Fleet.Rules

  Rules for what a program of one instance owes.

  Most of a program is blameless: whatever the state, nothing is owed for its calls.  A
  quiet program moreover leaves the transaction open and what it has, and tells nobody
  anything; what is known of a transaction is framed over it (`wp_quiet_bind`).
-/
import VipChannel.Fleet.Provenance
import VipChannel.Runs.Transactions
import VipChannel.Services.ServiceCalls

namespace VipChannel

open Lib
open Program (perform raising UsesOnly usesOnly_bind usesOnly_tryCatch usesOnly_perform
  usesOnly_raising)

/-- A call for which nothing is owed. -/
def Op.blameless : Op → Prop
  | .add t _ => t ≠ .webhookRoutes
  | .update t _ change => ∀ r, rowClaim t (change r) = rowClaim t r
  | .telegram call about => penaltyOf call about = none ∧ ¬ call.mints
  | .rollbackToSavepoint => False
  | .openSession _ | .closeSession | .select .. | .flush | .savepoint | .releaseSavepoint
  | .commit | .rollback | .utcnow | .uuid4 | .activeTenantIds | .tenantsOfToken _
  | .tokenUrlsafe | .encrypt _ | .validateUser _ => True

/-- One that also leaves the transaction open, and sends nothing. -/
def Op.quiet : Op → Prop
  | .add t _ => t ≠ .webhookRoutes
  | .update t _ change => ∀ r, rowClaim t (change r) = rowClaim t r
  | .select .. | .flush | .utcnow | .uuid4 | .activeTenantIds | .tenantsOfToken _
  | .tokenUrlsafe | .encrypt _ | .validateUser _ => True
  | .openSession _ | .closeSession | .savepoint | .releaseSavepoint | .rollbackToSavepoint
  | .commit | .rollback | .telegram .. => False

/-- One that leaves the transaction open, and may send what punishes and invites nobody. -/
def Op.mild : Op → Prop
  | .telegram call about => penaltyOf call about = none ∧ ¬ call.mints
  | op => op.quiet

theorem Op.mild_of_quiet {op : Op} (h : op.quiet) : op.mild := by
  cases op with
  | telegram => exact h.elim
  | _ => exact h

theorem Op.blameless_of_quiet {op : Op} (h : op.quiet) : op.blameless := by
  cases op with
  | add | update => exact h
  | openSession | closeSession | select | flush | savepoint | releaseSavepoint | commit | rollback
  | utcnow | uuid4 | activeTenantIds | tenantsOfToken | tokenUrlsafe | encrypt | validateUser =>
    trivial
  | telegram | rollbackToSavepoint => exact h.elim

theorem Op.quiet_of_mild {op : Op} (h : op.mild) (hno : ∀ call about, op ≠ .telegram call about) :
    op.quiet := by
  cases op with
  | telegram call about => exact (hno call about rfl).elim
  | _ => exact h

theorem Op.blameless_of_mild {op : Op} (h : op.mild) : op.blameless := by
  cases op with
  | telegram => exact h
  | _ => exact Op.blameless_of_quiet h

theorem Op.quiet_of_reads (op : Op) (h : op.reads) : op.quiet := by
  cases op with
  | select => trivial
  | _ => exact h.elim

namespace Shift

/-- What a quiet program keeps: also that nobody was told anything. -/
structure Keeps (s s' : Shift) : Prop extends Grows s s' where
  silent : ∀ x ∈ s'.told, x ∈ s.told

theorem Keeps.refl (s : Shift) : s.Keeps s := ⟨.refl s, fun _ h => h⟩

theorem Keeps.trans {s s' s'' : Shift} (h : s.Keeps s') (h' : s'.Keeps s'') : s.Keeps s'' :=
  ⟨h.toGrows.trans h'.toGrows, fun x hx => h.silent x (h'.silent x hx)⟩

theorem Keeps.told_nil {s s' : Shift} (h : s.Keeps s') (hnone : s.told = []) : s'.told = [] := by
  refine List.eq_nil_iff_forall_not_mem.mpr fun x hx => ?_
  have hbefore := h.silent x hx
  rw [hnone] at hbefore
  cases hbefore

section Rules

variable {α β : Type} {who : Option Enrolment} {s : Shift}

theorem may_blameless {op : Op} (h : op.blameless) : s.May who op := by
  cases op with
  | add t row =>
    cases t with
    | webhookRoutes => exact (h rfl).elim
    | _ => trivial
  | update => exact h
  | telegram call about =>
    obtain ⟨hpenalty, hmint⟩ := h
    refine ⟨fun p hp => ?_, fun hmints => (hmint hmints).elim⟩
    rw [hpenalty] at hp
    cases hp
  | rollbackToSavepoint => exact h.elim
  | _ => trivial

/-- A blameless program owes nothing. -/
theorem wp_blameless {p : App α} (hp : p.UsesOnly Op.blameless) :
    wp (machine who) p (fun _ _ => True) s := by
  induction p generalizing s with
  | pure a => trivial
  | throw e => trivial
  | call op k ih => exact ⟨may_blameless hp.1, fun r s' _ => ih r (hp.2 r)⟩

theorem keeps_after {op : Op} (h : op.quiet) (d : Decision) (landed : Bool) :
    s.Keeps (s.after d op landed) := by
  have hcont : op.Continues landed := by
    cases op with
    | openSession | closeSession | rollbackToSavepoint | rollback | commit => exact h.elim
    | _ => exact Op.continues id fun hop => by cases hop
  refine ⟨grows_after hcont, fun x hx => ?_⟩
  rcases told_after hx with ⟨hold, -⟩ | hnew
  · exact hold
  · cases op with
    | telegram => exact h.elim
    | _ => cases hnew

theorem wp_quiet {p : App α} (hp : p.UsesOnly Op.quiet) :
    wp (machine who) p (fun _ s' => s.Keeps s') s := by
  induction p generalizing s with
  | pure a => exact .refl s
  | throw e => exact .refl s
  | call op k ih =>
    refine ⟨may_blameless (Op.blameless_of_quiet hp.1), ?_⟩
    rintro r s' ⟨d, -, -, rfl⟩
    have hkeeps := keeps_after (s := s) hp.1 d (op.landed d r.isOk)
    exact wp_mono (fun _ _ h => hkeeps.trans h) (ih r (hp.2 r))

/-- A mild program leaves what the transaction has. -/
theorem wp_mild {p : App α} (hp : p.UsesOnly Op.mild) :
    wp (machine who) p (fun _ s' => s.Grows s') s := by
  induction p generalizing s with
  | pure a => exact .refl s
  | throw e => exact .refl s
  | call op k ih =>
    refine ⟨may_blameless (Op.blameless_of_mild hp.1), ?_⟩
    rintro r s' ⟨d, -, -, rfl⟩
    have hgrows : s.Grows (s.after d op (op.landed d r.isOk)) := by
      cases op with
      | telegram => exact grows_after (Op.continues id fun h => by cases h)
      | _ =>
        have hquiet := Op.quiet_of_mild hp.1 fun _ _ h => by cases h
        exact (keeps_after hquiet d _).toGrows
    exact wp_mono (fun _ _ h => hgrows.trans h) (ih r (hp.2 r))

/-- Going on after a quiet program. -/
theorem wp_quiet_bind {p : App α} {f : α → App β} {Q : Except PyError β → Shift → Prop}
    (hp : p.UsesOnly Op.quiet) (herr : ∀ e s', s.Keeps s' → Q (.error e) s')
    (hf : ∀ a s', s.Keeps s' → wp (machine who) (f a) Q s') :
    wp (machine who) (p >>= f) Q s := by
  rw [wp_bind]
  refine wp_mono ?_ (wp_quiet hp)
  rintro (e | a) s' hs'
  · exact herr e s' hs'
  · exact hf a s' hs'

/-! ## Statements -/

/-- What a select leaves of the transaction, and what it shows. -/
structure Saw (s : Shift) (t : Table) (cond : Row t → Bool) (rows : List (Row t)) (s' : Shift) :
    Prop extends Keeps s s' where
  scope : ∀ r ∈ rows, rowTenant t r = s.tenantId ∧ cond r = true
  seen : ∀ r ∈ rows, ∀ c, rowClaim t r = some c → c ∈ s'.known
  distinct : rows.Pairwise fun r r' => clash t r r' = false

theorem wp_select {t : Table} {cond : Row t → Bool}
    {Q : Except PyError (List (Row t)) → Shift → Prop}
    (herr : ∀ e s', s.Keeps s' → Q (.error e) s')
    (hok : ∀ rows s', s.Saw t cond rows s' → Q (.ok rows) s') :
    wp (machine who) (select t cond) Q s := by
  unfold select
  rw [wp_perform]
  refine ⟨trivial, ?_⟩
  rintro r s' ⟨d, hshown, hr, rfl⟩
  have hquiet : (Op.select t cond).quiet := trivial
  cases hfault : d.choice.fault with
  | some e =>
    simp only [answer, Choice.answer, hfault] at hr
    rw [hr]
    exact herr e _ (keeps_after hquiet d _)
  | none =>
    simp only [answer, Choice.answer, hfault] at hr
    rw [hr]
    refine hok _ _ ⟨keeps_after hquiet d _, fun r hr => ?_, fun r hr c hc => ?_, ?_⟩
    · exact (mem_rows.mp hr).2
    · show c ∈ s.flushed.known ++ (s.rows d t cond).filterMap (rowClaim t)
      exact List.mem_append_right _ (List.mem_filterMap.mpr ⟨r, hr, hc⟩)
    · have hfiltered := List.Pairwise.filter (fun r => rowTenant t r == s.tenantId && cond r) hshown
      refine (pick_perm _ _).symm.pairwise hfiltered fun {a b} hab => ?_
      rw [clash_comm]
      exact hab

theorem wp_selectOneOrNone {t : Table} {cond : Row t → Bool}
    {Q : Except PyError (Option (Row t)) → Shift → Prop}
    (herr : ∀ e s', s.Keeps s' → Q (.error e) s') (hnone : ∀ s', s.Keeps s' → Q (.ok none) s')
    (hsome : ∀ r s', s.Saw t cond [r] s' → Q (.ok (some r)) s') :
    wp (machine who) (selectOneOrNone t cond) Q s := by
  unfold selectOneOrNone
  rw [wp_bind]
  refine wp_select herr fun rows s' hsaw => ?_
  rw [bindPost_ok, wp_raising]
  match rows, hsaw with
  | [], hsaw => exact hnone s' hsaw.toKeeps
  | [r], hsaw => exact hsome r s' hsaw
  | _ :: _ :: _, hsaw => exact herr _ s' hsaw.toKeeps

theorem wp_refresh {t : Table} {which : Row t → Bool} {Q : Except PyError (Row t) → Shift → Prop}
    (herr : ∀ e s', s.Keeps s' → Q (.error e) s')
    (hok : ∀ r s', s.Keeps s' → which r = true → Q (.ok r) s') :
    wp (machine who) (refresh t which) Q s := by
  unfold refresh
  rw [wp_bind]
  refine wp_select herr fun rows s' hsaw => ?_
  rw [bindPost_ok]
  cases rows with
  | nil => exact herr _ s' hsaw.toKeeps
  | cons r rest => exact hok r s' hsaw.toKeeps (hsaw.scope r List.mem_cons_self).2

/-- A row that is inserted is known, and held. -/
theorem wp_saveNew {t : Table} {which : Row t → Bool} {row : Row t}
    {Q : Except PyError (Row t) → Shift → Prop} (ht : t ≠ .webhookRoutes)
    (herr : ∀ e s', s.Keeps s' → Q (.error e) s')
    (hok : ∀ r s', s.Keeps s' → which r = true →
      (∀ c, rowClaim t row = some c → c ∈ s'.known ∧ c ∈ s'.held) → Q (.ok r) s') :
    wp (machine who) (saveNew t which row) Q s := by
  have hadd : (Op.add t row).quiet := ht
  have hflush : Op.flush.quiet := trivial
  unfold saveNew add flush
  rw [wp_bind, wp_perform]
  refine ⟨may_blameless (Op.blameless_of_quiet hadd), ?_⟩
  rintro r s₁ ⟨d₁, -, hr, rfl⟩
  rw [hr]
  have hkeeps₁ := keeps_after (s := s) hadd d₁ true
  show wp (machine who) _ Q (s.after d₁ (.add t row) true)
  rw [wp_bind, wp_perform]
  refine ⟨trivial, ?_⟩
  rintro (e | u) s₂ ⟨d₂, -, -, rfl⟩
  · exact herr e _ (hkeeps₁.trans (keeps_after hflush d₂ _))
  rw [bindPost_ok]
  have hkeeps₂ := hkeeps₁.trans
    (keeps_after (s := s.after d₁ (.add t row) true) hflush d₂ true)
  refine wp_refresh (fun e s₃ hs₃ => herr e s₃ (hkeeps₂.trans hs₃)) fun r s₃ hs₃ hr => ?_
  refine hok r s₃ (hkeeps₂.trans hs₃) hr fun c hc => ?_
  have hpending : c ∈ (s.after d₁ (.add t row) true).pending := by
    show c ∈ s.pending ++ (rowClaim t row).toList
    rw [hc]
    exact List.mem_append_right _ (List.mem_singleton.mpr rfl)
  exact ⟨hs₃.known c (List.mem_append_right _ hpending),
    hs₃.held c (List.mem_append_right _ hpending)⟩

/-! ## Sessions and transactions -/

/-- A session starts afresh, and ends so. -/
theorem wp_withSession {tenantId : TenantId} {body : App α} {Q : Except PyError α → Shift → Prop}
    (h : wp (machine who) body (fun r s' => Q r (s'.renewed s'.tenantId)) (s.renewed tenantId)) :
    wp (machine who) (withSession tenantId body) Q s := by
  unfold withSession
  rw [wp_bind, wp_perform]
  refine ⟨trivial, ?_⟩
  rintro r s₀ ⟨d, -, hr, rfl⟩
  rw [hr]
  show wp (machine who) _ Q (s.renewed tenantId)
  rw [wp_bind, wp_tryCatch]
  refine wp_mono ?_ h
  rintro (e | a) s' hs'
  · rw [catchPost_error, wp_bind, wp_perform]
    refine ⟨trivial, ?_⟩
    rintro r s'' ⟨d', -, hclose, rfl⟩
    rw [hclose]
    exact hs'
  · rw [catchPost_ok, bindPost_ok, wp_bind, wp_perform]
    refine ⟨trivial, ?_⟩
    rintro r s'' ⟨d', -, hclose, rfl⟩
    rw [hclose]
    exact hs'

/-- What a body that succeeds leaves is committed; where anything fails, nothing is
    promised. -/
theorem wp_committed {body : App α} {Q : α → Shift → Prop}
    (h : wp (machine who) body (fun r s' => ∀ a, r = .ok a → Q a (s'.after {} .commit true)) s) :
    wp (machine who) (committed body) (fun r s' => ∀ a, r = .ok (some a) → Q a s') s := by
  have hundo : ∀ s : Shift, wp (machine who) (do perform Op.rollback; return none : App (Option α))
      (fun r s' => ∀ a, r = .ok (some a) → Q a s') s := by
    intro s
    rw [wp_bind, wp_perform]
    refine ⟨trivial, ?_⟩
    rintro (e | u) s' - a ha
    · cases ha
    · cases ha
  unfold committed
  rw [wp_tryCatch, wp_bind]
  refine wp_mono ?_ h
  rintro (e | a) s' hs'
  · exact hundo s'
  rw [bindPost_ok, wp_bind, wp_perform]
  refine ⟨trivial, ?_⟩
  rintro (e | u) s'' ⟨d, -, -, rfl⟩
  · exact hundo _
  · intro a' ha'
    cases ha'
    exact hs' a rfl

/-- A request that returns has committed. -/
theorem wp_requestTx {tenantId : TenantId} {body : App α} {Q : α → Shift → Prop}
    (h : wp (machine who) body (fun r s' => ∀ a, r = .ok a →
      Q a ((s'.after {} .commit true).renewed s'.tenantId)) (s.renewed tenantId)) :
    wp (machine who) (requestTx tenantId body) (fun r s' => ∀ a, r = .ok a → Q a s') s := by
  unfold requestTx
  refine wp_withSession ?_
  have hundo : ∀ (e : PyError) (s : Shift),
      wp (machine who) (do perform Op.rollback; throw e : App α)
        (fun r s' => ∀ a, r = .ok a → Q a (s'.renewed s'.tenantId)) s := by
    intro e s
    rw [wp_bind, wp_perform]
    refine ⟨trivial, ?_⟩
    rintro (e | u) s' - a ha
    · cases ha
    · cases ha
  rw [wp_tryCatch, wp_bind]
  refine wp_mono ?_ h
  rintro (e | a) s' hs'
  · exact hundo e s'
  rw [bindPost_ok, wp_bind, wp_perform]
  refine ⟨trivial, ?_⟩
  rintro (e | u) s'' ⟨d, -, -, rfl⟩
  · exact hundo e _
  · intro a' ha'
    cases ha'
    exact hs' a rfl

end Rules

end Shift

end VipChannel

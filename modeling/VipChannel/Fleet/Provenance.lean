/-
  VipChannel.Fleet.Provenance

  Where the parts of a transaction come from, and which of them a call leaves.

  One lemma for each part says what one call can put there (`…_after`), and one that what
  was there stays unless the transaction ends or is taken back (`…_kept`).  Whoever reasons
  about instances uses them and never the calls.
-/
import VipChannel.Fleet.Instances

namespace VipChannel

open Lib

/-- A call that sends what is pending to the database, and is carried out. -/
def Op.Sends (op : Op) (landed : Bool) : Prop := op.flushes ∧ landed = true

/-- A commit that is carried out. -/
def Op.Commits (op : Op) (landed : Bool) : Prop := op = .commit ∧ landed = true

/-- The transaction goes on. -/
def Op.Continues (op : Op) (landed : Bool) : Prop := ¬ op.undoes ∧ ¬ op.Commits landed

theorem Op.continues {op : Op} {landed : Bool} (hundo : ¬ op.undoes)
    (hcommit : op = .commit → landed = false) : op.Continues landed := by
  refine ⟨hundo, fun h => ?_⟩
  rw [hcommit h.1] at h
  cases h.2

namespace Shift

variable {s : Shift} {d : Decision} {op : Op} {landed : Bool} {c : Claim} {x : Sent}

/-! ## Where it comes from -/

theorem held_after (h : c ∈ (s.after d op landed).held) :
    (c ∈ s.held ∧ op.Continues landed) ∨ (c ∈ s.pending ∧ op.Sends landed ∧ op.Continues landed) ∨
      (c ∈ s.saved.1 ∧ op = .rollbackToSavepoint) := by
  cases op with
  | openSession | closeSession | rollback => cases h
  | rollbackToSavepoint => exact .inr (.inr ⟨h, rfl⟩)
  | select | flush | releaseSavepoint | savepoint =>
    cases landed with
    | false => exact .inl ⟨h, Op.continues id fun _ => rfl⟩
    | true =>
      have hcont : ∀ {op : Op}, ¬ op.undoes → op ≠ .commit → op.Continues true :=
        fun hundo hcommit => Op.continues hundo fun hop => (hcommit hop).elim
      rcases List.mem_append.mp h with h | h
      · exact .inl ⟨h, hcont id fun h => by cases h⟩
      · exact .inr (.inl ⟨h, ⟨trivial, rfl⟩, hcont id fun h => by cases h⟩)
  | commit =>
    cases landed with
    | false => exact .inl ⟨h, Op.continues id fun _ => rfl⟩
    | true => cases h
  | add | update | telegram | utcnow | uuid4 | activeTenantIds | tenantsOfToken | tokenUrlsafe
  | encrypt | validateUser => exact .inl ⟨h, Op.continues id fun h => by cases h⟩

theorem locked_after (h : c ∈ (s.after d op landed).locked) :
    c ∈ s.locked ∨ (c ∈ s.waiting ∧ op.Sends landed) ∨ c ∈ s.saved.2 := by
  cases op with
  | openSession | closeSession | rollback => cases h
  | rollbackToSavepoint => exact .inr (.inr h)
  | select | flush | releaseSavepoint | savepoint =>
    cases landed with
    | false => exact .inl h
    | true =>
      rcases List.mem_append.mp h with h | h
      · exact .inl h
      · exact .inr (.inl ⟨h, trivial, rfl⟩)
  | commit =>
    cases landed with
    | false => exact .inl h
    | true => cases h
  | add | update | telegram | utcnow | uuid4 | activeTenantIds | tenantsOfToken | tokenUrlsafe
  | encrypt | validateUser => exact .inl h

theorem saved_after (hheld : ∀ c ∈ s.saved.1, c ∈ s.held)
    (hlocked : ∀ c ∈ s.saved.2, c ∈ s.locked) :
    (∀ c ∈ (s.after d op landed).saved.1, c ∈ (s.after d op landed).held) ∧
      ∀ c ∈ (s.after d op landed).saved.2, c ∈ (s.after d op landed).locked := by
  have hempty : (∀ c ∈ ([] : List Claim), c ∈ ([] : List Claim)) ∧
      ∀ c ∈ ([] : List Claim), c ∈ ([] : List Claim) :=
    ⟨fun _ h => h, fun _ h => h⟩
  cases op with
  | openSession | closeSession | rollback => exact hempty
  | rollbackToSavepoint => exact ⟨fun _ h => h, fun _ h => h⟩
  | select | flush | releaseSavepoint =>
    cases landed with
    | false => exact ⟨hheld, hlocked⟩
    | true =>
      exact ⟨fun c h => List.mem_append_left _ (hheld c h),
        fun c h => List.mem_append_left _ (hlocked c h)⟩
  | savepoint =>
    cases landed with
    | false => exact ⟨hheld, hlocked⟩
    | true => exact ⟨fun _ h => h, fun _ h => h⟩
  | commit =>
    cases landed with
    | false => exact ⟨hheld, hlocked⟩
    | true => exact hempty
  | add | update | telegram | utcnow | uuid4 | activeTenantIds | tenantsOfToken | tokenUrlsafe
  | encrypt | validateUser => exact ⟨hheld, hlocked⟩

theorem known_after (h : c ∈ (s.after d op landed).known) :
    (c ∈ s.known ∧ op.Continues landed) ∨ (c ∈ s.pending ∧ op.Sends landed) ∨
      ∃ t cond, op = .select t cond ∧ landed = true ∧
        c ∈ (s.rows d t cond).filterMap (rowClaim t) := by
  cases op with
  | openSession | closeSession | rollback | rollbackToSavepoint => cases h
  | flush | releaseSavepoint | savepoint =>
    cases landed with
    | false => exact .inl ⟨h, Op.continues id fun _ => rfl⟩
    | true =>
      rcases List.mem_append.mp h with h | h
      · exact .inl ⟨h, Op.continues id fun h => by cases h⟩
      · exact .inr (.inl ⟨h, trivial, rfl⟩)
  | select t cond =>
    cases landed with
    | false => exact .inl ⟨h, Op.continues id fun _ => rfl⟩
    | true =>
      rcases List.mem_append.mp h with h | h
      · rcases List.mem_append.mp h with h | h
        · exact .inl ⟨h, Op.continues id fun h => by cases h⟩
        · exact .inr (.inl ⟨h, trivial, rfl⟩)
      · exact .inr (.inr ⟨t, cond, rfl, rfl, h⟩)
  | commit =>
    cases landed with
    | false => exact .inl ⟨h, Op.continues id fun _ => rfl⟩
    | true => cases h
  | add | update | telegram | utcnow | uuid4 | activeTenantIds | tenantsOfToken | tokenUrlsafe
  | encrypt | validateUser => exact .inl ⟨h, Op.continues id fun h => by cases h⟩

theorem told_after (h : x ∈ (s.after d op landed).told) :
    (x ∈ s.told ∧ (op.Continues landed ∨ op = .rollbackToSavepoint)) ∨ x ∈ s.messages d op := by
  cases op with
  | openSession | closeSession | rollback => cases h
  | rollbackToSavepoint => exact .inl ⟨h, .inr rfl⟩
  | select | flush | releaseSavepoint | savepoint =>
    cases landed with
    | false => exact .inl ⟨h, .inl (Op.continues id fun _ => rfl)⟩
    | true => exact .inl ⟨h, .inl (Op.continues id fun h => by cases h)⟩
  | commit =>
    cases landed with
    | false => exact .inl ⟨h, .inl (Op.continues id fun _ => rfl)⟩
    | true => cases h
  | telegram =>
    rcases List.mem_append.mp h with h | h
    · exact .inl ⟨h, .inl (Op.continues id fun h => by cases h)⟩
    · exact .inr h
  | add | update | utcnow | uuid4 | activeTenantIds | tenantsOfToken | tokenUrlsafe
  | encrypt | validateUser => exact .inl ⟨h, .inl (Op.continues id fun h => by cases h)⟩

theorem vouched_after (h : c ∈ (s.after d op landed).vouched) :
    c ∈ s.vouched ∨ (c ∈ s.known ++ s.pending ∧ op.Commits landed) := by
  cases op with
  | commit =>
    cases landed with
    | false => exact .inl h
    | true =>
      rcases List.mem_append.mp h with h | h
      · exact .inl h
      · exact .inr ⟨h, rfl, rfl⟩
  | select | flush | releaseSavepoint | savepoint => cases landed <;> exact .inl h
  | _ => exact .inl h

theorem confirmed_after (h : x ∈ (s.after d op landed).confirmed) :
    x ∈ s.confirmed ∨ (x ∈ s.told ∧ op.Commits landed) := by
  cases op with
  | commit =>
    cases landed with
    | false => exact .inl h
    | true =>
      rcases List.mem_append.mp h with h | h
      · exact .inl h
      · exact .inr ⟨h, rfl, rfl⟩
  | select | flush | releaseSavepoint | savepoint => cases landed <;> exact .inl h
  | _ => exact .inl h

/-! ## What stays -/

/-- What a call that does not end the transaction keeps of it. -/
structure Grows (s s' : Shift) : Prop where
  tenantId : s'.tenantId = s.tenantId
  held : ∀ c ∈ s.held, c ∈ s'.held
  locked : ∀ c ∈ s.locked, c ∈ s'.locked
  known : ∀ c ∈ s.known, c ∈ s'.known
  told : ∀ x ∈ s.told, x ∈ s'.told

theorem Grows.refl (s : Shift) : s.Grows s :=
  ⟨rfl, fun _ h => h, fun _ h => h, fun _ h => h, fun _ h => h⟩

theorem Grows.trans {s s' s'' : Shift} (h : s.Grows s') (h' : s'.Grows s'') : s.Grows s'' where
  tenantId := h'.tenantId.trans h.tenantId
  held c hc := h'.held c (h.held c hc)
  locked c hc := h'.locked c (h.locked c hc)
  known c hc := h'.known c (h.known c hc)
  told x hx := h'.told x (h.told x hx)

theorem Grows.owns {s s' : Shift} (h : s.Grows s') (hc : s.Owns c) : s'.Owns c :=
  hc.imp (h.locked c) (h.held c)

theorem grows_flushed : s.Grows s.flushed where
  tenantId := rfl
  held _ h := List.mem_append_left _ h
  locked _ h := List.mem_append_left _ h
  known _ h := List.mem_append_left _ h
  told _ h := h

theorem grows_after (h : op.Continues landed) : s.Grows (s.after d op landed) := by
  cases op with
  | openSession | closeSession | rollback | rollbackToSavepoint => exact (h.1 trivial).elim
  | flush | releaseSavepoint | savepoint =>
    cases landed with
    | false => exact .refl s
    | true =>
      exact grows_flushed.trans ⟨rfl, fun _ h => h, fun _ h => h, fun _ h => h, fun _ h => h⟩
  | select =>
    cases landed with
    | false => exact .refl s
    | true =>
      exact grows_flushed.trans ⟨rfl, fun _ h => h, fun _ h => h,
        fun _ h => List.mem_append_left _ h, fun _ h => h⟩
  | commit =>
    cases landed with
    | false => exact .refl s
    | true => exact (h.2 ⟨rfl, rfl⟩).elim
  | telegram =>
    exact ⟨rfl, fun _ h => h, fun _ h => h, fun _ h => h, fun _ h => List.mem_append_left _ h⟩
  | add | update => exact ⟨rfl, fun _ h => h, fun _ h => h, fun _ h => h, fun _ h => h⟩
  | utcnow | uuid4 | activeTenantIds | tenantsOfToken | tokenUrlsafe | encrypt | validateUser =>
    exact .refl s

/-- The one message a Telegram call sends. -/
theorem messages_cases (s : Shift) (d : Decision) (op : Op) :
    s.messages d op = [] ∨ ∃ call about y, op = .telegram call about ∧ s.messages d op = [y] ∧
      y.tenantId = s.tenantId ∧ y.call = call ∧ y.about = about := by
  cases op with
  | telegram call about =>
    simp only [messages]
    split
    · exact .inr ⟨call, about, _, rfl, rfl, rfl, rfl, rfl⟩
    · exact .inl rfl
  | _ => exact .inl rfl

/-- A row that was read is one that was shown. -/
theorem mem_rows {t : Table} {cond : Row t → Bool} {r : Row t} :
    r ∈ s.rows d t cond ↔ r ∈ d.shown t ∧ rowTenant t r = s.tenantId ∧ cond r = true := by
  rw [rows, (pick_perm _ _).mem_iff, List.mem_filter, Bool.and_eq_true, beq_iff_eq]

end Shift

/-- Where a committed row comes from. -/
theorem Fleet.claimed_after {ι : Type} [DecidableEq ι] {f : Fleet ι} {i : ι} {d : Decision}
    {op : Op} {landed : Bool} {c : Claim} (h : c ∈ (f.after i d op landed).claimed) :
    c ∈ f.claimed ∨
      (op.Commits landed ∧ (c ∈ (f.shifts i).held ∨ c ∈ (f.shifts i).pending)) := by
  by_cases hcommit : op.Commits landed
  · obtain ⟨rfl, rfl⟩ := hcommit
    rcases List.mem_append.mp h with h | h
    · exact .inl h
    · exact .inr ⟨⟨rfl, rfl⟩, List.mem_append.mp h⟩
  · rw [after_claimed fun hop => by simpa [Op.Commits, hop] using hcommit] at h
    exact .inl h

end VipChannel

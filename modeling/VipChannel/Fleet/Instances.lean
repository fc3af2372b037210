/-
  VipChannel.Fleet.Instances

  Several instances of the application over one database, their calls interleaved in any
  order, at READ COMMITTED.

  A select sees the rows that are committed and those of its own transaction.  A row is
  inserted when no row it conflicts with is there, committed or not: an insert that would
  have to wait for another transaction is a call that is not made yet.  So is an update of a
  row that another transaction has updated.  Any call may fail, a commit also after the
  database has carried it out, and what Telegram was sent stays sent.
-/
import VipChannel.Fleet.Shift
import VipChannel.Lib.Interleaving

namespace VipChannel

open Lib

structure Fleet (ι : Type) where
  /-- The committed rows. -/
  claimed : List Claim
  shifts : ι → Shift
  /-- What Telegram was sent so far. -/
  sent : List Sent

/-- Rows of a table as a transaction may see them: its claims, and the other columns
    whatever they are. -/
structure Shows (visible : List Claim) (t : Table) (rows : List (Row t)) : Prop where
  sound : ∀ r ∈ rows, ∀ c, rowClaim t r = some c → c ∈ visible
  complete : ∀ c ∈ visible, c.table = t → ∃ r ∈ rows, rowClaim t r = some c

namespace Fleet

section Definitions

variable {ι : Type}

/-- A row is there, committed or not. -/
def Present (f : Fleet ι) (c : Claim) : Prop :=
  c ∈ f.claimed ∨ ∃ i, c ∈ (f.shifts i).held

/-- What a transaction sees once its own rows have gone to the database. -/
def visible (f : Fleet ι) (i : ι) : List Claim := f.claimed ++ (f.shifts i).flushed.held

/-- The database lets in what an instance inserts, and gives it the locks it waits for. -/
structure Clear (f : Fleet ι) (i : ι) : Prop where
  distinct : (f.shifts i).pending.Pairwise fun c c' => c.conflicts c' = false
  unclaimed : ∀ c ∈ (f.shifts i).pending, ∀ c' ∈ f.claimed, c.conflicts c' = false
  unheld : ∀ c ∈ (f.shifts i).pending, ∀ j, ∀ c' ∈ (f.shifts j).held, c.conflicts c' = false
  unlocked : ∀ c ∈ (f.shifts i).pending ++ (f.shifts i).waiting, ∀ j, j ≠ i →
    c ∉ (f.shifts j).locked ∧ c ∉ (f.shifts j).held

end Definitions

variable {ι : Type} [DecidableEq ι]

def after (f : Fleet ι) (i : ι) (d : Decision) (op : Op) (landed : Bool) : Fleet ι where
  claimed :=
    match op, landed with
    | .commit, true => f.claimed ++ (f.shifts i).flushed.held
    | _, _ => f.claimed
  shifts := Function.update f.shifts i ((f.shifts i).after d op landed)
  sent := f.sent ++ (f.shifts i).messages d op

/-- What the database may decide about a call of an instance. -/
structure Admits (f : Fleet ι) (i : ι) (d : Decision) (op : Op) (landed : Bool) : Prop where
  local_ : (f.shifts i).Admits d op
  clear : op.flushes → landed = true → f.Clear i
  shown : ∀ t cond, op = .select t cond → landed = true → Shows (f.visible i) t (d.shown t)

/-- One call of an instance. -/
def Steps (i : ι) (f : Fleet ι) (op : Op) (r : Except PyError op.Ret) (f' : Fleet ι) : Prop :=
  ∃ d : Decision, r = (f.shifts i).answer d op ∧ f.Admits i d op (op.landed d r.isOk) ∧
    f' = f.after i d op (op.landed d r.isOk)

/-- Anything may happen. -/
def machine (i : ι) : Machine Op Op.Ret PyError (Fleet ι) where
  allowed _ _ := True
  steps := Steps i

/-- No transaction is taken back once Telegram has carried out a penalty for it. -/
def steady (i : ι) : Machine Op Op.Ret PyError (Fleet ι) where
  allowed _ _ := True
  steps f op r f' := Steps i f op r f' ∧
    (op.undoes → ∀ x ∈ (f.shifts i).told, x.penalty = none)

/-- No transaction has begun yet, and the committed rows violate no constraint. -/
structure Idle (f : Fleet ι) : Prop where
  shifts : ∀ i, f.shifts i = { tenantId := (f.shifts i).tenantId }
  claimed : ∀ c ∈ f.claimed, ∀ c' ∈ f.claimed, c.conflicts c' = true → c = c'
  sent : f.sent = []

section After

variable {f : Fleet ι} {i : ι} {d : Decision} {op : Op} {landed : Bool}

@[simp] theorem after_shift_self :
    (f.after i d op landed).shifts i = (f.shifts i).after d op landed :=
  Function.update_self ..

theorem after_shift_other {j : ι} (hj : j ≠ i) :
    (f.after i d op landed).shifts j = f.shifts j :=
  Function.update_of_ne hj ..

/-- What is true of the shift that moved, and was true of the others. -/
theorem forall_shifts {P : ι → Shift → Prop} (hself : P i ((f.shifts i).after d op landed))
    (hother : ∀ j, j ≠ i → P j (f.shifts j)) (j : ι) : P j ((f.after i d op landed).shifts j) := by
  by_cases hj : j = i
  · subst hj
    rw [after_shift_self]
    exact hself
  · rw [after_shift_other hj]
    exact hother j hj

theorem after_claimed (h : op = .commit → landed = false) :
    (f.after i d op landed).claimed = f.claimed := by
  cases op with
  | commit =>
    rw [h rfl]
    rfl
  | _ => rfl

theorem after_committed :
    (f.after i d .commit true).claimed = f.claimed ++ (f.shifts i).flushed.held := rfl

theorem after_sent : (f.after i d op landed).sent = f.sent ++ (f.shifts i).messages d op := rfl

/-- Committed rows stay. -/
theorem mem_claimed_after {c : Claim} (h : c ∈ f.claimed) :
    c ∈ (f.after i d op landed).claimed := by
  by_cases hcommit : op = .commit ∧ landed = true
  · obtain ⟨rfl, rfl⟩ := hcommit
    exact List.mem_append_left _ h
  · rw [after_claimed fun hop => by simpa [hop] using hcommit]
    exact h

end After

/-- What an instance does with its own transaction does not depend on the others. -/
theorem discipline (who : ι → Option Enrolment) :
    Discipline machine (fun i => Shift.machine (who i)) fun i (f : Fleet ι) => f.shifts i where
  own i f op r f' hstep _ := by
    obtain ⟨d, hr, hadmits, rfl⟩ := hstep
    exact ⟨d, hadmits.local_, hr, after_shift_self⟩
  other i j f op r f' hstep hj := by
    obtain ⟨d, -, -, rfl⟩ := hstep
    exact after_shift_other hj

theorem discipline_steady (who : ι → Option Enrolment) :
    Discipline steady (fun i => Shift.machine (who i)) fun i (f : Fleet ι) => f.shifts i where
  own i f op r f' hstep hmay := (discipline who).own i f op r f' hstep.1 hmay
  other i j f op r f' hstep hj := (discipline who).other i j f op r f' hstep.1 hj

/-! ## Computed -/

/-- Whether rows may be seen so. -/
def shows (visible : List Claim) (t : Table) (rows : List (Row t)) : Bool :=
  (rows.all fun r => (rowClaim t r).all fun c => decide (c ∈ visible)) &&
    visible.all fun c => decide (c.table = t → ∃ r ∈ rows, rowClaim t r = some c)

theorem shows_of {visible : List Claim} {t : Table} {rows : List (Row t)}
    (h : shows visible t rows = true) : Shows visible t rows := by
  rw [shows, Bool.and_eq_true, List.all_eq_true, List.all_eq_true] at h
  refine ⟨fun r hr c hc => ?_, fun c hc ht => ?_⟩
  · have hall := h.1 r hr
    rw [hc, Option.all_some, decide_eq_true_iff] at hall
    exact hall
  · exact of_decide_eq_true (h.2 c hc) ht

def clear [Fintype ι] (f : Fleet ι) (i : ι) : Bool :=
  decide ((f.shifts i).pending.Pairwise fun c c' => c.conflicts c' = false) &&
    ((f.shifts i).pending.all fun c => decide (∀ c' ∈ f.claimed, c.conflicts c' = false) &&
      decide (∀ j, ∀ c' ∈ (f.shifts j).held, c.conflicts c' = false)) &&
    ((f.shifts i).pending ++ (f.shifts i).waiting).all fun c =>
      decide (∀ j, j ≠ i → c ∉ (f.shifts j).locked ∧ c ∉ (f.shifts j).held)

theorem clear_of [Fintype ι] {f : Fleet ι} {i : ι} (h : f.clear i = true) : f.Clear i := by
  simp only [clear, Bool.and_eq_true, List.all_eq_true, decide_eq_true_iff] at h
  obtain ⟨⟨hdistinct, hfree⟩, hunlocked⟩ := h
  exact ⟨hdistinct, fun c hc => (hfree c hc).1, fun c hc => (hfree c hc).2, hunlocked⟩

/-- Whether the database may decide so. -/
def admits [Fintype ι] (i : ι) (f : Fleet ι) (op : Op) (d : Decision) : Bool :=
  let landed := op.landed d ((f.shifts i).answer d op).isOk
  (!decide op.flushes || !landed || f.clear i) &&
    match op with
    | .select t _ =>
      decide ((d.shown t).Pairwise fun r r' => clash t r r' = false) &&
        (!landed || shows (f.visible i) t (d.shown t))
    | .encrypt _ => (f.shifts i).loaded.all fun r => r.encryptedSecret != d.choice.ciphertext
    | _ => true

/-- A call of an instance. -/
def step (i : ι) : Handler Op Op.Ret PyError Decision (Fleet ι) := fun f op d =>
  ((f.shifts i).answer d op, f.after i d op (op.landed d ((f.shifts i).answer d op).isOk))

theorem machine_steps [Fintype ι] (i : ι) (f : Fleet ι) (op : Op) (d : Decision)
    (h : f.admits i op d = true) : (machine i).steps f op (step i f op d).1 (step i f op d).2 := by
  simp only [admits, Bool.and_eq_true] at h
  obtain ⟨hclear, hdata⟩ := h
  refine ⟨d, rfl, ⟨?_, fun hflushes hlanded => ?_, ?_⟩, rfl⟩
  · cases op with
    | select t cond =>
      rw [Bool.and_eq_true, decide_eq_true_iff] at hdata
      exact hdata.1
    | encrypt plaintext =>
      intro r hr
      simpa using List.all_eq_true.mp hdata r hr
    | _ => trivial
  · have hlanded : op.landed d ((f.shifts i).answer d op).isOk = true := hlanded
    simp only [hlanded, decide_eq_true hflushes, Bool.not_true, Bool.false_or] at hclear
    exact clear_of hclear
  · rintro t cond rfl hlanded
    have hlanded : Op.landed d ((f.shifts i).answer d (.select t cond)).isOk (.select t cond) =
        true := hlanded
    rw [Bool.and_eq_true, hlanded, Bool.not_true, Bool.false_or] at hdata
    exact shows_of hdata.2

/-- Whether no transaction is taken back for which a penalty was carried out. -/
def admitsSteady [Fintype ι] (i : ι) (f : Fleet ι) (op : Op) (d : Decision) : Bool :=
  f.admits i op d && decide (op.undoes → ∀ x ∈ (f.shifts i).told, x.penalty = none)

theorem steady_steps [Fintype ι] (i : ι) (f : Fleet ι) (op : Op) (d : Decision)
    (h : f.admitsSteady i op d = true) :
    (steady i).steps f op (step i f op d).1 (step i f op d).2 := by
  rw [admitsSteady, Bool.and_eq_true, decide_eq_true_iff] at h
  exact ⟨machine_steps i f op d h.1, h.2⟩

end Fleet

end VipChannel

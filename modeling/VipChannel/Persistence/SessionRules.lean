/-
  VipChannel.Persistence.SessionRules

  One rule per call for reasoning about application code in the serial semantics.

  `Meets G p Q E w` says that started in `w`, under the assumption `G` on the
  environment, `p` returns in a world that satisfies `Q` or raises with a ledger that
  satisfies `E`.  The ledger is the part of a world that a rollback does not undo, so
  that what a failing call leaves in the session's view needs no attention.
-/
import VipChannel.Persistence.Repositories

namespace VipChannel

open Lib
open Program (perform raising)

/-- What outlives the open session, whatever becomes of it. -/
structure Ledger where
  db : Database
  registry : List Tenant
  tenantId : TenantId
  sent : List Sent
  txSent : List Sent

/-- The record of a call that mints nothing. -/
def Sent.plain (tenantId : TenantId) (about : Option Concern) (call : TelegramCall) : Sent where
  tenantId := tenantId
  call := call
  about := about
  link := none

namespace World

def ledger (w : World) : Ledger where
  db := w.db
  registry := w.registry
  tenantId := w.tenantId
  sent := w.sent
  txSent := w.txSent

@[simp] theorem ledger_withPending (w : World) (t : Table) (row : Row t) :
    (w.withPending t row).ledger = w.ledger := by
  unfold withPending
  split <;> rfl

@[simp] theorem ledger_withUpdate (w : World) (t : Table) (which : Row t → Bool)
    (change : Row t → Row t) : (w.withUpdate t which change).ledger = w.ledger := by
  unfold withUpdate
  split <;> rfl

/-- The world after Telegram calls took effect. -/
def sending (w : World) (calls : List Sent) : World :=
  { w with txSent := w.txSent ++ calls }

@[simp] theorem sending_tenantId (w : World) (calls : List Sent) :
    (w.sending calls).tenantId = w.tenantId := rfl

@[simp] theorem sending_view (w : World) (calls : List Sent) :
    (w.sending calls).view = w.view := rfl

@[simp] theorem sending_txSent (w : World) (calls : List Sent) :
    (w.sending calls).txSent = w.txSent ++ calls := rfl

@[simp] theorem sending_nil (w : World) : w.sending [] = w := by
  simp [sending]

@[simp] theorem sending_sending (w : World) (xs ys : List Sent) :
    (w.sending xs).sending ys = w.sending (xs ++ ys) := by
  simp [sending]

theorem ledger_sending {w w' : World} (h : w'.ledger = w.ledger) (calls : List Sent) :
    (w'.sending calls).ledger = (w.sending calls).ledger := by
  have hsent := congrArg Ledger.txSent h
  simp only [World.ledger, World.sending, Ledger.mk.injEq] at h hsent ⊢
  rw [hsent]
  exact ⟨h.1, h.2.1, h.2.2.1, h.2.2.2.1, rfl⟩

/-- A read that expects at most one row: it found none, or the only one. -/
def Found (w : World) (t : Table) (cond : Row t → Bool) : Option (Row t) → Prop
  | none => ∀ r ∈ w.view t, w.inScope cond r = false
  | some r => r ∈ w.view t ∧ w.inScope cond r = true ∧
      ∀ s ∈ w.view t, w.inScope cond s = true → s = r

end World

/-- The serial semantics under an assumption on the environment. -/
def serial (G : World → Op → Choice → Prop) : Machine Op Op.Ret PyError World :=
  Handler.machine World.step G

theorem wp_serial_iff {α : Type} {G : World → Op → Choice → Prop} {p : App α}
    {Q : Except PyError α → World → Prop} {w : World} :
    wp (serial G) p Q w ↔ ∀ r w', Runs (serial G) p w r w' → Q r w' :=
  ⟨fun h _ _ hr => wp_sound h hr, wp_of_runs fun _ _ => trivial⟩

/-- Where the environment can decide every call, every program has a run. -/
theorem exists_serial_runs {α : Type} {G : World → Op → Choice → Prop}
    (hlive : ∀ w op, ∃ c, G w op c) (p : App α) (w : World) :
    ∃ r w', Runs (serial G) p w r w' := by
  apply exists_runs
  intro s op
  obtain ⟨c, hc⟩ := hlive s op
  exact ⟨_, _, c, hc, rfl⟩

/-- A program returns in `Q` or raises with a ledger in `E`. -/
def Meets {α : Type} (G : World → Op → Choice → Prop) (p : App α) (Q : α → World → Prop)
    (E : PyError → Ledger → Prop) (w : World) : Prop :=
  wp (serial G) p (either Q fun e w' => E e w'.ledger) w

/-! ## Unique columns -/

/-- A change that keeps every unique column of the tenant's rows of a table. -/
def KeepsKeys (tenantId : TenantId) (t : Table) (change : Row t → Row t) : Prop :=
  ∀ r, rowTenant t r = tenantId → ∀ s, clash t (change r) s = clash t r s

theorem clash_comm (t : Table) (r s : Row t) : clash t r s = clash t s r := by
  cases t <;> simp only [clash, eq_comm]

theorem introducesClash_eq_false {t : Table} {which : Row t → Bool} {change : Row t → Row t}
    {rows : List (Row t)} {tenantId : TenantId} (hk : KeepsKeys tenantId t change)
    (hw : ∀ r, which r = true → rowTenant t r = tenantId) :
    introducesClash t which change rows = false := by
  simp only [introducesClash, List.any_eq_false]
  intro r _
  by_cases hr : which r = true
  · have hsame : ∀ s, clash t (change r) (if which s then change s else s) = clash t r s := by
      intro s
      rw [hk r (hw r hr)]
      split
      · next hs => rw [clash_comm, hk s (hw s hs), clash_comm]
      · rfl
    simp [hr, hsame]
  · simp [hr]

theorem World.inScope_tenant {w : World} {t : Table} {cond : Row t → Bool} {r : Row t}
    (h : w.inScope cond r = true) : rowTenant t r = w.tenantId := by
  simp only [World.inScope, Bool.and_eq_true, beq_iff_eq] at h
  exact h.1

theorem World.inScope_cond {w : World} {t : Table} {cond : Row t → Bool} {r : Row t}
    (h : w.inScope cond r = true) : cond r = true := by
  simp only [World.inScope, Bool.and_eq_true] at h
  exact h.2

theorem World.inScope_congr {w w' : World} (h : w'.tenantId = w.tenantId) {t : Table}
    (cond : Row t → Bool) : w'.inScope cond = w.inScope cond := by
  funext r
  simp only [World.inScope, h]

/-- An update that keeps the unique columns goes through. -/
theorem World.withUpdate_eq {w : World} {t : Table} {change : Row t → Row t}
    (hk : KeepsKeys w.tenantId t change) (which : Row t → Bool) :
    w.withUpdate t which change =
      { w with view := w.view.modify t (w.inScope which) change } := by
  unfold World.withUpdate
  rw [introducesClash_eq_false hk fun r hr => World.inScope_tenant hr]
  simp

/-! ## Programs -/

section Rules

variable {α β : Type} {G : World → Op → Choice → Prop} {w : World}
  {E : PyError → Ledger → Prop}

@[simp] theorem meets_pure (a : α) (Q : α → World → Prop) :
    Meets G (pure a) Q E w ↔ Q a w := Iff.rfl

@[simp] theorem meets_throw (e : PyError) (Q : α → World → Prop) :
    Meets G (throw e : App α) Q E w ↔ E e w.ledger := Iff.rfl

theorem meets_bind (p : App α) (f : α → App β) (Q : β → World → Prop) :
    Meets G (p >>= f) Q E w ↔ Meets G p (fun a w' => Meets G (f a) Q E w') E w :=
  wp_bind_either p f Q _ w

/-- A handler that sees only the ledger of the failure. -/
theorem meets_tryCatch {p : App α} {h : PyError → App α} {Q : α → World → Prop}
    {E' : PyError → Ledger → Prop} (hp : Meets G p Q E' w)
    (hh : ∀ e w', E' e w'.ledger → Meets G (h e) Q E w') : Meets G (p.tryCatch h) Q E w := by
  unfold Meets at hp ⊢
  rw [wp_tryCatch_either]
  exact wp_either_mono hp (fun _ _ hq => hq) (fun e w' he => hh e w' he)

theorem meets_mono {p : App α} {Q Q' : α → World → Prop} {E' : PyError → Ledger → Prop}
    (h : Meets G p Q E w) (hQ : ∀ a w', Q a w' → Q' a w')
    (hE : ∀ e l, E e l → E' e l) : Meets G p Q' E' w :=
  wp_either_mono h hQ fun e w' he => hE e w'.ledger he

theorem meets_raising_failing {x : Except PyError α} {Q : α → World → Prop}
    (hok : ∀ a, x = .ok a → Q a w) (herr : ∀ e, x = .error e → E e w.ledger) :
    Meets G (raising x) Q E w := by
  cases x with
  | ok a => exact hok a rfl
  | error e => exact herr e rfl

theorem meets_raising {x : Except PyError α} {Q : α → World → Prop}
    (hok : ∀ a, x = .ok a → Q a w) (herr : ∀ e, E e w.ledger) :
    Meets G (raising x) Q E w :=
  meets_raising_failing hok fun e _ => herr e

/-- One call, with all of the world a failure leaves. -/
theorem wp_serial_perform {op : Op} {Q : op.Ret → World → Prop} {F : PyError → World → Prop}
    (h : ∀ c, G w op c → match World.step w op c with
      | (.ok a, w') => Q a w'
      | (.error e, w') => F e w') : wp (serial G) (perform op) (either Q F) w := by
  unfold serial
  rw [wp_perform_handler]
  intro c hc
  have := h c hc
  split at this
  · next heq => rw [heq]; exact this
  · next heq => rw [heq]; exact this

/-- The rule behind those that follow. -/
theorem meets_perform {op : Op} {Q : op.Ret → World → Prop}
    (h : ∀ c, G w op c → match World.step w op c with
      | (.ok a, w') => Q a w'
      | (.error e, w') => E e w'.ledger) : Meets G (perform op) Q E w := by
  exact wp_serial_perform h

/-! ## Reading -/

theorem flushed_ok {c : Choice} (h : w.flushed c = .ok ()) :
    c.fault = none ∧ w.conflict = none := by
  unfold World.flushed at h
  cases hf : c.fault with
  | some e => simp [hf] at h
  | none =>
    cases hc : w.conflict with
    | some t => simp [hf, hc] at h
    | none => exact ⟨rfl, rfl⟩

/-- Some call could raise in `w`: a write is in conflict, or the environment fails one. -/
def Failing (G : World → Op → Choice → Prop) (w : World) : Prop :=
  w.conflict ≠ none ∨ ∃ op c, G w op c ∧ c.fault ≠ none

theorem flushed_error {op : Op} {c : Choice} {e : PyError} (hc : G w op c)
    (h : w.flushed c = .error e) : Failing G w := by
  unfold World.flushed at h
  cases hf : c.fault with
  | some e' => exact .inr ⟨op, c, hc, by simp [hf]⟩
  | none =>
    cases hw : w.conflict with
    | some t => exact .inl (by simp [hw])
    | none => simp [hf, hw] at h

theorem meets_select_failing {t : Table} {cond : Row t → Bool}
    {Q : List (Row t) → World → Prop}
    (hok : w.conflict = none → ∀ rows, rows.Perm ((w.view t).filter (w.inScope cond)) →
      Q rows w)
    (herr : Failing G w → ∀ e, E e w.ledger) : Meets G (select t cond) Q E w := by
  refine meets_perform fun c hc => ?_
  simp only [World.step]
  cases hf : w.flushed c with
  | error e => exact herr (flushed_error hc hf) e
  | ok u => exact hok (flushed_ok hf).2 _ (pick_perm _ _)

theorem meets_select {t : Table} {cond : Row t → Bool} {Q : List (Row t) → World → Prop}
    (hok : w.conflict = none → ∀ rows, rows.Perm ((w.view t).filter (w.inScope cond)) →
      Q rows w)
    (herr : ∀ e, E e w.ledger) : Meets G (select t cond) Q E w :=
  meets_select_failing hok fun _ => herr

theorem scalarOneOrNone_found {t : Table} {cond : Row t → Bool} {rows : List (Row t)}
    {r : Option (Row t)} (hperm : rows.Perm ((w.view t).filter (w.inScope cond)))
    (h : scalarOneOrNone rows = .ok r) : w.Found t cond r := by
  unfold scalarOneOrNone at h
  split at h
  · cases h
    have hnil := hperm.symm.eq_nil
    intro s hs
    simpa using List.filter_eq_nil_iff.mp hnil s hs
  · next x =>
    cases h
    have hone := hperm.symm.eq_singleton
    have hmem : ∀ s, s ∈ (w.view t).filter (w.inScope cond) ↔ s = x := by
      intro s
      rw [hone, List.mem_singleton]
    have hx := List.mem_filter.mp ((hmem x).mpr rfl)
    exact ⟨hx.1, hx.2, fun s hs hc => (hmem s).mp (List.mem_filter.mpr ⟨hs, hc⟩)⟩
  · cases h

theorem meets_selectOneOrNone {t : Table} {cond : Row t → Bool}
    {Q : Option (Row t) → World → Prop}
    (hok : w.conflict = none → ∀ r, w.Found t cond r → Q r w)
    (herr : ∀ e, E e w.ledger) : Meets G (selectOneOrNone t cond) Q E w := by
  unfold selectOneOrNone
  rw [meets_bind]
  refine meets_select (fun hc rows hrows => ?_) herr
  exact meets_raising (fun r hr => hok hc r (scalarOneOrNone_found hrows hr)) herr

theorem meets_refresh {t : Table} {which : Row t → Bool} {Q : Row t → World → Prop}
    (hok : w.conflict = none → ∀ r ∈ w.view t, w.inScope which r = true → Q r w)
    (herr : ∀ e, E e w.ledger) : Meets G (refresh t which) Q E w := by
  unfold refresh
  rw [meets_bind]
  refine meets_select (fun hc rows hrows => ?_) herr
  cases rows with
  | nil => exact herr _
  | cons r rest =>
    have hr := List.mem_filter.mp (hrows.mem_iff.mp List.mem_cons_self)
    exact hok hc r hr.1 hr.2

/-! ## Writing -/

theorem meets_flush_failing {Q : Unit → World → Prop} (hok : w.conflict = none → Q () w)
    (herr : Failing G w → ∀ e, E e w.ledger) : Meets G flush Q E w := by
  refine meets_perform fun c hc => ?_
  simp only [World.step]
  cases hf : w.flushed c with
  | error e => exact herr (flushed_error hc hf) e
  | ok u => exact hok (flushed_ok hf).2

theorem meets_flush {Q : Unit → World → Prop} (hok : w.conflict = none → Q () w)
    (herr : ∀ e, E e w.ledger) : Meets G flush Q E w :=
  meets_flush_failing hok fun _ => herr

theorem meets_add {t : Table} {row : Row t} {Q : Unit → World → Prop}
    (h : Q () (w.withPending t row)) : Meets G (add t row) Q E w :=
  meets_perform fun _ _ => h

theorem meets_update {t : Table} {which : Row t → Bool} {change : Row t → Row t}
    {Q : Unit → World → Prop} (hk : KeepsKeys w.tenantId t change)
    (h : Q () { w with view := w.view.modify t (w.inScope which) change }) :
    Meets G (update t which change) Q E w := by
  refine meets_perform fun c _ => ?_
  simp only [World.step]
  rw [World.withUpdate_eq hk]
  exact h

/-- A new entity that no row clashes with is in the view, once; another cannot be
    flushed. -/
theorem meets_saveNew {t : Table} {which : Row t → Bool} {row : Row t}
    {Q : Row t → World → Prop} (ht : rowTenant t row = w.tenantId)
    (hself : which row = true) (honly : ∀ r, which r = true → clash t row r = true)
    (hok : w.conflict = none → (∀ r ∈ w.view t, clash t row r = false) →
      Q row { w with view := w.view.append t row })
    (herr : ∀ e, E e w.ledger) : Meets G (saveNew t which row) Q E w := by
  unfold saveNew
  rw [meets_bind]
  refine meets_add ?_
  rw [meets_bind]
  by_cases hany : (w.view t).any (clash t row) = true
  · refine meets_flush (fun hc => ?_) (by simpa using herr)
    simp only [World.withPending, hany, if_true, Option.or_eq_none_iff] at hc
    simp at hc
  · have hfresh : ∀ r ∈ w.view t, clash t row r = false := by
      simpa using hany
    simp only [World.withPending, hany, Bool.false_eq_true, if_false]
    refine meets_flush (fun hc => ?_) herr
    refine meets_refresh (fun _ r hr hwhich => ?_) herr
    simp only [Store.append_self, List.mem_append, List.mem_singleton] at hr
    rcases hr with hr | rfl
    · have := honly r (World.inScope_cond hwhich)
      rw [hfresh r hr] at this
      cases this
    · exact hok hc hfresh

/-- Saving a row that is there raises only when a call fails. -/
theorem meets_saveLoaded_failing {t : Table} {which : Row t → Bool} {Q : Row t → World → Prop}
    (hthere : ∃ r ∈ w.view t, w.inScope which r = true)
    (hok : w.conflict = none → ∀ r ∈ w.view t, w.inScope which r = true → Q r w)
    (herr : Failing G w → ∀ e, E e w.ledger) : Meets G (saveLoaded t which) Q E w := by
  unfold saveLoaded refresh
  rw [meets_bind]
  refine meets_flush_failing (fun _ => ?_) herr
  rw [meets_bind]
  refine meets_select_failing (fun hc rows hrows => ?_) herr
  cases rows with
  | nil =>
    obtain ⟨r, hr, hscope⟩ := hthere
    cases hrows.mem_iff.mpr (List.mem_filter.mpr ⟨hr, hscope⟩)
  | cons r rest =>
    have hr := List.mem_filter.mp (hrows.mem_iff.mp List.mem_cons_self)
    exact hok hc r hr.1 hr.2

theorem meets_saveLoaded {t : Table} {which : Row t → Bool} {Q : Row t → World → Prop}
    (hok : w.conflict = none → ∀ r ∈ w.view t, w.inScope which r = true → Q r w)
    (herr : ∀ e, E e w.ledger) : Meets G (saveLoaded t which) Q E w := by
  unfold saveLoaded
  rw [meets_bind]
  exact meets_flush (fun _ => meets_refresh hok herr) herr

/-! ## The clock, the generator, the exchange, Telegram -/

theorem meets_utcnow {Q : DateTime → World → Prop}
    (h : ∀ c, G w .utcnow c → Q (World.reading c) { w with clock := (World.reading c).utc }) :
    Meets G utcnow Q E w :=
  meets_perform fun c hc => h c hc

theorem meets_uuid4 {Q : RowId → World → Prop} (h : ∀ id, Q id w) : Meets G uuid4 Q E w :=
  meets_perform fun c _ => h c.id

theorem meets_telegram {call : TelegramCall} {about : Option Concern}
    {Q : call.Ret → World → Prop}
    (hok : ∀ c, G w (.telegram call about) c → c.fault = none →
      Q (World.telegramAnswer c call) (w.sending [w.record c call about]))
    (hlost : ∀ c e, G w (.telegram call about) c → c.fault = some e → c.delivered = true →
      E e (w.sending [w.record c call about]).ledger)
    (herr : ∀ e, E e w.ledger) :
    Meets G (perform (Op.telegram call about)) Q E w := by
  refine meets_perform fun c hc => ?_
  simp only [World.step]
  cases hf : c.fault with
  | none => exact hok c hc hf
  | some e =>
    by_cases hd : c.delivered = true
    · simp only [hd, if_true]
      exact hlost c e hc hf hd
    · simp only [hd, Bool.false_eq_true, if_false]
      exact herr e

/-- A call that mints nothing: sent on success, perhaps sent on failure. -/
theorem meets_telegram_plain {call : TelegramCall} {about : Option Concern}
    {Q : call.Ret → World → Prop}
    (hcall : ∀ c, w.record c call about = .plain w.tenantId about call)
    (hok : ∀ a, Q a (w.sending [.plain w.tenantId about call]))
    (hlost : ∀ e, E e (w.sending [.plain w.tenantId about call]).ledger)
    (herr : ∀ e, E e w.ledger) :
    Meets G (perform (Op.telegram call about)) Q E w := by
  refine meets_telegram (fun c _ _ => ?_) (fun c e _ _ _ => ?_) herr
  · rw [hcall]
    exact hok _
  · rw [hcall]
    exact hlost e

end Rules

end VipChannel

/-
  VipChannel.Persistence.WorkingSession

  Rules that tell why a program raises.

  `Works G p Q F w` says that started in `w`, `p` returns in a world that satisfies `Q` or
  raises in one that satisfies `F`, unless the database fails a statement (`Broken`).  A
  read that expects one row and a new row of a fresh id cannot fail on sound data, so that
  their rules leave no obligation for an error.
-/
import VipChannel.Persistence.Integrity

namespace VipChannel

open Lib
open Program (perform raising)

/-- A call that the database answers. -/
def Op.statement : Op → Prop
  | .select .. | .flush | .savepoint | .releaseSavepoint | .rollbackToSavepoint | .commit
  | .rollback | .activeTenantIds | .tenantsOfToken _ => True
  | .openSession _ | .closeSession | .add .. | .update .. | .utcnow | .uuid4
  | .tokenUrlsafe | .encrypt _ | .validateUser _ | .telegram .. => False

/-- The database may fail a statement. -/
def Broken (G : World → Op → Choice → Prop) : Prop :=
  ∃ w op c, G w op c ∧ op.statement ∧ c.fault ≠ none

/-- A program returns in `Q`, raises in `F`, or the database may be to blame. -/
def Works {α : Type} (G : World → Op → Choice → Prop) (p : App α) (Q : α → World → Prop)
    (F : PyError → World → Prop) (w : World) : Prop :=
  wp (serial G) p (either Q fun e w' => Broken G ∨ F e w') w

/-- An id that no row of the session has, nor refers to as its user. -/
structure World.Unused (w : World) (id : RowId) : Prop where
  user : ∀ r ∈ w.view .telegramUsers, r.id ≠ id
  account : ∀ r ∈ w.view .referralAccounts, r.id ≠ id ∧ r.userId ≠ id
  subscription : ∀ r ∈ w.view .subscriptions, r.id ≠ id
  membership : ∀ r ∈ w.view .vipMemberships, r.id ≠ id ∧ r.userId ≠ id

section Rules

variable {α β : Type} {G : World → Op → Choice → Prop} {w : World} {F : PyError → World → Prop}

theorem works_bind (p : App α) (f : α → App β) (Q : β → World → Prop) :
    Works G (p >>= f) Q F w ↔ Works G p (fun a w' => Works G (f a) Q F w') F w :=
  wp_bind_either p f Q _ w

@[simp] theorem works_pure (a : α) (Q : α → World → Prop) :
    Works G (pure a) Q F w ↔ Q a w := Iff.rfl

theorem works_mono {p : App α} {Q Q' : α → World → Prop} {F' : PyError → World → Prop}
    (h : Works G p Q F w) (hQ : ∀ a w', Q a w' → Q' a w') (hF : ∀ e w', F e w' → F' e w') :
    Works G p Q' F' w :=
  wp_either_mono h hQ fun e w' he => he.imp_right (hF e w')

theorem works_raising {x : Except PyError α} {Q : α → World → Prop}
    (hok : ∀ a, x = .ok a → Q a w) (herr : ∀ e, x = .error e → F e w) :
    Works G (raising x) Q F w := by
  cases x with
  | ok a => exact hok a rfl
  | error e => exact .inr (herr e rfl)

/-- What a program that returns is known to do, and why it raises. -/
theorem works_of_meets {p : App α} {Q : α → World → Prop} {E : PyError → Ledger → Prop}
    (hmeets : Meets G p Q E w) (hworks : Works G p (fun _ _ => True) F w) : Works G p Q F w := by
  refine wp_mono ?_ (wp_and hmeets hworks)
  rintro (e | a) w' ⟨hm, hw⟩
  · exact hw
  · exact hm

/-- The data is distinct in every world a program reaches. -/
theorem works_sound {p : App α} {Q : α → World → Prop} (hw : w.Sound)
    (h : Works G p (fun a w' => w'.Sound → Q a w') (fun e w' => w'.Sound → F e w') w) :
    Works G p Q F w := by
  refine wp_mono ?_ (wp_and h (wp_sound_world p w))
  rintro (e | a) w' ⟨hq, hsound⟩
  · exact hq.imp_right fun h => h (hsound hw)
  · exact hq (hsound hw)

/-- One statement that no conflict keeps from going through. -/
theorem works_flushed {op : Op} {Q : op.Ret → World → Prop} (hconflict : w.conflict = none)
    (hop : op.statement)
    (h : ∀ c, w.flushed c = .ok () → G w op c → match World.step w op c with
      | (.ok a, w') => Q a w'
      | (.error _, _) => False)
    (hfail : ∀ c e, w.flushed c = .error e → ∃ w', World.step w op c = (.error e, w')) :
    Works G (perform op) Q F w := by
  refine wp_serial_perform fun c hc => ?_
  cases hf : w.flushed c with
  | ok u =>
    have hstep := h c hf hc
    cases hs : World.step w op c with
    | mk r w' =>
      rw [hs] at hstep
      cases r with
      | ok a => exact hstep
      | error e => exact hstep.elim
  | error e =>
    obtain ⟨w', hs⟩ := hfail c e hf
    rw [hs]
    refine .inl ⟨w, op, c, hc, hop, fun hnone => ?_⟩
    simp [World.flushed, hnone, hconflict] at hf

theorem works_select {t : Table} {cond : Row t → Bool} {Q : List (Row t) → World → Prop}
    (hconflict : w.conflict = none)
    (hok : ∀ rows, rows.Perm ((w.view t).filter (w.inScope cond)) → Q rows w) :
    Works G (select t cond) Q F w := by
  refine works_flushed hconflict trivial (fun c hf _ => ?_) fun c e hf => ⟨w, ?_⟩
  · simp only [World.step, hf]
    exact hok _ (pick_perm _ _)
  · simp only [World.step, hf]

theorem works_flush {Q : Unit → World → Prop} (hconflict : w.conflict = none) (hok : Q () w) :
    Works G flush Q F w := by
  refine works_flushed hconflict trivial (fun c hf _ => ?_) fun c e hf => ⟨w, ?_⟩
  · simp only [World.step, hf]
    exact hok
  · simp only [World.step, hf]

/-- A read by a key finds one row at most. -/
theorem exists_found {t : Table} {cond : Row t → Bool} {rows : List (Row t)} (hw : w.Sound)
    (hkey : ∀ r s, rowTenant t r = rowTenant t s → cond r = true → cond s = true →
      clash t r s = true)
    (hrows : rows.Perm ((w.view t).filter (w.inScope cond))) :
    ∃ r, scalarOneOrNone rows = .ok r ∧ w.Found t cond r := by
  have hmem : ∀ r ∈ rows, r ∈ w.view t ∧ w.inScope cond r = true :=
    fun r hr => List.mem_filter.mp (hrows.mem_iff.mp hr)
  have hnodup : rows.Pairwise fun r s => clash t r s = false := by
    have hview := (hw.view t).filter (w.inScope cond)
    exact hrows.pairwise_iff (fun h => by rw [clash_comm]; exact h) |>.mpr hview
  match rows, hrows with
  | [], hrows => exact ⟨none, rfl, scalarOneOrNone_found hrows rfl⟩
  | [r], hrows => exact ⟨some r, rfl, scalarOneOrNone_found hrows rfl⟩
  | r :: s :: rest, _ =>
    exfalso
    obtain ⟨-, hr⟩ := hmem r List.mem_cons_self
    obtain ⟨-, hs⟩ := hmem s (List.mem_cons_of_mem _ List.mem_cons_self)
    have hno := (List.pairwise_cons.mp hnodup).1 s List.mem_cons_self
    have ht : rowTenant t r = rowTenant t s :=
      (World.inScope_tenant hr).trans (World.inScope_tenant hs).symm
    rw [hkey r s ht (World.inScope_cond hr) (World.inScope_cond hs)] at hno
    cases hno

theorem works_selectOneOrNone {t : Table} {cond : Row t → Bool}
    {Q : Option (Row t) → World → Prop} (hw : w.Sound) (hconflict : w.conflict = none)
    (hkey : ∀ r s, rowTenant t r = rowTenant t s → cond r = true → cond s = true →
      clash t r s = true)
    (hok : ∀ r, w.Found t cond r → Q r w) : Works G (selectOneOrNone t cond) Q F w := by
  unfold selectOneOrNone
  rw [works_bind]
  refine works_select hconflict fun rows hrows => ?_
  obtain ⟨r, hr, hfound⟩ := exists_found hw hkey hrows
  rw [hr]
  exact hok r hfound

/-- A row that is there is read back. -/
theorem works_refresh {t : Table} {which : Row t → Bool} {Q : Row t → World → Prop}
    (hconflict : w.conflict = none) (hthere : ∃ r ∈ w.view t, w.inScope which r = true)
    (hok : ∀ r ∈ w.view t, w.inScope which r = true → Q r w) :
    Works G (refresh t which) Q F w := by
  unfold refresh
  rw [works_bind]
  refine works_select hconflict fun rows hrows => ?_
  cases rows with
  | nil =>
    obtain ⟨r, hr, hscope⟩ := hthere
    cases hrows.mem_iff.mpr (List.mem_filter.mpr ⟨hr, hscope⟩)
  | cons r rest =>
    have hr := List.mem_filter.mp (hrows.mem_iff.mp List.mem_cons_self)
    exact hok r hr.1 hr.2

theorem works_saveLoaded {t : Table} {which : Row t → Bool} {Q : Row t → World → Prop}
    (hconflict : w.conflict = none) (hthere : ∃ r ∈ w.view t, w.inScope which r = true)
    (hok : ∀ r ∈ w.view t, w.inScope which r = true → Q r w) :
    Works G (saveLoaded t which) Q F w := by
  unfold saveLoaded
  rw [works_bind]
  exact works_flush hconflict (works_refresh hconflict hthere hok)

/-- A new row that no row clashes with is saved. -/
theorem works_saveNew {t : Table} {which : Row t → Bool} {row : Row t}
    {Q : Row t → World → Prop} (hconflict : w.conflict = none)
    (ht : rowTenant t row = w.tenantId) (hself : which row = true)
    (honly : ∀ r, which r = true → clash t row r = true)
    (hfresh : ∀ r ∈ w.view t, clash t row r = false)
    (hok : Q row { w with view := w.view.append t row }) :
    Works G (saveNew t which row) Q F w := by
  have hany : (w.view t).any (clash t row) = false := by
    simpa using hfresh
  unfold saveNew
  rw [works_bind]
  refine wp_serial_perform fun c _ => ?_
  simp only [World.step, World.withPending, hany, Bool.false_eq_true, if_false]
  change Works G (do flush; refresh t which) Q F { w with view := w.view.append t row }
  rw [works_bind]
  refine works_flush hconflict (works_refresh hconflict ?_ fun r hr hwhich => ?_)
  · refine ⟨row, ?_, ?_⟩
    · simp only [Store.append_self, List.mem_append, List.mem_singleton, or_true]
    · simp [World.inScope, ht, hself]
  · simp only [Store.append_self, List.mem_append, List.mem_singleton] at hr
    rcases hr with hr | rfl
    · have := honly r (World.inScope_cond hwhich)
      rw [hfresh r hr] at this
      cases this
    · exact hok

theorem works_update {t : Table} {which : Row t → Bool} {change : Row t → Row t}
    {Q : Unit → World → Prop} (hk : KeepsKeys w.tenantId t change)
    (h : Q () { w with view := w.view.modify t (w.inScope which) change }) :
    Works G (update t which change) Q F w := by
  refine wp_serial_perform fun c _ => ?_
  simp only [World.step]
  rw [World.withUpdate_eq hk]
  exact h

theorem works_utcnow {Q : DateTime → World → Prop}
    (h : ∀ c, G w .utcnow c → Q (World.reading c) { w with clock := (World.reading c).utc }) :
    Works G utcnow Q F w :=
  wp_serial_perform fun c hc => h c hc

theorem works_nowOr {now : Option DateTime} {Q : DateTime → World → Prop}
    (h : ∀ moment n, Q moment { w with clock := n }) : Works G (nowOr now) Q F w := by
  cases now with
  | some moment => exact h moment w.clock
  | none => exact works_utcnow fun c _ => h _ _

theorem works_uuid4 {Q : RowId → World → Prop} (h : ∀ c, G w .uuid4 c → Q c.id w) :
    Works G uuid4 Q F w :=
  wp_serial_perform fun c hc => h c hc

end Rules

end VipChannel

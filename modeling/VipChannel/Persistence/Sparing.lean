/-
  VipChannel.Persistence.Sparing

  A program that is confined to a tenant leaves the rows of the others, and sends nothing for
  them, whatever it is answered and wherever it fails.

  Comparing two worlds (VipChannel.Persistence.Confinement) takes ids that are fresh.  This
  takes none: a row under a taken id is refused, and the others' rows stay.
-/
import VipChannel.Persistence.ConfinementRules

namespace VipChannel

open Lib

/-- The rows of the other tenants are those of the base. -/
def OthersAs (A : TenantId) (base d : Database) : Prop :=
  ∀ t, foreignRows A t (d t) = foreignRows A t (base t)

/-- The calls that were made for the others. -/
def World.sentForOthers (A : TenantId) (w : World) : List Sent :=
  w.allSent.filter (·.tenantId != A)

/-- The other tenants' rows are as they were, and nothing was sent for them. -/
structure Spared (A : TenantId) (w w' : World) : Prop where
  rows : OthersAs A w.db w'.db
  sent : w'.sentForOthers A = w.sentForOthers A

/-- Whatever the session of the tenant may come to leave, the others' rows are in it. -/
structure Sparing (A : TenantId) (w₀ : World) (s : Stage) (w : World) : Prop where
  spared : Spared A w₀ w
  session : s.bound = true → w.tenantId = A ∧ OthersAs A w₀.db w.view
  saved : s.nested = true → OthersAs A w₀.db w.saved

section Sparing

variable {A : TenantId} {base d : Database} {s : Stage} {w₀ w : World}

theorem OthersAs.twin (h : OthersAs A base d) : Twin A base base d d := ⟨fun _ => rfl, h, h⟩

/-- What changes in the session only. -/
theorem Spared.congr {v : World} (h : Spared A w₀ w) (hdb : v.db = w.db)
    (hsent : v.allSent = w.allSent) : Spared A w₀ v := by
  refine ⟨by rw [hdb]; exact h.rows, ?_⟩
  rw [World.sentForOthers, hsent]
  exact h.sent

theorem Sparing.withPending (h : Sparing A w₀ s w) (hb : s.bound = true) {t : Table} {row : Row t}
    (ht : rowTenant t row = A) : Sparing A w₀ s (w.withPending t row) := by
  obtain ⟨htenant, hview⟩ := h.session hb
  unfold World.withPending
  split
  · exact ⟨h.spared.congr rfl rfl, fun _ => ⟨htenant, hview⟩, h.saved⟩
  · exact ⟨h.spared.congr rfl rfl, fun _ => ⟨htenant, (hview.twin.append ht).left⟩, h.saved⟩

theorem Sparing.withUpdate (h : Sparing A w₀ s w) (hb : s.bound = true) {t : Table}
    {which : Row t → Bool} {change : Row t → Row t}
    (hchange : ∀ r, rowTenant t r = A → rowTenant t (change r) = A) :
    Sparing A w₀ s (w.withUpdate t which change) := by
  obtain ⟨htenant, hview⟩ := h.session hb
  have hwhich : ∀ r, w.inScope which r = true → rowTenant t r = A := fun r hr =>
    (World.inScope_tenant hr).trans htenant
  unfold World.withUpdate
  split
  · exact ⟨h.spared.congr rfl rfl, fun _ => ⟨htenant, hview⟩, h.saved⟩
  · exact ⟨h.spared.congr rfl rfl,
      fun _ => ⟨htenant, (hview.twin.modify hwhich hchange).left⟩, h.saved⟩

/-- One call of a confined program. -/
theorem Sparing.step (h : Sparing A w₀ s w) {op : Op} {c : Choice}
    (hop : op.Confined A (fun _ => False) s) :
    ∃ s', (confinement A fun _ => False).steps s op (World.step w op c).1 s' ∧
      Sparing A w₀ s' (World.step w op c).2 := by
  cases op with
  | openSession tenantId =>
    obtain rfl : tenantId = A := hop
    refine ⟨_, ⟨trivial, rfl⟩, h.spared.congr rfl ?_, fun _ => ⟨rfl, h.spared.rows⟩, h.saved⟩
    simp [World.step, World.allSent]
  | closeSession | rollback =>
    exact ⟨_, ⟨trivial, rfl⟩, h.spared.congr rfl rfl,
      fun hb => ⟨(h.session hb).1, h.spared.rows⟩, h.saved⟩
  | add t row =>
    obtain ⟨hb, ht, -⟩ := hop
    exact ⟨_, ⟨trivial, rfl⟩, h.withPending hb ht⟩
  | update t which change =>
    obtain ⟨hb, hchange⟩ := hop
    exact ⟨_, ⟨trivial, rfl⟩, h.withUpdate hb fun r hr => (hchange r hr).1⟩
  | select t cond | flush | releaseSavepoint | encrypt plaintext | utcnow | validateUser uid
  | uuid4 | tokenUrlsafe =>
    exact ⟨_, ⟨trivial, rfl⟩, h.spared.congr rfl rfl, h.session, h.saved⟩
  | savepoint =>
    refine ⟨_, ⟨trivial, rfl⟩, ?_⟩
    simp only [World.step]
    cases w.flushed c with
    | error e => exact h
    | ok u => exact ⟨h.spared.congr rfl rfl, h.session, fun _ => (h.session hop).2⟩
  | rollbackToSavepoint =>
    obtain ⟨hb, hn⟩ := hop
    exact ⟨_, ⟨trivial, rfl⟩, h.spared.congr rfl rfl,
      fun _ => ⟨(h.session hb).1, h.saved hn⟩, h.saved⟩
  | commit =>
    refine ⟨_, ⟨trivial, rfl⟩, ?_⟩
    simp only [World.step]
    cases w.flushed c with
    | error e => exact h
    | ok u => exact ⟨⟨(h.session hop).2, h.spared.sent⟩, h.session, h.saved⟩
  | activeTenantIds => exact hop.elim
  | tenantsOfToken token => exact hop.elim
  | telegram call about =>
    refine ⟨_, ⟨trivial, rfl⟩, ?_⟩
    -- The call is on record as one of the tenant's.
    have hsent : Sparing A w₀ s { w with txSent := w.txSent ++ [w.record c call about] } := by
      refine ⟨⟨h.spared.rows, ?_⟩, h.session, h.saved⟩
      have hmine : (w.record c call about).tenantId = A := (h.session hop).1
      rw [← h.spared.sent]
      simp [World.sentForOthers, World.allSent, hmine]
    simp only [World.step]
    cases c.fault with
    | none => exact hsent
    | some e =>
      dsimp only
      split
      · exact hsent
      · exact h

/-- A confined program spares the others. -/
theorem runs_confined {α : Type} {G : World → Op → Choice → Prop} {p : App α}
    {r : Except PyError α} {w' : World} (hp : Confined A (fun _ => False) {} p)
    (h : Runs (serial G) p w r w') : Spared A w w' := by
  have hwp : wp (confinement A fun _ => False) p (fun _ _ => True) {} :=
    wp_mono (fun _ _ _ => trivial) (hp {} (.refl {}))
  have hstep : ∀ v s op x v', Sparing A w s v → op.Confined A (fun _ => False) s →
      (serial G).steps v op x v' →
      ∃ s', (confinement A fun _ => False).steps s op x s' ∧ Sparing A w s' v' := by
    rintro v s op x v' hv hop ⟨c, -, hanswer⟩
    obtain ⟨s', hs', hend⟩ := hv.step (c := c) hop
    rw [hanswer] at hs' hend
    exact ⟨s', hs', hend⟩
  have hstart : Sparing A w {} w := by
    refine ⟨⟨fun _ => rfl, rfl⟩, fun hb => ?_, fun hn => ?_⟩
    · cases hb
    · cases hn
  obtain ⟨s', -, -, hend⟩ := h.simulated hstep hwp hstart
  exact hend.spared

end Sparing

end VipChannel

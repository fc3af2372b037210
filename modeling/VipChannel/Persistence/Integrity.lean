/-
  VipChannel.Persistence.Integrity

  The unique constraints hold in every state the serial semantics reaches: a pending
  write that would break one leaves the view alone and waits for the flush to raise.
-/
import VipChannel.Persistence.SessionRules

namespace VipChannel

open Lib

/-- No two rows of a table violate its keys together. -/
def Distinct (d : Database) : Prop :=
  ∀ t, (d t).Pairwise fun r s => clash t r s = false

theorem clash_of_introducesClash {t : Table} {which : Row t → Bool} {change : Row t → Row t}
    {rows : List (Row t)} (h : introducesClash t which change rows = false) {r s : Row t}
    (hr : r ∈ rows) (hs : s ∈ rows) (hw : which r = true) (hno : clash t r s = false) :
    clash t (change r) (if which s then change s else s) = false := by
  by_contra hc
  have hany : introducesClash t which change rows = true := by
    unfold introducesClash
    refine List.any_eq_true.mpr ⟨r, hr, ?_⟩
    rw [Bool.and_eq_true]
    refine ⟨hw, List.any_eq_true.mpr ⟨s, hs, ?_⟩⟩
    simpa [hno] using hc
  rw [h] at hany
  cases hany

namespace Distinct

/-- Distinct rows clash only with themselves. -/
theorem eq_of_clash {d : Database} (h : Distinct d) {t : Table} {r s : Row t}
    (hr : r ∈ d t) (hs : s ∈ d t) (hc : clash t r s = true) : r = s := by
  by_contra hne
  have : Std.Symm fun r s : Row t => clash t r s = false :=
    ⟨fun a b hab => by rw [clash_comm]; exact hab⟩
  have hno := (h t).forall hr hs hne
  rw [hno] at hc
  cases hc

theorem append {d : Database} (h : Distinct d) {t : Table} {row : Row t}
    (hno : ∀ r ∈ d t, clash t row r = false) : Distinct (d.append t row) := by
  intro t'
  by_cases ht : t' = t
  · subst ht
    rw [Store.append_self, List.pairwise_append]
    refine ⟨h t', List.pairwise_singleton _ _, ?_⟩
    intro r hr s hs
    rw [List.mem_singleton.mp hs, clash_comm]
    exact hno r hr
  · rw [Store.append_other _ ht]
    exact h t'

theorem modify {d : Database} (h : Distinct d) {t : Table} {which : Row t → Bool}
    {change : Row t → Row t} (hno : introducesClash t which change (d t) = false) :
    Distinct (d.modify t which change) := by
  intro t'
  by_cases ht : t' = t
  · subst ht
    rw [Store.modify_self, modifyRows, List.pairwise_map]
    refine (h t').imp_of_mem ?_
    intro r s hr hs hrs
    by_cases hwr : which r = true
    · have hchanged := clash_of_introducesClash hno hr hs hwr hrs
      simpa only [hwr, if_true] using hchanged
    · by_cases hws : which s = true
      · rw [clash_comm] at hrs
        have hchanged := clash_of_introducesClash hno hs hr hws hrs
        rw [clash_comm] at hchanged
        simpa only [hws, if_true] using hchanged
      · simpa only [hwr, hws, if_false, Bool.false_eq_true] using hrs
  · rw [Store.modify_other _ ht]
    exact h t'

end Distinct

/-- Every copy of the data a world holds is distinct. -/
structure World.Sound (w : World) : Prop where
  db : Distinct w.db
  view : Distinct w.view
  saved : Distinct w.saved

theorem World.Sound.withPending {w : World} (h : w.Sound) (t : Table) (row : Row t) :
    (w.withPending t row).Sound := by
  unfold World.withPending
  split
  · exact ⟨h.db, h.view, h.saved⟩
  · next hno =>
    refine ⟨h.db, h.view.append ?_, h.saved⟩
    simpa using hno

theorem World.Sound.withUpdate {w : World} (h : w.Sound) (t : Table) (which : Row t → Bool)
    (change : Row t → Row t) : (w.withUpdate t which change).Sound := by
  unfold World.withUpdate
  split
  · exact ⟨h.db, h.view, h.saved⟩
  · next hno => exact ⟨h.db, h.view.modify (by simpa using hno), h.saved⟩

/-- Every call keeps the data distinct. -/
theorem World.Sound.step {w : World} (h : w.Sound) (op : Op) (c : Choice) :
    (World.step w op c).2.Sound := by
  cases op with
  | openSession tenantId => exact ⟨h.db, h.db, h.saved⟩
  | closeSession => exact ⟨h.db, h.db, h.saved⟩
  | select t cond => exact h
  | add t row => exact h.withPending t row
  | update t which change => exact h.withUpdate t which change
  | flush => exact h
  | savepoint =>
    simp only [World.step]
    split
    · exact h
    · exact ⟨h.db, h.view, h.view⟩
  | releaseSavepoint => exact h
  | rollbackToSavepoint => exact ⟨h.db, h.saved, h.saved⟩
  | commit =>
    simp only [World.step]
    split
    · exact h
    · exact ⟨h.view, h.view, h.saved⟩
  | rollback => exact ⟨h.db, h.db, h.saved⟩
  | utcnow => exact ⟨h.db, h.view, h.saved⟩
  | uuid4 => exact h
  | activeTenantIds | tenantsOfToken | tokenUrlsafe | encrypt => exact h
  | validateUser uid => exact ⟨h.db, h.view, h.saved⟩
  | telegram call about =>
    simp only [World.step]
    split
    · split
      · exact ⟨h.db, h.view, h.saved⟩
      · exact h
    · exact ⟨h.db, h.view, h.saved⟩

/-- Every program keeps the data distinct. -/
theorem wp_sound_world {α : Type} {G : World → Op → Choice → Prop} (p : App α) (w : World) :
    wp (serial G) p (fun _ w' => w.Sound → w'.Sound) w :=
  wp_invariant (fun _ op c _ hs h => (hs h).step op c) p id

/-- Only a reading moves the clock. -/
theorem World.step_clock (w : World) (op : Op) (c : Choice) :
    (World.step w op c).2.clock = w.clock ∨
      (op = .utcnow ∧ (World.step w op c).2.clock = (World.reading c).utc) := by
  cases op with
  | utcnow => exact .inr ⟨rfl, rfl⟩
  | openSession | closeSession | select | flush | releaseSavepoint | rollbackToSavepoint
  | rollback | uuid4 | activeTenantIds | tenantsOfToken | tokenUrlsafe | encrypt
  | validateUser => exact .inl rfl
  | add t row =>
    simp only [World.step, World.withPending]
    split <;> exact .inl rfl
  | update t which change =>
    simp only [World.step, World.withUpdate]
    split <;> exact .inl rfl
  | savepoint | commit =>
    simp only [World.step]
    split <;> exact .inl rfl
  | telegram call about =>
    simp only [World.step]
    split
    · split <;> exact .inl rfl
    · exact .inl rfl

/-- Under a clock that never goes back, every program ends no earlier than it began. -/
theorem wp_clock {α : Type} {G : World → Op → Choice → Prop} {p : App α} {w : World}
    (hG : ∀ w c, G w .utcnow c → w.clock ≤ (World.reading c).utc) :
    wp (serial G) p (fun _ w' => w.clock ≤ w'.clock) w := by
  refine wp_invariant (fun s op c hc (hs : w.clock ≤ s.clock) => ?_) p (Int.le_refl _)
  rcases s.step_clock op c with heq | ⟨rfl, heq⟩
  · rw [heq]
    exact hs
  · rw [heq]
    exact Int.le_trans hs (hG s c hc)

/-! ## Where a conflict comes from -/

/-- The call writes no row of the table. -/
def Op.spares (t : Table) : Op → Prop
  | .add t' _ | .update t' _ _ => t' ≠ t
  | .openSession _ | .closeSession | .select .. | .flush | .savepoint | .releaseSavepoint
  | .rollbackToSavepoint | .commit | .rollback | .utcnow | .uuid4 | .activeTenantIds
  | .tenantsOfToken _ | .tokenUrlsafe | .encrypt _ | .validateUser _ | .telegram .. => True

/-- Only a write to a table brings about a conflict of its rows. -/
theorem Op.spares.step {t : Table} {op : Op} (h : op.spares t) {w : World} (c : Choice)
    (hw : w.conflict ≠ some t) : (World.step w op c).2.conflict ≠ some t := by
  have hor : ∀ t', t' ≠ t → w.conflict.or (some t') ≠ some t := by
    intro t' ht
    cases hc : w.conflict with
    | none => simpa using ht
    | some t₀ => simpa [hc] using hw
  cases op with
  | add t' row =>
    simp only [World.step, World.withPending]
    split
    · exact hor t' h
    · exact hw
  | update t' which change =>
    simp only [World.step, World.withUpdate]
    split
    · exact hor t' h
    · exact hw
  | openSession | closeSession | rollbackToSavepoint | rollback =>
    exact (Option.some_ne_none t).symm
  | select | flush | releaseSavepoint | utcnow | uuid4 | activeTenantIds | tenantsOfToken
  | tokenUrlsafe | encrypt | validateUser => exact hw
  | savepoint | commit =>
    simp only [World.step]
    split <;> exact hw
  | telegram call about =>
    simp only [World.step]
    split
    · split <;> exact hw
    · exact hw

section Spares

variable {α β : Type} {G : World → Op → Choice → Prop} {w : World} {t : Table}

theorem wp_spares {p : App α} (hp : p.UsesOnly (Op.spares t)) (hw : w.conflict ≠ some t) :
    wp (serial G) p (fun _ w' => w'.conflict ≠ some t) w :=
  wp_usesOnly (fun _ _ c hop _ hs => hop.step c hs) hp hw

/-- A first half that spares the table, with what it returns. -/
theorem wp_bind_spares {p : App α} {f : α → App β} {Q : α → World → Prop}
    (h : Meets G p Q (fun _ _ => True) w) (hp : p.UsesOnly (Op.spares t))
    (hw : w.conflict ≠ some t)
    (hf : ∀ a w', Q a w' → w'.conflict ≠ some t →
      wp (serial G) (f a) (fun _ w'' => w''.conflict ≠ some t) w') :
    wp (serial G) (p >>= f) (fun _ w' => w'.conflict ≠ some t) w := by
  rw [wp_bind]
  refine wp_mono ?_ (wp_and h (wp_spares hp hw))
  rintro (e | a) w' ⟨hq, hc⟩
  · exact hc
  · exact hf a w' hq hc

end Spares

end VipChannel

/-
  VipChannel.Persistence.LostAnswers

  A database whose answer may be lost: a commit that raises may have taken effect all the
  same, and leaving the session may raise.  The serial semantics knows neither; it is this
  one where the environment acknowledges (`Acknowledged`, `runs_losing_iff`).
-/
import VipChannel.Persistence.SessionRules

namespace VipChannel

open Lib

/-- One call, where `lost` says that what failed was only the answer to a commit. -/
def World.losingStep : Handler Op Op.Ret PyError (Choice × Bool) World
  | w, .commit, (c, lost) =>
    match c.fault with
    | some e =>
      -- A pending violation keeps the commit from taking effect.
      if lost && w.conflict.isNone then (.error e, { w with db := w.view })
      else (.error e, w)
    | none => World.step w .commit c
  | w, .closeSession, (c, _) =>
    match c.fault with
    | some e => (.error e, { w with view := w.db, conflict := none })
    | none => World.step w .closeSession c
  | w, op, (c, _) => World.step w op c

/-- The semantics under an assumption on the environment. -/
def losing (H : World → Op → Choice × Bool → Prop) : Machine Op Op.Ret PyError World :=
  Handler.machine World.losingStep H

/-- No answer is lost, and sessions close. -/
structure Acknowledged (H : World → Op → Choice × Bool → Prop) : Prop where
  commit : ∀ w c lost, H w .commit (c, lost) → c.fault ≠ none → lost = false
  close : ∀ w c lost, H w .closeSession (c, lost) → c.fault = none

/-- What the environment may choose, whatever is lost. -/
def choices (H : World → Op → Choice × Bool → Prop) : World → Op → Choice → Prop :=
  fun w op c => ∃ lost, H w op (c, lost)

section Losing

variable {H : World → Op → Choice × Bool → Prop}

theorem losingStep_eq_step (hH : Acknowledged H) {w : World} {op : Op} {c : Choice}
    {lost : Bool} (h : H w op (c, lost)) : World.losingStep w op (c, lost) = World.step w op c := by
  cases op with
  | commit =>
    cases hf : c.fault with
    | none => simp only [World.losingStep, hf]
    | some e =>
      have hlost : lost = false := hH.commit w c lost h (by simp [hf])
      simp [World.losingStep, World.step, World.flushed, hf, hlost]
  | closeSession =>
    have hclosed : c.fault = none := hH.close w c lost h
    simp only [World.losingStep, hclosed]
  | openSession | select | add | update | flush | savepoint | releaseSavepoint
  | rollbackToSavepoint | rollback | utcnow | uuid4 | activeTenantIds | tenantsOfToken
  | tokenUrlsafe | encrypt | validateUser | telegram => rfl

/-- Where every answer arrives, the runs are those of the serial semantics. -/
theorem runs_losing_iff (hH : Acknowledged H) {α : Type} {p : App α} {w w' : World}
    {r : Except PyError α} :
    Runs (losing H) p w r w' ↔ Runs (serial (choices H)) p w r w' := by
  apply runs_congr
  intro s op x t
  constructor
  · rintro ⟨⟨c, lost⟩, hc, hstep⟩
    rw [losingStep_eq_step hH hc] at hstep
    exact ⟨c, ⟨lost, hc⟩, hstep⟩
  · rintro ⟨c, ⟨lost, hc⟩, hstep⟩
    refine ⟨(c, lost), hc, ?_⟩
    rw [losingStep_eq_step hH hc]
    exact hstep

end Losing

/-- The environment that makes the choices of `G` and loses nothing. -/
def keeping (G : World → Op → Choice → Prop) : World → Op → Choice × Bool → Prop :=
  fun w op x => G w op x.1 ∧ x.2 = false ∧ (op = .closeSession → x.1.fault = none)

theorem acknowledged_keeping (G : World → Op → Choice → Prop) : Acknowledged (keeping G) where
  commit := fun _ _ _ h _ => h.2.1
  close := fun _ _ _ h => h.2.2 rfl

theorem choices_keeping {G : World → Op → Choice → Prop}
    (hclose : ∀ w c, G w .closeSession c → c.fault = none) : choices (keeping G) = G := by
  funext w op c
  apply propext
  constructor
  · rintro ⟨_, hc, -⟩
    exact hc
  · intro hc
    refine ⟨false, hc, rfl, ?_⟩
    rintro rfl
    exact hclose w c hc

/-- So its runs are those of the serial semantics. -/
theorem runs_keeping_iff {G : World → Op → Choice → Prop}
    (hclose : ∀ w c, G w .closeSession c → c.fault = none) {α : Type} {p : App α}
    {w w' : World} {r : Except PyError α} :
    Runs (losing (keeping G)) p w r w' ↔ Runs (serial G) p w r w' := by
  rw [runs_losing_iff (acknowledged_keeping G), choices_keeping hclose]

end VipChannel

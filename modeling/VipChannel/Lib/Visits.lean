/-
  VipChannel.Lib.Visits

  Runs with a record of what was called: a machine whose states carry the calls made so
  far, each with the state it was made in and its answer.  Whatever holds of the runs of the
  machine holds of the recorded ones, and every run can be recorded.
-/
import VipChannel.Lib.Program

namespace VipChannel.Lib

/-- A call of a run. -/
structure CallRecord (Op : Type) (Ret : Op → Type) (ε σ : Type) where
  state : σ
  op : Op
  answer : Except ε (Ret op)

namespace Machine

variable {Op : Type} {Ret : Op → Type} {ε α β σ : Type} {M : Machine Op Ret ε σ}

/-- The machine that writes down its calls. -/
def logged (M : Machine Op Ret ε σ) : Machine Op Ret ε (σ × List (CallRecord Op Ret ε σ)) where
  allowed s op := M.allowed s.1 op
  steps s op x s' := M.steps s.1 op x s'.1 ∧ s'.2 = s.2 ++ [⟨s.1, op, x⟩]

/-- A recorded run is a run. -/
theorem runs_of_logged {p : Program Op Ret ε α} {s s' : σ × List (CallRecord Op Ret ε σ)}
    {r : Except ε α} (h : Runs M.logged p s r s') : Runs M p s.1 r s'.1 := by
  induction p generalizing s with
  | pure a =>
    obtain ⟨rfl, rfl⟩ := h
    exact ⟨rfl, rfl⟩
  | throw e =>
    obtain ⟨rfl, rfl⟩ := h
    exact ⟨rfl, rfl⟩
  | call op k ih =>
    obtain ⟨x, t, ⟨hstep, -⟩, hk⟩ := h
    exact ⟨x, t.1, hstep, ih x hk⟩

/-- Every run can be recorded. -/
theorem logged_of_runs {p : Program Op Ret ε α} {s s' : σ} {r : Except ε α}
    (h : Runs M p s r s') (log : List (CallRecord Op Ret ε σ)) :
    ∃ log', Runs M.logged p (s, log) r (s', log') := by
  induction p generalizing s log with
  | pure a =>
    obtain ⟨rfl, rfl⟩ := h
    exact ⟨log, rfl, rfl⟩
  | throw e =>
    obtain ⟨rfl, rfl⟩ := h
    exact ⟨log, rfl, rfl⟩
  | call op k ih =>
    obtain ⟨x, t, hstep, hk⟩ := h
    obtain ⟨log', hk'⟩ := ih x hk (log ++ [⟨s, op, x⟩])
    exact ⟨log', x, (t, log ++ [⟨s, op, x⟩]), ⟨hstep, rfl⟩, hk'⟩

/-- What a machine guarantees is guaranteed of its recorded runs, and calls are only added
    to the record. -/
theorem wp_logged {p : Program Op Ret ε α} {Q : Except ε α → σ → Prop} {s : σ}
    {log : List (CallRecord Op Ret ε σ)} (h : wp M p Q s) :
    wp M.logged p (fun r s' => Q r s'.1 ∧ ∀ v ∈ log, v ∈ s'.2) (s, log) := by
  induction p generalizing s log with
  | pure a => exact ⟨h, fun _ hv => hv⟩
  | throw e => exact ⟨h, fun _ hv => hv⟩
  | call op k ih =>
    refine ⟨h.1, fun x t ⟨hstep, hlog⟩ => ?_⟩
    obtain ⟨t, log₁⟩ := t
    refine wp_mono ?_ (ih x (h.2 x t hstep))
    rintro r s' ⟨hq, hkept⟩
    refine ⟨hq, fun v hv => hkept v ?_⟩
    rw [show log₁ = log ++ [⟨s, op, x⟩] from hlog]
    exact List.mem_append_left _ hv

/-- One call, written down. -/
theorem wp_perform_logged {op : Op}
    {Q : Except ε (Ret op) → σ × List (CallRecord Op Ret ε σ) → Prop} {s : σ}
    {log : List (CallRecord Op Ret ε σ)} (hallowed : M.allowed s op)
    (h : ∀ x s', M.steps s op x s' → Q x (s', log ++ [⟨s, op, x⟩])) :
    wp M.logged (Program.perform op) Q (s, log) := by
  rw [wp_perform]
  refine ⟨hallowed, ?_⟩
  rintro x ⟨s', log'⟩ ⟨hstep, hlog⟩
  have heq : log' = log ++ [⟨s, op, x⟩] := hlog
  rw [heq]
  exact h x s' hstep

/-- A first half of which only the guarantee matters, and that it adds to the record. -/
theorem wp_bind_logged {p : Program Op Ret ε α} {f : α → Program Op Ret ε β}
    {Q : Except ε α → σ → Prop} {R : Except ε β → σ × List (CallRecord Op Ret ε σ) → Prop} {s : σ}
    {log : List (CallRecord Op Ret ε σ)} (hp : wp M p Q s)
    (hok : ∀ a s' log', Q (.ok a) s' → (∀ v ∈ log, v ∈ log') → wp M.logged (f a) R (s', log'))
    (herr : ∀ e s' log', Q (.error e) s' → (∀ v ∈ log, v ∈ log') → R (.error e) (s', log')) :
    wp M.logged (p >>= f) R (s, log) := by
  rw [wp_bind]
  refine wp_mono ?_ (wp_logged hp)
  rintro (e | a) ⟨s', log'⟩ ⟨hq, hkept⟩
  · exact herr e s' log' hq hkept
  · exact hok a s' log' hq hkept

end Machine

section Exec

variable {Op : Type} {Ret : Op → Type} {ε α σ χ : Type}

/-- The handler that writes down its calls. -/
def Handler.logged (H : Handler Op Ret ε χ σ) :
    Handler Op Ret ε χ (σ × List (CallRecord Op Ret ε σ)) := fun s op c =>
  let r := H s.1 op c
  (r.1, r.2, s.2 ++ [⟨s.1, op, r.1⟩])

/-- An execution that writes down its calls is a recorded run. -/
theorem runs_exec_logged (H : Handler Op Ret ε χ σ) {G : σ → Op → χ → Prop} {env : σ → Op → χ}
    (hG : ∀ s op, G s op (env s op)) (p : Program Op Ret ε α)
    (s : σ × List (CallRecord Op Ret ε σ)) :
    Runs (H.machine G).logged p s (exec H.logged (fun s => env s.1) p s).1
      (exec H.logged (fun s => env s.1) p s).2 := by
  induction p generalizing s with
  | pure a => exact ⟨rfl, rfl⟩
  | throw e => exact ⟨rfl, rfl⟩
  | call op k ih => exact ⟨_, _, ⟨⟨env s.1 op, hG s.1 op, rfl⟩, rfl⟩, ih _ _⟩

end Exec

end VipChannel.Lib

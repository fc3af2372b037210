/-
  VipChannel.Lib.Refinement

  Two machines for one program.

  `M` runs the program over states of one kind, `N` over states of another.  A discipline `D`
  says which calls the program makes, and a relation `R` ties the three states.  If every
  call that `D` allows can be answered by `N` as it was by `M`, then every run of `M` is one
  of `N` (`Runs.followed`).
-/
import VipChannel.Lib.Program

namespace VipChannel.Lib

open Program

variable {Op : Type} {Ret : Op → Type} {ε α σ σ' τ : Type}

/-- Whatever `M` answers to an allowed call, `N` answers too, and `R` holds again. -/
def Follows (D : Machine Op Ret ε τ) (R : τ → σ → σ' → Prop) (M : Machine Op Ret ε σ)
    (N : Machine Op Ret ε σ') : Prop :=
  ∀ t s u op r s', R t s u → D.allowed t op → M.steps s op r s' →
    ∃ t' u', D.steps t op r t' ∧ N.steps u op r u' ∧ R t' s' u'

section Follows

variable {D : Machine Op Ret ε τ} {R : τ → σ → σ' → Prop} {M : Machine Op Ret ε σ}
  {N : Machine Op Ret ε σ'}

theorem Runs.followed (h : Follows D R M N) {p : Program Op Ret ε α}
    {Q : Except ε α → τ → Prop} {t : τ} {s s' : σ} {u : σ'} {r : Except ε α}
    (hruns : Runs M p s r s') (hp : wp D p Q t) (hR : R t s u) :
    ∃ t' u', Runs N p u r u' ∧ Q r t' ∧ R t' s' u' := by
  induction p generalizing s t u with
  | pure a =>
    obtain ⟨rfl, rfl⟩ := hruns
    exact ⟨t, u, ⟨rfl, rfl⟩, hp, hR⟩
  | throw e =>
    obtain ⟨rfl, rfl⟩ := hruns
    exact ⟨t, u, ⟨rfl, rfl⟩, hp, hR⟩
  | call op k ih =>
    obtain ⟨x, v, hx, hk⟩ := hruns
    obtain ⟨t₁, u₁, ht₁, hu₁, hR₁⟩ := h t s u op x v hR hp.1 hx
    obtain ⟨t', u', hruns, hend⟩ := ih x hk (hp.2 x t₁ ht₁) hR₁
    exact ⟨t', u', ⟨x, u₁, hu₁, hruns⟩, hend⟩

/-- Handlers that answer the same to every allowed call follow each other both ways. -/
theorem follows_both {χ : Type} {H : Handler Op Ret ε χ σ} {K : Handler Op Ret ε χ σ'}
    {G : σ → Op → χ → Prop} {G' : σ' → Op → χ → Prop}
    (hsame : ∀ t s u op c, R t s u → D.allowed t op → (G s op c ↔ G' u op c) ∧
      (K u op c).1 = (H s op c).1 ∧
      ∃ t', D.steps t op (H s op c).1 t' ∧ R t' (H s op c).2 (K u op c).2) :
    Follows D R (H.machine G) (K.machine G') ∧
      Follows D (fun t u s => R t s u) (K.machine G') (H.machine G) := by
  refine ⟨?_, ?_⟩
  · rintro t s u op r s' hR hop ⟨c, hc, hstep⟩
    obtain ⟨hchoice, hanswer, t', ht', hR'⟩ := hsame t s u op c hR hop
    rw [hstep] at hanswer ht' hR'
    exact ⟨t', _, ht', ⟨c, hchoice.mp hc, Prod.ext hanswer rfl⟩, hR'⟩
  · rintro t u s op r u' hR hop ⟨c, hc, hstep⟩
    obtain ⟨hchoice, hanswer, t', ht', hR'⟩ := hsame t s u op c hR hop
    rw [hstep] at hanswer hR'
    have hr : r = (H s op c).1 := hanswer
    rw [hr]
    exact ⟨t', _, ht', ⟨c, hchoice.mpr hc, rfl⟩, hR'⟩

end Follows

end VipChannel.Lib

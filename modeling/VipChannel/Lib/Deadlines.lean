/-
  VipChannel.Lib.Deadlines

  Errands that are looked at from time to time.

  An errand has a number of stages left and an instant from which on the next look takes it a
  stage further; from one stage to the next it has to rest.  If the looks are never more than
  a gap apart, the errand is over by a deadline that depends on neither the looks nor on what
  else happens (`Looks.in_time`).
-/
import Mathlib

namespace VipChannel.Lib

/-- An errand over a state: open, and due for the next of so many stages, or over since an
    instant. -/
structure Errand (σ : Type*) where
  pending : σ → Int → Nat → Prop
  done : σ → Int → Prop
  look : Int → σ → σ → Prop
  other : σ → σ → Prop

namespace Errand

variable {σ : Type*}

/-- What a look at `t` makes of an errand that is due from `due` on with `left` stages to go. -/
inductive Looked (T : Errand σ) (rest t due : Int) (left : Nat) (s : σ) : Prop
  | waits : t < due → T.pending s due left → Looked T rest t due left s
  | advances {due' : Int} {left' : Nat} : left = left' + 1 → t ≤ due' → due' ≤ max due (t + rest) →
      T.pending s due' left' → Looked T rest t due left s
  | ends : T.done s t → Looked T rest t due left s

/-- The looks take the errand on, and nothing takes it back. -/
structure Progresses (T : Errand σ) (rest : Int) : Prop where
  look : ∀ {t s s' due left}, T.look t s s' → T.pending s due left → T.Looked rest t due left s'
  look_done : ∀ {t s s' t₁}, T.look t s s' → T.done s t₁ → T.done s' t₁
  other : ∀ {s s' due left}, T.other s s' → T.pending s due left → T.pending s' due left
  other_done : ∀ {s s' t₁}, T.other s s' → T.done s t₁ → T.done s' t₁

/-- Looks at an errand from `t₀` on, none of them more than `gap` after the one before; the last
    one is at `t`. -/
inductive Looks (T : Errand σ) (gap t₀ : Int) (s₀ : σ) : Int → σ → Prop
  | start : Looks T gap t₀ s₀ t₀ s₀
  | look {t t' : Int} {s s' : σ} : Looks T gap t₀ s₀ t s → t' ≤ t + gap → T.look t' s s' →
      Looks T gap t₀ s₀ t' s'
  | other {t : Int} {s s' : σ} : Looks T gap t₀ s₀ t s → T.other s s' → Looks T gap t₀ s₀ t s'

/-- A stage is over at the latest a rest and a gap after the one before. -/
def deadline (rest gap t₀ due : Int) (left : Nat) : Int := max due t₀ + left * (rest + gap)

variable {T : Errand σ} {rest gap t₀ due : Int} {left : Nat} {s₀ : σ}

/-- One look at an open errand: what is left of it fits into what was left of the time. -/
theorem Looked.in_time {t t' due' : Int} {left' : Nat} {s : σ} (hrest : 0 ≤ rest)
    (hgap : 0 ≤ gap) (h : T.Looked rest t' due' left' s) (hlast : t ≤ max due' t₀)
    (ht : t' ≤ t + gap) :
    (∃ d n, T.pending s d n ∧ t' ≤ max d t₀ ∧
      Errand.deadline rest gap t₀ d n ≤ Errand.deadline rest gap t₀ due' left') ∨
    (t' ≤ Errand.deadline rest gap t₀ due' left' + gap ∧ T.done s t') := by
  have hnonneg : 0 ≤ (left' : Int) * (rest + gap) := by positivity
  cases h with
  | waits hearly hpending =>
    refine .inl ⟨due', left', hpending, ?_, le_rfl⟩
    omega
  | @advances d n hleft hnext hdue hpending =>
    refine .inl ⟨d, n, hpending, ?_, ?_⟩
    · omega
    · have hstage : (left' : Int) * (rest + gap) = n * (rest + gap) + (rest + gap) := by
        rw [hleft]
        push_cast
        ring
      unfold Errand.deadline
      omega
  | ends hdone =>
    refine .inr ⟨?_, hdone⟩
    unfold Errand.deadline
    omega

/-- The errand is over in time, or the looks have not come so far yet. -/
theorem Looks.in_time {t : Int} {s : σ} (hT : T.Progresses rest) (hrest : 0 ≤ rest)
    (hgap : 0 ≤ gap) (hstart : T.pending s₀ due left) (h : T.Looks gap t₀ s₀ t s) :
    (∃ d n, T.pending s d n ∧ t ≤ max d t₀ ∧
      Errand.deadline rest gap t₀ d n ≤ Errand.deadline rest gap t₀ due left) ∨
    ∃ t₁, t₁ ≤ Errand.deadline rest gap t₀ due left + gap ∧ T.done s t₁ := by
  induction h with
  | start => exact .inl ⟨due, left, hstart, le_max_right due t₀, le_rfl⟩
  | other _ hother ih =>
    rcases ih with ⟨d, n, hpending, hlast, hfits⟩ | ⟨t₁, ht₁, hdone⟩
    · exact .inl ⟨d, n, hT.other hother hpending, hlast, hfits⟩
    · exact .inr ⟨t₁, ht₁, hT.other_done hother hdone⟩
  | look _ hnext hlook ih =>
    rcases ih with ⟨d, n, hpending, hlast, hfits⟩ | ⟨t₁, ht₁, hdone⟩
    · rcases (hT.look hlook hpending).in_time hrest hgap hlast hnext with
        ⟨d', n', hpending', hlast', hless⟩ | ⟨hin, hdone⟩
      · exact .inl ⟨d', n', hpending', hlast', hless.trans hfits⟩
      · exact .inr ⟨_, by omega, hdone⟩
    · exact .inr ⟨t₁, ht₁, hT.look_done hlook hdone⟩

/-- After a look past the deadline the errand is over. -/
theorem Looks.done_of_late {t : Int} {s : σ} (hT : T.Progresses rest) (hrest : 0 ≤ rest)
    (hgap : 0 ≤ gap) (hstart : T.pending s₀ due left) (h : T.Looks gap t₀ s₀ t s)
    (hlate : Errand.deadline rest gap t₀ due left < t) :
    ∃ t₁, t₁ ≤ Errand.deadline rest gap t₀ due left + gap ∧ T.done s t₁ := by
  rcases h.in_time hT hrest hgap hstart with ⟨d, n, -, hlast, hfits⟩ | hdone
  · exfalso
    have hnonneg : 0 ≤ (n : Int) * (rest + gap) := by positivity
    unfold Errand.deadline at hfits hlate
    omega
  · exact hdone

end Errand

end VipChannel.Lib

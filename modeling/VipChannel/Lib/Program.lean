/-
  VipChannel.Lib.Program

  Effectful programs as trees of calls.  A `Program` is a value, a raised
  error, or one call to the outside world followed by a continuation that
  receives the answer.  The tree says what the code does with every answer it
  could be given; what answers are possible is left to a `Machine`.

  One program can so be read under several semantics: executed in an environment
  that computes (`exec`), related to everything a nondeterministic
  environment could make of it (`Runs`), or checked against a typestate
  protocol (a `Machine` whose states are the protocol's).  The weakest
  precondition `wp` is defined once, for every machine, and is what proofs
  about programs go through.
-/
import Mathlib

namespace VipChannel.Lib

/-- A program over the operations `Op`.  An operation answers with a `Ret op` or
    raises an `ε`; `call` hands the answer to its continuation. -/
inductive Program (Op : Type) (Ret : Op → Type) (ε α : Type) : Type where
  | pure (a : α)
  | throw (e : ε)
  | call (op : Op) (k : Except ε (Ret op) → Program Op Ret ε α)

namespace Program

variable {Op : Type} {Ret : Op → Type} {ε α β γ : Type}

def bind : Program Op Ret ε α → (α → Program Op Ret ε β) → Program Op Ret ε β
  | .pure a, f => f a
  | .throw e, _ => .throw e
  | .call op k, f => .call op fun r => (k r).bind f

/-- `try … except` around a whole program: the handler replaces the raised error. -/
def tryCatch : Program Op Ret ε α → (ε → Program Op Ret ε α) → Program Op Ret ε α
  | .pure a, _ => .pure a
  | .throw e, h => h e
  | .call op k, h => .call op fun r => (k r).tryCatch h

instance : Monad (Program Op Ret ε) where
  pure := Program.pure
  bind := Program.bind

instance : MonadExceptOf ε (Program Op Ret ε) where
  throw := Program.throw
  tryCatch := Program.tryCatch

/-- A computation that needs no call: its value, or its error raised. -/
def raising : Except ε α → Program Op Ret ε α
  | .ok a => .pure a
  | .error e => .throw e

/-- One call, its error raised. -/
def perform (op : Op) : Program Op Ret ε (Ret op) :=
  .call op raising

@[simp] theorem raising_ok (a : α) :
    (raising (.ok a) : Program Op Ret ε α) = Pure.pure a := rfl

@[simp] theorem raising_error (e : ε) :
    (raising (.error e) : Program Op Ret ε α) = .throw e := rfl

@[simp] theorem pure_bind' (a : α) (f : α → Program Op Ret ε β) :
    (Pure.pure a : Program Op Ret ε α) >>= f = f a := rfl

@[simp] theorem throw_bind (e : ε) (f : α → Program Op Ret ε β) :
    (Program.throw e : Program Op Ret ε α) >>= f = .throw e := rfl

instance : LawfulMonad (Program Op Ret ε) := LawfulMonad.mk' _
  (by
    intro α x
    change x.bind (fun a => .pure a) = x
    induction x with
    | pure a => rfl
    | throw e => rfl
    | call op k ih => simp only [bind, ih])
  (fun _ _ => rfl)
  (by
    intro α β γ x f g
    change (x.bind f).bind g = x.bind fun a => (f a).bind g
    induction x with
    | pure a => rfl
    | throw e => rfl
    | call op k ih => simp only [bind, ih])

end Program

open Program

/-! ## Machines and weakest preconditions -/

/-- What an environment does with calls: `steps s op r s'` when it may answer `r` to
    `op` in state `s` and end in `s'`; `allowed s op` is what the caller owes. -/
structure Machine (Op : Type) (Ret : Op → Type) (ε σ : Type) where
  allowed : σ → Op → Prop
  steps : σ → (op : Op) → Except ε (Ret op) → σ → Prop

section Wp

variable {Op : Type} {Ret : Op → Type} {ε α β σ : Type} (M : Machine Op Ret ε σ)

/-- `wp M p Q s`: started in `s`, every call of `p` is allowed, and whatever the
    answers, `p` ends with a result and a state that satisfy `Q`. -/
def wp : Program Op Ret ε α → (Except ε α → σ → Prop) → σ → Prop
  | .pure a, Q, s => Q (.ok a) s
  | .throw e, Q, s => Q (.error e) s
  | .call op k, Q, s => M.allowed s op ∧ ∀ r s', M.steps s op r s' → wp (k r) Q s'

/-- The postcondition a bind leaves to its first half. -/
def bindPost (f : α → Program Op Ret ε β) (Q : Except ε β → σ → Prop) :
    Except ε α → σ → Prop
  | .ok a, s => wp M (f a) Q s
  | .error e, s => Q (.error e) s

/-- The postcondition a `tryCatch` leaves to its body. -/
def catchPost (h : ε → Program Op Ret ε α) (Q : Except ε α → σ → Prop) :
    Except ε α → σ → Prop
  | .ok a, s => Q (.ok a) s
  | .error e, s => wp M (h e) Q s

variable {M}

@[simp] theorem wp_pure (a : α) (Q : Except ε α → σ → Prop) (s : σ) :
    wp M (Pure.pure a : Program Op Ret ε α) Q s ↔ Q (.ok a) s := Iff.rfl

@[simp] theorem wp_throw (e : ε) (Q : Except ε α → σ → Prop) (s : σ) :
    wp M (.throw e : Program Op Ret ε α) Q s ↔ Q (.error e) s := Iff.rfl

@[simp] theorem bindPost_ok (f : α → Program Op Ret ε β) (Q : Except ε β → σ → Prop)
    (a : α) (s : σ) : bindPost M f Q (.ok a) s ↔ wp M (f a) Q s := Iff.rfl

@[simp] theorem bindPost_error (f : α → Program Op Ret ε β) (Q : Except ε β → σ → Prop)
    (e : ε) (s : σ) : bindPost M f Q (.error e) s ↔ Q (.error e) s := Iff.rfl

@[simp] theorem catchPost_ok (h : ε → Program Op Ret ε α) (Q : Except ε α → σ → Prop)
    (a : α) (s : σ) : catchPost M h Q (.ok a) s ↔ Q (.ok a) s := Iff.rfl

@[simp] theorem catchPost_error (h : ε → Program Op Ret ε α) (Q : Except ε α → σ → Prop)
    (e : ε) (s : σ) : catchPost M h Q (.error e) s ↔ wp M (h e) Q s := Iff.rfl

/-- Consequence. -/
theorem wp_mono {p : Program Op Ret ε α} {Q Q' : Except ε α → σ → Prop} {s : σ}
    (hQ : ∀ r s', Q r s' → Q' r s') (h : wp M p Q s) : wp M p Q' s := by
  induction p generalizing s with
  | pure a => exact hQ _ _ h
  | throw e => exact hQ _ _ h
  | call op k ih => exact ⟨h.1, fun r s' hr => ih r (h.2 r s' hr)⟩

/-- Two postconditions established separately hold together. -/
theorem wp_and {p : Program Op Ret ε α} {Q Q' : Except ε α → σ → Prop} {s : σ}
    (h : wp M p Q s) (h' : wp M p Q' s) : wp M p (fun r s' => Q r s' ∧ Q' r s') s := by
  induction p generalizing s with
  | pure a => exact ⟨h, h'⟩
  | throw e => exact ⟨h, h'⟩
  | call op k ih => exact ⟨h.1, fun r s' hr => ih r (h.2 r s' hr) (h'.2 r s' hr)⟩

theorem wp_bind (p : Program Op Ret ε α) (f : α → Program Op Ret ε β)
    (Q : Except ε β → σ → Prop) (s : σ) :
    wp M (p >>= f) Q s ↔ wp M p (bindPost M f Q) s := by
  change wp M (p.bind f) Q s ↔ _
  induction p generalizing s with
  | pure a => exact Iff.rfl
  | throw e => exact Iff.rfl
  | call op k ih =>
      simp only [Program.bind, wp, ih]

theorem wp_tryCatch (p : Program Op Ret ε α) (h : ε → Program Op Ret ε α)
    (Q : Except ε α → σ → Prop) (s : σ) :
    wp M (p.tryCatch h) Q s ↔ wp M p (catchPost M h Q) s := by
  induction p generalizing s with
  | pure a => exact Iff.rfl
  | throw e => exact Iff.rfl
  | call op k ih => simp only [Program.tryCatch, wp, ih]

@[simp] theorem wp_raising (x : Except ε α) (Q : Except ε α → σ → Prop) (s : σ) :
    wp M (raising x : Program Op Ret ε α) Q s ↔ Q x s := by
  cases x <;> exact Iff.rfl

theorem wp_perform (op : Op) (Q : Except ε (Ret op) → σ → Prop) (s : σ) :
    wp M (perform op : Program Op Ret ε (Ret op)) Q s ↔
      M.allowed s op ∧ ∀ r s', M.steps s op r s' → Q r s' := by
  simp only [perform, wp, wp_raising]

/-- A postcondition given separately for a value and for an error. -/
def either (Q : α → σ → Prop) (E : ε → σ → Prop) : Except ε α → σ → Prop
  | .ok a, s => Q a s
  | .error e, s => E e s

@[simp] theorem either_ok (Q : α → σ → Prop) (E : ε → σ → Prop) (a : α) (s : σ) :
    either Q E (.ok a) s ↔ Q a s := Iff.rfl

@[simp] theorem either_error (Q : α → σ → Prop) (E : ε → σ → Prop) (e : ε) (s : σ) :
    either Q E (.error e : Except ε α) s ↔ E e s := Iff.rfl

theorem wp_bind_either (p : Program Op Ret ε α) (f : α → Program Op Ret ε β)
    (Q : β → σ → Prop) (E : ε → σ → Prop) (s : σ) :
    wp M (p >>= f) (either Q E) s ↔
      wp M p (either (fun a s' => wp M (f a) (either Q E) s') E) s := by
  rw [wp_bind]
  have hpost : bindPost M f (either Q E) =
      either (fun a s' => wp M (f a) (either Q E) s') E := by
    funext r s'
    cases r <;> rfl
  rw [hpost]

theorem wp_tryCatch_either (p : Program Op Ret ε α) (h : ε → Program Op Ret ε α)
    (Q : α → σ → Prop) (E : ε → σ → Prop) (s : σ) :
    wp M (p.tryCatch h) (either Q E) s ↔
      wp M p (either Q fun e s' => wp M (h e) (either Q E) s') s := by
  rw [wp_tryCatch]
  have hpost : catchPost M h (either Q E) =
      either Q fun e s' => wp M (h e) (either Q E) s' := by
    funext r s'
    cases r <;> rfl
  rw [hpost]

theorem wp_either_mono {p : Program Op Ret ε α} {Q Q' : α → σ → Prop} {E E' : ε → σ → Prop}
    {s : σ} (h : wp M p (either Q E) s) (hQ : ∀ a s', Q a s' → Q' a s')
    (hE : ∀ e s', E e s' → E' e s') : wp M p (either Q' E') s := by
  refine wp_mono ?_ h
  intro r s' hr
  cases r with
  | ok a => exact hQ a s' hr
  | error e => exact hE e s' hr

end Wp

/-! ## The calls of a program -/

namespace Program

variable {Op : Type} {Ret : Op → Type} {ε α β : Type} {P : Op → Prop}

/-- Every call the program may make, whatever it is answered, is one of `P`. -/
def UsesOnly (P : Op → Prop) : Program Op Ret ε α → Prop
  | .pure _ => True
  | .throw _ => True
  | .call op k => P op ∧ ∀ r, (k r).UsesOnly P

@[simp] theorem usesOnly_pure (a : α) :
    UsesOnly P (Pure.pure a : Program Op Ret ε α) ↔ True := Iff.rfl

@[simp] theorem usesOnly_throw (e : ε) :
    UsesOnly P (.throw e : Program Op Ret ε α) ↔ True := Iff.rfl

@[simp] theorem usesOnly_raising (x : Except ε α) :
    UsesOnly P (raising x : Program Op Ret ε α) ↔ True := by
  cases x <;> exact Iff.rfl

@[simp] theorem usesOnly_perform (op : Op) :
    UsesOnly P (perform op : Program Op Ret ε (Ret op)) ↔ P op := by
  simp only [perform, UsesOnly, usesOnly_raising, implies_true, and_true]

theorem usesOnly_bind {p : Program Op Ret ε α} {f : α → Program Op Ret ε β}
    (hp : p.UsesOnly P) (hf : ∀ a, (f a).UsesOnly P) : (p >>= f).UsesOnly P := by
  change (p.bind f).UsesOnly P
  induction p with
  | pure a => exact hf a
  | throw e => trivial
  | call op k ih => exact ⟨hp.1, fun r => ih r (hp.2 r)⟩

theorem usesOnly_tryCatch {p : Program Op Ret ε α} {h : ε → Program Op Ret ε α}
    (hp : p.UsesOnly P) (hh : ∀ e, (h e).UsesOnly P) : (p.tryCatch h).UsesOnly P := by
  induction p with
  | pure a => trivial
  | throw e => exact hh e
  | call op k ih => exact ⟨hp.1, fun r => ih r (hp.2 r)⟩

theorem usesOnly_true (p : Program Op Ret ε α) : p.UsesOnly fun _ => True := by
  induction p with
  | pure a => trivial
  | throw e => trivial
  | call op k ih => exact ⟨trivial, fun r => ih r⟩

theorem UsesOnly.mono {Q : Op → Prop} {p : Program Op Ret ε α} (h : p.UsesOnly P)
    (hPQ : ∀ op, P op → Q op) : p.UsesOnly Q := by
  induction p with
  | pure a => trivial
  | throw e => trivial
  | call op k ih => exact ⟨hPQ op h.1, fun r => ih r (h.2 r)⟩

end Program

/-- The machine whose callers owe more. -/
def Machine.restrict {Op : Type} {Ret : Op → Type} {ε σ : Type} (M : Machine Op Ret ε σ)
    (P : Op → Prop) : Machine Op Ret ε σ where
  allowed s op := M.allowed s op ∧ P op
  steps := M.steps

theorem wp_restrict {Op : Type} {Ret : Op → Type} {ε α σ : Type} {M : Machine Op Ret ε σ}
    {P : Op → Prop} {p : Program Op Ret ε α} {Q : Except ε α → σ → Prop} {s : σ}
    (h : wp M p Q s) (hp : p.UsesOnly P) : wp (M.restrict P) p Q s := by
  induction p generalizing s with
  | pure a => exact h
  | throw e => exact h
  | call op k ih => exact ⟨⟨h.1, hp.1⟩, fun r s' hr => ih r (h.2 r s' hr) (hp.2 r)⟩

/-! ## Runs: what a machine can make of a program -/

section Runs

variable {Op : Type} {Ret : Op → Type} {ε α β σ : Type}

/-- `Runs M p s r s'`: some sequence of answers of `M` takes `p` from `s` to `s'` with
    result `r`. -/
def Runs (M : Machine Op Ret ε σ) : Program Op Ret ε α → σ → Except ε α → σ → Prop
  | .pure a, s, r, s' => r = .ok a ∧ s' = s
  | .throw e, s, r, s' => r = .error e ∧ s' = s
  | .call op k, s, r, s' => ∃ x t, M.steps s op x t ∧ Runs M (k x) t r s'

/-- A weakest precondition speaks about every run. -/
theorem wp_sound {M : Machine Op Ret ε σ} {p : Program Op Ret ε α}
    {Q : Except ε α → σ → Prop} {s : σ} {r : Except ε α} {s' : σ}
    (h : wp M p Q s) (hr : Runs M p s r s') : Q r s' := by
  induction p generalizing s with
  | pure a => obtain ⟨rfl, rfl⟩ := hr; exact h
  | throw e => obtain ⟨rfl, rfl⟩ := hr; exact h
  | call op k ih =>
      obtain ⟨x, t, hx, hk⟩ := hr
      exact ih x (h.2 x t hx) hk

/-- A run of one machine is a run of another that a relation ties to it, as long as the
    program keeps to what the other allows. -/
theorem Runs.simulated {τ : Type} {M : Machine Op Ret ε σ} {D : Machine Op Ret ε τ}
    {R : σ → τ → Prop}
    (hstep : ∀ s t op r s', R s t → D.allowed t op → M.steps s op r s' →
      ∃ t', D.steps t op r t' ∧ R s' t')
    {p : Program Op Ret ε α} {Q : Except ε α → τ → Prop} {s s' : σ} {t : τ} {r : Except ε α}
    (hr : Runs M p s r s') (hp : wp D p Q t) (hR : R s t) :
    ∃ t', Runs D p t r t' ∧ Q r t' ∧ R s' t' := by
  induction p generalizing s t with
  | pure a =>
    obtain ⟨rfl, rfl⟩ := hr
    exact ⟨t, ⟨rfl, rfl⟩, hp, hR⟩
  | throw e =>
    obtain ⟨rfl, rfl⟩ := hr
    exact ⟨t, ⟨rfl, rfl⟩, hp, hR⟩
  | call op k ih =>
    obtain ⟨x, u, hx, hk⟩ := hr
    obtain ⟨v, hv, hRv⟩ := hstep s t op x u hR hp.1 hx
    obtain ⟨t', hruns, hend⟩ := ih x hk (hp.2 x v hv) hRv
    exact ⟨t', ⟨x, v, hv, hruns⟩, hend⟩

/-- Machines that answer alike have the same runs. -/
theorem runs_congr {M D : Machine Op Ret ε σ}
    (h : ∀ s op r s', M.steps s op r s' ↔ D.steps s op r s') {p : Program Op Ret ε α}
    {s s' : σ} {r : Except ε α} : Runs M p s r s' ↔ Runs D p s r s' := by
  induction p generalizing s with
  | pure a => exact Iff.rfl
  | throw e => exact Iff.rfl
  | call op k ih =>
    constructor
    · rintro ⟨x, t, hx, hk⟩
      exact ⟨x, t, (h s op x t).mp hx, (ih x).mp hk⟩
    · rintro ⟨x, t, hx, hk⟩
      exact ⟨x, t, (h s op x t).mpr hx, (ih x).mpr hk⟩

/-- Where every call is allowed, what holds of every run is a weakest precondition. -/
theorem wp_of_runs {M : Machine Op Ret ε σ} (hallowed : ∀ s op, M.allowed s op)
    {p : Program Op Ret ε α} {Q : Except ε α → σ → Prop} {s : σ}
    (h : ∀ r s', Runs M p s r s' → Q r s') : wp M p Q s := by
  induction p generalizing s with
  | pure a => exact h _ _ ⟨rfl, rfl⟩
  | throw e => exact h _ _ ⟨rfl, rfl⟩
  | call op k ih =>
    refine ⟨hallowed s op, fun x t hx => ih x fun r s' hk => ?_⟩
    exact h r s' ⟨x, t, hx, hk⟩

/-- What a bind does after its first half has ended. -/
def Continues (M : Machine Op Ret ε σ) (f : α → Program Op Ret ε β) :
    Except ε α → σ → Except ε β → σ → Prop
  | .ok a, s, r, s' => Runs M (f a) s r s'
  | .error e, s, r, s' => r = .error e ∧ s' = s

/-- What a `tryCatch` does after its body has ended. -/
def Recovers (M : Machine Op Ret ε σ) (h : ε → Program Op Ret ε α) :
    Except ε α → σ → Except ε α → σ → Prop
  | .ok a, s, r, s' => r = .ok a ∧ s' = s
  | .error e, s, r, s' => Runs M (h e) s r s'

theorem runs_bind {M : Machine Op Ret ε σ} {p : Program Op Ret ε α} {f : α → Program Op Ret ε β}
    {s : σ} {r : Except ε β} {s' : σ} (h : Runs M (p >>= f) s r s') :
    ∃ x t, Runs M p s x t ∧ Continues M f x t r s' := by
  change Runs M (p.bind f) s r s' at h
  induction p generalizing s with
  | pure a => exact ⟨.ok a, s, ⟨rfl, rfl⟩, h⟩
  | throw e => exact ⟨.error e, s, ⟨rfl, rfl⟩, h⟩
  | call op k ih =>
    obtain ⟨y, t, hy, hk⟩ := h
    obtain ⟨x, t', hx, hrest⟩ := ih y hk
    exact ⟨x, t', ⟨y, t, hy, hx⟩, hrest⟩

theorem Runs.bind {M : Machine Op Ret ε σ} {p : Program Op Ret ε α} {f : α → Program Op Ret ε β}
    {s t s' : σ} {x : Except ε α} {r : Except ε β} (hp : Runs M p s x t)
    (hf : Continues M f x t r s') : Runs M (p >>= f) s r s' := by
  change Runs M (p.bind f) s r s'
  induction p generalizing s with
  | pure a =>
    obtain ⟨rfl, rfl⟩ := hp
    exact hf
  | throw e =>
    obtain ⟨rfl, rfl⟩ := hp
    exact hf
  | call op k ih =>
    obtain ⟨y, u, hy, hk⟩ := hp
    exact ⟨y, u, hy, ih y hk⟩

theorem runs_tryCatch {M : Machine Op Ret ε σ} {p : Program Op Ret ε α}
    {h : ε → Program Op Ret ε α} {s : σ} {r : Except ε α} {s' : σ}
    (hr : Runs M (p.tryCatch h) s r s') :
    ∃ x t, Runs M p s x t ∧ Recovers M h x t r s' := by
  induction p generalizing s with
  | pure a => exact ⟨.ok a, s, ⟨rfl, rfl⟩, hr⟩
  | throw e => exact ⟨.error e, s, ⟨rfl, rfl⟩, hr⟩
  | call op k ih =>
    obtain ⟨y, t, hy, hk⟩ := hr
    obtain ⟨x, t', hx, hrest⟩ := ih y hk
    exact ⟨x, t', ⟨y, t, hy, hx⟩, hrest⟩

theorem Runs.tryCatch {M : Machine Op Ret ε σ} {p : Program Op Ret ε α}
    {h : ε → Program Op Ret ε α} {s t s' : σ} {x r : Except ε α} (hp : Runs M p s x t)
    (hh : Recovers M h x t r s') : Runs M (p.tryCatch h) s r s' := by
  induction p generalizing s with
  | pure a =>
    obtain ⟨rfl, rfl⟩ := hp
    exact hh
  | throw e =>
    obtain ⟨rfl, rfl⟩ := hp
    exact hh
  | call op k ih =>
    obtain ⟨y, u, hy, hk⟩ := hp
    exact ⟨y, u, hy, ih y hk⟩

end Runs

/-! ## Handlers: machines that compute -/

section Exec

variable {Op : Type} {Ret : Op → Type} {ε α σ χ : Type}

/-- A computable semantics of one call: `χ` is what the environment decides about it. -/
abbrev Handler (Op : Type) (Ret : Op → Type) (ε χ σ : Type) :=
  σ → (op : Op) → χ → Except ε (Ret op) × σ

/-- The machine of a handler under an assumption `G` on the environment's choices. -/
def Handler.machine (H : Handler Op Ret ε χ σ) (G : σ → Op → χ → Prop) :
    Machine Op Ret ε σ where
  allowed _ _ := True
  steps s op r s' := ∃ c, G s op c ∧ H s op c = (r, s')

theorem wp_perform_handler {H : Handler Op Ret ε χ σ} {G : σ → Op → χ → Prop} (op : Op)
    (Q : Except ε (Ret op) → σ → Prop) (s : σ) :
    wp (H.machine G) (perform op : Program Op Ret ε (Ret op)) Q s ↔
      ∀ c, G s op c → Q (H s op c).1 (H s op c).2 := by
  rw [wp_perform]
  constructor
  · rintro ⟨-, h⟩ c hc
    exact h _ _ ⟨c, hc, rfl⟩
  · intro h
    refine ⟨trivial, ?_⟩
    rintro r s' ⟨c, hc, heq⟩
    have := h c hc
    rwa [heq] at this

/-- What the calls of a program preserve, the program preserves. -/
theorem wp_usesOnly {H : Handler Op Ret ε χ σ} {G : σ → Op → χ → Prop} {P : Op → Prop}
    {I : σ → Prop} (hI : ∀ s op c, P op → G s op c → I s → I (H s op c).2)
    {p : Program Op Ret ε α} (hp : p.UsesOnly P) {s : σ} (h0 : I s) :
    wp (H.machine G) p (fun _ s' => I s') s := by
  induction p generalizing s with
  | pure a => exact h0
  | throw e => exact h0
  | call op k ih =>
    refine ⟨trivial, ?_⟩
    rintro r s' ⟨c, hc, heq⟩
    have hs' := hI s op c hp.1 hc h0
    rw [heq] at hs'
    exact ih r (hp.2 r) hs'

/-- What every call preserves, every program preserves. -/
theorem wp_invariant {H : Handler Op Ret ε χ σ} {G : σ → Op → χ → Prop} {I : σ → Prop}
    (hI : ∀ s op c, G s op c → I s → I (H s op c).2) (p : Program Op Ret ε α) {s : σ}
    (h0 : I s) : wp (H.machine G) p (fun _ s' => I s') s :=
  wp_usesOnly (fun s op c _ => hI s op c) (usesOnly_true p) h0

/-- Executing a program in an environment that computes its choices from the state and the
    call. -/
def exec (H : Handler Op Ret ε χ σ) (env : σ → Op → χ) :
    Program Op Ret ε α → σ → Except ε α × σ
  | .pure a, s => (.ok a, s)
  | .throw e, s => (.error e, s)
  | .call op k, s =>
    let (r, s') := H s op (env s op)
    exec H env (k r) s'

/-- An execution is a run wherever its choices are admitted. -/
theorem runs_exec (H : Handler Op Ret ε χ σ) {G : σ → Op → χ → Prop} {env : σ → Op → χ}
    (hG : ∀ s op, G s op (env s op)) (p : Program Op Ret ε α) (s : σ) :
    Runs (H.machine G) p s (exec H env p s).1 (exec H env p s).2 := by
  induction p generalizing s with
  | pure a => exact ⟨rfl, rfl⟩
  | throw e => exact ⟨rfl, rfl⟩
  | call op k ih => exact ⟨_, _, ⟨env s op, hG s op, rfl⟩, ih _ _⟩

/-- An execution is a run also where its choices are admitted only in states of which `I`
    holds, if it never leaves them. -/
theorem runs_exec_within (H : Handler Op Ret ε χ σ) {G : σ → Op → χ → Prop} {env : σ → Op → χ}
    {I : σ → Prop} (hG : ∀ s op, I s → G s op (env s op))
    (hI : ∀ s op, I s → I (H s op (env s op)).2) (p : Program Op Ret ε α) {s : σ} (hs : I s) :
    Runs (H.machine G) p s (exec H env p s).1 (exec H env p s).2 ∧ I (exec H env p s).2 := by
  induction p generalizing s with
  | pure a => exact ⟨⟨rfl, rfl⟩, hs⟩
  | throw e => exact ⟨⟨rfl, rfl⟩, hs⟩
  | call op k ih =>
    obtain ⟨hruns, hend⟩ := ih (H s op (env s op)).1 (hI s op hs)
    exact ⟨⟨_, _, ⟨env s op, hG s op hs, rfl⟩, hruns⟩, hend⟩

/-- Where something can become of every call, something can become of every program. -/
theorem exists_runs {M : Machine Op Ret ε σ} (hlive : ∀ s op, ∃ r s', M.steps s op r s')
    (p : Program Op Ret ε α) (s : σ) : ∃ r s', Runs M p s r s' := by
  induction p generalizing s with
  | pure a => exact ⟨.ok a, s, rfl, rfl⟩
  | throw e => exact ⟨.error e, s, rfl, rfl⟩
  | call op k ih =>
    obtain ⟨x, t, hx⟩ := hlive s op
    obtain ⟨r, s', hk⟩ := ih x t
    exact ⟨r, s', x, t, hx, hk⟩

end Exec

end VipChannel.Lib

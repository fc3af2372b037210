/-
  VipChannel.Lib.Interleaving

  Several programs over one shared state, their calls interleaved in any order.

  `M i` is what the environment does with the calls of program `i`.  What program `i` owes
  is said by a machine `D i` over typestates, of which the shared state holds one for every
  program (`view`).  If every program keeps to it (`wp`), then every call that is made, in
  whatever interleaving, is one that was allowed to its program (`Reaches.owed`), what
  allowed calls preserve holds in every state reached (`Reaches.invariant`), and a program
  that has returned has left what it promised (`Reaches.returned`).
-/
import VipChannel.Lib.Program

namespace VipChannel.Lib

open Program

section Interleaving

variable {Op : Type} {Ret : Op → Type} {ε α σ τ ι : Type} [DecidableEq ι]

/-- What is left of every program. -/
abbrev Programs (Op : Type) (Ret : Op → Type) (ε α ι : Type) := ι → Program Op Ret ε α

/-- One of the programs has its next call answered. -/
inductive Interleaves (M : ι → Machine Op Ret ε σ) :
    Programs Op Ret ε α ι × σ → Programs Op Ret ε α ι × σ → Prop
  | call {ps : Programs Op Ret ε α ι} {s s' : σ} (i : ι) {op : Op}
      {k : Except ε (Ret op) → Program Op Ret ε α} {r : Except ε (Ret op)} :
      ps i = .call op k → (M i).steps s op r s' →
      Interleaves M (ps, s) (Function.update ps i (k r), s')

/-- Any number of calls, in any order. -/
def Reaches (M : ι → Machine Op Ret ε σ) :
    Programs Op Ret ε α ι × σ → Programs Op Ret ε α ι × σ → Prop :=
  Relation.ReflTransGen (Interleaves M)

/-- What every program owes, of its own part of the state. -/
structure Discipline (M : ι → Machine Op Ret ε σ) (D : ι → Machine Op Ret ε τ)
    (view : ι → σ → τ) : Prop where
  /-- A call the program may make moves its own part as the discipline says. -/
  own : ∀ i s op r s', (M i).steps s op r s' → (D i).allowed (view i s) op →
    (D i).steps (view i s) op r (view i s')
  /-- The parts of the others stay as they are. -/
  other : ∀ i j s op r s', (M i).steps s op r s' → j ≠ i → view j s' = view j s

variable {M : ι → Machine Op Ret ε σ} {D : ι → Machine Op Ret ε τ} {view : ι → σ → τ}
  {Q : ι → Except ε α → τ → Prop}

/-- Every program keeps to the discipline from here on, and leaves what it promised. -/
def Owed (D : ι → Machine Op Ret ε τ) (view : ι → σ → τ) (Q : ι → Except ε α → τ → Prop)
    (c : Programs Op Ret ε α ι × σ) : Prop :=
  ∀ i, wp (D i) (c.1 i) (Q i) (view i c.2)

theorem Interleaves.owed (hD : Discipline M D view) {c c' : Programs Op Ret ε α ι × σ}
    (h : Interleaves M c c') (howed : Owed D view Q c) : Owed D view Q c' := by
  obtain ⟨i, hp, hstep⟩ := h
  rename_i ps s s' op k r
  have hi : wp (D i) (ps i) (Q i) (view i s) := howed i
  rw [hp] at hi
  intro j
  by_cases hj : j = i
  · subst hj
    show wp (D j) (Function.update ps j (k r) j) _ _
    rw [Function.update_self]
    exact hi.2 r _ (hD.own j s op r s' hstep hi.1)
  · show wp (D j) (Function.update ps i (k r) j) _ (view j s')
    rw [Function.update_of_ne hj, hD.other i j s op r s' hstep hj]
    exact howed j

/-- The programs keep to the discipline in every interleaving. -/
theorem Reaches.owed (hD : Discipline M D view) {c c' : Programs Op Ret ε α ι × σ}
    (h : Reaches M c c') (howed : Owed D view Q c) : Owed D view Q c' := by
  induction h with
  | refl => exact howed
  | tail _ hstep ih => exact hstep.owed hD ih

/-- What the calls that are allowed preserve holds in every state that is reached. -/
theorem Reaches.invariant (hD : Discipline M D view) {I : σ → Prop}
    (hI : ∀ i s op r s', I s → (D i).allowed (view i s) op → (M i).steps s op r s' → I s')
    {c c' : Programs Op Ret ε α ι × σ} (h : Reaches M c c') (howed : Owed D view Q c)
    (h0 : I c.2) : I c'.2 := by
  induction h with
  | refl => exact h0
  | @tail b _ hbefore hstep ih =>
    have hnow : Owed D view Q b := Reaches.owed hD hbefore howed
    obtain ⟨i, hp, hcall⟩ := hstep
    have hi := hnow i
    dsimp only at hi
    rw [hp] at hi
    exact hI i _ _ _ _ ih hi.1 hcall

/-- A program that has returned has left what it promised. -/
theorem Reaches.returned (hD : Discipline M D view) {c c' : Programs Op Ret ε α ι × σ}
    (h : Reaches M c c') (howed : Owed D view Q c) {i : ι} {a : α} (hi : c'.1 i = pure a) :
    Q i (.ok a) (view i c'.2) := by
  have hend := h.owed hD howed i
  rw [hi] at hend
  exact hend

end Interleaving

section Advance

variable {Op : Type} {Ret : Op → Type} {ε α σ χ ι : Type} [DecidableEq ι]

/-- The next calls of a program, as many as `n`, in an environment whose choices are checked. -/
def advance (H : Handler Op Ret ε χ σ) (env : σ → Op → χ) (admits : σ → Op → χ → Bool) :
    Nat → Program Op Ret ε α → σ → Option (Program Op Ret ε α × σ)
  | 0, p, s => some (p, s)
  | _ + 1, .pure a, s => some (.pure a, s)
  | _ + 1, .throw e, s => some (.throw e, s)
  | n + 1, .call op k, s =>
    if admits s op (env s op) then
      advance H env admits n (k (H s op (env s op)).1) (H s op (env s op)).2
    else none

/-- What one program computes alone is a part of an interleaving. -/
theorem reaches_of_advance {M : ι → Machine Op Ret ε σ} {H : Handler Op Ret ε χ σ}
    {env : σ → Op → χ} {admits : σ → Op → χ → Bool} {i : ι}
    (hM : ∀ s op c, admits s op c = true → (M i).steps s op (H s op c).1 (H s op c).2) {n : Nat}
    {ps : Programs Op Ret ε α ι} {s s' : σ} {p' : Program Op Ret ε α}
    (h : advance H env admits n (ps i) s = some (p', s')) :
    Reaches M (ps, s) (Function.update ps i p', s') := by
  have hstay : ∀ {ps : Programs Op Ret ε α ι} {s : σ} {p : Program Op Ret ε α}, ps i = p →
      some (p, s) = some (p', s') → Reaches M (ps, s) (Function.update ps i p', s') := by
    intro ps s p hp h
    cases h
    rw [← hp, Function.update_eq_self]
    exact .refl
  induction n generalizing ps s with
  | zero => exact hstay rfl h
  | succ n ih =>
    cases hp : ps i with
    | pure a | throw e =>
      rw [hp] at h
      exact hstay hp h
    | call op k =>
      rw [hp, advance] at h
      by_cases hadmits : admits s op (env s op) = true
      · rw [if_pos hadmits] at h
        have hnow : Function.update ps i (k (H s op (env s op)).1) i = k (H s op (env s op)).1 :=
          Function.update_self ..
        rw [← hnow] at h
        have hnext := ih h
        rw [Function.update_idem] at hnext
        exact .head (.call i hp (hM s op _ hadmits)) hnext
      · rw [if_neg hadmits] at h
        cases h

/-- Programs in turn, each for a number of calls. -/
def takeTurns (H : ι → Handler Op Ret ε χ σ) (env : ι → σ → Op → χ)
    (admits : ι → σ → Op → χ → Bool) :
    List (ι × Nat) → Programs Op Ret ε α ι × σ → Option (Programs Op Ret ε α ι × σ)
  | [], c => some c
  | (i, n) :: rest, (ps, s) =>
    (advance (H i) (env i) (admits i) n (ps i) s).bind fun (p', s') =>
      takeTurns H env admits rest (Function.update ps i p', s')

theorem reaches_of_takeTurns {M : ι → Machine Op Ret ε σ} {H : ι → Handler Op Ret ε χ σ}
    {env : ι → σ → Op → χ} {admits : ι → σ → Op → χ → Bool}
    (hM : ∀ i s op c, admits i s op c = true → (M i).steps s op (H i s op c).1 (H i s op c).2)
    {turns : List (ι × Nat)} {c c' : Programs Op Ret ε α ι × σ}
    (h : takeTurns H env admits turns c = some c') : Reaches M c c' := by
  induction turns generalizing c with
  | nil =>
    cases h
    exact .refl
  | cons turn rest ih =>
    obtain ⟨i, n⟩ := turn
    obtain ⟨ps, s⟩ := c
    obtain ⟨⟨p', s'⟩, hadvance, hrest⟩ := Option.bind_eq_some_iff.mp h
    exact (reaches_of_advance (hM i) hadvance).trans (ih hrest)

end Advance

end VipChannel.Lib

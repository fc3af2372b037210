/-
  VipChannel.Lib.Coupling

  Two programs run side by side.

  A `Pairing` says which calls of one program answer to which of another, and how their
  answers are then related.  Two programs are coupled when they make paired calls as long
  as they are given related answers, raise the same errors and return related values.
  Whatever a handler makes of paired calls in related states, coupled programs then end
  with related results in related states (`Coupled.follow`): a property of two runs is
  proved by going through the two programs once.
-/
import VipChannel.Lib.Oracle

namespace VipChannel.Lib

namespace Program

variable {Op : Type} {Ret : Op → Type} {ε α β γ δ σ χ : Type}

/-- Which calls answer to each other, and how their answers are related. -/
abbrev Pairing (Op : Type) (Ret : Op → Type) :=
  (op op' : Op) → (Ret op → Ret op' → Prop) → Prop

/-- Two results: related values, or the same error. -/
def AgreeBy (A : α → β → Prop) : Except ε α → Except ε β → Prop
  | .ok a, .ok b => A a b
  | .error e, .error e' => e = e'
  | .ok _, .error _ => False
  | .error _, .ok _ => False

theorem agree_eq {x y : Except ε α} (h : AgreeBy (fun a b => a = b) x y) : x = y := by
  cases x with
  | ok a =>
    cases y with
    | ok b => exact congrArg _ h
    | error e => exact h.elim
  | error e =>
    cases y with
    | ok b => exact h.elim
    | error e' => exact congrArg _ h

/-- The programs make paired calls and end alike. -/
inductive Coupled (C : Pairing Op Ret) (A : α → β → Prop) :
    Program Op Ret ε α → Program Op Ret ε β → Prop
  | pure {a : α} {b : β} : A a b → Coupled C A (.pure a) (.pure b)
  | throw (e : ε) : Coupled C A (.throw e) (.throw e)
  | call {op op' : Op} {R : Ret op → Ret op' → Prop}
      {k : Except ε (Ret op) → Program Op Ret ε α} {k' : Except ε (Ret op') → Program Op Ret ε β} :
      C op op' R → (∀ x y, R x y → Coupled C A (k (.ok x)) (k' (.ok y))) →
      (∀ e, Coupled C A (k (.error e)) (k' (.error e))) → Coupled C A (.call op k) (.call op' k')

section Rules

variable {C : Pairing Op Ret} {A : α → β → Prop} {B : γ → δ → Prop}

/-- Returning related values. -/
theorem coupled_pure {a : α} {b : β} (h : A a b) :
    Coupled C A (Pure.pure a : Program Op Ret ε α) (Pure.pure b : Program Op Ret ε β) :=
  .pure h

theorem Coupled.mono {A' : α → β → Prop} {p : Program Op Ret ε α} {p' : Program Op Ret ε β}
    (h : Coupled C A p p') (hA : ∀ a b, A a b → A' a b) : Coupled C A' p p' := by
  induction h with
  | pure hab => exact .pure (hA _ _ hab)
  | throw e => exact .throw e
  | call hC _ _ ihok iherr => exact .call hC ihok iherr

theorem Coupled.bind {p : Program Op Ret ε α} {p' : Program Op Ret ε β}
    {f : α → Program Op Ret ε γ} {f' : β → Program Op Ret ε δ} (h : Coupled C A p p')
    (hf : ∀ a b, A a b → Coupled C B (f a) (f' b)) : Coupled C B (p >>= f) (p' >>= f') := by
  change Coupled C B (p.bind f) (p'.bind f')
  induction h with
  | pure hab => exact hf _ _ hab
  | throw e => exact .throw e
  | call hC _ _ ihok iherr => exact .call hC ihok iherr

theorem Coupled.tryCatch {p : Program Op Ret ε α} {p' : Program Op Ret ε β}
    {g : ε → Program Op Ret ε α} {g' : ε → Program Op Ret ε β} (h : Coupled C A p p')
    (hg : ∀ e, Coupled C A (g e) (g' e)) : Coupled C A (p.tryCatch g) (p'.tryCatch g') := by
  induction h with
  | pure hab => exact .pure hab
  | throw e => exact hg e
  | call hC _ _ ihok iherr => exact .call hC ihok iherr

theorem coupled_raising {x : Except ε α} {y : Except ε β} (h : AgreeBy A x y) :
    Coupled C A (raising x : Program Op Ret ε α) (raising y : Program Op Ret ε β) := by
  cases x with
  | ok a =>
    cases y with
    | ok b => exact .pure h
    | error e => exact h.elim
  | error e =>
    cases y with
    | ok b => exact h.elim
    | error e' =>
      have heq : e = e' := h
      rw [heq]
      exact .throw e'

theorem coupled_perform {op op' : Op} {R : Ret op → Ret op' → Prop} (h : C op op' R) :
    Coupled C R (perform op : Program Op Ret ε (Ret op)) (perform op') :=
  .call h (fun _ _ hxy => .pure hxy) fun e => .throw e

/-- A program whose calls answer to themselves. -/
theorem coupled_self {P : Op → Prop} {p : Program Op Ret ε α} (hp : p.UsesOnly P)
    (hP : ∀ op, P op → C op op fun x y => x = y) : Coupled C (fun a b => a = b) p p := by
  induction p with
  | pure a => exact .pure rfl
  | throw e => exact .throw e
  | call op k ih =>
    refine .call (hP op hp.1) (fun x y hxy => ?_) fun e => ih _ (hp.2 _)
    rw [← hxy]
    exact ih _ (hp.2 _)

/-- Coupled programs end alike wherever paired calls do: what decides about the calls, one
    after the other, may differ between the two runs as `K` says. -/
theorem Coupled.follow {H : Handler Op Ret ε χ σ} {env env' : Nat → χ} {S : σ → σ → Prop}
    {K : χ → χ → Prop}
    (hstep : ∀ {op op' R}, C op op' R → ∀ s s' c c', S s s' → K c c' →
      AgreeBy R (H s op c).1 (H s' op' c').1 ∧ S (H s op c).2 (H s' op' c').2)
    (henv : ∀ n, K (env n) (env' n)) {p : Program Op Ret ε α} {p' : Program Op Ret ε β}
    (h : Coupled C A p p') {s s' : σ} (hs : S s s') {past past' : List (Call Op Ret ε)}
    (hpast : past.length = past'.length) :
    AgreeBy A (Lib.follow H (fun past _ => env past.length) p past s).result
        (Lib.follow H (fun past _ => env' past.length) p' past' s').result ∧
      S (Lib.follow H (fun past _ => env past.length) p past s).state
        (Lib.follow H (fun past _ => env' past.length) p' past' s').state ∧
      (Lib.follow H (fun past _ => env past.length) p past s).calls.length =
        (Lib.follow H (fun past _ => env' past.length) p' past' s').calls.length := by
  induction h generalizing s s' past past' with
  | pure hab => exact ⟨hab, hs, hpast⟩
  | throw e => exact ⟨rfl, hs, hpast⟩
  | @call op op' R k k' hC _ _ ihok iherr =>
    have hK : K (env past.length) (env' past'.length) := hpast ▸ henv past.length
    obtain ⟨hagree, hnext⟩ := hstep hC s s' _ _ hs hK
    simp only [Lib.follow]
    revert hagree hnext
    generalize H s op (env past.length) = x
    generalize H s' op' (env' past'.length) = y
    obtain ⟨x, t⟩ := x
    obtain ⟨y, t'⟩ := y
    intro hagree hnext
    cases x with
    | ok a =>
      cases y with
      | ok b => exact ihok a b hagree hnext (by simp [hpast])
      | error e => exact hagree.elim
    | error e =>
      cases y with
      | ok b => exact hagree.elim
      | error e' =>
        have heq : e = e' := hagree
        subst heq
        exact iherr e hnext (by simp [hpast])

/-- So do sequences of coupled programs. -/
theorem coupled_followAll {H : Handler Op Ret ε χ σ} {env env' : Nat → χ} {S : σ → σ → Prop}
    {K : χ → χ → Prop}
    (hstep : ∀ {op op' R}, C op op' R → ∀ s s' c c', S s s' → K c c' →
      AgreeBy R (H s op c).1 (H s' op' c').1 ∧ S (H s op c).2 (H s' op' c').2)
    (henv : ∀ n, K (env n) (env' n)) {ps ps' : List (Program Op Ret ε α)}
    (h : List.Forall₂ (Coupled C fun a b => a = b) ps ps') {s s' : σ} (hs : S s s')
    {past past' : List (Call Op Ret ε)} (hpast : past.length = past'.length) :
    (followAll H (fun past _ => env past.length) ps past s).2.1 =
      (followAll H (fun past _ => env' past.length) ps' past' s').2.1 := by
  induction h generalizing s s' past past' with
  | nil => rfl
  | cons hp _ ih =>
    obtain ⟨hresult, hstate, hcalls⟩ := Coupled.follow (C := C) hstep henv hp hs hpast
    simp only [followAll]
    rw [agree_eq hresult, ih hstate hcalls]

end Rules

end Program

end VipChannel.Lib

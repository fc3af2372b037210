/-
  VipChannel.Lib.Oracle

  Programs run against an oracle: an environment that decides about a call from the calls
  it has seen, and not from the state.  Under one oracle, runs from different states can be
  compared: whatever their calls do not tell apart, they do alike.

  What makes two states alike may change with the calls made so far.  A machine over
  typestates says what a program may call and when (`D`), and a relation on states is
  indexed by it.
-/
import VipChannel.Lib.Program

namespace VipChannel.Lib

open Program

section Oracle

variable {Op : Type} {Ret : Op → Type} {ε α β σ τ χ : Type}

/-- A call and its answer. -/
abbrev Call (Op : Type) (Ret : Op → Type) (ε : Type) := (op : Op) × Except ε (Ret op)

abbrev Oracle (Op : Type) (Ret : Op → Type) (ε χ : Type) := List (Call Op Ret ε) → Op → χ

/-- What became of a program: the calls made so far, its result and the state it left. -/
structure Outcome (Op : Type) (Ret : Op → Type) (ε α σ : Type) where
  calls : List (Call Op Ret ε)
  result : Except ε α
  state : σ

/-- Running a program under an oracle that has seen the calls of `past`. -/
def follow (H : Handler Op Ret ε χ σ) (env : Oracle Op Ret ε χ) :
    Program Op Ret ε α → List (Call Op Ret ε) → σ → Outcome Op Ret ε α σ
  | .pure a, past, s => ⟨past, .ok a, s⟩
  | .throw e, past, s => ⟨past, .error e, s⟩
  | .call op k, past, s =>
    let (x, s') := H s op (env past op)
    follow H env (k x) (past ++ [⟨op, x⟩]) s'

/-- It is a run wherever the oracle's choices are admitted. -/
theorem runs_follow (H : Handler Op Ret ε χ σ) {G : σ → Op → χ → Prop}
    {env : Oracle Op Ret ε χ} (hG : ∀ s past op, G s op (env past op))
    (p : Program Op Ret ε α) (past : List (Call Op Ret ε)) (s : σ) :
    Runs (H.machine G) p s (follow H env p past s).result (follow H env p past s).state := by
  induction p generalizing past s with
  | pure a => exact ⟨rfl, rfl⟩
  | throw e => exact ⟨rfl, rfl⟩
  | call op k ih => exact ⟨_, _, ⟨env past op, hG s past op, rfl⟩, ih _ _ _⟩

/-- Going on after a program that returned. -/
def Outcome.andThen (H : Handler Op Ret ε χ σ) (env : Oracle Op Ret ε χ)
    (o : Outcome Op Ret ε α σ) (f : α → Program Op Ret ε β) : Outcome Op Ret ε β σ :=
  match o.result with
  | .ok a => follow H env (f a) o.calls o.state
  | .error e => ⟨o.calls, .error e, o.state⟩

/-- Going on after a program that raised. -/
def Outcome.recover (H : Handler Op Ret ε χ σ) (env : Oracle Op Ret ε χ)
    (o : Outcome Op Ret ε α σ) (h : ε → Program Op Ret ε α) : Outcome Op Ret ε α σ :=
  match o.result with
  | .ok _ => o
  | .error e => follow H env (h e) o.calls o.state

section Outcome

variable {H : Handler Op Ret ε χ σ} {env : Oracle Op Ret ε χ} {o : Outcome Op Ret ε α σ}

theorem Outcome.andThen_ok {a : α} (h : o.result = .ok a) (f : α → Program Op Ret ε β) :
    o.andThen H env f = follow H env (f a) o.calls o.state := by
  unfold andThen
  rw [h]

theorem Outcome.andThen_error {e : ε} (h : o.result = .error e) (f : α → Program Op Ret ε β) :
    o.andThen H env f = ⟨o.calls, .error e, o.state⟩ := by
  unfold andThen
  rw [h]

theorem Outcome.recover_ok {a : α} (h : o.result = .ok a) (k : ε → Program Op Ret ε α) :
    o.recover H env k = o := by
  unfold recover
  rw [h]

theorem Outcome.recover_error {e : ε} (h : o.result = .error e) (k : ε → Program Op Ret ε α) :
    o.recover H env k = follow H env (k e) o.calls o.state := by
  unfold recover
  rw [h]

end Outcome

theorem follow_bind (H : Handler Op Ret ε χ σ) (env : Oracle Op Ret ε χ)
    (p : Program Op Ret ε α) (f : α → Program Op Ret ε β) (past : List (Call Op Ret ε)) (s : σ) :
    follow H env (p >>= f) past s = (follow H env p past s).andThen H env f := by
  change follow H env (p.bind f) past s = _
  induction p generalizing past s with
  | pure a => rfl
  | throw e => rfl
  | call op k ih => exact ih _ _ _

theorem follow_tryCatch (H : Handler Op Ret ε χ σ) (env : Oracle Op Ret ε χ)
    (p : Program Op Ret ε α) (h : ε → Program Op Ret ε α) (past : List (Call Op Ret ε)) (s : σ) :
    follow H env (p.tryCatch h) past s = (follow H env p past s).recover H env h := by
  induction p generalizing past s with
  | pure a => rfl
  | throw e => rfl
  | call op k ih => exact ih _ _ _

/-- Programs that keep to a discipline cannot tell related states apart: they make the same
    calls, end alike, and leave related states. -/
theorem follow_related {H : Handler Op Ret ε χ σ} {env : Oracle Op Ret ε χ}
    {D : Machine Op Ret ε τ} {R : τ → σ → σ → Prop} {C : Op → χ → Prop}
    (hstep : ∀ t s₁ s₂ op c, D.allowed t op → C op c → R t s₁ s₂ →
      (H s₁ op c).1 = (H s₂ op c).1 ∧
        ∃ t', D.steps t op (H s₁ op c).1 t' ∧ R t' (H s₁ op c).2 (H s₂ op c).2)
    (henv : ∀ past op, C op (env past op)) {p : Program Op Ret ε α}
    {Q : Except ε α → τ → Prop} {t : τ} (hp : wp D p Q t) {s₁ s₂ : σ} (h : R t s₁ s₂)
    (past : List (Call Op Ret ε)) :
    (follow H env p past s₁).calls = (follow H env p past s₂).calls ∧
      (follow H env p past s₁).result = (follow H env p past s₂).result ∧
      ∃ t', Q (follow H env p past s₁).result t' ∧
        R t' (follow H env p past s₁).state (follow H env p past s₂).state := by
  induction p generalizing t s₁ s₂ past with
  | pure a => exact ⟨rfl, rfl, t, hp, h⟩
  | throw e => exact ⟨rfl, rfl, t, hp, h⟩
  | call op k ih =>
    obtain ⟨hallowed, hnext⟩ := hp
    obtain ⟨heq, t', ht', hR⟩ := hstep t s₁ s₂ op (env past op) hallowed (henv past op) h
    have hrest := ih (H s₁ op (env past op)).1 (hnext _ t' ht') hR
      (past ++ [⟨op, (H s₁ op (env past op)).1⟩])
    simp only [follow]
    rw [← heq]
    exact hrest

/-! ## One program after the other -/

/-- Each program starts where the one before it ended, whatever its result. -/
def followAll (H : Handler Op Ret ε χ σ) (env : Oracle Op Ret ε χ) :
    List (Program Op Ret ε α) → List (Call Op Ret ε) → σ →
      List (Call Op Ret ε) × List (Except ε α) × σ
  | [], past, s => (past, [], s)
  | p :: rest, past, s =>
    let first := follow H env p past s
    let (calls, results, s') := followAll H env rest first.calls first.state
    (calls, first.result :: results, s')

/-- Neither can a sequence of such programs tell related states apart; `I` is what each
    program needs of the typestate, and leaves for the next. -/
theorem followAll_related {H : Handler Op Ret ε χ σ} {env : Oracle Op Ret ε χ}
    {D : Machine Op Ret ε τ} {R : τ → σ → σ → Prop} {C : Op → χ → Prop} {I : τ → Prop}
    (hstep : ∀ t s₁ s₂ op c, D.allowed t op → C op c → R t s₁ s₂ →
      (H s₁ op c).1 = (H s₂ op c).1 ∧
        ∃ t', D.steps t op (H s₁ op c).1 t' ∧ R t' (H s₁ op c).2 (H s₂ op c).2)
    (henv : ∀ past op, C op (env past op)) {ps : List (Program Op Ret ε α)}
    (hps : ∀ p ∈ ps, ∀ t, I t → wp D p (fun _ t' => I t') t) {t : τ} (ht : I t) {s₁ s₂ : σ}
    (h : R t s₁ s₂) (past : List (Call Op Ret ε)) :
    (followAll H env ps past s₁).1 = (followAll H env ps past s₂).1 ∧
      (followAll H env ps past s₁).2.1 = (followAll H env ps past s₂).2.1 ∧
      ∃ t', I t' ∧ R t' (followAll H env ps past s₁).2.2 (followAll H env ps past s₂).2.2 := by
  induction ps generalizing t s₁ s₂ past with
  | nil => exact ⟨rfl, rfl, t, ht, h⟩
  | cons p rest ih =>
    have hp : wp D p (fun _ t' => I t') t := hps p List.mem_cons_self t ht
    obtain ⟨hcalls, hresult, t', ht', hR⟩ := follow_related hstep henv hp h past
    obtain ⟨hcalls', hresults, hend⟩ :=
      ih (fun p hp => hps p (List.mem_cons_of_mem _ hp)) ht' hR (follow H env p past s₁).calls
    simp only [followAll]
    rw [← hcalls, ← hresult, hresults]
    exact ⟨hcalls', rfl, hend⟩

end Oracle

end VipChannel.Lib

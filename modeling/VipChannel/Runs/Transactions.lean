/-
  VipChannel.Runs.Transactions

  What a transaction makes of a body that returns or raises: committed, or as if it had
  not been, but for what Telegram did meanwhile.
-/
import VipChannel.Jobs.PassActs
import VipChannel.Persistence.WorkingSession
import VipChannel.Web.AdminChannels

namespace VipChannel

open Lib
open Program (perform)

/-- The session of an admin request (`get_tenant_session`): unlike the webhook's and the
    sweep's, it lets the exception through.  FastAPI is taken to resume the dependency, which
    commits, before the response is sent, so that a commit that raises is an error of the
    request; the version is not pinned, and not every one does. -/
def requestTx {α : Type} (tenantId : TenantId) (body : App α) : App α :=
  withSession tenantId <|
    (do
      let a ← body
      perform Op.commit
      return a : App α).tryCatch fun e => do
        perform Op.rollback
        throw e

/-- The world a session opens on. -/
def World.opened (w : World) (tenantId : TenantId) : World :=
  { w with
    tenantId
    view := w.db
    conflict := none
    sent := w.sent ++ w.txSent
    txSent := [] }

theorem World.Sound.opened {w : World} (h : w.Sound) (tenantId : TenantId) :
    (w.opened tenantId).Sound :=
  ⟨h.db, h.db, h.saved⟩

/-- How a transaction ends, given what its body does when it returns (`Q`) and when it
    raises (`E`). -/
inductive TxEnd {α : Type} (G : World → Op → Choice → Prop) (Q : α → World → Prop)
    (E : PyError → Ledger → Prop) (w' : World) : Prop
  | committed (a : α) (w : World) : Q a w → w.conflict = none →
      w'.ledger = { w.ledger with db := w.view } → w'.clock = w.clock → TxEnd G Q E w'
  | failed (e : PyError) : E e w'.ledger → TxEnd G Q E w'
  | uncommitted (a : α) (w : World) : Q a w → Failing G w → w'.ledger = w.ledger →
      TxEnd G Q E w'

section Tx

variable {α β : Type} {G : World → Op → Choice → Prop} {w : World}

/-- After a failure everything depends on the ledger, and a rollback keeps it. -/
theorem wp_rollback {p : App β} {P : World → Prop} {l : Ledger}
    (hp : ∀ w', w'.ledger = l → wp (serial G) p (fun _ w' => P w') w')
    (hP : ∀ w', w'.ledger = l → P w') (hl : w.ledger = l) :
    wp (serial G) (do perform Op.rollback; p) (fun _ w' => P w') w := by
  rw [wp_bind]
  unfold serial
  rw [wp_perform_handler]
  intro c _
  simp only [World.step]
  cases c.fault with
  | some e => exact hP _ hl
  | none => exact hp _ hl

/-- A body followed by a commit, a rollback and `rest` after any exception. -/
theorem wp_commit {body : App α} {f : α → β} {rest : PyError → App β} {Q : α → World → Prop}
    {E : PyError → Ledger → Prop} (h : Meets G body Q E w)
    (hrest : ∀ (e : PyError) (l : Ledger) (P : World → Prop), (∀ w', w'.ledger = l → P w') →
      ∀ w' : World, w'.ledger = l → wp (serial G) (rest e) (fun _ w' => P w') w') :
    wp (serial G)
      ((do
        let a ← body
        perform Op.commit
        return f a : App β).tryCatch fun e => do
          perform Op.rollback
          rest e)
      (fun _ w' => TxEnd G Q E w') w := by
  have hundo : ∀ (e : PyError) (w' : World),
      (∀ w'' : World, w''.ledger = w'.ledger → TxEnd G Q E w'') →
      wp (serial G) (do perform Op.rollback; rest e) (fun _ w' => TxEnd G Q E w') w' :=
    fun e w' hend => wp_rollback (fun w'' hw'' => hrest e _ _ hend w'' hw'') hend rfl
  rw [wp_tryCatch, wp_bind]
  unfold Meets at h
  refine wp_mono ?_ h
  rintro (e | a) w' hr
  · exact hundo e w' fun w'' hw'' => .failed e (hw'' ▸ hr)
  · simp only [bindPost_ok]
    rw [wp_bind]
    unfold serial
    rw [wp_perform_handler]
    intro c hc
    simp only [World.step]
    cases hf : w'.flushed c with
    | error e =>
      have hfail := flushed_error hc hf
      exact hundo e w' fun w'' hw'' => .uncommitted a w' hr hfail hw''
    | ok u => exact .committed a w' hr (flushed_ok hf).2 rfl rfl

/-- The part of `withSession` in which the session is open. -/
def closing (body : App α) : App α := do
  let a ← body.tryCatch fun e => do
    perform Op.closeSession
    throw e
  perform Op.closeSession
  return a

/-- Leaving a session discards what its view holds. -/
theorem wp_closing {body : App α} {P : World → Prop}
    (hclose : ∀ w' : World, P w' → P { w' with view := w'.db, conflict := none })
    (h : wp (serial G) body (fun _ w' => P w') w) :
    wp (serial G) (closing body) (fun _ w' => P w') w := by
  unfold closing
  rw [wp_bind, wp_tryCatch]
  refine wp_mono ?_ h
  rintro (e | a) w' hr
  · simp only [catchPost_error]
    unfold serial
    rw [wp_bind, wp_perform_handler]
    intro c _
    exact hclose w' hr
  · simp only [catchPost_ok, bindPost_ok]
    unfold serial
    rw [wp_bind, wp_perform_handler]
    intro c _
    exact hclose w' hr

theorem wp_withSession {tenantId : TenantId} {body : App α} {P : World → Prop}
    (hclose : ∀ w' : World, P w' → P { w' with view := w'.db, conflict := none })
    (h : wp (serial G) body (fun _ w' => P w') (w.opened tenantId)) :
    wp (serial G) (withSession tenantId body) (fun _ w' => P w') w := by
  unfold withSession
  rw [wp_bind]
  have hbody := wp_closing hclose h
  unfold serial at hbody ⊢
  rw [wp_perform_handler]
  intro c _
  exact hbody

theorem TxEnd.close {Q : α → World → Prop} {E : PyError → Ledger → Prop} {w' : World}
    (h : TxEnd G Q E w') : TxEnd G Q E { w' with view := w'.db, conflict := none } := by
  cases h with
  | committed a w₁ hq hc hl hclock => exact .committed a w₁ hq hc hl hclock
  | failed e he => exact .failed e he
  | uncommitted a w₁ hq hf hl => exact .uncommitted a w₁ hq hf hl

/-- A contained transaction. -/
theorem wp_transaction {tenantId : TenantId} {body : App α} {Q : α → World → Prop}
    {E : PyError → Ledger → Prop} (h : Meets G body Q E (w.opened tenantId)) :
    wp (serial G) (withSession tenantId (committed body)) (fun _ w' => TxEnd G Q E w') w := by
  refine wp_withSession (fun _ => TxEnd.close) ?_
  exact wp_commit h fun _ _ _ hP w' hw' => hP w' hw'

/-- A transaction that lets the exception through. -/
theorem wp_requestTx {tenantId : TenantId} {body : App α} {Q : α → World → Prop}
    {E : PyError → Ledger → Prop} (h : Meets G body Q E (w.opened tenantId)) :
    wp (serial G) (requestTx tenantId body) (fun _ w' => TxEnd G Q E w') w := by
  refine wp_withSession (fun _ => TxEnd.close) ?_
  exact wp_commit h fun _ _ _ hP w' hw' => hP w' hw'

/-! ### Transactions that work -/

/-- What is left of a session that was closed. -/
def World.closed (w : World) : World := { w with view := w.db, conflict := none }

/-- A handler has to do with what its body raises, and with whatever the database did. -/
theorem works_tryCatch {p : App α} {h : PyError → App α} {Q : α → World → Prop}
    {F F' : PyError → World → Prop} (hp : Works G p Q F' w)
    (hh : ∀ e w', Broken G ∨ F' e w' → Works G (h e) Q F w') : Works G (p.tryCatch h) Q F w := by
  unfold Works
  rw [wp_tryCatch_either]
  exact wp_either_mono hp (fun _ _ hq => hq) hh

theorem works_closeSession {Q : Unit → World → Prop} {F : PyError → World → Prop}
    (h : Q () w.closed) : Works G (perform Op.closeSession) Q F w := by
  refine wp_serial_perform fun _ _ => ?_
  exact h

theorem works_commit {Q : Unit → World → Prop} {F : PyError → World → Prop}
    (hconflict : w.conflict = none) (h : Q () { w with db := w.view }) :
    Works G (perform Op.commit) Q F w := by
  refine works_flushed hconflict trivial (fun c hf _ => ?_) fun c e hf => ⟨w, ?_⟩
  · simp only [World.step, hf]
    exact h
  · simp only [World.step, hf]

theorem works_rollback {Q : Unit → World → Prop} {F : PyError → World → Prop}
    (h : Q () { w with view := w.db, conflict := none }) :
    Works G (perform Op.rollback) Q F w := by
  refine wp_serial_perform fun c hc => ?_
  simp only [World.step]
  cases hf : c.fault with
  | none => exact h
  | some e => exact .inl ⟨w, .rollback, c, hc, trivial, by simp [hf]⟩

theorem works_withSession {tenantId : TenantId} {body : App α} {Q : α → World → Prop}
    {F : PyError → World → Prop}
    (h : Works G body (fun a w' => Q a w'.closed) (fun e w' => F e w'.closed)
      (w.opened tenantId)) : Works G (withSession tenantId body) Q F w := by
  unfold withSession
  rw [works_bind]
  refine wp_serial_perform fun c _ => ?_
  show Works G (closing body) Q F (w.opened tenantId)
  unfold closing
  rw [works_bind]
  refine works_tryCatch (works_mono h (fun a w' hq => ?_) fun _ _ he => he) fun e w' he => ?_
  · rw [works_bind]
    exact works_closeSession hq
  · rw [works_bind]
    exact works_closeSession he

/-- Closing what was committed changes nothing. -/
theorem closed_committed (hconflict : w.conflict = none) :
    ({ w with db := w.view } : World).closed = { w with db := w.view } := by
  show { w with db := w.view, conflict := none } = _
  rw [← hconflict]

/-- A request is committed where its body goes through, and raises what the body raises. -/
theorem works_requestTx {tenantId : TenantId} {body : App α} {Q : α → World → Prop}
    {F : PyError → Prop}
    (h : Works G body (fun a w' => w'.conflict = none ∧ Q a { w' with db := w'.view })
      (fun e _ => F e) (w.opened tenantId)) :
    Works G (requestTx tenantId body) Q (fun e _ => F e) w := by
  apply works_withSession
  refine works_tryCatch ?_ fun e w' (he : Broken G ∨ F e) => ?_
  · rw [works_bind]
    refine works_mono h (fun a w' hq => ?_) fun _ _ he => he
    rw [works_bind]
    refine works_commit hq.1 ?_
    rw [works_pure, closed_committed hq.1]
    exact hq.2
  · rw [works_bind]
    exact works_rollback he

/-- A contained transaction is committed where its body cannot fail. -/
theorem works_transaction {tenantId : TenantId} {body : App α} {Q : Option α → World → Prop}
    {F : PyError → World → Prop} (hsolid : ¬ Broken G)
    (h : Works G body (fun a w' => w'.conflict = none ∧ Q (some a) { w' with db := w'.view })
      (fun _ _ => False) (w.opened tenantId)) :
    Works G (withSession tenantId (committed body)) Q F w := by
  apply works_withSession
  refine works_tryCatch ?_ fun e w' (he : Broken G ∨ False) => (he.elim hsolid id).elim
  rw [works_bind]
  refine works_mono h (fun a w' hq => ?_) fun _ _ he => he
  rw [works_bind]
  refine works_commit hq.1 ?_
  rw [works_pure, closed_committed hq.1]
  exact hq.2

end Tx

/-! ## A run taken apart -/

section Inversion

variable {α : Type} {G : World → Op → Choice → Prop} {w w' : World} {tenantId : TenantId}

/-- One call of a run. -/
theorem runs_perform {op : Op} {r : Except PyError op.Ret}
    (h : Runs (serial G) (perform op) w r w') : ∃ c, G w op c ∧ World.step w op c = (r, w') := by
  obtain ⟨x, t, ⟨c, hc, hstep⟩, hx⟩ := h
  refine ⟨c, hc, ?_⟩
  cases x with
  | ok a =>
    obtain ⟨rfl, rfl⟩ := hx
    exact hstep
  | error e =>
    obtain ⟨rfl, rfl⟩ := hx
    exact hstep

/-- A session is opened, used, and closed whatever became of it. -/
theorem runs_withSession {body : App α} {r : Except PyError α}
    (h : Runs (serial G) (withSession tenantId body) w r w') :
    ∃ w₁, Runs (serial G) body (w.opened tenantId) r w₁ ∧
      w' = { w₁ with view := w₁.db, conflict := none } := by
  obtain ⟨x, w₀, hopen, hrest⟩ := runs_bind h
  obtain ⟨c, -, hstep⟩ := runs_perform hopen
  cases hstep
  obtain ⟨y, w₂, hcaught, hrest⟩ := runs_bind hrest
  obtain ⟨z, w₁, hbody, hclosed⟩ := runs_tryCatch hcaught
  cases z with
  | ok a =>
    obtain ⟨rfl, rfl⟩ := hclosed
    obtain ⟨x, w₃, hclose, hend⟩ := runs_bind hrest
    obtain ⟨c, -, hstep⟩ := runs_perform hclose
    cases hstep
    obtain ⟨rfl, rfl⟩ := hend
    exact ⟨w₂, hbody, rfl⟩
  | error e =>
    obtain ⟨x, w₃, hclose, hend⟩ := runs_bind hclosed
    obtain ⟨c, -, hstep⟩ := runs_perform hclose
    cases hstep
    obtain ⟨rfl, rfl⟩ := hend
    obtain ⟨rfl, rfl⟩ := hrest
    exact ⟨w₁, hbody, rfl⟩

/-- A body that was committed. -/
theorem runs_commit_ok {β : Type} {body : App α} {f : α → β} {b : β}
    (h : Runs (serial G) (do
      let a ← body
      perform Op.commit
      return f a : App β) w (.ok b) w') :
    ∃ a w₁, Runs (serial G) body w (.ok a) w₁ ∧ b = f a ∧ w₁.conflict = none ∧
      w' = { w₁ with db := w₁.view } := by
  obtain ⟨y, w₁, hbody, hcommit⟩ := runs_bind h
  cases y with
  | error e => cases hcommit.1
  | ok a =>
    obtain ⟨z, w₂, hperform, hend⟩ := runs_bind hcommit
    obtain ⟨c, -, hstep⟩ := runs_perform hperform
    simp only [World.step] at hstep
    cases hf : w₁.flushed c with
    | error e =>
      rw [hf] at hstep
      cases hstep
      cases hend.1
    | ok u =>
      rw [hf] at hstep
      cases hstep
      obtain ⟨hb, rfl⟩ := hend
      cases hb
      exact ⟨a, w₁, hbody, rfl, (flushed_ok hf).2, rfl⟩

/-- The body of a transaction that went through, and what it left. -/
theorem runs_requestTx_ok {body : App α} {a : α}
    (h : Runs (serial G) (requestTx tenantId body) w (.ok a) w') :
    ∃ w₁, Runs (serial G) body (w.opened tenantId) (.ok a) w₁ ∧ w₁.conflict = none ∧
      w'.db = w₁.view := by
  obtain ⟨w₂, htx, rfl⟩ := runs_withSession h
  obtain ⟨x, w₃, htried, hcaught⟩ := runs_tryCatch htx
  cases x with
  | error e =>
    obtain ⟨y, w₄, -, hraised⟩ := runs_bind hcaught
    cases y with
    | ok u => cases hraised.1
    | error e' => cases hraised.1
  | ok b =>
    obtain ⟨hb, rfl⟩ := hcaught
    cases hb
    obtain ⟨a', w₁, hbody, rfl, hconflict, rfl⟩ := runs_commit_ok htried
    exact ⟨w₁, hbody, hconflict, rfl⟩

/-- A body that returned, and whose work was committed. -/
theorem runs_committed_some {body : App α} {a : α}
    (h : Runs (serial G) (committed body) w (.ok (some a)) w') :
    ∃ w₁, Runs (serial G) body w (.ok a) w₁ ∧ w' = { w₁ with db := w₁.view } := by
  obtain ⟨x, w₃, htried, hcaught⟩ := runs_tryCatch h
  cases x with
  | error e =>
    obtain ⟨y, w₄, -, hnone⟩ := runs_bind hcaught
    cases y with
    | ok u => cases hnone.1
    | error e' => cases hnone.1
  | ok b =>
    obtain ⟨hb, rfl⟩ := hcaught
    cases hb
    obtain ⟨a', w₁, hbody, hsome, -, rfl⟩ := runs_commit_ok htried
    cases hsome
    exact ⟨w₁, hbody, rfl⟩

/-- The same of a transaction that contains what its body raises. -/
theorem runs_transaction_some {body : App α} {a : α}
    (h : Runs (serial G) (withSession tenantId (committed body)) w (.ok (some a)) w') :
    ∃ w₁, Runs (serial G) body (w.opened tenantId) (.ok a) w₁ ∧ w'.db = w₁.view ∧
      w'.allSent = w₁.allSent := by
  obtain ⟨w₂, htx, rfl⟩ := runs_withSession h
  obtain ⟨w₁, hbody, rfl⟩ := runs_committed_some htx
  exact ⟨w₁, hbody, rfl, rfl⟩

end Inversion

end VipChannel

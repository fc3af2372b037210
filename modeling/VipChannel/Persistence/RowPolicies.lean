/-
  VipChannel.Persistence.RowPolicies

  The two layers that keep a session to the rows of its tenant, taken apart.

  `World.step` has every statement scoped to the tenant of the session.  Two mechanisms see
  to that (core/tenant_scope.py), each of them without the other: `with_loader_criteria`
  filters what the ORM selects, and the row policies of the migrations filter what
  PostgreSQL shows and refuse what it is not to store.  `Layers.step` has either of them on
  or off.  For a confined program, one of them is enough, and the second one changes nothing.
-/
import VipChannel.Lib.Refinement
import VipChannel.Persistence.Confinement

namespace VipChannel

open Lib

/-! ## The tables -/

/-- The models that inherit `TenantScoped`. -/
def TENANT_SCOPED : List Table :=
  [.telegramUsers, .referralAccounts, .subscriptions, .vipMemberships, .tradingActivitySnapshots,
    .referralProgramConfigs, .telegramChannels, .jobExecutions, .providerCredentials,
    .telegramBotConfigs, .paymentRecords]

/-- The tables with a row policy, in the order of the migrations. -/
def POLICED : List Table :=
  [.paymentRecords] ++
    [.providerCredentials, .referralAccounts, .referralProgramConfigs, .subscriptions,
      .telegramBotConfigs, .telegramChannels, .telegramUsers, .tradingActivitySnapshots,
      .vipMemberships] ++
    [.jobExecutions]

/-- Every tenant-scoped table has a policy, and no other. -/
theorem mem_POLICED_iff (t : Table) : t ∈ POLICED ↔ t ∈ TENANT_SCOPED := by
  cases t <;> decide

/-! ## The layers -/

/-- Which of the layers are in force. -/
structure Layers where
  criteria : Bool
  policies : Bool

/-- A session: the tenant it was bound to, if any, and the table on which a pending write
    violates the policy. -/
structure Connection where
  world : World
  bound : Option TenantId := none
  refused : Option Table := none

def policyError (t : Table) : PyError :=
  ⟨.databaseError, "new row violates row-level security policy for table \"" ++ t.name ++ "\""⟩

namespace Layers

variable (L : Layers)

/-- `tenant_id = current_setting('app.tenant_id')`: no row meets it where no tenant is set. -/
def admits (conn : Connection) (t : Table) (r : Row t) : Bool :=
  !(L.policies && POLICED.contains t) || conn.bound == some (rowTenant t r)

/-- What a statement of the session reaches of a table.  The statements on `webhook_routes`
    name their tenant, and no layer does it for them. -/
def shows (conn : Connection) (t : Table) (r : Row t) : Bool :=
  if TENANT_SCOPED.contains t then
    (!L.criteria || conn.bound.all (rowTenant t r == ·)) && L.admits conn t r
  else rowTenant t r == conn.world.tenantId

/-- A call that neither layer concerns. -/
def plain (conn : Connection) (op : Op) (c : Choice) : Except PyError op.Ret × Connection :=
  ((World.step conn.world op c).1, { conn with world := (World.step conn.world op c).2 })

/-- A call that flushes first: the policies refuse the pending writes. -/
def flushing (conn : Connection) (op : Op) (c : Choice)
    (go : Except PyError op.Ret × Connection) : Except PyError op.Ret × Connection :=
  match c.fault, conn.refused with
  | none, some t => (.error (policyError t), conn)
  | _, _ => go

def withPending (conn : Connection) (t : Table) (row : Row t) : Connection :=
  if L.admits conn t row then { conn with world := conn.world.withPending t row }
  else { conn with refused := conn.refused.or (some t) }

def reaches (conn : Connection) {t : Table} (which : Row t → Bool) (r : Row t) : Bool :=
  L.shows conn t r && which r

def withUpdate (conn : Connection) (t : Table) (which : Row t → Bool) (change : Row t → Row t) :
    Connection :=
  let w := conn.world
  if (w.view t).any fun r => L.reaches conn which r && !L.admits conn t (change r) then
    { conn with refused := conn.refused.or (some t) }
  else if introducesClash t (L.reaches conn which) change (w.view t) then
    { conn with world := { w with conflict := w.conflict.or (some t) } }
  else { conn with world := { w with view := w.view.modify t (L.reaches conn which) change } }

/-- One call. -/
def step : Handler Op Op.Ret PyError Choice Connection
  | conn, .openSession tenantId, c =>
    let next := plain conn (.openSession tenantId) c
    (next.1, { next.2 with bound := some tenantId, refused := none })
  | conn, .closeSession, c =>
    let next := plain conn .closeSession c
    (next.1, { next.2 with refused := none })
  | conn, .select t cond, c =>
    flushing conn (.select t cond) c
      (match conn.world.flushed c with
        | .error e => .error e
        | .ok () => .ok (pick c.order ((conn.world.view t).filter (L.reaches conn cond))), conn)
  | conn, .add t row, _ => (.ok (), L.withPending conn t row)
  | conn, .update t which change, _ => (.ok (), L.withUpdate conn t which change)
  | conn, .flush, c => flushing conn .flush c (plain conn .flush c)
  | conn, .savepoint, c => flushing conn .savepoint c (plain conn .savepoint c)
  | conn, .releaseSavepoint, c =>
    flushing conn .releaseSavepoint c (plain conn .releaseSavepoint c)
  | conn, .rollbackToSavepoint, c =>
    let next := plain conn .rollbackToSavepoint c
    (next.1, { next.2 with refused := none })
  | conn, .commit, c => flushing conn .commit c (plain conn .commit c)
  | conn, .rollback, c =>
    let next := plain conn .rollback c
    (next.1, { next.2 with refused := none })
  | conn, .utcnow, c => plain conn .utcnow c
  | conn, .uuid4, c => plain conn .uuid4 c
  | conn, .activeTenantIds, c => plain conn .activeTenantIds c
  | conn, .tenantsOfToken token, c => plain conn (.tenantsOfToken token) c
  | conn, .tokenUrlsafe, c => plain conn .tokenUrlsafe c
  | conn, .encrypt plaintext, c => plain conn (.encrypt plaintext) c
  | conn, .validateUser uid, c => plain conn (.validateUser uid) c
  | conn, .telegram call about, c => plain conn (.telegram call about) c

end Layers

/-! ## One layer is enough -/

/-- Where a token of `T` leads, it leads to the tenant. -/
def HomeRoutes (A : TenantId) (T : String → Prop) (d : Database) : Prop :=
  ∀ route ∈ d .webhookRoutes, T route.token → route.tenantId = A

/-- The session as a confined program has it. -/
structure Bound (A : TenantId) (T : String → Prop) (s : Stage) (w : World) (conn : Connection) :
    Prop where
  world : conn.world = w
  refused : conn.refused = none
  bound : s.bound = true → conn.bound = some A ∧ w.tenantId = A
  routes : HomeRoutes A T w.db
  viewed : s.bound = true → HomeRoutes A T w.view
  saved : s.nested = true → HomeRoutes A T w.saved

section Bound

variable {L : Layers} {A : TenantId} {T : String → Prop} {s : Stage} {w : World}
  {conn : Connection} {d : Database}

theorem HomeRoutes.append (h : HomeRoutes A T d) {t : Table} {row : Row t}
    (ht : rowTenant t row = A) : HomeRoutes A T (d.append t row) := by
  intro route hroute htoken
  by_cases htable : t = .webhookRoutes
  · subst htable
    rw [Store.append_self] at hroute
    rcases List.mem_append.mp hroute with hold | hnew
    · exact h route hold htoken
    · rw [List.mem_singleton.mp hnew]
      exact ht
  · rw [Store.append_other d (Ne.symm htable) row] at hroute
    exact h route hroute htoken

theorem HomeRoutes.modify (h : HomeRoutes A T d) {t : Table} {which : Row t → Bool}
    {change : Row t → Row t} (hwhich : ∀ r, which r = true → rowTenant t r = A)
    (hchange : ∀ r, rowTenant t r = A → rowTenant t (change r) = A) :
    HomeRoutes A T (d.modify t which change) := by
  intro route hroute htoken
  by_cases htable : t = .webhookRoutes
  · subst htable
    rw [Store.modify_self] at hroute
    obtain ⟨old, hold, rfl⟩ := List.mem_map.mp hroute
    by_cases hw : which old = true
    · simp only [hw, if_true]
      exact hchange old (hwhich old hw)
    · simp only [hw, Bool.false_eq_true, if_false] at htoken ⊢
      exact h old hold htoken
  · rw [Store.modify_other d (Ne.symm htable) which change] at hroute
    exact h route hroute htoken

/-- The policies of the session's tenant. -/
theorem Layers.admits_eq (hbound : conn.bound = some A) {t : Table} (r : Row t) :
    L.admits conn t r = (!(L.policies && POLICED.contains t) || rowTenant t r == A) := by
  have hsame : (some A == some (rowTenant t r)) = (rowTenant t r == A) := by
    rw [Bool.eq_iff_iff, beq_iff_eq, beq_iff_eq, Option.some.injEq, eq_comm]
  unfold Layers.admits
  rw [hbound, hsame]

/-- With a layer in force, a statement reaches what it reaches in the model. -/
theorem Layers.shows_eq (hL : L.criteria = true ∨ L.policies = true)
    (hbound : conn.bound = some A) (htenant : conn.world.tenantId = A) {t : Table} (r : Row t) :
    L.shows conn t r = (rowTenant t r == A) := by
  have hsame : POLICED.contains t = TENANT_SCOPED.contains t := by
    rw [Bool.eq_iff_iff, List.contains_iff_mem, List.contains_iff_mem]
    exact mem_POLICED_iff t
  unfold Layers.shows
  rw [L.admits_eq hbound, hsame, htenant, hbound, Option.all_some]
  by_cases hscoped : TENANT_SCOPED.contains t = true
  · rw [if_pos hscoped, hscoped]
    rcases hL with hcriteria | hpolicies
    · cases hown : rowTenant t r == A <;> simp [hcriteria]
    · cases hown : rowTenant t r == A <;> simp [hpolicies]
  · rw [if_neg hscoped]

theorem Layers.reaches_eq (hL : L.criteria = true ∨ L.policies = true)
    (hbound : conn.bound = some A) (htenant : conn.world.tenantId = A) {t : Table}
    (which : Row t → Bool) : L.reaches conn which = conn.world.inScope which := by
  funext r
  unfold Layers.reaches World.inScope
  rw [L.shows_eq hL hbound htenant, htenant]

/-- A write of the tenant is not refused. -/
theorem Layers.admits_own (hbound : conn.bound = some A) {t : Table} {r : Row t}
    (ht : rowTenant t r = A) : L.admits conn t r = true := by
  rw [L.admits_eq hbound, ht]
  simp

theorem Bound.withPending (h : Bound A T s w conn) (hb : s.bound = true) {t : Table} {row : Row t}
    (ht : rowTenant t row = A) :
    Bound A T s (w.withPending t row) (L.withPending conn t row) := by
  obtain ⟨hbound, htenant⟩ := h.bound hb
  obtain rfl := h.world
  unfold Layers.withPending
  rw [if_pos (L.admits_own hbound ht)]
  unfold World.withPending
  split
  · exact ⟨rfl, h.refused, fun _ => ⟨hbound, htenant⟩, h.routes, h.viewed, h.saved⟩
  · exact ⟨rfl, h.refused, fun _ => ⟨hbound, htenant⟩, h.routes,
      fun hb => (h.viewed hb).append ht, h.saved⟩

theorem Bound.withUpdate (hL : L.criteria = true ∨ L.policies = true) (h : Bound A T s w conn)
    (hb : s.bound = true) {t : Table} {which : Row t → Bool} {change : Row t → Row t}
    (hchange : ∀ r, rowTenant t r = A → rowTenant t (change r) = A) :
    Bound A T s (w.withUpdate t which change) (L.withUpdate conn t which change) := by
  obtain ⟨hbound, htenant⟩ := h.bound hb
  obtain rfl := h.world
  have hreached : L.reaches conn which = conn.world.inScope which :=
    L.reaches_eq hL hbound htenant which
  have hwhich : ∀ r, conn.world.inScope which r = true → rowTenant t r = A := fun r hr =>
    (World.inScope_tenant hr).trans htenant
  have hadmitted : (conn.world.view t).any
      (fun r => conn.world.inScope which r && !L.admits conn t (change r)) = false := by
    refine List.any_eq_false.mpr fun r _ => ?_
    by_cases hr : conn.world.inScope which r = true
    · simp [L.admits_own hbound (hchange r (hwhich r hr))]
    · simp [hr]
  unfold Layers.withUpdate
  rw [hreached]
  simp only [hadmitted, Bool.false_eq_true, if_false]
  unfold World.withUpdate
  split
  · exact ⟨rfl, h.refused, fun _ => ⟨hbound, htenant⟩, h.routes, h.viewed, h.saved⟩
  · exact ⟨rfl, h.refused, fun _ => ⟨hbound, htenant⟩, h.routes,
      fun hb => (h.viewed hb).modify hwhich hchange, h.saved⟩

/-- Nothing is pending that the policies refuse. -/
theorem Bound.flushing (h : Bound A T s w conn) {op : Op} {c : Choice}
    {go : Except PyError op.Ret × Connection} : Layers.flushing conn op c go = go := by
  unfold Layers.flushing
  rw [h.refused]
  split
  · next hnone => cases hnone
  · rfl

/-- One call of a confined program is answered as in the model. -/
theorem Bound.step (hL : L.criteria = true ∨ L.policies = true) (h : Bound A T s w conn)
    {op : Op} {c : Choice} (hop : op.Confined A T s) :
    (L.step conn op c).1 = (World.step w op c).1 ∧
      ∃ s', (confinement A T).steps s op (World.step w op c).1 s' ∧
        Bound A T s' (World.step w op c).2 (L.step conn op c).2 := by
  obtain rfl := h.world
  have hsame : ∀ {v : World}, v.db = conn.world.db → v.view = conn.world.view →
      v.saved = conn.world.saved → v.tenantId = conn.world.tenantId →
      Bound A T s v { conn with world := v } := by
    intro v hdb hview hsaved htenant
    refine ⟨rfl, h.refused, fun hb => ?_, by rw [hdb]; exact h.routes, fun hb => ?_, fun hn => ?_⟩
    · rw [htenant]
      exact h.bound hb
    · rw [hview]
      exact h.viewed hb
    · rw [hsaved]
      exact h.saved hn
  cases op with
  | openSession tenantId =>
    obtain rfl : tenantId = A := hop
    exact ⟨rfl, _, ⟨trivial, rfl⟩, rfl, rfl, fun _ => ⟨rfl, rfl⟩, h.routes, fun _ => h.routes,
      h.saved⟩
  | closeSession =>
    exact ⟨rfl, _, ⟨trivial, rfl⟩, rfl, rfl, h.bound, h.routes, fun _ => h.routes, h.saved⟩
  | select t cond =>
    obtain ⟨hbound, htenant⟩ := h.bound hop
    have hstep : L.step conn (.select t cond) c = _ := h.flushing
    rw [hstep, L.reaches_eq hL hbound htenant]
    exact ⟨rfl, _, ⟨trivial, rfl⟩, h⟩
  | add t row =>
    obtain ⟨hb, ht, -⟩ := hop
    exact ⟨rfl, _, ⟨trivial, rfl⟩, h.withPending hb ht⟩
  | update t which change =>
    obtain ⟨hb, hchange⟩ := hop
    exact ⟨rfl, _, ⟨trivial, rfl⟩, h.withUpdate hL hb fun r hr => (hchange r hr).1⟩
  | flush =>
    have hstep : L.step conn .flush c = _ := h.flushing
    rw [hstep]
    exact ⟨rfl, _, ⟨trivial, rfl⟩, h⟩
  | releaseSavepoint =>
    have hstep : L.step conn .releaseSavepoint c = _ := h.flushing
    rw [hstep]
    exact ⟨rfl, _, ⟨trivial, rfl⟩, h⟩
  | savepoint =>
    have hstep : L.step conn .savepoint c = _ := h.flushing
    rw [hstep]
    refine ⟨rfl, _, ⟨trivial, rfl⟩, ?_⟩
    simp only [Layers.plain, World.step]
    cases conn.world.flushed c with
    | error e => exact h
    | ok u =>
      exact ⟨rfl, h.refused, h.bound, h.routes, h.viewed, fun _ => h.viewed hop⟩
  | rollbackToSavepoint =>
    obtain ⟨hb, hn⟩ := hop
    exact ⟨rfl, _, ⟨trivial, rfl⟩, rfl, rfl, h.bound, h.routes, fun _ => h.saved hn, h.saved⟩
  | commit =>
    have hstep : L.step conn .commit c = _ := h.flushing
    rw [hstep]
    refine ⟨rfl, _, ⟨trivial, rfl⟩, ?_⟩
    simp only [Layers.plain, World.step]
    cases conn.world.flushed c with
    | error e => exact h
    | ok u => exact ⟨rfl, h.refused, h.bound, h.viewed hop, h.viewed, h.saved⟩
  | rollback =>
    exact ⟨rfl, _, ⟨trivial, rfl⟩, rfl, rfl, h.bound, h.routes, fun _ => h.routes, h.saved⟩
  | utcnow | encrypt plaintext | validateUser uid =>
    exact ⟨rfl, _, ⟨trivial, rfl⟩, hsame rfl rfl rfl rfl⟩
  | uuid4 | tokenUrlsafe =>
    exact ⟨rfl, _, ⟨trivial, rfl⟩, rfl, h.refused, h.bound, h.routes, h.viewed, h.saved⟩
  | activeTenantIds => exact hop.elim
  | tenantsOfToken token =>
    refine ⟨rfl, _, ⟨?_, rfl⟩, hsame rfl rfl rfl rfl⟩
    -- The route that is found is the tenant's.
    simp only [World.step]
    cases c.fault with
    | some e => trivial
    | none =>
      intro x hx
      rw [mem_pick] at hx
      obtain ⟨route, hroute, rfl⟩ := List.mem_map.mp hx
      obtain ⟨hmem, htoken⟩ := List.mem_filter.mp hroute
      refine h.routes route hmem ?_
      rw [beq_iff_eq.mp htoken]
      exact hop
  | telegram call about =>
    refine ⟨rfl, _, ⟨trivial, rfl⟩, ?_⟩
    simp only [Layers.step, Layers.plain, World.step]
    cases c.fault with
    | none => exact hsame rfl rfl rfl rfl
    | some e =>
      dsimp only
      split
      · exact hsame rfl rfl rfl rfl
      · exact hsame rfl rfl rfl rfl

end Bound

end VipChannel

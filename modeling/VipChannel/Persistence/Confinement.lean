/-
  VipChannel.Persistence.Confinement

  A discipline that keeps a program to one tenant's rows, and what it is worth.

  A confined program opens sessions of its tenant only, adds rows of the tenant under ids
  and tokens it was just given, and changes neither the tenant nor such a key of a row.
  What it does then depends on the tenant's own rows alone: the constraints of the tables
  are led by the tenant, but for those keys (`globalKey`).
-/
import VipChannel.Persistence.Integrity
import VipChannel.Lib.Oracle

namespace VipChannel

open Lib
open Program (perform raising)

/-! ## A tenant's rows, and the others' -/

def ownRows (A : TenantId) (t : Table) (rows : List (Row t)) : List (Row t) :=
  rows.filter fun r => rowTenant t r == A

def foreignRows (A : TenantId) (t : Table) (rows : List (Row t)) : List (Row t) :=
  rows.filter fun r => rowTenant t r != A

/-- An id or a token. -/
abbrev Key := RowId ⊕ String

/-- The column of a row that is unique across tenants. -/
def globalKey : (t : Table) → Row t → Option Key
  | .telegramUsers, r => some (.inl r.id)
  | .referralAccounts, r => some (.inl r.id)
  | .subscriptions, r => some (.inl r.id)
  | .vipMemberships, r => some (.inl r.id)
  | .telegramChannels, r => some (.inl r.id)
  | .providerCredentials, r => some (.inl r.id)
  | .paymentRecords, r => some (.inl r.id)
  | .webhookRoutes, r => some (.inr r.token)
  | .tradingActivitySnapshots, _ | .referralProgramConfigs, _ | .jobExecutions, _
  | .telegramBotConfigs, _ => none

theorem clash_of_globalKey {t : Table} {r s : Row t} {k : Key} (hr : globalKey t r = some k)
    (hs : globalKey t s = some k) : clash t r s = true := by
  have heq : globalKey t r = globalKey t s := hr.trans hs.symm
  cases t with
  | telegramUsers | referralAccounts | subscriptions | vipMemberships | telegramChannels
  | providerCredentials | paymentRecords =>
    have hid : r.id = s.id := by simpa [globalKey] using heq
    simp [clash, hid]
  | webhookRoutes =>
    have htoken : r.token = s.token := by simpa [globalKey] using heq
    simp [clash, htoken]
  | tradingActivitySnapshots | referralProgramConfigs | jobExecutions | telegramBotConfigs =>
    cases hr

/-- Every other constraint is led by the tenant. -/
theorem globalKey_of_clash {t : Table} {r s : Row t} (ht : rowTenant t r ≠ rowTenant t s)
    (h : clash t r s = true) : ∃ k, globalKey t r = some k ∧ globalKey t s = some k := by
  cases t <;> simp_all [globalKey, clash, rowTenant]

/-- The key is one of another tenant's row. -/
def Database.Taken (d : Database) (A : TenantId) (k : Key) : Prop :=
  ∃ t, ∃ r ∈ foreignRows A t (d t), globalKey t r = some k

theorem mem_ownRows {A : TenantId} {t : Table} {rows : List (Row t)} {r : Row t} :
    r ∈ ownRows A t rows ↔ r ∈ rows ∧ rowTenant t r = A := by
  simp [ownRows]

theorem mem_foreignRows {A : TenantId} {t : Table} {rows : List (Row t)} {r : Row t} :
    r ∈ foreignRows A t rows ↔ r ∈ rows ∧ rowTenant t r ≠ A := by
  simp [foreignRows]

section Rows

variable {A : TenantId} {t : Table} {rows : List (Row t)}

theorem ownRows_append (row : Row t) (h : rowTenant t row = A) :
    ownRows A t (rows ++ [row]) = ownRows A t rows ++ [row] := by
  simp [ownRows, h]

theorem foreignRows_append (row : Row t) (h : rowTenant t row = A) :
    foreignRows A t (rows ++ [row]) = foreignRows A t rows := by
  simp [foreignRows, h]

/-- A statement of the tenant's session changes the tenant's rows. -/
theorem ownRows_modify {which : Row t → Bool} {change : Row t → Row t}
    (hwhich : ∀ r, which r = true → rowTenant t r = A)
    (hchange : ∀ r, rowTenant t r = A → rowTenant t (change r) = A) :
    ownRows A t (modifyRows which change rows) = modifyRows which change (ownRows A t rows) := by
  have hsame : ∀ r, rowTenant t (if which r then change r else r) = A ↔ rowTenant t r = A := by
    intro r
    by_cases hr : which r = true
    · have ht := hwhich r hr
      simp only [hr, if_true, ht, hchange r ht]
    · simp [hr]
  unfold ownRows modifyRows
  rw [List.filter_map]
  congr 1
  apply List.filter_congr
  intro r _
  rw [Bool.eq_iff_iff]
  simpa using hsame r

theorem foreignRows_modify {which : Row t → Bool} {change : Row t → Row t}
    (hwhich : ∀ r, which r = true → rowTenant t r = A)
    (hchange : ∀ r, rowTenant t r = A → rowTenant t (change r) = A) :
    foreignRows A t (modifyRows which change rows) = foreignRows A t rows := by
  induction rows with
  | nil => rfl
  | cons r rest ih =>
    have hhead : foreignRows A t [if which r then change r else r] = foreignRows A t [r] := by
      by_cases hr : which r = true
      · have ht := hwhich r hr
        simp [foreignRows, hr, ht, hchange r ht]
      · simp [foreignRows, hr]
    have hsplit : ∀ x : Row t, ∀ xs, foreignRows A t (x :: xs) =
        foreignRows A t [x] ++ foreignRows A t xs := by
      intro x xs
      exact List.filter_append [x] xs
    have hcons : modifyRows which change (r :: rest) =
        (if which r then change r else r) :: modifyRows which change rest := rfl
    rw [hcons, hsplit, hsplit r, hhead, ih]

/-- A condition that holds of no foreign row is looked up among the own rows. -/
theorem any_own {p : Row t → Bool} (h : ∀ r ∈ foreignRows A t rows, p r = false) :
    rows.any p = (ownRows A t rows).any p := by
  rw [Bool.eq_iff_iff]
  simp only [List.any_eq_true]
  constructor
  · rintro ⟨r, hr, hp⟩
    refine ⟨r, mem_ownRows.mpr ⟨hr, ?_⟩, hp⟩
    by_contra hne
    rw [h r (mem_foreignRows.mpr ⟨hr, hne⟩)] at hp
    cases hp
  · rintro ⟨r, hr, hp⟩
    exact ⟨r, (mem_ownRows.mp hr).1, hp⟩

end Rows

/-! ## The discipline -/

/-- How far a confined program has come: whether a session is open, whether it has set a
    savepoint, and which keys it was given. -/
structure Stage where
  bound : Bool := false
  nested : Bool := false
  keys : List Key := []

def Stage.after : Stage → (op : Op) → Except PyError op.Ret → Stage
  | s, .openSession _, _ => { s with bound := true }
  | s, .savepoint, .ok _ => { s with nested := true }
  | s, .uuid4, .ok id => { s with keys := .inl id :: s.keys }
  | s, .tokenUrlsafe, .ok token => { s with keys := .inr token :: s.keys }
  | s, _, _ => s

/-- What a confined program may call.  `T` are the webhook tokens of the tenant. -/
def Op.Confined (A : TenantId) (T : String → Prop) (s : Stage) : Op → Prop
  | .openSession tenantId => tenantId = A
  | .add t row => s.bound = true ∧ rowTenant t row = A ∧
      ∀ k, globalKey t row = some k → k ∈ s.keys
  | .update t _ change => s.bound = true ∧ ∀ r, rowTenant t r = A →
      rowTenant t (change r) = A ∧ globalKey t (change r) = globalKey t r
  | .rollbackToSavepoint => s.bound = true ∧ s.nested = true
  | .activeTenantIds => False
  | .tenantsOfToken token => T token
  | .select .. | .flush | .savepoint | .releaseSavepoint | .commit | .rollback
  | .validateUser _ | .telegram .. => s.bound = true
  | .closeSession | .utcnow | .uuid4 | .tokenUrlsafe | .encrypt _ => True

/-- A token of the tenant leads to the tenant. -/
def LeadsHome (A : TenantId) : (op : Op) → Except PyError op.Ret → Prop
  | .tenantsOfToken _, .ok tenantIds => ∀ x ∈ tenantIds, x = A
  | _, _ => True

def confinement (A : TenantId) (T : String → Prop) : Machine Op Op.Ret PyError Stage where
  allowed s op := op.Confined A T s
  steps s op r s' := LeadsHome A op r ∧ s' = s.after op r

/-! ## Two worlds that a confined program cannot tell apart -/

/-- Two databases with the tenant's rows in common, each with the other rows of its base. -/
structure Twin (A : TenantId) (base₁ base₂ d₁ d₂ : Database) : Prop where
  own : ∀ t, ownRows A t (d₁ t) = ownRows A t (d₂ t)
  left : ∀ t, foreignRows A t (d₁ t) = foreignRows A t (base₁ t)
  right : ∀ t, foreignRows A t (d₂ t) = foreignRows A t (base₂ t)

structure Twins (A : TenantId) (base₁ base₂ : Database) (s : Stage) (w₁ w₂ : World) : Prop where
  db : Twin A base₁ base₂ w₁.db w₂.db
  session : s.bound = true → w₁.tenantId = A ∧ w₂.tenantId = A ∧
    Twin A base₁ base₂ w₁.view w₂.view ∧ w₁.conflict = w₂.conflict
  saved : s.nested = true → Twin A base₁ base₂ w₁.saved w₂.saved
  keys : ∀ k ∈ s.keys, ¬ base₁.Taken A k ∧ ¬ base₂.Taken A k

/-- The environment's ids and tokens are not those of another tenant's row. -/
def FreshFor (A : TenantId) (d : Database) : Op → Choice → Prop
  | .uuid4, c => ¬ d.Taken A (.inl c.id)
  | .tokenUrlsafe, c => ¬ d.Taken A (.inr c.token)
  | _, _ => True

/-- The tokens are no other tenant's. -/
def OwnTokens (A : TenantId) (T : String → Prop) (d : Database) : Prop :=
  ∀ route ∈ foreignRows A .webhookRoutes (d .webhookRoutes), ¬ T route.token

section Twins

variable {A : TenantId} {T : String → Prop} {base₁ base₂ d₁ d₂ : Database} {s : Stage}
  {w₁ w₂ : World}

theorem Twin.append (h : Twin A base₁ base₂ d₁ d₂) {t : Table} {row : Row t}
    (ht : rowTenant t row = A) : Twin A base₁ base₂ (d₁.append t row) (d₂.append t row) := by
  have hcases : ∀ t', t' = t ∨ t' ≠ t := fun t' => Classical.em _
  refine ⟨fun t' => ?_, fun t' => ?_, fun t' => ?_⟩
  all_goals rcases hcases t' with rfl | hne
  · rw [Store.append_self, Store.append_self, ownRows_append row ht, ownRows_append row ht, h.own]
  · rw [Store.append_other _ hne, Store.append_other _ hne, h.own]
  · rw [Store.append_self, foreignRows_append row ht, h.left]
  · rw [Store.append_other _ hne, h.left]
  · rw [Store.append_self, foreignRows_append row ht, h.right]
  · rw [Store.append_other _ hne, h.right]

theorem Twin.modify (h : Twin A base₁ base₂ d₁ d₂) {t : Table} {which : Row t → Bool}
    {change : Row t → Row t} (hwhich : ∀ r, which r = true → rowTenant t r = A)
    (hchange : ∀ r, rowTenant t r = A → rowTenant t (change r) = A) :
    Twin A base₁ base₂ (d₁.modify t which change) (d₂.modify t which change) := by
  have hcases : ∀ t', t' = t ∨ t' ≠ t := fun t' => Classical.em _
  refine ⟨fun t' => ?_, fun t' => ?_, fun t' => ?_⟩
  all_goals rcases hcases t' with rfl | hne
  · rw [Store.modify_self, Store.modify_self, ownRows_modify hwhich hchange,
      ownRows_modify hwhich hchange, h.own]
  · rw [Store.modify_other _ hne, Store.modify_other _ hne, h.own]
  · rw [Store.modify_self, foreignRows_modify hwhich hchange, h.left]
  · rw [Store.modify_other _ hne, h.left]
  · rw [Store.modify_self, foreignRows_modify hwhich hchange, h.right]
  · rw [Store.modify_other _ hne, h.right]

/-- A row of the tenant under a fresh key clashes with no foreign row. -/
theorem not_clash_foreign {t : Table} {row r : Row t} {d base : Database}
    (ht : rowTenant t row = A) (hfresh : ∀ k, globalKey t row = some k → ¬ base.Taken A k)
    (hsame : ∀ t, foreignRows A t (d t) = foreignRows A t (base t))
    (hr : r ∈ foreignRows A t (d t)) : clash t row r = false := by
  by_contra hc
  have hne : rowTenant t row ≠ rowTenant t r := by
    rw [ht]
    exact (mem_foreignRows.mp hr).2.symm
  obtain ⟨k, hk, hk'⟩ := globalKey_of_clash hne (eq_true_of_ne_false hc)
  refine hfresh k hk ⟨t, r, ?_, hk'⟩
  rw [← hsame]
  exact hr

/-- Whether an update clashes shows in the tenant's rows. -/
theorem introducesClash_own {t : Table} {which : Row t → Bool} {change : Row t → Row t}
    {rows : List (Row t)} (hwhich : ∀ r, which r = true → rowTenant t r = A)
    (hchange : ∀ r, rowTenant t r = A →
      rowTenant t (change r) = A ∧ globalKey t (change r) = globalKey t r) :
    introducesClash t which change rows =
      introducesClash t which change (ownRows A t rows) := by
  have hinner : ∀ r, which r = true →
      rows.any (fun s => !clash t r s && clash t (change r) (if which s then change s else s)) =
      (ownRows A t rows).any
        (fun s => !clash t r s && clash t (change r) (if which s then change s else s)) := by
    intro r hr
    refine any_own fun s hs => ?_
    obtain ⟨-, hforeign⟩ := mem_foreignRows.mp hs
    have hws : which s = false := by
      by_contra hne
      exact hforeign (hwhich s (eq_true_of_ne_false hne))
    obtain ⟨hct, hck⟩ := hchange r (hwhich r hr)
    rw [hws]
    -- A foreign row it clashes with then has its key, so it clashed before.
    by_cases hc : clash t (change r) s = true
    · have hne : rowTenant t (change r) ≠ rowTenant t s := by
        rw [hct]
        exact fun h => hforeign h.symm
      obtain ⟨k, hk, hk'⟩ := globalKey_of_clash hne hc
      rw [hck] at hk
      simp [clash_of_globalKey hk hk']
    · simp [hc]
  unfold introducesClash
  have houter : rows.any (fun r => which r &&
      rows.any fun s => !clash t r s && clash t (change r) (if which s then change s else s)) =
      (ownRows A t rows).any (fun r => which r &&
      rows.any fun s => !clash t r s && clash t (change r) (if which s then change s else s)) := by
    refine any_own fun r hr => ?_
    have hwr : which r = false := by
      by_contra hne
      exact (mem_foreignRows.mp hr).2 (hwhich r (eq_true_of_ne_false hne))
    simp [hwr]
  rw [houter]
  refine List.any_congr rfl fun r => ?_
  by_cases hr : which r = true
  · rw [hinner r hr]
  · simp [hr]

theorem Twins.withPending {t : Table} {row : Row t} (h : Twins A base₁ base₂ s w₁ w₂)
    (hb : s.bound = true) (ht : rowTenant t row = A)
    (hkey : ∀ k, globalKey t row = some k → k ∈ s.keys) :
    Twins A base₁ base₂ s (w₁.withPending t row) (w₂.withPending t row) := by
  obtain ⟨ht₁, ht₂, hview, hconflict⟩ := h.session hb
  have hany₁ : (w₁.view t).any (clash t row) = (ownRows A t (w₁.view t)).any (clash t row) :=
    any_own fun r hr =>
      not_clash_foreign ht (fun k hk => (h.keys k (hkey k hk)).1) hview.left hr
  have hany₂ : (w₂.view t).any (clash t row) = (ownRows A t (w₂.view t)).any (clash t row) :=
    any_own fun r hr =>
      not_clash_foreign ht (fun k hk => (h.keys k (hkey k hk)).2) hview.right hr
  have hany : (w₁.view t).any (clash t row) = (w₂.view t).any (clash t row) := by
    rw [hany₁, hany₂, hview.own]
  unfold World.withPending
  rw [hany]
  split
  · refine ⟨h.db, fun _ => ⟨ht₁, ht₂, hview, ?_⟩, h.saved, h.keys⟩
    dsimp only
    rw [hconflict]
  · exact ⟨h.db, fun _ => ⟨ht₁, ht₂, hview.append ht, hconflict⟩, h.saved, h.keys⟩

theorem Twins.withUpdate {t : Table} {which : Row t → Bool} {change : Row t → Row t}
    (h : Twins A base₁ base₂ s w₁ w₂) (hb : s.bound = true)
    (hchange : ∀ r, rowTenant t r = A →
      rowTenant t (change r) = A ∧ globalKey t (change r) = globalKey t r) :
    Twins A base₁ base₂ s (w₁.withUpdate t which change) (w₂.withUpdate t which change) := by
  obtain ⟨ht₁, ht₂, hview, hconflict⟩ := h.session hb
  have hscope : w₁.inScope which = w₂.inScope which := by
    funext r
    simp only [World.inScope, ht₁, ht₂]
  have hwhich : ∀ r, w₂.inScope which r = true → rowTenant t r = A := fun r hr =>
    (World.inScope_tenant hr).trans ht₂
  have hclash : introducesClash t (w₁.inScope which) change (w₁.view t) =
      introducesClash t (w₂.inScope which) change (w₂.view t) := by
    have hclash₁ : introducesClash t (w₂.inScope which) change (w₁.view t) = _ :=
      introducesClash_own hwhich hchange
    have hclash₂ : introducesClash t (w₂.inScope which) change (w₂.view t) = _ :=
      introducesClash_own hwhich hchange
    rw [hscope, hclash₁, hclash₂, hview.own]
  unfold World.withUpdate
  rw [hclash, hscope]
  split
  · refine ⟨h.db, fun _ => ⟨ht₁, ht₂, hview, ?_⟩, h.saved, h.keys⟩
    dsimp only
    rw [hconflict]
  · exact ⟨h.db, fun _ => ⟨ht₁, ht₂, hview.modify hwhich fun r hr => (hchange r hr).1,
      hconflict⟩, h.saved, h.keys⟩

/-- A token of the tenant finds the tenant's routes, and no other. -/
theorem tenantsOfToken_own {base d : Database} {token : String} (hT : OwnTokens A T base)
    (htoken : T token) (hsame : ∀ t, foreignRows A t (d t) = foreignRows A t (base t)) :
    (d .webhookRoutes).filter (·.token == token) =
      (ownRows A .webhookRoutes (d .webhookRoutes)).filter (·.token == token) := by
  unfold ownRows
  rw [List.filter_filter]
  apply List.filter_congr
  intro r hr
  by_cases hown : rowTenant .webhookRoutes r = A
  · simp [hown]
  · have hforeign : r ∈ foreignRows A .webhookRoutes (base .webhookRoutes) := by
      rw [← hsame]
      exact mem_foreignRows.mpr ⟨hr, hown⟩
    have hne : r.token ≠ token := by
      rintro rfl
      exact hT r hforeign htoken
    simp [hne]

/-- One call of a confined program: the same answer in both worlds, which stay alike. -/
theorem Twins.step {op : Op} {c : Choice} (h : Twins A base₁ base₂ s w₁ w₂)
    (hT₁ : OwnTokens A T base₁) (hT₂ : OwnTokens A T base₂) (hop : op.Confined A T s)
    (hc₁ : FreshFor A base₁ op c) (hc₂ : FreshFor A base₂ op c) :
    (World.step w₁ op c).1 = (World.step w₂ op c).1 ∧
      ∃ s', (confinement A T).steps s op (World.step w₁ op c).1 s' ∧
        Twins A base₁ base₂ s' (World.step w₁ op c).2 (World.step w₂ op c).2 := by
  have hflushed : s.bound = true → w₁.flushed c = w₂.flushed c := by
    intro hb
    obtain ⟨-, -, -, hconflict⟩ := h.session hb
    unfold World.flushed
    rw [hconflict]
  cases op with
  | openSession tenantId =>
    refine ⟨rfl, _, ⟨trivial, rfl⟩, h.db, fun _ => ⟨hop, hop, h.db, rfl⟩, h.saved, h.keys⟩
  | closeSession =>
    refine ⟨rfl, _, ⟨trivial, rfl⟩, h.db, fun hb => ?_, h.saved, h.keys⟩
    obtain ⟨ht₁, ht₂, -, -⟩ := h.session hb
    exact ⟨ht₁, ht₂, h.db, rfl⟩
  | select t cond =>
    obtain ⟨ht₁, ht₂, hview, -⟩ := h.session hop
    have hrows : ∀ w : World, w.tenantId = A → (w.view t).filter (w.inScope cond) =
        (ownRows A t (w.view t)).filter cond := by
      intro w hw
      unfold ownRows
      rw [List.filter_filter]
      apply List.filter_congr
      intro r _
      simp [World.inScope, hw, Bool.and_comm]
    refine ⟨?_, _, ⟨trivial, rfl⟩, h⟩
    simp only [World.step]
    rw [hflushed hop, hrows w₁ ht₁, hrows w₂ ht₂, hview.own]
  | add t row =>
    obtain ⟨hb, ht, hkey⟩ := hop
    exact ⟨rfl, _, ⟨trivial, rfl⟩, h.withPending hb ht hkey⟩
  | update t which change =>
    obtain ⟨hb, hchange⟩ := hop
    exact ⟨rfl, _, ⟨trivial, rfl⟩, h.withUpdate hb hchange⟩
  | flush => exact ⟨hflushed hop, _, ⟨trivial, rfl⟩, h⟩
  | savepoint =>
    obtain ⟨ht₁, ht₂, hview, hconflict⟩ := h.session hop
    simp only [World.step]
    rw [← hflushed hop]
    cases w₁.flushed c with
    | error e => exact ⟨rfl, _, ⟨trivial, rfl⟩, h⟩
    | ok u =>
      exact ⟨rfl, _, ⟨trivial, rfl⟩, h.db, h.session, fun _ => hview, h.keys⟩
  | releaseSavepoint => exact ⟨hflushed hop, _, ⟨trivial, rfl⟩, h⟩
  | rollbackToSavepoint =>
    obtain ⟨hb, hn⟩ := hop
    obtain ⟨ht₁, ht₂, -, -⟩ := h.session hb
    exact ⟨rfl, _, ⟨trivial, rfl⟩, h.db, fun _ => ⟨ht₁, ht₂, h.saved hn, rfl⟩, h.saved, h.keys⟩
  | commit =>
    obtain ⟨ht₁, ht₂, hview, hconflict⟩ := h.session hop
    simp only [World.step]
    rw [← hflushed hop]
    cases w₁.flushed c with
    | error e => exact ⟨rfl, _, ⟨trivial, rfl⟩, h⟩
    | ok u => exact ⟨rfl, _, ⟨trivial, rfl⟩, hview, h.session, h.saved, h.keys⟩
  | rollback =>
    obtain ⟨ht₁, ht₂, -, -⟩ := h.session hop
    exact ⟨rfl, _, ⟨trivial, rfl⟩, h.db, fun _ => ⟨ht₁, ht₂, h.db, rfl⟩, h.saved, h.keys⟩
  | utcnow => exact ⟨rfl, _, ⟨trivial, rfl⟩, h.db, h.session, h.saved, h.keys⟩
  | uuid4 =>
    refine ⟨rfl, _, ⟨trivial, rfl⟩, h.db, h.session, h.saved, fun k hk => ?_⟩
    rcases List.mem_cons.mp hk with rfl | hk
    · exact ⟨hc₁, hc₂⟩
    · exact h.keys k hk
  | activeTenantIds => exact hop.elim
  | tenantsOfToken token =>
    have hrows₁ := tenantsOfToken_own hT₁ hop h.db.left
    have hrows₂ := tenantsOfToken_own hT₂ hop h.db.right
    have hanswer : (World.step w₁ (.tenantsOfToken token) c).1 =
        (World.step w₂ (.tenantsOfToken token) c).1 := by
      simp only [World.step]
      rw [hrows₁, hrows₂, h.db.own]
    refine ⟨hanswer, _, ⟨?_, rfl⟩, h⟩
    simp only [World.step]
    cases c.fault with
    | some e => trivial
    | none =>
      intro x hx
      rw [mem_pick, hrows₁] at hx
      obtain ⟨route, hroute, rfl⟩ := List.mem_map.mp hx
      exact (mem_ownRows.mp (List.mem_filter.mp hroute).1).2
  | tokenUrlsafe =>
    refine ⟨rfl, _, ⟨trivial, rfl⟩, h.db, h.session, h.saved, fun k hk => ?_⟩
    rcases List.mem_cons.mp hk with rfl | hk
    · exact ⟨hc₁, hc₂⟩
    · exact h.keys k hk
  | encrypt plaintext => exact ⟨rfl, _, ⟨trivial, rfl⟩, h⟩
  | validateUser uid => exact ⟨rfl, _, ⟨trivial, rfl⟩, h.db, h.session, h.saved, h.keys⟩
  | telegram call about =>
    simp only [World.step]
    cases c.fault with
    | none => exact ⟨rfl, _, ⟨trivial, rfl⟩, h.db, h.session, h.saved, h.keys⟩
    | some e =>
      dsimp only
      split
      · exact ⟨rfl, _, ⟨trivial, rfl⟩, h.db, h.session, h.saved, h.keys⟩
      · exact ⟨rfl, _, ⟨trivial, rfl⟩, h⟩

end Twins

end VipChannel

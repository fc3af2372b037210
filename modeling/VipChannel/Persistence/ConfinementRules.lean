/-
  VipChannel.Persistence.ConfinementRules

  Rules for showing a program confined (VipChannel.Persistence.Confinement).

  Stages only grow, and a program confined from one stage on is confined from every later
  one: so a rule speaks of the stage a program starts at, and of what the calls of the
  program itself add to it.
-/
import VipChannel.Persistence.Confinement
import VipChannel.Jobs.Scheduler

namespace VipChannel

open Lib
open Program (perform raising UsesOnly)

/-- The order in which stages grow. -/
structure Stage.Within (s t : Stage) : Prop where
  bound : s.bound = true → t.bound = true
  nested : s.nested = true → t.nested = true
  keys : s.keys ⊆ t.keys

namespace Stage

variable {s t u : Stage}

theorem Within.refl (s : Stage) : s.Within s :=
  ⟨id, id, fun _ => id⟩

theorem Within.trans (h : s.Within t) (h' : t.Within u) : s.Within u :=
  ⟨fun hb => h'.bound (h.bound hb), fun hn => h'.nested (h.nested hn),
    fun _ hk => h'.keys (h.keys hk)⟩

theorem within_after (s : Stage) (op : Op) (r : Except PyError op.Ret) :
    s.Within (s.after op r) := by
  cases op with
  | openSession tenantId => exact ⟨fun _ => rfl, id, fun _ => id⟩
  | savepoint =>
    cases r with
    | ok u => exact ⟨id, fun _ => rfl, fun _ => id⟩
    | error e => exact .refl s
  | uuid4 =>
    cases r with
    | ok id' => exact ⟨id, id, fun _ hk => List.mem_cons_of_mem _ hk⟩
    | error e => exact .refl s
  | tokenUrlsafe =>
    cases r with
    | ok token => exact ⟨id, id, fun _ hk => List.mem_cons_of_mem _ hk⟩
    | error e => exact .refl s
  | _ => exact .refl s

/-- With a session open. -/
def opened (s : Stage) : Stage := { s with bound := true }

/-- With a key given. -/
def given (s : Stage) (k : Key) : Stage := { s with keys := k :: s.keys }

@[simp] theorem opened_bound (s : Stage) : s.opened.bound = true := rfl

@[simp] theorem given_bound (s : Stage) (k : Key) : (s.given k).bound = s.bound := rfl

theorem mem_given (s : Stage) (k : Key) : k ∈ (s.given k).keys := List.mem_cons_self

end Stage

/-- From the stage on, every call of the program is one a confined program may make. -/
def Confined {α : Type} (A : TenantId) (T : String → Prop) (s : Stage) (p : App α) : Prop :=
  ∀ s', s.Within s' → wp (confinement A T) p (fun _ t => s'.Within t) s'

section Rules

variable {α β : Type} {A : TenantId} {T : String → Prop} {s t : Stage}

theorem Confined.mono {p : App α} (h : Confined A T s p) (hst : s.Within t) :
    Confined A T t p :=
  fun s' hs' => h s' (hst.trans hs')

theorem confined_pure (a : α) : Confined A T s (pure a : App α) :=
  fun s' _ => Stage.Within.refl s'

theorem confined_throw (e : PyError) : Confined A T s (.throw e : App α) :=
  fun s' _ => Stage.Within.refl s'

theorem confined_raising (x : Except PyError α) : Confined A T s (raising x : App α) := by
  intro s' _
  rw [wp_raising]
  exact .refl s'

/-- What the second half needs may be what the first half has added. -/
theorem confined_bind_grows {p : App α} {f : α → App β}
    (hp : ∀ s', s.Within s' →
      wp (confinement A T) p
        (fun r t => s'.Within t ∧ ∀ a, r = .ok a → Confined A T t (f a)) s') :
    Confined A T s (p >>= f) := by
  intro s' hs'
  rw [wp_bind]
  refine wp_mono ?_ (hp s' hs')
  rintro (e | a) u ⟨hu, hf⟩
  · exact hu
  · rw [bindPost_ok]
    exact wp_mono (fun _ _ h => hu.trans h) (hf a rfl u (.refl u))

theorem confined_bind {p : App α} {f : α → App β} (hp : Confined A T s p)
    (hf : ∀ a, Confined A T s (f a)) : Confined A T s (p >>= f) := by
  refine confined_bind_grows fun s' hs' => wp_mono ?_ (hp s' hs')
  exact fun r u hu => ⟨hu, fun a _ => (hf a).mono (hs'.trans hu)⟩

theorem confined_tryCatch {p : App α} {h : PyError → App α} (hp : Confined A T s p)
    (hh : ∀ e, Confined A T s (h e)) : Confined A T s (p.tryCatch h) := by
  intro s' hs'
  rw [wp_tryCatch]
  refine wp_mono ?_ (hp s' hs')
  rintro (e | a) u hu
  · rw [catchPost_error]
    exact wp_mono (fun _ _ h => hu.trans h) (hh e u (hs'.trans hu))
  · exact hu

theorem confined_perform {op : Op} (h : ∀ s', s.Within s' → op.Confined A T s') :
    Confined A T s (perform op) := by
  intro s' hs'
  rw [wp_perform]
  refine ⟨h s' hs', fun r u hr => ?_⟩
  obtain ⟨-, rfl⟩ := hr
  exact s'.within_after op r

/-- A loop over rows, its state passed along. -/
theorem confined_foldlM {f : β → α → App β} (hf : ∀ b a, Confined A T s (f b a))
    (xs : List α) (b : β) : Confined A T s (xs.foldlM f b) := by
  induction xs generalizing b with
  | nil => exact confined_pure b
  | cons a rest ih =>
    rw [List.foldlM_cons]
    exact confined_bind (hf b a) fun b' => ih b'

/-! ## The clock, ids and tokens -/

theorem confined_utcnow : Confined A T s utcnow :=
  confined_perform fun _ _ => trivial

theorem confined_nowOr (now : Option DateTime) : Confined A T s (nowOr now) := by
  cases now with
  | some moment => exact confined_pure moment
  | none => exact confined_utcnow

/-- A new id is one of the keys from then on. -/
theorem confined_uuid4 {f : RowId → App β}
    (hf : ∀ id, Confined A T (s.given (.inl id)) (f id)) : Confined A T s (uuid4 >>= f) := by
  refine confined_bind_grows fun s' hs' => ?_
  unfold uuid4
  rw [wp_perform]
  refine ⟨trivial, fun r u hr => ?_⟩
  obtain ⟨-, rfl⟩ := hr
  refine ⟨s'.within_after .uuid4 r, fun id hid => (hf id).mono ?_⟩
  rw [hid]
  exact ⟨hs'.bound, hs'.nested, List.cons_subset_cons _ hs'.keys⟩

theorem confined_tokenUrlsafe {f : String → App β}
    (hf : ∀ token, Confined A T (s.given (.inr token)) (f token)) :
    Confined A T s (perform Op.tokenUrlsafe >>= f) := by
  refine confined_bind_grows fun s' hs' => ?_
  rw [wp_perform]
  refine ⟨trivial, fun r u hr => ?_⟩
  obtain ⟨-, rfl⟩ := hr
  refine ⟨s'.within_after .tokenUrlsafe r, fun token htoken => (hf token).mono ?_⟩
  rw [htoken]
  exact ⟨hs'.bound, hs'.nested, List.cons_subset_cons _ hs'.keys⟩

/-! ## Statements of an open session -/

section Statements

variable (hb : s.bound = true)
include hb

theorem confined_flush : Confined A T s flush :=
  confined_perform fun _ hs' => hs'.bound hb

theorem confined_select {t : Table} (cond : Row t → Bool) : Confined A T s (select t cond) :=
  confined_perform fun _ hs' => hs'.bound hb

theorem confined_selectOneOrNone {t : Table} (cond : Row t → Bool) :
    Confined A T s (selectOneOrNone t cond) :=
  confined_bind (confined_select hb cond) fun _ => confined_raising _

theorem confined_refresh {t : Table} (which : Row t → Bool) :
    Confined A T s (refresh t which) := by
  refine confined_bind (confined_select hb which) fun rows => ?_
  cases rows with
  | nil => exact confined_throw _
  | cons r rest => exact confined_pure r

theorem confined_saveLoaded {t : Table} (which : Row t → Bool) :
    Confined A T s (saveLoaded t which) :=
  confined_bind (confined_flush hb) fun _ => confined_refresh hb which

/-- A row of the tenant, under keys that were given. -/
theorem confined_add {t : Table} {row : Row t} (ht : rowTenant t row = A)
    (hkey : ∀ k, globalKey t row = some k → k ∈ s.keys) : Confined A T s (add t row) :=
  confined_perform fun _ hs' => ⟨hs'.bound hb, ht, fun k hk => hs'.keys (hkey k hk)⟩

theorem confined_saveNew {t : Table} {which : Row t → Bool} {row : Row t}
    (ht : rowTenant t row = A) (hkey : ∀ k, globalKey t row = some k → k ∈ s.keys) :
    Confined A T s (saveNew t which row) :=
  confined_bind (confined_add hb ht hkey) fun _ =>
    confined_bind (confined_flush hb) fun _ => confined_refresh hb which

/-- Assignments to other columns than the tenant and the key. -/
theorem confined_update {t : Table} {which : Row t → Bool} {change : Row t → Row t}
    (hchange : ∀ r, rowTenant t r = A →
      rowTenant t (change r) = A ∧ globalKey t (change r) = globalKey t r) :
    Confined A T s (update t which change) :=
  confined_perform fun _ hs' => ⟨hs'.bound hb, hchange⟩

/-- Bot API calls. -/
theorem confined_telegram (call : TelegramCall) (about : Option Concern) :
    Confined A T s (perform (Op.telegram call about)) :=
  confined_perform fun _ hs' => hs'.bound hb

end Statements

/-! ## Sessions and transactions -/

theorem confined_withSession {body : App α} (h : Confined A T s.opened body) :
    Confined A T s (withSession A body) := by
  refine confined_bind_grows fun s' hs' => ?_
  rw [wp_perform]
  refine ⟨rfl, fun r u hr => ?_⟩
  obtain ⟨-, rfl⟩ := hr
  refine ⟨s'.within_after (.openSession A) r, fun _ _ => ?_⟩
  have hclose : ∀ u, Confined A T u (perform Op.closeSession) := fun u =>
    confined_perform fun _ _ => trivial
  have hopened : s.opened.Within (s'.after (.openSession A) r) :=
    ⟨fun _ => rfl, hs'.nested, hs'.keys⟩
  refine confined_bind (confined_tryCatch (h.mono hopened) fun e => ?_) fun a => ?_
  · exact confined_bind (hclose _) fun _ => confined_throw e
  · exact confined_bind (hclose _) fun _ => confined_pure a

theorem confined_committed {body : App α} (hb : s.bound = true) (h : Confined A T s body) :
    Confined A T s (committed body) := by
  refine confined_tryCatch (confined_bind h fun a => ?_) fun _ => ?_
  · refine confined_bind ?_ fun _ => confined_pure _
    exact confined_perform fun _ hs' => hs'.bound hb
  · refine confined_bind ?_ fun _ => confined_pure _
    exact confined_perform fun _ hs' => hs'.bound hb

theorem confined_beginNested {body : App Unit} (hb : s.bound = true)
    (h : Confined A T s body) : Confined A T s (beginNested body) := by
  refine confined_bind_grows fun s' hs' => ?_
  rw [wp_perform]
  refine ⟨hs'.bound hb, fun r u hr => ?_⟩
  obtain ⟨-, rfl⟩ := hr
  refine ⟨s'.within_after .savepoint r, fun _ hok => ?_⟩
  rw [hok]
  have hgrown : s.Within (s'.after .savepoint (.ok ())) :=
    hs'.trans (s'.within_after .savepoint (.ok ()))
  refine confined_tryCatch (confined_bind (h.mono hgrown) fun _ => ?_) fun e => ?_
  · exact confined_perform fun _ hu => hu.bound (hs'.bound hb)
  · refine confined_bind ?_ fun _ => confined_throw e
    exact confined_perform fun _ hu => ⟨hu.bound (hs'.bound hb), hu.nested rfl⟩

end Rules

end VipChannel

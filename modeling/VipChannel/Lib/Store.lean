/-
  VipChannel.Lib.Store

  A relational store: a list of rows for every table, rows of different tables
  having different types.  Inserting appends a row, updating maps the rows a
  predicate selects, and reading gives the selected rows in an order the caller
  does not control (`pick`).
-/
import Mathlib

namespace VipChannel.Lib

/-- The rows of every table. -/
abbrev Store {Table : Type} (Row : Table → Type) := (t : Table) → List (Row t)

/-- Apply `change` to the rows that `which` selects. -/
def modifyRows {α : Type} (which : α → Bool) (change : α → α) (rows : List α) : List α :=
  rows.map fun r => if which r then change r else r

namespace Store

variable {Table : Type} {Row : Table → Type} [DecidableEq Table]

/-- Replace the rows of one table. -/
def put (s : Store Row) (t : Table) (rows : List (Row t)) : Store Row :=
  Function.update s t rows

def append (s : Store Row) (t : Table) (row : Row t) : Store Row :=
  s.put t (s t ++ [row])

def modify (s : Store Row) (t : Table) (which : Row t → Bool) (change : Row t → Row t) :
    Store Row :=
  s.put t (modifyRows which change (s t))

@[simp] theorem put_self (s : Store Row) (t : Table) (rows : List (Row t)) :
    s.put t rows t = rows := by
  unfold put
  exact Function.update_self ..

theorem put_other (s : Store Row) {t t' : Table} (h : t' ≠ t) (rows : List (Row t)) :
    s.put t rows t' = s t' := by
  unfold put
  exact Function.update_of_ne h ..

@[simp] theorem append_self (s : Store Row) (t : Table) (row : Row t) :
    s.append t row t = s t ++ [row] := put_self s t _

theorem append_other (s : Store Row) {t t' : Table} (h : t' ≠ t) (row : Row t) :
    s.append t row t' = s t' := put_other s h _

@[simp] theorem modify_self (s : Store Row) (t : Table) (which : Row t → Bool)
    (change : Row t → Row t) : s.modify t which change t = modifyRows which change (s t) :=
  put_self s t _

theorem modify_other (s : Store Row) {t t' : Table} (h : t' ≠ t) (which : Row t → Bool)
    (change : Row t → Row t) : s.modify t which change t' = s t' := put_other s h _

end Store

/-! ## Updated rows -/

section ModifyRows

variable {α : Type} {which : α → Bool} {change : α → α} {rows : List α}

theorem mem_modifyRows {r : α} :
    r ∈ modifyRows which change rows ↔
      ∃ r₀ ∈ rows, r = if which r₀ then change r₀ else r₀ := by
  simp only [modifyRows, List.mem_map]
  exact ⟨fun ⟨r₀, h, e⟩ => ⟨r₀, h, e.symm⟩, fun ⟨r₀, h, e⟩ => ⟨r₀, h, e.symm⟩⟩

/-- A selected row is there in its changed form. -/
theorem change_mem_modifyRows {r : α} (h : r ∈ rows) (hw : which r = true) :
    change r ∈ modifyRows which change rows :=
  mem_modifyRows.mpr ⟨r, h, by simp [hw]⟩

/-- An update that keeps every row it selects changes nothing. -/
theorem modifyRows_of_kept (h : ∀ r ∈ rows, which r = true → change r = r) :
    modifyRows which change rows = rows := by
  refine (List.map_congr_left fun r hr => ?_).trans (List.map_id rows)
  by_cases hw : which r = true
  · rw [if_pos hw, h r hr hw, id]
  · rw [if_neg hw, id]

/-- An update that changes no row changes nothing. -/
theorem modifyRows_eq_self (h : ∀ r, change r = r) : modifyRows which change rows = rows :=
  modifyRows_of_kept fun r _ _ => h r

theorem Store.modify_of_kept {Table : Type} {Row : Table → Type} [DecidableEq Table]
    {s : Store Row} {t : Table} {which : Row t → Bool} {change : Row t → Row t}
    (h : ∀ r ∈ s t, which r = true → change r = r) : s.modify t which change = s := by
  unfold Store.modify Store.put
  rw [modifyRows_of_kept h, Function.update_eq_self]

/-- A column the change keeps on the selected rows is the same list after the update. -/
theorem map_modifyRows_of {β : Type} {f : α → β} (h : ∀ r, which r = true → f (change r) = f r) :
    (modifyRows which change rows).map f = rows.map f := by
  simp only [modifyRows, List.map_map]
  apply List.map_congr_left
  intro r _
  simp only [Function.comp]
  split
  · next hr => exact h r hr
  · rfl

/-- A column the change keeps is the same list after the update. -/
theorem map_modifyRows {β : Type} {f : α → β} (h : ∀ r, f (change r) = f r) :
    (modifyRows which change rows).map f = rows.map f :=
  map_modifyRows_of fun r _ => h r

end ModifyRows

/-! ## Updates one after the other -/

section Updates

variable {α β : Type} {which : β → α → Bool} {change : β → α → α}

/-- A row after the updates of `bs`. -/
def afterUpdates (which : β → α → Bool) (change : β → α → α) (bs : List β) (r : α) : α :=
  bs.foldl (fun r b => if which b r then change b r else r) r

theorem foldl_modifyRows (bs : List β) (rows : List α) :
    bs.foldl (fun rows b => modifyRows (which b) (change b) rows) rows =
      rows.map (afterUpdates which change bs) := by
  induction bs generalizing rows with
  | nil => exact (List.map_id rows).symm
  | cons b bs ih =>
    rw [List.foldl_cons, ih, modifyRows, List.map_map]
    rfl

/-- A row that no update selects stays as it is. -/
theorem afterUpdates_of_not {bs : List β} {r : α} (h : ∀ b ∈ bs, which b r = false) :
    afterUpdates which change bs r = r := by
  induction bs with
  | nil => rfl
  | cons b bs ih =>
    have hb := h b List.mem_cons_self
    simp only [afterUpdates, List.foldl_cons, hb, Bool.false_eq_true, if_false]
    exact ih fun b' hb' => h b' (List.mem_cons_of_mem _ hb')

/-- Where no two updates select the same row, a row is left alone or changed once. -/
theorem afterUpdates_cases {bs : List β} {r : α}
    (hkeep : ∀ b b' r, which b' (change b r) = which b' r)
    (hone : bs.Pairwise fun b b' => ∀ r, which b r = true → which b' r = false) :
    ((∀ b ∈ bs, which b r = false) ∧ afterUpdates which change bs r = r) ∨
      ∃ b ∈ bs, which b r = true ∧ afterUpdates which change bs r = change b r := by
  induction bs with
  | nil => exact .inl ⟨nofun, rfl⟩
  | cons b bs ih =>
    rw [List.pairwise_cons] at hone
    by_cases hb : which b r = true
    · refine .inr ⟨b, List.mem_cons_self, hb, ?_⟩
      have hrest : ∀ b' ∈ bs, which b' (change b r) = false := fun b' hb' => by
        rw [hkeep]
        exact hone.1 b' hb' r hb
      have hleft : afterUpdates which change bs (change b r) = change b r :=
        afterUpdates_of_not hrest
      simpa only [afterUpdates, List.foldl_cons, hb, if_true] using hleft
    · have hb' : which b r = false := by simpa using hb
      have heq : afterUpdates which change (b :: bs) r = afterUpdates which change bs r := by
        simp only [afterUpdates, List.foldl_cons, hb', Bool.false_eq_true, if_false]
      rw [heq]
      rcases ih hone.2 with ⟨hall, hr⟩ | ⟨b', hmem, hw, hr⟩
      · exact .inl ⟨List.forall_mem_cons.mpr ⟨hb', hall⟩, hr⟩
      · exact .inr ⟨b', List.mem_cons_of_mem _ hmem, hw, hr⟩

/-- Where all updates make the same change, and making it twice is making it once, a row is
    changed if some update selects it. -/
theorem afterUpdates_same {f : α → α} {bs : List β} {r : α} (hf : ∀ r, f (f r) = f r)
    (hkeep : ∀ b r, which b (f r) = which b r) :
    afterUpdates which (fun _ => f) bs r = if bs.any (which · r) then f r else r := by
  induction bs generalizing r with
  | nil => rfl
  | cons b bs ih =>
    have heq : afterUpdates which (fun _ => f) (b :: bs) r =
        afterUpdates which (fun _ => f) bs (if which b r then f r else r) := rfl
    rw [heq, ih]
    cases hb : which b r with
    | true => simp [hb, hf, hkeep]
    | false => simp [hb]

end Updates

/-! ## Row order -/

/-- The rows of `xs`, taken out one after the other at the positions `order` names.  Every
    `order` gives a permutation. -/
def pick {α : Type} : List Nat → List α → List α
  | _, [] => []
  | [], xs => xs
  | i :: is, x :: xs =>
    let l := x :: xs
    have : i % l.length < l.length := Nat.mod_lt _ (by simp [l])
    l[i % l.length] :: pick is (l.eraseIdx (i % l.length))

theorem pick_perm {α : Type} (order : List Nat) (xs : List α) : (pick order xs).Perm xs := by
  induction order generalizing xs with
  | nil => cases xs <;> exact List.Perm.refl _
  | cons i is ih =>
      cases xs with
      | nil => exact List.Perm.refl _
      | cons x xs =>
        simp only [pick]
        exact ((ih _).cons _).trans (List.getElem_cons_eraseIdx_perm (Nat.mod_lt _ (by simp)))

@[simp] theorem mem_pick {α : Type} {order : List Nat} {xs : List α} {x : α} :
    x ∈ pick order xs ↔ x ∈ xs := (pick_perm order xs).mem_iff

/-- The order does not depend on what is in the rows. -/
theorem pick_map {α β : Type} (f : α → β) (order : List Nat) (xs : List α) :
    pick order (xs.map f) = (pick order xs).map f := by
  induction order generalizing xs with
  | nil => cases xs <;> rfl
  | cons i is ih =>
    cases xs with
    | nil => rfl
    | cons x xs =>
      have hlength : (f x :: xs.map f).length = (x :: xs).length := by simp
      have herase : (f x :: xs.map f).eraseIdx (i % (x :: xs).length) =
          ((x :: xs).eraseIdx (i % (x :: xs).length)).map f := by
        rw [← List.map_cons, List.eraseIdx_map]
      simp only [pick, List.map_cons, hlength, herase, ih]
      refine congrArg (· :: _) ?_
      simp only [← List.map_cons, List.getElem_map]

end VipChannel.Lib

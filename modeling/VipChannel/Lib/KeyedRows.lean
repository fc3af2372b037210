/-
  VipChannel.Lib.KeyedRows

  A table as a map: the value of the row at each key.

  A statement on a table is judged by what it puts there (`PutIn`): one row, in place of
  those that had its key.  Statements on the same key compose (`PutIn.trans`), and where no
  two rows share a key they are updates of the map (`PutIn.valueAt`).
-/
import VipChannel.Lib.Store

namespace VipChannel.Lib

variable {α β κ : Type}

/-- The value of the row at a key, if there is a row. -/
def valueAt [DecidableEq κ] (keyOf : α → κ) (value : α → β) (rows : List α) (k : κ) : Option β :=
  (rows.find? fun r => decide (keyOf r = k)).map value

/-- No two rows share a key. -/
def Apart (keyOf : α → κ) (rows : List α) : Prop :=
  rows.Pairwise fun r s => keyOf r ≠ keyOf s

theorem Apart.eq_of_key {keyOf : α → κ} {rows : List α} (h : Apart keyOf rows)
    {r s : α} (hr : r ∈ rows) (hs : s ∈ rows) (hkey : keyOf r = keyOf s) : r = s :=
  List.inj_on_of_nodup_map (List.pairwise_map.mpr h) hr hs hkey

/-- The row is there, in place of those that had its key; the others are as they were. -/
structure PutIn (keyOf : α → κ) (row : α) (rows rows' : List α) : Prop where
  there : row ∈ rows'
  others : ∀ r, keyOf r ≠ keyOf row → (r ∈ rows' ↔ r ∈ rows)

section Values

variable [DecidableEq κ] {keyOf : α → κ} {value : α → β} {rows rows' : List α} {k : κ} {row : α}

theorem valueAt_eq_none (h : ∀ r ∈ rows, keyOf r ≠ k) : valueAt keyOf value rows k = none := by
  have hfind : (rows.find? fun r => decide (keyOf r = k)) = none := by
    rw [List.find?_eq_none]
    intro r hr
    simpa using h r hr
  rw [valueAt, hfind, Option.map_none]

theorem valueAt_eq_some (hmem : row ∈ rows) (hkey : keyOf row = k)
    (honly : ∀ r ∈ rows, keyOf r = k → r = row) :
    valueAt keyOf value rows k = some (value row) := by
  cases hfind : rows.find? fun r => decide (keyOf r = k) with
  | none =>
    have hno := List.find?_eq_none.mp hfind row hmem
    exact absurd hkey (by simpa using hno)
  | some r =>
    have hr : keyOf r = k := by simpa using List.find?_some hfind
    rw [valueAt, hfind, honly r (List.mem_of_find?_eq_some hfind) hr, Option.map_some]

theorem Apart.valueAt_eq_some (h : Apart keyOf rows) (hmem : row ∈ rows) (hkey : keyOf row = k) :
    valueAt keyOf value rows k = some (value row) :=
  Lib.valueAt_eq_some hmem hkey fun _ hr hr' => h.eq_of_key hr hmem (hr'.trans hkey.symm)

/-- A value stands for a row. -/
theorem exists_of_valueAt {v : β} (h : valueAt keyOf value rows k = some v) :
    ∃ r ∈ rows, keyOf r = k ∧ value r = v := by
  rw [valueAt, Option.map_eq_some_iff] at h
  obtain ⟨r, hfind, hv⟩ := h
  exact ⟨r, List.mem_of_find?_eq_some hfind, by simpa using List.find?_some hfind, hv⟩

/-- Where the rows at a key are the same, so is the value. -/
theorem Apart.valueAt_congr (h : Apart keyOf rows) (h' : Apart keyOf rows')
    (hsame : ∀ r, keyOf r = k → (r ∈ rows' ↔ r ∈ rows)) :
    valueAt keyOf value rows' k = valueAt keyOf value rows k := by
  by_cases hthere : ∃ r ∈ rows, keyOf r = k
  · obtain ⟨r, hr, hkey⟩ := hthere
    rw [h.valueAt_eq_some hr hkey, h'.valueAt_eq_some ((hsame r hkey).mpr hr) hkey]
  · push Not at hthere
    rw [valueAt_eq_none hthere, valueAt_eq_none]
    intro r hr hkey
    exact hthere r ((hsame r hkey).mp hr) hkey

end Values

/-! ## Writes -/

namespace PutIn

variable {keyOf : α → κ} {value : α → β} {rows rows' rows'' : List α} {row row' : α}

/-- A row that is there already. -/
theorem self (keyOf : α → κ) (h : row ∈ rows) : PutIn keyOf row rows rows := ⟨h, fun _ _ => Iff.rfl⟩

/-- Of two writes at one key the second is left. -/
theorem trans (h : PutIn keyOf row rows rows') (h' : PutIn keyOf row' rows' rows'')
    (hkey : keyOf row' = keyOf row) : PutIn keyOf row' rows rows'' := by
  refine ⟨h'.there, fun r hr => ?_⟩
  rw [h'.others r hr]
  exact h.others r (hkey ▸ hr)

theorem append (keyOf : α → κ) (rows : List α) (row : α) :
    PutIn keyOf row rows (rows ++ [row]) := by
  refine ⟨List.mem_append_right _ (List.mem_singleton_self row), fun r hr => ?_⟩
  rw [List.mem_append, List.mem_singleton, or_iff_left]
  intro heq
  exact hr (congrArg keyOf heq)

/-- An update of one row that keeps its key. -/
theorem modifyRows {which : α → Bool} {change : α → α} (hmem : row ∈ rows)
    (hself : which row = true) (honly : ∀ r ∈ rows, which r = true → r = row)
    (hkey : keyOf (change row) = keyOf row) :
    PutIn keyOf (change row) rows (modifyRows which change rows) := by
  refine ⟨change_mem_modifyRows hmem hself, fun r hr => ?_⟩
  rw [mem_modifyRows]
  constructor
  · rintro ⟨r₀, hr₀, heq⟩
    by_cases hw : which r₀ = true
    · rw [if_pos hw, honly r₀ hr₀ hw] at heq
      exact absurd (congrArg keyOf heq) hr
    · rw [if_neg hw] at heq
      exact heq ▸ hr₀
  · intro hmem'
    refine ⟨r, hmem', (if_neg fun hw => hr ?_).symm⟩
    rw [honly r hmem' hw, hkey]

/-- The map is updated at the key of the row. -/
theorem valueAt [DecidableEq κ] (h : PutIn keyOf row rows rows') (ha : Apart keyOf rows)
    (ha' : Apart keyOf rows') :
    valueAt keyOf value rows' =
      Function.update (valueAt keyOf value rows) (keyOf row) (some (value row)) := by
  funext k
  by_cases hk : k = keyOf row
  · rw [hk, Function.update_self]
    exact ha'.valueAt_eq_some h.there rfl
  · rw [Function.update_of_ne hk]
    exact ha.valueAt_congr ha' fun r hr => h.others r fun heq => hk (hr.symm.trans heq)

/-! ### Keys in two parts -/

variable {ι : Type} [DecidableEq ι] [DecidableEq κ] {keyOf : α → ι × κ} {i j : ι} {k : κ}

/-- The part of the map that the key is in. -/
theorem valueAt_part (h : PutIn keyOf row rows rows') (ha : Apart keyOf rows)
    (ha' : Apart keyOf rows') (hkey : keyOf row = (i, k)) :
    (fun n => Lib.valueAt keyOf value rows' (i, n)) =
      Function.update (fun n => Lib.valueAt keyOf value rows (i, n)) k (some (value row)) := by
  funext n
  rw [h.valueAt ha ha', hkey]
  by_cases hn : n = k
  · rw [hn, Function.update_self, Function.update_self]
  · rw [Function.update_of_ne hn, Function.update_of_ne fun heq => hn (Prod.mk.inj heq).2]

/-- The other parts are as they were. -/
theorem valueAt_other (h : PutIn keyOf row rows rows') (ha : Apart keyOf rows)
    (ha' : Apart keyOf rows') (hkey : keyOf row = (i, k)) (hj : j ≠ i) (n : κ) :
    Lib.valueAt keyOf value rows' (j, n) = Lib.valueAt keyOf value rows (j, n) := by
  rw [h.valueAt ha ha', hkey, Function.update_of_ne fun heq => hj (Prod.mk.inj heq).1]

end PutIn

end VipChannel.Lib

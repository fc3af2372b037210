/-
  VipChannel.Lib.StableSort

  A stable sort by a key, and what it makes of texts put one after the other.

  Elements of one key stay in the order they came in.  So the concatenation of the sorted
  elements' texts depends on that order, unless the texts of elements of one key commute.
-/
import Mathlib

namespace VipChannel.Lib

section StableSort

variable {α β κ : Type} {key : α → κ} {f : α → List β}

/-- Elements of one key have texts whose order does not matter. -/
def TiesCommute (key : α → κ) (f : α → List β) (l : List α) : Prop :=
  l.Pairwise fun a b => key a = key b → f a ++ f b = f b ++ f a

theorem TiesCommute.perm {l l' : List α} (h : TiesCommute key f l) (hperm : l.Perm l') :
    TiesCommute key f l' :=
  hperm.pairwise h fun hab heq => (hab heq.symm).symm

variable [LinearOrder κ]

/-- `sorted(l, key=key)`. -/
def sortOn (key : α → κ) (l : List α) : List α :=
  l.insertionSort fun a b => key a ≤ key b

theorem sortOn_perm (key : α → κ) (l : List α) : (sortOn key l).Perm l :=
  List.perm_insertionSort _ l

theorem pairwise_sortOn (key : α → κ) (l : List α) :
    (sortOn key l).Pairwise fun a b => key a ≤ key b := by
  have htotal : Std.Total fun a b : α => key a ≤ key b := ⟨fun a b => le_total (key a) (key b)⟩
  have htrans : IsTrans α fun a b : α => key a ≤ key b := ⟨fun _ _ _ => le_trans⟩
  exact List.pairwise_insertionSort _ l

/-- Sorting what is made of elements is sorting the elements by what their key becomes. -/
theorem sortOn_map {γ : Type} (key : γ → κ) (g : α → γ) (l : List α) :
    sortOn key (l.map g) = (sortOn (fun a => key (g a)) l).map g :=
  (List.map_insertionSort (fun a b => key (g a) ≤ key (g b)) (fun a b => key a ≤ key b) g l
    fun _ _ _ _ => Iff.rfl).symm

/-- A text that commutes with others commutes with their concatenation. -/
theorem append_flatMap_comm {x : List β} {u : List α} (h : ∀ a ∈ u, x ++ f a = f a ++ x) :
    x ++ u.flatMap f = u.flatMap f ++ x := by
  induction u with
  | nil => simp
  | cons a u ih =>
    have ha := h a List.mem_cons_self
    have hu := ih fun b hb => h b (List.mem_cons_of_mem a hb)
    calc x ++ (a :: u).flatMap f
        = (x ++ f a) ++ u.flatMap f := by rw [List.flatMap_cons, List.append_assoc]
      _ = f a ++ (x ++ u.flatMap f) := by rw [ha, List.append_assoc]
      _ = (a :: u).flatMap f ++ x := by rw [hu, List.flatMap_cons, List.append_assoc]

/-- Two sorted arrangements of the same elements give the same text. -/
theorem flatMap_eq_of_sorted {l l' : List α} (hl : l.Pairwise fun a b => key a ≤ key b)
    (hl' : l'.Pairwise fun a b => key a ≤ key b) (hperm : l.Perm l')
    (hties : TiesCommute key f l) : l.flatMap f = l'.flatMap f := by
  induction l generalizing l' with
  | nil => rw [hperm.symm.eq_nil]
  | cons x t ih =>
    obtain ⟨u, v, rfl⟩ := List.append_of_mem (hperm.mem_iff.mp List.mem_cons_self)
    have hrest : t.Perm (u ++ v) := by
      have hmiddle : (x :: t).Perm (x :: (u ++ v)) := hperm.trans List.perm_middle
      exact hmiddle.cons_inv
    obtain ⟨hx, ht⟩ := List.pairwise_cons.mp hl
    obtain ⟨hcomm, hties'⟩ := List.pairwise_cons.mp hties
    -- What stands before `x` in the other arrangement has the key of `x`.
    have hbefore : ∀ a ∈ u, f x ++ f a = f a ++ f x := by
      intro a ha
      have hmem : a ∈ t := hrest.mem_iff.mpr (List.mem_append_left v ha)
      have hle : key a ≤ key x :=
        (List.pairwise_append.mp hl').2.2 a ha x List.mem_cons_self
      exact hcomm a hmem (le_antisymm (hx a hmem) hle)
    have hsub : (u ++ v).Pairwise fun a b => key a ≤ key b :=
      hl'.sublist (List.sublist_cons_self x v |>.append_left u)
    calc (x :: t).flatMap f
        = f x ++ (u ++ v).flatMap f := by rw [List.flatMap_cons, ih ht hsub hrest hties']
      _ = (f x ++ u.flatMap f) ++ v.flatMap f := by rw [List.flatMap_append, List.append_assoc]
      _ = u.flatMap f ++ (f x ++ v.flatMap f) := by
        rw [append_flatMap_comm hbefore, List.append_assoc]
      _ = (u ++ x :: v).flatMap f := by rw [List.flatMap_append, List.flatMap_cons]

/-- Where ties commute, the text does not depend on the order before sorting. -/
theorem flatMap_sortOn_eq {l l' : List α} (hperm : l.Perm l') (hties : TiesCommute key f l) :
    (sortOn key l).flatMap f = (sortOn key l').flatMap f := by
  have hsorted : (sortOn key l).Perm (sortOn key l') :=
    (sortOn_perm key l).trans (hperm.trans (sortOn_perm key l').symm)
  exact flatMap_eq_of_sorted (pairwise_sortOn key l) (pairwise_sortOn key l') hsorted
    (hties.perm (sortOn_perm key l).symm)

/-- What is inserted stands before the first element whose key is no lower. -/
theorem orderedInsert_before {before after : List α} {x y : α} (h : key x ≤ key y)
    (hbefore : ∀ a ∈ before, key a < key x) :
    (before ++ y :: after).orderedInsert (fun a b => key a ≤ key b) x =
      before ++ x :: y :: after := by
  induction before with
  | nil => rw [List.nil_append, List.orderedInsert, if_pos h, List.nil_append]
  | cons a before ih =>
    have ha : key a < key x := hbefore a List.mem_cons_self
    have hrest := ih fun b hb => hbefore b (List.mem_cons_of_mem a hb)
    rw [List.cons_append, List.orderedInsert, if_neg ha.not_ge, hrest, List.cons_append]

/-- Two elements of one key that come first end up side by side, in the order they came. -/
theorem sortOn_tied (key : α → κ) (rest : List α) {x y : α} (h : key x = key y) :
    ∃ before after, sortOn key (x :: y :: rest) = before ++ x :: y :: after ∧
      sortOn key (y :: x :: rest) = before ++ y :: x :: after := by
  let lower := fun b => decide ¬ key y ≤ key b
  have hlower : lower = fun b => decide ¬ key x ≤ key b := by
    rw [h]
  have hbefore : ∀ a ∈ (sortOn key rest).takeWhile lower, key a < key y := by
    intro a ha
    have hnot : lower a = true := List.mem_takeWhile_imp ha
    exact not_le.mp (of_decide_eq_true hnot)
  have hy : sortOn key (y :: rest) =
      (sortOn key rest).takeWhile lower ++ y :: (sortOn key rest).dropWhile lower :=
    List.insertionSort_cons_eq_take_drop _ y rest
  have hx : sortOn key (x :: rest) =
      (sortOn key rest).takeWhile lower ++ x :: (sortOn key rest).dropWhile lower := by
    rw [hlower]
    exact List.insertionSort_cons_eq_take_drop _ x rest
  refine ⟨(sortOn key rest).takeWhile lower, (sortOn key rest).dropWhile lower, ?_, ?_⟩
  · have hstep : sortOn key (x :: y :: rest) =
        (sortOn key (y :: rest)).orderedInsert (fun a b => key a ≤ key b) x := rfl
    rw [hstep, hy]
    exact orderedInsert_before h.le fun a ha => h ▸ hbefore a ha
  · have hstep : sortOn key (y :: x :: rest) =
        (sortOn key (x :: rest)).orderedInsert (fun a b => key a ≤ key b) y := rfl
    rw [hstep, hx]
    exact orderedInsert_before h.ge hbefore

/-- Where they do not, two orders give different texts. -/
theorem exists_flatMap_sortOn_ne {l : List α} (h : ¬ TiesCommute key f l) :
    ∃ l₁ l₂, l₁.Perm l ∧ l₂.Perm l ∧ (sortOn key l₁).flatMap f ≠ (sortOn key l₂).flatMap f := by
  obtain ⟨x, y, hsub, hno⟩ : ∃ x y, List.Sublist [x, y] l ∧
      ¬ (key x = key y → f x ++ f y = f y ++ f x) := by
    by_contra hall
    push Not at hall
    exact h (List.pairwise_of_forall_sublist fun hab heq => hall _ _ hab heq)
  push Not at hno
  obtain ⟨hkey, hne⟩ := hno
  obtain ⟨rest, hperm⟩ := hsub.exists_perm_append
  obtain ⟨before, after, hxy, hyx⟩ := sortOn_tied key rest hkey
  refine ⟨x :: y :: rest, y :: x :: rest, hperm.symm, (List.Perm.swap x y rest).trans hperm.symm,
    fun heq => hne ?_⟩
  rw [hxy, hyx] at heq
  simp only [List.flatMap_append, List.flatMap_cons, List.append_cancel_left_eq] at heq
  rw [← List.append_assoc, ← List.append_assoc] at heq
  exact List.append_cancel_right heq

end StableSort

end VipChannel.Lib

/-
  VipChannel.Lib.Markup

  Text with markup: what stands between `<` and `>` is markup, four entities stand for a
  character each, and everything else stands for itself.

  `decode` reads such a text.  A text decodes to itself exactly where there is nothing in it
  to decode: no `<`, and none of the entities (`Literal`).
-/
import Mathlib

namespace VipChannel.Lib

/-- The entities, and what they stand for. -/
def ENTITIES : List (List Char × Char) :=
  [(['&', 'l', 't', ';'], '<'), (['&', 'g', 't', ';'], '>'), (['&', 'a', 'm', 'p', ';'], '&'),
    (['&', 'q', 'u', 'o', 't', ';'], '"')]

/-- The entity a text begins with. -/
def entity? (s : List Char) : Option (List Char × Char) :=
  ENTITIES.find? fun e => e.1.isPrefixOf s

/-- Where a reader of a text is. -/
inductive Reader where
  /-- Outside markup, after an entity of which so many characters are left. -/
  | outside (left : Nat)
  /-- Inside markup, of which so much was read. -/
  | inside (read : List Char)

/-- What a text shows, and the markup in it; none where markup is not closed. -/
def scan : Reader → List Char → Option (List Char × List (List Char))
  | .outside _, [] => some ([], [])
  | .inside _, [] => none
  | .outside (n + 1), _ :: s => scan (.outside n) s
  | .outside 0, c :: s =>
    match entity? (c :: s) with
    | some (name, d) => (scan (.outside (name.length - 1)) s).map fun r => (d :: r.1, r.2)
    | none =>
      if c = '<' then scan (.inside []) s
      else (scan (.outside 0) s).map fun r => (c :: r.1, r.2)
  | .inside read, c :: s =>
    if c = '>' then (scan (.outside 0) s).map fun r => (r.1, read :: r.2)
    else scan (.inside (read ++ [c])) s

/-- Which markup a reader takes: at least a text without any. -/
structure MarkupLanguage where
  accepts : List (List Char) → Bool
  accepts_nil : accepts [] = true

/-- What a text shows; none where its markup is not taken. -/
def MarkupLanguage.decode (L : MarkupLanguage) (text : String) : Option String :=
  match scan (.outside 0) text.toList with
  | some (shown, markup) => if L.accepts markup then some (String.ofList shown) else none
  | none => none

/-! ## Texts that show themselves -/

/-- There is nothing to decode. -/
def Inert (s : List Char) : Prop :=
  '<' ∉ s ∧ ∀ e ∈ ENTITIES, ¬ e.1.IsInfix s

section Inert

variable {c : Char} {s a b : List Char}

theorem entity?_eq_none_iff : entity? s = none ↔ ∀ e ∈ ENTITIES, ¬ e.1.IsPrefix s := by
  simp only [entity?, List.find?_eq_none, List.isPrefixOf_iff_prefix]

theorem inert_nil : Inert [] := by
  unfold Inert
  decide

theorem inert_cons_iff : Inert (c :: s) ↔ c ≠ '<' ∧ entity? (c :: s) = none ∧ Inert s := by
  simp only [Inert, entity?_eq_none_iff, List.mem_cons, not_or, List.infix_cons_iff, ne_comm]
  constructor
  · rintro ⟨⟨hc, hs⟩, he⟩
    exact ⟨hc, fun e hmem => (he e hmem).1, hs, fun e hmem => (he e hmem).2⟩
  · rintro ⟨hc, hfirst, hs, he⟩
    exact ⟨⟨hc, hs⟩, fun e hmem => ⟨hfirst e hmem, he e hmem⟩⟩

theorem scan_of_inert (h : Inert s) : scan (.outside 0) s = some (s, []) := by
  induction s with
  | nil => rfl
  | cons c s ih =>
    obtain ⟨hc, hnone, hs⟩ := inert_cons_iff.mp h
    rw [scan, hnone]
    dsimp only
    rw [if_neg hc, ih hs]
    rfl

theorem ENTITIES_length : ∀ e ∈ ENTITIES, 4 ≤ e.1.length := by
  decide

theorem entity?_length {e : List Char × Char} (h : entity? s = some e) :
    4 ≤ e.1.length ∧ e.1.length ≤ s.length := by
  have hfront := List.find?_some h
  rw [List.isPrefixOf_iff_prefix] at hfront
  exact ⟨ENTITIES_length e (List.mem_of_find?_eq_some h), hfront.length_le⟩

/-- The characters that a reader passes without showing them. -/
def Reader.skips : Reader → List Char → Nat
  | .outside n, s => min n s.length
  | .inside _, _ => 1

/-- No more is shown than is left of the text. -/
theorem scan_length {m : Reader} {shown : List Char} {markup : List (List Char)}
    (h : scan m s = some (shown, markup)) : shown.length + m.skips s ≤ s.length := by
  induction s generalizing m shown markup with
  | nil =>
    cases m with
    | outside n =>
      cases h
      simp [Reader.skips]
    | inside read => cases h
  | cons c s ih =>
    cases m with
    | outside n =>
      cases n with
      | succ n =>
        have hrest := ih h
        simp only [Reader.skips, List.length_cons] at hrest ⊢
        omega
      | zero =>
        simp only [Reader.skips, List.length_cons]
        rw [scan] at h
        split at h
        · next name d hentity =>
          obtain ⟨⟨shown', markup'⟩, hscan, heq⟩ := Option.map_eq_some_iff.mp h
          cases heq
          have hrest := ih hscan
          have hlength := entity?_length hentity
          simp only [Reader.skips, List.length_cons] at hrest hlength ⊢
          omega
        · split at h
          · have hrest := ih h
            simp only [Reader.skips] at hrest
            omega
          · obtain ⟨⟨shown', markup'⟩, hscan, heq⟩ := Option.map_eq_some_iff.mp h
            cases heq
            have hrest := ih hscan
            simp only [Reader.skips, List.length_cons] at hrest ⊢
            omega
    | inside read =>
      simp only [Reader.skips, List.length_cons]
      rw [scan] at h
      split at h
      · obtain ⟨⟨shown', markup'⟩, hscan, heq⟩ := Option.map_eq_some_iff.mp h
        cases heq
        have hrest := ih hscan
        simp only [Reader.skips] at hrest ⊢
        omega
      · have hrest := ih h
        simp only [Reader.skips] at hrest
        omega

/-- A text that shows itself has nothing to decode: an entity or markup would make what is
    shown shorter than the text. -/
theorem inert_of_scan {markup : List (List Char)} (h : scan (.outside 0) s = some (s, markup)) :
    Inert s := by
  induction s generalizing markup with
  | nil => exact inert_nil
  | cons c s ih =>
    rw [scan] at h
    split at h
    · next name d hentity =>
      obtain ⟨⟨shown, markup'⟩, hscan, heq⟩ := Option.map_eq_some_iff.mp h
      cases heq
      have hrest := scan_length hscan
      have hlength := entity?_length hentity
      simp only [Reader.skips, List.length_cons] at hrest hlength
      omega
    · next hnone =>
      split at h
      · have hrest := scan_length h
        simp only [Reader.skips, List.length_cons] at hrest
        omega
      · next hc =>
        obtain ⟨⟨shown, markup'⟩, hscan, heq⟩ := Option.map_eq_some_iff.mp h
        cases heq
        exact inert_cons_iff.mpr ⟨hc, hnone, ih hscan⟩

/-! ### Put together -/

/-- A character that is in no entity, and begins no markup. -/
def Fence (c : Char) : Prop := c ≠ '<' ∧ ∀ e ∈ ENTITIES, c ∉ e.1

instance (c : Char) : Decidable (Fence c) := inferInstanceAs (Decidable (_ ∧ _))

theorem prefix_of_fence {e : List Char} (hc : c ∉ e) (h : e.IsPrefix (a ++ c :: b)) :
    e.IsPrefix a := by
  induction a generalizing e with
  | nil =>
    cases e with
    | nil => exact List.nil_prefix
    | cons d e =>
      obtain ⟨rfl, -⟩ := List.cons_prefix_cons.mp h
      exact absurd List.mem_cons_self hc
  | cons d a ih =>
    cases e with
    | nil => exact List.nil_prefix
    | cons d' e =>
      obtain ⟨rfl, hrest⟩ := List.cons_prefix_cons.mp h
      have hc' : c ∉ e := fun hmem => hc (List.mem_cons_of_mem _ hmem)
      exact List.cons_prefix_cons.mpr ⟨rfl, ih hc' hrest⟩

/-- No entity reaches across a fence. -/
theorem inert_fence_iff (hc : Fence c) : Inert (a ++ c :: b) ↔ Inert a ∧ Inert b := by
  induction a with
  | nil =>
    have hnone : entity? (c :: b) = none := by
      rw [entity?_eq_none_iff]
      intro e hmem hfront
      have hnil := List.prefix_nil.mp (prefix_of_fence (a := []) (hc.2 e hmem) hfront)
      have hlength := ENTITIES_length e hmem
      rw [hnil, List.length_nil] at hlength
      omega
    rw [List.nil_append, inert_cons_iff]
    exact ⟨fun h => ⟨inert_nil, h.2.2⟩, fun h => ⟨hc.1, hnone, h.2⟩⟩
  | cons d a ih =>
    have hsame : entity? (d :: (a ++ c :: b)) = none ↔ entity? (d :: a) = none := by
      rw [entity?_eq_none_iff, entity?_eq_none_iff]
      refine forall₂_congr fun e hmem => not_congr ⟨?_, fun h => h.trans (List.prefix_append _ _)⟩
      exact prefix_of_fence (a := d :: a) (hc.2 e hmem)
    rw [List.cons_append, inert_cons_iff, inert_cons_iff, hsame, ih]
    tauto

end Inert

/-! ## Strings -/

/-- Text that shows itself: no `<`, and no entity. -/
def Literal (text : String) : Prop := Inert text.toList

instance (text : String) : Decidable (Literal text) := inferInstanceAs (Decidable (_ ∧ _))

/-- Text all of fences, and some. -/
def Fenced (text : String) : Prop := text.toList ≠ [] ∧ ∀ c ∈ text.toList, Fence c

section Strings

variable {L : MarkupLanguage} {text a b : String}

theorem decode_eq_self_iff : L.decode text = some text ↔ Literal text := by
  unfold MarkupLanguage.decode Literal
  constructor
  · intro h
    split at h
    · next shown markup hscan =>
      split at h
      · rw [Option.some.injEq] at h
        have hshown : shown = text.toList := by rw [← h, String.toList_ofList]
        rw [hshown] at hscan
        exact inert_of_scan hscan
      · cases h
    · cases h
  · intro h
    rw [scan_of_inert h]
    dsimp only
    rw [if_pos L.accepts_nil, String.ofList_toList]

theorem literal_empty : Literal "" := inert_nil

theorem inert_fences_iff {t s : List Char} (ht : ∀ c ∈ t, Fence c) :
    Inert (t ++ s) ↔ Inert s := by
  induction t with
  | nil => exact Iff.rfl
  | cons c t ih =>
    have hfirst := inert_fence_iff (a := []) (b := t ++ s) (ht c List.mem_cons_self)
    rw [List.nil_append] at hfirst
    rw [List.cons_append, hfirst, ih fun d hd => ht d (List.mem_cons_of_mem c hd)]
    exact and_iff_right inert_nil

/-- A literal is the characters it is written with: this is faster to check than the
    bytes. -/
theorem fenced_ofList {l : List Char}
    (h : (!l.isEmpty && l.all fun c => decide (Fence c)) = true) : Fenced (String.ofList l) := by
  simp only [Bool.and_eq_true, Bool.not_eq_true', List.all_eq_true, decide_eq_true_eq,
    List.isEmpty_eq_false_iff] at h
  unfold Fenced
  rw [String.toList_ofList]
  exact h

theorem Fenced.append (ha : Fenced a) (hb : Fenced b) : Fenced (a ++ b) := by
  unfold Fenced
  rw [String.toList_append]
  refine ⟨List.append_ne_nil_of_left_ne_nil ha.1 _, fun c hc => ?_⟩
  exact (List.mem_append.mp hc).elim (ha.2 c) (hb.2 c)

/-- No entity reaches across a fenced text. -/
theorem literal_fenced_iff (ht : Fenced text) :
    Literal (a ++ text ++ b) ↔ Literal a ∧ Literal b := by
  obtain ⟨hne, hfences⟩ := ht
  unfold Literal
  rw [String.toList_append, String.toList_append, List.append_assoc]
  cases hchars : text.toList with
  | nil => exact absurd hchars hne
  | cons c t =>
    rw [hchars] at hfences
    rw [List.cons_append, inert_fence_iff (hfences c List.mem_cons_self),
      inert_fences_iff fun d hd => hfences d (List.mem_cons_of_mem c hd)]

/-- What stands after a fenced text. -/
theorem literal_fenced_append (ht : Fenced text) : Literal (text ++ b) ↔ Literal b := by
  have h := literal_fenced_iff (a := "") (b := b) ht
  rw [String.empty_append] at h
  rw [h]
  exact and_iff_right literal_empty

/-- What stands before a fenced text. -/
theorem literal_append_fenced (ht : Fenced text) : Literal (a ++ text) ↔ Literal a := by
  have h := literal_fenced_iff (a := a) (b := "") ht
  rw [String.append_empty] at h
  rw [h]
  exact and_iff_left literal_empty

theorem Fenced.literal (ht : Fenced text) : Literal text := by
  have h := (literal_fenced_append (b := "") ht).mpr literal_empty
  rwa [String.append_empty] at h

/-- Without an ampersand there is no entity. -/
theorem literal_of_chars (h : ∀ c ∈ text.toList, c ≠ '<' ∧ c ≠ '&') : Literal text := by
  have hampersand : ∀ e ∈ ENTITIES, '&' ∈ e.1 := by decide
  refine ⟨fun hmem => (h '<' hmem).1 rfl, fun e hmem hwithin => ?_⟩
  exact (h '&' (hwithin.subset (hampersand e hmem))).2 rfl

end Strings

end VipChannel.Lib

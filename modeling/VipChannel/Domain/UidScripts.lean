/-
  VipChannel.Domain.UidScripts

  Which texts normalize to a valid UID, and when two texts of one number normalize to the
  same.  Three character classes meet here: what is dropped, what is folded to ASCII,
  and what the pattern takes for a digit; the last is wider than the second.
-/
import VipChannel.Domain.Uid
import VipChannel.Lib.Numerals

namespace VipChannel

open Lib

/-- What is left of a text without white space and separators. -/
def kept (raw : String) : List Char :=
  raw.toList.filter fun c => !isSeparator c

/-- A digit of one of the three scripts that are folded: ASCII, Persian, Arabic-Indic. -/
def KnownDigit (c : Char) : Prop :=
  c.isDigit = true ∨ (0x6F0 ≤ c.toNat ∧ c.toNat ≤ 0x6F9) ∨ (0x660 ≤ c.toNat ∧ c.toNat ≤ 0x669)

instance (c : Char) : Decidable (KnownDigit c) :=
  inferInstanceAs (Decidable (_ ∨ _ ∨ _))

/-- The value of a digit. -/
def digitOf (c : Char) : Nat :=
  (digitValue? c).getD 0

/-! ## Folding one character -/

theorem toNat_ofNat {n : Nat} (h : n < 0xD800) : (Char.ofNat n).toNat = n := by
  have hvalid : n.isValidChar := .inl h
  rw [Char.ofNat, dif_pos hvalid]
  rfl

theorem foldDigit_cases (c : Char) :
    (0x6F0 ≤ c.toNat ∧ c.toNat ≤ 0x6F9 ∧ (foldDigit c).toNat = c.toNat - 0x6F0 + 0x30) ∨
    (0x660 ≤ c.toNat ∧ c.toNat ≤ 0x669 ∧ (foldDigit c).toNat = c.toNat - 0x660 + 0x30) ∨
    (¬ (0x6F0 ≤ c.toNat ∧ c.toNat ≤ 0x6F9) ∧ ¬ (0x660 ≤ c.toNat ∧ c.toNat ≤ 0x669) ∧
      foldDigit c = c) := by
  unfold foldDigit
  simp only
  split_ifs with hpersian harabic
  · exact .inl ⟨hpersian.1, hpersian.2, toNat_ofNat (by omega)⟩
  · exact .inr (.inl ⟨harabic.1, harabic.2, toNat_ofNat (by omega)⟩)
  · exact .inr (.inr ⟨hpersian, harabic, rfl⟩)

/-- Folding makes an ASCII digit of exactly the known digits. -/
theorem isDigit_foldDigit {c : Char} : (foldDigit c).isDigit = true ↔ KnownDigit c := by
  rw [KnownDigit, isDigit_iff, isDigit_iff]
  rcases foldDigit_cases c with ⟨hlo, hhi, hval⟩ | ⟨hlo, hhi, hval⟩ | ⟨hpersian, harabic, heq⟩
  · rw [hval]
    omega
  · rw [hval]
    omega
  · rw [heq]
    omega

/-- Other characters stay. -/
theorem foldDigit_of_not_known {c : Char} (h : ¬ KnownDigit c) : foldDigit c = c := by
  rcases foldDigit_cases c with ⟨hlo, hhi, -⟩ | ⟨hlo, hhi, -⟩ | ⟨-, -, heq⟩
  · exact absurd (.inr (.inl ⟨hlo, hhi⟩)) h
  · exact absurd (.inr (.inr ⟨hlo, hhi⟩)) h
  · exact heq

theorem foldDigit_of_isDigit {c : Char} (h : c.isDigit = true) : foldDigit c = c := by
  have hc := isDigit_iff.mp h
  rcases foldDigit_cases c with ⟨hlo, hhi, -⟩ | ⟨hlo, hhi, -⟩ | ⟨-, -, heq⟩
  · omega
  · omega
  · exact heq

theorem foldDigit_foldDigit (c : Char) : foldDigit (foldDigit c) = foldDigit c := by
  by_cases h : KnownDigit c
  · exact foldDigit_of_isDigit (isDigit_foldDigit.mpr h)
  · rw [foldDigit_of_not_known h, foldDigit_of_not_known h]

/-- A known digit is a decimal digit, and folding keeps its value. -/
theorem digitValue?_known {c : Char} (h : KnownDigit c) :
    digitValue? c = digitValue? (foldDigit c) ∧ isDecimalDigit c = true := by
  have hfold := digitValue?_of_isDigit (isDigit_foldDigit.mpr h)
  suffices hval : digitValue? c = digitValue? (foldDigit c) by
    refine ⟨hval, ?_⟩
    rw [isDecimalDigit, hval, hfold]
    rfl
  rw [hfold]
  rcases foldDigit_cases c with ⟨hlo, hhi, hval⟩ | ⟨hlo, hhi, hval⟩ | ⟨-, -, heq⟩
  · have hfind : digitZeros.find? (fun z => z ≤ c.toNat && c.toNat < z + 10) = some 0x6F0 := by
      rw [digitZeros, List.find?_cons_of_neg, List.find?_cons_of_neg, List.find?_cons_of_pos]
      all_goals simp only [Bool.and_eq_true, decide_eq_true_eq]; omega
    rw [digitValue?, hfind, hval, Option.map_some, Nat.add_sub_cancel]
  · have hfind : digitZeros.find? (fun z => z ≤ c.toNat && c.toNat < z + 10) = some 0x660 := by
      rw [digitZeros, List.find?_cons_of_neg, List.find?_cons_of_pos]
      all_goals simp only [Bool.and_eq_true, decide_eq_true_eq]; omega
    rw [digitValue?, hfind, hval, Option.map_some, Nat.add_sub_cancel]
  · have hdigit := isDigit_foldDigit.mpr h
    rw [heq] at hdigit ⊢
    exact digitValue?_of_isDigit hdigit

theorem digitOf_foldDigit {c : Char} (h : KnownDigit c) : digitOf (foldDigit c) = digitOf c := by
  rw [digitOf, digitOf, (digitValue?_known h).1]

/-- Two ASCII digits of one value are one character. -/
theorem eq_of_digitOf_eq {c d : Char} (hc : c.isDigit = true) (hd : d.isDigit = true)
    (h : digitOf c = digitOf d) : c = d := by
  rw [digitOf, digitOf, digitValue?_of_isDigit hc, digitValue?_of_isDigit hd] at h
  have hc' := isDigit_iff.mp hc
  have hd' := isDigit_iff.mp hd
  rw [Option.getD_some, Option.getD_some] at h
  exact Char.toNat_inj.mp (by omega)

/-- When two digits of one value fold to the same character. -/
theorem foldDigit_eq_iff {c d : Char} (h : digitOf c = digitOf d) :
    foldDigit c = foldDigit d ↔ (KnownDigit c ∧ KnownDigit d) ∨ c = d := by
  constructor
  · intro heq
    by_cases hc : KnownDigit c
    · have hd : KnownDigit d := by
        rw [← isDigit_foldDigit, ← heq]
        exact isDigit_foldDigit.mpr hc
      exact .inl ⟨hc, hd⟩
    · have hd : ¬ KnownDigit d := by
        rw [← isDigit_foldDigit, ← heq, isDigit_foldDigit]
        exact hc
      rw [foldDigit_of_not_known hc, foldDigit_of_not_known hd] at heq
      exact .inr heq
  · rintro (⟨hc, hd⟩ | rfl)
    · apply eq_of_digitOf_eq (isDigit_foldDigit.mpr hc) (isDigit_foldDigit.mpr hd)
      rw [digitOf_foldDigit hc, digitOf_foldDigit hd, h]
    · rfl

/-! ## Normalizing -/

theorem isSeparator_foldDigit (c : Char) : isSeparator (foldDigit c) = isSeparator c := by
  by_cases h : KnownDigit c
  · have hfolded : ∀ d : Char, KnownDigit d → isSeparator d = false := by
      intro d hd
      have hne : ∀ e : Char, ¬ KnownDigit e → (d == e) = false := by
        intro e he
        rw [beq_eq_false_iff_ne]
        rintro rfl
        exact he hd
      have hspace : isSpace d = false := by
        simp only [isSpace, Bool.or_eq_false_iff, Bool.and_eq_false_iff, decide_eq_false_iff_not,
          beq_eq_false_iff_ne]
        rw [KnownDigit, isDigit_iff] at hd
        omega
      rw [isSeparator, hspace, hne ',' (by decide), hne '٬' (by decide), hne '،' (by decide),
        hne '_' (by decide), hne '-' (by decide)]
      rfl
    rw [hfolded c h, hfolded _ (.inl (isDigit_foldDigit.mpr h))]
  · rw [foldDigit_of_not_known h]

/-- Nothing that is kept is white space. -/
theorem isSpace_of_mem_kept {raw : String} {c : Char} (h : c ∈ kept raw) :
    isSpace (foldDigit c) = false := by
  have hsep : isSeparator (foldDigit c) = false := by
    rw [isSeparator_foldDigit]
    simpa using (List.mem_filter.mp h).2
  simp only [isSeparator, Bool.or_eq_false_iff] at hsep
  exact hsep.1.1.1.1.1

/-- A text is normalized by dropping, then folding. -/
theorem normalizeUid_eq (raw : String) :
    normalizeUid raw = String.ofList ((kept raw).map foldDigit) := by
  have hfilter : (raw.toList.map foldDigit).filter (fun c => !isSeparator c) =
      (kept raw).map foldDigit := by
    rw [List.filter_map]
    congr 1
    apply List.filter_congr
    intro c _
    rw [Function.comp_apply, isSeparator_foldDigit]
  rw [normalizeUid, hfilter, strip_eq_self]
  intro c hc
  obtain ⟨d, hd, rfl⟩ := List.mem_map.mp hc
  exact isSpace_of_mem_kept hd

/-- Normalizing twice is normalizing once. -/
theorem normalizeUid_normalizeUid (raw : String) :
    normalizeUid (normalizeUid raw) = normalizeUid raw := by
  have hkept : kept (normalizeUid raw) = (kept raw).map foldDigit := by
    rw [kept, normalizeUid_eq, String.toList_ofList, List.filter_eq_self]
    intro c hc
    obtain ⟨d, hd, rfl⟩ := List.mem_map.mp hc
    rw [isSeparator_foldDigit]
    exact (List.mem_filter.mp hd).2
  rw [normalizeUid_eq (normalizeUid raw), hkept, normalizeUid_eq, List.map_map]
  congr 1
  apply List.map_congr_left
  intro c _
  exact foldDigit_foldDigit c

theorem isDecimalDigit_foldDigit (c : Char) : isDecimalDigit (foldDigit c) = isDecimalDigit c := by
  by_cases h : KnownDigit c
  · rw [(digitValue?_known h).2, isDecimalDigit_of_isDigit (isDigit_foldDigit.mpr h)]
  · rw [foldDigit_of_not_known h]

/-- A normalized text is valid when nine decimal digits are kept, of whatever script. -/
theorem isValid_normalizeUid_iff {raw : String} :
    isValidBitunixUid (normalizeUid raw) = true ↔
      (kept raw).length = 9 ∧ ∀ c ∈ kept raw, isDecimalDigit c = true := by
  have hall : ((kept raw).map foldDigit).all isDecimalDigit = true ↔
      ∀ c ∈ kept raw, isDecimalDigit c = true := by
    simp only [List.all_eq_true, List.forall_mem_map, isDecimalDigit_foldDigit]
  have hline : ((kept raw).map foldDigit).getLast? ≠ some '\n' := by
    intro hlast
    obtain ⟨c, hc, heq⟩ := List.mem_map.mp (List.mem_of_getLast? hlast)
    have hspace := isSpace_of_mem_kept hc
    rw [heq] at hspace
    exact absurd hspace (by decide)
  rw [isValidBitunixUid, normalizeUid_eq, String.toList_ofList]
  simp only [Bool.or_eq_true, Bool.and_eq_true, beq_iff_eq, hline, and_false, false_and, or_false,
    List.length_map, hall]

/-! ## One account, one UID -/

/-- Exactly nine characters are kept, each a known digit. -/
def SpellsUid (raw : String) : Prop :=
  (kept raw).length = 9 ∧ ∀ c ∈ kept raw, KnownDigit c

/-- Nine ASCII digits. -/
def NineDigits (uid : String) : Prop :=
  uid.toList.length = 9 ∧ ∀ c ∈ uid.toList, c.isDigit = true

/-- Nine decimal digits are kept, one of them of a script that is not folded. -/
def OtherScript (raw : String) : Prop :=
  (kept raw).length = 9 ∧ (∀ c ∈ kept raw, isDecimalDigit c = true) ∧
    ∃ c ∈ kept raw, ¬ KnownDigit c

/-- A text is accepted just when it spells a UID, and is then normalized to ASCII. -/
def AcceptedRightly (raw : String) : Prop :=
  (isValidBitunixUid (normalizeUid raw) = true ↔ SpellsUid raw) ∧
    (isValidBitunixUid (normalizeUid raw) = true → NineDigits (normalizeUid raw))

theorem nineDigits_of_spellsUid {raw : String} (h : SpellsUid raw) :
    NineDigits (normalizeUid raw) := by
  rw [NineDigits, normalizeUid_eq, String.toList_ofList, List.length_map]
  refine ⟨h.1, ?_⟩
  intro c hc
  obtain ⟨d, hd, rfl⟩ := List.mem_map.mp hc
  exact isDigit_foldDigit.mpr (h.2 d hd)

theorem acceptedRightly_iff (raw : String) : AcceptedRightly raw ↔ ¬ OtherScript raw := by
  constructor
  · rintro ⟨hiff, -⟩ ⟨hlen, hdigits, c, hc, hunknown⟩
    exact hunknown ((hiff.mp (isValid_normalizeUid_iff.mpr ⟨hlen, hdigits⟩)).2 c hc)
  · intro h
    have hspells : isValidBitunixUid (normalizeUid raw) = true → SpellsUid raw := by
      intro hvalid
      obtain ⟨hlen, hdigits⟩ := isValid_normalizeUid_iff.mp hvalid
      refine ⟨hlen, ?_⟩
      intro c hc
      by_contra hunknown
      exact h ⟨hlen, hdigits, c, hc, hunknown⟩
    refine ⟨⟨hspells, ?_⟩, fun hvalid => nineDigits_of_spellsUid (hspells hvalid)⟩
    intro hspelled
    exact isValid_normalizeUid_iff.mpr
      ⟨hspelled.1, fun c hc => (digitValue?_known (hspelled.2 c hc)).2⟩

/-- A decimal digit is below ten. -/
theorem digitOf_lt {c : Char} : digitOf c < 10 := by
  unfold digitOf digitValue?
  cases hfind : digitZeros.find? fun z => z ≤ c.toNat && c.toNat < z + 10 with
  | none =>
    show 0 < 10
    omega
  | some z =>
    have hz := List.find?_some hfind
    simp only [Bool.and_eq_true, decide_eq_true_eq] at hz
    show c.toNat - z < 10
    omega

/-- As many digits that spell the same number are the same digits. -/
theorem map_digitOf_eq {ds es : List Char} (hlen : ds.length = es.length)
    (h : digitsValue ds = digitsValue es) : ds.map digitOf = es.map digitOf := by
  induction ds using List.reverseRecOn generalizing es with
  | nil =>
    have hnil : es = [] := List.length_eq_zero_iff.mp hlen.symm
    rw [hnil]
  | append_singleton ds c ih =>
    obtain ⟨es', e, rfl⟩ : ∃ es' e, es = es' ++ [e] := by
      have hne : es ≠ [] := by
        rintro rfl
        simp at hlen
      exact ⟨_, _, (List.dropLast_append_getLast hne).symm⟩
    rw [digitsValue_append_singleton, digitsValue_append_singleton] at h
    change 10 * _ + digitOf c = 10 * _ + digitOf e at h
    have hc := digitOf_lt (c := c)
    have he := digitOf_lt (c := e)
    have hlen' : ds.length = es'.length := by simpa using hlen
    have hlast : digitOf c = digitOf e := by omega
    rw [List.map_append, List.map_append, ih hlen' (by omega), List.map_singleton,
      List.map_singleton, hlast]

/-- Position by position, two digits that are folded, or one character twice. -/
def SameScripts (raw raw' : String) : Prop :=
  List.Forall₂ (fun c d => (KnownDigit c ∧ KnownDigit d) ∨ c = d) (kept raw) (kept raw')

theorem map_eq_map_iff_forall₂ {α β : Type} (f g : α → β) (l l' : List α) :
    l.map f = l'.map g ↔ List.Forall₂ (fun a b => f a = g b) l l' := by
  rw [← List.forall₂_eq_eq_eq, List.forall₂_map_left_iff, List.forall₂_map_right_iff]

/-- Two accepted texts of one number. -/
theorem normalizeUid_eq_iff {raw raw' : String}
    (h : isValidBitunixUid (normalizeUid raw) = true)
    (h' : isValidBitunixUid (normalizeUid raw') = true)
    (hnumber : digitsValue (kept raw) = digitsValue (kept raw')) :
    normalizeUid raw = normalizeUid raw' ↔ SameScripts raw raw' := by
  have hlen := (isValid_normalizeUid_iff.mp h).1.trans (isValid_normalizeUid_iff.mp h').1.symm
  have hdigits := (map_eq_map_iff_forall₂ _ _ _ _).mp (map_digitOf_eq hlen hnumber)
  rw [normalizeUid_eq, normalizeUid_eq, String.ofList_inj, map_eq_map_iff_forall₂]
  constructor
  · intro hfold
    exact hdigits.mp (fun c d hcd hsame => (foldDigit_eq_iff hcd).mp hsame) hfold
  · intro hsame
    exact hdigits.mp (fun c d hcd hcase => (foldDigit_eq_iff hcd).mpr hcase) hsame

/-- Acceptance is right for a text exactly when it is not nine digits of which one is of
    another script, and two accepted texts of one number are normalized alike exactly when
    they agree on such digits. -/
theorem uid_is_one_string (raw : String) :
    (AcceptedRightly raw ↔ ¬ OtherScript raw) ∧
    ∀ raw', isValidBitunixUid (normalizeUid raw) = true →
      isValidBitunixUid (normalizeUid raw') = true →
      digitsValue (kept raw) = digitsValue (kept raw') →
      (normalizeUid raw = normalizeUid raw' ↔ SameScripts raw raw') := by
  refine ⟨acceptedRightly_iff raw, ?_⟩
  intro raw' h h' hnumber
  exact normalizeUid_eq_iff h h' hnumber

/-- A UID in Persian digits with separators, and the same in ASCII. -/
theorem persian_uid_is_one_string :
    AcceptedRightly "۱۲۳ ۴۵۶-789" ∧ normalizeUid "۱۲۳ ۴۵۶-789" = normalizeUid "123456789" := by
  have hkept : kept "۱۲۳ ۴۵۶-789" = ['۱', '۲', '۳', '۴', '۵', '۶', '7', '8', '9'] := by
    decide +kernel
  have hkept' : kept "123456789" = ['1', '2', '3', '4', '5', '6', '7', '8', '9'] := by
    decide +kernel
  have hknown : ∀ c ∈ kept "۱۲۳ ۴۵۶-789", KnownDigit c := by
    rw [hkept]
    simp only [List.forall_mem_cons, List.not_mem_nil, IsEmpty.forall_iff, implies_true, and_true]
    decide
  have hvalid : isValidBitunixUid (normalizeUid "۱۲۳ ۴۵۶-789") = true := by decide +kernel
  have hvalid' : isValidBitunixUid (normalizeUid "123456789") = true := by decide +kernel
  have hnumber : digitsValue (kept "۱۲۳ ۴۵۶-789") = digitsValue (kept "123456789") := by
    rw [hkept, hkept']
    simp [digitsValue, digitValue?, digitZeros]
  constructor
  · apply (uid_is_one_string _).1.mpr
    rintro ⟨-, -, c, hc, hunknown⟩
    exact hunknown (hknown c hc)
  · apply ((uid_is_one_string _).2 _ hvalid hvalid' hnumber).mpr
    rw [SameScripts, hkept, hkept']
    repeat' apply List.Forall₂.cons
    all_goals first | exact List.Forall₂.nil | exact .inl (by decide)

/-- Fullwidth digits are accepted and not folded: a second spelling of one account. -/
theorem fullwidth_uid_is_another_string :
    ¬ AcceptedRightly "１２３４５６７８９" ∧
    isValidBitunixUid (normalizeUid "１２３４５６７８９") = true ∧
    isValidBitunixUid (normalizeUid "123456789") = true ∧
    digitsValue (kept "１２３４５６７８９") = digitsValue (kept "123456789") ∧
    normalizeUid "１２３４５６７８９" ≠ normalizeUid "123456789" := by
  have hvalid : isValidBitunixUid (normalizeUid "１２３４５６７８９") = true := by decide +kernel
  refine ⟨?_, hvalid, by decide +kernel, by decide +kernel, by decide +kernel⟩
  rintro ⟨-, hascii⟩
  have hfirst : '１' ∈ (normalizeUid "１２３４５６７８９").toList := by decide +kernel
  exact absurd ((hascii hvalid).2 '１' hfirst) (by decide)

end VipChannel

/-
  VipChannel.Lib.Numerals

  Writing a decimal number and reading it back: the digits of a natural number, what
  the constructor reads off a numeral's parts, and that it reads every finite number
  back from the text `str` gives it.
-/
import VipChannel.Lib.Rounding

namespace VipChannel.Lib

/-! ## Digits -/

theorem isDigit_iff {c : Char} : c.isDigit = true ↔ 0x30 ≤ c.toNat ∧ c.toNat ≤ 0x39 := by
  rw [Char.isDigit, Bool.and_eq_true, decide_eq_true_eq, decide_eq_true_eq]
  exact Iff.rfl

theorem digitValue?_of_isDigit {c : Char} (h : c.isDigit = true) :
    digitValue? c = some (c.toNat - 0x30) := by
  have hc := isDigit_iff.mp h
  have hfind : digitZeros.find? (fun z => z ≤ c.toNat && c.toNat < z + 10) = some 0x30 := by
    rw [digitZeros, List.find?_cons_of_pos]
    simp only [Bool.and_eq_true, decide_eq_true_eq]
    omega
  rw [digitValue?, hfind]
  rfl

theorem isDecimalDigit_of_isDigit {c : Char} (h : c.isDigit = true) : isDecimalDigit c = true := by
  rw [isDecimalDigit, digitValue?_of_isDigit h]
  rfl

theorem digitsValue_append_singleton (ds : List Char) (c : Char) :
    digitsValue (ds ++ [c]) = 10 * digitsValue ds + (digitValue? c).getD 0 := by
  rw [digitsValue, List.foldl_append]
  rfl

/-- The digits of `n`, as `str(n)` writes them. -/
def digits (n : ℕ) : List Char :=
  (toString n).toList

theorem digits_eq (n : ℕ) : digits n = Nat.toDigits 10 n :=
  Nat.toList_repr

theorem digits_of_lt {n : ℕ} (h : n < 10) : digits n = [n.digitChar] := by
  rw [digits_eq, Nat.toDigits_of_lt_base h]

theorem digits_step {n : ℕ} (h : 10 ≤ n) :
    digits n = digits (n / 10) ++ [(n % 10).digitChar] := by
  rw [digits_eq, digits_eq, Nat.toDigits_of_base_le (by norm_num) h]

theorem digits_ne_nil (n : ℕ) : digits n ≠ [] := by
  rw [digits_eq]
  exact Nat.toDigits_ne_nil

theorem isDigit_of_mem_digits {n : ℕ} {c : Char} (h : c ∈ digits n) : c.isDigit = true := by
  rw [digits_eq] at h
  exact Nat.isDigit_of_mem_toDigits (by norm_num) (by norm_num) h

theorem digitValue_digitChar {d : ℕ} (h : d < 10) : (digitValue? d.digitChar).getD 0 = d := by
  have hdigit : d.digitChar.isDigit = true := by
    rw [Nat.isDigit_digitChar, decide_eq_true h]
  rw [digitValue?_of_isDigit hdigit, Nat.toNat_digitChar_of_lt_ten h]
  simp

/-- The digits of a number spell it. -/
theorem digitsValue_digits (n : ℕ) : digitsValue (digits n) = n := by
  induction n using Nat.strong_induction_on with
  | _ n ih =>
    by_cases h : n < 10
    · rw [digits_of_lt h, ← List.nil_append [n.digitChar], digitsValue_append_singleton,
        digitValue_digitChar h]
      show 10 * 0 + n = n
      omega
    · rw [digits_step (not_lt.mp h), digitsValue_append_singleton,
        ih (n / 10) (by omega), digitValue_digitChar (Nat.mod_lt n (by norm_num))]
      omega

/-- `s.strip` of the characters of a class. -/
def stripOf (p : Char → Bool) (s : List Char) : List Char :=
  ((s.dropWhile p).reverse.dropWhile p).reverse

/-- There is nothing of the class to strip. -/
theorem stripOf_eq_self {p : Char → Bool} {s : List Char} (h : ∀ c ∈ s, p c = false) :
    stripOf p s = s := by
  have hstart : ∀ l : List Char, (∀ c ∈ l, p c = false) → l.dropWhile p = l := by
    intro l hl
    cases l with
    | nil => rfl
    | cons c l => rw [List.dropWhile_cons_of_neg (by simp [hl c (by simp)])]
  rw [stripOf, hstart s h, hstart s.reverse, List.reverse_reverse]
  intro c hc
  exact h c (List.mem_reverse.mp hc)

/-- A text without white space is its own `strip`. -/
theorem strip_eq_self {s : List Char} (h : ∀ c ∈ s, isSpace c = false) : strip s = s :=
  stripOf_eq_self h

/-! ## Reading the parts of a numeral -/

/-- A run of digits ends where the next character is none. -/
theorem span_digits {ds rest : List Char} (hds : ∀ c ∈ ds, c.isDigit = true)
    (hrest : ∀ c ∈ rest.head?, isDecimalDigit c = false) :
    (ds ++ rest).takeWhile isDecimalDigit = ds ∧ (ds ++ rest).dropWhile isDecimalDigit = rest := by
  have hall : ∀ c ∈ ds, isDecimalDigit c = true := fun c hc => isDecimalDigit_of_isDigit (hds c hc)
  rw [List.takeWhile_append_of_pos hall, List.dropWhile_append_of_pos hall]
  cases rest with
  | nil => simp
  | cons c rest =>
    have hc := hrest c rfl
    simp [hc]

namespace Decimal

/-- A point and the digits behind it, if there are any. -/
def fraction (frac : List Char) : List Char :=
  if frac = [] then [] else '.' :: frac

theorem number?_parts (negative : Bool) {whole frac exp : List Char} {k : ℤ}
    (hne : whole ≠ []) (hwhole : ∀ c ∈ whole, c.isDigit = true)
    (hfrac : ∀ c ∈ frac, c.isDigit = true) (hexp : exponent? exp = some k)
    (hhead : ∀ c ∈ exp.head?, c = 'E') :
    number? negative (whole ++ (fraction frac ++ exp)) =
      construct? negative (digitsValue (whole ++ frac)) (k - frac.length) := by
  have hexp' : ∀ c ∈ exp.head?, isDecimalDigit c = false := by
    intro c hc
    rw [hhead c hc]
    decide
  have hrest : ∀ c ∈ (fraction frac ++ exp).head?, isDecimalDigit c = false := by
    unfold fraction
    split_ifs with h
    · exact hexp'
    · intro c hc
      cases hc
      decide
  obtain ⟨htake, hdrop⟩ := span_digits hwhole hrest
  unfold number?
  simp only [htake, hdrop]
  by_cases hnone : frac = []
  · subst hnone
    have hstart : fraction [] ++ exp = exp := rfl
    rw [hstart]
    cases exp with
    | nil =>
      rw [if_neg (fun h => hne h.1)]
      simp only [hexp, Option.bind_eq_bind, Option.bind_some]
    | cons c exp =>
      have hc : c = 'E' := hhead c rfl
      subst hc
      rw [if_neg (fun h => hne h.1)]
      show (exponent? ('E' :: exp)).bind (fun e => construct? negative
        (digitsValue (whole ++ [])) (e - (0 : ℕ))) = _
      rw [hexp]
      rfl
  · obtain ⟨htake', hdrop'⟩ := span_digits hfrac hexp'
    have hstart : fraction frac ++ exp = '.' :: (frac ++ exp) := by
      rw [fraction, if_neg hnone, List.cons_append]
    rw [hstart]
    simp only [htake', hdrop']
    rw [if_neg (fun h => hne h.1)]
    simp only [hexp, Option.bind_eq_bind, Option.bind_some]

/-- The exponent `str` writes. -/
theorem exponent?_digits (n : ℕ) :
    exponent? ('E' :: '+' :: digits n) = some (n : ℤ) ∧
      exponent? ('E' :: '-' :: digits n) = some (-(n : ℤ)) := by
  have hall : (digits n).all isDecimalDigit = true := by
    rw [List.all_eq_true]
    exact fun c hc => isDecimalDigit_of_isDigit (isDigit_of_mem_digits hc)
  constructor <;> simp [exponent?, hall, digits_ne_nil, digitsValue_digits]

/-! ## The parts `str` writes -/

theorem toList_toString_nonneg {z : ℤ} (h : 0 ≤ z) : (toString z).toList = digits z.toNat := by
  obtain ⟨n, rfl⟩ := Int.eq_ofNat_of_zero_le h
  rfl

theorem toList_toString_neg {z : ℤ} (h : z < 0) :
    (toString z).toList = '-' :: digits (-z).toNat := by
  obtain ⟨n, rfl⟩ := Int.eq_negSucc_of_lt_zero h
  show ("-" ++ toString (n + 1)).toList = _
  rw [String.toList_append]
  rfl

theorem digitsValue_zeros (n : ℕ) (ds : List Char) :
    digitsValue (List.replicate n '0' ++ ds) = digitsValue ds := by
  induction n with
  | zero => rfl
  | succ n ih =>
    rw [List.replicate_succ, List.cons_append]
    exact ih

theorem isDigit_of_mem_zeros {n : ℕ} {ds : List Char} (hds : ∀ c ∈ ds, c.isDigit = true) :
    ∀ c ∈ List.replicate n '0' ++ ds, c.isDigit = true := by
  intro c hc
  rcases List.mem_append.mp hc with h | h
  · rw [List.eq_of_mem_replicate h]
    rfl
  · exact hds c h

/-- The parts of a numeral that spells `coeff · 10^exp`. -/
structure Spells (coeff : ℕ) (exp : ℤ) (whole frac exponent : List Char) : Prop where
  nonempty : whole ≠ []
  wholeDigits : ∀ c ∈ whole, c.isDigit = true
  fracDigits : ∀ c ∈ frac, c.isDigit = true
  mark : ∀ c ∈ exponent.head?, c = 'E'
  marks : ∀ c ∈ exponent, c.isDigit = true ∨ c ∈ ['E', '+', '-']
  spelled : digitsValue (whole ++ frac) = coeff
  shifted : ∃ k, exponent? exponent = some k ∧ k - frac.length = exp

/-- Splitting the digits of a coefficient at a point. -/
theorem spells_split {c n : ℕ} {e k : ℤ} {exponent : List Char} (hn : 0 < n)
    (hmark : ∀ d ∈ exponent.head?, d = 'E')
    (hmarks : ∀ d ∈ exponent, d.isDigit = true ∨ d ∈ ['E', '+', '-'])
    (hexp : exponent? exponent = some k)
    (hk : k - ((digits c).length - n : ℕ) = e) :
    Spells c e ((digits c).take n) ((digits c).drop n) exponent where
  nonempty := by
    intro h
    rcases List.take_eq_nil_iff.mp h with h | h
    · omega
    · exact digits_ne_nil c h
  wholeDigits _ hd := isDigit_of_mem_digits (List.mem_of_mem_take hd)
  fracDigits _ hd := isDigit_of_mem_digits (List.mem_of_mem_drop hd)
  mark := hmark
  marks := hmarks
  spelled := by rw [List.take_append_drop, digitsValue_digits]
  shifted := ⟨k, hexp, by rw [List.length_drop]; exact hk⟩

theorem fraction_of_ne_nil {frac : List Char} (h : frac ≠ []) : fraction frac = '.' :: frac := by
  rw [fraction, if_neg h]

theorem drop_ne_nil {ds : List Char} {n : ℕ} (h : n < ds.length) : ds.drop n ≠ [] := by
  intro hnil
  have hle := List.drop_eq_nil_iff.mp hnil
  omega

/-- What `str` writes of a coefficient and an exponent after the sign. -/
theorem text_sign (s : Bool) (c : ℕ) (e : ℤ) :
    (text (.finite s c e)).toList =
      (if s then ['-'] else []) ++ (text (.finite false c e)).toList := by
  cases s with
  | false => rfl
  | true =>
    simp only [text, if_true, Bool.false_eq_true, if_false, String.toList_append]
    simp

/-- Without an exponent: the point stands among the digits, or zeros lead up to them. -/
theorem text_parts_plain {c : ℕ} {e : ℤ} (he : e ≤ 0) (hleft : -6 < e + (digits c).length) :
    ∃ whole frac, Spells c e whole frac [] ∧
      (text (.finite false c e)).toList = whole ++ (fraction frac ++ []) := by
  have hpos : 0 < (digits c).length := List.length_pos_of_ne_nil (digits_ne_nil c)
  have hdigits : (toString c).toList = digits c := rfl
  simp only [text, hdigits, he, hleft, and_self, if_true]
  by_cases hsmall : e + (digits c).length ≤ 0
  · have hne : List.replicate (-(e + (digits c).length)).toNat '0' ++ digits c ≠ [] := by
      simp [digits_ne_nil]
    refine ⟨['0'], List.replicate (-(e + (digits c).length)).toNat '0' ++ digits c, ?_, ?_⟩
    · constructor
      · simp
      · simp
      · exact isDigit_of_mem_zeros fun _ => isDigit_of_mem_digits
      · simp
      · simp
      · have hzero := digitsValue_zeros ((-(e + (digits c).length)).toNat + 1) (digits c)
        rw [List.replicate_succ, List.cons_append, digitsValue_digits] at hzero
        exact hzero
      · refine ⟨0, rfl, ?_⟩
        rw [List.length_append, List.length_replicate]
        omega
    · rw [if_pos hsmall, fraction_of_ne_nil hne]
      simp [String.toList_append]
  rw [if_neg hsmall]
  by_cases hint : e = 0
  · refine ⟨digits c, [], ?_, ?_⟩
    · constructor
      · exact digits_ne_nil c
      · exact fun _ => isDigit_of_mem_digits
      · simp
      · simp
      · simp
      · rw [List.append_nil, digitsValue_digits]
      · exact ⟨0, rfl, by rw [hint]; rfl⟩
    · rw [if_pos (show ((digits c).length : ℤ) ≤ e + (digits c).length by omega), hint]
      simp [fraction]
  · refine ⟨_, _, spells_split (n := (e + (digits c).length).toNat) (k := 0) (by omega)
      (by simp) (by simp) rfl (by omega), ?_⟩
    rw [if_neg (show ¬ ((digits c).length : ℤ) ≤ e + (digits c).length by omega),
      fraction_of_ne_nil (drop_ne_nil (by omega))]
    simp [String.toList_append]

theorem marks_digits (sign : Char) (h : sign ∈ ['E', '+', '-']) (n : ℕ) :
    ∀ d ∈ 'E' :: sign :: digits n, d.isDigit = true ∨ d ∈ ['E', '+', '-'] := by
  intro d hd
  rcases List.mem_cons.mp hd with rfl | hd
  · exact .inr (by simp)
  rcases List.mem_cons.mp hd with rfl | hd
  · exact .inr h
  · exact .inl (isDigit_of_mem_digits hd)

/-- With an exponent: one digit stands before the point. -/
theorem text_parts_scientific {c : ℕ} {e : ℤ} (h : ¬ (e ≤ 0 ∧ -6 < e + (digits c).length)) :
    ∃ whole frac exponent, Spells c e whole frac exponent ∧
      (text (.finite false c e)).toList = whole ++ (fraction frac ++ exponent) := by
  have hpos : 0 < (digits c).length := List.length_pos_of_ne_nil (digits_ne_nil c)
  have hdigits : (toString c).toList = digits c := rfl
  simp only [text, hdigits, h, if_false]
  -- The exponent as it is written, and as it is read.
  obtain ⟨exponent, htext, hread, hmark, hmarks⟩ : ∃ exponent,
      (if e + (digits c).length = 1 then ""
        else if 1 < e + ↑(digits c).length then "E+" ++ toString (e + ↑(digits c).length - 1)
        else "E" ++ toString (e + ↑(digits c).length - 1)).toList = exponent ∧
      exponent? exponent = some (e + (digits c).length - 1) ∧
      (∀ d ∈ exponent.head?, d = 'E') ∧
      ∀ d ∈ exponent, d.isDigit = true ∨ d ∈ ['E', '+', '-'] := by
    refine ⟨_, rfl, ?_⟩
    rw [if_neg (by omega)]
    split_ifs with hbig
    · rw [String.toList_append, toList_toString_nonneg (by omega)]
      refine ⟨(exponent?_digits _).1.trans ?_, by simp, ?_⟩
      · rw [Int.toNat_of_nonneg (by omega)]
      · exact marks_digits '+' (by simp) _
    · rw [String.toList_append, toList_toString_neg (by omega)]
      refine ⟨(exponent?_digits _).2.trans ?_, by simp, ?_⟩
      · rw [Int.toNat_of_nonneg (by omega), neg_neg]
      · exact marks_digits '-' (by simp) _
  refine ⟨_, _, exponent, spells_split (n := 1) (by omega) hmark hmarks hread (by omega), ?_⟩
  rw [if_neg (show ¬ (1 : ℤ) ≤ 0 by omega), String.toList_append, htext]
  by_cases hone : (digits c).length ≤ 1
  · have hlen : (digits c).length = 1 := by omega
    rw [if_pos (show ((digits c).length : ℤ) ≤ 1 by omega), List.take_of_length_le hone,
      List.drop_eq_nil_of_le hone, hlen]
    simp [fraction]
  · rw [if_neg (show ¬ ((digits c).length : ℤ) ≤ 1 by omega),
      fraction_of_ne_nil (drop_ne_nil (not_le.mp hone))]
    simp [String.toList_append]

/-- What `str` writes of a number without a sign: the parts of a numeral. -/
theorem text_parts (c : ℕ) (e : ℤ) : ∃ whole frac exponent,
    Spells c e whole frac exponent ∧
      (text (.finite false c e)).toList = whole ++ (fraction frac ++ exponent) := by
  by_cases h : e ≤ 0 ∧ -6 < e + (digits c).length
  · obtain ⟨whole, frac, hspells, htext⟩ := text_parts_plain h.1 h.2
    exact ⟨whole, frac, [], hspells, htext⟩
  · exact text_parts_scientific h

/-! ## Reading back what `str` wrote -/

theorem isDigit_bounds {c : Char} (h : c.isDigit = true) :
    isSpace c = false ∧ c ≠ '_' ∧ c ≠ '+' ∧ c ≠ '-' ∧ c.toLower = c := by
  have hc := isDigit_iff.mp h
  have hne : ∀ d : Char, ¬ (0x30 ≤ d.toNat ∧ d.toNat ≤ 0x39) → c ≠ d := by
    intro d hd hcd
    rw [hcd] at hc
    exact hd hc
  refine ⟨?_, hne _ (by decide), hne _ (by decide), hne _ (by decide), ?_⟩
  · simp only [isSpace, Bool.or_eq_false_iff, Bool.and_eq_false_iff, decide_eq_false_iff_not,
      beq_eq_false_iff_ne]
    omega
  · rw [Char.toLower, dif_neg]
    rintro ⟨hge, -⟩
    have hlow : 0x41 ≤ c.toNat := hge
    omega

/-- Nothing to strip and no underscore to drop. -/
theorem filter_strip {s : List Char} (h : ∀ c ∈ s, isSpace c = false ∧ c ≠ '_') :
    (strip s).filter (· ≠ '_') = s := by
  rw [strip_eq_self fun c hc => (h c hc).1, List.filter_eq_self]
  intro c hc
  simpa using (h c hc).2

/-- A text that starts with a digit is read as a number. -/
theorem unsigned?_of_isDigit (negative : Bool) {c : Char} {s : List Char} (h : c.isDigit = true) :
    unsigned? negative (c :: s) = number? negative (c :: s) := by
  have hlower := (isDigit_bounds h).2.2.2.2
  have hne : ∀ d : Char, d.isDigit = false → c ≠ d := by
    intro d hd hcd
    rw [hcd, hd] at h
    cases h
  have hi := hne 'i' (by decide)
  have hn := hne 'n' (by decide)
  have hs := hne 's' (by decide)
  simp only [unsigned?, List.map_cons, hlower]
  rw [if_neg, if_neg, if_neg]
  · intro heq
    exact hs (List.cons.inj heq).1
  · intro heq
    exact hn (List.cons.inj heq).1
  · rintro (heq | heq)
    · exact hi (List.cons.inj heq).1
    · exact hi (List.cons.inj heq).1

/-- The characters of a numeral. -/
theorem Spells.characters {c : ℕ} {e : ℤ} {whole frac exponent : List Char}
    (h : Spells c e whole frac exponent) :
    ∀ d ∈ whole ++ (fraction frac ++ exponent),
      d.isDigit = true ∨ d ∈ ['.', 'E', '+', '-'] := by
  intro d hd
  rcases List.mem_append.mp hd with hd | hd
  · exact .inl (h.wholeDigits d hd)
  rcases List.mem_append.mp hd with hd | hd
  · unfold fraction at hd
    split_ifs at hd
    · cases hd
    · rcases List.mem_cons.mp hd with rfl | hd
      · exact .inr List.mem_cons_self
      · exact .inl (h.fracDigits d hd)
  · exact (h.marks d hd).imp_right (List.mem_cons_of_mem _)

theorem Spells.clean {c : ℕ} {e : ℤ} {whole frac exponent : List Char}
    (h : Spells c e whole frac exponent) :
    ∀ d ∈ whole ++ (fraction frac ++ exponent), isSpace d = false ∧ d ≠ '_' := by
  intro d hd
  rcases h.characters d hd with hdigit | hd
  · exact ⟨(isDigit_bounds hdigit).1, (isDigit_bounds hdigit).2.1⟩
  · simp only [List.mem_cons, List.not_mem_nil, or_false] at hd
    rcases hd with rfl | rfl | rfl | rfl <;> decide

theorem Spells.number? {c : ℕ} {e : ℤ} {whole frac exponent : List Char}
    (h : Spells c e whole frac exponent) (negative : Bool) :
    number? negative (whole ++ (fraction frac ++ exponent)) = construct? negative c e := by
  obtain ⟨k, hk, he⟩ := h.shifted
  rw [number?_parts negative h.nonempty h.wholeDigits h.fracDigits hk h.mark, h.spelled, he]

/-- The constructor reads a finite number back from the text of it. -/
theorem ofString?_text (s : Bool) (c : ℕ) (e : ℤ) :
    ofString? (text (.finite s c e)) = construct? s c e := by
  obtain ⟨whole, frac, exponent, hspells, htext⟩ := text_parts c e
  have hnumber := hspells.number? s
  have hclean := hspells.clean
  have hminus : isSpace '-' = false ∧ '-' ≠ '_' := by decide
  have hsign : ∀ d ∈ (if s then ['-'] else []), isSpace d = false ∧ d ≠ '_' := by
    intro d hd
    cases s with
    | false => cases hd
    | true =>
      rw [List.mem_singleton.mp hd]
      exact hminus
  rw [ofString?, text_sign, htext, filter_strip]
  swap
  · intro d hd
    rcases List.mem_append.mp hd with hd | hd
    · exact hsign d hd
    · exact hclean d hd
  obtain ⟨d, ds, rfl⟩ := List.exists_cons_of_ne_nil hspells.nonempty
  have hd := hspells.wholeDigits d (List.mem_cons_self ..)
  have hbounds := isDigit_bounds hd
  rw [← hnumber]
  rw [List.cons_append]
  cases s with
  | true => exact unsigned?_of_isDigit true hd
  | false =>
    rw [← unsigned?_of_isDigit false hd, if_neg (by decide), List.nil_append]
    split
    · next heq => exact absurd (List.cons.inj heq).1 hbounds.2.2.1
    · next heq => exact absurd (List.cons.inj heq).1 hbounds.2.2.2.1
    · rfl

end Decimal

end VipChannel.Lib

/-
  VipChannel.Lib.Uuid

  Reading a UUID from a text, and the text that `str` gives it: what is written is read back.

  The constructor takes more than that: braces, the prefixes of a URN, hyphens anywhere, and
  every numeral of 32 characters that `int(text, 16)` takes.
-/
import VipChannel.Lib.Numerals

namespace VipChannel.Lib

/-! ## `int(text, 16)` -/

/-- The value of a digit to base 16. -/
def hexValue? (c : Char) : Option Nat :=
  match digitValue? c with
  | some d => some d
  | none =>
    if 0x61 ≤ c.toNat ∧ c.toNat ≤ 0x66 then some (c.toNat - 0x61 + 10)
    else if 0x41 ≤ c.toNat ∧ c.toNat ≤ 0x46 then some (c.toNat - 0x41 + 10)
    else none

/-- What `int` skips on either side.  The ASCII separators are space to `str` alone. -/
def isIntSpace (c : Char) : Bool :=
  isSpace c && !(0x1C ≤ c.toNat && c.toNat ≤ 0x1F)

/-- Digits with single underscores between them.  A digit has to follow where `due` is set:
    at the start, and after an underscore. -/
def hexDigits? (due : Bool) (n : Nat) : List Char → Option Nat
  | [] => if due then none else some n
  | c :: s =>
    if c = '_' then if due then none else hexDigits? true n s
    else (hexValue? c).bind fun d => hexDigits? false (16 * n + d) s

/-- Behind `0x`, and the underscore that may follow it. -/
def afterMarker : List Char → List Char
  | z :: x :: s =>
    if digitValue? z = some 0 ∧ (x = 'x' ∨ x = 'X') then
      if s.head? = some '_' then s.tail else s
    else z :: x :: s
  | s => s

/-- `int(text, 16)`. -/
def hexInt? (s : List Char) : Option Int :=
  match stripOf isIntSpace s with
  | '-' :: s => (hexDigits? true 0 (afterMarker s)).map fun n => -Int.ofNat n
  | '+' :: s => (hexDigits? true 0 (afterMarker s)).map Int.ofNat
  | s => (hexDigits? true 0 (afterMarker s)).map Int.ofNat

/-! ## `UUID(text)` -/

/-- `s.replace(pattern, "")`.  Of an occurrence `skip` characters are still to be dropped. -/
def erase (pattern : List Char) (skip : Nat) : List Char → List Char
  | [] => []
  | c :: s =>
    match skip with
    | k + 1 => erase pattern k s
    | 0 =>
      if pattern.isPrefixOf (c :: s) then erase pattern (pattern.length - 1) s
      else c :: erase pattern 0 s

/-- The 32 characters a UUID is read from. -/
def uuidDigits (text : String) : List Char :=
  let hex := erase ['u', 'u', 'i', 'd', ':'] 0 (erase ['u', 'r', 'n', ':'] 0 text.toList)
  (stripOf (fun c => c == '{' || c == '}') hex).filter (· ≠ '-')

/-- `UUID(text)`, by its `int`. -/
def uuid? (text : String) : Option Nat :=
  if (uuidDigits text).length = 32 then
    (hexInt? (uuidDigits text)).bind fun n => if 0 ≤ n ∧ n < 2 ^ 128 then some n.toNat else none
  else none

/-! ## `str(uuid)` -/

/-- The last `k` digits of `n` to base 16. -/
def hexText : Nat → Nat → List Char
  | 0, _ => []
  | k + 1, n => hexText k (n / 16) ++ [(n % 16).digitChar]

/-- `str(uuid)`. -/
def uuidText (u : Nat) : String :=
  let hex := hexText 32 u
  String.ofList (hex.take 8 ++ '-' :: ((hex.drop 8).take 4 ++ '-' :: ((hex.drop 12).take 4 ++
    '-' :: ((hex.drop 16).take 4 ++ '-' :: hex.drop 20))))

/-- A digit as `str` writes it. -/
def IsHex (c : Char) : Prop := ∃ d < 16, c = Nat.digitChar d

theorem length_hexText (k n : Nat) : (hexText k n).length = k := by
  induction k generalizing n with
  | zero => rfl
  | succ k ih => rw [hexText, List.length_append, ih, List.length_singleton]

theorem isHex_of_mem_hexText {k n : Nat} {c : Char} (h : c ∈ hexText k n) : IsHex c := by
  induction k generalizing n with
  | zero => cases h
  | succ k ih =>
    rcases List.mem_append.mp h with h | h
    · exact ih h
    · exact ⟨n % 16, Nat.mod_lt n (by norm_num), List.mem_singleton.mp h⟩

/-- None of the characters that mean something else to the reader. -/
theorem IsHex.plain {c : Char} (h : IsHex c) :
    isIntSpace c = false ∧ c ∉ ['_', '-', '+', 'u', 'x', 'X', '{', '}'] := by
  obtain ⟨d, hd, rfl⟩ := h
  interval_cases d <;> decide

theorem IsHex.ne {c d : Char} (h : IsHex c)
    (hd : d ∈ ['_', '-', '+', 'u', 'x', 'X', '{', '}']) : c ≠ d := by
  rintro rfl
  exact h.plain.2 hd

theorem hexValue?_digitChar {d : Nat} (h : d < 16) : hexValue? d.digitChar = some d := by
  interval_cases d <;> decide

/-! ## Reading back -/

/-- Digits add to what was read before them. -/
theorem hexDigits?_hexText (n acc : Nat) (k : Nat) (s : List Char) :
    hexDigits? false acc (hexText k n ++ s) =
      hexDigits? false (acc * 16 ^ k + n % 16 ^ k) s := by
  induction k generalizing n s with
  | zero => simp [hexText, Nat.mod_one]
  | succ k ih =>
    have hlt : n % 16 < 16 := Nat.mod_lt n (by norm_num)
    have hne : (n % 16).digitChar ≠ '_' := IsHex.ne ⟨n % 16, hlt, rfl⟩ (by decide)
    have hsum : 16 * (acc * 16 ^ k + n / 16 % 16 ^ k) + n % 16 =
        acc * 16 ^ (k + 1) + n % 16 ^ (k + 1) := by
      rw [pow_succ', Nat.mod_mul]
      ring
    rw [hexText, List.append_assoc, List.singleton_append, ih, hexDigits?, if_neg hne,
      hexValue?_digitChar hlt, Option.bind_some, hsum]

/-- The pattern does not occur where its first character does not. -/
theorem erase_eq_self {c : Char} {pattern s : List Char} (h : c ∉ s) :
    erase (c :: pattern) 0 s = s := by
  induction s with
  | nil => rfl
  | cons d s ih =>
    rw [List.mem_cons, not_or] at h
    obtain ⟨hne, hs⟩ := h
    have hno : (c :: pattern).isPrefixOf (d :: s) = false := by
      simp [List.isPrefixOf, hne]
    simp only [erase, hno, Bool.false_eq_true, if_false, ih hs]

/-- A numeral of plain digits is read digit by digit. -/
theorem hexInt?_eq {s : List Char} (hs : ∀ c ∈ s, IsHex c) (hne : s ≠ []) :
    hexInt? s = (hexDigits? false 0 s).map Int.ofNat := by
  obtain ⟨c, s, rfl⟩ := List.exists_cons_of_ne_nil hne
  have hc : IsHex c := hs c List.mem_cons_self
  have hmarker : afterMarker (c :: s) = c :: s := by
    cases s with
    | nil => rfl
    | cons x s =>
      have hx : IsHex x := hs x (List.mem_cons_of_mem _ List.mem_cons_self)
      rw [afterMarker, if_neg]
      rintro ⟨-, heq | heq⟩
      · exact hx.ne (by decide) heq
      · exact hx.ne (by decide) heq
  have hdue : hexDigits? true 0 (c :: s) = hexDigits? false 0 (c :: s) := by
    rw [hexDigits?, hexDigits?, if_neg (hc.ne (by decide)), if_neg (hc.ne (by decide))]
  rw [hexInt?, stripOf_eq_self fun d hd => (hs d hd).plain.1]
  split
  · next heq => exact absurd (List.cons.inj heq).1 (hc.ne (by decide))
  · next heq => exact absurd (List.cons.inj heq).1 (hc.ne (by decide))
  · rw [hmarker, hdue]

/-- The digits of the text are those of the number. -/
theorem uuidDigits_uuidText (u : Nat) : uuidDigits (uuidText u) = hexText 32 u := by
  have hhex : ∀ c ∈ hexText 32 u, IsHex c := fun _ => isHex_of_mem_hexText
  have hchars : ∀ c ∈ (uuidText u).toList, IsHex c ∨ c = '-' := by
    intro c hc
    simp only [uuidText, String.toList_ofList, List.mem_append, List.mem_cons] at hc
    rcases hc with h | h | h | h | h | h | h | h | h
    · exact .inl (hhex c (List.mem_of_mem_take h))
    · exact .inr h
    · exact .inl (hhex c (List.mem_of_mem_drop (List.mem_of_mem_take h)))
    · exact .inr h
    · exact .inl (hhex c (List.mem_of_mem_drop (List.mem_of_mem_take h)))
    · exact .inr h
    · exact .inl (hhex c (List.mem_of_mem_drop (List.mem_of_mem_take h)))
    · exact .inr h
    · exact .inl (hhex c (List.mem_of_mem_drop h))
  have hu : 'u' ∉ (uuidText u).toList := by
    intro hmem
    rcases hchars _ hmem with h | h
    · exact h.ne (by decide) rfl
    · cases h
  have hbraces : ∀ c ∈ (uuidText u).toList, (c == '{' || c == '}') = false := by
    intro c hc
    rcases hchars c hc with h | rfl
    · simp [h.ne (d := '{') (by decide), h.ne (d := '}') (by decide)]
    · rfl
  have hkeep : ∀ l : List Char, (∀ c ∈ l, c ∈ hexText 32 u) → l.filter (· ≠ '-') = l := by
    intro l hl
    refine List.filter_eq_self.mpr fun c hc => ?_
    simpa using (hhex c (hl c hc)).ne (d := '-') (by decide)
  have hsplit : ∀ i, (hexText 32 u).drop i =
      ((hexText 32 u).drop i).take 4 ++ (hexText 32 u).drop (i + 4) := by
    intro i
    rw [← List.drop_drop, List.take_append_drop]
  have hdash : ∀ l : List Char, ('-' :: l).filter (· ≠ '-') = l.filter (· ≠ '-') := by
    intro l
    exact List.filter_cons_of_neg (by simp)
  rw [uuidDigits, erase_eq_self hu, erase_eq_self hu, stripOf_eq_self hbraces, uuidText,
    String.toList_ofList]
  simp only [List.filter_append, hdash]
  rw [hkeep _ fun _ h => List.mem_of_mem_take h,
    hkeep _ fun _ h => List.mem_of_mem_drop (List.mem_of_mem_take h),
    hkeep _ fun _ h => List.mem_of_mem_drop (List.mem_of_mem_take h),
    hkeep _ fun _ h => List.mem_of_mem_drop (List.mem_of_mem_take h),
    hkeep _ fun _ h => List.mem_of_mem_drop h, ← hsplit 16, ← hsplit 12, ← hsplit 8,
    List.take_append_drop]

/-- What `str` writes of a UUID is read as that UUID. -/
theorem uuid?_uuidText {u : Nat} (h : u < 2 ^ 128) : uuid? (uuidText u) = some u := by
  have hne : hexText 32 u ≠ [] := List.ne_nil_of_length_pos (by rw [length_hexText]; norm_num)
  have hread : hexDigits? false 0 (hexText 32 u) = some u := by
    have hall := hexDigits?_hexText u 0 32 []
    have hsmall : u % 16 ^ 32 = u := Nat.mod_eq_of_lt (by norm_num at h ⊢; exact h)
    rw [List.append_nil, hsmall, Nat.zero_mul, Nat.zero_add] at hall
    exact hall
  have hlt : Int.ofNat u < 2 ^ 128 := Int.ofNat_lt.mpr h
  rw [uuid?, uuidDigits_uuidText, if_pos (length_hexText 32 u),
    hexInt?_eq (fun _ => isHex_of_mem_hexText) hne, hread, Option.map_some, Option.bind_some,
    if_pos ⟨Int.natCast_nonneg u, hlt⟩]
  rfl

example : uuid? "urn:uuid:00000000000000000000000000-0000_F" = some 15 := by decide +kernel

end VipChannel.Lib
